import Mathlib.Logic.Basic
import SoloScreen.Native

/-!
# What an action ensures

A small logic for actions. `act.Ensures s good cut` says how `act` ends when it is run from `s`:
with a value and a state that satisfy `good`, or cut short in a state that satisfies `cut`. There
are two postconditions because an overflow does not undo anything: what was done before it stays
done, so something has to be said about the state of a run that is cut short.

* **Rules** (`ensures_bind`, `ensures_within`, …): one equivalence for each way to build an action,
  so an action without repetition is opened by rewriting.
* **Repetitions** (`Ensures.each`, `Ensures.count`, `Ensures.collect`): an invariant that speaks of
  the members still to be visited, and of what has been counted or collected.
* **Relations** (`Conforms`, `Follows`): what holds along every step of an action holds along the
  whole, with another relation, or the same one, for a run that is cut short. The two laws that are
  asked of the relations, `IsPath` and `IsPathTo`, are what it takes to put steps together.
* **Fallible actions** (`ensures_run_bind`): the same for actions that may fail for a reason. Such a
  failure is a value, not a cut.

The rules are used from the outside in: an operation is unfolded once, in the lemma that says what
it ensures, and from then on it is only spoken of through that lemma.
-/

namespace SoloScreen

namespace Action

variable {σ τ α β : Type}

/-- Run from `s`, the action ends with a value and a state that satisfy `good`, or it is cut short
in a state that satisfies `cut`. -/
def Ensures (act : Action σ α) (s : σ) (good : α → σ → Prop) (cut : σ → Prop) : Prop :=
  match act.exec s with
  | (.ok a, s') => good a s'
  | (.error _, s') => cut s'

variable {act : Action σ α} {s : σ} {good : α → σ → Prop} {cut : σ → Prop}

/-- What is ensured of a run that is known. -/
theorem ensures_of_ok {a : α} {s' : σ} (h : act.exec s = (.ok a, s')) :
    act.Ensures s good cut ↔ good a s' := by
  unfold Ensures
  rw [h]

/-- What is ensured of a run that is known to be cut short. -/
theorem ensures_of_error {e : Overflow} {s' : σ} (h : act.exec s = (.error e, s')) :
    act.Ensures s good cut ↔ cut s' := by
  unfold Ensures
  rw [h]

/-- Weaker postconditions are ensured as well. Nearly every proof of this library ends a call with
it: the lemma about the call is stated once, and what its caller needs follows from it. -/
theorem Ensures.mono {good' : α → σ → Prop} {cut' : σ → Prop} (h : act.Ensures s good cut)
    (hgood : ∀ a s', good a s' → good' a s') (hcut : ∀ s', cut s' → cut' s') :
    act.Ensures s good' cut' := by
  rcases he : act.exec s with ⟨e | a, s'⟩
  · exact (ensures_of_error he).mpr (hcut s' ((ensures_of_error he).mp h))
  · exact (ensures_of_ok he).mpr (hgood a s' ((ensures_of_ok he).mp h))

/-- What is ensured without a cut is ensured with any cut. -/
theorem Ensures.of_uncut (h : act.Ensures s good fun _ => False) : act.Ensures s good cut :=
  h.mono (fun _ _ h => h) fun _ => False.elim

/-- Equivalent postconditions are ensured together. -/
theorem ensures_congr {good' : α → σ → Prop} {cut' : σ → Prop}
    (hgood : ∀ a s', good a s' ↔ good' a s') (hcut : ∀ s', cut s' ↔ cut' s') :
    act.Ensures s good cut ↔ act.Ensures s good' cut' :=
  ⟨fun h => h.mono (fun a s' => (hgood a s').mp) fun s' => (hcut s').mp,
    fun h => h.mono (fun a s' => (hgood a s').mpr) fun s' => (hcut s').mpr⟩

/-- What is ensured twice is ensured at once; a run has only one end. -/
theorem Ensures.and {good' : α → σ → Prop} {cut' : σ → Prop} (h : act.Ensures s good cut)
    (h' : act.Ensures s good' cut') :
    act.Ensures s (fun a s' => good a s' ∧ good' a s') fun s' => cut s' ∧ cut' s' := by
  rcases he : act.exec s with ⟨e | a, s'⟩
  · rw [ensures_of_error he] at h h' ⊢
    exact ⟨h, h'⟩
  · rw [ensures_of_ok he] at h h' ⊢
    exact ⟨h, h'⟩

/-- What holds of every value and state is ensured of every action. -/
theorem Ensures.of_forall (hgood : ∀ a s', good a s') (hcut : ∀ s', cut s') :
    act.Ensures s good cut := by
  unfold Ensures
  rcases act.exec s with ⟨_ | a, s'⟩
  · exact hcut s'
  · exact hgood a s'

/-- A property of the state alone, ensured whether the action ends well or not. -/
theorem Ensures.exec_snd {I : σ → Prop} (h : act.Ensures s (fun _ => I) I) :
    I (act.exec s).2 := by
  unfold Ensures at h
  rcases he : act.exec s with ⟨_ | a, s'⟩ <;> simpa [he] using h

/-- A property of the state that depends on whether the action ends well. -/
theorem Ensures.isOk {I : Bool → σ → Prop} (h : act.Ensures s (fun _ => I true) (I false)) :
    I (act.exec s).1.isOk (act.exec s).2 := by
  rcases he : act.exec s with ⟨e | a, s'⟩
  · rwa [ensures_of_error he] at h
  · rwa [ensures_of_ok he] at h

/-- Conversely, a property of the final state is ensured, however the action ends. -/
theorem Ensures.of_exec_snd {I : σ → Prop} (h : I (act.exec s).2) :
    act.Ensures s (fun _ => I) I := by
  rcases he : act.exec s with ⟨e | a, s'⟩
  · rw [ensures_of_error he]
    simpa [he] using h
  · rw [ensures_of_ok he]
    simpa [he] using h

/-- A run that is not cut short ends with a value and a state. -/
theorem Ensures.exists_exec (h : act.Ensures s good fun _ => False) :
    ∃ a s', act.exec s = (.ok a, s') ∧ good a s' := by
  rcases he : act.exec s with ⟨e | a, s'⟩
  · exact ((ensures_of_error he).mp h).elim
  · exact ⟨a, s', rfl, (ensures_of_ok he).mp h⟩

/-- A run whose value and state are ensured is known. -/
theorem Ensures.exec_eq {a : α} {s' : σ}
    (h : act.Ensures s (fun b t => b = a ∧ t = s') fun _ => False) : act.exec s = (.ok a, s') := by
  unfold Ensures at h
  rcases he : act.exec s with ⟨_ | b, t⟩
  · simp [he] at h
  · simp only [he] at h
    rw [h.1, h.2]

/-! ## Rules -/

/-- A finished action ensures what holds of its value already. -/
@[simp] theorem ensures_pure (a : α) : (pure a : Action σ α).Ensures s good cut ↔ good a s :=
  Iff.rfl

/-- What two actions in a row ensure: the first must lead to a state from which the second ensures
the postcondition. A cut of either is a cut of the whole. -/
theorem ensures_bind {next : α → Action σ β} {good : β → σ → Prop} :
    (act >>= next).Ensures s good cut ↔
      act.Ensures s (fun a s' => (next a).Ensures s' good cut) cut := by
  unfold Ensures
  rw [exec_bind]
  rcases act.exec s with ⟨_ | a, s'⟩ <;> rfl

/-- Applying a function to the value is a matter of the postcondition alone. -/
@[simp] theorem ensures_map {f : α → β} {good : β → σ → Prop} :
    (f <$> act).Ensures s good cut ↔ act.Ensures s (fun a => good (f a)) cut := by
  rw [map_eq_pure_bind, ensures_bind]
  rfl

/-- An action whose value is not used. -/
theorem exec_forget (act : Action σ α) (s : σ) :
    (do let _ ← act : Action σ Unit).exec s = ((act.exec s).1.map fun _ => (), (act.exec s).2) := by
  rcases hexec : act.exec s with ⟨e | a, s'⟩
  · rw [exec_bind_of_error hexec]
    rfl
  · rw [exec_bind_of_ok hexec]
    rfl

/-- Reading the state. -/
@[simp] theorem ensures_get {good : σ → σ → Prop} :
    (get : Action σ σ).Ensures s good cut ↔ good s s := Iff.rfl

/-- Changing the state by a function. -/
@[simp] theorem ensures_modify {f : σ → σ} {good : Unit → σ → Prop} :
    (modify f : Action σ Unit).Ensures s good cut ↔ good () (f s) := Iff.rfl

/-- A step that changes the state and yields a value. -/
@[simp] theorem ensures_modifyGet {f : σ → α × σ} :
    (modifyGet f : Action σ α).Ensures s good cut ↔ good (f s).1 (f s).2 := Iff.rfl

/-- An action whose overflow is caught is never cut short. -/
@[simp] theorem ensures_outcome {good : Except Overflow α → σ → Prop} :
    act.outcome.Ensures s good cut ↔ good (act.exec s).1 (act.exec s).2 := Iff.rfl

/-- An action on a part of the state: the postconditions speak of the whole state with the new part
put in, whether the action ended well or was cut short. -/
@[simp] theorem ensures_within {part : τ → σ} {put : σ → τ → τ} {t : τ} {good : α → τ → Prop}
    {cut : τ → Prop} :
    (act.within part put).Ensures t good cut ↔
      act.Ensures (part t) (fun a s' => good a (put s' t)) fun s' => cut (put s' t) := by
  unfold Ensures
  rw [exec_within]
  rcases act.exec (part t) with ⟨_ | a, s'⟩ <;> rfl

/-- An action on the second component of a pair. The first component is the one of before. -/
@[simp] theorem ensures_onSecond {p : τ × σ} {good : α → τ × σ → Prop} {cut : τ × σ → Prop} :
    act.onSecond.Ensures p good cut ↔
      act.Ensures p.2 (fun a s' => good a (p.1, s')) fun s' => cut (p.1, s') :=
  ensures_within

/-! ## Repetitions -/

/-- Visiting two lists one after the other. -/
theorem each_append (visit : α → Action σ Unit) (members others : List α) :
    Action.each visit (members ++ others) = (do
      Action.each visit members
      Action.each visit others) := by
  induction members with
  | nil => rfl
  | cons a rest ih =>
    show (do visit a; Action.each visit (rest ++ others)) = _
    rw [ih, ← bind_assoc]
    rfl

/-- A loop keeps an invariant over the members not visited yet. -/
theorem Ensures.each {I : List α → σ → Prop} {visit : α → Action σ Unit} {members : List α}
    (hstep : ∀ a rest s, a ∈ members → I (a :: rest) s →
      (visit a).Ensures s (fun _ => I rest) cut)
    (hstart : I members s) : (Action.each visit members).Ensures s (fun _ => I []) cut := by
  -- induction on the members: after a visit the invariant holds of the rest, from the state
  -- reached
  induction members generalizing s with
  | nil => exact hstart
  | cons a rest ih =>
    unfold Action.each
    rw [ensures_bind]
    refine (hstep a rest s List.mem_cons_self hstart).mono (fun _ s' h => ?_) fun _ h => h
    exact ih (fun b tail t hb => hstep b tail t (List.mem_cons_of_mem a hb)) h

/-- A counting loop keeps an invariant over the members not visited yet and the count so far. -/
theorem Ensures.count {I : Nat → List α → σ → Prop} {attempt : α → Action σ Bool}
    {members : List α} {n : Nat}
    (hstep : ∀ k a rest s, a ∈ members → I k (a :: rest) s →
      (attempt a).Ensures s (fun hit => I (k + hit.toNat) rest) cut)
    (hstart : I n members s) :
    (Action.count attempt members).Ensures s (fun hits => I (n + hits) []) cut := by
  induction members generalizing s n with
  | nil => exact hstart
  | cons a rest ih =>
    unfold Action.count
    simp only [ensures_bind, ensures_pure]
    refine (hstep n a rest s List.mem_cons_self hstart).mono (fun hit s' h => ?_) fun _ h => h
    refine (ih (fun k b tail t hb => hstep k b tail t (List.mem_cons_of_mem a hb)) h).mono
      (fun hits t ht => ?_) fun _ h => h
    rwa [Nat.add_assoc, Nat.add_comm hit.toNat] at ht

/-- A collecting loop keeps an invariant over the members not visited yet and what has been
built. -/
theorem Ensures.collect {I : List β → List α → σ → Prop} {build : α → Action σ (Option β)}
    {members : List α} {l : List β}
    (hstep : ∀ built a rest s, a ∈ members → I built (a :: rest) s →
      (build a).Ensures s (fun found => I (built ++ found.toList) rest) cut)
    (hstart : I l members s) :
    (Action.collect build members).Ensures s (fun built => I (l ++ built) []) cut := by
  induction members generalizing s l with
  | nil => simpa [Action.collect] using hstart
  | cons a rest ih =>
    unfold Action.collect
    simp only [ensures_bind, ensures_pure]
    refine (hstep l a rest s List.mem_cons_self hstart).mono (fun found s' h => ?_) fun _ h => h
    refine (ih (fun built b tail t hb => hstep built b tail t (List.mem_cons_of_mem a hb)) h).mono
      (fun others t ht => ?_) fun _ h => h
    rwa [List.append_assoc] at ht

/-! ## Relations that hold along an action -/

/-- The action leads from every state to one related to it, cut short or not. -/
def Follows (R : σ → σ → Prop) (act : Action σ α) : Prop :=
  ∀ s, act.Ensures s (fun _ => R s) (R s)

/-- The action leads from every state to one related to it by `R`, or it is cut short in one related
to it by `C`. -/
def Conforms (R C : σ → σ → Prop) (act : Action σ α) : Prop :=
  ∀ s, act.Ensures s (fun _ => R s) (C s)

/-- Staying where one is, and going on, are moves along the relation. -/
structure IsPath (R : σ → σ → Prop) : Prop where
  /-- Nothing happened. -/
  refl : ∀ s, R s s
  /-- One thing after another. -/
  trans : ∀ {s t u}, R s t → R t u → R s u

/-- Going on and then being cut short is being cut short. -/
structure IsPathTo (R C : σ → σ → Prop) : Prop extends IsPath R where
  /-- A step that ends well, and then a cut. -/
  cut : ∀ {s t u}, R s t → C t u → C s u

/-- A path leads to cuts along itself. -/
theorem IsPath.toSelf {R : σ → σ → Prop} (hR : IsPath R) : IsPathTo R R := ⟨hR, hR.trans⟩

/-- Keeping a property is a path. -/
theorem IsPath.keeps (I : σ → Prop) : IsPath fun s t => I s → I t where
  refl _ h := h
  trans h₁ h₂ h := h₂ (h₁ h)

/-- Keeping a property that excludes cuts is a path to no cut. -/
theorem IsPathTo.keeps (I : σ → Prop) : IsPathTo (fun s t => I s → I t) fun s _ => ¬ I s where
  toIsPath := .keeps I
  cut h hcut hs := hcut (h hs)

/-- What conforms to keeping a property keeps it and, where it holds, is not cut short. -/
theorem Conforms.ensures {I : σ → Prop}
    (hact : Conforms (fun s t => I s → I t) (fun s _ => ¬ I s) act) (hs : I s) :
    act.Ensures s (fun _ => I) fun _ => False :=
  (hact s).mono (fun _ _ h => h hs) fun _ hcut => hcut hs

/-- What keeps a property wherever it holds, and is not cut short there. -/
theorem Conforms.of_ensures {I : σ → Prop}
    (hact : ∀ s, I s → act.Ensures s (fun _ => I) fun _ => False) :
    Conforms (fun s t => I s → I t) (fun s _ => ¬ I s) act := by
  intro s
  by_cases hs : I s
  · exact (hact s hs).mono (fun _ _ h _ => h) fun _ => False.elim
  · exact .of_forall (fun _ _ h => absurd h hs) fun _ => hs

variable {R C : σ → σ → Prop}

/-- A finished action goes nowhere. -/
theorem Conforms.pure (hR : IsPathTo R C) (a : α) : Conforms R C (pure a : Action σ α) :=
  fun s => hR.refl s

/-- Two actions in a row go along the relation if both do. -/
theorem Conforms.bind (hR : IsPathTo R C) {next : α → Action σ β} (hact : Conforms R C act)
    (hnext : ∀ a, Conforms R C (next a)) : Conforms R C (act >>= next) := by
  intro s
  rw [ensures_bind]
  refine (hact s).mono (fun a t ht => ?_) fun _ h => h
  exact (hnext a t).mono (fun _ _ h => hR.trans ht h) fun _ h => hR.cut ht h

/-- The value does not matter. -/
theorem Conforms.map (f : α → β) (hact : Conforms R C act) : Conforms R C (f <$> act) := by
  intro s
  rw [ensures_map]
  exact hact s

/-- A loop goes along the relation if each visit does. -/
theorem Conforms.each (hR : IsPathTo R C) {visit : α → Action σ Unit} (members : List α)
    (hvisit : ∀ a, Conforms R C (visit a)) : Conforms R C (Action.each visit members) := by
  intro s
  refine Ensures.each (I := fun _ => R s) (fun a _ t _ ht => ?_) (hR.refl s)
  exact (hvisit a t).mono (fun _ _ h => hR.trans ht h) fun _ h => hR.cut ht h

/-- A counting loop goes along the relation if each attempt does. -/
theorem Conforms.count (hR : IsPathTo R C) {attempt : α → Action σ Bool} (members : List α)
    (hattempt : ∀ a, Conforms R C (attempt a)) : Conforms R C (Action.count attempt members) := by
  intro s
  refine Ensures.count (I := fun _ _ => R s) (n := 0) (fun _ a _ t _ ht => ?_) (hR.refl s)
  exact (hattempt a t).mono (fun _ _ h => hR.trans ht h) fun _ h => hR.cut ht h

/-- A collecting loop goes along the relation if each step of it does. -/
theorem Conforms.collect (hR : IsPathTo R C) {build : α → Action σ (Option β)} (members : List α)
    (hbuild : ∀ a, Conforms R C (build a)) : Conforms R C (Action.collect build members) := by
  intro s
  refine Ensures.collect (I := fun _ _ => R s) (l := []) (fun _ a _ t _ ht => ?_) (hR.refl s)
  exact (hbuild a t).mono (fun _ _ h => hR.trans ht h) fun _ h => hR.cut ht h

/-- What goes along one relation, cut short or not, ends in a related state. -/
theorem Conforms.exec_snd (hact : Conforms R R act) (s : σ) : R s (act.exec s).2 :=
  (hact s).exec_snd

/-- A finished action goes nowhere; with one relation for both ends. -/
theorem Follows.pure (hR : IsPath R) (a : α) : Follows R (pure a : Action σ α) :=
  Conforms.pure hR.toSelf a

/-- Two actions in a row follow a path that both follow. -/
theorem Follows.bind (hR : IsPath R) {next : α → Action σ β} (hact : Follows R act)
    (hnext : ∀ a, Follows R (next a)) : Follows R (act >>= next) :=
  Conforms.bind hR.toSelf hact hnext

/-- The value does not matter; with one relation for both ends. -/
theorem Follows.map (f : α → β) (hact : Follows R act) : Follows R (f <$> act) :=
  Conforms.map f hact

/-- What follows an action goes on from the state that the action leaves. -/
theorem Follows.exec_bind (hR : IsPath R) (act : Action σ α) {next : α → Action σ β}
    (hnext : ∀ a, Follows R (next a)) (s : σ) : R (act.exec s).2 ((act >>= next).exec s).2 := by
  rcases hexec : act.exec s with ⟨e | a, s'⟩
  · rw [exec_bind_of_error hexec]
    exact hR.refl s'
  · rw [exec_bind_of_ok hexec]
    exact (hnext a s').exec_snd

/-- What follows a relation follows a coarser one. -/
theorem Follows.mono {S : σ → σ → Prop} (hact : Follows R act) (h : ∀ s t, R s t → S s t) :
    Follows S act :=
  fun s => (hact s).mono (fun _ t => h s t) (h s)

/-- A loop follows a path that each visit follows. -/
theorem Follows.each (hR : IsPath R) {visit : α → Action σ Unit} (members : List α)
    (hvisit : ∀ a, Follows R (visit a)) : Follows R (Action.each visit members) :=
  Conforms.each hR.toSelf members hvisit

/-- A counting loop follows a path that each attempt follows. -/
theorem Follows.count (hR : IsPath R) {attempt : α → Action σ Bool} (members : List α)
    (hattempt : ∀ a, Follows R (attempt a)) : Follows R (Action.count attempt members) :=
  Conforms.count hR.toSelf members hattempt

/-- The state before and the state after are related, however the action ends. -/
theorem Follows.exec_snd (hact : Follows R act) (s : σ) : R s (act.exec s).2 :=
  (hact s).exec_snd

/-! ## Fallible actions -/

/-- A fallible action that ends at once with a value. -/
@[simp] theorem ensures_run_pure {a : α} {good : Except Failure α → σ → Prop} :
    (pure a : Fallible σ α).run.Ensures s good cut ↔ good (.ok a) s := Iff.rfl

/-- Two fallible actions in a row. A failure of the first is the result of the whole, from the state
in which it failed; an overflow is a cut, as before. -/
theorem ensures_run_bind {act : Fallible σ α} {next : α → Fallible σ β}
    {good : Except Failure β → σ → Prop} :
    (act >>= next).run.Ensures s good cut ↔
      act.run.Ensures s (fun r s' =>
        match r with
        | .ok a => (next a).run.Ensures s' good cut
        | .error failure => good (.error failure) s') cut := by
  rw [ExceptT.run_bind, ensures_bind]
  constructor <;> refine fun h => h.mono (fun r s' h' => ?_) fun _ h' => h' <;>
    rcases r with _ | a <;> exact h'

/-- An action that cannot fail, among fallible ones. -/
theorem ensures_run_lift {good : Except Failure α → σ → Prop} :
    (ExceptT.lift act : Fallible σ α).run.Ensures s good cut ↔
      act.Ensures s (fun a => good (.ok a)) cut := by
  rw [ExceptT.run_lift, ensures_map]

/-- An action that cannot fail hands its value on. -/
theorem ensures_run_lift_bind {next : α → Fallible σ β} {good : Except Failure β → σ → Prop} :
    (ExceptT.lift act >>= next).run.Ensures s good cut ↔
      act.Ensures s (fun a s' => (next a).run.Ensures s' good cut) cut := by
  rw [ensures_run_bind, ensures_run_lift]

/-- Two fallible actions in a row go along the relation if both do; after a failure of the first the
second is not run. -/
theorem Conforms.run_bind (hR : IsPathTo R C) {act : Fallible σ α} {next : α → Fallible σ β}
    (hact : Conforms R C act.run) (hnext : ∀ a, Conforms R C (next a).run) :
    Conforms R C (act >>= next).run := by
  intro s
  rw [ensures_run_bind]
  refine (hact s).mono (fun r t ht => ?_) fun _ h => h
  rcases r with _ | a
  · exact ht
  · exact (hnext a t).mono (fun _ _ h => hR.trans ht h) fun _ h => hR.cut ht h

/-- An action goes along the same relation when it is used among fallible ones. -/
theorem Conforms.run_lift (hact : Conforms R C act) :
    Conforms R C (ExceptT.lift act : Fallible σ α).run := by
  intro s
  rw [ensures_run_lift]
  exact hact s

/-- Two fallible actions in a row follow a path that both follow. -/
theorem Follows.run_bind (hR : IsPath R) {act : Fallible σ α} {next : α → Fallible σ β}
    (hact : Follows R act.run) (hnext : ∀ a, Follows R (next a).run) :
    Follows R (act >>= next).run :=
  Conforms.run_bind hR.toSelf hact hnext

/-- An action follows the same path when it is used among fallible ones. -/
theorem Follows.run_lift (hact : Follows R act) :
    Follows R (ExceptT.lift act : Fallible σ α).run :=
  Conforms.run_lift hact

/-! ## Parts of a state -/

/-- An action on the second component does not touch the first. -/
theorem Follows.fst_onSecond (act : Action σ α) :
    Follows (fun p q : τ × σ => q.1 = p.1) act.onSecond :=
  fun _ => ensures_onSecond.mpr (.of_forall (fun _ _ => rfl) fun _ => rfl)

/-- What holds along an action holds along the same action on a second component. -/
theorem Conforms.onSecond (hact : Conforms R C act) :
    Conforms (fun p q : τ × σ => R p.2 q.2) (fun p q => C p.2 q.2) act.onSecond :=
  fun p => ensures_onSecond.mpr (hact p.2)

/-- A path in a part of the state. -/
theorem IsPath.comap {S : σ → σ → Prop} (hS : IsPath S) (f : τ → σ) :
    IsPath fun t u => S (f t) (f u) where
  refl t := hS.refl (f t)
  trans := hS.trans

/-- A path and its cuts in a part of the state. -/
theorem IsPathTo.comap {S D : σ → σ → Prop} (hS : IsPathTo S D) (f : τ → σ) :
    IsPathTo (fun t u => S (f t) (f u)) fun t u => D (f t) (f u) where
  toIsPath := hS.toIsPath.comap f
  cut := hS.cut

end Action

end SoloScreen
