import SoloScreen.Proofs.Queries

/-!
# A journal of the native calls

Any window system can be watched: a `Journaled` one answers as the watched system does and writes
down each call with its answer, also a call that is cut short. What the program asked, in which
order and with which outcome, is then a fact about a list of exchanges.

* `Workspace.since`: what was written down between two states.
* `Workspace.call_made`: a call adds one exchange to the journal.
* `Workspace.queriesConform_asked`: queries of the cache request no change of state.
* `Workspace.queriesConform_distinct`: as long as no enumeration lists a window twice, no snapshot
  has a window twice.
-/

namespace SoloScreen

open SoloScreen.Action

/-! ## Exchanges -/

/-- A native call and its answer, or the overflow that cut it short. -/
structure Exchange where
  /-- What was asked. -/
  call : NativeCall
  /-- How it was answered. -/
  answer : Except Overflow call.Answer

/-- The request for a change of state, if the call is one. -/
def Exchange.request? (exchange : Exchange) : Option (WindowHandle × WindowCommand) :=
  match exchange.call with
  | .setState window command => some (window, command)
  | _ => none

/-- A question is no request. -/
theorem Exchange.request?_eq_none {exchange : Exchange} (h : exchange.call.isQuery) :
    exchange.request? = none := by
  unfold request?
  split
  · rename_i hcall
    simp [hcall, NativeCall.isQuery] at h
  · rfl

/-- The exchange is an enumeration that lists a window twice. -/
def Exchange.repeats : Exchange → Bool
  | ⟨.enumerate, .ok (.ok handles)⟩ => !decide handles.Nodup
  | _ => false

/-- A window system with a journal of the calls it answered. -/
structure Journaled (σ : Type) where
  /-- The system that is watched. -/
  system : σ
  /-- The calls, the first one first. -/
  journal : List Exchange := []

variable {σ : Type}

instance [WindowSystem σ] : WindowSystem (Journaled σ) where
  call call := ⟨fun watched =>
    let (answer, system) := (WindowSystem.call call).exec watched.system
    (answer, { system, journal := watched.journal ++ [⟨call, answer⟩] })⟩
  readClock :=
    WindowSystem.readClock.within (·.system) fun system watched => { watched with system }

/-- An event outside reaches the watched system. -/
def Journaled.apply {ε : Type} (apply : ε → σ → σ) (event : ε) (watched : Journaled σ) :
    Journaled σ := { watched with system := apply event watched.system }

namespace Workspace

/-- An event outside reaches the window system of a workspace. -/
def outside {ε : Type} (apply : ε → σ → σ) (event : ε) (work : Workspace σ) : Workspace σ :=
  { work with system := apply event work.system }

/-- The calls made through a workspace. -/
def journal (work : Workspace (Journaled σ)) : List Exchange := work.system.journal

/-- One call was made. -/
structure Made (exchange : Exchange) (work work' : Workspace (Journaled σ)) : Prop where
  /-- The exchange stands at the end of the journal. -/
  journal : work'.journal = work.journal ++ [exchange]
  /-- The cache is the one of before. -/
  cache : work'.cache = work.cache

/-- What was written down between two states. -/
def since (work work' : Workspace (Journaled σ)) : List Exchange :=
  work'.journal.drop work.journal.length

/-- The journal goes on. -/
def GoesOn (work work' : Workspace (Journaled σ)) : Prop := work.journal <+: work'.journal

/-- A journal that goes on, and goes on again, goes on. -/
theorem GoesOn.isPath : IsPath (GoesOn (σ := σ)) where
  refl work := List.prefix_refl work.journal
  trans := List.IsPrefix.trans

/-- Between a state and itself nothing was written down. -/
@[simp] theorem since_self (work : Workspace (Journaled σ)) : since work work = [] :=
  List.drop_length

/-- What was written down is what was added to the journal. -/
theorem since_eq {work work' : Workspace (Journaled σ)} {more : List Exchange}
    (h : work'.journal = work.journal ++ more) : since work work' = more := by
  unfold since
  rw [h, List.drop_left]

/-- A journal that goes on is the old one with what was written down since. -/
theorem GoesOn.journal {work work' : Workspace (Journaled σ)} (h : GoesOn work work') :
    work'.journal = work.journal ++ since work work' := by
  obtain ⟨more, hmore⟩ := h
  rw [since_eq hmore.symm, hmore]

/-- What was written down can be cut into pieces. -/
theorem since_trans {work work' work'' : Workspace (Journaled σ)} (h : GoesOn work work')
    (h' : GoesOn work' work'') : since work work'' = since work work' ++ since work' work'' := by
  refine since_eq ?_
  rw [h'.journal, h.journal, List.append_assoc]

variable [WindowSystem σ]

/-- A call writes one exchange to the journal, with its answer or with the overflow that cut it
short. The watched system is asked exactly once, and the cache is not touched. -/
theorem call_made (call : NativeCall) (work : Workspace (Journaled σ)) :
    (WindowSystem.call call : Action (Workspace (Journaled σ)) _).Ensures work
      (fun answer => Made ⟨call, .ok answer⟩ work)
      fun work' => ∃ e, Made ⟨call, .error e⟩ work work' := by
  have hexec : (WindowSystem.call call : Action (Workspace (Journaled σ)) _).exec work =
      (((WindowSystem.call call).exec work.system.system).1, { work with system :=
        { system := ((WindowSystem.call call).exec work.system.system).2
          journal := work.journal ++
            [⟨call, ((WindowSystem.call call).exec work.system.system).1⟩] } }) := rfl
  rcases hanswer : ((WindowSystem.call call).exec work.system.system).1 with e | answer
  · rw [hanswer] at hexec
    rw [ensures_of_error hexec]
    exact ⟨e, rfl, rfl⟩
  · rw [hanswer] at hexec
    rw [ensures_of_ok hexec]
    exact ⟨rfl, rfl⟩

/-! ## Questions -/

/-- Nothing but questions was added to the journal. -/
def Asked (work work' : Workspace (Journaled σ)) : Prop :=
  ∃ asked, work'.journal = work.journal ++ asked ∧ ∀ exchange ∈ asked, exchange.request? = none

omit [WindowSystem σ] in
/-- Questions after questions are questions. -/
theorem Asked.isPath : IsPath (Asked (σ := σ)) where
  refl work := ⟨[], by simp, by simp⟩
  trans := by
    rintro work work' work'' ⟨asked, hjournal, hasked⟩ ⟨asked', hjournal', hasked'⟩
    refine ⟨asked ++ asked', by rw [hjournal', hjournal, List.append_assoc], fun exchange h => ?_⟩
    rcases List.mem_append.mp h with h | h
    · exact hasked exchange h
    · exact hasked' exchange h

omit [WindowSystem σ] in
/-- One question is nothing but questions. -/
theorem Made.asked {exchange : Exchange} {work work' : Workspace (Journaled σ)}
    (h : Made exchange work work') (hquery : exchange.request? = none) : Asked work work' :=
  ⟨[exchange], h.journal, by simpa using hquery⟩

/-- Queries of the cache request no change of state. -/
theorem queriesConform_asked : QueriesConform (σ := Journaled σ) Asked Asked :=
  .of_calls Asked.isPath.toSelf
    (fun call hquery work => (call_made call work).mono
      (fun _ _ h => h.asked (Exchange.request?_eq_none hquery))
      fun _ ⟨_, h⟩ => h.asked (Exchange.request?_eq_none hquery))
    (fun _ => .of_exec_snd ⟨[], (List.append_nil _).symm, by simp⟩)
    fun _ work => Asked.isPath.refl work

/-! ## Snapshots without repetition -/

/-- No enumeration lists a window twice. -/
def NoTwins (journal : List Exchange) : Prop := ∀ exchange ∈ journal, exchange.repeats = false

instance (journal : List Exchange) : Decidable (NoTwins journal) :=
  inferInstanceAs (Decidable (∀ exchange ∈ journal, exchange.repeats = false))

/-- The snapshot has no window twice. -/
def IsDistinct {τ : Type} (work : Workspace τ) : Prop :=
  (work.cache.snapshot.windows.map (·.handle)).Nodup

/-- The journal goes on, and the snapshot still has no window twice if no enumeration lists one
twice. -/
def KeepsDistinct (work work' : Workspace (Journaled σ)) : Prop :=
  work.journal <+: work'.journal ∧ (NoTwins work'.journal → IsDistinct work → IsDistinct work')

/-- The journal goes on with the same snapshot. -/
def KeepsSnapshot (work work' : Workspace (Journaled σ)) : Prop :=
  work.journal <+: work'.journal ∧ work'.cache.snapshot = work.cache.snapshot

/-- What is true of all exchanges is true of those up to an earlier state. -/
theorem NoTwins.earlier {before after : List Exchange} (h : NoTwins after)
    (hearlier : before <+: after) : NoTwins before :=
  fun exchange hmem => h exchange (hearlier.subset hmem)

omit [WindowSystem σ] in
/-- The hypothesis is about the later journal, from which the one about the journal between
follows. -/
theorem KeepsDistinct.isPath : IsPath (KeepsDistinct (σ := σ)) where
  refl _ := ⟨List.prefix_refl _, fun _ => id⟩
  trans h₁ h₂ := ⟨h₁.1.trans h₂.1,
    fun htwins hdistinct => h₂.2 htwins (h₁.2 (htwins.earlier h₂.1) hdistinct)⟩

omit [WindowSystem σ] in
/-- A snapshot that is kept twice is kept. -/
theorem KeepsSnapshot.isPath : IsPath (KeepsSnapshot (σ := σ)) where
  refl _ := ⟨List.prefix_refl _, rfl⟩
  trans h₁ h₂ := ⟨h₁.1.trans h₂.1, h₂.2.trans h₁.2⟩

omit [WindowSystem σ] in
/-- A snapshot that is kept has no window twice if it had none before. -/
theorem KeepsSnapshot.distinct {work work' : Workspace (Journaled σ)}
    (h : KeepsSnapshot work work') : KeepsDistinct work work' := by
  refine ⟨h.1, fun _ hdistinct => ?_⟩
  unfold IsDistinct
  rwa [h.2]

omit [WindowSystem σ] in
/-- A call keeps the snapshot. -/
theorem Made.keepsSnapshot {exchange : Exchange} {work work' : Workspace (Journaled σ)}
    (h : Made exchange work work') : KeepsSnapshot work work' :=
  ⟨h.journal ▸ List.prefix_append _ _, by rw [h.cache]⟩

/-- A call keeps the snapshot, cut short or not. -/
theorem call_keepsSnapshot (call : NativeCall) :
    Follows KeepsSnapshot (WindowSystem.call call : Action (Workspace (Journaled σ)) _) :=
  fun work => (call_made call work).mono (fun _ _ h => h.keepsSnapshot)
    fun _ ⟨_, h⟩ => h.keepsSnapshot

/-- The reading of the clock keeps the snapshot and writes nothing down. -/
theorem readClock_keepsSnapshot :
    Follows KeepsSnapshot (WindowSystem.readClock : Action (Workspace (Journaled σ)) Nat) :=
  fun _ => .of_exec_snd ⟨List.prefix_refl _, rfl⟩

/-- The question for a process's name writes to the cache, but not to the snapshot. -/
theorem processName?_keepsSnapshot (process : ProcessId) :
    Follows KeepsSnapshot (processName? process : Action (Workspace (Journaled σ)) _) :=
  processName?_conforms KeepsSnapshot.isPath.toSelf (fun _ => call_keepsSnapshot (.imagePath _))
    (fun _ _ _ _ => ⟨List.prefix_refl _, rfl⟩) process

/-- A pass records windows in the order of the enumeration, each once. -/
theorem collect_handles {τ : Type} [WindowSystem τ] (capturedAt : Nat)
    (handles : List WindowHandle) (work : Workspace τ) :
    (Action.collect (record? capturedAt) handles).Ensures work
      (fun records _ => (records.map (·.handle)).Sublist handles) fun _ => True := by
  -- the invariant: what was recorded, followed by the windows still to be looked at, is part of the
  -- enumeration
  refine (Ensures.collect (l := []) (I := fun built rest _ =>
    (built.map (·.handle) ++ rest).Sublist handles) (fun built window rest work _ h => ?_)
    (List.Sublist.refl handles)).mono (fun records _ h => by simpa using h) fun _ => id
  refine (record?_taken capturedAt window work).mono (fun r _ hr => ?_) fun _ => id
  rcases r with _ | record
  · have hskip : (built.map (·.handle) ++ rest).Sublist (built.map (·.handle) ++ window :: rest) :=
      (List.sublist_cons_self window rest).append_left _
    simpa using hskip.trans h
  · simpa [(hr record rfl).handle] using h

/-- A pass takes over a snapshot without repetition, provided that the enumeration it began with
lists no window twice. That enumeration is in the journal by then, so the hypothesis about the
journal speaks of it. -/
theorem refresh_distinct :
    Follows KeepsDistinct (refresh : Action (Workspace (Journaled σ)) Unit) := by
  intro work
  unfold refresh
  rw [ensures_bind]
  refine (call_made .enumerate work).mono (fun answer work₁ hmade => ?_)
    fun _ ⟨_, h⟩ => h.keepsSnapshot.distinct
  have hstart := hmade.keepsSnapshot
  rcases answer with failure | handles
  · exact hstart.distinct
  dsimp only
  rw [ensures_bind]
  refine (readClock_keepsSnapshot work₁).mono (fun capturedAt work₂ hclock => ?_)
    fun _ h => (KeepsSnapshot.isPath.trans hstart h).distinct
  rw [ensures_bind]
  have hcollect : Follows KeepsSnapshot
      (Action.collect (record? capturedAt) handles : Action (Workspace (Journaled σ)) _) :=
    Conforms.collect KeepsSnapshot.isPath.toSelf handles
      (record?_conforms KeepsSnapshot.isPath.toSelf (fun call _ => call_keepsSnapshot call)
        processName?_keepsSnapshot capturedAt)
  refine ((collect_handles capturedAt handles work₂).and (hcollect work₂)).mono
    (fun records work₃ h => ?_) fun _ h =>
      (KeepsSnapshot.isPath.trans hstart (KeepsSnapshot.isPath.trans hclock h.2)).distinct
  rw [modifyCache, ensures_modify]
  have hafter := KeepsSnapshot.isPath.trans hclock h.2
  refine ⟨hstart.1.trans hafter.1, fun htwins _ => ?_⟩
  have hlisted := htwins ⟨.enumerate, .ok (.ok handles)⟩ (hafter.1.subset (by
    rw [hmade.journal]
    exact List.mem_append_right _ (List.mem_singleton_self _)))
  -- the records are those of an enumeration without repetition
  exact h.1.nodup (by simpa [Exchange.repeats] using hlisted)

/-- As long as no enumeration lists a window twice, no snapshot has a window twice. -/
theorem queriesConform_distinct :
    QueriesConform (σ := Journaled σ) KeepsDistinct KeepsDistinct where
  path := KeepsDistinct.isPath.toSelf
  call call _ work := (call_keepsSnapshot call work).mono (fun _ _ h => h.distinct)
    fun _ h => h.distinct
  readClock work := (readClock_keepsSnapshot work).mono (fun _ _ h => h.distinct)
    fun _ h => h.distinct
  name process work := (processName?_keepsSnapshot process work).mono (fun _ _ h => h.distinct)
    fun _ h => h.distinct
  refresh := refresh_distinct

/-- Whatever is asked, the journal goes on. -/
theorem queriesConform_goesOn : QueriesConform (σ := Journaled σ) GoesOn GoesOn :=
  queriesConform_distinct.mono GoesOn.isPath.toSelf (fun h => h.1) fun h => h.1

end Workspace

end SoloScreen
