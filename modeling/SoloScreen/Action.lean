/-!
# Actions that may overflow

Everything the program does to its state is an `Action`: a function from a state to a result and a
new state. The one thing that can cut an action short is an overflow of 32-bit screen coordinates;
the state reached by then is kept, so that what was done before the overflow stays done.

The module gives the monad, the two ways to build actions (`Action.step`, `Action.ofExcept`), the
view of a part of a state as a state of its own (`Action.within`), and the repetitions the other
modules use (`Action.each`, `Action.count`, `Action.collect`, `Action.times`).
-/

namespace SoloScreen

/-- The result of an addition or a subtraction of screen coordinates does not fit in 32 bits. -/
inductive Overflow where
  /-- A sum left the range. -/
  | add
  /-- A difference left the range. -/
  | subtract
  deriving DecidableEq, Repr

/-- What is reported for an overflow. -/
def Overflow.message : Overflow → String
  | .add => "attempt to add with overflow"
  | .subtract => "attempt to subtract with overflow"

/-- A computation on states of type `σ`: it yields a value or an overflow, and in both cases the
state reached. -/
@[ext] structure Action (σ α : Type) where
  /-- Run the action from a state. -/
  exec : σ → Except Overflow α × σ

namespace Action

variable {σ τ α β : Type}

/-- The action that yields `a` and leaves the state alone. -/
protected def pure (a : α) : Action σ α := ⟨fun s => (.ok a, s)⟩

/-- Run one action and then, unless it overflowed, the next. -/
protected def bind (act : Action σ α) (next : α → Action σ β) : Action σ β :=
  ⟨fun s =>
    match act.exec s with
    | (.ok a, s') => (next a).exec s'
    | (.error e, s') => (.error e, s')⟩

instance : Monad (Action σ) where
  pure := Action.pure
  bind := Action.bind

/-- A finished action neither looks at the state nor changes it. -/
@[simp] theorem exec_pure (a : α) (s : σ) : (pure a : Action σ α).exec s = (.ok a, s) := rfl

/-- Two actions in a row, opened. The state of an overflowing first action is the final state:
nothing of what was done is taken back. -/
theorem exec_bind (act : Action σ α) (next : α → Action σ β) (s : σ) :
    (act >>= next).exec s =
      match act.exec s with
      | (.ok a, s') => (next a).exec s'
      | (.error e, s') => (.error e, s') := rfl

/-- A finished first action hands its value and state to the next. -/
theorem exec_bind_of_ok {act : Action σ α} {next : α → Action σ β} {s s' : σ} {a : α}
    (h : act.exec s = (.ok a, s')) : (act >>= next).exec s = (next a).exec s' := by
  rw [exec_bind, h]

/-- An overflow in the first action is the result of the whole. -/
theorem exec_bind_of_error {act : Action σ α} {next : α → Action σ β} {s s' : σ} {e : Overflow}
    (h : act.exec s = (.error e, s')) : (act >>= next).exec s = (.error e, s') := by
  rw [exec_bind, h]

instance : LawfulMonad (Action σ) := LawfulMonad.mk' (Action σ)
  (fun act => by
    ext1; funext s
    show (act >>= fun a => pure a).exec s = act.exec s
    rw [exec_bind]
    rcases act.exec s with ⟨_ | _, _⟩ <;> rfl)
  (fun _ _ => rfl)
  (fun act f g => by
    ext1; funext s
    simp only [exec_bind]
    rcases act.exec s with ⟨_ | _, _⟩ <;> rfl)

/-! ## Building actions -/

/-- The action of a function that never overflows. -/
def step (f : σ → α × σ) : Action σ α := ⟨fun s => (.ok (f s).1, (f s).2)⟩

/-- A step always ends well. -/
@[simp] theorem exec_step (f : σ → α × σ) (s : σ) : (step f).exec s = (.ok (f s).1, (f s).2) := rfl

instance : MonadStateOf σ (Action σ) where
  get := step fun s => (s, s)
  set s := step fun _ => ((), s)
  modifyGet := step

/-- Reading the state yields it and keeps it. -/
@[simp] theorem exec_get (s : σ) : (get : Action σ σ).exec s = (.ok s, s) := rfl

/-- Changing the state by a function cannot overflow. -/
@[simp] theorem exec_modify (f : σ → σ) (s : σ) :
    (modify f : Action σ Unit).exec s = (.ok (), f s) := rfl

/-- The general step, as the state monad's own operation. -/
@[simp] theorem exec_modifyGet (f : σ → α × σ) (s : σ) :
    (modifyGet f : Action σ α).exec s = (.ok (f s).1, (f s).2) := rfl

/-- A computation without state, as an action. -/
def ofExcept (r : Except Overflow α) : Action σ α := ⟨fun s => (r, s)⟩

/-- A computation without state keeps the state, also when it overflows. -/
@[simp] theorem exec_ofExcept (r : Except Overflow α) (s : σ) :
    (ofExcept r : Action σ α).exec s = (r, s) := rfl

/-- Run an action and yield its outcome, overflow included, as a value. -/
def outcome (act : Action σ α) : Action σ (Except Overflow α) :=
  ⟨fun s => (.ok (act.exec s).1, (act.exec s).2)⟩

/-- Asking for the outcome turns an overflow into a value: the action itself always ends well, in
the state that the overflow left. -/
@[simp] theorem exec_outcome (act : Action σ α) (s : σ) :
    act.outcome.exec s = (.ok (act.exec s).1, (act.exec s).2) := rfl

/-! ## Parts of a state -/

/-- An action on a part of a state as an action on the whole: `part` reads the part and `put` writes
it back. -/
def within (part : τ → σ) (put : σ → τ → τ) (act : Action σ α) : Action τ α :=
  ⟨fun t => ((act.exec (part t)).1, put (act.exec (part t)).2 t)⟩

/-- The part is read before the action and written back after it, after an overflow too. -/
@[simp] theorem exec_within (part : τ → σ) (put : σ → τ → τ) (act : Action σ α) (t : τ) :
    (act.within part put).exec t =
      ((act.exec (part t)).1, put (act.exec (part t)).2 t) := rfl

/-- An action on the second component of a pair leaves the first one alone. -/
def onSecond (act : Action σ α) : Action (τ × σ) α :=
  act.within Prod.snd fun s p => (p.1, s)

/-- An action on the second component, run on a pair. -/
@[simp] theorem exec_onSecond (act : Action σ α) (p : τ × σ) :
    act.onSecond.exec p = ((act.exec p.2).1, (p.1, (act.exec p.2).2)) := rfl

/-! ## Lists of actions -/

/-- Do something for each member of a list, from left to right. -/
def each (visit : α → Action σ Unit) : List α → Action σ Unit
  | [] => pure ()
  | a :: rest => do visit a; each visit rest

/-- Do something for each member of a list, from left to right, and count how often it succeeded. -/
def count (attempt : α → Action σ Bool) : List α → Action σ Nat
  | [] => pure 0
  | a :: rest => do
    let hit ← attempt a
    let hits ← count attempt rest
    pure (hits + hit.toNat)

/-- Build something from each member of a list, from left to right, and keep what was built, in this
order. -/
def collect (build : α → Action σ (Option β)) : List α → Action σ (List β)
  | [] => pure []
  | a :: rest => do
    let built ← build a
    let others ← collect build rest
    pure (built.toList ++ others)

/-! ## Repetition -/

/-- What running an action a number of times in a row does to a state. -/
def execTimes (act : Action σ Unit) : Nat → σ → Except Overflow Unit × σ
  | 0, s => (.ok (), s)
  | n + 1, s =>
    match act.exec s with
    | (.ok (), s') => execTimes act n s'
    | (.error e, s') => (.error e, s')

/-- Run an action a number of times in a row. -/
def times (n : Nat) (act : Action σ Unit) : Action σ Unit := ⟨execTimes act n⟩

/-- No repetition is no action. -/
theorem times_zero (act : Action σ Unit) : times 0 act = pure () := rfl

/-- One repetition more, at the front. -/
theorem times_succ (n : Nat) (act : Action σ Unit) :
    times (n + 1) act = (do act; times n act) := by
  ext1; funext s
  simp only [times, execTimes, exec_bind]
  rcases act.exec s with ⟨_ | _, _⟩ <;> rfl

/-- Repetitions can be cut into pieces. -/
theorem times_add (m n : Nat) (act : Action σ Unit) :
    times (m + n) act = (do times m act; times n act) := by
  induction m with
  | zero => rw [Nat.zero_add, times_zero, pure_bind]
  | succ m ih => rw [Nat.succ_add, times_succ, times_succ, ih, bind_assoc]

end Action

end SoloScreen
