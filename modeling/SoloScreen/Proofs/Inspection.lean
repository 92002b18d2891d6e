import SoloScreen.Proofs.Queries

/-!
# What a pass records

A pass asks the same few questions about each window that is listed. If the answers do not change
meanwhile, they are a function of the question (`Answers`), and so is the record of a window
(`Answers.record?`), although a pass learns names as it goes and looks them up again.

* `Answers.record?_eq_some_iff`: a window has a record if it is visible, no system window, its
  process has a name, and nothing fails; the record carries the answers (`Answers.IsRecord`). What
  is answered about other windows does not matter (`Answers.record?_agree`).
* `Action.Yields`: the value of an action is known, given a property that cannot have come about
  otherwise. There is one rule for each way to build an action.
* `Workspace.collect_yields`: a pass builds the records of the windows listed, in their order.
-/

namespace SoloScreen

open SoloScreen.Action

/-- An answer to every question. -/
abbrev Answers := (call : NativeCall) → call.Answer

namespace Answers

/-! ## The record of a window -/

/-- Whether the window is a system window, going by the answers. -/
def isSystem (answers : Answers) (window : WindowHandle) : Except Failure Bool := do
  if Native.shellClasses.contains (← answers (.windowClass window)) then
    pure true
  else if (Text.trim (← answers (.title window)).toList).isEmpty then
    pure true
  else
    answers (.toolWindow window)

/-- The name of a program, if its path can be had and the name is not empty. -/
def programName : Except Failure String → Option String
  | .error _ => none
  | .ok path =>
    if ProcessName.ofImagePath path = "" then none else some (ProcessName.ofImagePath path)

/-- The name of a process: the one known, otherwise the name of its program. -/
def name? (answers : Answers) (names : Table ProcessId String) (process : ProcessId) :
    Option String :=
  (names.find? process).or (programName (answers (.imagePath process)))

/-- What is recorded of a window whose process has a name. -/
def describe (answers : Answers) (capturedAt : Nat) (window : WindowHandle) (process : ProcessId) :
    Option String → Except Failure (Option WindowRecord)
  | none => pure none
  | some processName => do
    let state ← answers (.placement window)
    let bounds ← answers (.bounds window)
    let monitor ← answers (.monitorOf window)
    let title ← answers (.title window)
    pure (some { handle := window, process, processName, title, state, monitor, bounds,
                 visible := true, system := false, capturedAt })

/-- The record of a window, or the first failure. -/
def inspect (answers : Answers) (names : Table ProcessId String) (capturedAt : Nat)
    (window : WindowHandle) : Except Failure (Option WindowRecord) := do
  if answers (.visible window) then
    if ← answers.isSystem window then
      pure none
    else
      let process ← answers (.process window)
      answers.describe capturedAt window process (answers.name? names process)
  else
    pure none

/-- The record of a window. -/
def record? (answers : Answers) (names : Table ProcessId String) (capturedAt : Nat)
    (window : WindowHandle) : Option WindowRecord :=
  (answers.inspect names capturedAt window).toOption.join

/-- The record carries the answers about a window that is visible and no system window. -/
structure IsRecord (answers : Answers) (names : Table ProcessId String) (capturedAt : Nat)
    (window : WindowHandle) (record : WindowRecord) : Prop where
  /-- The window is visible. -/
  shown : answers (.visible window) = true
  /-- It is no system window. -/
  ordinary : answers.isSystem window = .ok false
  /-- The record names the process that owns it. -/
  process : answers (.process window) = .ok record.process
  /-- The process has a name, and the record carries it. -/
  name : answers.name? names record.process = some record.processName
  /-- How the window is shown. -/
  state : answers (.placement window) = .ok record.state
  /-- Where it is. -/
  bounds : answers (.bounds window) = .ok record.bounds
  /-- On which monitor it counts. -/
  monitor : answers (.monitorOf window) = .ok record.monitor
  /-- Its title. -/
  title : answers (.title window) = .ok record.title
  /-- The record is of this window. -/
  handle : record.handle = window
  /-- It says so itself. -/
  visible : record.visible = true
  /-- And this too. -/
  system : record.system = false
  /-- It carries the time of the pass. -/
  capturedAt : record.capturedAt = capturedAt

variable {answers : Answers} {names : Table ProcessId String} {capturedAt : Nat}
  {window : WindowHandle} {record : WindowRecord}

/-- What comes out of a bind came out of both parts. -/
theorem bind_eq_ok {α β : Type} {x : Except Failure α} {f : α → Except Failure β} {b : β} :
    (x >>= f) = .ok b ↔ ∃ a, x = .ok a ∧ f a = .ok b := by
  rcases x with failure | a
  · simp [bind, Except.bind]
  · simp [bind, Except.bind]

/-- A window has a record exactly if all that is asked about it is answered, it is visible, no
system window, and its process has a name; and the record is made of these answers. -/
theorem record?_eq_some_iff : answers.record? names capturedAt window = some record ↔
    IsRecord answers names capturedAt window record := by
  have hinspect : answers.record? names capturedAt window = some record ↔
      answers.inspect names capturedAt window = .ok (some record) := by
    unfold record?
    rcases answers.inspect names capturedAt window with failure | found
    · simp [Except.toOption]
    · simp [Except.toOption, Option.join_some]
  rw [hinspect]
  unfold inspect
  constructor
  · intro h
    split at h
    · rename_i hshown
      obtain ⟨system, hsystem, h⟩ := bind_eq_ok.mp h
      split at h
      · cases h
      · rename_i hordinary
        obtain ⟨process, hprocess, h⟩ := bind_eq_ok.mp h
        rcases hname : answers.name? names process with _ | processName
        · simp [hname, describe, pure, Except.pure] at h
        · rw [hname] at h
          obtain ⟨state, hstate, h⟩ := bind_eq_ok.mp h
          obtain ⟨bounds, hbounds, h⟩ := bind_eq_ok.mp h
          obtain ⟨monitor, hmonitor, h⟩ := bind_eq_ok.mp h
          obtain ⟨title, htitle, h⟩ := bind_eq_ok.mp h
          obtain rfl := Option.some.inj (Except.ok.inj h)
          exact ⟨hshown, by simpa [hordinary] using hsystem, hprocess, hname, hstate, hbounds,
            hmonitor, htitle, rfl, rfl, rfl, rfl⟩
    · cases h
  · rintro ⟨hshown, hordinary, hprocess, hname, hstate, hbounds, hmonitor, htitle, rfl, hvisible,
      hsystem, rfl⟩
    have hrecord : record = { record with visible := true, system := false } := by
      rw [← hvisible, ← hsystem]
    rw [hrecord]
    simp [hshown, hordinary, hprocess, hname, hstate, hbounds, hmonitor, htitle, describe, bind,
      Except.bind, pure, Except.pure]

/-- Names that are found alike make the same records. -/
theorem record?_congr {others : Table ProcessId String}
    (h : ∀ process, answers.name? others process = answers.name? names process) :
    answers.record? others capturedAt = answers.record? names capturedAt := by
  funext window
  unfold record? inspect
  simp only [h]

/-- What is asked for the record of a window. -/
def describes (window : WindowHandle) : NativeCall → Prop
  | .imagePath _ => True
  | .visible other => other = window
  | .windowClass other => other = window
  | .title other => other = window
  | .toolWindow other => other = window
  | .process other => other = window
  | .placement other => other = window
  | .bounds other => other = window
  | .monitorOf other => other = window
  | _ => False

/-- The record of a window does not depend on the answers about other windows. -/
theorem record?_agree {others : Answers}
    (h : ∀ call, describes window call → others call = answers call) :
    others.record? names capturedAt window = answers.record? names capturedAt window := by
  -- the path is asked for a process that the answers determine, so the equation is needed for all
  -- of them
  have hpath (process : ProcessId) : others (.imagePath process) = answers (.imagePath process) :=
    h (.imagePath process) trivial
  unfold record? inspect isSystem name? describe
  rw [h (.visible window) rfl, h (.windowClass window) rfl, h (.title window) rfl,
    h (.toolWindow window) rfl, h (.process window) rfl, h (.placement window) rfl,
    h (.bounds window) rfl, h (.monitorOf window) rfl]
  simp only [hpath]

end Answers

/-! ## Actions with a known value -/

namespace Action

variable {τ α β : Type}

/-- Where `P` holds after the action it held before, and then the action has led from a state with
`J` to one with `J`, and its value is `v`; or it was cut short in a state without `J`. -/
def Yields (P J : τ → Prop) (act : Action τ α) (v : α) : Prop :=
  ∀ t, act.Ensures t (fun a t' => P t' → P t ∧ (J t → J t' ∧ a = v)) fun t' => P t' → P t ∧ ¬ J t

variable {P J : τ → Prop} {act : Action τ α} {v : α}

/-- A finished action has its value, and leads nowhere. -/
theorem Yields.pure (v : α) : Yields P J (pure v) v := fun _ hP => ⟨hP, fun hJ => ⟨hJ, rfl⟩⟩

/-- Two actions in a row. The value of the second may depend on that of the first, which is known to
be `v`. -/
theorem Yields.bind {next : α → Action τ β} {k : α → β} (hact : Yields P J act v)
    (hnext : ∀ a, Yields P J (next a) (k a)) : Yields P J (act >>= next) (k v) := by
  intro t
  rw [ensures_bind]
  refine (hact t).mono (fun a t' ha => ?_) fun _ h => h
  refine (hnext a t').mono (fun b t'' hb hP => ?_) fun t'' hcut hP => ?_
  · obtain ⟨hP', hlater⟩ := hb hP
    obtain ⟨hP, hearlier⟩ := ha hP'
    refine ⟨hP, fun hJ => ?_⟩
    obtain ⟨hJ', rfl⟩ := hearlier hJ
    exact hlater hJ'
  · obtain ⟨hP', hlost⟩ := hcut hP
    obtain ⟨hP, hearlier⟩ := ha hP'
    exact ⟨hP, fun hJ => hlost (hearlier hJ).1⟩

/-- A failure ends a fallible action, whatever was to come. -/
theorem Yields.run_bind {act : Fallible τ α} {next : α → Fallible τ β} {v : Except Failure α}
    {k : α → Except Failure β} (hact : Yields P J act.run v)
    (hnext : ∀ a, Yields P J (next a).run (k a)) : Yields P J (act >>= next).run (v >>= k) := by
  rw [ExceptT.run_bind]
  refine .bind (k := fun r => r >>= k) hact fun r => ?_
  rcases r with failure | a
  · exact .pure _
  · exact hnext a

/-- An action that cannot fail, among fallible ones. -/
theorem Yields.run_lift (hact : Yields P J act v) :
    Yields P J (ExceptT.lift act : Fallible τ α).run (.ok v) := by
  intro t
  rw [ensures_run_lift]
  refine (hact t).mono (fun a t' ha hP' => ?_) fun _ h => h
  obtain ⟨hP, hearlier⟩ := ha hP'
  exact ⟨hP, fun hJ => ⟨(hearlier hJ).1, by rw [(hearlier hJ).2]⟩⟩

/-- A loop that builds something from each member yields what the table says of each, in their
order. -/
theorem Yields.collect {build : α → Action τ (Option β)} {f : α → Option β}
    (hbuild : ∀ a, Yields P J (build a) (f a)) (members : List α) :
    Yields P J (Action.collect build members) (members.filterMap f) := by
  induction members with
  | nil => exact .pure []
  | cons a rest ih =>
    have hcons : (a :: rest).filterMap f = (f a).toList ++ rest.filterMap f := by
      rcases hfound : f a with _ | b <;> simp [hfound]
    unfold Action.collect
    rw [hcons]
    exact .bind (k := fun found => found.toList ++ rest.filterMap f) (hbuild a) fun found =>
      .bind (k := fun others => found.toList ++ others) ih fun others => .pure _

end Action

/-! ## Passes with known answers -/

/-- The property `P` can only be kept from states with `S` on if each question is answered as given
and nothing is cut short. The cache does not matter to either. -/
structure Answers.Traces {σ : Type} [WindowSystem σ] (answers : Answers)
    (P S : Workspace σ → Prop) : Prop where
  /-- Each question is answered as given, unless the property is lost. -/
  call : ∀ (call : NativeCall) (work : Workspace σ), call.isQuery →
    (WindowSystem.call call : Action (Workspace σ) _).Ensures work
      (fun answer work' => work'.cache = work.cache ∧
        (P work' → P work ∧ (S work → S work' ∧ answer = answers call)))
      fun work' => P work' → P work ∧ ¬ S work
  /-- The property does not look at the cache. -/
  before : ∀ (work : Workspace σ) (cache : SnapshotCache), P { work with cache } → P work
  /-- Neither does the condition on states. -/
  after : ∀ (work : Workspace σ) (cache : SnapshotCache), S work → S { work with cache }

namespace Workspace

variable {σ : Type}

/-- Looked up and asked for if need be, each name is that of a table. -/
def Recalls (answers : Answers) (names : Table ProcessId String) (work : Workspace σ) : Prop :=
  ∀ process, answers.name? work.cache.processNames process = answers.name? names process

/-- A name that was asked for may be looked up from then on. -/
theorem Recalls.remember {answers : Answers} {names : Table ProcessId String} {work : Workspace σ}
    (h : work.Recalls answers names) {process : ProcessId} {name : String}
    (hname : answers.name? names process = some name) :
    Recalls answers names { work with cache := work.cache.remember process name } := by
  intro other
  by_cases hother : process = other
  · subst hother
    rw [hname]
    simp [Answers.name?, SnapshotCache.find?_remember]
  · rw [← h other]
    simp [Answers.name?, SnapshotCache.find?_remember, hother]

variable [WindowSystem σ] {answers : Answers} {P S : Workspace σ → Prop}
  (h : answers.Traces P S) (names : Table ProcessId String)
include h

/-- A question yields its answer, and no name is learned or lost by it. -/
theorem call_yields (call : NativeCall) (hquery : call.isQuery) :
    Yields P (fun work => S work ∧ Recalls answers names work) (WindowSystem.call call)
      (answers call) := by
  intro work
  refine (h.call call work hquery).mono (fun answer work' hanswer hP' => ?_)
    fun work' hcut hP' => ?_
  · obtain ⟨hcache, hanswer⟩ := hanswer
    obtain ⟨hP, hanswer⟩ := hanswer hP'
    refine ⟨hP, fun hJ => ⟨⟨(hanswer hJ.1).1, fun process => ?_⟩, (hanswer hJ.1).2⟩⟩
    rw [hcache]
    exact hJ.2 process
  · obtain ⟨hP, hS⟩ := hcut hP'
    exact ⟨hP, fun hJ => hS hJ.1⟩

/-- Whether a window belongs to the system is decided by the answers. -/
theorem isSystemWindow_yields (window : WindowHandle) :
    Yields P (fun work => S work ∧ Recalls answers names work) (Native.isSystemWindow window).run
      (answers.isSystem window) := by
  unfold Native.isSystemWindow Answers.isSystem
  refine .run_bind (call_yields h names (.windowClass window) rfl) fun className => ?_
  split
  · exact .pure _
  refine .run_bind (call_yields h names (.title window) rfl) fun title => ?_
  split
  · exact .pure _
  · exact call_yields h names (.toolWindow window) rfl

/-- The name of a process is found or asked for, and then remembered. -/
theorem processName?_yields (process : ProcessId) :
    Yields P (fun work => S work ∧ Recalls answers names work) (processName? process)
      (answers.name? names process) := by
  intro work
  unfold processName?
  rw [ensures_bind, ensures_get]
  rcases hknown : work.cache.processNames.find? process with _ | name
  · dsimp only
    rw [ensures_bind]
    refine (call_yields h names (.imagePath process) rfl work).mono (fun path work' hpath => ?_)
      fun _ h => h
    have hname : work.Recalls answers names → path = answers (.imagePath process) →
        Answers.programName path = answers.name? names process := by
      intro hnames hanswer
      rw [← hnames process, Answers.name?, hknown, Option.none_or, hanswer]
    -- unless the name is remembered, nothing happens after the question
    have hkept : P work' → P work ∧ (S work ∧ work.Recalls answers names →
        (S work' ∧ work'.Recalls answers names) ∧
          Answers.programName path = answers.name? names process) := by
      intro hP'
      obtain ⟨hP, hpath⟩ := hpath hP'
      exact ⟨hP, fun hJ => ⟨(hpath hJ).1, hname hJ.2 (hpath hJ).2⟩⟩
    rcases path with failure | path
    · exact hkept
    unfold Answers.programName at hkept
    dsimp only at hkept ⊢
    generalize ProcessName.ofImagePath path = name at hkept ⊢
    by_cases hempty : name = ""
    · rw [if_pos hempty] at hkept ⊢
      exact hkept
    · rw [if_neg hempty] at hkept ⊢
      rw [ensures_bind, modifyCache, ensures_modify, ensures_pure]
      intro hP'
      obtain ⟨hP, hkept⟩ := hkept (h.before work' _ hP')
      refine ⟨hP, fun hJ => ?_⟩
      obtain ⟨⟨hS, hnames⟩, hname⟩ := hkept hJ
      exact ⟨⟨h.after work' _ hS, hnames.remember hname.symm⟩, hname⟩
  · refine fun hP => ⟨hP, fun hJ => ⟨hJ, ?_⟩⟩
    rw [← hJ.2 process, Answers.name?, hknown, Option.some_or]

/-- The inspection of a window comes to what the table says of it, and if that is a failure, to the
same failure. -/
theorem inspect_yields (capturedAt : Nat) (window : WindowHandle) :
    Yields P (fun work => S work ∧ Recalls answers names work) (inspect capturedAt window).run
      (answers.inspect names capturedAt window) := by
  unfold inspect Answers.inspect
  refine .run_bind (k := fun visible => if visible = true then _ else _)
    (.run_lift (call_yields h names (.visible window) rfl)) fun visible => ?_
  split
  · refine .run_bind (isSystemWindow_yields h names window) fun system => ?_
    split
    · exact .pure _
    refine .run_bind (call_yields h names (.process window) rfl) fun process => ?_
    refine .run_bind (k := answers.describe capturedAt window process)
      (.run_lift (processName?_yields h names process)) fun name => ?_
    rcases name with _ | name
    · exact .pure _
    refine .run_bind (call_yields h names (.placement window) rfl) fun state => ?_
    refine .run_bind (call_yields h names (.bounds window) rfl) fun bounds => ?_
    refine .run_bind (call_yields h names (.monitorOf window) rfl) fun monitor => ?_
    exact .run_bind (call_yields h names (.title window) rfl) fun title => .pure _
  · exact .pure _

/-- A window gets the record that the table gives it. -/
theorem record?_yields (capturedAt : Nat) (window : WindowHandle) :
    Yields P (fun work => S work ∧ Recalls answers names work) (record? capturedAt window)
      (answers.record? names capturedAt window) := by
  unfold record? Answers.record?
  refine .bind (k := fun r => r.toOption.join) (inspect_yields h names capturedAt window)
    fun r => ?_
  rcases r with failure | found
  · exact .pure _
  · exact .pure _

/-- A pass builds the records of the windows listed, in their order. -/
theorem collect_yields (capturedAt : Nat) (windows : List WindowHandle) :
    Yields P (fun work => S work ∧ Recalls answers names work)
      (Action.collect (record? capturedAt) windows)
      (windows.filterMap (answers.record? names capturedAt)) :=
  .collect (record?_yields h names capturedAt) windows

end Workspace

end SoloScreen
