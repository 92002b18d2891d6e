import SoloScreen.Proofs.DesktopEvents
import SoloScreen.Proofs.Inspection

/-!
# Queries of the emulated desktop

On the emulated desktop it can be computed what the queries of the snapshot cache answer.

* `Desktop.Alike`: queries change nothing of a desktop but its counters and its clock.
* `Desktop.record?`, `Desktop.records`: the records of a pass as a function of the desktop; they are
  what its answers make (`Desktop.record?_eq_answers`).
* `Workspace.refresh_records`: what a pass installs, whatever names are known.
* `Workspace.Sharp`: the cache makes a new pass at every query, and no pass is cut short. Then a
  query answers from the desktop as it is (`Workspace.windowsOn_ensures`,
  `Workspace.findFullScreen_ensures`, `Workspace.ownerName?_ensures`).

Two things stand between a query and the desktop. The names in the cache may be out of date: a
process may have changed its program since its name was remembered (`Workspace.KnowsNames` excludes
that). And a window may lie so far out that the area it shares with a monitor is out of range, which
cuts the pass short (`Desktop.Fits` excludes that). Everything here is said under one of these two
assumptions, or both.
-/

namespace SoloScreen

open SoloScreen.Action

/-! ## What a query leaves alone -/

namespace Desktop

/-- The desktops differ at most in their counters and their clocks. -/
structure Alike (desktop desktop' : Desktop) : Prop where
  /-- The monitors are the same. -/
  monitors : desktop'.monitors = desktop.monitors
  /-- The processes are the same. -/
  processes : desktop'.processes = desktop.processes
  /-- The windows are the same, shown in the same way. -/
  windows : desktop'.windows = desktop.windows
  /-- The same is remembered of minimized windows. -/
  remembered : desktop'.remembered = desktop.remembered
  /-- The focus is where it was. -/
  foreground : desktop'.foreground = desktop.foreground
  /-- No handle was given out. -/
  nextHandle : desktop'.nextHandle = desktop.nextHandle
  /-- Enumerations work as before. -/
  enumerationFails : desktop'.enumerationFails = desktop.enumerationFails
  /-- The same windows fail to answer. -/
  failing : desktop'.failing = desktop.failing
  /-- The same windows refuse. -/
  refusing : desktop'.refusing = desktop.refusing

/-- Counters and clock do not matter. -/
theorem Alike.of_counters (enumerations imageQueries stateRequests time : Nat) (desktop : Desktop) :
    Alike desktop { desktop with enumerations, imageQueries, stateRequests, time } :=
  ⟨rfl, rfl, rfl, rfl, rfl, rfl, rfl, rfl, rfl⟩

/-- A desktop is like itself. -/
theorem Alike.refl (desktop : Desktop) : Alike desktop desktop := .of_counters _ _ _ _ desktop

/-- What is like another is likened to. -/
theorem Alike.symm {D E : Desktop} (h : Alike D E) : Alike E D where
  monitors := h.monitors.symm
  processes := h.processes.symm
  windows := h.windows.symm
  remembered := h.remembered.symm
  foreground := h.foreground.symm
  nextHandle := h.nextHandle.symm
  enumerationFails := h.enumerationFails.symm
  failing := h.failing.symm
  refusing := h.refusing.symm

/-- Likeness goes on from one desktop to the next. -/
theorem Alike.trans {D E F : Desktop} (h₁ : Alike D E) (h₂ : Alike E F) : Alike D F where
  monitors := h₂.monitors.trans h₁.monitors
  processes := h₂.processes.trans h₁.processes
  windows := h₂.windows.trans h₁.windows
  remembered := h₂.remembered.trans h₁.remembered
  foreground := h₂.foreground.trans h₁.foreground
  nextHandle := h₂.nextHandle.trans h₁.nextHandle
  enumerationFails := h₂.enumerationFails.trans h₁.enumerationFails
  failing := h₂.failing.trans h₁.failing
  refusing := h₂.refusing.trans h₁.refusing

/-- So it can be followed along an action. -/
theorem Alike.isPath : IsPath Alike := ⟨Alike.refl, Alike.trans⟩

/-- Desktops that are alike differ in no more than how windows are shown. -/
theorem Alike.framed {D E : Desktop} (h : Alike D E) : Framed D E :=
  ⟨h.monitors, h.processes, by rw [h.windows], h.foreground, h.nextHandle, h.enumerationFails,
    h.failing, h.refusing⟩

/-- Nor do their windows differ. -/
theorem Alike.reshown {D E : Desktop} (h : Alike D E) : Reshown D E :=
  ⟨h.framed, by rw [h.windows]⟩

/-- The same windows are open. -/
theorem Alike.find? {D E : Desktop} (h : Alike D E) (window : WindowHandle) :
    E.find? window = D.find? window := by
  unfold Desktop.find?
  rw [h.windows]

/-- The same windows answer, and they are the same. -/
theorem Alike.window {D E : Desktop} (h : Alike D E) (window : WindowHandle) :
    E.window window = D.window window := by
  unfold Desktop.window
  rw [h.failing, h.find?]

/-- A question leaves the desktop as it is, up to counters. -/
theorem answer_alike (desktop : Desktop) {call : NativeCall} (h : call.isQuery) :
    Alike desktop (desktop.answer call).2 := by
  cases call with
  | setState window command => simp [NativeCall.isQuery] at h
  | enumerate =>
    unfold answer
    split <;> exact .of_counters _ _ _ _ desktop
  | _ => exact .of_counters _ _ _ _ desktop

end Desktop

/-- Queries of the cache leave the desktop as it is, up to its counters and its clock. -/
theorem Workspace.queriesConform_alike : QueriesConform (σ := Desktop)
    (fun work work' => Desktop.Alike work.system work'.system)
    fun work work' => Desktop.Alike work.system work'.system :=
  .of_calls (Desktop.Alike.isPath.comap fun work : Workspace Desktop => work.system).toSelf
    (fun _ h (work : Workspace Desktop) => .of_exec_snd (Desktop.answer_alike work.system h))
    (fun work => .of_counters _ _ _ _ work.system)
    fun _ _ => Desktop.Alike.refl _

/-! ## System windows -/

/-- The window belongs to the shell, has a blank title or is a tool window. -/
def DesktopWindow.isSystem (window : DesktopWindow) : Bool :=
  Native.shellClasses.contains window.className || (Text.trim window.title.toList).isEmpty ||
    window.tool

/-- The answer about a state that looks at a desktop. -/
theorem Native.isSystemWindow_exec {ρ : Type} [WindowSystem ρ] {p : ρ} {desktop : Desktop}
    {window : WindowHandle}
    (hclass : (windowClass window : Fallible ρ String).run.exec p =
      (.ok ((desktop.window window).map (·.className)), p))
    (htitle : (title window : Fallible ρ String).run.exec p =
      (.ok ((desktop.window window).map (·.title)), p))
    (htool : (toolWindow window : Fallible ρ Bool).run.exec p =
      (.ok ((desktop.window window).map (·.tool)), p)) :
    (isSystemWindow window : Fallible ρ Bool).run.exec p =
      (.ok ((desktop.window window).map DesktopWindow.isSystem), p) := by
  refine Ensures.exec_eq ?_
  unfold isSystemWindow
  rw [ensures_run_bind, ensures_of_ok hclass]
  rcases hw : desktop.window window with failure | w
  · exact ⟨rfl, rfl⟩
  simp only [Except.map]
  rcases hshell : shellClasses.contains w.className
  · simp only [Bool.false_eq_true, if_false]
    rw [ensures_run_bind, ensures_of_ok htitle, hw]
    simp only [Except.map]
    rcases hblank : (Text.trim w.title.toList).isEmpty
    · simp only [Bool.false_eq_true, if_false]
      rw [ensures_of_ok htool, hw]
      simp only [Except.map, DesktopWindow.isSystem, hshell, hblank, Bool.false_or, and_self]
    · simp only [if_true, ensures_run_pure, and_true, DesktopWindow.isSystem, hshell, hblank,
        Bool.false_or, Bool.true_or]
  · simp only [if_true, ensures_run_pure, and_true, DesktopWindow.isSystem, hshell, Bool.true_or]

/-! ## The records of a pass -/

namespace Desktop

/-- The name of a process, if its program is known and has a name. -/
def processName? (process : ProcessId) (desktop : Desktop) : Option String :=
  match desktop.processes.find? process with
  | none => none
  | some path =>
    if ProcessName.ofImagePath path = "" then none else some (ProcessName.ofImagePath path)

/-- The name of a process whose program is known. -/
theorem processName?_of_find? {process : ProcessId} {desktop : Desktop} {path : String}
    (h : desktop.processes.find? process = some path) :
    desktop.processName? process =
      if ProcessName.ofImagePath path = "" then none else some (ProcessName.ofImagePath path) := by
  unfold processName?
  rw [h]

/-- The record of an open window at a monitor. -/
def recordAt (capturedAt : Nat) (window : WindowHandle) (w : DesktopWindow) (processName : String)
    (monitor : MonitorHandle) : WindowRecord where
  handle := window
  process := w.process
  processName := processName
  title := w.title
  state := w.state
  monitor := monitor
  bounds := w.bounds
  visible := true
  system := false
  capturedAt := capturedAt

/-- The record of a window that answers, is ordinary and whose process has a name. -/
def record? (capturedAt : Nat) (window : WindowHandle) (desktop : Desktop) : Option WindowRecord :=
  match desktop.window window with
  | .error _ => none
  | .ok w =>
    if w.visible && !w.isSystem then
      match desktop.processName? w.process, desktop.monitorOf window with
      | some processName, .ok (.ok monitor) =>
        some (recordAt capturedAt window w processName monitor)
      | _, _ => none
    else none

/-- The records of all windows, in Z-order. -/
def records (capturedAt : Nat) (desktop : Desktop) : List WindowRecord :=
  (desktop.windows.map Prod.fst).filterMap (desktop.record? capturedAt)

/-- What is known of a window with a record: it answers, it is ordinary, its process has a name and
its monitor can be computed. -/
theorem record?_eq_some {capturedAt : Nat} {window : WindowHandle} {desktop : Desktop}
    {record : WindowRecord} (h : desktop.record? capturedAt window = some record) :
    ∃ w processName monitor, desktop.window window = .ok w ∧ w.visible = true ∧
      w.isSystem = false ∧ desktop.processName? w.process = some processName ∧
        desktop.monitorOf window = .ok (.ok monitor) ∧
          record = recordAt capturedAt window w processName monitor := by
  unfold record? at h
  rcases hw : desktop.window window with failure | w
  · simp [hw] at h
  simp only [hw] at h
  split at h
  · rename_i hordinary
    simp only [Bool.and_eq_true, Bool.not_eq_true'] at hordinary
    split at h
    · rename_i name monitor hname hmonitor
      exact ⟨w, name, monitor, rfl, hordinary.1, hordinary.2, hname, hmonitor,
        (Option.some.inj h).symm⟩
    · simp at h
  · simp at h

/-- The time of a pass is only noted. -/
theorem record?_capturedAt (capturedAt : Nat) (window : WindowHandle) (desktop : Desktop) :
    desktop.record? capturedAt window =
      (desktop.record? 0 window).map ({ · with capturedAt }) := by
  unfold record?
  rcases desktop.window window with failure | w
  · rfl
  dsimp only
  rcases w.visible && !w.isSystem
  · rfl
  simp only [if_true]
  rcases desktop.processName? w.process with _ | name
  · rfl
  rcases desktop.monitorOf window with e | failure | monitor <;> rfl

/-- The records are those of the windows that have one. -/
theorem mem_records {capturedAt : Nat} {desktop : Desktop} {record : WindowRecord} :
    record ∈ desktop.records capturedAt ↔
      record.handle ∈ desktop.windows.map Prod.fst ∧
        desktop.record? capturedAt record.handle = some record := by
  unfold records
  rw [List.mem_filterMap]
  constructor
  · rintro ⟨window, hmem, hrecord⟩
    obtain ⟨w, name, monitor, -, -, -, -, -, rfl⟩ := record?_eq_some hrecord
    exact ⟨hmem, hrecord⟩
  · rintro ⟨hmem, hrecord⟩
    exact ⟨record.handle, hmem, hrecord⟩

/-- The name of the process that owns a window, if the window answers. -/
def ownerName? (window : WindowHandle) (desktop : Desktop) : Option String :=
  match desktop.window window with
  | .ok w => desktop.processName? w.process
  | .error _ => none

/-- The record fills the work area of its monitor for a target. -/
def fills (targets : List String) (desktop : Desktop) (record : WindowRecord) : Bool :=
  record.isValid && record.isMaximized && targets.contains record.processName &&
    (desktop.monitor? record.monitor).any record.isFullScreen

/-- No window lies so that its monitor cannot be computed. -/
def Fits (desktop : Desktop) : Prop := ∀ window e, desktop.monitorOf window ≠ .error e

/-- It is enough to look at the bounds of all windows. -/
theorem Fits.of_windows {desktop : Desktop} (h : ∀ entry ∈ desktop.windows,
    (overlaps entry.2.bounds desktop.monitors).toOption.isSome) : desktop.Fits := by
  intro window e hmonitor
  unfold Desktop.monitorOf at hmonitor
  rcases hw : desktop.window window with failure | w
  · simp [hw] at hmonitor
  · have hareas := h (window, w) (Table.mem_of_find? (find?_of_window hw).1)
    rw [hw] at hmonitor
    rcases hoverlaps : overlaps w.bounds desktop.monitors with e' | areas
    · simp [hoverlaps, Except.toOption] at hareas
    · dsimp only at hmonitor
      rw [hoverlaps] at hmonitor
      cases hmonitor

/-- Only the monitor of a window may not be computable. -/
theorem Fits.answer_isOk {desktop : Desktop} (h : desktop.Fits) (call : NativeCall) :
    ∃ answer, (desktop.answer call).1 = .ok answer := by
  cases call with
  | monitorOf window =>
    show ∃ answer, desktop.monitorOf window = .ok answer
    rcases hmonitor : desktop.monitorOf window with e | answer
    · exact absurd hmonitor (h window e)
    · exact ⟨answer, rfl⟩
  | enumerate =>
    unfold Desktop.answer
    split <;> exact ⟨_, rfl⟩
  | _ => exact ⟨_, rfl⟩

/-- How a window is shown does not matter to its monitor. -/
theorem Reshown.monitorOf {D E : Desktop} (h : Reshown D E) (window : WindowHandle) :
    E.monitorOf window = D.monitorOf window := by
  have hwindow := h.window window
  unfold Desktop.monitorOf
  rw [h.monitors]
  rcases hD : D.window window with failure | v <;> rcases hE : E.window window with failure' | w <;>
    simp only [hD, hE, Except.map, Except.ok.injEq, Except.error.injEq, reduceCtorEq] at hwindow ⊢
  · rw [hwindow]
  · have hbounds : w.bounds = v.bounds := congrArg (·.bounds) hwindow
    rw [hbounds]

/-- So the desktop fits in whatever way its windows are shown. -/
theorem Reshown.fits {D E : Desktop} (h : Reshown D E) (hfits : D.Fits) : E.Fits :=
  fun window e => by
    rw [h.monitorOf]
    exact hfits window e

/-- Processes have the same names. -/
theorem Alike.processName? {D E : Desktop} (h : Alike D E) (process : ProcessId) :
    E.processName? process = D.processName? process := by
  unfold Desktop.processName?
  rw [h.processes]

/-- The same records fill their monitors. -/
theorem Alike.fills {D E : Desktop} (h : Alike D E) (targets : List String) :
    E.fills targets = D.fills targets := by
  unfold Desktop.fills monitor?
  rw [h.monitors]

/-- Windows are on the same monitors. -/
theorem Alike.monitorOf {D E : Desktop} (h : Alike D E) (window : WindowHandle) :
    E.monitorOf window = D.monitorOf window := by
  unfold Desktop.monitorOf
  rw [h.window, h.monitors]

/-- Windows have the same records. -/
theorem Alike.record? {D E : Desktop} (h : Alike D E) (capturedAt : Nat) (window : WindowHandle) :
    E.record? capturedAt window = D.record? capturedAt window := by
  unfold Desktop.record?
  simp only [h.window, h.processName?, h.monitorOf]

/-- A pass finds the same. -/
theorem Alike.records {D E : Desktop} (h : Alike D E) (capturedAt : Nat) :
    E.records capturedAt = D.records capturedAt := by
  unfold Desktop.records
  rw [h.windows, funext (h.record? capturedAt)]

/-- The failure of a question about a monitor that the desktop does not have. -/
def monitorGone (monitor : MonitorHandle) : Failure :=
  .platform ("монитор " ++ monitor.display ++ " не найден")

/-! ## The answers of a desktop -/

/-- What the desktop answers as it is. A failure stands in for an answer that cannot be computed. -/
def answers (desktop : Desktop) : Answers := fun call =>
  match (desktop.answer call).1 with
  | .ok answer => answer
  | .error _ => call.method.fail (.platform "")

/-- Two desktops that are alike answer alike. -/
theorem Alike.answer {D E : Desktop} (h : Alike D E) (call : NativeCall) :
    (E.answer call).1 = (D.answer call).1 := by
  cases call with
  | setState window command =>
    simp only [Desktop.answer, requestState, h.window, h.refusing]
    rcases D.window window with failure | w
    · rfl
    · rcases D.refusing.contains window <;> cases command <;> rfl
  | enumerate =>
    unfold Desktop.answer
    rw [h.enumerationFails, h.windows]
    split <;> rfl
  | isWindow window => simp only [Desktop.answer, h.find?]
  | imagePath process => simp only [Desktop.answer, h.processes]
  | monitorOf window => exact h.monitorOf window
  | monitorInfo monitor => simp only [Desktop.answer, Desktop.monitor?, h.monitors]
  | foreground => simp only [Desktop.answer, h.foreground]
  | visible window => simp only [Desktop.answer, h.window]
  | windowClass window => simp only [Desktop.answer, h.window]
  | title window => simp only [Desktop.answer, h.window]
  | toolWindow window => simp only [Desktop.answer, h.window]
  | process window => simp only [Desktop.answer, h.window]
  | placement window => simp only [Desktop.answer, h.window]
  | bounds window => simp only [Desktop.answer, h.window]

/-- All answers are the same. -/
theorem Alike.answers {D E : Desktop} (h : Alike D E) : E.answers = D.answers := by
  funext call
  unfold Desktop.answers
  rw [h.answer]

/-- An answer that can be computed is the answer. -/
theorem answers_of_ok {desktop : Desktop} {call : NativeCall} {answer : call.Answer}
    (h : (desktop.answer call).1 = .ok answer) : desktop.answers call = answer := by
  unfold answers
  rw [h]

section record

variable {desktop : Desktop} {window : WindowHandle} {w : DesktopWindow}

/-- The answers about a window say whether it belongs to the system. -/
theorem answers_isSystem (h : desktop.window window = .ok w) :
    desktop.answers.isSystem window = .ok w.isSystem := by
  have hclass : desktop.answers (.windowClass window) = .ok w.className :=
    answers_of_ok (by simp [answer, h, Except.map])
  have htitle : desktop.answers (.title window) = .ok w.title :=
    answers_of_ok (by simp [answer, h, Except.map])
  have htool : desktop.answers (.toolWindow window) = .ok w.tool :=
    answers_of_ok (by simp [answer, h, Except.map])
  unfold Answers.isSystem DesktopWindow.isSystem
  rw [hclass, htitle, htool]
  by_cases hshell : w.className ∈ Native.shellClasses <;>
    by_cases hblank : Text.trim w.title.toList = [] <;>
      simp [bind, Except.bind, pure, Except.pure, hshell, hblank]

/-- The answers about a process give its name. No name is known beforehand, so the program is asked
for. -/
theorem answers_name? (process : ProcessId) (desktop : Desktop) :
    desktop.answers.name? [] process = desktop.processName? process := by
  unfold Answers.name? processName?
  rcases hpath : desktop.processes.find? process with _ | path
  · have hanswer : desktop.answers (.imagePath process) =
        .error (.platform ("процесс " ++ toString process ++ " недоступен")) :=
      answers_of_ok (by simp [answer, hpath])
    simp [hanswer, Answers.programName]
  · have hanswer : desktop.answers (.imagePath process) = .ok path :=
      answers_of_ok (by simp [answer, hpath])
    simp [hanswer, Answers.programName]

/-- The record of a window is made of the answers about it. -/
theorem record?_eq_answers (capturedAt : Nat) (window : WindowHandle) (desktop : Desktop) :
    desktop.record? capturedAt window = desktop.answers.record? [] capturedAt window := by
  unfold record? Answers.record? Answers.inspect
  rcases hw : desktop.window window with failure | w
  · have hvisible : desktop.answers (.visible window) = false :=
      answers_of_ok (by simp [answer, hw])
    rw [hvisible]
    rfl
  have hvisible : desktop.answers (.visible window) = w.visible :=
    answers_of_ok (by simp [answer, hw])
  have hprocess : desktop.answers (.process window) = .ok w.process :=
    answers_of_ok (by simp [answer, hw, Except.map])
  have hstate : desktop.answers (.placement window) = .ok w.state :=
    answers_of_ok (by simp [answer, hw, Except.map])
  have hbounds : desktop.answers (.bounds window) = .ok w.bounds :=
    answers_of_ok (by simp [answer, hw, Except.map])
  have htitle : desktop.answers (.title window) = .ok w.title :=
    answers_of_ok (by simp [answer, hw, Except.map])
  have hmonitor : desktop.answers (.monitorOf window) = match desktop.monitorOf window with
      | .ok monitor => monitor
      | .error _ => .error (.platform "") := by
    unfold answers
    simp only [answer]
    rcases desktop.monitorOf window <;> rfl
  dsimp only
  rw [hvisible, answers_isSystem hw, hprocess]
  rcases w.visible
  · rfl
  rcases w.isSystem
  · simp only [bind, Except.bind, if_true, Bool.false_eq_true, if_false, answers_name?,
      Bool.not_false, Bool.and_self]
    rcases desktop.processName? w.process with _ | name
    · rfl
    · unfold Answers.describe
      rw [hstate, hbounds, hmonitor, htitle]
      rcases desktop.monitorOf window with e | failure | monitor <;> rfl
  · rfl

end record

/-- Queries find the answers of the desktop, if it fits. -/
theorem traces_alike {D : Desktop} (hfits : D.Fits) :
    D.answers.Traces (fun work : Workspace Desktop => Alike D work.system) fun _ => True where
  call call work hquery := by
    have hexec : (WindowSystem.call call : Action (Workspace Desktop) _).exec work =
      ((work.system.answer call).1, { work with system := (work.system.answer call).2 }) := rfl
    have hback : Alike D (work.system.answer call).2 → Alike D work.system := fun h =>
      h.trans (answer_alike work.system hquery).symm
    rcases hanswer : (work.system.answer call).1 with e | answer
    · rw [hanswer] at hexec
      rw [ensures_of_error hexec]
      intro h
      obtain ⟨answer, hok⟩ := hfits.answer_isOk call
      rw [← (hback h).answer, hanswer] at hok
      cases hok
    · rw [hanswer] at hexec
      rw [ensures_of_ok hexec]
      refine ⟨rfl, fun h => ⟨hback h, fun _ => ⟨trivial, ?_⟩⟩⟩
      exact (answers_of_ok (((hback h).answer call).symm.trans hanswer)).symm
  before _ _ h := h
  after _ _ h := h

end Desktop

/-! ## A pass of the cache -/

namespace Workspace

/-- The names that the cache knows are those of the desktop. -/
def KnowsNames (work : Workspace Desktop) : Prop :=
  ∀ process name, work.cache.processNames.find? process = some name →
    work.system.processName? process = some name

/-- What asking about single windows does to a workspace: the desktop stays as it is up to counters
and clock, and the cache learns at most names. -/
structure Learns (work work' : Workspace Desktop) : Prop where
  /-- The desktop is the same up to counters and clock. -/
  alike : Desktop.Alike work.system work'.system
  /-- The clock stands where it stood. -/
  time : work'.system.time = work.system.time
  /-- The permitted age is the same. -/
  staleness : work'.cache.staleness = work.cache.staleness
  /-- The snapshot is the same. -/
  snapshot : work'.cache.snapshot = work.cache.snapshot
  /-- No pass was completed. -/
  lastRefresh : work'.cache.lastRefresh = work.cache.lastRefresh
  /-- Names that are added are true. -/
  names : work.KnowsNames → work'.KnowsNames

/-- What is learned adds up. -/
theorem Learns.isPath : IsPath Learns where
  refl _ := ⟨.refl _, rfl, rfl, rfl, rfl, id⟩
  trans h₁ h₂ := ⟨h₁.alike.trans h₂.alike, h₂.time.trans h₁.time, h₂.staleness.trans h₁.staleness,
    h₂.snapshot.trans h₁.snapshot, h₂.lastRefresh.trans h₁.lastRefresh, h₂.names ∘ h₁.names⟩

section native

variable {work : Workspace Desktop} {window : WindowHandle} {cut : Workspace Desktop → Prop}

/-- The process that owns a window. -/
@[simp] theorem ensures_process {good : Except Failure ProcessId → Workspace Desktop → Prop} :
    (Native.process window).run.Ensures work good cut ↔
      good ((work.system.window window).map (·.process)) work := Iff.rfl

/-- The geometry of a monitor is known or it is not; asking for it changes nothing. -/
@[simp] theorem ensures_monitorInfo {monitor : MonitorHandle}
    {good : Except Failure MonitorInfo → Workspace Desktop → Prop} :
    (Native.monitorInfo monitor).run.Ensures work good cut ↔
      good (match work.system.monitor? monitor with
        | some info => .ok info
        | none => .error (Desktop.monitorGone monitor)) work := Iff.rfl

end native

/-- The workspace after the program of a process was asked for. -/
def askedImage (work : Workspace Desktop) : Workspace Desktop :=
  { work with system := { work.system with imageQueries := work.system.imageQueries + 1 } }

/-- The program of a process is known or it is not; asking for it is counted. -/
theorem imagePath_exec (process : ProcessId) (work : Workspace Desktop) :
    (Native.imagePath process).run.exec work =
      (.ok (match work.system.processes.find? process with
        | some path => .ok path
        | none => .error (.platform ("процесс " ++ toString process ++ " недоступен"))),
        work.askedImage) := rfl

/-- Nothing is learned from the counter. -/
theorem learns_askedImage (work : Workspace Desktop) : Learns work work.askedImage :=
  ⟨.of_counters _ _ _ _ work.system, rfl, rfl, rfl, rfl, id⟩

/-- A true name is learned. -/
theorem learns_remember {work : Workspace Desktop} {process : ProcessId} {name : String}
    (h : work.system.processName? process = some name) :
    Learns work { work with cache := work.cache.remember process name } where
  alike := .refl _
  time := rfl
  staleness := rfl
  snapshot := rfl
  lastRefresh := rfl
  names hnames other found hfound := by
    rw [SnapshotCache.find?_remember] at hfound
    split at hfound
    · rename_i heq
      rw [← Option.some.inj hfound, ← heq]
      exact h
    · exact hnames other found hfound

/-- The name of a process is found as the desktop has it, if the names that are known are true. -/
theorem processName?_ensures (process : ProcessId) (work : Workspace Desktop) :
    (processName? process).Ensures work
      (fun name work' => (work.KnowsNames → name = work.system.processName? process) ∧
        Learns work work') fun _ => False := by
  unfold processName?
  rw [ensures_bind, ensures_get]
  rcases hknown : work.cache.processNames.find? process with _ | name
  · dsimp only
    rw [ensures_bind]
    rw [ensures_of_ok (imagePath_exec process work)]
    have hcounted := learns_askedImage work
    rcases hpath : work.system.processes.find? process with _ | path
    · exact ⟨fun _ => by simp [Desktop.processName?, hpath], hcounted⟩
    · have hprocess := Desktop.processName?_of_find? hpath
      dsimp only
      generalize ProcessName.ofImagePath path = name at hprocess ⊢
      by_cases hempty : name = ""
      · rw [if_pos hempty] at hprocess ⊢
        exact ⟨fun _ => hprocess.symm, hcounted⟩
      · rw [if_neg hempty] at hprocess ⊢
        rw [ensures_bind, modifyCache, ensures_modify, ensures_pure]
        exact ⟨fun _ => hprocess.symm, Learns.isPath.trans hcounted (learns_remember hprocess)⟩
  · exact ⟨fun hnames => (hnames process name hknown).symm, Learns.isPath.refl work⟩

/-- Learning does not move windows. -/
theorem Learns.fits {work work' : Workspace Desktop} (h : Learns work work')
    (hfits : work.system.Fits) : work'.system.Fits := fun window e => by
  rw [h.alike.monitorOf]
  exact hfits window e

/-- The names that are known are true if each name is found as the desktop has it. -/
theorem knowsNames_iff {work : Workspace Desktop} :
    work.KnowsNames ↔ work.Recalls work.system.answers [] := by
  unfold Recalls
  simp only [Desktop.answers_name?]
  constructor
  · intro hnames process
    rcases hknown : work.cache.processNames.find? process with _ | name
    · rw [← Desktop.answers_name?, Answers.name?, hknown]
      rfl
    · rw [Answers.name?, hknown, hnames process name hknown]
      rfl
  · intro hnames process name hknown
    rw [← hnames process, Answers.name?, hknown]
    rfl

/-- A question teaches nothing but leaves everything as it was. If it is cut short, the desktop is
still alike. -/
theorem call_learns {call : NativeCall} (hquery : call.isQuery) :
    Conforms Learns (fun work work' => Desktop.Alike work.system work'.system)
      (WindowSystem.call call : Action (Workspace Desktop) _) := by
  intro work
  have halike := Desktop.answer_alike work.system hquery
  have hnames : ∀ work' : Workspace Desktop, work'.cache = work.cache →
      Desktop.Alike work.system work'.system → work.KnowsNames → work'.KnowsNames := by
    intro work' hcache halike hnames process name hname
    rw [halike.processName?]
    exact hnames process name (hcache ▸ hname)
  have hexec : (WindowSystem.call call : Action (Workspace Desktop) _).exec work =
    ((work.system.answer call).1, { work with system := (work.system.answer call).2 }) := rfl
  rcases hanswer : (work.system.answer call).1 with e | answer
  · rw [ensures_of_error (hanswer ▸ hexec)]
    exact halike
  · rw [ensures_of_ok (hanswer ▸ hexec)]
    exact ⟨halike, Desktop.time_answer work.system call, rfl, rfl, rfl, hnames _ rfl halike⟩

/-- Inspecting all windows finds the records that the desktop's answers make, with the names that
are known. -/
theorem collect_records (capturedAt : Nat) (windows : List WindowHandle) {work : Workspace Desktop}
    (hfits : work.system.Fits) :
    (Action.collect (record? capturedAt) windows).Ensures work
      (fun records work' => records = windows.filterMap
        (work.system.answers.record? work.cache.processNames capturedAt) ∧ Learns work work')
      fun _ => False := by
  have hpath : IsPathTo Learns fun work work' : Workspace Desktop =>
      Desktop.Alike work.system work'.system :=
    ⟨Learns.isPath, fun h h' => h.alike.trans h'⟩
  have hlearns := Conforms.collect hpath windows (record?_conforms hpath
    (fun call hinspects => call_learns (NativeCall.isQuery_of_inspects hinspects))
    (fun process work =>
      (processName?_ensures process work).mono (fun _ _ h => h.2) fun _ => False.elim) capturedAt)
  have hstart : work.Recalls work.system.answers work.cache.processNames := fun _ => rfl
  refine ((collect_yields (Desktop.traces_alike hfits) work.cache.processNames capturedAt windows
    work).and (hlearns work)).mono (fun records work' h => ?_) fun work' h => ?_
  · obtain ⟨hyields, hlearned⟩ := h
    exact ⟨((hyields hlearned.alike).2 ⟨trivial, hstart⟩).2, hlearned⟩
  · exact (h.1 h.2).2 ⟨trivial, hstart⟩

/-- The workspace after the windows were enumerated. -/
def enumerated (work : Workspace Desktop) : Workspace Desktop :=
  { work with system := { work.system with enumerations := work.system.enumerations + 1 } }

/-- An enumeration that works lists the windows from top to bottom, and is counted. -/
theorem enumerate_exec {work : Workspace Desktop} (h : work.system.enumerationFails = false) :
    (Native.enumerate : Fallible (Workspace Desktop) _).run.exec work =
      (.ok (.ok (work.system.windows.map Prod.fst)), work.enumerated) := by
  show ((work.system.answer .enumerate).1, { work with
    system := (work.system.answer .enumerate).2 }) = _
  unfold Desktop.answer
  rw [if_neg (by simp [h])]
  rfl

/-- The workspace after the clock was read. -/
def clocked (work : Workspace Desktop) : Workspace Desktop :=
  { work with system := { work.system with time := work.system.time + 1 } }

/-- The clock is read, and stands one later afterwards. -/
theorem readClock_exec (work : Workspace Desktop) :
    (WindowSystem.readClock : Action (Workspace Desktop) Nat).exec work =
      (.ok work.system.time, work.clocked) := rfl

/-- The beginning of a pass leaves the desktop as it is, up to counters and clock. -/
theorem alike_clocked (work : Workspace Desktop) :
    Desktop.Alike work.system work.enumerated.clocked.system :=
  .of_counters _ _ _ _ work.system

/-- A pass installs the records that the desktop's answers make. -/
theorem refresh_records {work : Workspace Desktop}
    (henumerates : work.system.enumerationFails = false)
    (hfits : work.system.Fits) :
    (refresh : Action (Workspace Desktop) Unit).Ensures work
      (fun _ work' => ∃ passed, Learns work.enumerated.clocked passed ∧ work' = { passed with
        cache := passed.cache.install work.system.time ((work.system.windows.map Prod.fst).filterMap
          (work.system.answers.record? work.cache.processNames work.system.time)) })
      fun _ => False := by
  unfold refresh
  rw [ensures_bind, ensures_of_ok (enumerate_exec henumerates)]
  dsimp only
  rw [ensures_bind, ensures_of_ok (readClock_exec _), ensures_bind]
  have hfits' : work.enumerated.clocked.system.Fits := hfits
  refine (collect_records work.system.time _ hfits').mono (fun records passed h => ?_) fun _ => id
  obtain ⟨rfl, hlearns⟩ := h
  rw [modifyCache, ensures_modify]
  exact ⟨passed, hlearns, by rw [(alike_clocked work).answers]; rfl⟩

/-! ## Queries of a sharp cache -/

/-- Every query makes a new pass, and the pass finds the desktop as it is. -/
structure Sharp (work : Workspace Desktop) : Prop where
  /-- A snapshot is too old as soon as any time has passed. -/
  staleness : work.cache.staleness = 0
  /-- The last pass was over before now. -/
  past : ∀ refreshed, work.cache.lastRefresh = some refreshed → refreshed < work.system.time
  /-- The names that are known are true. -/
  names : work.KnowsNames
  /-- Enumerations work. -/
  enumerates : work.system.enumerationFails = false
  /-- Every window's monitor can be computed. -/
  fits : work.system.Fits

/-- A change of the desktop leaves the cache sharp if it keeps the processes. -/
theorem Sharp.system {work : Workspace Desktop} {desktop : Desktop} (h : Sharp work)
    (hprocesses : desktop.processes = work.system.processes)
    (henumerates : desktop.enumerationFails = work.system.enumerationFails)
    (htime : work.system.time ≤ desktop.time) (hfits : desktop.Fits) :
    Sharp { work with system := desktop } where
  staleness := h.staleness
  past refreshed hrefreshed := Nat.lt_of_lt_of_le (h.past refreshed hrefreshed) htime
  names process name hname := by
    have := h.names process name hname
    unfold Desktop.processName? at this ⊢
    rwa [hprocesses]
  enumerates := henumerates.trans h.enumerates
  fits := hfits

/-- A sharp cache that learns names is sharp. -/
theorem Sharp.learns {work work' : Workspace Desktop} (h : Sharp work)
    (hlearns : Learns work work') : Sharp work' where
  staleness := hlearns.staleness.trans h.staleness
  past refreshed hrefreshed := by
    rw [hlearns.time]
    exact h.past refreshed (hlearns.lastRefresh ▸ hrefreshed)
  names := hlearns.names h.names
  enumerates := hlearns.alike.enumerationFails.trans h.enumerates
  fits := hlearns.fits h.fits

/-- What a query leaves: a sharp cache before the same desktop. -/
structure Looked (work work' : Workspace Desktop) : Prop where
  /-- The desktop is the same up to counters and clock. -/
  alike : Desktop.Alike work.system work'.system
  /-- The cache is sharp. -/
  sharp : Sharp work'

/-- One query after the other. -/
theorem Looked.trans {work work' work'' : Workspace Desktop} (h₁ : Looked work work')
    (h₂ : Looked work' work'') : Looked work work'' :=
  ⟨h₁.alike.trans h₂.alike, h₂.sharp⟩

/-- Learning names is a query. -/
theorem Looked.of_learns {work work' : Workspace Desktop} (h : Sharp work)
    (hlearns : Learns work work') : Looked work work' :=
  ⟨hlearns.alike, h.learns hlearns⟩

/-- A pass finds the records of the desktop. -/
theorem refresh_ensures {work : Workspace Desktop} (h : Sharp work) :
    (refresh : Action (Workspace Desktop) Unit).Ensures work
      (fun _ work' => Looked work work' ∧
        ∃ capturedAt, work'.cache.snapshot.windows = work.system.records capturedAt)
      fun _ => False := by
  have hnames : work.enumerated.clocked.KnowsNames := h.names
  have hfits : work.enumerated.clocked.system.Fits := h.fits
  refine (refresh_records h.enumerates h.fits).mono (fun _ work' hwork' => ?_) fun _ => id
  obtain ⟨passed, hlearns, rfl⟩ := hwork'
  have halike := (alike_clocked work).trans hlearns.alike
  -- the records that the answers make do not depend on which true names are known already
  have hrecords : (work.system.windows.map Prod.fst).filterMap
      (work.system.answers.record? work.cache.processNames work.system.time) =
        work.system.records work.system.time := by
    unfold Desktop.records
    rw [Answers.record?_congr (knowsNames_iff.mp h.names),
      funext fun window => work.system.record?_eq_answers work.system.time window]
  refine ⟨⟨halike, ⟨hlearns.staleness.trans h.staleness, fun refreshed hrefreshed => ?_,
    fun process name hname => ?_, halike.enumerationFails.trans h.enumerates, hlearns.fits hfits⟩⟩,
    work.system.time, hrecords⟩
  · obtain rfl := Option.some.inj hrefreshed
    show work.system.time < passed.system.time
    rw [hlearns.time]
    exact Nat.lt_succ_self _
  · exact hlearns.names hnames process name (SnapshotCache.find?_of_install hname)

/-- A sharp cache is stale at every query. -/
theorem isStale_ensures {work : Workspace Desktop} (h : Sharp work) :
    (isStale : Action (Workspace Desktop) Bool).Ensures work
      (fun stale work' => stale = true ∧ Looked work work') fun _ => False := by
  unfold isStale
  rw [ensures_bind, ensures_get]
  rcases hrefreshed : work.cache.lastRefresh with _ | refreshed
  · exact ⟨rfl, .refl _, h⟩
  · have hpast := h.past refreshed hrefreshed
    dsimp only
    rw [ensures_bind, ensures_of_ok (readClock_exec work), ensures_bind, ensures_get, ensures_pure]
    refine ⟨?_, .of_counters _ _ _ _ work.system, h.staleness, fun other hother => ?_, h.names,
      h.enumerates, h.fits⟩
    · show decide (work.cache.staleness < work.system.time - refreshed) = true
      rw [h.staleness]
      exact decide_eq_true (by omega)
    · have := h.past other hother
      show other < work.system.time + 1
      omega

/-- The snapshot of a sharp cache holds the records of the desktop as it is. -/
theorem snapshot_ensures {work : Workspace Desktop} (h : Sharp work) :
    (snapshot : Action (Workspace Desktop) WindowSnapshot).Ensures work
      (fun found work' => Looked work work' ∧
        ∃ capturedAt, found.windows = work.system.records capturedAt) fun _ => False := by
  unfold snapshot
  rw [ensures_bind]
  refine (isStale_ensures h).mono (fun stale work' hstale => ?_) fun _ => id
  obtain ⟨rfl, hlooked⟩ := hstale
  rw [if_pos rfl, ensures_bind]
  refine (refresh_ensures hlooked.sharp).mono (fun _ work'' hwork'' => ?_) fun _ => id
  obtain ⟨hlooked', capturedAt, hrecords⟩ := hwork''
  rw [ensures_bind, ensures_get, ensures_pure]
  exact ⟨hlooked.trans hlooked', capturedAt, by rw [hrecords, hlooked.alike.records]⟩

/-- The windows on a monitor are those that the desktop has there. -/
theorem windowsOn_ensures (monitor : MonitorHandle) (exclude : Option WindowHandle)
    {work : Workspace Desktop} (h : Sharp work) :
    (windowsOn monitor exclude).Ensures work
      (fun found work' => Looked work work' ∧ ∃ capturedAt, found =
        (work.system.records capturedAt).filter fun record =>
          record.monitor = monitor ∧ some record.handle ≠ exclude) fun _ => False := by
  unfold windowsOn windows
  rw [ensures_bind, ensures_bind]
  refine (snapshot_ensures h).mono (fun found work' hwork' => ?_) fun _ => id
  obtain ⟨hlooked, capturedAt, hrecords⟩ := hwork'
  exact ⟨hlooked, capturedAt, by rw [hrecords]⟩

/-- The monitors already asked are known as the desktop has them. -/
def KnowsMonitors (known : Table MonitorHandle (Option MonitorInfo)) (desktop : Desktop) : Prop :=
  ∀ monitor info, known.find? monitor = some info → info = desktop.monitor? monitor

/-- What the desktop answers is known truly. -/
theorem KnowsMonitors.insert {known : Table MonitorHandle (Option MonitorInfo)} {desktop : Desktop}
    (h : KnowsMonitors known desktop) (monitor : MonitorHandle) :
    KnowsMonitors (known.insert monitor (desktop.monitor? monitor)) desktop := by
  intro other info hinfo
  rw [Table.find?_insert] at hinfo
  split at hinfo
  · rename_i heq
    rw [← Option.some.inj hinfo, heq]
  · exact h other info hinfo

/-- A monitor that was asked is not asked again; otherwise the answer is the desktop's, and is
noted. -/
theorem monitorOnce_ensures {known : Table MonitorHandle (Option MonitorInfo)}
    {work : Workspace Desktop} (h : KnowsMonitors known work.system) (monitor : MonitorHandle) :
    (monitorOnce known monitor).Ensures work
      (fun asked work' => asked.1 = work.system.monitor? monitor ∧
        KnowsMonitors asked.2 work.system ∧ work' = work) fun _ => False := by
  unfold monitorOnce
  rcases hknown : known.find? monitor with _ | info
  · have hinsert := h.insert monitor
    dsimp only
    rw [ensures_bind, ensures_monitorInfo]
    rcases hinfo : work.system.monitor? monitor with _ | info
    · exact ⟨rfl, hinfo ▸ hinsert, rfl⟩
    · exact ⟨rfl, hinfo ▸ hinsert, rfl⟩
  · exact ⟨h monitor info hknown, h, rfl⟩

/-- The walk finds the first record that fills its monitor, whatever monitors are known already. -/
theorem firstFullScreen_ensures (targets : List String) (records : List WindowRecord)
    {known : Table MonitorHandle (Option MonitorInfo)} {work : Workspace Desktop}
    (h : KnowsMonitors known work.system) :
    (firstFullScreen targets known records).Ensures work
      (fun found work' => found = records.find? (work.system.fills targets) ∧ work' = work)
      fun _ => False := by
  induction records generalizing known with
  | nil => exact ⟨rfl, rfl⟩
  | cons record rest ih =>
    unfold firstFullScreen
    rcases hcandidate : record.isValid && record.isMaximized && targets.contains record.processName
    · have hfills : work.system.fills targets record = false := by
        simp only [Desktop.fills, hcandidate, Bool.false_and]
      simp only [Bool.false_eq_true, if_false, List.find?_cons, hfills]
      exact ih h
    · rw [if_pos rfl, ensures_bind]
      refine (monitorOnce_ensures h record.monitor).mono (fun asked work' hasked => ?_) fun _ => id
      obtain ⟨hinfo, hknown, rfl⟩ := hasked
      have hfills : work'.system.fills targets record = asked.1.any record.isFullScreen := by
        simp only [Desktop.fills, hcandidate, Bool.true_and, hinfo]
      obtain ⟨info, asked⟩ := asked
      dsimp only at hfills ⊢
      rw [List.find?_cons, hfills]
      rcases info.any record.isFullScreen
      · exact ih hknown
      · exact ⟨rfl, rfl⟩

/-- The search finds the first record that fills its monitor for a target. -/
theorem findFullScreen_ensures (targets : List String) {work : Workspace Desktop} (h : Sharp work) :
    (findFullScreen targets).Ensures work
      (fun found work' => Looked work work' ∧ ∃ capturedAt,
        found = (work.system.records capturedAt).find? (work.system.fills targets))
      fun _ => False := by
  unfold findFullScreen
  split
  · rename_i hempty
    refine ⟨⟨.refl _, h⟩, 0, ?_⟩
    have hnone : ∀ record, work.system.fills targets record = false := by
      intro record
      simp [Desktop.fills, List.isEmpty_iff.mp hempty]
    exact (List.find?_eq_none.mpr fun record _ => by simp [hnone record]).symm
  · unfold windows
    rw [ensures_bind, ensures_bind]
    refine (snapshot_ensures h).mono (fun found work' hwork' => ?_) fun _ => id
    obtain ⟨hlooked, capturedAt, hrecords⟩ := hwork'
    rw [ensures_pure, hrecords]
    have hnone : KnowsMonitors [] work'.system := fun monitor info hinfo => by simp at hinfo
    refine (firstFullScreen_ensures targets _ hnone).mono (fun first work'' hfirst => ?_)
      fun _ => id
    obtain ⟨rfl, rfl⟩ := hfirst
    exact ⟨hlooked, capturedAt, by rw [hlooked.alike.fills]⟩

/-- The owner of a window is found, whether the snapshot has the window or not. -/
theorem ownerName?_ensures (window : WindowHandle) {work : Workspace Desktop} (h : Sharp work) :
    (ownerName? window).Ensures work
      (fun name work' => name = work.system.ownerName? window ∧ Looked work work')
      fun _ => False := by
  unfold ownerName?
  rw [ensures_bind]
  refine (snapshot_ensures h).mono (fun found work' hwork' => ?_) fun _ => id
  obtain ⟨hlooked, capturedAt, hrecords⟩ := hwork'
  rcases hfound : found.find? window with _ | record
  · dsimp only
    rw [ensures_bind, ensures_process, hlooked.alike.window]
    unfold Desktop.ownerName?
    rcases hw : work.system.window window with failure | w
    · exact ⟨rfl, hlooked⟩
    · refine (processName?_ensures w.process work').mono
        (fun name work'' hname => ⟨?_, hlooked.trans (.of_learns hlooked.sharp hname.2)⟩)
        fun _ => id
      rw [hname.1 hlooked.sharp.names, hlooked.alike.processName?]
  · refine ⟨?_, hlooked⟩
    unfold WindowSnapshot.find? at hfound
    have hmem := List.mem_of_find?_eq_some hfound
    obtain rfl : record.handle = window := by simpa using List.find?_some hfound
    rw [hrecords, Desktop.mem_records] at hmem
    obtain ⟨w, name, monitor, hw, -, -, hname, -, hrecord⟩ := Desktop.record?_eq_some hmem.2
    unfold Desktop.ownerName?
    rw [hw]
    dsimp only
    rw [hname, hrecord]
    rfl

end Workspace

end SoloScreen
