import SoloScreen.Proofs.Calls
import SoloScreen.Proofs.DesktopQueries

/-!
# The minimizer on the emulated desktop

On the emulated desktop it can be computed what the minimizer does to each window.

* `Minimizer.isEligible_exec`: the questions of the minimizer change nothing at all, and their
  answer is `Desktop.isEligible`.
* `Minimizer.hide_exec`, `Minimizer.hideAgain_exec`, `Minimizer.unhide_exec`: what becomes of the
  list and of the desktop.
* `Minimizer.ensures_minimizeOnMonitor`, `Minimizer.ensures_minimizeBeside`: what is left of an
  operation once its questions are answered.
-/

namespace SoloScreen

open SoloScreen.Action

/-! ## Calls -/

/-- Native calls change no more than how windows are shown. -/
theorem Desktop.callsConform_framed : CallsConform Desktop.Framed Desktop.Framed where
  path := IsPath.toSelf ⟨Desktop.Framed.refl, Desktop.Framed.trans⟩
  call call desktop := .of_exec_snd (desktop.answer_framed call)
  readClock _ := ⟨rfl, rfl, rfl, rfl, rfl, rfl, rfl, rfl⟩
  settled := id

/-- Native calls keep a desktop sound. -/
theorem Desktop.callsConform_sound :
    CallsConform (fun D E : Desktop => D.Sound → E.Sound) fun D E => D.Sound → E.Sound where
  path := (IsPath.keeps Desktop.Sound).toSelf
  call call _ := .of_exec_snd fun hsound => hsound.answer call
  readClock _ hsound := hsound.of_eq rfl rfl rfl
  settled := id

/-! ## What can be minimized -/

/-- The window is visible, not a system window, and not minimized. -/
def DesktopWindow.isEligible (window : DesktopWindow) : Bool :=
  window.visible && !window.isSystem && window.state != .minimized

namespace Desktop

/-- The window answers and can be minimized. -/
def isEligible (window : WindowHandle) (desktop : Desktop) : Bool :=
  match desktop.window window with
  | .ok w => w.isEligible
  | .error _ => false

/-- The window can be minimized and does not refuse. -/
def yields (window : WindowHandle) (desktop : Desktop) : Bool :=
  desktop.isEligible window && !desktop.refusing.contains window

/-- The desktop after an eligible window was asked to minimize. -/
def asked (window : WindowHandle) (desktop : Desktop) : Desktop :=
  if desktop.isEligible window then (desktop.requestState window .minimize).2 else desktop

/-- The window answers and is visible. -/
def isShown (window : WindowHandle) (desktop : Desktop) : Bool :=
  match desktop.window window with
  | .ok w => w.visible
  | .error _ => false

/-- The window is visible and does not refuse to be restored. -/
def returns (window : WindowHandle) (desktop : Desktop) : Bool :=
  desktop.isShown window && !desktop.refusing.contains window

/-- The desktop after a visible window was asked to come back. -/
def recalled (window : WindowHandle) (desktop : Desktop) : Desktop :=
  if desktop.isShown window then (desktop.requestState window .restore).2 else desktop

/-- A window that answers confirms a request unless it refuses. -/
theorem requestState_fst {window : WindowHandle} {desktop : Desktop} {w : DesktopWindow}
    (h : desktop.window window = .ok w) (command : WindowCommand) :
    (desktop.requestState window command).1 = .ok (!desktop.refusing.contains window) := by
  simp only [requestState, h]
  rcases desktop.refusing.contains window
  · cases command <;> rfl
  · rfl

/-- A window that can be minimized answers, and it is an ordinary visible one that is not minimized
yet. -/
theorem exists_of_isEligible {window : WindowHandle} {desktop : Desktop}
    (h : desktop.isEligible window = true) :
    ∃ w, desktop.window window = .ok w ∧ w.visible = true ∧ w.isSystem = false ∧
      w.state ≠ .minimized := by
  unfold isEligible at h
  rcases hw : desktop.window window with failure | w
  · simp [hw] at h
  · simp only [hw, DesktopWindow.isEligible, Bool.and_eq_true, Bool.not_eq_true', bne_iff_ne] at h
    exact ⟨w, rfl, h.1.1, h.1.2, h.2⟩

/-- Only the window that is asked changes, if it yields. -/
theorem find?_asked (window other : WindowHandle) (desktop : Desktop) :
    (desktop.asked window).find? other =
      if other = window ∧ desktop.yields window then
        (desktop.find? other).map ({ · with state := .minimized })
      else desktop.find? other := by
  unfold asked yields
  rcases heligible : desktop.isEligible window
  · simp
  simp only [if_true, Bool.true_and]
  obtain ⟨w, hw, -⟩ := exists_of_isEligible heligible
  by_cases hrefusing : window ∈ desktop.refusing
  · simp [requestState, hw, hrefusing, find?]
  · simp only [requestState, hw, List.contains_eq_mem, hrefusing, decide_false, Bool.not_false,
      Bool.false_eq_true, if_false, and_true]
    exact find?_withState window other .minimized desktop.windows

/-- Where no window refuses, a visible one comes back. -/
theorem returns_of_isShown {window : WindowHandle} {desktop : Desktop} (h : desktop.Faultless) :
    desktop.returns window = desktop.isShown window := by
  simp [returns, h.obeys]

/-- Whether a window comes back is a matter of that window and of the faults alone. -/
theorem returns_congr {D E : Desktop} {window : WindowHandle}
    (hfind : E.find? window = D.find? window) (hfailing : E.failing = D.failing)
    (hrefusing : E.refusing = D.refusing) :
    E.returns window = D.returns window := by
  unfold returns isShown Desktop.window
  rw [hfind, hfailing, hrefusing]

/-- A window that returns is open. -/
theorem exists_of_returns {window : WindowHandle} {desktop : Desktop}
    (h : desktop.returns window = true) : ∃ w, desktop.find? window = some w := by
  unfold returns isShown at h
  rcases hw : desktop.window window with failure | w
  · simp [hw] at h
  · exact ⟨w, (find?_of_window hw).1⟩

/-- Only the window that is called back changes, if it returns: it is shown as it was before. -/
theorem find?_recalled (window other : WindowHandle) (desktop : Desktop) :
    (desktop.recalled window).find? other =
      if other = window ∧ desktop.returns window then
        (desktop.find? other).map
          ({ · with state := (desktop.remembered.find? window).getD .normal })
      else desktop.find? other := by
  unfold recalled returns
  rcases hshown : desktop.isShown window
  · simp
  simp only [if_true, Bool.true_and]
  rcases hw : desktop.window window with failure | w
  · simp [isShown, hw] at hshown
  by_cases hrefusing : window ∈ desktop.refusing
  · simp [requestState, hw, hrefusing, find?]
  · simp only [requestState, hw, List.contains_eq_mem, hrefusing, decide_false, Bool.not_false,
      Bool.false_eq_true, if_false, and_true]
    exact find?_withState window other _ desktop.windows

/-- What native calls keep is kept when windows are asked to minimize or called back. -/
theorem asked_of_calls {I : Desktop → Prop} {desktop : Desktop}
    (hcall : ∀ call, I (desktop.answer call).2) (h : I desktop) (window : WindowHandle) :
    I (desktop.asked window) := by
  unfold asked
  split
  · exact hcall (.setState window .minimize)
  · exact h

/-- The same for a window that is called back. -/
theorem recalled_of_calls {I : Desktop → Prop} {desktop : Desktop}
    (hcall : ∀ call, I (desktop.answer call).2) (h : I desktop) (window : WindowHandle) :
    I (desktop.recalled window) := by
  unfold recalled
  split
  · exact hcall (.setState window .restore)
  · exact h

end Desktop

/-! ## What the minimizer does -/

namespace Minimizer

section native

variable {p : Minimizer × Workspace Desktop} {window : WindowHandle}
  {cut : Minimizer × Workspace Desktop → Prop}

/-- The geometry of a monitor is known or it is not; asking for it changes nothing. Like the rules
that follow it opens a question of the minimizer on a state of the emulated desktop. -/
@[simp] theorem ensures_monitorInfo {monitor : MonitorHandle}
    {good : Except Failure MonitorInfo → Minimizer × Workspace Desktop → Prop} :
    (Native.monitorInfo monitor).run.Ensures p good cut ↔
      good (match p.2.system.monitor? monitor with
        | some info => .ok info
        | none => .error (Desktop.monitorGone monitor)) p := Iff.rfl

/-- The process that owns a window. -/
@[simp] theorem ensures_process
    {good : Except Failure ProcessId → Minimizer × Workspace Desktop → Prop} :
    (Native.process window).run.Ensures p good cut ↔
      good ((p.2.system.window window).map (·.process)) p := Iff.rfl

/-- Whether a window is visible; one that does not answer is not. -/
@[simp] theorem ensures_visible {good : Bool → Minimizer × Workspace Desktop → Prop} :
    (Native.visible window).Ensures p good cut ↔
      good (match p.2.system.window window with
        | .ok w => w.visible
        | .error _ => false) p := Iff.rfl

/-- How a window is shown. -/
@[simp] theorem ensures_placement
    {good : Except Failure ShowState → Minimizer × Workspace Desktop → Prop} :
    (Native.placement window).run.Ensures p good cut ↔
      good ((p.2.system.window window).map (·.state)) p := Iff.rfl

/-- A request for a change of state changes the desktop, and nothing else. -/
@[simp] theorem ensures_setState {command : WindowCommand}
    {good : Except Failure Bool → Minimizer × Workspace Desktop → Prop} :
    (Native.setState window command).run.Ensures p good cut ↔
      good (p.2.system.requestState window command).1
        (p.1, { p.2 with system := (p.2.system.requestState window command).2 }) := Iff.rfl

/-- Whether a window exists. A failing window does. -/
@[simp] theorem ensures_isWindow {good : Bool → Minimizer × Workspace Desktop → Prop} :
    (Native.isWindow window).Ensures p good cut ↔
      good (p.2.system.find? window).isSome p := Iff.rfl

end native

/-- The questions asked before a window is minimized have an answer in every case, and change
nothing. -/
theorem isEligible_exec (window : WindowHandle) (p : Minimizer × Workspace Desktop) :
    (isEligible window).exec p = (.ok (p.2.system.isEligible window), p) := by
  refine Ensures.exec_eq ?_
  unfold isEligible Desktop.isEligible DesktopWindow.isEligible
  rw [ensures_bind, ensures_visible]
  rcases hw : p.2.system.window window with failure | w
  · simp
  rcases hvisible : w.visible
  · simp [hvisible]
  simp only [if_true, ensures_bind, hvisible,
    ensures_of_ok (Native.isSystemWindow_exec (p := p) rfl rfl rfl), hw, Except.map]
  rcases w.isSystem
  · simp [ensures_bind, hw, Except.map]
  · simp

/-- A request counts if it is confirmed; a refusal and a failure do not. -/
theorem ensures_request {window : WindowHandle} {command : WindowCommand}
    {p : Minimizer × Workspace Desktop} {good : Bool → Minimizer × Workspace Desktop → Prop}
    {cut : Minimizer × Workspace Desktop → Prop} :
    (request window command).Ensures p good cut ↔
      good ((p.2.system.requestState window command).1.toOption.getD false)
        (p.1, { p.2 with system := (p.2.system.requestState window command).2 }) := by
  unfold request
  rw [ensures_bind, ensures_setState]
  rcases (p.2.system.requestState window command).1 with _ | _ <;> rfl

/-- A window that yields comes onto the list. -/
theorem hide_exec (window : WindowHandle) (p : Minimizer × Workspace Desktop) :
    (hide window).exec p = (.ok (),
      (if p.2.system.yields window then ⟨p.1.hidden ++ [window]⟩ else p.1,
        { p.2 with system := p.2.system.asked window })) := by
  refine Ensures.exec_eq ?_
  unfold hide Desktop.yields Desktop.asked
  rw [ensures_bind, ensures_of_ok (isEligible_exec window p)]
  rcases heligible : p.2.system.isEligible window
  · simp
  obtain ⟨w, hw, -⟩ := Desktop.exists_of_isEligible heligible
  simp only [if_true, Bool.true_and, ensures_bind, ensures_request,
    Desktop.requestState_fst hw, Except.toOption, Option.getD_some]
  rcases p.2.system.refusing.contains window
  · simp [ensures_bind, hiddenWindows, setHidden]
  · simp

/-- A window that yields is on the list afterwards, and stands there once if it did before. -/
theorem hideAgain_exec (spared : Option ProcessId) (record : WindowRecord)
    (p : Minimizer × Workspace Desktop) :
    (hideAgain spared record).exec p =
      if some record.process = spared then (.ok false, p)
      else (.ok (p.2.system.yields record.handle),
        (if p.2.system.yields record.handle ∧ record.handle ∉ p.1.hidden then
            ⟨p.1.hidden ++ [record.handle]⟩
          else p.1,
          { p.2 with system := p.2.system.asked record.handle })) := by
  by_cases hspared : some record.process = spared
  · unfold hideAgain
    simp [hspared]
  rw [if_neg hspared]
  refine Ensures.exec_eq ?_
  unfold hideAgain Desktop.yields Desktop.asked
  rw [if_neg hspared, ensures_bind, ensures_of_ok (isEligible_exec record.handle p)]
  rcases heligible : p.2.system.isEligible record.handle
  · simp
  obtain ⟨w, hw, -⟩ := Desktop.exists_of_isEligible heligible
  simp only [if_true, Bool.true_and, ensures_bind, ensures_request,
    Desktop.requestState_fst hw, Except.toOption, Option.getD_some]
  rcases p.2.system.refusing.contains record.handle
  · by_cases hmem : record.handle ∈ p.1.hidden
    · simp [ensures_bind, hiddenWindows, hmem]
    · simp [ensures_bind, ensures_map, hiddenWindows, setHidden, hmem]
  · simp

/-- A visible window that does not refuse comes back. -/
theorem unhide_exec (window : WindowHandle) (p : Minimizer × Workspace Desktop) :
    (unhide window).exec p = (.ok (p.2.system.returns window),
      (p.1, { p.2 with system := p.2.system.recalled window })) := by
  refine Ensures.exec_eq ?_
  unfold unhide Desktop.returns Desktop.recalled Desktop.isShown
  rw [ensures_bind, ensures_isWindow]
  rcases hfound : (p.2.system.find? window).isSome
  · rcases hw : p.2.system.window window with failure | w
    · simp
    · simp [(Desktop.find?_of_window hw).1] at hfound
  rw [if_pos rfl, ensures_bind, ensures_visible]
  rcases hw : p.2.system.window window with failure | w
  · simp
  rcases hvisible : w.visible
  · simp [hvisible]
  · simp [hvisible, ensures_request, Desktop.requestState_fst hw, Except.toOption]

section operations

variable {monitor : MonitorHandle} {p : Minimizer × Workspace Desktop}
  {good : Except Failure Nat → Minimizer × Workspace Desktop → Prop}
  {cut : Minimizer × Workspace Desktop → Prop}

/-- Beginning an episode forgets the list and then hides the windows on the monitor one by one. -/
theorem ensures_minimizeOnMonitor {exclude : Option WindowHandle} :
    (minimizeOnMonitor monitor exclude).run.Ensures p good cut ↔
      match p.2.system.monitor? monitor with
      | none => good (.error (Desktop.monitorGone monitor)) (⟨[]⟩, p.2)
      | some _ => (Workspace.windowsOn monitor exclude).Ensures p.2
          (fun records work => (Action.each (fun record => hide record.handle) records).Ensures
            (⟨[]⟩, work) (fun _ q => good (.ok q.1.hidden.length) q) cut)
          fun work => cut (⟨[]⟩, work) := by
  unfold minimizeOnMonitor
  rw [ensures_run_lift_bind, setHidden, ensures_modify, ensures_run_bind, ensures_monitorInfo]
  dsimp only
  rcases p.2.system.monitor? monitor with _ | info
  · rfl
  · dsimp only
    rw [ensures_run_lift, ensures_bind, ensures_onSecond]
    simp only [ensures_bind, hiddenWindows, ensures_get, ensures_pure]

/-- Minimizing beside a window goes through the windows on the monitor and spares those of the
process that owns the window. -/
theorem ensures_minimizeBeside {target : WindowHandle} :
    (minimizeBeside target monitor).run.Ensures p good cut ↔
      match p.2.system.monitor? monitor with
      | none => good (.error (Desktop.monitorGone monitor)) p
      | some _ => (Workspace.windowsOn monitor (some target)).Ensures p.2
          (fun records work =>
            (Action.count (hideAgain ((p.2.system.window target).map (·.process)).toOption)
              records).Ensures (p.1, work) (fun n => good (.ok n)) cut)
          fun work => cut (p.1, work) := by
  unfold minimizeBeside
  rw [ensures_run_bind, ensures_monitorInfo]
  rcases p.2.system.monitor? monitor with _ | info
  · rfl
  · dsimp only
    rw [ensures_run_lift, ensures_bind, ensures_process, ensures_bind, ensures_onSecond]

end operations

end Minimizer

end SoloScreen
