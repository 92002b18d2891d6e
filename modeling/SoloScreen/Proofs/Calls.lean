import SoloScreen.Proofs.Commands
import SoloScreen.Proofs.Queries

/-!
# The window system changes through calls only

Whatever holds along the queries of the cache, the requests for a change of state and the moves of
the timers holds along each operation of the minimizer and the service (`Workspace.WorkConform`,
`Service.act_conforms`): the program has no other way to reach the workspace. What hides windows
needs queries and requests to minimize only (`Workspace.HidingConform`), and no operation but the
polling and the commands moves a timer (`Workspace.RequestsConform`).

What holds along every native call and along the reading of the clock is such a relation, whatever
becomes of the cache (`CallsConform`, `Service.act_calls`). What the window system keeps by itself,
it keeps in every run.
-/

namespace SoloScreen

open SoloScreen.Action

variable {σ τ : Type}

/-- A relation between the workspaces of two states. -/
def OnWork (R : Workspace σ → Workspace σ → Prop) (p q : τ × Workspace σ) : Prop := R p.2 q.2

/-- A relation between the window systems of two states. -/
def OnSystem (S : σ → σ → Prop) (p q : τ × Workspace σ) : Prop := S p.2.system q.2.system

/-- A path of workspaces is a path of states that have one. -/
theorem OnWork.isPathTo {R C : Workspace σ → Workspace σ → Prop} (hR : IsPathTo R C) :
    IsPathTo (OnWork (τ := τ) R) (OnWork C) :=
  hR.comap fun p : τ × Workspace σ => p.2

variable [WindowSystem σ]

/-- The relation holds along queries and requests to minimize. -/
structure Workspace.HidingConform (R C : Workspace σ → Workspace σ → Prop) : Prop
    extends QueriesConform R C where
  /-- It holds along a request to minimize, whatever the window. -/
  minimize : ∀ window, Conforms R C
    (WindowSystem.call (.setState window .minimize) : Action (Workspace σ) _)

/-- The relation holds along queries and all requests. -/
structure Workspace.RequestsConform (R C : Workspace σ → Workspace σ → Prop) : Prop
    extends HidingConform R C where
  /-- It holds along a request to bring a window back, whatever the window. -/
  restore : ∀ window, Conforms R C
    (WindowSystem.call (.setState window .restore) : Action (Workspace σ) _)

/-- The relation holds along everything that is done to a workspace. -/
structure Workspace.WorkConform (R C : Workspace σ → Workspace σ → Prop) : Prop
    extends QueriesConform R C where
  /-- It holds along every request. -/
  request : ∀ window command, Conforms R C
    (WindowSystem.call (.setState window command) : Action (Workspace σ) _)
  /-- It does not look at the timers. -/
  clock : ∀ work clock, R work { work with clock }
  /-- What is cut short has gone along the relation as well. -/
  settled : ∀ {work work'}, C work work' → R work work'

/-- A relation that holds along all that a window system does. -/
structure CallsConform (S D : σ → σ → Prop) : Prop where
  /-- Calls can be put together. -/
  path : IsPathTo S D
  /-- It holds along each native call. -/
  call : ∀ call : NativeCall, Conforms S D (WindowSystem.call call : Action σ _)
  /-- It holds along the reading of the clock. -/
  readClock : Conforms S D (WindowSystem.readClock : Action σ Nat)
  /-- What is cut short has gone along the relation as well. -/
  settled : ∀ {s t}, D s t → S s t

omit [WindowSystem σ] in
/-- What an action does to the window system alone, it does to the workspace around it. -/
theorem Workspace.onSystem_conforms {S D : σ → σ → Prop} {α : Type} {act : Action σ α}
    (hact : Conforms S D act) :
    Conforms (fun work work' : Workspace σ => S work.system work'.system)
      (fun work work' => D work.system work'.system) (onSystem act) :=
  fun work => ensures_within.mpr (hact work.system)

/-- A relation between window systems holds along all that is done to a workspace if it holds along
native calls. -/
theorem CallsConform.works {S D : σ → σ → Prop} (h : CallsConform S D) :
    Workspace.WorkConform (fun work work' : Workspace σ => S work.system work'.system)
      fun work work' => D work.system work'.system where
  toQueriesConform := .of_calls (h.path.comap fun work : Workspace σ => work.system)
    (fun call _ => Workspace.onSystem_conforms (h.call call))
    (Workspace.onSystem_conforms h.readClock) fun _ _ => h.path.refl _
  request window command := Workspace.onSystem_conforms (h.call (.setState window command))
  clock work _ := h.path.refl work.system
  settled := h.settled

variable {R C : Workspace σ → Workspace σ → Prop}

/-- All that is done to a workspace includes the requests. -/
theorem Workspace.WorkConform.requests (h : WorkConform R C) : RequestsConform R C where
  toQueriesConform := h.toQueriesConform
  minimize window := h.request window .minimize
  restore window := h.request window .restore

/-- A query asked from a state that has a workspace goes along what it goes along in the
workspace. -/
theorem Workspace.QueriesConform.second (h : QueriesConform R C) (call : NativeCall)
    (hquery : call.isQuery) :
    Conforms (OnWork R) (OnWork C) (WindowSystem.call call : Action (τ × Workspace σ) _) :=
  .onSecond (h.call call hquery)

/-! ## The minimizer -/

namespace Minimizer

section hides

variable (h : Workspace.HidingConform R C)
include h

/-- Hiding a window looks at it, requests that it be minimized, and writes the list. -/
theorem hide_conforms (window : WindowHandle) :
    Conforms (OnWork R) (OnWork C) (hide (σ := σ) window) := by
  have hpath := OnWork.isPathTo (τ := Minimizer) h.path
  unfold hide
  refine .bind hpath (isEligible_conforms hpath (fun call hquery _ => h.second call hquery) window)
    fun eligible => ?_
  split
  · refine .bind hpath (request_conforms hpath (.onSecond (h.minimize window)))
      fun confirmed => ?_
    split
    · exact .bind hpath (fun p => hpath.refl p) fun hidden p => hpath.refl p
    · exact .pure hpath _
  · exact .pure hpath _

/-- The beginning of an episode is made of queries and of the hiding of windows. -/
theorem minimizeOnMonitor_conforms (monitor : MonitorHandle) (exclude : Option WindowHandle) :
    Conforms (OnWork R) (OnWork C) (minimizeOnMonitor (σ := σ) monitor exclude).run := by
  have hpath := OnWork.isPathTo (τ := Minimizer) h.path
  unfold minimizeOnMonitor
  refine .run_bind hpath (.run_lift fun p => hpath.refl p) fun _ => ?_
  refine .run_bind hpath (h.second (.monitorInfo monitor) rfl) fun _ => .run_lift ?_
  refine .bind hpath (.onSecond (h.windowsOn monitor exclude)) fun records => ?_
  refine .bind hpath (.each hpath records fun record => hide_conforms h record.handle)
    fun _ => ?_
  exact .bind hpath (fun p => hpath.refl p) fun hidden => .pure hpath _

/-- Hiding a window again, during an episode, goes along the same calls as hiding it. -/
theorem hideAgain_conforms (spared : Option ProcessId) (record : WindowRecord) :
    Conforms (OnWork R) (OnWork C) (hideAgain (σ := σ) spared record) := by
  have hpath := OnWork.isPathTo (τ := Minimizer) h.path
  unfold hideAgain
  split
  · exact .pure hpath _
  refine .bind hpath (isEligible_conforms hpath (fun call hquery _ => h.second call hquery)
    record.handle) fun eligible => ?_
  split
  · refine .bind hpath (request_conforms hpath (.onSecond (h.minimize record.handle)))
      fun confirmed => ?_
    split
    · refine .bind hpath (fun p => hpath.refl p) fun hidden => ?_
      split
      · refine .bind hpath (fun p => hpath.refl p) fun _ => ?_
        exact .bind hpath (fun p => hpath.refl p) fun _ => .pure hpath _
      · exact .pure hpath _
    · exact .pure hpath _
  · exact .pure hpath _

/-- The hiding of windows that came back goes along queries and requests to minimize. -/
theorem minimizeBeside_conforms (target : WindowHandle) (monitor : MonitorHandle) :
    Conforms (OnWork R) (OnWork C) (minimizeBeside (σ := σ) target monitor).run := by
  have hpath := OnWork.isPathTo (τ := Minimizer) h.path
  unfold minimizeBeside
  refine .run_bind hpath (h.second (.monitorInfo monitor) rfl) fun _ => .run_lift ?_
  refine .bind hpath (h.second (.process target) rfl) fun owner => ?_
  refine .bind hpath (.onSecond (h.windowsOn monitor (some target))) fun records => ?_
  exact .count hpath records fun record => hideAgain_conforms h owner.toOption record

end hides

/-- The end of an episode needs the queries and the requests to bring a window back. -/
theorem restore_conforms (h : Workspace.RequestsConform R C) :
    Conforms (OnWork R) (OnWork C) (restore (σ := σ)) := by
  have hpath := OnWork.isPathTo (τ := Minimizer) h.path
  unfold restore
  refine .bind hpath (fun p => hpath.refl p) fun windows => ?_
  refine .bind hpath (fun p => hpath.refl p) fun _ => .count hpath windows fun window => ?_
  exact unhide_conforms hpath (fun call hquery _ => h.second call hquery)
    (.onSecond (h.restore window))

end Minimizer

/-! ## The service -/

namespace Service

/-- Unless full screen ended, an event is handled without bringing windows back. -/
theorem handle_hiding_conforms (h : Workspace.HidingConform R C) {event : DetectorEvent}
    (hexit : event.isExit = false) :
    Conforms (OnWork R) (OnWork C) (handle (σ := σ) event) := by
  intro p
  rw [ensures_handle]
  have hpath := OnWork.isPathTo (τ := Minimizer) h.path
  -- Four cases: a change or a focus, with or without the data that the handling needs. Without a
  -- window or a monitor it fails before anything is asked.
  have htask : Conforms (OnWork R) (OnWork C) (task (σ := σ) p.1.settings event).run := by
    rcases event with ⟨fullScreen, window, monitor, process, title⟩ |
      ⟨fullScreen, window, monitor, process, title⟩
    · obtain rfl : fullScreen = true := by simpa [DetectorEvent.isExit] using hexit
      rcases monitor with _ | monitor
      · exact .pure hpath _
      · exact Minimizer.minimizeOnMonitor_conforms h monitor window
    · rcases window with _ | window
      · exact .pure hpath _
      rcases monitor with _ | monitor
      · exact .pure hpath _
      · exact Minimizer.minimizeBeside_conforms h window monitor
  exact htask (p.1.minimizer, p.2)

section requests

variable (h : Workspace.RequestsConform R C)
include h

/-- The handling of an event goes along queries and requests. Only the end of full screen needs the
requests to bring windows back. -/
theorem handle_conforms (event : DetectorEvent) :
    Conforms (OnWork R) (OnWork C) (handle (σ := σ) event) := by
  rcases hexit : event.isExit
  · exact handle_hiding_conforms h.toHidingConform hexit
  intro p
  have hpath := OnWork.isPathTo (τ := Minimizer) h.path
  rcases event with ⟨fullScreen, window, monitor, process, title⟩ | sighting
  · obtain rfl : fullScreen = false := by simpa [DetectorEvent.isExit] using hexit
    rw [ensures_handle]
    have htask : Conforms (OnWork R) (OnWork C)
        (task (σ := σ) p.1.settings
          (.fullScreenChanged ⟨false, window, monitor, process, title⟩)).run := by
      unfold task
      simp only [Bool.false_eq_true, if_false]
      split
      · exact .run_lift (Minimizer.restore_conforms h)
      · exact .pure hpath _
    exact htask (p.1.minimizer, p.2)
  · simp [DetectorEvent.isExit] at hexit

/-- A tick of the service is a tick of the detector, followed by the handling of its events one by
one. -/
theorem round_conforms : Conforms (OnWork R) (OnWork C) (round (σ := σ)) := by
  have hpath := OnWork.isPathTo (τ := Service) h.path
  intro p
  unfold round
  rw [ensures_bind, ensures_read]
  rcases p.1.detector with _ | d
  · exact hpath.refl p
  dsimp only
  rw [ensures_bind, ensures_onDetector]
  refine (Detector.tick_conforms h.toQueriesConform (d, p.2)).mono (fun events q hq => ?_)
    fun _ hq => hq
  exact (Conforms.each hpath events (handle_conforms h) _).mono
    (fun _ _ hr => h.path.trans hq hr) fun _ hr => h.path.cut hq hr

/-- Bringing the windows back and announcing it: the announcement does not touch the workspace. -/
theorem restoreWindows_conforms : Conforms (OnWork R) (OnWork C) (restoreWindows (σ := σ)) :=
  fun p => ensures_restoreWindows.mpr (Minimizer.restore_conforms h (p.1.minimizer, p.2))

end requests

variable (h : Workspace.WorkConform R C)
include h

/-- A tick is never cut short itself. -/
theorem poll_conforms (p : Service × Workspace σ) :
    poll.Ensures p (fun _ => OnWork R p) fun _ => False :=
  poll_ensures ((round_conforms h.requests p).mono (fun _ _ hq => hq) fun _ => h.settled)
    fun q _ _ clock hq _ => h.path.trans hq (h.clock q.2 clock)

/-- What holds along everything that is done to a workspace holds along every command. -/
theorem act_conforms (command : Command) :
    Conforms (OnWork R) (OnWork C) (command.act (σ := σ)) := by
  have hpath := OnWork.isPathTo (τ := Service) h.path
  have hsame : ∀ p q : Service × Workspace σ, Untouched p q → OnWork R p q := by
    intro p q hpq
    have hwork : q.2 = { p.2 with clock := q.2.clock } := by
      obtain ⟨service, system, cache, clock⟩ := q
      obtain ⟨-, rfl, rfl⟩ := hpq
      rfl
    show R p.2 q.2
    rw [hwork]
    exact h.clock p.2 q.2.clock
  have hstop : Conforms (OnWork R) (OnWork C) (Service.stop (σ := σ)) :=
    fun p => (stop_ensures p).mono (fun _ q hq => hsame p q hq.toUntouched) fun _ => False.elim
  cases command with
  | start =>
    exact fun p => (startWith_untouched none p).mono (fun _ q => hsame p q) fun _ => False.elim
  | stop => exact hstop
  | update settings =>
    refine .map _ fun p => (updateSettings_ensures settings p).mono (fun _ q hq => ?_)
      fun _ => False.elim
    exact hsame p q ⟨hq.2.minimizer, hq.1⟩
  | tick => exact fun p => (poll_conforms h p).mono (fun _ _ hq => hq) fun _ => False.elim
  | restoreManually => exact .map _ (restoreWindows_conforms h.requests)
  | settingsClosed =>
    refine .map _ (.bind hpath (fun p => hpath.refl p) fun flag => ?_)
    split
    · exact restoreWindows_conforms h.requests
    · exact .pure hpath _
  | shutdown =>
    refine .map _ (.bind hpath hstop fun _ => .bind hpath (fun p => hpath.refl p) fun flag => ?_)
    split
    · exact restoreWindows_conforms h.requests
    · exact .pure hpath _

end Service

/-- What holds along native calls holds along the handling of an event. -/
theorem Service.handle_calls {S D : σ → σ → Prop} (hcalls : CallsConform S D)
    (event : DetectorEvent) : Conforms (OnSystem S) (OnSystem D) (handle (σ := σ) event) :=
  handle_conforms hcalls.works.requests event

/-- What holds along native calls holds along every command. -/
theorem Service.act_calls {S D : σ → σ → Prop} (hcalls : CallsConform S D) (command : Command) :
    Conforms (OnSystem S) (OnSystem D) (command.act (σ := σ)) :=
  act_conforms hcalls.works command

end SoloScreen
