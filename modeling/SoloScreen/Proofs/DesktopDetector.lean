import SoloScreen.Proofs.DesktopQueries
import SoloScreen.Proofs.Run

/-!
# The detector on the emulated desktop

Ticks of a detector whose cache is sharp, so that it sees the desktop as it is.

* `Detector.tick_sharp`: what the search finds decides what the detector notes. While a window fills
  its monitor the detector looks at the foreground window too, and reports it if it belongs to a
  target and is not the one looked at last.
* `Detector.tick_without`: nothing fills a monitor, and the tick takes note of that.
* `Detector.tick_with`: the only window of a target fills its monitor. The tick takes note of it and
  reports the focus if it went to this window.
-/

namespace SoloScreen

open SoloScreen.Action

namespace Detector

variable {d : Detector} {work : Workspace Desktop}

/-! ## The look at the focus -/

/-- The event reports the foreground window, which belongs to a target, on the monitor of the
full-screen window. -/
def Reports (d : Detector) (desktop : Desktop) (event : DetectorEvent) : Prop :=
  ∃ window w process monitor, desktop.foreground = some window ∧ desktop.window window = .ok w ∧
    desktop.processName? w.process = some process ∧ process ∈ d.targets ∧
      d.monitor = some monitor ∧
        event = .targetFocused (.entered window monitor process w.title)

/-- The question for the foreground window changes nothing. -/
theorem foreground_exec (d : Detector) (work : Workspace Desktop) :
    (Native.foreground : Action (Detector × Workspace Desktop) _).exec (d, work) =
      (.ok work.system.foreground, (d, work)) := rfl

/-- The foreground window is reported only if it was not looked at before. -/
theorem checkFocus_sharp (hsharp : work.Sharp) :
    (checkFocus d.targets).run.Ensures (d, work)
      (fun r q => q.1 = d.glance work.system.foreground ∧ work.Looked q.2 ∧
        ∀ event, r = .ok (some event) → d.Reports work.system event ∧
          ¬ d.Remembers work.system.foreground) fun _ => False := by
  unfold checkFocus
  rw [ensures_run_lift_bind, ensures_of_ok (foreground_exec d work)]
  rcases hforeground : work.system.foreground with _ | window
  · exact ⟨rfl, ⟨.refl _, hsharp⟩, by simp⟩
  dsimp only
  rw [ensures_run_lift_bind, ensures_get]
  by_cases hseen : d.lastForeground = some window
  · rw [if_pos hseen]
    exact ⟨by rw [glance, ← hseen], ⟨.refl _, hsharp⟩, by simp⟩
  have hnew : ¬ d.Remembers (some window) := fun h => hseen (h window rfl)
  rw [if_neg hseen, ensures_run_lift_bind, setLastForeground, ensures_modify,
    ensures_run_lift_bind, ensures_onSecond]
  refine (Workspace.ownerName?_ensures window hsharp).mono (fun owner work' howner => ?_)
    fun _ => id
  obtain ⟨hname, hlooked⟩ := howner
  rcases owner with _ | process
  · exact ⟨rfl, hlooked, by simp⟩
  dsimp only
  rcases htarget : d.targets.contains process
  · exact ⟨rfl, hlooked, by simp⟩
  rw [if_pos rfl, ensures_run_lift_bind, ensures_get]
  split
  · exact ⟨rfl, hlooked, by simp⟩
  rename_i monitor hmonitor
  unfold Desktop.ownerName? at hname
  rcases hw : work.system.window window with failure | w
  · simp [hw] at hname
  have htitle : (Native.title window : Fallible (Detector × Workspace Desktop) _).run.exec
      ({ d with lastForeground := some window }, work') =
        (.ok ((work'.system.window window).map (·.title)),
          ({ d with lastForeground := some window }, work')) := rfl
  rw [ensures_run_bind, ensures_of_ok htitle, hlooked.alike.window, hw]
  refine ⟨rfl, hlooked, fun event he => ⟨?_, hnew⟩⟩
  exact ⟨window, w, process, monitor, hforeground, hw, by simpa [hw] using hname.symm,
    by simpa using htarget, hmonitor, (Option.some.inj (Except.ok.inj he)).symm⟩

/-! ## Ticks -/

/-- What a tick notes and yields, by what the search finds. -/
theorem tick_sharp (hsharp : work.Sharp) (htargets : d.targets ≠ []) :
    tick.Ensures (d, work)
      (fun events q => work.Looked q.2 ∧ ∃ capturedAt found, ∃ focus : Option DetectorEvent,
        found = (work.system.records capturedAt).find? (work.system.fills d.targets) ∧
        q.1 = (if found.isSome then (observe found d).2.glance work.system.foreground
          else (observe found d).2) ∧
        events = (observe found d).1 ++ focus.toList ∧
        ∀ event ∈ focus, found.isSome ∧ (observe found d).2.Reports work.system event ∧
          ¬ d.Remembers work.system.foreground) fun _ => False := by
  have hempty : d.targets.isEmpty = false := by simpa using htargets
  unfold tick
  rw [ensures_bind, ensures_get]
  dsimp only
  rw [hempty, if_neg (by simp), ensures_bind, ensures_onSecond]
  refine (Workspace.findFullScreen_ensures d.targets hsharp).mono (fun found work' hfound => ?_)
    fun _ => id
  obtain ⟨hlooked, capturedAt, hfound⟩ := hfound
  rw [ensures_bind, ensures_modifyGet]
  rcases hsome : found.isSome
  · exact ⟨hlooked, capturedAt, found, none, hfound, by simp [hsome], by simp, by simp⟩
  have hlast := observe_lastForeground hsome d
  simp only [if_true, ensures_bind]
  have hcheck := checkFocus_sharp (d := (observe found d).2) hlooked.sharp
  rw [observe_targets] at hcheck
  refine hcheck.mono (fun r q hq => ?_) fun _ => id
  obtain ⟨hglance, hlooked', hreports⟩ := hq
  rw [hlooked.alike.foreground] at hglance
  have hevent : ∀ event, r = .ok (some event) → (observe found d).2.Reports work.system event ∧
      ¬ d.Remembers work.system.foreground := by
    intro event he
    obtain ⟨⟨window, w, process, monitor, hforeground, hw, hname, hmem, hmonitor, rfl⟩, hnew⟩ :=
      hreports event he
    rw [hlooked.alike.foreground] at hforeground
    rw [hlooked.alike.window] at hw
    rw [hlooked.alike.processName?] at hname
    refine ⟨⟨window, w, process, monitor, hforeground, hw, hname, hmem, hmonitor, rfl⟩,
      fun h => hnew fun other hother => ?_⟩
    rw [hlast]
    exact h other (hlooked.alike.foreground ▸ hother)
  have hglance : q.1 = (if found.isSome then (observe found d).2.glance work.system.foreground
      else (observe found d).2) := by rw [hglance, if_pos hsome]
  have hlooked := hlooked.trans hlooked'
  rcases r with failure | focus
  · exact ⟨hlooked, capturedAt, found, none, hfound, hglance, by simp, by simp⟩
  · exact ⟨hlooked, capturedAt, found, focus, hfound, hglance, rfl,
      fun event he => ⟨hsome, hevent event (by rw [Option.mem_def.mp he])⟩⟩

/-- A tick that finds no full-screen window. -/
theorem tick_without (hsharp : work.Sharp) (htargets : d.targets ≠ [])
    (hnone : ∀ capturedAt,
      (work.system.records capturedAt).find? (work.system.fills d.targets) = none) :
    tick.Ensures (d, work)
      (fun events q => (events, q.1) = observe none d ∧ work.Looked q.2) fun _ => False := by
  refine (tick_sharp hsharp htargets).mono (fun events q hq => ?_) fun _ => id
  obtain ⟨hlooked, capturedAt, found, focus, hfound, hq, rfl, hfocus⟩ := hq
  obtain rfl : found = none := hfound.trans (hnone capturedAt)
  obtain rfl : focus = none := Option.eq_none_iff_forall_not_mem.mpr fun event he => by
    simpa using (hfocus event he).1
  refine ⟨?_, hlooked⟩
  rw [hq]
  simp

/-- The detector is full screen at a window and remembers the foreground. -/
structure Fixed (window : WindowHandle) (monitor : MonitorHandle) (foreground : Option WindowHandle)
    (d : Detector) : Prop where
  /-- An episode is open. -/
  fullScreen : d.fullScreen = true
  /-- It is the episode of this window. -/
  window : d.window = some window
  /-- It is on this monitor. -/
  monitor : d.monitor = some monitor
  /-- The foreground window is the one looked at last. -/
  remembered : ∀ other, foreground = some other → d.lastForeground = some other

/-- A tick that finds the only window of a target full screen. The begin is reported once, and so is
the focus. -/
theorem tick_with (hsharp : work.Sharp) {window : WindowHandle} {monitor : MonitorHandle}
    {w : DesktopWindow} (htargets : d.targets ≠ []) (hw : work.system.window window = .ok w)
    (hfound : ∀ capturedAt, ∃ record, record.handle = window ∧ record.monitor = monitor ∧
      (work.system.records capturedAt).find? (work.system.fills d.targets) = some record)
    (hothers : ∀ other name, other ≠ window → work.system.ownerName? other = some name →
      name ∉ d.targets)
    (hseen : d.fullScreen = true → d.window = some window ∧ d.monitor = some monitor) :
    tick.Ensures (d, work)
      (fun events q => q.1.targets = d.targets ∧ Fixed window monitor work.system.foreground q.1 ∧
        work.Looked q.2 ∧ ∃ begun focus : Option DetectorEvent,
          events = begun.toList ++ focus.toList ∧
          (∀ event ∈ begun, ∃ process title,
            event = .fullScreenChanged (.entered window monitor process title)) ∧
          begun.isNone = d.fullScreen ∧
          (∀ event ∈ focus, ∃ process,
            event = .targetFocused (.entered window monitor process w.title)) ∧
          (Fixed window monitor work.system.foreground d → focus = none)) fun _ => False := by
  refine (tick_sharp hsharp htargets).mono (fun events q hq => ?_) fun _ => id
  obtain ⟨hlooked, capturedAt, found, focus, hfound', hglance, rfl, hfocus⟩ := hq
  obtain ⟨record, rfl, rfl, hrecord⟩ := hfound capturedAt
  obtain rfl : found = some record := hfound'.trans hrecord
  -- what the detector has noted before it looks at the focus
  obtain ⟨d', hobserve, htargets', hfull, hwindow, hmonitor⟩ :
      ∃ d', observe (some record) d =
          (if d.fullScreen then [] else [enterEvent record], d') ∧ d'.targets = d.targets ∧
        d'.fullScreen = true ∧ d'.window = some record.handle ∧
          d'.monitor = some record.monitor := by
    rcases hfull : d.fullScreen
    · exact ⟨{ d with
          fullScreen := true, window := some record.handle, monitor := some record.monitor },
        by simp [observe, hfull, enterEvent], rfl, rfl, rfl, rfl⟩
    · exact ⟨d, by simp [observe, hfull], rfl, hfull, (hseen hfull).1, (hseen hfull).2⟩
  rw [hobserve] at hglance hfocus ⊢
  simp only [Option.isSome_some, if_true, true_and] at hglance hfocus
  obtain ⟨last, hsame⟩ := d'.glance_sameSight work.system.foreground
  have hremembers := d'.glance_remembers work.system.foreground
  rw [← hglance] at hsame hremembers
  refine ⟨by rw [hsame, htargets'], ⟨by rw [hsame, ← hfull], by rw [hsame, ← hwindow],
    by rw [hsame, ← hmonitor], hremembers⟩, hlooked,
    if d.fullScreen then none else some (enterEvent record), focus, ?_, fun event he => ?_, ?_,
    fun event he => ?_, fun h => Option.eq_none_iff_forall_not_mem.mpr fun event he =>
      (hfocus event he).2 h.remembered⟩
  · rcases d.fullScreen <;> rfl
  · rcases hbefore : d.fullScreen
    · simp only [hbefore, Bool.false_eq_true, if_false, Option.mem_def, Option.some.injEq] at he
      exact ⟨record.processName, record.title, he.symm⟩
    · simp [hbefore] at he
  · rcases d.fullScreen <;> rfl
  · -- a window that is reported belongs to a target, and there is only one such window
    obtain ⟨⟨other, w', process, monitor, -, hw', hname, hmem, hmonitor', rfl⟩, -⟩ :=
      hfocus event he
    obtain rfl : other = record.handle := Decidable.byContradiction fun hne =>
      hothers other process hne (by simpa [Desktop.ownerName?, hw'] using hname) (htargets' ▸ hmem)
    obtain rfl : w' = w := Except.ok.inj (hw'.symm.trans hw)
    obtain rfl : monitor = record.monitor := Option.some.inj (hmonitor'.symm.trans hmonitor)
    exact ⟨process, rfl⟩

end Detector

end SoloScreen
