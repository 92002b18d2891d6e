import SoloScreen.Proofs.Attention
import SoloScreen.Proofs.DesktopDetector
import SoloScreen.Proofs.Reversible
import SoloScreen.Proofs.SelfHiding

/-!
# The polling loop settles

What the service does on a tick changes what its detector sees on the next one. If the windows of
the targets belong to one process and nobody else touches the desktop, this is over after two ticks.

* `Desktop.fullScreen?`: the record that a tick finds. It does not depend on the other windows being
  shown (`Desktop.fullScreen?_isSome`).
* `Minimizer.minimizeBeside_spares`: minimizing beside a window spares all windows of its process.
* `Service.tick_settles`: a tick leaves a service that is settled, or it has ended an episode. The
  windows that came back then may let an episode begin, and the next tick settles.
* `Service.loop_settles`: after two ticks every tick yields nothing and changes nothing.

Two is the most that is needed and it is needed: the run of `Service.loop_settles_demo` ends an
episode in its first tick and begins another in its second. That the targets are one process cannot
be dropped either, for with two of them the loop may hide the window that it hides others for.
-/

namespace SoloScreen

open SoloScreen.Action

/-! ## What a tick finds -/

namespace Desktop

variable {D E : Desktop} {targets : List String}

/-- The record of the uppermost window that fills its monitor for a target. -/
def fullScreen? (targets : List String) (desktop : Desktop) : Option WindowRecord :=
  (desktop.records 0).find? (desktop.fills targets)

/-- When the records are taken does not matter to which one a tick finds; it is only noted in it. -/
theorem find?_records (capturedAt : Nat) (targets : List String) (desktop : Desktop) :
    (desktop.records capturedAt).find? (desktop.fills targets) =
      (desktop.fullScreen? targets).map ({ · with capturedAt }) := by
  have hrecords : desktop.records capturedAt =
      (desktop.records 0).map ({ · with capturedAt }) := by
    unfold records
    rw [List.map_filterMap, funext fun window => record?_capturedAt capturedAt window desktop]
  rw [hrecords, List.find?_map]
  rfl

/-- A tick finds the same record on a desktop with the same windows. -/
theorem Alike.fullScreen? (h : Alike D E) (targets : List String) :
    E.fullScreen? targets = D.fullScreen? targets := by
  unfold Desktop.fullScreen?
  rw [h.records, h.fills]

/-- A window fills its monitor as long as it is shown in the same way, whatever becomes of the
others. -/
theorem fullScreen?_isSome {record : WindowRecord} (h : D.fullScreen? targets = some record)
    (hreshown : Reshown D E) (hfind : E.find? record.handle = D.find? record.handle) :
    (E.fullScreen? targets).isSome := by
  unfold fullScreen? at h ⊢
  obtain ⟨hmem, hrecord⟩ := mem_records.mp (List.mem_of_find?_eq_some h)
  have hwindow : E.window record.handle = D.window record.handle := by
    unfold Desktop.window
    rw [hfind, hreshown.failing]
  have hrecord' : E.record? 0 record.handle = some record := by
    rw [← hrecord]
    unfold record? processName?
    rw [hwindow, hreshown.monitorOf, hreshown.processes]
  have hfills : E.fills targets record = true := by
    have hfills := List.find?_some h
    unfold fills monitor? at hfills ⊢
    rwa [hreshown.monitors]
  -- it may not be the uppermost one any more, but some window fills its monitor
  rw [List.find?_isSome]
  exact ⟨record, mem_records.mpr ⟨hreshown.handles ▸ hmem, hrecord'⟩, hfills⟩

/-- All windows of targets that answer, visible or not, belong to one process. -/
def OneProcess (targets : List String) (process : ProcessId) (desktop : Desktop) : Prop :=
  ∀ window w name, desktop.window window = .ok w → desktop.processName? w.process = some name →
    name ∈ targets → w.process = process

/-- It is enough to look at all windows. -/
theorem OneProcess.of_windows {process : ProcessId} (h : ∀ entry ∈ D.windows,
    (D.processName? entry.2.process).any targets.contains → entry.2.process = process) :
    D.OneProcess targets process := fun window w name hw hname hmem =>
  h (window, w) (Table.mem_of_find? (find?_of_window hw).1) (by simpa [hname] using hmem)

/-- How windows are shown is no matter of whose they are. -/
theorem OneProcess.reshown {process : ProcessId} (h : D.OneProcess targets process)
    (hreshown : Reshown D E) : E.OneProcess targets process := by
  intro window w name hw hname hmem
  obtain ⟨v, hv, hsame⟩ := hreshown.exists_window hw
  have hprocess : w.process = v.process := congrArg (·.process) hsame
  unfold Desktop.processName? at hname
  rw [hreshown.processes] at hname
  rw [hprocess] at hname ⊢
  exact h window v name hv hname hmem

end Desktop

/-! ## The windows of one process -/

namespace Minimizer

/-- Minimizing beside a window spares all windows of its process. -/
theorem minimizeBeside_spares {window target : WindowHandle} {process : ProcessId}
    (monitor : MonitorHandle) {p : Minimizer × Workspace Desktop} (hsharp : p.2.Sharp)
    (hwindow : (p.2.system.window window).map (·.process) = .ok process)
    (htarget : (p.2.system.window target).map (·.process) = .ok process) :
    (minimizeBeside target monitor).run.Ensures p
      (fun _ q => q.2.system.find? window = p.2.system.find? window) fun _ => False := by
  rw [ensures_minimizeBeside, htarget]
  rcases p.2.system.monitor? monitor with _ | info
  · rfl
  dsimp only
  refine (Workspace.windowsOn_ensures monitor (some target) hsharp).mono (fun records work hwork =>
    ?_) fun _ => id
  obtain ⟨hlooked, capturedAt, rfl⟩ := hwork
  refine Ensures.count (n := 0) (I := fun _ _ (q : Minimizer × Workspace Desktop) =>
    q.2.system.find? window = p.2.system.find? window) (fun _ record rest q hmem hq => ?_)
    (hlooked.alike.find? window)
  have hexec := hideAgain_exec (Except.ok process : Except Failure _).toOption record q
  by_cases hspared :
      some record.process = (Except.ok process : Except Failure ProcessId).toOption
  · rw [if_pos hspared] at hexec
    rwa [ensures_of_ok hexec]
  · rw [if_neg hspared] at hexec
    rw [ensures_of_ok hexec]
    show (q.2.system.asked record.handle).find? window = _
    rw [Desktop.find?_asked, if_neg, hq]
    -- a record of the window would carry its process
    rintro ⟨rfl, -⟩
    obtain ⟨-, hrecord⟩ := Desktop.mem_records.mp (List.mem_filter.mp hmem).1
    obtain ⟨w, name, m, hw, -, -, -, -, hfields⟩ := Desktop.record?_eq_some hrecord
    rw [hw] at hwindow
    refine hspared ?_
    rw [hfields]
    exact congrArg some (Except.ok.inj hwindow)

end Minimizer

namespace Service

variable {p q : Service × Workspace Desktop} {window : WindowHandle} {targets : List String}
  {process : ProcessId}

/-! ## Handling events -/

/-- What the handling of events does: the detector stays, the cache stays sharp, and at most the
way in which windows are shown changes. -/
structure Handled (p q : Service × Workspace Desktop) : Prop where
  /-- Events do not reach the detector. -/
  detector : q.1.detector = p.1.detector
  /-- The next query still sees the desktop as it is. -/
  sharp : q.2.Sharp
  /-- The windows are the same and in the same order, each shown as before or not. -/
  reshown : Desktop.Reshown p.2.system q.2.system

/-- Handling an event on a desktop that is seen as it is. No fault can cut it short. -/
theorem handle_handled (event : DetectorEvent) (hsharp : p.2.Sharp) :
    (handle event).Ensures p (fun _ => Handled p) fun _ => False := by
  have hreshown := handle_calls Desktop.callsConform_reshown event p
  have hkeeps := handle_conforms Workspace.worksConform_sharp.requests event p
  exact ((handle_detector event p).and (hreshown.and hkeeps)).mono
    (fun _ _ h => ⟨h.1, h.2.2 hsharp, h.2.1⟩) fun _ h => h.2.2 hsharp

/-- The event lets an episode begin with the window, or reports the focus for a window of the same
process. -/
def SparedBy (window : WindowHandle) (process : ProcessId) (desktop : Desktop)
    (event : DetectorEvent) : Prop :=
  (∃ monitor name title,
    event = .fullScreenChanged (.entered window monitor name title)) ∨
  ∃ focused monitor name title, event = .targetFocused (.entered focused monitor name title) ∧
    (desktop.window focused).map (·.process) = .ok process

/-- Handling an event that spares the window leaves it as it is. -/
theorem handle_spares {event : DetectorEvent} (hsharp : p.2.Sharp)
    (hwindow : (p.2.system.window window).map (·.process) = .ok process)
    (hevent : SparedBy window process p.2.system event) :
    (handle event).Ensures p (fun _ q => q.2.system.find? window = p.2.system.find? window)
      fun _ => True := by
  rw [ensures_handle]
  rcases hevent with ⟨monitor, name, title, rfl⟩ | ⟨focused, monitor, name, title, rfl, hfocused⟩
  · exact (Minimizer.minimizeOnMonitor_spares (p.1.minimizer, p.2)).mono (fun _ _ h => h)
      fun _ _ => trivial
  · exact (Minimizer.minimizeBeside_spares monitor (p := (p.1.minimizer, p.2)) hsharp hwindow
      hfocused).mono (fun _ _ h => h) fun _ _ => trivial

/-- Events of which each spares the window leave it as it is. An event is judged on the desktop that
its predecessors leave, and these do not change the process of a window. -/
theorem each_spares {events : List DetectorEvent} (hsharp : p.2.Sharp)
    (hwindow : (p.2.system.window window).map (·.process) = .ok process)
    (hevents : ∀ event ∈ events, SparedBy window process p.2.system event) :
    (Action.each handle events).Ensures p
      (fun _ q => Handled p q ∧ q.2.system.find? window = p.2.system.find? window)
      fun _ => False := by
  refine Ensures.each (I := fun _ q => Handled p q ∧
    q.2.system.find? window = p.2.system.find? window) (fun event rest q hmem hq => ?_)
    ⟨⟨rfl, hsharp, .refl _⟩, rfl⟩
  obtain ⟨hhandled, hfind⟩ := hq
  have hprocess := fun other => hhandled.reshown.process other
  have hevent : SparedBy window process q.2.system event := by
    rcases hevents event hmem with hbegun | ⟨focused, monitor, name, title, heq, hfocused⟩
    · exact .inl hbegun
    · exact .inr ⟨focused, monitor, name, title, heq, by rw [hprocess, hfocused]⟩
  have hspares := handle_spares hhandled.sharp (by rw [hprocess, hwindow]) hevent
  exact ((handle_handled event hhandled.sharp).and hspares).mono (fun _ r hr =>
    ⟨⟨hr.1.detector.trans hhandled.detector, hr.1.sharp, hhandled.reshown.trans hr.1.reshown⟩,
      hr.2.trans hfind⟩) fun _ hr => hr.1

/-! ## One tick -/

/-- The detector sees the desktop as it is, and all windows of its targets belong to one process. -/
structure Steady (targets : List String) (process : ProcessId) (d : Detector)
    (p : Service × Workspace Desktop) : Prop where
  /-- There is a session, with this detector. -/
  detector : p.1.detector = some d
  /-- Its targets, which no tick changes. -/
  watches : d.targets = targets
  /-- The cache makes a new pass at every query, and none of them fails. -/
  sharp : p.2.Sharp
  /-- All windows of its targets are those of one process. -/
  single : p.2.system.OneProcess targets process

/-- The detector has noted what there is to see: whether a window fills its monitor and, if one
does, which window is in the foreground. -/
def UpToDate (targets : List String) (desktop : Desktop) (d : Detector) : Prop :=
  d.fullScreen = (desktop.fullScreen? targets).isSome ∧
    (d.fullScreen = true → d.Remembers desktop.foreground)

variable {d : Detector}

/-- Events have been handled. -/
theorem Steady.handled (h : Steady targets process d p) (hhandled : Handled p q) :
    Steady targets process d q where
  detector := hhandled.detector.trans h.detector
  watches := h.watches
  sharp := hhandled.sharp
  single := h.single.reshown hhandled.reshown

/-- The detector has ticked. -/
theorem Steady.ticked {d' : Detector} {work : Workspace Desktop} (h : Steady targets process d p)
    (htargets : d'.targets = d.targets) (hlooked : p.2.Looked work) :
    Steady targets process d' ({ p.1 with detector := some d' }, work) where
  detector := rfl
  watches := htargets.trans h.watches
  sharp := hlooked.sharp
  single := h.single.reshown hlooked.alike.reshown

/-- It does not matter when the loop ticks next. -/
theorem Steady.proceed (h : Steady targets process d p) (loop : Option Timer) (clock : Clock) :
    Steady targets process { d with loop }
      ({ p.1 with detector := some { d with loop } }, { p.2 with clock }) where
  detector := rfl
  watches := h.watches
  sharp := Workspace.worksConform_sharp.clock p.2 clock h.sharp
  single := h.single

/-- The events of a tick that finds a window spare it: an episode begins with this window, and a
focus event is about a target, so about a window of the same process. -/
theorem Steady.sparedBy (h : Steady targets process d p) {record : WindowRecord}
    (hrecord : p.2.system.fullScreen? targets = some record) {capturedAt : Nat}
    {focus : Option DetectorEvent} (hfocus : ∀ event ∈ focus,
      (Detector.observe (some { record with capturedAt }) d).2.Reports p.2.system event) :
    (p.2.system.window record.handle).map (·.process) = .ok process ∧
      ∀ event ∈ (Detector.observe (some { record with capturedAt }) d).1 ++ focus.toList,
        SparedBy record.handle process p.2.system event := by
  have howner : ∀ {window w name}, p.2.system.window window = .ok w →
      p.2.system.processName? w.process = some name → name ∈ targets →
        (p.2.system.window window).map (·.process) = .ok process := fun hw hname hmem => by
    rw [hw, ← h.single _ _ _ hw hname hmem]
    rfl
  refine ⟨?_, fun event hmem => ?_⟩
  · obtain ⟨-, hfound⟩ := Desktop.mem_records.mp (List.mem_of_find?_eq_some hrecord)
    have hfills := List.find?_some hrecord
    obtain ⟨w, name, monitor, hw, -, -, hname, -, hfields⟩ := Desktop.record?_eq_some hfound
    refine howner hw hname ?_
    simp only [Desktop.fills, Bool.and_eq_true, List.contains_eq_mem, decide_eq_true_eq] at hfills
    have hmem := hfills.1.2
    rwa [hfields] at hmem
  rcases List.mem_append.mp hmem with hbegun | hfocused
  · refine .inl ⟨record.monitor, record.processName, record.title, ?_⟩
    unfold Detector.observe at hbegun
    split at hbegun
    · simp at hbegun
    · exact List.mem_singleton.mp hbegun
  · obtain ⟨window, w, name, monitor, -, hw, hname, htarget, -, rfl⟩ :=
      hfocus event (by simpa using hfocused)
    rw [Detector.observe_targets, h.watches] at htarget
    exact .inr ⟨window, monitor, name, w.title, rfl, howner hw hname htarget⟩

/-- A round leaves the detector up to date, or it has ended an episode. What the detector noted is
what it saw before the events were handled; it is still up to date after that because handling them
leaves the window that was found as it is, and so some window still fills its monitor. -/
theorem round_settles (h : Steady targets process d p) (htargets : targets ≠ []) :
    round.Ensures p
      (fun _ q => ∃ d', Steady targets process d' q ∧
        (UpToDate targets q.2.system d' ∨ d.fullScreen = true ∧ d'.fullScreen = false))
      fun _ => False := by
  unfold round
  rw [ensures_bind, ensures_read, h.detector]
  dsimp only
  rw [ensures_bind, ensures_onDetector]
  refine (Detector.tick_sharp h.sharp (h.watches ▸ htargets)).mono (fun events r hr => ?_)
    fun _ => id
  obtain ⟨hlooked, capturedAt, found, focus, hfound, hd', rfl, hfocus⟩ := hr
  rw [h.watches, Desktop.find?_records] at hfound
  have hsee := hlooked.alike.fullScreen? targets
  rcases hrecord : p.2.system.fullScreen? targets with _ | record
  · -- nothing fills a monitor
    rw [hrecord] at hfound hsee
    obtain rfl : found = none := hfound
    obtain rfl : focus = none := Option.eq_none_iff_forall_not_mem.mpr fun event he => by
      simpa using (hfocus event he).1
    have hd' : r.1 = (Detector.observe none d).2 := by simpa using hd'
    have hsteady : Steady targets process r.1 ({ p.1 with detector := some r.1 }, r.2) :=
      h.ticked (by rw [hd', Detector.observe_targets]) hlooked
    have hnot : r.1.fullScreen = false := by rw [hd', Detector.observe_fullScreen]; rfl
    rcases hfull : d.fullScreen
    · have hquiet : (Detector.observe none d).1 = [] := by simp [Detector.observe, hfull]
      rw [hquiet]
      exact ⟨r.1, hsteady, .inl ⟨by rw [hnot, hsee]; rfl, by simp [hnot]⟩⟩
    · have hexit : (Detector.observe none d).1 = [.fullScreenChanged .exited] := by
        simp [Detector.observe, hfull]
      rw [hexit, Option.toList_none, List.append_nil]
      unfold Action.each
      rw [ensures_bind]
      exact (handle_handled _ hlooked.sharp).mono
        (fun _ q hq => ⟨r.1, hsteady.handled hq, .inr ⟨rfl, hnot⟩⟩) fun _ => id
  · -- the events spare the window that was found
    rw [hrecord] at hfound hsee
    obtain rfl : found = some { record with capturedAt } := hfound
    have hd' : r.1 = (Detector.observe (some { record with capturedAt }) d).2.glance
        p.2.system.foreground := by simpa using hd'
    obtain ⟨last, hsame⟩ := Detector.glance_sameSight p.2.system.foreground
      (Detector.observe (some { record with capturedAt }) d).2
    have hremembers := Detector.glance_remembers p.2.system.foreground
      (Detector.observe (some { record with capturedAt }) d).2
    rw [← hd'] at hsame hremembers
    have hfull : r.1.fullScreen = true := by
      rw [hsame]
      exact Detector.observe_fullScreen _ d
    have hsteady : Steady targets process r.1 ({ p.1 with detector := some r.1 }, r.2) :=
      h.ticked (by rw [hsame]; exact Detector.observe_targets _ d) hlooked
    obtain ⟨hwindow, hspared⟩ := h.sparedBy hrecord fun event he => (hfocus event he).2.1
    rw [← hlooked.alike.window] at hwindow
    refine (each_spares hlooked.sharp hwindow fun event hmem => ?_).mono (fun _ q hq => ?_)
      fun _ => id
    · rcases hspared event hmem with hbegun | ⟨focused, monitor, name, title, heq, hfocused⟩
      · exact .inl hbegun
      · exact .inr ⟨focused, monitor, name, title, heq, by rwa [hlooked.alike.window]⟩
    · obtain ⟨hhandled, hfind⟩ := hq
      have hsome := Desktop.fullScreen?_isSome hsee hhandled.reshown hfind
      refine ⟨r.1, hsteady.handled hhandled, .inl ⟨by rw [hfull, hsome], fun _ => ?_⟩⟩
      rw [hhandled.reshown.foreground]
      exact hlooked.alike.foreground ▸ hremembers

/-- A tick leaves the detector up to date, or it has ended an episode. -/
theorem tick_settles (h : Steady targets process d p) (htargets : targets ≠ []) :
    ∃ d', Steady targets process d' (step Desktop.Event.apply p (.command .tick)) ∧
      (UpToDate targets (step Desktop.Event.apply p (.command .tick)).2.system d' ∨
        d.fullScreen = true ∧ d'.fullScreen = false) := by
  have hpoll := poll_ensures (I := fun q => ∃ d', Steady targets process d' q ∧
      (UpToDate targets q.2.system d' ∨ d.fullScreen = true ∧ d'.fullScreen = false))
    (round_settles h htargets).of_uncut fun q d'' loop clock ⟨d', hsteady, hstage⟩ hd => by
      obtain rfl : d' = d'' := Option.some.inj (hsteady.detector.symm.trans hd)
      exact ⟨_, hsteady.proceed loop clock, hstage⟩
  exact hpoll.of_uncut.exec_snd

/-- There is nothing new for a detector that is up to date: its tick reports nothing and leaves it
as it is. -/
theorem tick_quiet (h : Steady targets process d p) (hstage : UpToDate targets p.2.system d)
    (htargets : targets ≠ []) :
    ∃ work, Detector.tick.exec (d, p.2) = (.ok [], (d, work)) ∧ p.2.Looked work := by
  obtain ⟨events, ⟨d', work⟩, hexec, hlooked, capturedAt, found, focus, hfound, hd', rfl, hfocus⟩ :=
    (Detector.tick_sharp h.sharp (h.watches ▸ htargets)).exists_exec
  obtain ⟨hseen, hremembered⟩ := hstage
  rw [h.watches, Desktop.find?_records] at hfound
  have hsame : found.isSome = d.fullScreen := by rw [hseen, hfound, Option.isSome_map]
  have hobserve : Detector.observe found d = ([], d) := if_pos hsame
  have hd' : d' = d := by
    rw [hobserve, hsame] at hd'
    rcases hfull : d.fullScreen
    · simpa [hfull] using hd'
    · simpa [hfull, (hremembered hfull).glance_eq] using hd'
  obtain rfl : focus = none := Option.eq_none_iff_forall_not_mem.mpr fun event he =>
    (hfocus event he).2.2 (hremembered (hsame ▸ (hfocus event he).1))
  rw [hobserve, hd'] at hexec
  exact ⟨work, hexec, hlooked⟩

/-- A tick of a detector that is up to date changes nothing but when the loop ticks next. -/
theorem step_quiet (h : Steady targets process d p) (hstage : UpToDate targets p.2.system d)
    (htargets : targets ≠ []) :
    (∃ loop, (step Desktop.Event.apply p (.command .tick)).1 =
        { p.1 with detector := some { d with loop } }) ∧
      p.2.Looked (step Desktop.Event.apply p (.command .tick)).2 := by
  obtain ⟨work, hexec, hlooked⟩ := tick_quiet h hstage htargets
  have hround : round.Ensures p (fun _ q => (∃ loop, q.1 =
      { p.1 with detector := some { d with loop } }) ∧ p.2.Looked q.2) fun _ => False := by
    unfold round
    rw [ensures_bind, ensures_read, h.detector]
    dsimp only
    rw [ensures_bind, ensures_onDetector, ensures_of_ok hexec]
    exact ⟨⟨d.loop, rfl⟩, hlooked⟩
  have hpoll := poll_ensures hround.of_uncut fun q d' loop clock ⟨⟨_, hq⟩, hlooked⟩ hd' => by
    refine ⟨⟨loop, ?_⟩, hlooked.alike, Workspace.worksConform_sharp.clock q.2 clock hlooked.sharp⟩
    rw [hq] at hd' ⊢
    rw [← Option.some.inj hd']
  exact hpoll.of_uncut.exec_snd

/-! ## Many ticks -/

/-- At most `n` ticks are left until nothing happens any more: none if the detector is up to date,
one if it is not full screen, for it can then begin an episode but not end one, and else two. -/
def Within (targets : List String) (process : ProcessId) (n : Nat)
    (p : Service × Workspace Desktop) : Prop :=
  ∃ d, Steady targets process d p ∧
    (UpToDate targets p.2.system d ∨ d.fullScreen = false ∧ 1 ≤ n ∨ 2 ≤ n)

/-- A tick takes one off. -/
theorem Within.tick {n : Nat} (h : Within targets process n p) (htargets : targets ≠ []) :
    Within targets process (n - 1) (step Desktop.Event.apply p (.command .tick)) := by
  obtain ⟨d, hsteady, hstage⟩ := h
  obtain ⟨d', hsteady', hstage'⟩ := tick_settles hsteady htargets
  refine ⟨d', hsteady', ?_⟩
  rcases hstage' with hup | ⟨hfull, hnot⟩
  · exact .inl hup
  rcases hstage with hup | ⟨hfull', -⟩ | hn
  · -- it would have stayed full screen
    obtain ⟨⟨loop, hquiet⟩, -⟩ := step_quiet hsteady hup htargets
    have hd' := hsteady'.detector
    rw [hquiet] at hd'
    rw [← Option.some.inj hd'] at hnot
    exact absurd (hfull.symm.trans hnot) (by simp)
  · exact absurd (hfull.symm.trans hfull') (by simp)
  · exact .inr (.inl ⟨hnot, by omega⟩)

/-- The passing of time takes none off and adds none. -/
theorem Within.wait {n : Nat} (h : Within targets process n p) (time : Nat) :
    Within targets process n (step Desktop.Event.apply p (.outside (.wait time))) := by
  obtain ⟨d, hsteady, hstage⟩ := h
  exact ⟨d, ⟨hsteady.detector, hsteady.watches, hsteady.sharp.system rfl rfl
    (Nat.le_add_right _ time) hsteady.sharp.fits, hsteady.single⟩, hstage⟩

/-- Along a run of ticks and waits as many are taken off as there are ticks. -/
theorem Within.run {n : Nat} {passing : List (Input Desktop.Event)} (hpassing : Passing passing)
    (h : Within targets process n p) (htargets : targets ≠ []) :
    Within targets process (n - passing.count (.command .tick))
      (run Desktop.Event.apply passing p) := by
  induction passing generalizing p n with
  | nil => exact h
  | cons input rest ih =>
    have hrest : Passing rest := fun other hother => hpassing other (List.mem_cons_of_mem _ hother)
    rcases hpassing input List.mem_cons_self with rfl | ⟨time, rfl⟩
    · have hnext := ih hrest (h.tick htargets)
      rwa [Nat.sub_sub, Nat.add_comm, ← List.count_cons_self] at hnext
    · rw [List.count_cons_of_ne (by simp)]
      exact ih hrest (h.wait time)

/-- The polling loop settles. Take any state that a service reaches in a run with a cache that makes
a new pass at every query and in which no process changes its program. Let the service watch some
targets, the windows can be enumerated and their monitors computed, and all windows of targets
belong to one process. If then nothing happens but ticks and the passing of time, every tick after
the second one yields no event and changes nothing: the service stays the same, but for the time of
its next tick, and so does the desktop, but for its counters and its clock. -/
theorem loop_settles {image : ProcessId → String} (settings : Settings) {desktop : Desktop}
    (hruns : desktop.Runs image) {inputs passing : List (Input Desktop.Event)}
    (hinputs : ∀ process path, .outside (.addProcess process path) ∈ inputs → path = image process)
    {p : Service × Workspace Desktop}
    (hp : p = run Desktop.Event.apply inputs (withSettings settings, Workspace.unseen 0 desktop))
    {d : Detector} (hd : p.1.detector = some d) (htargets : d.targets ≠ [])
    (henumerates : p.2.system.enumerationFails = false) (hfits : p.2.system.Fits)
    (hprocess : p.2.system.OneProcess d.targets process) (hpassing : Passing passing)
    (hticks : 2 ≤ passing.count (.command .tick)) :
    let q := run Desktop.Event.apply passing p
    let r := step Desktop.Event.apply q (.command .tick)
    ∃ d', q.1.detector = some d' ∧
      (∃ work, Detector.tick.exec (d', q.2) = (.ok [], (d', work))) ∧
      (∃ loop, r.1 = { q.1 with detector := some { d' with loop } }) ∧
      Desktop.Alike q.2.system r.2.system := by
  intro q r
  have hattentive : p.2.Attentive := hp ▸ run_attentive (p := (withSettings settings, _))
    ⟨rfl, by simp [Workspace.unseen], by simp [Workspace.unseen, Workspace.KnowsNames]⟩
    hruns hinputs
  have hsteady : Steady d.targets process d p :=
    ⟨hd, rfl, hattentive.sharp henumerates hfits, hprocess⟩
  obtain ⟨d', hsteady', hstage⟩ :=
    Within.run hpassing (n := 2) ⟨d, hsteady, .inr (.inr (Nat.le_refl 2))⟩ htargets
  have hup : UpToDate d.targets q.2.system d' := by
    rcases hstage with hup | ⟨-, hn⟩ | hn
    · exact hup
    · omega
    · omega
  obtain ⟨work, hexec, -⟩ := tick_quiet hsteady' hup htargets
  obtain ⟨hloop, hlooked⟩ := step_quiet hsteady' hup htargets
  exact ⟨d', hsteady'.detector, ⟨work, hexec⟩, hloop, hlooked.alike⟩

/-- Two windows of a game fill the same monitor, and the upper one is closed. The first tick ends
the episode and brings the lower one back, the second one begins an episode with it. -/
theorem loop_settles_demo :
    let desktop := Desktop.demo.addProcess 400 "C:\\Games\\game.exe"
    let game := (DesktopWindow.titled 400 "Game").maximizedOver ⟨0, 0, 1920, 1040⟩
    let inputs : List (Input Desktop.Event) :=
      [.outside (.addProcess 400 "C:\\Games\\game.exe"), .outside (.openWindow game),
        .outside (.openWindow game), .command .start, .command .tick,
        .outside (.closeWindow ⟨0x1040⟩)]
    let passing : List (Input Desktop.Event) :=
      [.command .tick, .outside (.wait 500), .command .tick]
    let p := run Desktop.Event.apply inputs
      (withSettings { targets := ["game"] }, Workspace.unseen 0 desktop)
    let q := run Desktop.Event.apply passing p
    (runHandlings Desktop.Event.apply passing p).map (fun x => (x.1.isExit, x.1.isEnter)) =
        [(true, false), (false, true)] ∧
      ∃ d, q.1.detector = some d ∧ (∃ work, Detector.tick.exec (d, q.2) = (.ok [], (d, work))) ∧
        Desktop.Alike q.2.system (step Desktop.Event.apply q (.command .tick)).2.system := by
  intro desktop game inputs passing
  have hruns : desktop.Runs fun process => (desktop.processes.find? process).getD "" :=
    fun process path hpath => by simp [hpath]
  have hinputs : ∀ process path, .outside (.addProcess process path) ∈ inputs →
      path = (desktop.processes.find? process).getD "" := by
    intro process path hmem
    simp only [inputs, List.mem_cons, Input.outside.injEq, Desktop.Event.addProcess.injEq,
      reduceCtorEq, List.not_mem_nil, or_false] at hmem
    rw [hmem.1, hmem.2]
    decide +kernel
  obtain ⟨d, hd, htargets⟩ : ∃ d, (run Desktop.Event.apply inputs
      (withSettings { targets := ["game"] }, Workspace.unseen 0 desktop)).1.detector = some d ∧
        d.targets = ["game"] := Option.map_eq_some_iff.mp (by decide +kernel)
  have hprocess : (run Desktop.Event.apply inputs (withSettings { targets := ["game"] },
      Workspace.unseen 0 desktop)).2.system.OneProcess d.targets 400 := by
    rw [htargets]
    exact .of_windows (by decide +kernel)
  have hpassing : Passing passing := by simp [passing, Passing]
  obtain ⟨d', hd', hquiet, -, halike⟩ := loop_settles { targets := ["game"] } hruns hinputs rfl hd
    (by simp [htargets]) (by decide +kernel) (.of_windows (by decide +kernel)) hprocess hpassing
    (by decide)
  exact ⟨by decide +kernel, d', hd', hquiet, halike⟩

end Service

end SoloScreen
