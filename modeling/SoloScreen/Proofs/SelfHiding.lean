import SoloScreen.Proofs.LeftBehind

/-!
# When the full-screen window is hidden itself

An episode hides the windows beside the full-screen one, and a focus event hides the windows beside
the focused one that belong to other processes. The window that the detector names is safe from the
former but not from the latter: what the latter spares is a process, not a window, and a game may
well run as two processes.

The argument follows one window through a tick. The events of a tick that leaves the detector naming
a window are about this window or its monitor (`Detector.Ticked.concerns`), so only two kinds of
them are to be considered, and each either leaves the window alone or minimizes it. Once minimized
it stays so to the end of the tick, and the first event that strikes decides.

* `Minimizer.minimizeOnMonitor_spares`: beginning an episode does not touch the excluded window.
* `Minimizer.minimizeBeside_minimizes`: what becomes of a window when the focus went to another one.
* `Service.hides_own_window_iff`: a tick minimizes the window that the detector names after it if
  and only if it handles a focus event about a window of another process.

The desktop is without faults throughout: with them a window may refuse to be minimized, and whether
it is asked and whether it is minimized come apart.
-/

namespace SoloScreen

open SoloScreen.Action

/-! ## Events of a tick that names a window -/

/-- The event is the begin of an episode with the window, or a focus event on its monitor. -/
inductive DetectorEvent.Concerns (window : WindowHandle) (monitor : MonitorHandle) :
    DetectorEvent → Prop
  /-- An episode begins for this very window. -/
  | begun (process title : String) :
    Concerns window monitor (.fullScreenChanged (.entered window monitor process title))
  /-- The focus went to a target on this window's monitor, be it this window or another one. -/
  | focused (focused : WindowHandle) (process title : String) :
    Concerns window monitor (.targetFocused (.entered focused monitor process title))

/-- The detector names a window on a monitor if and only if it holds both of them. It never holds
just one, but that is an invariant of its runs and not of the record. -/
theorem Detector.current?_eq_some {d : Detector} {window : WindowHandle} {monitor : MonitorHandle} :
    d.current? = some (window, monitor) ↔ d.window = some window ∧ d.monitor = some monitor := by
  unfold current?
  rcases d.window with _ | w <;> rcases d.monitor with _ | m <;> simp

/-- The events of a tick that leaves the detector naming a window concern this window. -/
theorem Detector.Ticked.concerns {d d' : Detector} {events : List DetectorEvent}
    (h : Ticked d events d') {window : WindowHandle} {monitor : MonitorHandle}
    (hcurrent : d'.current? = some (window, monitor)) :
    ∀ event ∈ events, event.Concerns window monitor := by
  cases h with
  | blind => simp
  | saw found focus _ hsame hfocus =>
    obtain ⟨last, rfl⟩ := hsame
    obtain ⟨hwindow, hmonitor⟩ := current?_eq_some.mp hcurrent
    intro event hmem
    rcases List.mem_append.mp hmem with hchange | hfocused
    · unfold observe at hchange hwindow hmonitor
      split at hchange
      · simp at hchange
      · rename_i hnew
        rw [if_neg hnew] at hwindow hmonitor
        rcases found with _ | record
        · simp at hwindow
        · obtain rfl := Option.some.inj hwindow
          obtain rfl := Option.some.inj hmonitor
          rw [List.mem_singleton.mp hchange]
          exact .begun record.processName record.title
    · obtain ⟨-, focused, m, process, title, rfl, hm⟩ := hfocus event (by simpa using hfocused)
      obtain rfl := Option.some.inj (hm.symm.trans hmonitor)
      exact .focused focused process title

/-! ## What the minimizer does to one window -/

namespace Minimizer

open Service (stage)

variable {window : WindowHandle} {monitor : MonitorHandle}

/-- The windows on a monitor are taken from the current snapshot, and asking for it changes no
window. -/
theorem windowsOn_snapshot (exclude : Option WindowHandle) (work : Workspace Desktop) :
    (Workspace.windowsOn monitor exclude).Ensures work
      (fun records work' => ∃ snapshot, Workspace.snapshot.exec work = (.ok snapshot, work') ∧
        records = (snapshot.windows.filter fun record =>
          record.monitor = monitor ∧ some record.handle ≠ exclude) ∧
            Desktop.Alike work.system work'.system)
      fun work' => (∀ snapshot work'', Workspace.snapshot.exec work ≠ (.ok snapshot, work'')) ∧
        Desktop.Alike work.system work'.system := by
  have halike := Workspace.queriesConform_alike.snapshot.exec_snd work
  unfold Workspace.windowsOn Workspace.windows
  rw [ensures_bind, ensures_bind]
  rcases hsnapshot : Workspace.snapshot.exec work with ⟨e | snapshot, work'⟩
  · rw [hsnapshot] at halike
    rw [ensures_of_error hsnapshot]
    exact ⟨by simp, halike⟩
  · rw [hsnapshot] at halike
    rw [ensures_of_ok hsnapshot]
    exact ⟨snapshot, rfl, rfl, halike⟩

/-- Beginning an episode does not touch the excluded window. -/
theorem minimizeOnMonitor_spares (p : Minimizer × Workspace Desktop) :
    (minimizeOnMonitor monitor (some window)).run.Ensures p
      (fun _ q => q.2.system.find? window = p.2.system.find? window)
      fun q => q.2.system.find? window = p.2.system.find? window := by
  rw [ensures_minimizeOnMonitor]
  rcases p.2.system.monitor? monitor with _ | info
  · rfl
  dsimp only
  refine (windowsOn_snapshot (some window) p.2).mono (fun records work hwork => ?_)
    fun work hwork => hwork.2.find? window
  obtain ⟨snapshot, -, rfl, halike⟩ := hwork
  refine Ensures.each (I := fun _ (q : Minimizer × Workspace Desktop) =>
    q.2.system.find? window = p.2.system.find? window)
    (fun record rest q hmem hq => ?_) (halike.find? window)
  have hplace := (List.mem_filter.mp hmem).2
  simp only [decide_eq_true_eq] at hplace
  have hne : ¬ window = record.handle := fun heq => hplace.2 (by rw [heq])
  rw [ensures_of_ok (hide_exec record.handle q)]
  show (q.2.system.asked record.handle).find? window = _
  rw [Desktop.find?_asked, if_neg fun h => hne h.1, hq]

/-- Asked to minimize beside `target`, the minimizer comes upon the window: the snapshot that is
current then records it on the monitor, for another process than the one that owns `target`, and it
can be minimized. -/
structure Meets (target : WindowHandle) (monitor : MonitorHandle) (window : WindowHandle)
    (work : Workspace Desktop) : Prop where
  /-- The focus went to another window. -/
  other : target ≠ window
  /-- The desktop can tell about the monitor; the minimizer asks for it first. -/
  known : (work.system.monitor? monitor).isSome
  /-- The snapshot records the window there, for a process that is not spared. -/
  recorded : ∃ snapshot work', Workspace.snapshot.exec work = (.ok snapshot, work') ∧
    ∃ record ∈ snapshot.windows, record.handle = window ∧ record.monitor = monitor ∧
      some record.process ≠ ((work.system.window target).map (·.process)).toOption
  /-- The live checks right before the request let the window pass. -/
  eligible : work.system.isEligible window = true

/-- The window with its show state replaced. -/
abbrev minimized (w : Option DesktopWindow) : Option DesktopWindow :=
  w.map ({ · with state := .minimized })

/-- How far a window has got when `rest` is still to be visited: it is as before, and one of the
rest will minimize it if one of all does; or it is minimized. -/
inductive Visiting (window : WindowHandle) (spared : Option ProcessId) (records : List WindowRecord)
    (before : Desktop) (rest : List WindowRecord) (D : Desktop) : Prop
  /-- The window is as before, and if any record of all will strike it then one of the rest does. -/
  | waiting : D.find? window = before.find? window →
    ((∃ record ∈ records, record.handle = window ∧ some record.process ≠ spared) →
      before.isEligible window = true →
        ∃ record ∈ rest, record.handle = window ∧ some record.process ≠ spared) →
    Visiting window spared records before rest D
  /-- The window was struck. The two conditions are kept, for they make the minimizer meet it. -/
  | done : D.find? window = minimized (before.find? window) →
    (∃ record ∈ records, record.handle = window ∧ some record.process ≠ spared) →
      before.isEligible window = true → Visiting window spared records before rest D

variable {spared : Option ProcessId} {records rest : List WindowRecord} {before D : Desktop}
  {record : WindowRecord}

/-- A record of the spared process is passed over. It cannot have been the one that strikes. -/
theorem Visiting.pass (h : Visiting window spared records before (record :: rest) D)
    (hspared : some record.process = spared) : Visiting window spared records before rest D := by
  cases h with
  | done hfind hsome heligible => exact .done hfind hsome heligible
  | waiting hfind hwait =>
    refine .waiting hfind fun hsome heligible => ?_
    obtain ⟨other, hmem, hhandle, hother⟩ := hwait hsome heligible
    rcases List.mem_cons.mp hmem with rfl | hrest
    · exact absurd hspared hother
    · exact ⟨other, hrest, hhandle, hother⟩

/-- The window of the next record is asked to minimize. If it is the window in question and
eligible, it is minimized now; if it is another one, nothing changed for the window in question. -/
theorem Visiting.ask (h : Visiting window spared records before (record :: rest) D)
    (hmem : record ∈ records) (hspared : some record.process ≠ spared)
    (hfailing : D.failing = before.failing) (hobeys : D.refusing = []) :
    Visiting window spared records before rest (D.asked record.handle) := by
  have hyields : D.yields record.handle = D.isEligible record.handle := by
    simp [Desktop.yields, hobeys]
  have hasked := Desktop.find?_asked record.handle window D
  rw [hyields] at hasked
  cases h with
  | done hfind hsome heligible =>
    refine .done ?_ hsome heligible
    rw [hasked, hfind]
    split
    · simp [Function.comp_def]
    · rfl
  | waiting hfind hwait =>
    have hsame : D.isEligible window = before.isEligible window := by
      unfold Desktop.isEligible Desktop.window
      rw [hfind, hfailing]
    by_cases hturn : window = record.handle ∧ D.isEligible record.handle = true
    · rw [if_pos hturn, hfind] at hasked
      obtain ⟨rfl, heligible⟩ := hturn
      exact .done hasked ⟨record, hmem, rfl, hspared⟩ (hsame ▸ heligible)
    · rw [if_neg hturn, hfind] at hasked
      refine .waiting hasked fun hsome heligible => ?_
      obtain ⟨other, hother, hhandle, hprocess⟩ := hwait hsome heligible
      rcases List.mem_cons.mp hother with rfl | hrest
      · exact absurd ⟨hhandle.symm, by rw [hhandle, hsame, heligible]⟩ hturn
      · exact ⟨other, hrest, hhandle, hprocess⟩

/-- Visiting all records, one after the other. With no record left, the window is either minimized
or no record could strike it. The pass itself does not fail on a desktop that obeys. -/
theorem count_visits {p : Minimizer × Workspace Desktop}
    (hfind : p.2.system.find? window = before.find? window)
    (hframed : before.Framed p.2.system) (hobeys : before.refusing = []) :
    (Action.count (hideAgain spared) records).Ensures p
      (fun _ q => Visiting window spared records before [] q.2.system) fun _ => False := by
  refine (Ensures.count (n := 0) (I := fun _ rest q => before.Framed q.2.system ∧
    Visiting window spared records before rest q.2.system) (fun _ record rest q hmem hq => ?_)
      ⟨hframed, .waiting hfind fun hsome _ => hsome⟩).mono (fun _ _ hq => hq.2) fun _ => id
  obtain ⟨hframed, hvisiting⟩ := hq
  have hexec := hideAgain_exec spared record q
  by_cases hspared : some record.process = spared
  · rw [if_pos hspared] at hexec
    rw [ensures_of_ok hexec]
    exact ⟨hframed, hvisiting.pass hspared⟩
  · rw [if_neg hspared] at hexec
    rw [ensures_of_ok hexec]
    exact ⟨Desktop.asked_of_calls
      (fun call => hframed.trans (Desktop.answer_framed q.2.system call)) hframed record.handle,
      hvisiting.ask hmem hspared hframed.failing (hframed.refusing.trans hobeys)⟩

/-- With the snapshot at hand it can be read off whether the minimizer comes upon the window. -/
theorem meets_iff (window target : WindowHandle) {work work' : Workspace Desktop}
    {snapshot : WindowSnapshot}
    (hsnapshot : Workspace.snapshot.exec work = (.ok snapshot, work')) {info : MonitorInfo}
    (hinfo : work.system.monitor? monitor = some info) :
    Meets target monitor window work ↔
      (∃ record ∈ snapshot.windows.filter fun record =>
          record.monitor = monitor ∧ some record.handle ≠ some target,
        record.handle = window ∧
          some record.process ≠ ((work.system.window target).map (·.process)).toOption) ∧
        work.system.isEligible window = true := by
  constructor
  · rintro ⟨hother, -, ⟨snapshot', _, hsnapshot', record, hmem, rfl, hplace, hprocess⟩, heligible⟩
    rw [hsnapshot] at hsnapshot'
    obtain rfl := Except.ok.inj (Prod.mk.inj hsnapshot').1
    refine ⟨⟨record, ?_, rfl, hprocess⟩, heligible⟩
    rw [List.mem_filter]
    exact ⟨hmem, by simpa using ⟨hplace, fun heq => hother heq.symm⟩⟩
  · rintro ⟨⟨record, hmem, rfl, hprocess⟩, heligible⟩
    rw [List.mem_filter] at hmem
    simp only [decide_eq_true_eq] at hmem
    exact ⟨fun heq => hmem.2.2 (by rw [heq]), by simp [hinfo],
      ⟨snapshot, work', hsnapshot, record, hmem.1, rfl, hmem.2.1, hprocess⟩, heligible⟩

/-- What becomes of a window when the focus went to `target`: it is minimized if the minimizer comes
upon it, and otherwise it stays as it is. -/
theorem minimizeBeside_minimizes (target : WindowHandle) {p : Minimizer × Workspace Desktop}
    (hfaultless : p.2.system.Faultless) :
    let after (q : Minimizer × Workspace Desktop) : Prop :=
      (Meets target monitor window p.2 →
        q.2.system.find? window = minimized (p.2.system.find? window)) ∧
      (¬ Meets target monitor window p.2 → q.2.system.find? window = p.2.system.find? window)
    (minimizeBeside target monitor).run.Ensures p (fun _ => after) after := by
  intro after
  rw [ensures_minimizeBeside]
  rcases hinfo : p.2.system.monitor? monitor with _ | info
  · have hnot : ¬ Meets target monitor window p.2 := fun h => by simpa [hinfo] using h.known
    exact ⟨fun h => absurd h hnot, fun _ => rfl⟩
  dsimp only
  have hcut : (∀ snapshot work', Workspace.snapshot.exec p.2 ≠ (.ok snapshot, work')) →
      ¬ Meets target monitor window p.2 := fun hnone h => by
    obtain ⟨snapshot, work', hsnapshot, -⟩ := h.recorded
    exact hnone snapshot work' hsnapshot
  refine (windowsOn_snapshot (some target) p.2).mono (fun records work hwork => ?_)
    fun work hwork => ⟨fun h => absurd h (hcut hwork.1), fun _ => hwork.2.find? window⟩
  obtain ⟨snapshot, hsnapshot, rfl, halike⟩ := hwork
  have hmeets := meets_iff window target hsnapshot hinfo
  refine (count_visits (halike.find? window) halike.framed
    hfaultless.obeys).mono (fun _ q hq => ?_) fun _ => False.elim
  cases hq with
  | waiting hfind hwait =>
    have hnot : ¬ Meets target monitor window p.2 := fun h => by
      obtain ⟨record, hmem, -⟩ := hwait (hmeets.mp h).1 (hmeets.mp h).2
      simp at hmem
    exact ⟨fun h => absurd h hnot, fun _ => hfind⟩
  | done hfind hsome heligible =>
    exact ⟨fun _ => hfind, fun hnot => absurd (hmeets.mpr ⟨hsome, heligible⟩) hnot⟩

end Minimizer

/-! ## What a tick does to the window that the detector names -/

namespace Service

variable {window : WindowHandle} {monitor : MonitorHandle}

/-- A focus event about another window is handled while the minimizer comes upon the window. -/
def Strikes (window : WindowHandle) (monitor : MonitorHandle)
    (x : DetectorEvent × (Service × Workspace Desktop)) : Prop :=
  ∃ focused process title, x.1 = .targetFocused (.entered focused monitor process title) ∧
    Minimizer.Meets focused monitor window x.2.2

/-- An event that concerns the window minimizes it if it strikes, and else does not touch it. The
begin of an episode never strikes, for it excludes this window; a focus event strikes if the
minimizer meets the window. -/
theorem handle_concerning {event : DetectorEvent} (hconcerns : event.Concerns window monitor)
    {p : Service × Workspace Desktop} (hfaultless : p.2.system.Faultless) :
    (Strikes window monitor (event, p) → ((handle event).exec p).2.2.system.find? window =
        Minimizer.minimized (p.2.system.find? window)) ∧
      (¬ Strikes window monitor (event, p) →
        ((handle event).exec p).2.2.system.find? window = p.2.system.find? window) := by
  refine Ensures.exec_snd (I := fun q : Service × Workspace Desktop =>
    (Strikes window monitor (event, p) →
    q.2.system.find? window = Minimizer.minimized (p.2.system.find? window)) ∧
      (¬ Strikes window monitor (event, p) → q.2.system.find? window = p.2.system.find? window)) ?_
  rw [ensures_handle]
  cases hconcerns with
  | begun process title =>
    have hnot : ¬ Strikes window monitor
        (.fullScreenChanged (.entered window monitor process title), p) := by
      rintro ⟨focused, process', title', hevent, -⟩
      simp at hevent
    exact (Minimizer.minimizeOnMonitor_spares (p.1.minimizer, p.2)).mono
      (fun _ _ hq => ⟨fun h => absurd h hnot, fun _ => hq⟩)
      fun _ hq => ⟨fun h => absurd h hnot, fun _ => hq⟩
  | focused focused process title =>
    have hstrikes : Strikes window monitor
        (.targetFocused (.entered focused monitor process title), p) ↔
          Minimizer.Meets focused monitor window p.2 := by
      constructor
      · rintro ⟨focused', process', title', hevent, hmeets⟩
        simp only [DetectorEvent.targetFocused.injEq, Sighting.entered, Sighting.mk.injEq,
          Option.some.injEq] at hevent
        exact hevent.2.1 ▸ hmeets
      · exact fun hmeets => ⟨focused, process, title, rfl, hmeets⟩
    rw [hstrikes]
    exact Minimizer.minimizeBeside_minimizes focused (p := (p.1.minimizer, p.2)) hfaultless

/-- A window that is minimized stays so while an event that concerns it is handled: neither kind of
event restores a window. -/
theorem handle_keeps_minimized {event : DetectorEvent} (hconcerns : event.Concerns window monitor)
    {p : Service × Workspace Desktop} (hfaultless : p.2.system.Faultless)
    (hmin : p.2.system.isMinimized window = true) :
    ((handle event).exec p).2.2.system.isMinimized window = true := by
  obtain ⟨hstrikes, hmisses⟩ := handle_concerning hconcerns hfaultless
  obtain ⟨w, hw, hstate⟩ := Desktop.isMinimized_iff.mp hmin
  by_cases h : Strikes window monitor (event, p)
  · have hfind := hstrikes h
    rw [hw] at hfind
    exact Desktop.isMinimized_iff.mpr ⟨{ w with state := .minimized }, hfind, rfl⟩
  · exact Desktop.isMinimized_iff.mpr ⟨w, by rw [hmisses h, hw], hstate⟩

/-- Handling an event does not make the desktop fail or refuse. -/
theorem handle_faultless (event : DetectorEvent) {p : Service × Workspace Desktop}
    (hfaultless : p.2.system.Faultless) : ((handle event).exec p).2.2.system.Faultless :=
  hfaultless.of_framed ((handle_calls Desktop.callsConform_framed event).exec_snd p)

/-- The events of a list that concern the window keep it minimized. -/
theorem each_keeps_minimized {events : List DetectorEvent} {p : Service × Workspace Desktop}
    (hconcerns : ∀ event ∈ events, event.Concerns window monitor)
    (hfaultless : p.2.system.Faultless) (hmin : p.2.system.isMinimized window = true) :
    ((Action.each handle events).exec p).2.2.system.isMinimized window = true := by
  induction events generalizing p with
  | nil => exact hmin
  | cons event rest ih =>
    have hfirst := handle_keeps_minimized (hconcerns event List.mem_cons_self) hfaultless hmin
    have hfaultless' := handle_faultless event hfaultless
    unfold Action.each
    rcases he : (handle event).exec p with ⟨e | ⟨⟩, q⟩
    · rw [exec_bind_of_error he]
      rwa [he] at hfirst
    · rw [exec_bind_of_ok he]
      rw [he] at hfirst hfaultless'
      exact ih (fun other hother => hconcerns other (List.mem_cons_of_mem _ hother))
        hfaultless' hfirst

/-- Handling events that concern the window minimizes it if and only if one of them strikes. The
induction is on the events: up to the first one that strikes the window is as at the start, and from
there on it is minimized. -/
theorem each_minimizes_iff {events : List DetectorEvent} {p : Service × Workspace Desktop}
    (hconcerns : ∀ event ∈ events, event.Concerns window monitor)
    (hfaultless : p.2.system.Faultless) :
    Flips window (stage p) (stage ((Action.each handle events).exec p).2) ↔
      ∃ x ∈ handlings events p, Strikes window monitor x := by
  induction events generalizing p with
  | nil =>
    have hnot : ¬ Flips window (stage p) (stage p) := fun h => by simpa [h.1] using h.2
    simpa [handlings, Action.each] using hnot
  | cons event rest ih =>
    have hevent := hconcerns event List.mem_cons_self
    have hrest : ∀ other ∈ rest, other.Concerns window monitor :=
      fun other hother => hconcerns other (List.mem_cons_of_mem _ hother)
    obtain ⟨hstrikes, hmisses⟩ := handle_concerning hevent hfaultless
    have hfaultless' := handle_faultless event hfaultless
    by_cases hstrike : Strikes window monitor (event, p)
    · -- it is shown before, minimized by this event, and stays so
      have hafter := hstrikes hstrike
      obtain ⟨focused, process, title, -, hmeets⟩ := id hstrike
      obtain ⟨w, hw, -, -, hstate⟩ := Desktop.exists_of_isEligible hmeets.eligible
      have hfind := (Desktop.find?_of_window hw).1
      have hbefore : p.2.system.isMinimized window = false := by
        simp [Desktop.isMinimized, hfind, hstate]
      have hmin : ((handle event).exec p).2.2.system.isMinimized window = true := by
        simp [Desktop.isMinimized, hafter, hfind]
      refine iff_of_true ⟨hbefore, ?_⟩ ⟨(event, p), head_mem_handlings event rest p, hstrike⟩
      show ((Action.each handle (event :: rest)).exec p).2.2.system.isMinimized window = true
      unfold Action.each
      rcases he : (handle event).exec p with ⟨e | ⟨⟩, q⟩
      · rw [exec_bind_of_error he]
        rwa [he] at hmin
      · rw [exec_bind_of_ok he]
        rw [he] at hmin hfaultless'
        exact each_keeps_minimized hrest hfaultless' hmin
    · -- it is not touched, and the rest decides
      have hafter := hmisses hstrike
      unfold Action.each handlings
      rcases he : (handle event).exec p with ⟨e | ⟨⟩, q⟩
      · rw [exec_bind_of_error he]
        rw [he] at hafter
        have hnot : ¬ Flips window (stage p) (stage q) := fun h => by
          have hmin : q.2.system.isMinimized window = true := h.2
          rw [Desktop.isMinimized, hafter] at hmin
          exact absurd (h.1.symm.trans hmin) (by simp)
        simpa [hstrike] using hnot
      · rw [exec_bind_of_ok he]
        rw [he] at hafter hfaultless'
        have hflips (t : Stage) : Flips window (stage p) t ↔ Flips window (stage q) t := by
          unfold Flips stage Desktop.isMinimized
          rw [hafter]
        rw [hflips, ih hrest hfaultless']
        simp [hstrike]

/-- A finished round has the same effect on the desktop as the tick it belongs to, and leaves the
detector naming the same window. -/
theorem poll_round (p : Service × Workspace Desktop) :
    (poll.exec p).2.2.system = (round.exec p).2.2.system ∧
      (poll.exec p).2.1.detector.bind Detector.current? =
        (round.exec p).2.1.detector.bind Detector.current? := by
  have hpoll := poll_ensures (p := p)
    (I := fun q => q.2.system = (round.exec p).2.2.system ∧
      q.1.detector.bind Detector.current? = (round.exec p).2.1.detector.bind Detector.current?)
    (.of_exec_snd ⟨rfl, rfl⟩) fun q d loop clock hq hd => by
      rw [hd] at hq
      exact hq
  exact hpoll.of_uncut.exec_snd

/-- Handling an event does not touch the detector. -/
theorem handle_detector (event : DetectorEvent) :
    Follows (fun p q : Service × Workspace Desktop => q.1.detector = p.1.detector) (handle event) :=
  fun p => (handle_keeps event p).mono (fun _ _ h => h.detector) fun _ h => h.detector

/-- A tick of the detector changes no window. -/
theorem ticked_alike (d : Detector) (p : Service × Workspace Desktop) :
    Desktop.Alike p.2.system ((onDetector d Detector.tick).exec p).2.2.system :=
  (Detector.tick_conforms Workspace.queriesConform_alike).exec_snd (d, p.2)

/-- A tick on a desktop without faults minimizes the window that the detector names after it if and
only if one of the events that it handles strikes. -/
theorem tick_minimizes_iff {p : Service × Workspace Desktop} (hfaultless : p.2.system.Faultless)
    (hcurrent : (step Desktop.Event.apply p (.command .tick)).1.detector.bind Detector.current? =
      some (window, monitor)) :
    Flips window (stage p) (stage (step Desktop.Event.apply p (.command .tick))) ↔
      ∃ x ∈ tickHandlings p, Strikes window monitor x := by
  obtain ⟨hsystem, hsame⟩ := poll_round p
  have hcurrent' := hsame.symm.trans hcurrent
  have hflips : Flips window (stage p) (stage (step Desktop.Event.apply p (.command .tick))) ↔
      Flips window (stage p) (stage (round.exec p).2) := by
    show _ ∧ (poll.exec p).2.2.system.isMinimized window = true ↔ _
    rw [hsystem]
    rfl
  rw [hflips]
  rcases hd : p.1.detector with _ | d
  · have hidle : round.exec p = (.ok (), p) := by
      unfold round
      rw [exec_bind_of_ok (exec_read_of_eq (f := (·.detector)) hd)]
      rfl
    simp [hidle, hd] at hcurrent'
  have hround : round.exec p = (onDetector d Detector.tick >>= Action.each handle).exec p := by
    unfold round
    rw [exec_bind_of_ok (exec_read_of_eq (f := (·.detector)) hd)]
  rw [hround] at hcurrent' ⊢
  have halike := ticked_alike d p
  rcases he : (onDetector d Detector.tick).exec p with ⟨e | events, q⟩
  · -- the tick is cut short, and nothing is handled
    rw [he] at halike
    rw [exec_bind_of_error he]
    have hnone : tickHandlings p = [] := by
      unfold tickHandlings
      simp only [hd, he]
    have hnot : ¬ Flips window (stage p) (stage q) := fun h => by
      have hmin : q.2.system.isMinimized window = true := h.2
      rw [Desktop.isMinimized, halike.find?] at hmin
      exact absurd (h.1.symm.trans hmin) (by simp)
    simpa [hnone] using hnot
  · rw [he] at halike
    rw [exec_bind_of_ok he] at hcurrent' ⊢
    obtain ⟨d', hticked, hq⟩ := ticked_of_exec he
    have hpath : IsPath fun p q : Service × Workspace Desktop => q.1.detector = p.1.detector :=
      ⟨fun _ => rfl, fun h₁ h₂ => h₂.trans h₁⟩
    -- handling does not touch the detector, so it names the window already when the events are
    -- handled
    have hdetector := (Follows.each hpath events handle_detector).exec_snd q
    rw [hdetector, hq] at hcurrent'
    rw [tickHandlings_of_exec hd he, ← each_minimizes_iff (hticked.concerns hcurrent')
      (hfaultless.of_framed halike.framed)]
    unfold Flips stage Desktop.isMinimized
    rw [halike.find?]

/-- Nothing but a focus event about a window of another process makes the service hide the window
that it hides others for. Take a run on a desktop without faults and one more tick, after which the
detector names a window. The tick minimizes this window if and only if it handles a focus event
about another window, on the monitor of the episode, while the snapshot records the first one there
for another process than the focused one's, and it is visible, no system window and not minimized.

Only windows that are shown are asked to minimize, and without faults they obey: to be minimized by
a tick is to have been asked in it. -/
theorem hides_own_window_iff {desktop : Desktop} (hfaultless : desktop.Faultless)
    (settings : Settings) {work : Workspace Desktop} (hwork : work.system = desktop)
    {inputs : List (Input Desktop.Event)}
    (hfaults : ∀ event, .outside event ∈ inputs → event.isFault = false)
    (hcurrent : (run Desktop.Event.apply (inputs ++ [.command .tick])
      (withSettings settings, work)).1.detector.bind Detector.current? = some (window, monitor)) :
    Flips window (stage (run Desktop.Event.apply inputs (withSettings settings, work)))
        (stage (run Desktop.Event.apply (inputs ++ [.command .tick])
          (withSettings settings, work))) ↔
      ∃ x ∈ tickHandlings (run Desktop.Event.apply inputs (withSettings settings, work)),
        ∃ focused process title,
          x.1 = .targetFocused (.entered focused monitor process title) ∧
            Minimizer.Meets focused monitor window x.2.2 := by
  rw [run_append] at hcurrent ⊢
  exact tick_minimizes_iff (run_faultless (p := (withSettings settings, work)) (hwork ▸ hfaultless)
    hfaults) hcurrent

/-- Two processes run the same program. The window of the one is full screen when the other one's
comes to the foreground, and it is minimized. -/
theorem hides_own_window_iff_demo :
    let game := (DesktopWindow.titled 400 "Game").maximizedOver ⟨0, 0, 1920, 1040⟩
    let inputs : List (Input Desktop.Event) :=
      [.outside (.addProcess 400 "game.exe"), .outside (.addProcess 500 "game.exe"),
        .command .start, .outside (.openWindow game), .command .tick,
        .outside (.openWindow (DesktopWindow.titled 500 "Launcher")),
        .outside (.setForeground (some ⟨0x1040⟩))]
    let p := (withSettings { targets := ["game"] }, Workspace.unseen 0 Desktop.demo)
    Flips ⟨0x1030⟩ (stage (run Desktop.Event.apply inputs p))
        (stage (run Desktop.Event.apply (inputs ++ [.command .tick]) p)) ∧
      (Flips ⟨0x1030⟩ (stage (run Desktop.Event.apply inputs p))
          (stage (run Desktop.Event.apply (inputs ++ [.command .tick]) p)) ↔
        ∃ x ∈ tickHandlings (run Desktop.Event.apply inputs p), ∃ focused process title,
          x.1 = .targetFocused (.entered focused ⟨0x10⟩ process title) ∧
            Minimizer.Meets focused ⟨0x10⟩ ⟨0x1030⟩ x.2.2) := by
  intro game inputs p
  have hfaults : ∀ event, Input.outside event ∈ inputs → event.isFault = false := by
    simp [inputs, Desktop.Event.isFault]
  have hflips : Flips ⟨0x1030⟩ (stage (run Desktop.Event.apply inputs p))
      (stage (run Desktop.Event.apply (inputs ++ [.command .tick]) p)) := by
    unfold Flips
    decide +kernel
  exact ⟨hflips, hides_own_window_iff Desktop.faultless_demo { targets := ["game"] } rfl hfaults
    (by decide +kernel)⟩

end Service

end SoloScreen
