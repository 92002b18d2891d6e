import Mathlib.Data.List.Basic
import SoloScreen.Proofs.Commands
import SoloScreen.Proofs.DesktopDetector
import SoloScreen.Proofs.Veil

/-!
# A full-screen session is reversible

A window of a target is opened over a whole monitor, some ticks pass, it is closed, some ticks pass:
the desktop is then as it was before, and a notification said how many windows went and how many
came back (`Service.session_reversible`).

The service goes through three states: it is at rest (`Service.AtRest`), in an episode
(`Service.InEpisode`), and, once the window is closed, an episode is over that it has not noticed
yet. Each has its lemma about one tick, and a number of ticks is an induction.
-/

namespace SoloScreen

open SoloScreen.Action

/-! ## Desktops with at most one window of a target -/

namespace Desktop

/-- No window belongs to a target. -/
def Idle (targets : List String) (desktop : Desktop) : Prop :=
  ∀ window name, desktop.ownerName? window = some name → name ∉ targets

/-- One window belongs to a target, and it fills its monitor. -/
structure Taken (targets : List String) (window : WindowHandle) (monitor : MonitorHandle)
    (desktop : Desktop) : Prop where
  /-- The window has a record that fills its monitor. -/
  record : ∀ capturedAt, ∃ record, desktop.record? capturedAt window = some record ∧
    record.monitor = monitor ∧ desktop.fills targets record = true
  /-- No other window belongs to a target. -/
  alone : ∀ other name, other ≠ window → desktop.ownerName? other = some name → name ∉ targets

variable {targets : List String} {base desktop : Desktop} {hidden : List WindowHandle}
  {window : WindowHandle} {monitor : MonitorHandle}

/-- A record names the owner of its window. -/
theorem ownerName?_of_mem_records {capturedAt : Nat} {record : WindowRecord}
    (h : record ∈ desktop.records capturedAt) :
    desktop.ownerName? record.handle = some record.processName := by
  obtain ⟨w, name, monitor, hw, -, -, hname, -, hrecord⟩ := record?_eq_some (mem_records.mp h).2
  unfold ownerName?
  rw [hw, hrecord]
  exact hname

/-- It is enough to look at the processes of all windows. -/
theorem Idle.of_windows (h : ∀ entry ∈ desktop.windows,
    ∀ name ∈ desktop.processName? entry.2.process, name ∉ targets) : desktop.Idle targets := by
  intro window name hname
  unfold ownerName? at hname
  rcases hw : desktop.window window with failure | w
  · simp [hw] at hname
  · rw [hw] at hname
    exact h (window, w) (Table.mem_of_find? (find?_of_window hw).1) name hname

/-- What fills a monitor for a target belongs to one. -/
theorem target_of_fills {record : WindowRecord} (h : desktop.fills targets record = true) :
    record.processName ∈ targets := by
  simp only [fills, Bool.and_eq_true, List.contains_iff_mem] at h
  exact h.1.2

/-- On an idle desktop no record fills its monitor, whatever is hidden. -/
theorem Idle.find?_eq_none (h : base.Idle targets) (hveiled : Veiled base hidden desktop)
    (capturedAt : Nat) :
    (desktop.records capturedAt).find? (desktop.fills targets) = none := by
  refine List.find?_eq_none.mpr fun record hmem hfills => ?_
  have howner := ownerName?_of_mem_records hmem
  rw [hveiled.ownerName?] at howner
  exact h record.handle record.processName howner (target_of_fills hfills)

/-- On a taken desktop the search finds the window, as long as it is not hidden itself. -/
theorem Taken.exists_find? (h : base.Taken targets window monitor)
    (hveiled : Veiled base hidden desktop) (hmem : window ∉ hidden) (capturedAt : Nat) :
    ∃ record, record.handle = window ∧ record.monitor = monitor ∧
      (desktop.records capturedAt).find? (desktop.fills targets) = some record := by
  obtain ⟨record, hrecord, hmonitor, hfills⟩ := h.record capturedAt
  obtain ⟨w, name, recorded, hw, -, -, -, -, rfl⟩ := record?_eq_some hrecord
  rw [← hveiled.record?_of_not_mem hmem] at hrecord
  have hopen : window ∈ desktop.windows.map Prod.fst :=
    mem_of_find? (find?_of_window ((hveiled.window_of_not_mem hmem).trans hw)).1
  have hsome : ((desktop.records capturedAt).find? (desktop.fills targets)).isSome = true :=
    List.find?_isSome.mpr ⟨_, mem_records.mpr ⟨hopen, hrecord⟩, by rw [hveiled.fills, hfills]⟩
  obtain ⟨found, hfound⟩ := Option.isSome_iff_exists.mp hsome
  -- the search finds a window of a target, and there is only one
  have hfilling := List.find?_some hfound
  have hmemFound := List.mem_of_find?_eq_some hfound
  have howner := ownerName?_of_mem_records hmemFound
  rw [hveiled.ownerName?] at howner
  have hhandle : found.handle = window := Decidable.byContradiction fun hne =>
    h.alone _ _ hne howner (target_of_fills hfilling)
  have hsame := (mem_records.mp hmemFound).2
  rw [hhandle, hrecord] at hsame
  exact ⟨found, hhandle, by rw [← Option.some.inj hsame, hmonitor], hfound⟩

/-- The window answers. -/
theorem Taken.exists_window (h : base.Taken targets window monitor) :
    ∃ w, base.window window = .ok w := by
  obtain ⟨record, hrecord, -⟩ := h.record 0
  obtain ⟨w, -, -, hw, -⟩ := record?_eq_some hrecord
  exact ⟨w, hw⟩

/-- Its monitor is known. -/
theorem Taken.exists_monitor (h : base.Taken targets window monitor) :
    ∃ info, base.monitor? monitor = some info := by
  obtain ⟨record, -, hmonitor, hfills⟩ := h.record 0
  simp only [fills, Bool.and_eq_true, hmonitor] at hfills
  obtain ⟨info, hinfo, -⟩ := Option.any_eq_true .. |>.mp hfills.2
  exact ⟨info, hinfo⟩

/-! ## Changes from outside -/

/-- The same window is opened on a desktop of which nothing is hidden. -/
theorem Veiled.openWindow (h : Veiled base [] desktop) (w : DesktopWindow) :
    Veiled (base.openWindow w).2 [] (desktop.openWindow w).2 where
  framed := ⟨h.framed.monitors, h.framed.processes, by
      simp only [Desktop.openWindow, List.map_cons, h.framed.handles, h.framed.nextHandle],
    h.framed.foreground, by simp only [Desktop.openWindow, h.framed.nextHandle],
    h.framed.enumerationFails, h.framed.failing, h.framed.refusing⟩
  nodup := List.nodup_nil
  yields := by simp
  find? other := by
    have hother := h.find? other
    simp only [List.not_mem_nil, if_false] at hother ⊢
    rw [find?_openWindow, find?_openWindow, h.framed.nextHandle, hother]
  remembered := by simp

/-- The focus goes elsewhere on both desktops. -/
theorem Veiled.setForeground (h : Veiled base hidden desktop) (foreground : Option WindowHandle) :
    Veiled (base.setForeground foreground) hidden (desktop.setForeground foreground) where
  framed := ⟨h.framed.monitors, h.framed.processes, h.framed.handles, rfl, h.framed.nextHandle,
    h.framed.enumerationFails, h.framed.failing, h.framed.refusing⟩
  nodup := h.nodup
  yields := h.yields
  find? := h.find?
  remembered := h.remembered

/-- Closing a window does not touch the others. -/
theorem window_closeWindow {other : WindowHandle} (h : other ≠ window) :
    (desktop.closeWindow window).window other = desktop.window other := by
  unfold Desktop.window
  rw [find?_closeWindow, if_neg h]
  rfl

/-- The same window, which is not hidden, is closed. -/
theorem Veiled.closeWindow (h : Veiled base hidden desktop) (hmem : window ∉ hidden) :
    Veiled (base.closeWindow window) hidden (desktop.closeWindow window) where
  framed := by
    refine ⟨h.framed.monitors, h.framed.processes, ?_, ?_, h.framed.nextHandle,
      h.framed.enumerationFails, h.framed.failing, h.framed.refusing⟩
    · have hfilter (D : Desktop) : (D.closeWindow window).windows.map Prod.fst =
          (D.windows.map Prod.fst).filter (· ≠ window) := by
        rw [List.filter_map]
        rfl
      rw [hfilter, hfilter, h.framed.handles]
    · simp only [Desktop.closeWindow, h.framed.foreground]
  nodup := h.nodup
  yields other hother := by
    have hne : other ≠ window := fun heq => hmem (heq ▸ hother)
    have hyields := h.yields other hother
    unfold Desktop.yields isEligible at hyields ⊢
    rwa [window_closeWindow hne]
  find? other := by
    rw [find?_closeWindow, find?_closeWindow, h.find?]
    by_cases heq : other = window
    · simp [heq, hmem]
    · simp [heq]
  remembered other hother := by
    have hne : other ≠ window := fun heq => hmem (heq ▸ hother)
    show Table.find? other (desktop.remembered.erase window) = _
    rw [Table.find?_erase, if_neg hne, find?_closeWindow, if_neg hne, h.remembered other hother]

/-! ## Opening and closing one window -/

/-- The handle that the next window gets. -/
def next (desktop : Desktop) : WindowHandle := ⟨desktop.nextHandle⟩

/-- A window of a target that answers and fills the monitor it comes to when it is opened. -/
structure Admits (targets : List String) (w : DesktopWindow) (monitor : MonitorHandle)
    (desktop : Desktop) : Prop where
  /-- The window is visible. -/
  visible : w.visible = true
  /-- It is no system window. -/
  ordinary : w.isSystem = false
  /-- It is maximized. -/
  maximized : w.state = .maximized
  /-- The handle it gets is not one that fails. -/
  answers : desktop.next ∉ desktop.failing
  /-- Its process is a target. -/
  target : ∃ name ∈ targets, desktop.processName? w.process = some name
  /-- It comes to the monitor. -/
  assigned : (desktop.openWindow w).2.monitorOf desktop.next = .ok (.ok monitor)
  /-- It covers the work area there. -/
  covers : ∃ info, desktop.monitor? monitor = some info ∧ w.bounds.covers info.workArea = true

/-- The desktop with a window opened and the focus given away. -/
def during (w : DesktopWindow) (foreground : Option WindowHandle) (desktop : Desktop) : Desktop :=
  (desktop.openWindow w).2.setForeground foreground

/-- The desktop after the window was closed again. -/
def closed (w : DesktopWindow) (foreground : Option WindowHandle) (desktop : Desktop) : Desktop :=
  (desktop.during w foreground).closeWindow desktop.next

variable {w : DesktopWindow} {foreground : Option WindowHandle}

/-- While it is open the window answers. -/
theorem window_during_next (h : desktop.next ∉ desktop.failing) :
    (desktop.during w foreground).window desktop.next = .ok w := by
  have hfind : (desktop.during w foreground).find? desktop.next = some w := by
    show (desktop.openWindow w).2.find? desktop.next = some w
    rw [find?_openWindow]
    exact if_pos rfl
  have hfailing : (desktop.during w foreground).failing = desktop.failing := rfl
  unfold Desktop.window
  rw [hfind, hfailing]
  simp [h]

/-- The other windows are as before. -/
theorem window_during_of_ne {other : WindowHandle} (h : other ≠ desktop.next) :
    (desktop.during w foreground).window other = desktop.window other := by
  have hfind : (desktop.during w foreground).find? other = desktop.find? other := by
    show (desktop.openWindow w).2.find? other = _
    rw [find?_openWindow]
    exact if_neg fun heq => h heq.symm
  unfold Desktop.window
  rw [hfind]
  rfl

/-- So they have the owners they had. -/
theorem ownerName?_during_of_ne {other : WindowHandle} (h : other ≠ desktop.next) :
    (desktop.during w foreground).ownerName? other = desktop.ownerName? other := by
  unfold Desktop.ownerName?
  rw [window_during_of_ne h]
  rfl

/-- An idle desktop is taken while the window is open. -/
theorem Admits.taken (h : desktop.Admits targets w monitor) (hidle : desktop.Idle targets)
    (hpositive : 0 < desktop.nextHandle) (foreground : Option WindowHandle) :
    (desktop.during w foreground).Taken targets desktop.next monitor where
  record capturedAt := by
    obtain ⟨name, htarget, hname⟩ := h.target
    obtain ⟨info, hinfo, hcovers⟩ := h.covers
    refine ⟨recordAt capturedAt desktop.next w name monitor, ?_, rfl, ?_⟩
    · have hname' : (desktop.during w foreground).processName? w.process = some name := hname
      have hassigned : (desktop.during w foreground).monitorOf desktop.next = .ok (.ok monitor) :=
        h.assigned
      unfold record?
      simp only [window_during_next h.answers, h.visible, h.ordinary, hname', hassigned,
        Bool.not_false, Bool.and_self, if_true]
    · have hinfo' : (desktop.during w foreground).monitor? monitor = some info := hinfo
      have hnull : desktop.next.isNull = false := by
        simp only [next, WindowHandle.isNull, beq_eq_false_iff_ne]
        omega
      simp only [fills, WindowRecord.isValid, WindowRecord.isMaximized, WindowRecord.isFullScreen,
        recordAt, hnull, h.maximized, hinfo', hcovers, Option.any_some, Bool.not_false,
        beq_self_eq_true,
        Bool.and_self, Bool.true_and, Bool.and_true, List.contains_iff_mem]
      exact htarget
  alone other name hne hname := hidle other name (by rwa [ownerName?_during_of_ne hne] at hname)

/-- The desktop fits while the window is open: its monitor is known by assumption, and the other
windows have not moved. -/
theorem Admits.fits (h : desktop.Admits targets w monitor) (hfits : desktop.Fits)
    (foreground : Option WindowHandle) : (desktop.during w foreground).Fits := by
  intro other e
  by_cases heq : other = desktop.next
  · have hassigned : (desktop.during w foreground).monitorOf desktop.next = .ok (.ok monitor) :=
      h.assigned
    rw [heq, hassigned]
    simp
  · have hsame := hfits other e
    unfold Desktop.monitorOf at hsame ⊢
    rwa [window_during_of_ne heq]

/-- Opening a window and closing it again changes no window. -/
theorem find?_closed (hsound : desktop.Sound) (other : WindowHandle) :
    (desktop.closed w foreground).find? other = desktop.find? other := by
  unfold closed
  rw [find?_closeWindow]
  by_cases heq : other = desktop.next
  · rw [if_pos heq]
    rcases hfind : desktop.find? other with _ | w'
    · rfl
    · have hlt := hsound.lt_nextHandle hfind
      rw [heq] at hlt
      exact absurd hlt (Int.lt_irrefl _)
  · rw [if_neg heq]
    show (desktop.openWindow w).2.find? other = _
    rw [find?_openWindow]
    exact if_neg fun h => heq h.symm

/-- Afterwards each window answers as before. -/
theorem window_closed (hsound : desktop.Sound) (other : WindowHandle) :
    (desktop.closed w foreground).window other = desktop.window other := by
  unfold Desktop.window
  rw [find?_closed hsound]
  rfl

/-- Afterwards the desktop is idle again. -/
theorem Idle.closed (h : desktop.Idle targets) (hsound : desktop.Sound) :
    (desktop.closed w foreground).Idle targets := by
  intro other name hname
  refine h other name ?_
  unfold Desktop.ownerName? at hname ⊢
  rw [window_closed hsound] at hname
  exact hname

/-- And it fits as before. -/
theorem fits_closed (hsound : desktop.Sound) (h : desktop.Fits) :
    (desktop.closed w foreground).Fits := by
  intro other e hmonitor
  refine h other e ?_
  unfold Desktop.monitorOf at hmonitor ⊢
  rw [window_closed hsound] at hmonitor
  exact hmonitor

end Desktop

/-! ## The states of the service -/

namespace Service

open Desktop

/-- What a number of moved windows is announced as. -/
def announced (notification : Nat → Notification) (n : Nat) : List Notification :=
  if 0 < n then [notification n] else []

/-- A session watches a desktop, of which some windows may be hidden. -/
structure Watches (targets : List String) (base : Desktop) (sent : List Notification) (d : Detector)
    (p : Service × Workspace Desktop) : Prop where
  /-- The session has this detector. -/
  detector : p.1.detector = some d
  /-- It looks for these targets. -/
  targets : d.targets = targets
  /-- Windows come back when full screen ends. -/
  restores : p.1.settings.restoreOnFullScreenExit = true
  /-- The list is what is hidden of the base, and the cache is sharp. -/
  holds : Minimizer.Holds base (p.1.minimizer, p.2)
  /-- This was published so far. -/
  sent : p.1.channel.sent = sent

/-- No episode is open. -/
def AtRest (targets : List String) (base : Desktop) (sent : List Notification)
    (p : Service × Workspace Desktop) : Prop :=
  ∃ d, Watches targets base sent d p ∧ d.fullScreen = false ∧ p.1.minimizer.hidden = []

/-- An episode is open, and the windows beside its window are hidden. -/
def InEpisode (targets : List String) (base : Desktop) (sent : List Notification)
    (window : WindowHandle) (monitor : MonitorHandle) (p : Service × Workspace Desktop) : Prop :=
  ∃ d, Watches targets base sent d p ∧ d.Fixed window monitor base.foreground ∧
    p.1.minimizer.hidden = base.beside monitor (some window)

/-- Some episode is open. -/
def Outlived (targets : List String) (base : Desktop) (sent : List Notification) (n : Nat)
    (p : Service × Workspace Desktop) : Prop :=
  ∃ d, Watches targets base sent d p ∧ d.fullScreen = true ∧ p.1.minimizer.hidden.length = n

variable {targets : List String} {base : Desktop} {sent : List Notification} {d : Detector}
  {p : Service × Workspace Desktop} {window : WindowHandle} {monitor : MonitorHandle}

/-- When the loop ticks next makes no difference. -/
theorem Watches.proceed {d' : Detector} (h : Watches targets base sent d p)
    (hd : p.1.detector = some d') (loop : Option Timer) (clock : Clock) :
    Watches targets base sent { d with loop }
      ({ p.1 with detector := some { d' with loop } }, { p.2 with clock }) where
  detector := by
    rw [h.detector] at hd
    rw [Option.some.inj hd]
  targets := h.targets
  restores := h.restores
  holds := ⟨h.holds.veiled, h.holds.sharp.staleness, h.holds.sharp.past, h.holds.sharp.names,
    h.holds.sharp.enumerates, h.holds.sharp.fits⟩
  sent := h.sent

/-- An event is handled, and what the minimizer did about it is announced. -/
theorem Watches.handle {event : DetectorEvent} {P : Nat → Minimizer → Prop}
    (h : Watches targets base sent d p)
    (htask : (task p.1.settings event).run.Ensures (p.1.minimizer, p.2)
      (fun r q => ∃ n, r = .ok n ∧ Minimizer.Holds base q ∧ P n q.1) fun _ => False) :
    (handle event).Ensures p
      (fun _ q => ∃ n, Watches targets base (sent ++ announced event.notice n) d q ∧
        P n q.1.minimizer) fun _ => False := by
  rw [ensures_handle]
  refine htask.mono (fun r q hq => ?_) fun _ => id
  obtain ⟨n, rfl, hholds, hP⟩ := hq
  refine ⟨n, ⟨h.detector, h.targets, h.restores, hholds, ?_⟩, hP⟩
  show (if 0 < n then p.1.channel.send (event.notice n) else p.1.channel).sent = _
  unfold announced
  split
  · simp [Channel.send, h.sent]
  · simp [h.sent]

/-- An exit brings the hidden windows back. -/
theorem Watches.handle_exit (h : Watches targets base sent d p) :
    (Service.handle (.fullScreenChanged .exited)).Ensures p
      (fun _ q => Watches targets base
        (sent ++ announced .windowsRestored p.1.minimizer.hidden.length) d q ∧
          q.1.minimizer.hidden = []) fun _ => False := by
  refine (h.handle (P := fun n m => n = p.1.minimizer.hidden.length ∧ m.hidden = []) ?_).mono
    (fun _ q hq => ?_) fun _ => id
  · simp only [task, Sighting.exited, h.restores, Bool.false_eq_true, if_false, if_true,
      ensures_run_lift]
    exact (Minimizer.restore_ensures h.holds).mono (fun n q hq => ⟨n, rfl, hq.2.1, hq.1, hq.2.2⟩)
      fun _ => id
  · obtain ⟨n, hwatches, rfl, hempty⟩ := hq
    exact ⟨hwatches, hempty⟩

/-- An enter hides the windows beside the full-screen one. -/
theorem Watches.handle_enter {info : MonitorInfo} (h : Watches targets base sent d p)
    (hempty : p.1.minimizer.hidden = []) (hsound : base.Sound)
    (hinfo : base.monitor? monitor = some info) (process title : String) :
    (Service.handle (.fullScreenChanged (.entered window monitor process title))).Ensures p
      (fun _ q => Watches targets base
        (sent ++ announced .windowsMinimized (base.beside monitor (some window)).length) d q ∧
          q.1.minimizer.hidden = base.beside monitor (some window)) fun _ => False := by
  refine (h.handle (P := fun n m => n = (base.beside monitor (some window)).length ∧
    m.hidden = base.beside monitor (some window)) ?_).mono (fun _ q hq => ?_) fun _ => id
  · simp only [task, Sighting.entered, if_true]
    exact (Minimizer.minimizeOnMonitor_ensures h.holds hempty hsound hinfo).mono
      (fun r q hq => ⟨_, hq.1, hq.2.1, rfl, hq.2.2⟩) fun _ => id
  · obtain ⟨n, hwatches, rfl, hhidden⟩ := hq
    exact ⟨hwatches, hhidden⟩

/-- A focus event about the full-screen window changes nothing. -/
theorem Watches.handle_focus {info : MonitorInfo} (h : Watches targets base sent d p)
    (hhidden : p.1.minimizer.hidden = base.beside monitor (some window))
    (hinfo : base.monitor? monitor = some info) (process title : String) :
    (Service.handle (.targetFocused (.entered window monitor process title))).Ensures p
      (fun _ q => Watches targets base sent d q ∧
        q.1.minimizer.hidden = base.beside monitor (some window)) fun _ => False := by
  refine (h.handle (P := fun n m => n = 0 ∧
    m.hidden = base.beside monitor (some window)) ?_).mono (fun _ q hq => ?_) fun _ => id
  · exact (Minimizer.minimizeBeside_ensures h.holds hhidden hinfo).mono
      (fun r q hq => ⟨0, hq.1, hq.2.1, rfl, hq.2.2.trans hhidden⟩) fun _ => id
  · obtain ⟨n, hwatches, rfl, hhidden⟩ := hq
    exact ⟨by simpa [announced] using hwatches, hhidden⟩

/-- The begin of an episode is handled, and perhaps the focus on its window. -/
theorem Watches.handle_begin {info : MonitorInfo} (h : Watches targets base sent d p)
    (hempty : p.1.minimizer.hidden = []) (hsound : base.Sound)
    (hinfo : base.monitor? monitor = some info) (process title : String) {caption : String}
    {focus : Option DetectorEvent} (hfocus : ∀ event ∈ focus, ∃ process,
      event = .targetFocused (.entered window monitor process caption)) :
    (Action.each Service.handle
        (.fullScreenChanged (.entered window monitor process title) :: focus.toList)).Ensures p
      (fun _ q => Watches targets base
        (sent ++ announced .windowsMinimized (base.beside monitor (some window)).length) d q ∧
          q.1.minimizer.hidden = base.beside monitor (some window)) fun _ => False := by
  unfold Action.each
  rw [ensures_bind]
  refine (h.handle_enter hempty hsound hinfo process title).mono (fun _ r hr => ?_) fun _ => id
  -- the focus on the window that has just become full screen comes in the same tick, or not at all
  rcases focus with _ | event
  · exact hr
  · obtain ⟨process, rfl⟩ := hfocus event rfl
    simp only [Option.toList_some]
    unfold Action.each
    rw [ensures_bind]
    exact hr.1.handle_focus hr.2 hinfo process caption

/-! ## One tick -/

/-- What holds after the round of a tick holds after the tick. -/
theorem tick_of_round {sent' : List Notification} {J : Detector → Minimizer → Prop}
    (hround : round.Ensures p
      (fun _ q => ∃ d', Watches targets base sent' d' q ∧ J d' q.1.minimizer) fun _ => False)
    (hloop : ∀ d' m loop, J d' m → J { d' with loop } m) :
    ∃ d', Watches targets base sent' d' (step Event.apply p (.command .tick)) ∧
      J d' (step Event.apply p (.command .tick)).1.minimizer := by
  have hpoll := poll_ensures
    (I := fun q => ∃ d', Watches targets base sent' d' q ∧ J d' q.1.minimizer)
    hround.of_uncut
    (fun q d'' loop clock hq hd => by
      obtain ⟨d', hwatches, hJ⟩ := hq
      exact ⟨_, hwatches.proceed hd loop clock, hloop d' _ loop hJ⟩)
  exact hpoll.of_uncut.exec_snd

/-- The detector of the session has ticked. -/
theorem Watches.ticked {d' : Detector} {work : Workspace Desktop}
    (h : Watches targets base sent d p) (htargets : d'.targets = d.targets)
    (hlooked : p.2.Looked work) :
    Watches targets base sent d' ({ p.1 with detector := some d' }, work) where
  detector := rfl
  targets := htargets.trans h.targets
  restores := h.restores
  holds := h.holds.looked hlooked
  sent := h.sent

/-- A tick over a desktop without windows of targets ends the episode, if there is one. -/
theorem Watches.tick_idle (h : Watches targets base sent d p) (hidle : base.Idle targets)
    (htargets : targets ≠ []) (hclosed : d.fullScreen = false → p.1.minimizer.hidden = []) :
    AtRest targets base
      (sent ++ announced .windowsRestored p.1.minimizer.hidden.length)
      (step Event.apply p (.command .tick)) := by
  refine tick_of_round (J := fun d' m => d'.fullScreen = false ∧ m.hidden = []) ?_
    fun _ _ _ hJ => hJ
  unfold round
  rw [ensures_bind, ensures_read, h.detector]
  dsimp only
  rw [ensures_bind, ensures_onDetector]
  refine (Detector.tick_without h.holds.sharp (h.targets ▸ htargets) fun capturedAt =>
    h.targets ▸ hidle.find?_eq_none h.holds.veiled capturedAt).mono (fun events q hq => ?_)
    fun _ => id
  obtain ⟨hobserve, hlooked⟩ := hq
  rcases hfull : d.fullScreen
  · have hobserved : Detector.observe none d = ([], d) := by simp [Detector.observe, hfull]
    obtain ⟨rfl, hd⟩ := Prod.mk.inj (hobserve.trans hobserved)
    have hwatches := h.ticked (congrArg Detector.targets hd) hlooked
    refine ⟨q.1, ?_, hd ▸ hfull, hclosed hfull⟩
    simpa [announced, hclosed hfull] using hwatches
  · have hobserved : Detector.observe none d = ([.fullScreenChanged .exited], { d with
        fullScreen := false, window := none, monitor := none, lastForeground := none }) := by
      simp [Detector.observe, hfull]
    obtain ⟨rfl, hd⟩ := Prod.mk.inj (hobserve.trans hobserved)
    have htargets' : q.1.targets = d.targets := by rw [hd]
    have hwatches := h.ticked htargets' hlooked
    unfold Action.each
    rw [ensures_bind]
    refine hwatches.handle_exit.mono (fun _ r hr => ?_) fun _ => id
    exact ⟨q.1, hr.1, by rw [hd], hr.2⟩

/-- A tick over a desktop with a full-screen window begins an episode, or goes on with it. -/
theorem Watches.tick_taken (h : Watches targets base sent d p)
    (htaken : base.Taken targets window monitor) (htargets : targets ≠ []) (hsound : base.Sound)
    (hopen : d.fullScreen = false ∧ p.1.minimizer.hidden = [] ∨
      d.Fixed window monitor base.foreground ∧
        p.1.minimizer.hidden = base.beside monitor (some window)) :
    InEpisode targets base
      (if d.fullScreen then sent
        else sent ++ announced .windowsMinimized (base.beside monitor (some window)).length)
      window monitor (step Event.apply p (.command .tick)) := by
  obtain ⟨w, hw⟩ := htaken.exists_window
  obtain ⟨info, hinfo⟩ := htaken.exists_monitor
  have hmem : window ∉ p.1.minimizer.hidden := by
    rcases hopen with ⟨-, hempty⟩ | ⟨-, hhidden⟩
    · simp [hempty]
    · simp [hhidden, beside]
  refine tick_of_round (J := fun d' m => d'.Fixed window monitor base.foreground ∧
    m.hidden = base.beside monitor (some window)) ?_
    fun _ _ _ hJ => ⟨⟨hJ.1.fullScreen, hJ.1.window, hJ.1.monitor, hJ.1.remembered⟩, hJ.2⟩
  unfold round
  rw [ensures_bind, ensures_read, h.detector]
  dsimp only
  rw [ensures_bind, ensures_onDetector]
  have hforeground : p.2.system.foreground = base.foreground := h.holds.veiled.framed.foreground
  have hw' : p.2.system.window window = .ok w := (h.holds.veiled.window_of_not_mem hmem).trans hw
  have hfound : ∀ capturedAt, ∃ record, record.handle = window ∧ record.monitor = monitor ∧
      (p.2.system.records capturedAt).find? (p.2.system.fills d.targets) = some record := by
    rw [h.targets]
    exact htaken.exists_find? h.holds.veiled hmem
  refine (Detector.tick_with h.holds.sharp (h.targets ▸ htargets) hw' hfound
    (fun other name hne hname => ?_) fun hfull => ?_).mono (fun events q hq => ?_) fun _ => id
  · rw [h.targets]
    exact htaken.alone other name hne (h.holds.veiled.ownerName? other ▸ hname)
  · rcases hopen with ⟨hnot, -⟩ | ⟨hfixed, -⟩
    · rw [hnot] at hfull
      cases hfull
    · exact ⟨hfixed.window, hfixed.monitor⟩
  obtain ⟨htargets', hfixed', hlooked, begun, focus, rfl, hbegun, hisNone, hfocus, hsilent⟩ := hq
  rw [hforeground] at hfixed' hsilent
  have hwatches := h.ticked htargets' hlooked
  rcases hfull : d.fullScreen
  · -- the begin is reported, and perhaps the focus
    obtain ⟨-, hempty⟩ : d.fullScreen = false ∧ p.1.minimizer.hidden = [] :=
      hopen.resolve_right fun hfixed => by simp [hfixed.1.fullScreen] at hfull
    rcases begun with _ | event
    · simp [hfull] at hisNone
    obtain ⟨process, title, rfl⟩ := hbegun event rfl
    simp only [Option.toList_some, List.cons_append, List.nil_append, Bool.false_eq_true, if_false]
    exact (hwatches.handle_begin hempty hsound hinfo process title hfocus).mono
      (fun _ r hr => ⟨q.1, hr.1, hfixed', hr.2⟩) fun _ => id
  · -- nothing is new
    obtain ⟨hfixed, hhidden⟩ : d.Fixed window monitor base.foreground ∧
        p.1.minimizer.hidden = base.beside monitor (some window) :=
      hopen.resolve_left fun hrest => by simp [hrest.1] at hfull
    obtain rfl := hsilent hfixed
    obtain rfl : begun = none := by simpa [hfull] using hisNone
    exact ⟨q.1, hwatches, hfixed', hhidden⟩

/-! ## Many ticks -/

/-- Nothing happens but ticks and the passing of time. -/
def Passing (inputs : List (Input Event)) : Prop :=
  ∀ input ∈ inputs, input = .command .tick ∨ ∃ time, input = .outside (.wait time)

/-- What ticks and the passing of time keep. -/
theorem run_passing {I : Service × Workspace Desktop → Prop} {inputs : List (Input Event)}
    (hinputs : Passing inputs) (htick : ∀ p, I p → I (step Event.apply p (.command .tick)))
    (hwait : ∀ p time, I p → I (step Event.apply p (.outside (.wait time)))) (h : I p) :
    I (run Event.apply inputs p) := by
  -- induction on the inputs: each is a tick or some time that passes
  induction inputs generalizing p with
  | nil => exact h
  | cons input rest ih =>
    have hrest : Passing rest := fun other hother => hinputs other (List.mem_cons_of_mem _ hother)
    rcases hinputs input List.mem_cons_self with rfl | ⟨time, rfl⟩
    · exact ih hrest (htick p h)
    · exact ih hrest (hwait p time h)

/-- What one tick reaches and further ticks keep. -/
theorem run_passing_tick {I J : Service × Workspace Desktop → Prop} {inputs : List (Input Event)}
    (hinputs : Passing inputs) (hmem : .command .tick ∈ inputs)
    (hreach : ∀ p, I p → J (step Event.apply p (.command .tick)))
    (htick : ∀ p, J p → J (step Event.apply p (.command .tick)))
    (hwaitI : ∀ p time, I p → I (step Event.apply p (.outside (.wait time))))
    (hwaitJ : ∀ p time, J p → J (step Event.apply p (.outside (.wait time)))) (h : I p) :
    J (run Event.apply inputs p) := by
  induction inputs generalizing p with
  | nil => simp at hmem
  | cons input rest ih =>
    have hrest : Passing rest := fun other hother => hinputs other (List.mem_cons_of_mem _ hother)
    rcases hinputs input List.mem_cons_self with rfl | ⟨time, rfl⟩
    · rw [run_cons]
      exact run_passing hrest htick hwaitJ (hreach p h)
    · exact ih hrest (by simpa using hmem) (hwaitI p time h)

/-- Time passes, and the cache is as sharp as before. -/
theorem Watches.wait (h : Watches targets base sent d p) (time : Nat) :
    Watches targets base sent d (step Event.apply p (.outside (.wait time))) where
  detector := h.detector
  targets := h.targets
  restores := h.restores
  holds := ⟨h.holds.veiled.alike ⟨rfl, rfl, rfl, rfl, rfl, rfl, rfl, rfl, rfl⟩,
    h.holds.sharp.system rfl rfl (Nat.le_add_right _ time) h.holds.sharp.fits⟩
  sent := h.sent

/-- A service at rest stays so while time passes. -/
theorem AtRest.wait (h : AtRest targets base sent p) (time : Nat) :
    AtRest targets base sent (step Event.apply p (.outside (.wait time))) := by
  obtain ⟨d, hwatches, hrest⟩ := h
  exact ⟨d, hwatches.wait time, hrest⟩

/-- An episode goes on while time passes. -/
theorem InEpisode.wait (h : InEpisode targets base sent window monitor p) (time : Nat) :
    InEpisode targets base sent window monitor (step Event.apply p (.outside (.wait time))) := by
  obtain ⟨d, hwatches, hepisode⟩ := h
  exact ⟨d, hwatches.wait time, hepisode⟩

/-- What was not noticed is still not noticed. -/
theorem Outlived.wait {n : Nat} (h : Outlived targets base sent n p) (time : Nat) :
    Outlived targets base sent n (step Event.apply p (.outside (.wait time))) := by
  obtain ⟨d, hwatches, hepisode⟩ := h
  exact ⟨d, hwatches.wait time, hepisode⟩

/-- A tick over an idle desktop leaves a service at rest and publishes nothing. -/
theorem AtRest.tick (h : AtRest targets base sent p) (hidle : base.Idle targets)
    (htargets : targets ≠ []) :
    AtRest targets base sent (step Event.apply p (.command .tick)) := by
  obtain ⟨d, hwatches, -, hempty⟩ := h
  simpa [announced, hempty] using hwatches.tick_idle hidle htargets fun _ => hempty

/-- A tick notices that the episode is over; the windows come back, and that is published. -/
theorem Outlived.tick {n : Nat} (h : Outlived targets base sent n p) (hidle : base.Idle targets)
    (htargets : targets ≠ []) :
    AtRest targets base (sent ++ announced .windowsRestored n)
      (step Event.apply p (.command .tick)) := by
  obtain ⟨d, hwatches, hfull, rfl⟩ := h
  exact hwatches.tick_idle hidle htargets fun hnot => absurd (hnot.symm.trans hfull) (by simp)

/-- A tick over a taken desktop begins an episode; the windows beside it go, and that is
published. -/
theorem AtRest.enter (h : AtRest targets base sent p) (htaken : base.Taken targets window monitor)
    (htargets : targets ≠ []) (hsound : base.Sound) :
    InEpisode targets base
      (sent ++ announced .windowsMinimized (base.beside monitor (some window)).length) window
      monitor (step Event.apply p (.command .tick)) := by
  obtain ⟨d, hwatches, hrest⟩ := h
  simpa [hrest.1] using hwatches.tick_taken htaken htargets hsound (.inl hrest)

/-- A further tick in an episode changes nothing and publishes nothing. -/
theorem InEpisode.tick (h : InEpisode targets base sent window monitor p)
    (htaken : base.Taken targets window monitor) (htargets : targets ≠ []) (hsound : base.Sound) :
    InEpisode targets base sent window monitor (step Event.apply p (.command .tick)) := by
  obtain ⟨d, hwatches, hepisode⟩ := h
  simpa [hepisode.1.fullScreen] using hwatches.tick_taken htaken htargets hsound (.inr hepisode)

/-! ## Opening and closing -/

/-- A session that was just started is at rest. -/
theorem AtRest.started {settings : Settings} {desktop : Desktop}
    (hflag : settings.restoreOnFullScreenExit = true)
    (henumerates : desktop.enumerationFails = false) (hfits : desktop.Fits) :
    AtRest settings.normalize.targets desktop [.monitoringChanged true]
      (step Event.apply (withSettings settings, Workspace.unseen 0 desktop) (.command .start)) := by
  show AtRest _ _ _ ((startWith none).exec _).2
  rw [startWith_exec_of_none rfl]
  refine ⟨_, ⟨rfl, rfl, hflag, ⟨.refl desktop, rfl, ?_, ?_, henumerates, hfits⟩, rfl⟩, rfl, rfl⟩
  · intro refreshed hrefreshed
    cases hrefreshed
  · intro process name hname
    cases hname

/-- A window is opened and the focus given away. -/
theorem AtRest.opens {w : DesktopWindow} {foreground : Option WindowHandle}
    (h : AtRest targets base sent p) (hfits : (base.during w foreground).Fits) :
    AtRest targets (base.during w foreground) sent
      (run Event.apply [.outside (.openWindow w), .outside (.setForeground foreground)] p) := by
  obtain ⟨d, hwatches, hfull, hempty⟩ := h
  have hveiled : Veiled base [] p.2.system := hempty ▸ hwatches.holds.veiled
  have hveiled' := (hveiled.openWindow w).setForeground foreground
  refine ⟨d, ⟨hwatches.detector, hwatches.targets, hwatches.restores, ⟨?_, ?_⟩, hwatches.sent⟩,
    hfull, hempty⟩
  · show Veiled _ p.1.minimizer.hidden _
    rw [hempty]
    exact hveiled'
  · exact hwatches.holds.sharp.system rfl rfl (Nat.le_refl _) (hveiled'.fits hfits)

/-- The full-screen window is closed. -/
theorem InEpisode.closes (h : InEpisode targets base sent window monitor p)
    (hfits : (base.closeWindow window).Fits) :
    Outlived targets (base.closeWindow window) sent (base.beside monitor (some window)).length
      (step Event.apply p (.outside (.closeWindow window))) := by
  obtain ⟨d, hwatches, hfixed, hhidden⟩ := h
  have hmem : window ∉ p.1.minimizer.hidden := by simp [hhidden, beside]
  have hveiled := hwatches.holds.veiled.closeWindow hmem
  exact ⟨d, ⟨hwatches.detector, hwatches.targets, hwatches.restores, ⟨hveiled,
    hwatches.holds.sharp.system rfl rfl (Nat.le_refl _) (hveiled.fits hfits)⟩, hwatches.sent⟩,
    hfixed.fullScreen, by rw [← hhidden]; rfl⟩

/-! ## The whole session -/

/-- A full-screen session is reversible. On a desktop without windows of targets, a service watches;
a window of a target is opened and fills its monitor, some window comes to the foreground, time
passes with at least one tick, the window is closed, and time passes with at least one tick. Then
every window is as it was before, nothing is hidden, and it was announced that the windows beside
the full-screen one went and that as many came back. -/
theorem session_reversible {settings : Settings} {desktop : Desktop} {w : DesktopWindow}
    {monitor : MonitorHandle} {before meanwhile after : List (Input Event)}
    (hreachable : desktop.Reachable) (henumerates : desktop.enumerationFails = false)
    (hfits : desktop.Fits) (hidle : desktop.Idle settings.normalize.targets)
    (hflag : settings.restoreOnFullScreenExit = true)
    (hadmits : desktop.Admits settings.normalize.targets w monitor)
    (foreground : Option WindowHandle) (hbefore : Passing before) (hmeanwhile : Passing meanwhile)
    (hmeanwhileTick : .command .tick ∈ meanwhile) (hafter : Passing after)
    (hafterTick : .command .tick ∈ after) :
    let p := run Event.apply (.command .start :: before)
      (withSettings settings, Workspace.unseen 0 desktop)
    let q := run Event.apply ([.outside (.openWindow w), .outside (.setForeground foreground)] ++
      meanwhile ++ .outside (.closeWindow desktop.next) :: after) p
    let n := ((desktop.openWindow w).2.beside monitor (some desktop.next)).length
    (∀ window, q.2.system.find? window = desktop.find? window) ∧ q.1.minimizer.hidden = [] ∧
      (∃ d, q.1.detector = some d ∧ d.fullScreen = false) ∧
      q.1.channel.sent = p.1.channel.sent ++
        if 0 < n then [.windowsMinimized n, .windowsRestored n] else [] := by
  intro p q n
  have hsound := hreachable.sound
  have htargets : settings.normalize.targets ≠ [] := by
    obtain ⟨name, hname, -⟩ := hadmits.target
    exact List.ne_nil_of_mem hname
  have hduringSound : (desktop.during w foreground).Sound :=
    (hsound.apply (.openWindow w)).apply (.setForeground foreground)
  have htaken := hadmits.taken hidle hsound.positive foreground
  have hclosed : (desktop.closed w foreground).Idle settings.normalize.targets :=
    hidle.closed hsound
  -- the four stretches of the run
  have hp := run_passing (I := AtRest settings.normalize.targets desktop [.monitoringChanged true])
    hbefore (fun _ h => h.tick hidle htargets) (fun _ time h => h.wait time)
    (AtRest.started hflag henumerates hfits)
  change AtRest _ _ _ p at hp
  have hopened := hp.opens (hadmits.fits hfits foreground)
  have hepisode := run_passing_tick hmeanwhile hmeanwhileTick
    (fun _ h => AtRest.enter h htaken htargets hduringSound)
    (fun _ h => h.tick htaken htargets hduringSound) (fun _ time h => h.wait time)
    (fun _ time h => h.wait time) hopened
  have hover := hepisode.closes (fits_closed hsound hfits)
  have hq := run_passing_tick hafter hafterTick (fun _ h => Outlived.tick h hclosed htargets)
    (fun _ h => h.tick hclosed htargets) (fun _ time h => h.wait time)
    (fun _ time h => h.wait time) hover
  have hrun : q = run Event.apply after (step Event.apply (run Event.apply meanwhile
      (run Event.apply [.outside (.openWindow w), .outside (.setForeground foreground)] p))
        (.outside (.closeWindow desktop.next))) := by
    simp only [q, run_append, run_cons]
  rw [← hrun] at hq
  obtain ⟨d, hwatches, hfull, hempty⟩ := hq
  refine ⟨fun window => ?_, hempty, ⟨d, hwatches.detector, hfull⟩, ?_⟩
  · have hfind := hwatches.holds.veiled.find? window
    rw [hempty] at hfind
    exact hfind.trans (find?_closed hsound window)
  · obtain ⟨d', hwatches', -⟩ := hp
    have hn : ((desktop.during w foreground).beside monitor (some desktop.next)).length = n := rfl
    rw [hwatches.sent, hwatches'.sent, hn]
    unfold announced
    split <;> simp

/-- A game over the demonstration desktop, with a look at another window in between. -/
theorem session_reversible_demo :
    let desktop := Desktop.demo.addProcess 400 "C:\\Games\\game.exe"
    let game := (DesktopWindow.titled 400 "Game").maximizedOver ⟨0, 0, 1920, 1040⟩
    let settings : Settings := { targets := ["Game.exe"] }
    ((desktop.openWindow game).2.beside ⟨0x10⟩ (some desktop.next)).length = 2 ∧
      let p := run Event.apply (.command .start :: [])
        (withSettings settings, Workspace.unseen 0 desktop)
      let q := run Event.apply
        ([.outside (.openWindow game), .outside (.setForeground (some ⟨0x1010⟩))] ++
          [.command .tick, .outside (.wait 500), .command .tick] ++
            .outside (.closeWindow desktop.next) :: [.command .tick]) p
      let n := ((desktop.openWindow game).2.beside ⟨0x10⟩ (some desktop.next)).length
      (∀ window, q.2.system.find? window = desktop.find? window) ∧ q.1.minimizer.hidden = [] ∧
        (∃ d, q.1.detector = some d ∧ d.fullScreen = false) ∧
        q.1.channel.sent = p.1.channel.sent ++
          if 0 < n then [.windowsMinimized n, .windowsRestored n] else [] := by
  intro desktop game settings
  have hadmits : desktop.Admits settings.normalize.targets game ⟨0x10⟩ := {
    visible := rfl
    ordinary := by decide +kernel
    maximized := rfl
    answers := by decide +kernel
    target := ⟨"game", by decide +kernel, by decide +kernel⟩
    assigned := by decide +kernel
    covers := ⟨⟨⟨0, 0, 1920, 1080⟩, ⟨0, 0, 1920, 1040⟩⟩, by decide +kernel, by decide +kernel⟩ }
  have hreachable : desktop.Reachable := .event (.addProcess 400 _) reachable_demo
  have henumerates : desktop.enumerationFails = false := by decide +kernel
  have hidle : desktop.Idle settings.normalize.targets := .of_windows (by decide +kernel)
  have hfits : desktop.Fits := .of_windows (by decide +kernel)
  have hbefore : Passing [] := by simp [Passing]
  have hmeanwhile : Passing [.command .tick, .outside (.wait 500), .command .tick] := by
    simp [Passing]
  have hafter : Passing [.command .tick] := by simp [Passing]
  exact ⟨by decide +kernel, session_reversible hreachable henumerates hfits hidle rfl hadmits
    (some ⟨0x1010⟩) hbefore hmeanwhile (by simp) hafter (by simp)⟩

end Service

end SoloScreen
