import SoloScreen.Proofs.DesktopMinimizer

/-!
# Hiding windows and bringing them back

A desktop is `Desktop.Veiled` over another one if some windows of a list, and only those, have been
minimized, and how they were shown before is remembered.

* `Desktop.Veiled.asked`, `Desktop.Veiled.recalled`: asking one more window to minimize adds it to
  the list if it yields; calling the first window of the list back takes it off.
* `Minimizer.minimizeOnMonitor_ensures`: an episode hides exactly the windows `Desktop.beside` the
  full-screen window.
* `Minimizer.minimizeBeside_ensures`: right after that there is nothing left to hide.
* `Minimizer.restore_veiled`: the end of the episode gives the desktop back as it was.
-/

namespace SoloScreen

open SoloScreen.Action

namespace Desktop

/-! ## Remembered states -/

/-- A window that yields is remembered as it was shown; nothing else is remembered differently. -/
theorem remembered_asked (window other : WindowHandle) (desktop : Desktop) :
    (desktop.asked window).remembered.find? other =
      if other = window ∧ desktop.yields window then (desktop.find? other).map (·.state)
      else desktop.remembered.find? other := by
  unfold asked yields
  rcases heligible : desktop.isEligible window
  · simp
  simp only [if_true, Bool.true_and]
  obtain ⟨w, hw, -, -, hstate⟩ := exists_of_isEligible heligible
  by_cases hrefusing : window ∈ desktop.refusing
  · simp [requestState, hw, hrefusing]
  · simp only [requestState, hw, List.contains_eq_mem, hrefusing, decide_false, Bool.not_false,
      Bool.false_eq_true, if_false, and_true, hstate]
    rw [Table.find?_insert]
    by_cases hother : other = window
    · subst hother
      simp [(find?_of_window hw).1]
    · have hne : ¬ window = other := fun h => hother h.symm
      simp [hother, hne]

/-- Calling a window back does not touch what is remembered of others. -/
theorem remembered_recalled (window other : WindowHandle) (desktop : Desktop)
    (h : other ≠ window) :
    (desktop.recalled window).remembered.find? other = desktop.remembered.find? other := by
  unfold recalled
  split
  · rcases requestState_cases window .restore desktop with ⟨answer, -, hr⟩ | ⟨w, -, -, hr⟩
    · rw [hr]
    · rw [hr]
      simp [Table.find?_erase, h]
  · rfl

/-! ## Veiled desktops -/

/-- The desktop is `base` with the windows of a list minimized: each of them yielded, and how it was
shown is remembered. -/
structure Veiled (base : Desktop) (hidden : List WindowHandle) (desktop : Desktop) : Prop where
  /-- Nothing differs but how windows are shown and what is remembered of it. -/
  framed : Framed base desktop
  /-- No window is hidden twice. -/
  nodup : hidden.Nodup
  /-- Each hidden window is one that could be hidden. -/
  yields : ∀ window ∈ hidden, base.yields window = true
  /-- The hidden windows are minimized and the others as they were. -/
  find? : ∀ window, desktop.find? window =
    if window ∈ hidden then (base.find? window).map ({ · with state := .minimized })
    else base.find? window
  /-- How a hidden window was shown is remembered. -/
  remembered : ∀ window ∈ hidden,
    desktop.remembered.find? window = (base.find? window).map (·.state)

variable {base desktop : Desktop} {hidden : List WindowHandle}

/-- With nothing hidden a desktop is its own base. -/
theorem Veiled.refl (base : Desktop) : Veiled base [] base where
  framed := .refl base
  nodup := List.nodup_nil
  yields := by simp
  find? := by simp
  remembered := by simp

/-- Counters and clock do not lift the veil. -/
theorem Veiled.alike {desktop' : Desktop} (h : Veiled base hidden desktop)
    (halike : Alike desktop desktop') : Veiled base hidden desktop' where
  framed := h.framed.trans halike.framed
  nodup := h.nodup
  yields := h.yields
  find? window := by rw [halike.find?, h.find?]
  remembered window hmem := by rw [halike.remembered, h.remembered window hmem]

/-- A window that is not hidden is as in the base. -/
theorem Veiled.window_of_not_mem (h : Veiled base hidden desktop) {window : WindowHandle}
    (hmem : window ∉ hidden) : desktop.window window = base.window window := by
  unfold Desktop.window
  rw [h.framed.failing, h.find?, if_neg hmem]

/-- A hidden window is as in the base, but minimized. -/
theorem Veiled.window_of_mem (h : Veiled base hidden desktop) {window : WindowHandle}
    (hmem : window ∈ hidden) : ∃ w, base.window window = .ok w ∧ w.visible = true ∧
      desktop.window window = .ok { w with state := .minimized } := by
  have hyields := h.yields window hmem
  simp only [Desktop.yields, Bool.and_eq_true] at hyields
  obtain ⟨w, hw, hvisible, -, -⟩ := exists_of_isEligible hyields.1
  obtain ⟨hfind, hfailing⟩ := find?_of_window hw
  refine ⟨w, hw, hvisible, ?_⟩
  unfold Desktop.window
  rw [h.framed.failing, h.find?, if_pos hmem, hfind]
  simp [hfailing]

/-- The windows that yield are those that did and are not hidden yet. -/
theorem Veiled.yields_iff (h : Veiled base hidden desktop) (window : WindowHandle) :
    desktop.yields window = true ↔ base.yields window = true ∧ window ∉ hidden := by
  by_cases hmem : window ∈ hidden
  · obtain ⟨w, -, -, hw⟩ := h.window_of_mem hmem
    simp [Desktop.yields, isEligible, hw, DesktopWindow.isEligible, hmem]
  · simp only [Desktop.yields, isEligible, h.window_of_not_mem hmem, h.framed.refusing, hmem,
      not_false_eq_true, and_true]

/-- One more window is asked to minimize. -/
theorem Veiled.asked (h : Veiled base hidden desktop) (window : WindowHandle) :
    Veiled base (if desktop.yields window then hidden ++ [window] else hidden)
      (desktop.asked window) := by
  have hframed : Framed base (desktop.asked window) := h.framed.trans
    (asked_of_calls (fun call => answer_framed desktop call) (.refl desktop) window)
  rcases hyields : desktop.yields window
  · refine ⟨hframed, h.nodup, h.yields, fun other => ?_, fun other hmem => ?_⟩
    · simp [find?_asked, hyields, h.find?]
    · simp [remembered_asked, hyields, h.remembered other hmem]
  · obtain ⟨hbase, hnot⟩ := (h.yields_iff window).mp hyields
    simp only [if_true]
    refine ⟨hframed, ?_, fun other hmem => ?_, fun other => ?_, fun other hmem => ?_⟩
    · exact List.nodup_append.mpr ⟨h.nodup, by simp, by
        rintro a ha b hb rfl
        exact hnot (List.mem_singleton.mp hb ▸ ha)⟩
    · rcases List.mem_append.mp hmem with hold | hnew
      · exact h.yields other hold
      · rwa [List.mem_singleton.mp hnew]
    · rw [find?_asked, h.find?]
      by_cases hother : other = window
      · subst hother
        simp [hyields, hnot]
      · simp [hother]
    · rw [remembered_asked, h.find?]
      by_cases hother : other = window
      · subst hother
        simp [hyields, hnot]
      · have hold : other ∈ hidden := by simpa [hother] using hmem
        simp [hother, h.remembered other hold]

/-- The first hidden window is called back. -/
theorem Veiled.recalled {window : WindowHandle} {rest : List WindowHandle}
    (h : Veiled base (window :: rest) desktop) :
    desktop.returns window = true ∧ Veiled base rest (desktop.recalled window) := by
  have hnot : window ∉ rest := (List.nodup_cons.mp h.nodup).1
  have hframed : Framed base (desktop.recalled window) := h.framed.trans
    (recalled_of_calls (fun call => answer_framed desktop call) (.refl desktop) window)
  obtain ⟨w, hbase, hvisible, hw⟩ := h.window_of_mem List.mem_cons_self
  have hreturns : desktop.returns window = true := by
    have hyields := h.yields window List.mem_cons_self
    simp only [Desktop.yields, Bool.and_eq_true, ← h.framed.refusing] at hyields
    simp only [returns, isShown, hw, hvisible, Bool.true_and]
    exact hyields.2
  refine ⟨hreturns, hframed, (List.nodup_cons.mp h.nodup).2,
    fun other hmem => h.yields other (List.mem_cons_of_mem window hmem), fun other => ?_,
    fun other hmem => ?_⟩
  · rw [find?_recalled, h.find?]
    by_cases hother : other = window
    · subst hother
      have hremembered := h.remembered other List.mem_cons_self
      rw [(find?_of_window hbase).1] at hremembered ⊢
      simp [hreturns, hremembered, hnot]
    · simp [hother]
  · have hother : other ≠ window := fun heq => hnot (heq ▸ hmem)
    rw [remembered_recalled window other desktop hother,
      h.remembered other (List.mem_cons_of_mem window hmem)]

/-! ## What the veil does not change -/

/-- A minimized window is on the monitor it was on: where it lies has not changed. -/
theorem Veiled.monitorOf (h : Veiled base hidden desktop) (window : WindowHandle) :
    desktop.monitorOf window = base.monitorOf window := by
  unfold Desktop.monitorOf
  by_cases hmem : window ∈ hidden
  · obtain ⟨w, hbase, -, hw⟩ := h.window_of_mem hmem
    rw [hbase, hw, h.framed.monitors]
  · rw [h.window_of_not_mem hmem, h.framed.monitors]

/-- So the desktop fits if its base does. -/
theorem Veiled.fits (h : Veiled base hidden desktop) (hfits : base.Fits) : desktop.Fits :=
  fun window e => by
    rw [h.monitorOf]
    exact hfits window e

/-- Processes have the same names. -/
theorem Veiled.processName? (h : Veiled base hidden desktop) (process : ProcessId) :
    desktop.processName? process = base.processName? process := by
  unfold Desktop.processName?
  rw [h.framed.processes]

/-- Windows have the same owners, hidden or not. -/
theorem Veiled.ownerName? (h : Veiled base hidden desktop) (window : WindowHandle) :
    desktop.ownerName? window = base.ownerName? window := by
  unfold Desktop.ownerName?
  by_cases hmem : window ∈ hidden
  · obtain ⟨w, hbase, -, hw⟩ := h.window_of_mem hmem
    simp only [hbase, hw, h.processName?]
  · simp only [h.window_of_not_mem hmem, h.processName?]

/-- The same records fill their monitors. -/
theorem Veiled.fills (h : Veiled base hidden desktop) (targets : List String) :
    desktop.fills targets = base.fills targets := by
  unfold Desktop.fills monitor?
  rw [h.framed.monitors]

/-- A window that is not hidden has the same record. -/
theorem Veiled.record?_of_not_mem (h : Veiled base hidden desktop) {window : WindowHandle}
    (hmem : window ∉ hidden) (capturedAt : Nat) :
    desktop.record? capturedAt window = base.record? capturedAt window := by
  unfold Desktop.record?
  simp only [h.window_of_not_mem hmem, h.processName?, h.monitorOf]

/-! ## Windows beside a full-screen window -/

/-- The window is recorded on the monitor. -/
def standsOn (monitor : MonitorHandle) (window : WindowHandle) (desktop : Desktop) : Bool :=
  (desktop.record? 0 window).any (·.monitor = monitor)

/-- The windows that an episode hides: on the monitor, not the excluded one, and yielding. -/
def beside (monitor : MonitorHandle) (exclude : Option WindowHandle) (desktop : Desktop) :
    List WindowHandle :=
  (desktop.windows.map Prod.fst).filter fun window =>
    desktop.standsOn monitor window && decide (some window ≠ exclude) && desktop.yields window

/-- Whether a window is recorded on a monitor does not depend on the veil. -/
theorem Veiled.standsOn (h : Veiled base hidden desktop) {capturedAt : Nat} {window : WindowHandle}
    {record : WindowRecord} (hrecord : desktop.record? capturedAt window = some record) :
    base.standsOn record.monitor window = true := by
  obtain ⟨w, name, monitor, hw, hvisible, hsystem, hname, hmonitor, rfl⟩ := record?_eq_some hrecord
  rw [h.monitorOf] at hmonitor
  rw [h.processName?] at hname
  unfold Desktop.standsOn Desktop.record?
  by_cases hmem : window ∈ hidden
  · obtain ⟨w', hbase, -, hw'⟩ := h.window_of_mem hmem
    obtain rfl := Except.ok.inj (hw.symm.trans hw')
    have hvisible' : w'.visible = true := hvisible
    have hsystem' : w'.isSystem = false := hsystem
    simp only [hbase, hvisible', hsystem', hname, hmonitor]
    simp [recordAt]
  · rw [h.window_of_not_mem hmem] at hw
    simp only [hw, hvisible, hsystem, hname, hmonitor]
    simp [recordAt]

/-- The records of a monitor name the windows to hide. -/
theorem filter_yields_records (capturedAt : Nat) (monitor : MonitorHandle)
    (exclude : Option WindowHandle) (desktop : Desktop) :
    ((((desktop.records capturedAt).filter fun record =>
        record.monitor = monitor ∧ some record.handle ≠ exclude).map (·.handle)).filter
      fun window => desktop.yields window) = desktop.beside monitor exclude := by
  unfold records beside
  induction desktop.windows.map Prod.fst with
  | nil => rfl
  | cons window rest ih =>
    rw [List.filterMap_cons, List.filter_cons]
    unfold Desktop.standsOn at ih ⊢
    have hrecord := record?_capturedAt capturedAt window desktop
    rcases hfound : desktop.record? 0 window with _ | record
    · rw [hfound] at hrecord
      simp only [hrecord, Option.map_none, Option.any_none, Bool.false_and, Bool.false_eq_true,
        if_false]
      exact ih
    · obtain ⟨w, name, recorded, -, -, -, -, -, rfl⟩ := record?_eq_some hfound
      rw [hfound] at hrecord
      simp only [hrecord, Option.map_some, Option.any_some, List.filter_cons, recordAt]
      by_cases hplace : recorded = monitor ∧ some window ≠ exclude
      · simp only [hplace, ne_eq, not_false_eq_true, and_self, decide_true, if_true, Bool.true_and,
          List.map_cons, List.filter_cons]
        split
        · rw [← ih]
        · exact ih
      · have hdecide : (decide (recorded = monitor) && decide (some window ≠ exclude)) = false := by
          simpa only [Bool.and_eq_false_iff, decide_eq_false_iff_not, ← not_and_or] using hplace
        simp only [hplace, hdecide, decide_false, Bool.false_eq_true, if_false, Bool.false_and]
        exact ih

end Desktop

/-! ## What the minimizer does -/

namespace Minimizer

open Desktop

/-- The list is what is hidden of a desktop, and the cache looks sharp. -/
structure Holds (base : Desktop) (p : Minimizer × Workspace Desktop) : Prop where
  /-- The desktop is the base with the windows of the list hidden. -/
  veiled : Veiled base p.1.hidden p.2.system
  /-- A query sees the desktop as it is. -/
  sharp : p.2.Sharp

variable {base : Desktop} {p : Minimizer × Workspace Desktop}

/-- A window is asked to minimize: it is hidden if it yields. -/
theorem Holds.asked (h : Holds base p) (window : WindowHandle) :
    Holds base (if p.2.system.yields window then ⟨p.1.hidden ++ [window]⟩ else p.1,
      { p.2 with system := p.2.system.asked window }) := by
  have hveiled := h.veiled.asked window
  have hfits : base.Fits := fun other e => by
    rw [← h.veiled.monitorOf]
    exact h.sharp.fits other e
  have hframed : Framed p.2.system (p.2.system.asked window) :=
    asked_of_calls (fun call => answer_framed p.2.system call) (.refl _) window
  refine ⟨?_, h.sharp.system hframed.processes hframed.enumerationFails ?_ (hveiled.fits hfits)⟩
  · rcases hyields : p.2.system.yields window <;> simpa [hyields] using hveiled
  · unfold Desktop.asked
    split
    · exact Nat.le_of_eq (time_requestState window .minimize p.2.system).symm
    · exact Nat.le_refl _

/-- What a query leaves of a held list. -/
theorem Holds.looked (h : Holds base p) {work : Workspace Desktop} (hlooked : p.2.Looked work) :
    Holds base (p.1, work) :=
  ⟨h.veiled.alike hlooked.alike, hlooked.sharp⟩

/-- The monitors are those of the base. -/
theorem Holds.monitor? (h : Holds base p) (monitor : MonitorHandle) :
    p.2.system.monitor? monitor = base.monitor? monitor := by
  unfold Desktop.monitor?
  rw [h.veiled.framed.monitors]

/-- Asking windows to minimize, one after the other, hides those that yield. -/
theorem hideAll_ensures (records : List WindowRecord) (h : Holds base p)
    (hnodup : (p.1.hidden ++ (records.map (·.handle)).filter fun window =>
      base.yields window).Nodup) :
    (Action.each (fun record => hide record.handle) records).Ensures p
      (fun _ q => Holds base q ∧ q.1.hidden = p.1.hidden ++
        (records.map (·.handle)).filter fun window => base.yields window) fun _ => False := by
  -- what is hidden so far, followed by the windows to come that yield, is the same list all along
  refine (Ensures.each (I := fun rest q => Holds base q ∧
    q.1.hidden ++ (rest.map (·.handle)).filter (fun window => base.yields window) = p.1.hidden ++
      (records.map (·.handle)).filter fun window => base.yields window)
    (fun record rest q _ hq => ?_) ⟨h, rfl⟩).mono (fun _ q hq => ⟨hq.1, by simpa using hq.2⟩)
    fun _ => id
  obtain ⟨hholds, hlist⟩ := hq
  rw [ensures_of_ok (hide_exec record.handle q)]
  refine ⟨hholds.asked record.handle, ?_⟩
  rw [← hlist, List.map_cons, List.filter_cons]
  rcases hbase : base.yields record.handle
  · have hnot : q.2.system.yields record.handle = false := by
      rw [← Bool.not_eq_true, hholds.veiled.yields_iff]
      simp [hbase]
    simp [hnot]
  · have hnew : record.handle ∉ q.1.hidden := by
      rw [← hlist, List.map_cons, List.filter_cons, if_pos hbase] at hnodup
      intro hmem
      exact (List.nodup_append.mp hnodup).2.2 _ hmem _ List.mem_cons_self rfl
    have hyields : q.2.system.yields record.handle = true :=
      (hholds.veiled.yields_iff record.handle).mpr ⟨hbase, hnew⟩
    simp [hyields]

/-- An episode on a monitor hides the windows beside the excluded one. -/
theorem minimizeOnMonitor_ensures {monitor : MonitorHandle} {exclude : Option WindowHandle}
    {info : MonitorInfo} (h : Holds base p) (hempty : p.1.hidden = []) (hsound : base.Sound)
    (hinfo : base.monitor? monitor = some info) :
    (minimizeOnMonitor monitor exclude).run.Ensures p
      (fun r q => r = .ok (base.beside monitor exclude).length ∧ Holds base q ∧
        q.1.hidden = base.beside monitor exclude) fun _ => False := by
  have hstart : (⟨[]⟩ : Minimizer) = p.1 := by rw [← hempty]
  rw [ensures_minimizeOnMonitor, h.monitor? monitor, hinfo, hstart]
  dsimp only
  refine (Workspace.windowsOn_ensures monitor exclude h.sharp).mono (fun records work hwork => ?_)
    fun _ => id
  obtain ⟨hlooked, capturedAt, rfl⟩ := hwork
  have hveiled : Veiled base [] p.2.system := hempty ▸ h.veiled
  have hyields : ∀ window, p.2.system.yields window = base.yields window := fun window => by
    rw [Bool.eq_iff_iff, hveiled.yields_iff]
    simp
  have hbeside : p.2.system.beside monitor exclude = base.beside monitor exclude := by
    unfold Desktop.beside Desktop.standsOn
    simp only [hveiled.framed.handles, hyields,
      hveiled.record?_of_not_mem List.not_mem_nil]
  have hlist := filter_yields_records capturedAt monitor exclude p.2.system
  simp only [hyields, hbeside] at hlist
  refine (hideAll_ensures _ (h.looked hlooked) ?_).mono (fun _ q hq => ?_) fun _ => id
  · rw [hlist, hempty, List.nil_append]
    exact hsound.distinct.filter _
  · rw [hlist, hempty, List.nil_append] at hq
    exact ⟨by rw [hq.2], hq⟩

/-- Right after an episode began there is nothing left to hide beside its window. -/
theorem minimizeBeside_ensures {target : WindowHandle} {monitor : MonitorHandle}
    {info : MonitorInfo} (h : Holds base p) (hlist : p.1.hidden = base.beside monitor (some target))
    (hinfo : base.monitor? monitor = some info) :
    (minimizeBeside target monitor).run.Ensures p
      (fun r q => r = .ok 0 ∧ Holds base q ∧ q.1.hidden = p.1.hidden) fun _ => False := by
  rw [ensures_minimizeBeside, h.monitor? monitor, hinfo]
  dsimp only
  refine (Workspace.windowsOn_ensures monitor (some target) h.sharp).mono
    (fun records work hwork => ?_) fun _ => id
  obtain ⟨hlooked, capturedAt, rfl⟩ := hwork
  refine (Ensures.count (n := 0) (I := fun k _ q => k = 0 ∧ Holds base q ∧
    q.1.hidden = p.1.hidden) (fun k record rest q hmem hq => ?_)
    ⟨rfl, h.looked hlooked, rfl⟩).mono (fun hits q hq => ⟨by simpa using hq.1, hq.2⟩) fun _ => id
  obtain ⟨rfl, hholds, hsame⟩ := hq
  -- a window that yields now stands beside the target, so it is hidden already
  have hnot : q.2.system.yields record.handle = false := by
    rw [← Bool.not_eq_true, hholds.veiled.yields_iff, hsame, hlist]
    rintro ⟨hyields, hnew⟩
    obtain ⟨hrecord, hplace⟩ := List.mem_filter.mp hmem
    obtain ⟨hhandle, hrecord⟩ := mem_records.mp hrecord
    have hstands := h.veiled.standsOn hrecord
    have hplace : record.monitor = monitor ∧ some record.handle ≠ some target := by
      simpa using hplace
    rw [hplace.1] at hstands
    rw [h.veiled.framed.handles] at hhandle
    refine hnew (List.mem_filter.mpr ⟨hhandle, ?_⟩)
    rw [hstands, hyields]
    simpa using hplace.2
  have hexec := hideAgain_exec ((p.2.system.window target).map (·.process)).toOption record q
  split at hexec
  · rw [ensures_of_ok hexec]
    exact ⟨rfl, hholds, hsame⟩
  · have hasked := hholds.asked record.handle
    rw [hnot] at hexec hasked
    rw [ensures_of_ok hexec]
    exact ⟨rfl, by simpa using hasked, by simpa using hsame⟩

/-- The end of an episode calls every hidden window back, whatever the cache looks like, which it
does not touch. -/
theorem restore_veiled (h : Veiled base p.1.hidden p.2.system) :
    restore.Ensures p (fun n q => n = p.1.hidden.length ∧ q.1.hidden = [] ∧
      Veiled base [] q.2.system ∧ q.2.system.time = p.2.system.time ∧
        q.2 = { p.2 with system := q.2.system }) fun _ => False := by
  unfold restore
  simp only [ensures_bind, hiddenWindows, ensures_get, ensures_pure, setHidden, ensures_modify]
  -- the invariant: as many windows came back as are missing from the list, and the rest is still
  -- hidden
  refine (Ensures.count (n := 0) (I := fun k rest q => k + rest.length = p.1.hidden.length ∧
    q.1.hidden = [] ∧ Veiled base rest q.2.system ∧ q.2.system.time = p.2.system.time ∧
      q.2 = { p.2 with system := q.2.system })
    (fun k window rest q _ hq => ?_) ⟨by simp, rfl, h, rfl, rfl⟩).mono
    (fun n q hq => ⟨by simpa using hq.1, hq.2⟩) fun _ => id
  obtain ⟨hcount, hempty, hveiled, htime, hsame⟩ := hq
  obtain ⟨hreturns, hrecalled⟩ := hveiled.recalled
  rw [ensures_of_ok (unhide_exec window q), hreturns]
  refine ⟨?_, hempty, hrecalled, ?_, by rw [hsame]⟩
  · rw [← hcount, List.length_cons, Bool.toNat_true]
    omega
  · unfold Desktop.recalled
    split
    · exact (time_requestState window .restore q.2.system).trans htime
    · exact htime

/-- A sharp cache is sharp after the end of an episode. -/
theorem restore_ensures (h : Holds base p) :
    restore.Ensures p (fun n q => n = p.1.hidden.length ∧ Holds base q ∧ q.1.hidden = [])
      fun _ => False := by
  refine (restore_veiled h.veiled).mono (fun n q hq => ?_) fun _ => id
  obtain ⟨hcount, hempty, hveiled, htime, hsame⟩ := hq
  have hfits : base.Fits := fun other e => by
    rw [← h.veiled.monitorOf]
    exact h.sharp.fits other e
  refine ⟨hcount, ⟨hempty ▸ hveiled, ?_⟩, hempty⟩
  rw [hsame]
  exact h.sharp.system (hveiled.framed.processes.trans h.veiled.framed.processes.symm)
    (hveiled.framed.enumerationFails.trans h.veiled.framed.enumerationFails.symm)
    (Nat.le_of_eq htime.symm) (hveiled.fits hfits)

end Minimizer

end SoloScreen
