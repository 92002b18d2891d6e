import SoloScreen.Proofs.Pass

/-!
# The search for a full-screen window

The search walks down the snapshot and asks for the geometry of the monitors it comes across. What
it was told, a failure too, it keeps in a table and does not ask for again.

* `WindowRecord.isSought_iff`: which records of a snapshot are sought.
* `Workspace.firstFullScreen_searched`: how the walk goes from a table, by induction on the records.
  No monitor in the table is asked for and no other one twice. If the geometry is that of one
  `Layout` throughout, then the walk finds the first record that is sought by this layout.
* `Workspace.firstFullScreenAnew_finds`: a walk without a table finds the same.
* `Workspace.search_finds_first`: the whole search, in every state that a cache can come to.

The table is a matter of how often is asked and not of what is found. Both walks are compared with
the first record that a layout seeks, and not with each other, as they ask different questions in
different states. That the geometry is that of one layout is a condition on the log of the search at
hand; it says nothing of monitors that were not asked for.
-/

namespace SoloScreen

open SoloScreen.Action

/-! ## What is sought -/

/-- The geometry of each monitor, as far as it can be had. -/
abbrev Layout := MonitorHandle → Except Failure MonitorInfo

namespace WindowRecord

variable {targets others : List String} {layout : Layout} {record : WindowRecord}

/-- The search stops at the record. -/
def isSought (targets : List String) (layout : Layout) (record : WindowRecord) : Bool :=
  record.isValid && record.isMaximized && targets.contains record.processName &&
    (layout record.monitor).toOption.any record.isFullScreen

/-- The record is of a maximized window of a target that covers the work area of its monitor, where
equal edges count. -/
structure FillsScreen (targets : List String) (layout : Layout) (record : WindowRecord) : Prop where
  /-- Its handle is not null. -/
  handle : record.handle.isNull = false
  /-- It was maximized at the pass. -/
  state : record.state = .maximized
  /-- Its process is a target. -/
  target : record.processName ∈ targets
  /-- Its monitor is known, and it reaches all four edges of the work area. -/
  covers : ∃ info, layout record.monitor = .ok info ∧
    record.bounds.left ≤ info.workArea.left ∧ record.bounds.top ≤ info.workArea.top ∧
    info.workArea.right ≤ record.bounds.right ∧ info.workArea.bottom ≤ record.bounds.bottom

/-- Of an ordinary visible window the search asks just that. -/
theorem isSought_iff (hvisible : record.visible = true) (hsystem : record.system = false) :
    record.isSought targets layout = true ↔ record.FillsScreen targets layout := by
  have hvalid : record.isValid = !record.handle.isNull := by simp [isValid, hvisible, hsystem]
  unfold isSought isMaximized isFullScreen Rect.covers
  constructor
  · intro h
    rcases hlayout : layout record.monitor with failure | info
    · simp [hlayout, Except.toOption] at h
    · simp only [hlayout, Except.toOption, Option.any_some, Bool.and_eq_true, decide_eq_true_eq,
        List.contains_iff_mem, hvalid, Bool.not_eq_true', beq_iff_eq] at h
      obtain ⟨⟨⟨hhandle, hstate⟩, htarget⟩, -, ⟨⟨hleft, htop⟩, hright⟩, hbottom⟩ := h
      exact ⟨hhandle, hstate, htarget, info, hlayout, hleft, htop, hright, hbottom⟩
  · rintro ⟨hhandle, hstate, htarget, info, hlayout, hleft, htop, hright, hbottom⟩
    simp [hvalid, hhandle, isMaximized, hstate, htarget, hlayout, Except.toOption, hleft, htop,
      hright, hbottom]

/-- What is sought for some targets is sought for more. -/
theorem isSought_mono (hsub : targets ⊆ others) (h : record.isSought targets layout = true) :
    record.isSought others layout = true := by
  simp only [isSought, Bool.and_eq_true, List.contains_iff_mem] at h ⊢
  exact ⟨⟨h.1.1, hsub h.1.2⟩, h.2⟩

end WindowRecord

/-- Where more is sought, the first one found stands no lower in the list. -/
theorem find?_idxOf_le {α : Type} [DecidableEq α] {p q : α → Bool} (hpq : ∀ a, p a → q a) {a : α} :
    ∀ {l : List α}, l.find? p = some a → ∃ b, l.find? q = some b ∧ l.idxOf b ≤ l.idxOf a
  | c :: rest, h => by
    by_cases hq : q c = true
    · exact ⟨c, List.find?_cons_of_pos hq, by simp⟩
    · have hp : ¬ p c = true := fun hp => hq (hpq c hp)
      rw [List.find?_cons_of_neg hp] at h
      obtain ⟨b, hb, hle⟩ := find?_idxOf_le hpq h
      have hcb : c ≠ b := by
        rintro rfl
        exact hq (List.find?_some hb)
      have hca : c ≠ a := by
        rintro rfl
        exact hp (List.find?_some h)
      refine ⟨b, by rwa [List.find?_cons_of_neg hq], ?_⟩
      rw [List.idxOf_cons_ne rest hcb, List.idxOf_cons_ne rest hca]
      exact Nat.succ_le_succ hle

/-! ## Monitors in the log -/

/-- The monitor whose geometry is asked for, and the answer. -/
def Inquiry.geometry? :
    Inquiry → Option (MonitorHandle × Except Overflow (Except Failure MonitorInfo))
  | .call ⟨.monitorInfo monitor, answer⟩ => some (monitor, answer)
  | _ => none

/-- The monitors whose geometry is asked for, one after the other. -/
def monitors (inquiries : List Inquiry) : List MonitorHandle :=
  (inquiries.filterMap Inquiry.geometry?).map Prod.fst

/-- Whenever the geometry of a monitor is asked for, it is that of the layout. -/
def Layout.Stays (layout : Layout) (inquiries : List Inquiry) : Prop :=
  ∀ x ∈ inquiries.filterMap Inquiry.geometry?, x.2 = .ok (layout x.1)

instance (layout : Layout) (inquiries : List Inquiry) : Decidable (layout.Stays inquiries) :=
  inferInstanceAs (Decidable (∀ x ∈ inquiries.filterMap Inquiry.geometry?, x.2 = .ok (layout x.1)))

/-- The monitors of two stretches. -/
theorem monitors_append (before after : List Inquiry) :
    monitors (before ++ after) = monitors before ++ monitors after := by
  simp [monitors]

/-- A layout stays along two stretches if along each of them. -/
theorem Layout.stays_append {layout : Layout} {before after : List Inquiry} :
    layout.Stays (before ++ after) ↔ layout.Stays before ∧ layout.Stays after := by
  unfold Layout.Stays
  rw [List.filterMap_append]
  exact List.forall_mem_append

/-- Along a single question it stays if the answer is its own. -/
theorem Layout.stays_singleton {layout : Layout} {monitor : MonitorHandle}
    {answer : Except Overflow (Except Failure MonitorInfo)} :
    layout.Stays [.call ⟨.monitorInfo monitor, answer⟩] ↔ answer = .ok (layout monitor) :=
  List.forall_mem_singleton

/-! ## Tables of monitors -/

/-- What the table holds is the layout. -/
def Layout.Holds (layout : Layout) (known : Table MonitorHandle (Option MonitorInfo)) : Prop :=
  ∀ monitor info, known.find? monitor = some info → info = (layout monitor).toOption

/-- A table that is filled with what the layout has holds the layout. -/
theorem Layout.Holds.insert {layout : Layout} {known : Table MonitorHandle (Option MonitorInfo)}
    (h : layout.Holds known) (monitor : MonitorHandle) :
    layout.Holds (known.insert monitor (layout monitor).toOption) := by
  intro other info hfound
  rw [Table.find?_insert] at hfound
  split at hfound
  · rename_i heq
    rw [← Option.some.inj hfound, heq]
  · exact h other info hfound

namespace Workspace

variable {σ ε : Type}

/-- More was asked, and of the monitors none in the table and none twice. -/
structure Searched (known : Table MonitorHandle (Option MonitorInfo)) (more : List Inquiry)
    (work work' : Workspace (Logged σ)) : Prop where
  /-- What was asked. -/
  log : work'.log = work.log ++ more
  /-- No monitor is in it twice. -/
  once : (monitors more).Nodup
  /-- And none that was in the table. -/
  unknown : ∀ monitor ∈ monitors more, known.find? monitor = none

/-- Nothing was asked. -/
theorem Searched.refl (known : Table MonitorHandle (Option MonitorInfo))
    (work : Workspace (Logged σ)) : Searched known [] work work :=
  ⟨(List.append_nil work.log).symm, List.nodup_nil, by simp [monitors]⟩

/-- One monitor was asked for that is not in the table. -/
theorem Asks.searched {known : Table MonitorHandle (Option MonitorInfo)} {monitor : MonitorHandle}
    {answer : Except Overflow (Except Failure MonitorInfo)} {work work' : Workspace (Logged σ)}
    (h : Asks (.call ⟨.monitorInfo monitor, answer⟩) work work')
    (hknown : known.find? monitor = none) :
    Searched known [.call ⟨.monitorInfo monitor, answer⟩] work work' where
  log := h.log
  once := List.pairwise_singleton _ monitor
  unknown other hother := by
    obtain rfl : other = monitor := List.mem_singleton.mp hother
    exact hknown

/-- If the second table holds what was in the first and what was asked for, then the search can go
on with it. -/
theorem Searched.trans {known table : Table MonitorHandle (Option MonitorInfo)}
    {more others : List Inquiry} {work work' work'' : Workspace (Logged σ)}
    (h : Searched known more work work')
    (htable : ∀ monitor, table.find? monitor = none →
      known.find? monitor = none ∧ monitor ∉ monitors more)
    (h' : Searched table others work' work'') : Searched known (more ++ others) work work'' := by
  have hfresh (monitor : MonitorHandle) (hother : monitor ∈ monitors others) :=
    htable monitor (h'.unknown monitor hother)
  refine ⟨?_, ?_, fun monitor hmem => ?_⟩
  · rw [h'.log, h.log, List.append_assoc]
  · rw [monitors_append]
    refine List.nodup_append.mpr ⟨h.once, h'.once, fun monitor hmem other hother heq => ?_⟩
    exact (hfresh other hother).2 (heq ▸ hmem)
  · rw [monitors_append] at hmem
    rcases List.mem_append.mp hmem with hmem | hother
    · exact h.unknown monitor hmem
    · exact (hfresh monitor hother).1

/-! ## The walk down the snapshot -/

section walks

variable [WindowSystem σ]

/-- The geometry of a monitor is looked up in the table, or asked for and then in the table. -/
theorem monitorOnce_searched (known : Table MonitorHandle (Option MonitorInfo))
    (monitor : MonitorHandle) (work : Workspace (Logged σ)) :
    (monitorOnce known monitor).Ensures work
      (fun found work' => ∃ more, Searched known more work work' ∧
        (∀ other, found.2.find? other = none →
          known.find? other = none ∧ other ∉ monitors more) ∧
        ∀ layout : Layout, layout.Holds known → layout.Stays more →
          found.1 = (layout monitor).toOption ∧ layout.Holds found.2)
      fun work' => ∃ more, Searched known more work work' ∧
        ∀ layout : Layout, ¬ layout.Stays more := by
  unfold monitorOnce
  rcases hknown : known.find? monitor with _ | info
  · dsimp only
    rw [ensures_bind]
    refine (call_asks (.monitorInfo monitor) work).mono (fun answer work' hasks => ?_)
      fun _ ⟨e, hasks⟩ => ⟨_, hasks.searched hknown, fun layout hstays =>
        nomatch Layout.stays_singleton.mp hstays⟩
    suffices h : ∃ more, Searched known more work work' ∧
        (∀ other, (known.insert monitor answer.toOption).find? other = none →
          known.find? other = none ∧ other ∉ monitors more) ∧
        ∀ layout : Layout, layout.Holds known → layout.Stays more →
          answer.toOption = (layout monitor).toOption ∧
            layout.Holds (known.insert monitor answer.toOption) by
      rcases answer with failure | info <;> exact h
    refine ⟨_, hasks.searched hknown, fun other hother => ?_, fun layout hholds hstays => ?_⟩
    · rw [Table.find?_insert] at hother
      by_cases hne : monitor = other
      · rw [if_pos hne] at hother
        cases hother
      · rw [if_neg hne] at hother
        exact ⟨hother, fun hmem => hne (List.mem_singleton.mp hmem).symm⟩
    · obtain rfl := Except.ok.inj (Layout.stays_singleton.mp hstays)
      exact ⟨rfl, hholds.insert monitor⟩
  · exact ⟨[], .refl known work, fun other hother => ⟨hother, by simp [monitors]⟩,
      fun layout hholds _ => ⟨hholds monitor info hknown, hholds⟩⟩

/-- The walk asks for monitors that are not in the table, each once, and finds the first record
sought if the table and the answers are of one layout. Only where a monitor does not answer it is
cut short. -/
theorem firstFullScreen_searched (targets : List String) (records : List WindowRecord)
    (known : Table MonitorHandle (Option MonitorInfo)) (work : Workspace (Logged σ)) :
    (firstFullScreen targets known records).Ensures work
      (fun found work' => ∃ more, Searched known more work work' ∧
        ∀ layout : Layout, layout.Holds known → layout.Stays more →
          found = records.find? (·.isSought targets layout))
      fun work' => ∃ more, Searched known more work work' ∧
        ∀ layout : Layout, ¬ layout.Stays more := by
  induction records generalizing known work with
  | nil => exact ⟨[], .refl known work, fun _ _ _ => rfl⟩
  | cons record rest ih =>
    unfold firstFullScreen
    by_cases hmatches :
      (record.isValid && record.isMaximized && targets.contains record.processName) = true
    · rw [if_pos hmatches, ensures_bind]
      refine (monitorOnce_searched known record.monitor work).mono (fun found between h => ?_)
        fun _ hcut => hcut
      obtain ⟨more, hsearched, htable, hlayout⟩ := h
      have hsought (layout : Layout) (hholds : layout.Holds known) (hstays : layout.Stays more) :
          found.1.any record.isFullScreen = record.isSought targets layout := by
        rw [(hlayout layout hholds hstays).1, WindowRecord.isSought, hmatches, Bool.true_and]
      dsimp only
      split
      · rename_i hfull
        refine ⟨more, hsearched, fun layout hholds hstays => ?_⟩
        rw [hsought layout hholds hstays] at hfull
        exact (List.find?_cons_of_pos hfull).symm
      · rename_i hfull
        refine (ih found.2 between).mono (fun other work' h => ?_) fun work' h => ?_
        · obtain ⟨others, hothers, hvalue⟩ := h
          refine ⟨more ++ others, hsearched.trans htable hothers, fun layout hholds hstays => ?_⟩
          obtain ⟨hmore, hstays⟩ := Layout.stays_append.mp hstays
          rw [hsought layout hholds hmore] at hfull
          rw [List.find?_cons_of_neg hfull]
          exact hvalue layout (hlayout layout hholds hmore).2 hstays
        · obtain ⟨others, hothers, hcut⟩ := h
          exact ⟨more ++ others, hsearched.trans htable hothers,
            fun layout hstays => hcut layout (Layout.stays_append.mp hstays).2⟩
    · rw [if_neg hmatches]
      refine (ih known work).mono (fun found work' h => ?_) fun _ h => h
      obtain ⟨more, hsearched, hvalue⟩ := h
      refine ⟨more, hsearched, fun layout hholds hstays => ?_⟩
      have hother : ¬ record.isSought targets layout = true := fun hsought =>
        hmatches (Bool.and_eq_true_iff.mp hsought).1
      rw [List.find?_cons_of_neg hother]
      exact hvalue layout hholds hstays

/-- The walk that keeps nothing: a monitor is asked for whenever a candidate is on it. -/
def firstFullScreenAnew {τ : Type} [WindowSystem τ] (targets : List String) :
    List WindowRecord → Action (Workspace τ) (Option WindowRecord)
  | [] => pure none
  | record :: rest =>
    if record.isValid && record.isMaximized && targets.contains record.processName then do
      match ← (Native.monitorInfo record.monitor).run with
      | .ok info =>
        if record.isFullScreen info then pure (some record) else firstFullScreenAnew targets rest
      | .error _ => firstFullScreenAnew targets rest
    else firstFullScreenAnew targets rest

/-- The search that keeps nothing. -/
def findFullScreenAnew {τ : Type} [WindowSystem τ] (targets : List String) :
    Action (Workspace τ) (Option WindowRecord) := do
  if targets.isEmpty then pure none
  else firstFullScreenAnew targets (← windows)

/-- A walk finds the first record sought, unless a monitor does not answer. -/
def FindsFirst (targets : List String)
    (walk : List WindowRecord → Action (Workspace (Logged σ)) (Option WindowRecord)) : Prop :=
  ∀ records work, (walk records).Ensures work
    (fun found work' => ∃ more, work'.log = work.log ++ more ∧
      ∀ layout : Layout, layout.Stays more → found = records.find? (·.isSought targets layout))
    fun work' => ∃ more, work'.log = work.log ++ more ∧ ∀ layout : Layout, ¬ layout.Stays more

/-- The walk of the search begins with an empty table, which holds every layout. -/
theorem firstFullScreen_finds (targets : List String) :
    FindsFirst (σ := σ) targets (firstFullScreen targets []) := by
  intro records work
  refine (firstFullScreen_searched targets records [] work).mono (fun found work' h => ?_)
    fun work' h => ?_
  · obtain ⟨more, hsearched, hvalue⟩ := h
    exact ⟨more, hsearched.log, fun layout => hvalue layout (by simp [Layout.Holds])⟩
  · obtain ⟨more, hsearched, hcut⟩ := h
    exact ⟨more, hsearched.log, hcut⟩

/-- The walk that keeps nothing finds it too. It may ask for a monitor several times, and a layout
that stays has the same answer each time. -/
theorem firstFullScreenAnew_finds (targets : List String) :
    FindsFirst (σ := σ) targets (firstFullScreenAnew targets) := by
  intro records
  induction records with
  | nil => exact fun work => ⟨[], (List.append_nil work.log).symm, fun _ _ => rfl⟩
  | cons record rest ih =>
    intro work
    have hpassed {work' : Workspace (Logged σ)} {more : List Inquiry}
        (hlog : work'.log = work.log ++ more)
        (hother : ∀ layout : Layout, layout.Stays more → ¬ record.isSought targets layout = true) :
        (firstFullScreenAnew targets rest).Ensures work'
          (fun found work' => ∃ more, work'.log = work.log ++ more ∧
            ∀ layout : Layout, layout.Stays more →
              found = (record :: rest).find? (·.isSought targets layout))
          fun work' => ∃ more, work'.log = work.log ++ more ∧
            ∀ layout : Layout, ¬ layout.Stays more := by
      refine (ih work').mono (fun found work'' h => ?_) fun work'' h => ?_
      · obtain ⟨others, hlog', hvalue⟩ := h
        refine ⟨more ++ others, by rw [hlog', hlog, List.append_assoc], fun layout hstays => ?_⟩
        obtain ⟨hmore, hstays⟩ := Layout.stays_append.mp hstays
        rw [List.find?_cons_of_neg (hother layout hmore)]
        exact hvalue layout hstays
      · obtain ⟨others, hlog', hcut⟩ := h
        exact ⟨more ++ others, by rw [hlog', hlog, List.append_assoc],
          fun layout hstays => hcut layout (Layout.stays_append.mp hstays).2⟩
    unfold firstFullScreenAnew
    by_cases hmatches :
      (record.isValid && record.isMaximized && targets.contains record.processName) = true
    · rw [if_pos hmatches, ensures_bind]
      refine (call_asks (.monitorInfo record.monitor) work).mono (fun answer work' hasks => ?_)
        fun _ ⟨e, hasks⟩ => ⟨_, hasks.log, fun layout hstays =>
          nomatch Layout.stays_singleton.mp hstays⟩
      have hsought (layout : Layout)
          (hstays : layout.Stays [.call ⟨.monitorInfo record.monitor, .ok answer⟩]) :
          record.isSought targets layout = answer.toOption.any record.isFullScreen := by
        rw [WindowRecord.isSought, hmatches, Bool.true_and,
          Except.ok.inj (Layout.stays_singleton.mp hstays)]
      rcases answer with failure | info
      · refine hpassed hasks.log fun layout hstays => ?_
        rw [hsought layout hstays]
        simp [Except.toOption]
      · dsimp only
        split
        · rename_i hfull
          refine ⟨_, hasks.log, fun layout hstays => ?_⟩
          exact (List.find?_cons_of_pos ((hsought layout hstays).trans hfull)).symm
        · rename_i hfull
          exact hpassed hasks.log fun layout hstays => by rwa [hsought layout hstays]
    · rw [if_neg hmatches]
      refine hpassed (List.append_nil work.log).symm fun layout _ hsought => ?_
      exact hmatches (Bool.and_eq_true_iff.mp hsought).1

/-! ## The whole search -/

/-- Only the names of the targets matter, not their order or number. -/
theorem firstFullScreen_congr {τ : Type} [WindowSystem τ] {targets others : List String}
    (h : ∀ name, name ∈ others ↔ name ∈ targets) (records : List WindowRecord) :
    ∀ known : Table MonitorHandle (Option MonitorInfo),
      (firstFullScreen others known records : Action (Workspace τ) _) =
        firstFullScreen targets known records := by
  have hcontains (name : String) : others.contains name = targets.contains name :=
    Bool.eq_iff_iff.mpr (by simpa using h name)
  induction records with
  | nil => exact fun known => rfl
  | cons record rest ih =>
    intro known
    unfold firstFullScreen
    simp only [hcontains, ih]

/-- The same for the whole search. Without a target there is none among the others either. -/
theorem findFullScreen_congr {τ : Type} [WindowSystem τ] {targets others : List String}
    (h : ∀ name, name ∈ others ↔ name ∈ targets) :
    (findFullScreen others : Action (Workspace τ) _) = findFullScreen targets := by
  have hempty : others.isEmpty = targets.isEmpty := by
    rw [Bool.eq_iff_iff, List.isEmpty_iff, List.isEmpty_iff, List.eq_nil_iff_forall_not_mem,
      List.eq_nil_iff_forall_not_mem]
    exact forall_congr' fun name => not_congr (h name)
  unfold findFullScreen
  rw [hempty]
  simp only [firstFullScreen_congr h]

/-- The log goes on, and no monitor is asked for. -/
def Unmeasured (work work' : Workspace (Logged σ)) : Prop :=
  ∃ more, work'.log = work.log ++ more ∧ monitors more = []

omit [WindowSystem σ] in
/-- Two stretches without a monitor make one. -/
theorem Unmeasured.isPath : IsPath (Unmeasured (σ := σ)) where
  refl work := ⟨[], by simp, rfl⟩
  trans := by
    rintro work work' work'' ⟨more, hlog, hmore⟩ ⟨more', hlog', hmore'⟩
    refine ⟨more ++ more', by rw [hlog', hlog, List.append_assoc], ?_⟩
    rw [monitors_append, hmore, hmore']
    rfl

/-- Only one kind of call asks for a monitor. -/
theorem call_unmeasured {call : NativeCall} (hcall : ∀ monitor, call ≠ .monitorInfo monitor) :
    Follows Unmeasured (WindowSystem.call call : Action (Workspace (Logged σ)) _) := by
  intro work
  have hnone : ∀ answer, monitors [.call ⟨call, answer⟩] = [] := by
    intro answer
    cases call with
    | monitorInfo monitor => exact absurd rfl (hcall monitor)
    | _ => rfl
  exact (call_asks call work).mono (fun _ _ h => ⟨_, h.log, hnone _⟩)
    fun _ ⟨_, h⟩ => ⟨_, h.log, hnone _⟩

/-- To have the snapshot, by a pass or without one, no monitor is asked for its geometry. -/
theorem snapshot_unmeasured :
    Follows Unmeasured (snapshot : Action (Workspace (Logged σ)) WindowSnapshot) := by
  have hpath := (Unmeasured.isPath (σ := σ)).toSelf
  have hclock : Follows Unmeasured (WindowSystem.readClock : Action (Workspace (Logged σ)) Nat) :=
    fun work => (readClock_asks work).mono (fun _ _ h => ⟨_, h.log, rfl⟩)
      fun _ ⟨_, h⟩ => ⟨_, h.log, rfl⟩
  have hcache (f : SnapshotCache → SnapshotCache) :
      Follows Unmeasured (modifyCache f : Action (Workspace (Logged σ)) Unit) :=
    fun work => ⟨[], (List.append_nil work.log).symm, rfl⟩
  exact snapshot_conforms hpath hclock (refresh_conforms hpath (call_unmeasured nofun)
    (fun call hinspects => call_unmeasured (by rintro monitor rfl; cases hinspects)) hclock
    (processName?_conforms hpath (fun _ => call_unmeasured nofun) fun _ _ _ => hcache _)
    fun _ _ _ => hcache _)

/-- What a walk finds in the snapshot. If the snapshot cannot be had, then the walk is not begun. -/
theorem FindsFirst.exec {targets : List String}
    {walk : List WindowRecord → Action (Workspace (Logged σ)) (Option WindowRecord)}
    (h : FindsFirst targets walk) {layout : Layout} {work : Workspace (Logged σ)}
    (hstays : layout.Stays (asked work ((windows >>= walk).exec work).2)) :
    ((windows >>= walk).exec work).1 =
      (snapshot.exec work).1.map fun found => found.windows.find? (·.isSought targets layout) := by
  obtain ⟨before, hbefore, -⟩ := snapshot_unmeasured.exec_snd work
  rcases hsnapshot : snapshot.exec work with ⟨e | found, between⟩
  · have hwindows : windows.exec work = (.error e, between) := exec_bind_of_error hsnapshot
    rw [exec_bind_of_error hwindows]
    rfl
  · have hwindows : windows.exec work = (.ok found.windows, between) := exec_bind_of_ok hsnapshot
    rw [hsnapshot] at hbefore
    rw [exec_bind_of_ok hwindows] at hstays ⊢
    have hwalk := h found.windows between
    rcases hexec : (walk found.windows).exec between with ⟨e | answer, after⟩
    · obtain ⟨more, hmore, hcut⟩ := (ensures_of_error hexec).mp hwalk
      rw [hexec, asked_eq (by rw [hmore, hbefore, List.append_assoc])] at hstays
      exact absurd (Layout.stays_append.mp hstays).2 (hcut layout)
    · obtain ⟨more, hmore, hvalue⟩ := (ensures_of_ok hexec).mp hwalk
      rw [hexec, asked_eq (by rw [hmore, hbefore, List.append_assoc])] at hstays
      exact congrArg Except.ok (hvalue layout (Layout.stays_append.mp hstays).2)

/-- With a target the search is the walk down the windows. -/
theorem findFullScreen_eq {τ : Type} [WindowSystem τ] {targets : List String} (h : targets ≠ []) :
    (findFullScreen targets : Action (Workspace τ) _) = windows >>= firstFullScreen targets [] := by
  unfold findFullScreen
  rw [if_neg (by simpa using h)]

/-- And so is the search that keeps nothing. -/
theorem findFullScreenAnew_eq {τ : Type} [WindowSystem τ] {targets : List String}
    (h : targets ≠ []) :
    (findFullScreenAnew targets : Action (Workspace τ) _) =
      windows >>= firstFullScreenAnew targets := by
  unfold findFullScreenAnew
  rw [if_neg (by simpa using h)]

/-- With a target, the search finds the first record of the snapshot that is sought. -/
theorem findFullScreen_finds {targets : List String} {layout : Layout} {work : Workspace (Logged σ)}
    (htargets : targets ≠ [])
    (hstays : layout.Stays (asked work ((findFullScreen targets).exec work).2)) :
    ((findFullScreen targets).exec work).1 =
      (snapshot.exec work).1.map fun found => found.windows.find? (·.isSought targets layout) := by
  rw [findFullScreen_eq htargets] at hstays ⊢
  exact (firstFullScreen_finds targets).exec hstays

/-- With more targets the record found is not a lower one. -/
theorem findFullScreen_mono {targets others : List String} (hsub : targets ⊆ others)
    {layout : Layout} {work : Workspace (Logged σ)}
    (hstays : layout.Stays (asked work ((findFullScreen targets).exec work).2))
    (hothers : layout.Stays (asked work ((findFullScreen others).exec work).2))
    {record : WindowRecord} (hrecord : ((findFullScreen targets).exec work).1 = .ok (some record)) :
    ∃ found higher, (snapshot.exec work).1 = .ok found ∧
      ((findFullScreen others).exec work).1 = .ok (some higher) ∧
        found.windows.idxOf higher ≤ found.windows.idxOf record := by
  have htargets : targets ≠ [] := by
    rintro rfl
    cases hrecord
  have hmore : others ≠ [] := fun h => htargets (List.subset_nil.mp (h ▸ hsub))
  rw [findFullScreen_finds htargets hstays] at hrecord
  rw [findFullScreen_finds hmore hothers]
  generalize (snapshot.exec work).1 = answer at hrecord ⊢
  rcases answer with e | found
  · cases hrecord
  · obtain ⟨higher, hhigher, hle⟩ := find?_idxOf_le
      (fun _ => WindowRecord.isSought_mono hsub) (Except.ok.inj hrecord)
    exact ⟨found, higher, rfl, congrArg Except.ok hhigher, hle⟩

/-- No search asks for a monitor twice, also if it is cut short. -/
theorem findFullScreen_once (targets : List String) (work : Workspace (Logged σ)) :
    (monitors (asked work ((findFullScreen targets).exec work).2)).Nodup := by
  have hsearch : (findFullScreen targets).Ensures work
      (fun _ work' => ∃ more, work'.log = work.log ++ more ∧ (monitors more).Nodup)
      fun work' => ∃ more, work'.log = work.log ++ more ∧ (monitors more).Nodup := by
    unfold findFullScreen
    split
    · exact ⟨[], (List.append_nil work.log).symm, List.nodup_nil⟩
    · have hwindows : Follows Unmeasured (windows : Action (Workspace (Logged σ)) _) :=
        snapshot_unmeasured.bind Unmeasured.isPath fun _ => .pure Unmeasured.isPath _
      rw [ensures_bind]
      refine (hwindows work).mono (fun records between h => ?_) fun work' h => ?_
      · obtain ⟨before, hbefore, hnone⟩ := h
        have hlater {more : List Inquiry} {work' : Workspace (Logged σ)}
            (hsearched : Searched [] more between work') :
            ∃ more, work'.log = work.log ++ more ∧ (monitors more).Nodup := by
          refine ⟨before ++ more, by rw [hsearched.log, hbefore, List.append_assoc], ?_⟩
          rw [monitors_append, hnone]
          exact hsearched.once
        exact (firstFullScreen_searched targets records [] between).mono
          (fun _ _ ⟨_, hsearched, _⟩ => hlater hsearched)
          fun _ ⟨_, hsearched, _⟩ => hlater hsearched
      · obtain ⟨before, hbefore, hnone⟩ := h
        exact ⟨before, hbefore, hnone ▸ List.nodup_nil⟩
  obtain ⟨more, hmore, hnodup⟩ := hsearch.exec_snd
  rwa [asked_eq hmore]

/-- In the snapshots of a run every record is of an ordinary visible window. -/
theorem snapshot_ordinary (staleness : Nat) (system : σ) (apply : ε → σ → σ)
    (inputs : List (Input ε)) {found : WindowSnapshot}
    (hfound : (snapshot.exec (run apply inputs (.unseen staleness { system }))).1 = .ok found) :
    ∀ record ∈ found.windows, record.visible = true ∧ record.system = false := by
  have hkeeps : CacheKeeps fun cache =>
      ∀ record ∈ cache.snapshot.windows, record.visible = true ∧ record.system = false :=
    ⟨fun _ _ _ _ h => h, fun _ _ _ hwindows _ record hmem =>
      ⟨(hwindows record hmem).visible, (hwindows record hmem).system⟩⟩
  have hrun := hkeeps.run (by simp) staleness system apply inputs
  generalize run apply inputs (.unseen staleness { system }) = work at hfound hrun
  have hafter := hkeeps.queriesConform.snapshot.exec_snd work hrun
  have hexec : snapshot.exec work = (.ok found, (snapshot.exec work).2) := Prod.ext hfound rfl
  have hrecorded : found = (snapshot.exec work).2.cache.snapshot :=
    (ensures_of_ok hexec).mp (snapshot_readsOff.ensures work)
  rwa [hrecorded]

/-- The search finds the first window in Z-order that fills the screen for a target. In every state
of every run, and if the geometry of each monitor stays the same during the search, it finds the
first record of the current snapshot that is sought: of a maximized window of a target, with a
handle that is not null, that covers the work area of its monitor. It finds none if there is no such
record or no target. A search that keeps no table of the monitors finds the same. No monitor is
asked for twice, whatever it answers. The order and the repetition of targets do not matter, and
with more targets the record found is not a lower one. -/
theorem search_finds_first (staleness : Nat) (system : σ) (apply : ε → σ → σ)
    (inputs : List (Input ε)) (targets : List String) :
    let work := run apply inputs (.unseen staleness { system })
    let search := (findFullScreen targets).exec work
    let anew := (findFullScreenAnew targets).exec work
    (targets = [] → search = (.ok none, work)) ∧
    (∀ layout : Layout, layout.Stays (asked work search.2) → targets ≠ [] →
      search.1 = (snapshot.exec work).1.map fun found =>
        found.windows.find? (·.isSought targets layout)) ∧
    (∀ found layout, (snapshot.exec work).1 = .ok found → ∀ record ∈ found.windows,
      record.isSought targets layout = true ↔ record.FillsScreen targets layout) ∧
    (∀ layout : Layout, layout.Stays (asked work search.2) → layout.Stays (asked work anew.2) →
      anew.1 = search.1) ∧
    (monitors (asked work search.2)).Nodup ∧
    (∀ others : List String, (∀ name, name ∈ others ↔ name ∈ targets) →
      (findFullScreen others).exec work = search) ∧
    ∀ others : List String, targets ⊆ others → ∀ layout : Layout, layout.Stays (asked work search.2) →
      layout.Stays (asked work ((findFullScreen others).exec work).2) →
        ∀ record, search.1 = .ok (some record) → ∃ found higher,
          (snapshot.exec work).1 = .ok found ∧
            ((findFullScreen others).exec work).1 = .ok (some higher) ∧
              found.windows.idxOf higher ≤ found.windows.idxOf record := by
  intro work search anew
  refine ⟨?_, fun layout hstays htargets => findFullScreen_finds htargets hstays, ?_, ?_,
    findFullScreen_once targets work, fun others h => by rw [findFullScreen_congr h],
    fun others hsub layout hstays hothers record => findFullScreen_mono hsub hstays hothers⟩
  · rintro rfl
    rfl
  · intro found layout hfound record hmem
    obtain ⟨hvisible, hsystem⟩ := snapshot_ordinary staleness system apply inputs hfound record hmem
    exact WindowRecord.isSought_iff hvisible hsystem
  · intro layout hstays hanew
    by_cases htargets : targets = []
    · subst htargets
      rfl
    · have hexec : anew = (windows >>= firstFullScreenAnew targets).exec work :=
        congrArg (·.exec work) (findFullScreenAnew_eq htargets)
      rw [hexec] at hanew ⊢
      rw [(firstFullScreenAnew_finds targets).exec hanew]
      exact (findFullScreen_finds htargets hstays).symm

/-- The first monitor is unplugged after the pass. The two games on it are passed over, with a
single question, and the game on the other monitor is found. With the notepad as a target too the
window above all of them is found. -/
theorem search_finds_first_demo :
    let near : Rect := ⟨0, 0, 1920, 1080⟩
    let far : Rect := ⟨1920, 0, 3840, 1080⟩
    let game (bounds : Rect) := (DesktopWindow.titled 1 "Game").maximizedOver bounds
    let notes := (DesktopWindow.titled 2 "Notes").maximizedOver far
    let event := Desktop.Event.apply
    let inputs : List (Input (Desktop → Desktop)) :=
      [.outside (event (.addMonitor ⟨near, near⟩)), .outside (event (.addMonitor ⟨far, far⟩)),
        .outside (event (.addProcess 1 "game.exe")), .outside (event (.addProcess 2 "notepad.exe")),
        .outside (event (.openWindow (game far))), .outside (event (.openWindow (game near))),
        .outside (event (.openWindow (game near))), .outside (event (.openWindow notes)),
        .operation .refresh,
        .outside fun desktop => { desktop with monitors := desktop.monitors.drop 1 }]
    ∃ work : Workspace (Logged Desktop),
      work = run (fun event => event) inputs (.unseen 5 { system := ({} : Desktop) }) ∧
      let layout : Layout := fun monitor => work.system.system.answers (.monitorInfo monitor)
      layout.Stays (asked work ((findFullScreen ["game"]).exec work).2) ∧
      ((findFullScreen ["game"]).exec work).1.toOption.join.map (·.handle) = some ⟨0x1000⟩ ∧
      monitors (asked work ((findFullScreen ["game"]).exec work).2) = [⟨0x10⟩, ⟨0x11⟩] ∧
      ((findFullScreen ["game"]).exec work).1 = (snapshot.exec work).1.map (fun found =>
        found.windows.find? (·.isSought ["game"] layout)) ∧
      monitors (asked work ((findFullScreenAnew ["game"]).exec work).2) =
        [⟨0x10⟩, ⟨0x10⟩, ⟨0x11⟩] ∧
      ((findFullScreenAnew ["game"]).exec work).1 = ((findFullScreen ["game"]).exec work).1 ∧
      ((findFullScreen ["game", "game"]).exec work) = (findFullScreen ["game"]).exec work ∧
      ((findFullScreen ["notepad", "game"]).exec work).1.toOption.join.map (·.handle) =
        some ⟨0x1030⟩ ∧
      ∀ record, ((findFullScreen ["game"]).exec work).1 = .ok (some record) → ∃ found higher,
        (snapshot.exec work).1 = .ok found ∧
          ((findFullScreen ["notepad", "game"]).exec work).1 = .ok (some higher) ∧
            found.windows.idxOf higher ≤ found.windows.idxOf record := by
  intro near far game notes event inputs
  obtain ⟨-, hvalue, -, hsame, -, hset, hmore⟩ :=
    search_finds_first 5 ({} : Desktop) (fun event => event) inputs ["game"]
  refine ⟨_, rfl, ?_⟩
  generalize hwork : run (fun event => event) inputs (.unseen 5 { system := ({} : Desktop) }) = work
    at hvalue hsame hset hmore ⊢
  intro layout
  have hstays : layout.Stays (asked work ((findFullScreen ["game"]).exec work).2) := by
    subst hwork
    decide +kernel
  have hanew : layout.Stays (asked work ((findFullScreenAnew ["game"]).exec work).2) := by
    subst hwork
    decide +kernel
  have hwider : layout.Stays (asked work ((findFullScreen ["notepad", "game"]).exec work).2) := by
    subst hwork
    decide +kernel
  refine ⟨hstays, ?_, ?_, hvalue layout hstays (by decide), ?_, hsame layout hstays hanew,
    hset ["game", "game"] (by simp), ?_,
    hmore ["notepad", "game"] (by simp) layout hstays hwider⟩
  all_goals
    rw [← hwork]
    decide +kernel

end walks

end Workspace

end SoloScreen
