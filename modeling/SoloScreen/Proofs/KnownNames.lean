import SoloScreen.Proofs.Pass

/-!
# The names that a cache knows

A cache asks for the program of a process once and remembers its name, from a pass or from a
question about a single window. A completed pass forgets the processes without windows. So the names
agree with the snapshot, although they are not written together.

* `Workspace.Gathers`: until a pass is completed, known names stay, and only processes without one
  are asked for.
* `Workspace.Operation.opening_opened`: all that the beginning of an operation can do to the
  snapshot and the names.
* `Workspace.names_coherent`: in every state of every run the name in a record is the one known of
  its process; what is known after a completed pass are the processes of its records; and no process
  of the snapshot is asked for.

A pass that is cut short, or whose windows could not be listed, has gathered names and forgets none;
it installs nothing, so the names of the old snapshot are still known. This is why the two may be
written at different times and yet agree.
-/

namespace SoloScreen

open SoloScreen.Action

/-- The processes that own the windows of a snapshot. -/
def WindowSnapshot.owners (snapshot : WindowSnapshot) : List ProcessId :=
  snapshot.windows.map (·.process)

/-- The process whose program is asked for. -/
def Inquiry.program? : Inquiry → Option ProcessId
  | .call ⟨.imagePath process, _⟩ => some process
  | _ => none

/-- The processes whose programs are asked for. -/
def programs (inquiries : List Inquiry) : List ProcessId := inquiries.filterMap Inquiry.program?

namespace Workspace

variable {σ ε : Type}

/-! ## Gathering names -/

/-- Known names stay known, and the programs asked for are those of processes without a known name.
The snapshot stays. -/
structure Gathers (work work' : Workspace (Logged σ)) : Prop where
  /-- Whose programs were asked for had no known name. -/
  log : ∃ more, work'.log = work.log ++ more ∧
    ∀ process ∈ programs more, ∀ name, ¬ work.Knows process name
  /-- The snapshot is the same. -/
  snapshot : work'.cache.snapshot = work.cache.snapshot
  /-- Names that are known are still known, and are the same. -/
  names : ∀ process name, work.Knows process name → work'.Knows process name

/-- Gathering twice is gathering: a name that was known at first is known in between, so its process
is not asked for in the second stretch either. -/
theorem Gathers.isPath : IsPath (Gathers (σ := σ)) where
  refl work := ⟨⟨[], by simp, by simp [programs]⟩, rfl, fun _ _ h => h⟩
  trans := by
    intro work work' work'' h h'
    obtain ⟨more, hlog, hmore⟩ := h.log
    obtain ⟨more', hlog', hmore'⟩ := h'.log
    refine ⟨⟨more ++ more', by rw [hlog', hlog, List.append_assoc], ?_⟩,
      h'.snapshot.trans h.snapshot, fun process name hname => h'.names _ _ (h.names _ _ hname)⟩
    intro process hmem name hname
    rw [programs, List.filterMap_append] at hmem
    rcases List.mem_append.mp hmem with hmem | hmem
    · exact hmore process hmem name hname
    · exact hmore' process hmem name (h.names process name hname)

/-- One question gathers, if it is not for the program of a process with a known name. -/
theorem Asks.gathers {inquiry : Inquiry} {work work' : Workspace (Logged σ)}
    (h : Asks inquiry work work')
    (hinquiry : ∀ process ∈ inquiry.program?, ∀ name, ¬ work.Knows process name) :
    Gathers work work' where
  log := by
    refine ⟨[inquiry], h.log, fun process hmem => ?_⟩
    obtain ⟨asked, hasked, hprogram⟩ := List.mem_filterMap.mp hmem
    rw [List.mem_singleton.mp hasked] at hprogram
    exact hinquiry process hprogram
  snapshot := by rw [h.cache]
  names process name hname := by rwa [Knows, h.cache]

/-- To remember a name gathers, if none was known of the process. -/
theorem Gathers.remember {work : Workspace (Logged σ)} {process : ProcessId}
    (hprocess : ∀ name, ¬ work.Knows process name) (name : String) :
    Gathers work { work with cache := work.cache.remember process name } where
  log := ⟨[], (List.append_nil work.log).symm, by simp [programs]⟩
  snapshot := rfl
  names other known hknown := by
    have hother : ¬ process = other := fun h => hprocess known (h ▸ hknown)
    rw [Knows, SnapshotCache.find?_remember, if_neg hother]
    exact hknown

section gathering

variable [WindowSystem σ]

/-- Calls that do not ask for a program gather nothing and forget nothing. -/
theorem call_gathers {call : NativeCall} (hcall : ∀ process, call ≠ .imagePath process) :
    Follows Gathers (WindowSystem.call call : Action (Workspace (Logged σ)) _) := by
  intro work
  have hnone : ∀ answer, (Inquiry.call ⟨call, answer⟩).program? = none := by
    intro answer
    unfold Inquiry.program?
    split
    · rename_i process _ heq
      cases heq
      exact absurd rfl (hcall process)
    · rfl
  exact (call_asks call work).mono (fun _ _ h => h.gathers (by simp [hnone]))
    fun _ ⟨_, h⟩ => h.gathers (by simp [hnone])

/-- Nor does a reading of the clock. -/
theorem readClock_gathers :
    Follows Gathers (WindowSystem.readClock : Action (Workspace (Logged σ)) Nat) :=
  fun work => (readClock_asks work).mono (fun _ _ h => h.gathers (by simp [Inquiry.program?]))
    fun _ ⟨_, h⟩ => h.gathers (by simp [Inquiry.program?])

/-- Only if the name of a process is not known its program is asked for. -/
theorem processName?_gathers (process : ProcessId) :
    Follows Gathers (processName? process : Action (Workspace (Logged σ)) _) := by
  intro work
  unfold processName?
  rw [ensures_bind, ensures_get]
  rcases hknown : work.cache.processNames.find? process with _ | name
  · have hunknown : ∀ name, ¬ work.Knows process name := by
      intro name hname
      rw [Knows, hknown] at hname
      cases hname
    have hasked : ∀ {answer work'}, Asks (.call ⟨.imagePath process, answer⟩) work work' →
        Gathers work work' := by
      refine fun h => h.gathers fun other hother => ?_
      obtain rfl := Option.some.inj (Option.mem_def.mp hother)
      exact hunknown
    dsimp only
    rw [ensures_bind]
    refine (call_asks (.imagePath process) work).mono (fun path work' hpath => ?_)
      fun work' hcut => ?_
    · rcases path with failure | path
      · exact hasked hpath
      dsimp only
      generalize ProcessName.ofImagePath path = program
      by_cases hempty : program = ""
      · rw [if_pos hempty]
        exact hasked hpath
      · rw [if_neg hempty, ensures_bind, modifyCache, ensures_modify, ensures_pure]
        refine Gathers.isPath.trans (hasked hpath) (.remember (fun name hname => ?_) program)
        rw [Knows, hpath.cache] at hname
        exact hunknown name hname
    · obtain ⟨answer, hcall⟩ := hcut
      exact hasked hcall
  · exact Gathers.isPath.refl work

/-- Inspecting windows gathers the names of their processes. -/
theorem collect_gathers (capturedAt : Nat) (handles : List WindowHandle)
    (work : Workspace (Logged σ)) :
    (Action.collect (record? capturedAt) handles).Ensures work
      (fun records work' => Gathers work work' ∧
        ∀ record ∈ records, work'.Knows record.process record.processName) (Gathers work) := by
  have hrecord (window : WindowHandle) : Follows Gathers
      (record? capturedAt window : Action (Workspace (Logged σ)) _) :=
    record?_conforms Gathers.isPath.toSelf
      (fun call hinspects => call_gathers (by rintro process rfl; cases hinspects))
      processName?_gathers capturedAt window
  refine (Ensures.collect (l := []) (I := fun records _ work' => Gathers work work' ∧
    ∀ record ∈ records, work'.Knows record.process record.processName)
    (fun records window rest between _ h => ?_) ⟨Gathers.isPath.refl work, by simp⟩).mono
      (fun records _ h => by simpa using h) fun _ => id
  refine ((hrecord window between).and (record?_taken capturedAt window between)).mono
    (fun found after hafter => ⟨Gathers.isPath.trans h.1 hafter.1, fun record hmem => ?_⟩)
    fun _ hafter => Gathers.isPath.trans h.1 hafter.1
  rcases List.mem_append.mp hmem with hmem | hmem
  · exact hafter.1.names _ _ (h.2 record hmem)
  · exact (hafter.2 record (Option.mem_toList.mp hmem)).known

end gathering

/-! ## Passes -/

/-- What the beginning of an operation can do: it gathers names, and then it may complete a pass
whose records carry known names. -/
inductive Opened (work work' : Workspace (Logged σ)) : Prop
  /-- No pass was completed. -/
  | gathered : Gathers work work' → Opened work work'
  /-- Names were gathered, among them those of all records, and then the records were installed. -/
  | passed (between : Workspace (Logged σ)) (now : Nat) (windows : List WindowRecord) :
    Gathers work between →
      (∀ record ∈ windows, between.Knows record.process record.processName) →
        work' = { between with cache := between.cache.install now windows } → Opened work work'

/-- What was gathered before counts for the whole. -/
theorem Gathers.then_opened {work work' work'' : Workspace (Logged σ)} (h : Gathers work work')
    (h' : Opened work' work'') : Opened work work'' := by
  cases h' with
  | gathered hgathers => exact .gathered (Gathers.isPath.trans h hgathers)
  | passed between now windows hgathers hwindows hwork =>
    exact .passed between now windows (Gathers.isPath.trans h hgathers) hwindows hwork

/-- The name in each record of the snapshot is the one known of its process. -/
def Covered (work : Workspace σ) : Prop :=
  ∀ record ∈ work.cache.snapshot.windows, work.Knows record.process record.processName

/-- The processes whose names are known are those of the records. -/
def IsExact (work : Workspace σ) : Prop :=
  ∀ process, (∃ name, work.Knows process name) ↔ process ∈ work.cache.snapshot.owners

/-- A pass forgets the names of processes without records, and no others. -/
theorem knows_install_iff {now : Nat} {windows : List WindowRecord} {work : Workspace σ}
    {process : ProcessId} {name : String} :
    Knows { work with cache := work.cache.install now windows } process name ↔
      process ∈ windows.map (·.process) ∧ work.Knows process name := by
  unfold Knows SnapshotCache.install
  rw [Table.find?_restrict]
  by_cases hany : windows.any (·.process = process) = true
  · have hmem : process ∈ windows.map (·.process) := by simpa using hany
    simp [hany, hmem]
  · have hmem : process ∉ windows.map (·.process) := by simpa using hany
    simp [hany, hmem]

/-- Gathering leaves the records covered, for the snapshot is the same and the names stay. -/
theorem Gathers.covered {work work' : Workspace (Logged σ)} (h : Gathers work work')
    (hwork : work.Covered) : work'.Covered := by
  intro record hmem
  rw [h.snapshot] at hmem
  exact h.names _ _ (hwork record hmem)

/-- The beginning of an operation leaves the records covered, old ones or new ones. The pass forgets
only processes without records. -/
theorem Opened.covered {work work' : Workspace (Logged σ)} (h : Opened work work')
    (hwork : work.Covered) : work'.Covered := by
  cases h with
  | gathered hgathers => exact hgathers.covered hwork
  | passed between now windows hgathers hwindows hwork' =>
    subst hwork'
    intro record hmem
    exact knows_install_iff.mpr ⟨List.mem_map_of_mem hmem, hwindows record hmem⟩

/-- Where the generation goes up, the known names are exactly those of the records. -/
theorem Opened.isExact {work work' : Workspace (Logged σ)} (h : Opened work work')
    (hgeneration : work'.cache.snapshot.generation ≠ work.cache.snapshot.generation) :
    work'.IsExact := by
  cases h with
  | gathered hgathers => exact absurd (by rw [hgathers.snapshot]) hgeneration
  | passed between now windows hgathers hwindows hwork' =>
    subst hwork'
    intro process
    constructor
    · rintro ⟨name, hname⟩
      exact (knows_install_iff.mp hname).1
    · intro hmem
      obtain ⟨record, hrecord, rfl⟩ := List.mem_map.mp hmem
      exact ⟨record.processName, knows_install_iff.mpr ⟨hmem, hwindows record hrecord⟩⟩

/-- At the beginning only processes without a known name are asked for. -/
theorem Opened.log {work work' : Workspace (Logged σ)} (h : Opened work work') :
    ∃ more, work'.log = work.log ++ more ∧
      ∀ process ∈ programs more, ∀ name, ¬ work.Knows process name := by
  cases h with
  | gathered hgathers => exact hgathers.log
  | passed between now windows hgathers hwindows hwork' =>
    subst hwork'
    exact hgathers.log

/-- The names of the processes of a snapshot are known, so they are not asked for. -/
theorem Covered.not_mem_owners {work work' : Workspace (Logged σ)} (hwork : work.Covered)
    (hlog : ∃ more, work'.log = work.log ++ more ∧
      ∀ process ∈ programs more, ∀ name, ¬ work.Knows process name) {process : ProcessId}
    (hprocess : process ∈ programs (asked work work')) :
    process ∉ work.cache.snapshot.owners := by
  obtain ⟨more, hmore, hunknown⟩ := hlog
  rw [asked_eq hmore] at hprocess
  intro howner
  obtain ⟨record, hrecord, rfl⟩ := List.mem_map.mp howner
  exact hunknown record.process hprocess record.processName (hwork record hrecord)

/-! ## Operations -/

section operations

variable [WindowSystem σ]

/-- A pass gathers names while it inspects the windows, and installs them at its end. -/
theorem refresh_opened : Follows Opened (refresh : Action (Workspace (Logged σ)) Unit) := by
  intro work
  have hpath := Gathers.isPath (σ := σ)
  have henumerate :
      Follows Gathers (WindowSystem.call .enumerate : Action (Workspace (Logged σ)) _) :=
    call_gathers nofun
  unfold refresh
  rw [ensures_bind]
  refine (henumerate work).mono (fun answer listed hlisted => ?_) fun _ h => .gathered h
  rcases answer with failure | handles
  · exact .gathered hlisted
  dsimp only
  rw [ensures_bind]
  refine (readClock_gathers listed).mono (fun now timed htimed => ?_)
    fun _ h => .gathered (hpath.trans hlisted h)
  have hstart := hpath.trans hlisted htimed
  rw [ensures_bind]
  refine (collect_gathers now handles timed).mono (fun windows between h => ?_)
    fun _ h => .gathered (hpath.trans hstart h)
  rw [modifyCache, ensures_modify]
  exact .passed between now windows (hpath.trans hstart h.1) h.2 rfl

/-- A query of the snapshot does so if a pass is due. -/
theorem snapshot_opened :
    Follows Opened (snapshot : Action (Workspace (Logged σ)) WindowSnapshot) := by
  intro work
  unfold snapshot
  rw [ensures_bind]
  refine (isStale_conforms Gathers.isPath.toSelf readClock_gathers work).mono
    (fun stale timed htimed => ?_) fun _ h => .gathered h
  split
  · rw [ensures_bind]
    exact (refresh_opened timed).mono (fun _ _ h => htimed.then_opened h)
      fun _ h => htimed.then_opened h
  · exact .gathered htimed

/-- And so the beginning of any operation. -/
theorem Operation.opening_opened (op : Operation) (work : Workspace (Logged σ)) :
    Opened work (op.opening.exec work).2 := by
  unfold Operation.opening
  split
  · rw [exec_forget]
    exact snapshot_opened.exec_snd work
  · split
    · exact refresh_opened.exec_snd work
    · exact .gathered (Gathers.isPath.refl work)

/-- After its beginning an operation may still learn a name. -/
theorem Operation.act_gathers {op : Operation} (hop : op ≠ .clear) (work : Workspace (Logged σ)) :
    Gathers (op.opening.exec work).2 (op.act.exec work).2 :=
  op.act_follows Gathers.isPath (fun _ => call_gathers nofun) (fun _ => call_gathers nofun)
    processName?_gathers hop work

/-- Every operation leaves the records covered. After clearing there are none. -/
theorem Operation.act_covered (op : Operation) {work : Workspace (Logged σ)}
    (hwork : work.Covered) : (op.act.exec work).2.Covered := by
  by_cases hop : op = .clear
  · subst hop
    intro record hmem
    cases hmem
  · exact (op.act_gathers hop work).covered ((op.opening_opened work).covered hwork)

/-- In every state of a run the records are covered. -/
theorem run_covered (staleness : Nat) (system : σ) (apply : ε → σ → σ) (inputs : List (Input ε)) :
    (run apply inputs (.unseen staleness { system })).Covered := by
  induction inputs using List.reverseRecOn with
  | nil =>
    intro record hmem
    cases hmem
  | append_singleton inputs input ih =>
    rw [run_concat]
    cases input with
    | outside event => exact ih
    | operation op => exact op.act_covered ih

/-- The names that a cache knows are coherent with its snapshot, whatever the window system answers
and wherever it cuts an operation short. In every state of every run the name in a record is the one
known of its process. Right after a completed pass the processes whose names are known are those of
the records. Records of one process carry the same name, and it is not empty. And an operation asks
for the program of no process of the snapshot: not until its pass is completed, for the snapshot
before it, nor from then on, for the snapshot of that pass, which stays. -/
theorem names_coherent (staleness : Nat) (system : σ) (apply : ε → σ → σ)
    (inputs : List (Input ε)) :
    let work := run apply inputs (.unseen staleness { system })
    (∀ record ∈ work.cache.snapshot.windows, work.Knows record.process record.processName) ∧
    (∀ op : Operation, (op.completedAt work).isSome → ∀ process,
      (∃ name, (op.opening.exec work).2.Knows process name) ↔
        process ∈ (op.opening.exec work).2.cache.snapshot.owners) ∧
    (∀ record ∈ work.cache.snapshot.windows, ∀ other ∈ work.cache.snapshot.windows,
      record.process = other.process →
        record.processName = other.processName ∧ record.processName ≠ "") ∧
    ∀ op : Operation, op ≠ .clear →
      (∀ process ∈ programs (asked work (op.opening.exec work).2),
        process ∉ work.cache.snapshot.owners) ∧
      (∀ process ∈ programs (asked (op.opening.exec work).2 (op.act.exec work).2),
        process ∉ (op.opening.exec work).2.cache.snapshot.owners) ∧
      (op.act.exec work).2.cache.snapshot = (op.opening.exec work).2.cache.snapshot := by
  intro work
  have hcovered : work.Covered := run_covered staleness system apply inputs
  have hnamed : work.Named := run_named staleness system apply inputs
  refine ⟨hcovered, fun op hcompleted => ?_, fun record hrecord other hother hprocess => ?_,
    fun op hop => ?_⟩
  · obtain ⟨now, hnow⟩ := Option.isSome_iff_exists.mp hcompleted
    obtain ⟨segment, htold⟩ := op.opening_told work
    refine (op.opening_opened work).isExact ?_
    have heffect := htold.effect
    rw [← asked_eq htold.log] at heffect
    rw [(heffect.renewed now hnow).1]
    exact Nat.succ_ne_self _
  · have hname := hcovered record hrecord
    refine ⟨?_, fun hempty => hnamed record.process ?_⟩
    · rw [hprocess, Knows, hcovered other hother] at hname
      exact (Option.some.inj hname).symm
    · rwa [Knows, hempty] at hname
  · have hopened := op.opening_opened work
    have hgathers := op.act_gathers hop work
    exact ⟨fun process => hcovered.not_mem_owners hopened.log,
      fun process => (hopened.covered hcovered).not_mem_owners hgathers.log, hgathers.snapshot⟩

/-- Process 200 runs another program by the second pass and keeps its name, process 300 has no
window any more and is forgotten, and the name of process 400 was known before its window was
recorded. The next pass asks for the program of the one process that is new. -/
theorem names_coherent_demo :
    let inputs : List (Input Desktop.Event) :=
      [.operation .snapshot, .outside (.addProcess 200 "C:\\Tools\\editor.exe"),
        .outside (.addProcess 400 "C:\\Games\\game.exe"),
        .outside (.openWindow (DesktopWindow.titled 400 "Game")), .operation (.ownerName ⟨0x1030⟩),
        .outside (.closeWindow ⟨0x1020⟩), .operation .refresh,
        .outside (.addProcess 500 "/usr/bin/mail"),
        .outside (.openWindow (DesktopWindow.titled 500 "Inbox"))]
    let work := run Desktop.Event.apply inputs (.unseen 5 { system := Desktop.demo })
    let passed := (Operation.refresh.opening.exec work).2
    work.cache.snapshot.windows.map (fun record => (record.process, record.processName)) =
      [(400, "game"), (200, "notepad")] ∧
    (∀ record ∈ work.cache.snapshot.windows, work.Knows record.process record.processName) ∧
    (Operation.refresh.completedAt work).isSome ∧
    ((∃ name, passed.Knows 300 name) ↔ 300 ∈ passed.cache.snapshot.owners) ∧
    500 ∈ programs (asked work passed) ∧ 500 ∉ work.cache.snapshot.owners := by
  intro inputs work passed
  have hcompleted : (Operation.refresh.completedAt work).isSome := by decide +kernel
  have hasked : 500 ∈ programs (asked work passed) := by decide +kernel
  obtain ⟨hcovered, hexact, -, hunasked⟩ := names_coherent 5 Desktop.demo Desktop.Event.apply inputs
  exact ⟨by decide +kernel, hcovered, hcompleted, hexact .refresh hcompleted 300, hasked,
    (hunasked .refresh (by decide)).1 500 hasked⟩

end operations

end Workspace

end SoloScreen
