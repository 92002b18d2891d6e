import SoloScreen.Detector
import SoloScreen.Minimizer
import SoloScreen.Proofs.Ensures

/-!
# Queries go along

What only asks the window system does not get further than its native calls do. If a relation holds
along every native call that is no change of state, it holds along the questions that are made of
such calls (`Native.isSystemWindow_conforms`, `Minimizer.isEligible_conforms`). If it holds besides
along a pass of the snapshot cache, it holds along every query of the cache
(`Workspace.QueriesConform`) and along a tick of the detector (`Detector.tick_conforms`), which only
asks.

The relation may be a frame (the windows stay as they are), a kept invariant, or a growing journal;
for what is cut short it may be another one.

What a query of the cache answers can be read off the snapshot that it leaves
(`Workspace.ReadsOff`).
-/

namespace SoloScreen

open SoloScreen.Action

/-- The call only asks; it does not request a change of state. -/
def NativeCall.isQuery : NativeCall → Bool
  | .setState _ _ => false
  | _ => true

/-- The call asks which monitor a window is on. No other call computes with coordinates. -/
def NativeCall.locates : NativeCall → Bool
  | .monitorOf _ => true
  | _ => false

/-- The call asks about one window, as a pass over the desktop does. -/
def NativeCall.inspects : NativeCall → Bool
  | .enumerate => false
  | .isWindow _ => false
  | .imagePath _ => false
  | .monitorInfo _ => false
  | .setState _ _ => false
  | .foreground => false
  | _ => true

/-- The questions that a pass asks about a window are queries: no pass changes how a window is
shown. -/
theorem NativeCall.isQuery_of_inspects {call : NativeCall} (h : call.inspects) : call.isQuery := by
  cases call with
  | setState => cases h
  | _ => rfl

variable {σ : Type} [WindowSystem σ]

/-! ## Questions about one window -/

section native

variable {R C : σ → σ → Prop}

/-- The question whether a window belongs to the system asks for its class, its title and its tool
flag, so it goes along what these three calls go along. None of them computes with coordinates,
hence nothing is asked of the call that does. -/
theorem Native.isSystemWindow_conforms (hR : IsPathTo R C)
    (hcall : ∀ call : NativeCall, call.inspects → call.locates = false →
      Conforms R C (WindowSystem.call call : Action σ _))
    (window : WindowHandle) : Conforms R C (isSystemWindow window : Fallible σ Bool).run := by
  unfold isSystemWindow
  refine .run_bind hR (hcall (.windowClass window) rfl rfl) fun className => ?_
  split
  · exact .pure hR _
  refine .run_bind hR (hcall (.title window) rfl rfl) fun title => ?_
  split
  · exact .pure hR _
  · exact hcall (.toolWindow window) rfl rfl

/-- The look at a window before it is minimized goes along what the queries go along that do not ask
for its monitor. -/
theorem Minimizer.isEligible_conforms (hR : IsPathTo R C)
    (hcall : ∀ call : NativeCall, call.isQuery → call.locates = false →
      Conforms R C (WindowSystem.call call : Action σ _))
    (window : WindowHandle) : Conforms R C (isEligible window : Action σ Bool) := by
  unfold isEligible
  refine .bind hR (hcall (.visible window) rfl rfl) fun visible => ?_
  split
  · refine .bind hR (Native.isSystemWindow_conforms hR (fun call hinspects hlocates =>
      hcall call (NativeCall.isQuery_of_inspects hinspects) hlocates) window) fun system => ?_
    split
    · refine .bind hR (hcall (.placement window) rfl rfl) fun placement => ?_
      split <;> exact .pure hR _
    · exact .pure hR _
  · exact .pure hR _

/-- A request goes along what its one call goes along; whether it is confirmed does not matter
here. -/
theorem Minimizer.request_conforms (hR : IsPathTo R C) {window : WindowHandle}
    {command : WindowCommand}
    (hcall : Conforms R C (WindowSystem.call (.setState window command) : Action σ _)) :
    Conforms R C (request window command : Action σ Bool) := by
  unfold request
  refine .bind hR hcall fun answer => ?_
  split <;> exact .pure hR _

end native

/-- Bringing a window back asks whether it exists and is visible, and then requests it. The request
is a hypothesis of its own because most relations hold along queries for a reason that does not
extend to requests. -/
theorem Minimizer.unhide_conforms {R C : Minimizer × Workspace σ → Minimizer × Workspace σ → Prop}
    (hR : IsPathTo R C)
    (hcall : ∀ call : NativeCall, call.isQuery → call.locates = false →
      Conforms R C (WindowSystem.call call : Action (Minimizer × Workspace σ) _))
    {window : WindowHandle}
    (hrestore : Conforms R C
      (WindowSystem.call (.setState window .restore) : Action (Minimizer × Workspace σ) _)) :
    Conforms R C (unhide window) := by
  unfold unhide
  refine .bind hR (hcall (.isWindow window) rfl rfl) fun isWindow => ?_
  split
  · refine .bind hR (hcall (.visible window) rfl rfl) fun visible => ?_
    split
    · exact request_conforms hR hrestore
    · exact .pure hR _
  · exact .pure hR _

/-! ## Queries of the cache -/

namespace Workspace

/-- The relation holds along everything a query of the cache is made of. -/
structure QueriesConform (R C : Workspace σ → Workspace σ → Prop) : Prop where
  /-- Steps along the relation can be put together. -/
  path : IsPathTo R C
  /-- It holds along each call that only asks. -/
  call : ∀ call : NativeCall, call.isQuery →
    Conforms R C (WindowSystem.call call : Action (Workspace σ) _)
  /-- It holds along the reading of the clock. -/
  readClock : Conforms R C (WindowSystem.readClock : Action (Workspace σ) Nat)
  /-- It holds along the question for a process's name, which may write to the cache. -/
  name : ∀ process, Conforms R C (processName? process : Action (Workspace σ) _)
  /-- It holds along a pass, which replaces the snapshot. -/
  refresh : Conforms R C (refresh : Action (Workspace σ) Unit)

variable {R C : Workspace σ → Workspace σ → Prop}

/-- The question for a process's name looks into the cache, asks for the path of the program if it
has to, and remembers a name that is not empty. -/
theorem processName?_conforms (hR : IsPathTo R C)
    (hcall : ∀ process, Conforms R C (WindowSystem.call (.imagePath process) :
      Action (Workspace σ) _))
    (hremember : ∀ process path, ProcessName.ofImagePath path ≠ "" →
      Conforms R C (modifyCache (·.remember process (ProcessName.ofImagePath path))))
    (process : ProcessId) : Conforms R C (processName? process : Action (Workspace σ) _) := by
  unfold processName?
  refine .bind hR (fun work => hR.refl work) fun work => ?_
  split
  · exact .pure hR _
  refine .bind hR (hcall process) fun path => ?_
  split
  · exact .pure hR _
  split
  · exact .pure hR _
  · rename_i hname
    exact .bind hR (hremember _ _ hname) fun _ => .pure hR _

/-- The record of a window is made of questions about the window and of its process's name. -/
theorem record?_conforms (hR : IsPathTo R C)
    (hcall : ∀ call : NativeCall, call.inspects →
      Conforms R C (WindowSystem.call call : Action (Workspace σ) _))
    (hname : ∀ process, Conforms R C (processName? process : Action (Workspace σ) _))
    (capturedAt : Nat) (window : WindowHandle) :
    Conforms R C (record? capturedAt window : Action (Workspace σ) _) := by
  have hinspect : Conforms R C (inspect capturedAt window : Fallible (Workspace σ) _).run := by
    unfold inspect
    refine .run_bind hR (.run_lift (hcall (.visible window) rfl)) fun visible => ?_
    split
    · refine .run_bind hR (Native.isSystemWindow_conforms hR (fun call hinspects _ =>
        hcall call hinspects) window) fun system => ?_
      split
      · exact .pure hR _
      refine .run_bind hR (hcall (.process window) rfl) fun process => ?_
      refine .run_bind hR (.run_lift (hname process)) fun name => ?_
      split
      · exact .pure hR _
      refine .run_bind hR (hcall (.placement window) rfl) fun state => ?_
      refine .run_bind hR (hcall (.bounds window) rfl) fun bounds => ?_
      refine .run_bind hR (hcall (.monitorOf window) rfl) fun monitor => ?_
      exact .run_bind hR (hcall (.title window) rfl) fun title => .pure hR _
    · exact .pure hR _
  unfold record?
  refine .bind hR hinspect fun record => ?_
  split <;> exact .pure hR _

/-! ## Records -/

/-- The name of a process is known. -/
def Knows {τ : Type} (work : Workspace τ) (process : ProcessId) (name : String) : Prop :=
  work.cache.processNames.find? process = some name

/-- What every record of a pass is like: it is of an ordinary visible window. -/
structure IsOrdinary (capturedAt : Nat) (record : WindowRecord) : Prop where
  /-- It was taken in the pass with this time. -/
  capturedAt : record.capturedAt = capturedAt
  /-- The window was visible. -/
  visible : record.visible = true
  /-- It was no system window. -/
  system : record.system = false

/-- What the record of a window is like: it is ordinary, and the name in it is known. -/
structure IsTaken {τ : Type} (capturedAt : Nat) (window : WindowHandle) (work : Workspace τ)
    (record : WindowRecord) : Prop extends IsOrdinary capturedAt record where
  /-- It is the record of this window. -/
  handle : record.handle = window
  /-- The name in the record is the one known for its process. -/
  known : work.Knows record.process record.processName

omit [WindowSystem σ] in
/-- A name that has just been remembered is known. -/
theorem knows_remember (process : ProcessId) (name : String) (work : Workspace σ) :
    Knows { work with cache := work.cache.remember process name } process name := by
  rw [Knows, SnapshotCache.find?_remember, if_pos rfl]

/-- Native calls leave the cache alone. -/
theorem call_sameCache (call : NativeCall) :
    Follows (fun work work' => work'.cache = work.cache)
      (WindowSystem.call call : Action (Workspace σ) _) :=
  fun _ => .of_exec_snd rfl

/-- A name that was answered is known. -/
theorem processName?_knows (process : ProcessId) (work : Workspace σ) :
    (processName? process).Ensures work
      (fun found work' => ∀ name ∈ found, work'.Knows process name) fun _ => True := by
  unfold processName?
  rw [ensures_bind, ensures_get]
  rcases hknown : work.cache.processNames.find? process with _ | name
  · dsimp only
    rw [ensures_bind]
    refine .of_forall (fun path work' => ?_) fun _ => trivial
    rcases path with failure | path
    · simp
    dsimp only
    generalize ProcessName.ofImagePath path = program
    by_cases hempty : program = ""
    · rw [if_pos hempty]
      simp
    · rw [if_neg hempty, ensures_bind, modifyCache, ensures_modify, ensures_pure]
      rintro name hname
      obtain rfl := Option.some.inj (Option.mem_def.mp hname)
      exact knows_remember process _ work'
  · rintro other hother
    obtain rfl := Option.some.inj (Option.mem_def.mp hother)
    exact hknown

/-- A record that comes out of an inspection is of the inspected window, and the cache knows the
name in it: the name was known or has just been remembered, and the later questions leave the cache
alone. -/
theorem record?_taken (capturedAt : Nat) (window : WindowHandle) (work : Workspace σ) :
    (record? capturedAt window).Ensures work
      (fun found work' => ∀ record ∈ found, IsTaken capturedAt window work' record)
      fun _ => True := by
  have hinspect : (inspect capturedAt window : Fallible (Workspace σ) _).run.Ensures work
      (fun r work' => ∀ record, r = .ok (some record) → IsTaken capturedAt window work' record)
      fun _ => True := by
    unfold inspect
    rw [ensures_run_lift_bind]
    refine .of_forall (fun visible work => ?_) fun _ => trivial
    split
    · rw [ensures_run_bind]
      refine .of_forall (fun system work => ?_) fun _ => trivial
      rcases system with _ | system
      · simp
      dsimp only
      split
      · simp
      rw [ensures_run_bind]
      refine .of_forall (fun process work => ?_) fun _ => trivial
      rcases process with _ | process
      · simp
      dsimp only
      rw [ensures_run_lift_bind]
      refine (processName?_knows process work).mono (fun found work hknown => ?_) fun _ => id
      rcases found with _ | name
      · simp
      dsimp only
      replace hknown : work.Knows process name := hknown name rfl
      -- the questions that are left do not touch the names
      iterate 4
        rw [ensures_run_bind]
        refine (call_sameCache _ work).mono (fun answer work hcache => ?_) fun _ _ => trivial
        replace hknown : work.Knows process name := by rwa [Knows, hcache]
        rcases answer with _ | answer
        · simp
        dsimp only
      rw [ensures_run_pure]
      rintro record h
      obtain rfl := Option.some.inj (Except.ok.inj h)
      exact ⟨⟨rfl, rfl, rfl⟩, rfl, hknown⟩
    · simp
  unfold record?
  rw [ensures_bind]
  refine hinspect.mono (fun r work h => ?_) fun _ => id
  rcases r with failure | record
  · simp
  · intro found hfound
    exact h found (by rw [Option.mem_def.mp hfound])

/-- All records collected in a pass are ordinary, and carry the time of the pass. -/
theorem collect_ordinary (capturedAt : Nat) (handles : List WindowHandle) (work : Workspace σ) :
    (Action.collect (record? capturedAt) handles).Ensures work
      (fun records _ => ∀ record ∈ records, IsOrdinary capturedAt record) fun _ => True := by
  refine (Ensures.collect (l := []) (I := fun built _ _ =>
    ∀ record ∈ built, IsOrdinary capturedAt record) (fun built window rest work _ h => ?_)
    (by simp)).mono (fun records _ h => by simpa using h) fun _ => id
  refine (record?_taken capturedAt window work).mono (fun r _ hr record hmem => ?_) fun _ => id
  rcases List.mem_append.mp hmem with hmem | hmem
  · exact h record hmem
  · exact (hr record (Option.mem_toList.mp hmem)).toIsOrdinary

/-! ## Passes and searches -/

/-- The search through the records asks for the geometry of monitors, and for nothing else. -/
theorem firstFullScreen_conforms (hR : IsPathTo R C)
    (hcall : ∀ monitor, Conforms R C (WindowSystem.call (.monitorInfo monitor) :
      Action (Workspace σ) _))
    (targets : List String) (known : Table MonitorHandle (Option MonitorInfo))
    (records : List WindowRecord) :
    Conforms R C (firstFullScreen targets known records : Action (Workspace σ) _) := by
  -- induction on the records; the monitors asked so far vary, since each search step may add one
  induction records generalizing known with
  | nil => exact .pure hR _
  | cons record rest ih =>
    unfold firstFullScreen
    split
    · have honce : Conforms R C (monitorOnce known record.monitor : Action (Workspace σ) _) := by
        unfold monitorOnce
        split
        · exact .pure hR _
        refine .bind hR (hcall record.monitor) fun info => ?_
        split <;> exact .pure hR _
      refine .bind hR honce fun asked => ?_
      dsimp only
      split
      · exact .pure hR _
      · exact ih _
    · exact ih known

/-- Looking whether a pass is due takes no more than the clock. -/
theorem isStale_conforms (hR : IsPathTo R C)
    (hclock : Conforms R C (WindowSystem.readClock : Action (Workspace σ) Nat)) :
    Conforms R C (isStale : Action (Workspace σ) Bool) := by
  unfold isStale
  refine .bind hR (fun work => hR.refl work) fun work => ?_
  split
  · exact .pure hR _
  refine .bind hR hclock fun now => ?_
  exact .bind hR (fun work => hR.refl work) fun work => .pure hR _

/-- A relation that holds along the parts of a pass holds along the pass. -/
theorem refresh_conforms (hR : IsPathTo R C)
    (henumerate : Conforms R C (WindowSystem.call .enumerate : Action (Workspace σ) _))
    (hcall : ∀ call : NativeCall, call.inspects →
      Conforms R C (WindowSystem.call call : Action (Workspace σ) _))
    (hclock : Conforms R C (WindowSystem.readClock : Action (Workspace σ) Nat))
    (hname : ∀ process, Conforms R C (processName? process : Action (Workspace σ) _))
    (hinstall : ∀ capturedAt windows, (∀ record ∈ windows, IsOrdinary capturedAt record) →
      Conforms R C (modifyCache (·.install capturedAt windows))) :
    Conforms R C (refresh : Action (Workspace σ) Unit) := by
  unfold refresh
  refine .bind hR henumerate fun handles => ?_
  split
  · exact .pure hR _
  rename_i handles
  refine .bind hR hclock fun capturedAt work => ?_
  have hcollect := Conforms.collect hR handles (record?_conforms hR hcall hname capturedAt)
  rw [ensures_bind]
  refine ((collect_ordinary capturedAt handles work).and (hcollect work)).mono
    (fun windows between h => ?_) fun _ h => h.2
  exact (hinstall capturedAt windows h.1 between).mono (fun _ _ => hR.trans h.2)
    fun _ => hR.cut h.2

/-- Reading the snapshot takes no more than the clock and a pass. -/
theorem snapshot_conforms (hR : IsPathTo R C)
    (hclock : Conforms R C (WindowSystem.readClock : Action (Workspace σ) Nat))
    (hrefresh : Conforms R C (refresh : Action (Workspace σ) Unit)) :
    Conforms R C (snapshot : Action (Workspace σ) WindowSnapshot) := by
  have hread : Conforms R C (do pure (← get).cache.snapshot : Action (Workspace σ) _) :=
    .bind hR (fun work => hR.refl work) fun work => .pure hR _
  unfold snapshot
  refine .bind hR (isStale_conforms hR hclock) fun stale => ?_
  split
  · exact .bind hR hrefresh fun _ => hread
  · exact hread

/-- A relation that does not look at the cache holds along a pass if it holds along native calls. -/
theorem QueriesConform.of_calls (hR : IsPathTo R C)
    (hcall : ∀ call : NativeCall, call.isQuery →
      Conforms R C (WindowSystem.call call : Action (Workspace σ) _))
    (hclock : Conforms R C (WindowSystem.readClock : Action (Workspace σ) Nat))
    (hcache : ∀ f, Conforms R C (modifyCache f)) : QueriesConform R C := by
  have hname (process : ProcessId) : Conforms R C (processName? process : Action (Workspace σ) _) :=
    processName?_conforms hR (fun process => hcall (.imagePath process) rfl)
      (fun _ _ _ => hcache _) process
  exact ⟨hR, hcall, hclock, hname, refresh_conforms hR (hcall .enumerate rfl)
    (fun call hinspects => hcall call (NativeCall.isQuery_of_inspects hinspects)) hclock hname
    fun _ _ _ => hcache _⟩

/-- What holds along queries implies every coarser relation that is a path itself. -/
theorem QueriesConform.mono {R' C' : Workspace σ → Workspace σ → Prop} (h : QueriesConform R C)
    (hpath : IsPathTo R' C') (hR : ∀ {work work'}, R work work' → R' work work')
    (hC : ∀ {work work'}, C work work' → C' work work') : QueriesConform R' C' where
  path := hpath
  call call hquery work := (h.call call hquery work).mono (fun _ _ => hR) fun _ => hC
  readClock work := (h.readClock work).mono (fun _ _ => hR) fun _ => hC
  name process work := (h.name process work).mono (fun _ _ => hR) fun _ => hC
  refresh work := (h.refresh work).mono (fun _ _ => hR) fun _ => hC

/-- Nothing is said. -/
theorem queriesConform_true :
    QueriesConform (σ := σ) (fun _ _ => True) fun _ _ => True :=
  .of_calls ⟨⟨fun _ => trivial, fun _ _ => trivial⟩, fun _ _ => trivial⟩
    (fun _ _ _ => .of_forall (fun _ _ => trivial) fun _ => trivial)
    (fun _ => .of_forall (fun _ _ => trivial) fun _ => trivial)
    fun _ _ => .of_forall (fun _ _ => trivial) fun _ => trivial

/-- A query answers what can be read off the snapshot that it leaves. -/
structure ReadsOff {σ α : Type} (query : Action (Workspace σ) α) (answer : WindowSnapshot → α) :
    Prop where
  /-- The value is the answer to the snapshot that the cache holds afterwards. -/
  ensures : ∀ work,
    query.Ensures work (fun value work' => value = answer work'.cache.snapshot) fun _ => True

/-- The snapshot that is answered is the one that is left in the cache. -/
theorem snapshot_readsOff : ReadsOff (σ := σ) snapshot id := by
  refine ⟨fun work => ?_⟩
  unfold snapshot
  rw [ensures_bind]
  refine .of_forall (fun stale work => ?_) fun _ => trivial
  split
  · simp only [ensures_bind, ensures_get, ensures_pure]
    exact .of_forall (fun _ _ => rfl) fun _ => trivial
  · simp only [ensures_bind, ensures_get, ensures_pure]
    rfl

omit [WindowSystem σ] in
/-- What is computed from an answer can be read off as well. -/
theorem ReadsOff.map {α β : Type} {query : Action (Workspace σ) α} {answer : WindowSnapshot → α}
    (h : ReadsOff query answer) (f : α → β) :
    ReadsOff (do pure (f (← query))) fun snapshot => f (answer snapshot) := by
  refine ⟨fun work => ?_⟩
  simp only [ensures_bind, ensures_pure]
  exact (h.ensures work).mono (fun _ _ hvalue => by rw [hvalue]) fun _ => id

/-- The windows that are answered are those of the snapshot. -/
theorem windows_readsOff : ReadsOff (σ := σ) windows (·.windows) := snapshot_readsOff.map _

/-- The windows on a monitor are those that the snapshot records there. -/
theorem windowsOn_readsOff (monitor : MonitorHandle) (exclude : Option WindowHandle) :
    ReadsOff (σ := σ) (windowsOn monitor exclude) fun snapshot => snapshot.windows.filter
      fun record => record.monitor = monitor ∧ some record.handle ≠ exclude :=
  windows_readsOff.map _

variable (h : QueriesConform R C)
include h

/-- The relation holds along the reading of the snapshot. -/
theorem QueriesConform.snapshot :
    Conforms R C (snapshot : Action (Workspace σ) WindowSnapshot) :=
  snapshot_conforms h.path h.readClock h.refresh

/-- It holds along the question for all windows. -/
theorem QueriesConform.windows :
    Conforms R C (windows : Action (Workspace σ) (List WindowRecord)) :=
  .bind h.path h.snapshot fun _ => .pure h.path _

/-- It holds along the question for the windows on a monitor. -/
theorem QueriesConform.windowsOn (monitor : MonitorHandle) (exclude : Option WindowHandle) :
    Conforms R C (windowsOn monitor exclude : Action (Workspace σ) (List WindowRecord)) :=
  .bind h.path h.windows fun _ => .pure h.path _

/-- It holds along the question for the names of the processes. -/
theorem QueriesConform.processNames :
    Conforms R C (processNames : Action (Workspace σ) (List String)) :=
  .bind h.path h.snapshot fun _ => .pure h.path _

/-- It holds along the search for a full-screen window. -/
theorem QueriesConform.findFullScreen (targets : List String) :
    Conforms R C (findFullScreen targets : Action (Workspace σ) (Option WindowRecord)) := by
  unfold Workspace.findFullScreen
  split
  · exact .pure h.path _
  · exact .bind h.path h.windows fun records => firstFullScreen_conforms h.path
      (fun monitor => h.call (.monitorInfo monitor) rfl) targets [] records

/-- It holds along the question for the name of a window's owner, be the window in the snapshot or
not. -/
theorem QueriesConform.ownerName? (window : WindowHandle) :
    Conforms R C (ownerName? window : Action (Workspace σ) (Option String)) := by
  unfold Workspace.ownerName?
  refine .bind h.path h.snapshot fun snapshot => ?_
  split
  · exact .pure h.path _
  refine .bind h.path (h.call (.process window) rfl) fun process => ?_
  split
  · exact h.name _
  · exact .pure h.path _

end Workspace

/-! ## Ticks of the detector -/

namespace Detector

variable {R C : Workspace σ → Workspace σ → Prop} (h : Workspace.QueriesConform R C)
include h

/-- The look at the focus is made of queries and of writes to the detector, at which a relation
between workspaces does not look. -/
theorem checkFocus_conforms (targets : List String) :
    Conforms (fun p q : Detector × Workspace σ => R p.2 q.2) (fun p q => C p.2 q.2)
      (checkFocus targets).run := by
  have hpath := h.path.comap fun p : Detector × Workspace σ => p.2
  have hcall (call : NativeCall) (hquery : call.isQuery) :
      Conforms (fun p q : Detector × Workspace σ => R p.2 q.2) (fun p q => C p.2 q.2)
        (WindowSystem.call call) := .onSecond (h.call call hquery)
  -- the five ways out are those of the definition: no foreground window, the same one as before, no
  -- name, another process, no monitor
  unfold checkFocus
  refine .run_bind hpath (.run_lift (hcall .foreground rfl)) fun foreground => ?_
  split
  · exact .pure hpath _
  refine .run_bind hpath (.run_lift fun p => hpath.refl p) fun p => ?_
  split
  · exact .pure hpath _
  refine .run_bind hpath (.run_lift fun p => hpath.refl p) fun _ => ?_
  refine .run_bind hpath (.run_lift (.onSecond (h.ownerName? _))) fun owner => ?_
  split
  · exact .pure hpath _
  split
  · refine .run_bind hpath (.run_lift fun p => hpath.refl p) fun p => ?_
    split
    · exact .pure hpath _
    · exact .run_bind hpath (hcall (.title _) rfl) fun _ => .pure hpath _
  · exact .pure hpath _

/-- A tick only asks: it goes along every relation along which the queries go. What the minimizer
does is no part of it. -/
theorem tick_conforms :
    Conforms (fun p q : Detector × Workspace σ => R p.2 q.2) (fun p q => C p.2 q.2) tick := by
  have hpath := h.path.comap fun p : Detector × Workspace σ => p.2
  unfold tick
  refine .bind hpath (fun p => hpath.refl p) fun p => ?_
  dsimp only
  split
  · exact .pure hpath _
  refine .bind hpath (.onSecond (h.findFullScreen p.1.targets)) fun found => ?_
  refine .bind hpath (fun p => hpath.refl p) fun changes => ?_
  split
  · refine .bind hpath (checkFocus_conforms h p.1.targets) fun r => ?_
    split <;> exact .pure hpath _
  · exact .pure hpath _

end Detector

end SoloScreen
