import SoloScreen.Proofs.Calls
import SoloScreen.Proofs.DesktopQueries

/-!
# A cache that keeps looking

A cache without any permitted staleness makes a new pass at every query. It stays so in every run in
which no process changes its program (`Service.run_attentive`), whatever fails meanwhile. On a
desktop that can be enumerated and on which no monitor is out of reach such a cache is sharp, and
then nothing that is done to it is cut short (`Workspace.worksConform_sharp`).
-/

namespace SoloScreen

open SoloScreen.Action

/-- No process runs another program than the image says. -/
def Desktop.Runs (image : ProcessId → String) (desktop : Desktop) : Prop :=
  ∀ process path, desktop.processes.find? process = some path → path = image process

/-- The image is about the processes alone. -/
theorem Desktop.Runs.of_eq {image : ProcessId → String} {D E : Desktop} (h : D.Runs image)
    (hprocesses : E.processes = D.processes) : E.Runs image := by
  unfold Desktop.Runs
  rwa [hprocesses]

section addProcess

variable {image : ProcessId → String} {D : Desktop}

/-- A process that starts the program of the image again changes no known path. -/
theorem Desktop.Runs.find?_insert (h : D.Runs image) (process : ProcessId) {other : ProcessId}
    {path : String} (hpath : D.processes.find? other = some path) :
    (D.processes.insert process (image process)).find? other = some path := by
  rw [Table.find?_insert]
  split
  · rename_i heq
    rw [h other path hpath, heq]
  · exact hpath

/-- A process that is started does not take away the name of another, nor its own. -/
theorem Desktop.Runs.processName?_addProcess (h : D.Runs image) (process : ProcessId)
    {other : ProcessId} {name : String} (hname : D.processName? other = some name) :
    ((Event.addProcess process (image process)).apply D).processName? other = some name := by
  rcases hpath : D.processes.find? other with _ | path
  · simp [Desktop.processName?, hpath] at hname
  · have hpath' : ((Event.addProcess process (image process)).apply D).processes.find? other =
        some path := h.find?_insert process hpath
    rwa [Desktop.processName?_of_find? hpath', ← Desktop.processName?_of_find? hpath]

/-- The image goes on to hold when a process starts the program that the image says. -/
theorem Desktop.Runs.addProcess (h : D.Runs image) (process : ProcessId) :
    ((Event.addProcess process (image process)).apply D).Runs image := by
  intro other path hpath
  replace hpath : (D.processes.insert process (image process)).find? other = some path := hpath
  rw [Table.find?_insert] at hpath
  split at hpath
  · rename_i heq
    rw [← Option.some.inj hpath, heq]
  · exact h other path hpath

end addProcess

/-- No native call changes anything of a window but how it is shown. -/
theorem Desktop.callsConform_reshown : CallsConform Desktop.Reshown Desktop.Reshown where
  path := IsPath.toSelf ⟨Desktop.Reshown.refl, Desktop.Reshown.trans⟩
  call call desktop := .of_exec_snd (desktop.answer_reshown call)
  readClock _ := ⟨⟨rfl, rfl, rfl, rfl, rfl, rfl, rfl, rfl⟩, rfl⟩
  settled := id

namespace Workspace

/-! ## Passes at every query -/

/-- The cache makes a new pass at every query, and what it knows of processes is true. -/
structure Attentive (work : Workspace Desktop) : Prop where
  /-- A snapshot is too old as soon as any time has passed. -/
  staleness : work.cache.staleness = 0
  /-- The last pass was over before now. -/
  past : ∀ refreshed, work.cache.lastRefresh = some refreshed → refreshed < work.system.time
  /-- The names in the cache are those of the desktop. -/
  names : work.KnowsNames

/-- On a desktop that can be enumerated and on which every window has a monitor, a cache that keeps
looking is sharp. -/
theorem Attentive.sharp {work : Workspace Desktop} (h : Attentive work)
    (henumerates : work.system.enumerationFails = false) (hfits : work.system.Fits) : Sharp work :=
  ⟨h.staleness, h.past, h.names, henumerates, hfits⟩

/-- Time goes on, the processes are the same, and the cache keeps looking. -/
structure Attends (work work' : Workspace Desktop) : Prop where
  /-- No process was started. -/
  processes : work'.system.processes = work.system.processes
  /-- The clock did not go back. -/
  time : work.system.time ≤ work'.system.time
  /-- If the cache kept looking it still does. -/
  attentive : Attentive work → Attentive work'

/-- Going on to look, twice. -/
theorem Attends.isPath : IsPath Attends where
  refl _ := ⟨rfl, Nat.le_refl _, id⟩
  trans h₁ h₂ := ⟨h₂.processes.trans h₁.processes, Nat.le_trans h₁.time h₂.time,
    h₂.attentive ∘ h₁.attentive⟩

/-- The cache stays as it is. -/
theorem Attends.of_cache {work work' : Workspace Desktop} (hcache : work'.cache = work.cache)
    (hprocesses : work'.system.processes = work.system.processes)
    (htime : work.system.time ≤ work'.system.time) : Attends work work' where
  processes := hprocesses
  time := htime
  attentive h := by
    refine ⟨hcache ▸ h.staleness, fun refreshed hrefreshed => ?_, fun process name hname => ?_⟩
    · exact Nat.lt_of_lt_of_le (h.past refreshed (hcache ▸ hrefreshed)) htime
    · unfold Desktop.processName?
      rw [hprocesses]
      exact h.names process name (hcache ▸ hname)

/-- A native call takes no time and leaves the processes alone. -/
theorem call_attends (call : NativeCall) :
    Follows Attends (WindowSystem.call call : Action (Workspace Desktop) _) :=
  fun work => .of_exec_snd (.of_cache rfl (work.system.answer_framed call).processes
    (Nat.le_of_eq (work.system.time_answer call).symm))

/-- Each reading of the clock takes time. -/
theorem readClock_attends :
    Follows Attends (WindowSystem.readClock : Action (Workspace Desktop) Nat) :=
  fun _ => .of_exec_snd (.of_cache rfl rfl (Nat.le_succ _))

/-- What is learned during a query keeps the cache looking. -/
theorem Learns.attends {work work' : Workspace Desktop} (h : Learns work work') :
    Attends work work' where
  processes := h.alike.processes
  time := Nat.le_of_eq h.time.symm
  attentive hwork := ⟨h.staleness.trans hwork.staleness,
    fun refreshed hrefreshed => h.time ▸ hwork.past refreshed (h.lastRefresh ▸ hrefreshed),
    h.names hwork.names⟩

/-- The question for a process's name keeps the cache looking: what it remembers is true. -/
theorem processName?_attends (process : ProcessId) :
    Follows Attends (processName? process : Action (Workspace Desktop) _) :=
  fun work =>
    (processName?_ensures process work).mono (fun _ _ h => h.2.attends) fun _ => False.elim

/-- A pass is over before the clock is read again. -/
theorem refresh_attends : Follows Attends (refresh : Action (Workspace Desktop) Unit) := by
  have hpath := Attends.isPath
  unfold refresh
  intro work
  rw [ensures_bind]
  refine (call_attends .enumerate work).mono (fun handles work₁ hwork₁ => ?_) fun _ h => h
  rcases handles with failure | handles
  · exact hwork₁
  dsimp only
  rw [ensures_bind, ensures_of_ok (readClock_exec work₁), ensures_bind]
  have hcollect : Follows Attends (Action.collect (record? work₁.system.time) handles) :=
    Conforms.collect hpath.toSelf handles (record?_conforms hpath.toSelf
      (fun call _ => call_attends call) processName?_attends work₁.system.time)
  have hwork₁ : Attends work work₁.clocked :=
    hpath.trans hwork₁ (.of_cache rfl rfl (Nat.le_succ _))
  refine (hcollect work₁.clocked).mono (fun windows work₂ hwork₂ => ?_)
    fun _ h => hpath.trans hwork₁ h
  rw [modifyCache, ensures_modify]
  have hwork := hpath.trans hwork₁ hwork₂
  refine ⟨hwork.processes, hwork.time, fun h => ?_⟩
  have h := hwork.attentive h
  refine ⟨h.staleness, fun refreshed hrefreshed => ?_, fun process name hname => ?_⟩
  · obtain rfl := Option.some.inj hrefreshed
    exact hwork₂.time
  · exact h.names process name (SnapshotCache.find?_of_install hname)

/-- All that is done to a workspace keeps the cache looking. -/
theorem worksConform_attends : WorkConform Attends Attends where
  path := Attends.isPath.toSelf
  call call _ := call_attends call
  readClock := readClock_attends
  name := processName?_attends
  refresh := refresh_attends
  request window command := call_attends (.setState window command)
  clock _ _ := .of_cache rfl rfl (Nat.le_refl _)
  settled := id

/-! ## Sharp caches -/

/-- A native call is never cut short while every window has a monitor, and it leaves the cache
sharp: it changes no more of a window than how it is shown. -/
theorem call_sharp (call : NativeCall) {work : Workspace Desktop} (h : Sharp work) :
    (WindowSystem.call call : Action (Workspace Desktop) _).Ensures work (fun _ => Sharp)
      fun _ => False := by
  have hreshown := work.system.answer_reshown call
  have hsharp : Sharp { work with system := (work.system.answer call).2 } :=
    h.system hreshown.processes hreshown.enumerationFails
      (Nat.le_of_eq (work.system.time_answer call).symm) (hreshown.fits h.fits)
  obtain ⟨answer, hanswer⟩ := h.fits.answer_isOk call
  have hexec : (WindowSystem.call call : Action (Workspace Desktop) _).exec work =
      ((work.system.answer call).1, { work with system := (work.system.answer call).2 }) := rfl
  rw [hanswer] at hexec
  exact (ensures_of_ok hexec).mpr hsharp

/-- Nothing that is done to a sharp cache is cut short, and it stays sharp. -/
theorem worksConform_sharp :
    WorkConform (fun work work' => Sharp work → Sharp work') fun work _ => ¬ Sharp work where
  path := .keeps Sharp
  call call _ := .of_ensures fun _ => call_sharp call
  readClock := .of_ensures fun _ h => h.system rfl rfl (Nat.le_succ _) h.fits
  name process := .of_ensures fun work h => (processName?_ensures process work).mono
    (fun _ _ hlearns => h.learns hlearns.2) fun _ => id
  refresh := .of_ensures fun _ h => (refresh_ensures h).mono (fun _ _ h' => h'.1.sharp) fun _ => id
  request window command := .of_ensures fun _ => call_sharp (.setState window command)
  clock _ _ h := ⟨h.staleness, h.past, h.names, h.enumerates, h.fits⟩
  settled h h' := absurd h' h

/-- What happens outside keeps the cache looking, unless a process changes its program. -/
theorem Attentive.apply {image : ProcessId → String} {work : Workspace Desktop} (h : Attentive work)
    (hruns : work.system.Runs image) {event : Desktop.Event}
    (hevent : ∀ process path, event = .addProcess process path → path = image process) :
    Attentive { work with system := event.apply work.system } ∧
      (event.apply work.system).Runs image := by
  have hsame : ∀ desktop : Desktop, desktop.processes = work.system.processes →
      work.system.time ≤ desktop.time →
        Attentive { work with system := desktop } ∧ desktop.Runs image := by
    intro desktop hprocesses htime
    have hattends : Attends work { work with system := desktop } := .of_cache rfl hprocesses htime
    exact ⟨hattends.attentive h, hruns.of_eq hprocesses⟩
  cases event with
  | addProcess process path =>
    obtain rfl := hevent process path rfl
    exact ⟨⟨h.staleness, h.past, fun other name hname =>
      hruns.processName?_addProcess process (h.names other name hname)⟩, hruns.addProcess process⟩
  | wait time => exact hsame _ rfl (Nat.le_add_right _ _)
  | _ => exact hsame _ rfl (Nat.le_refl _)

end Workspace

/-! ## Runs -/

/-- The cache keeps looking in every run in which no process changes its program. -/
theorem Service.run_attentive {image : ProcessId → String} {inputs : List (Input Desktop.Event)}
    {p : Service × Workspace Desktop} (hp : p.2.Attentive) (hruns : p.2.system.Runs image)
    (hinputs : ∀ process path, .outside (.addProcess process path) ∈ inputs →
      path = image process) : (run Desktop.Event.apply inputs p).2.Attentive := by
  induction inputs generalizing p with
  | nil => exact hp
  | cons input rest ih =>
    rw [run_cons]
    have hrest : ∀ process path, .outside (.addProcess process path) ∈ rest →
        path = image process :=
      fun process path hmem => hinputs process path (List.mem_cons_of_mem _ hmem)
    cases input with
    | command command =>
      have hattends : p.2.Attends (command.act.exec p).2.2 :=
        (act_conforms Workspace.worksConform_attends command).exec_snd p
      exact ih (hattends.attentive hp) (hruns.of_eq hattends.processes) hrest
    | outside event =>
      have hevent : ∀ process path, event = .addProcess process path → path = image process :=
        fun process path heq => hinputs process path (heq ▸ List.mem_cons_self)
      obtain ⟨hattentive, hruns⟩ := hp.apply hruns hevent
      exact ih hattentive hruns hrest

end SoloScreen
