import Mathlib.Data.Finset.Max
import SoloScreen.Proofs.KnownNames
import SoloScreen.Proofs.Naming

/-!
# Names that find their windows

The cache records the name of a program, and whoever asks for windows by a name has it normalized
once more. So the windows of a program are found by its name exactly if the name is its own normal
form, which it is unless it ends in the extension.

* `WindowSnapshot.mem_processNames`: the names listed are those of the records.
* `WindowSnapshot.windows_found_iff`: by the names listed, all windows are found if and only if none
  of the names ends in the extension. The windows of the longest name that does are not found by any
  of them.
* `Workspace.canonical_iff`: when a name, a list of settings and a listed name are canonical.
-/

namespace SoloScreen

open SoloScreen.Action

/-! ## Names listed -/

/-- The names are kept in order and without repetition, but which names are there does not depend on
either. -/
theorem mem_insertName {name other : String} {names : List String} :
    name ∈ insertName other names ↔ name = other ∨ name ∈ names := by
  induction names with
  | nil => simp [insertName]
  | cons first rest ih =>
    unfold insertName
    split
    · exact List.mem_cons
    · split
      · rename_i hsame
        simp [hsame]
      · rw [List.mem_cons, ih, List.mem_cons, or_left_comm]

namespace WindowSnapshot

variable {snapshot : WindowSnapshot}

/-- A name is listed if some record in the snapshot has it. -/
theorem mem_processNames {name : String} :
    name ∈ snapshot.processNames ↔ ∃ record ∈ snapshot.windows, record.processName = name := by
  unfold processNames
  induction snapshot.windows with
  | nil => simp
  | cons record rest ih =>
    rw [List.foldr_cons, mem_insertName, ih, List.exists_mem_cons_iff, eq_comm]

/-- The windows that a snapshot answers by a name. -/
def windowsOf (snapshot : WindowSnapshot) (name : String) : List WindowRecord :=
  if ProcessName.normalize name = "" then []
  else snapshot.windows.filter (·.processName = ProcessName.normalize name)

/-- All names in the snapshot are those of programs. -/
def IsNamed (snapshot : WindowSnapshot) : Prop :=
  ∀ record ∈ snapshot.windows, record.processName ≠ "" ∧
    ∃ path, ProcessName.ofImagePath path = record.processName

/-- To normalize a listed name is to drop its extension. -/
theorem IsNamed.toList_normalize (h : snapshot.IsNamed) {name : String}
    (hname : name ∈ snapshot.processNames) :
    (ProcessName.normalize name).toList = ProcessName.dropExtension name.toList := by
  obtain ⟨record, hrecord, rfl⟩ := mem_processNames.mp hname
  obtain ⟨-, path, hpath⟩ := h record hrecord
  rw [← hpath, ProcessName.toList_normalize_of_isSmall (ProcessName.ofImagePath_isSmall path),
    Text.trim_eq_self_iff.mpr (ProcessName.ofImagePath_isTrimmed path)]

/-- A listed name is its own normal form unless it ends in the extension. That it ends in a blank is
out of the question, as it is the name of a program. -/
theorem IsNamed.normalize_eq_iff (h : snapshot.IsNamed) {name : String}
    (hname : name ∈ snapshot.processNames) :
    ProcessName.normalize name = name ↔ ¬ ProcessName.HasExtension name.toList := by
  rw [← String.toList_inj, h.toList_normalize hname, ProcessName.dropExtension_eq_self_iff]

/-- The records found by a name that is listed are those of its normal form. -/
theorem IsNamed.mem_windowsOf (h : snapshot.IsNamed) {name : String} {record : WindowRecord}
    (hname : name ∈ snapshot.processNames) :
    record ∈ snapshot.windowsOf name ↔
      record ∈ snapshot.windows ∧ record.processName = ProcessName.normalize name := by
  have hne : ProcessName.normalize name ≠ "" := by
    obtain ⟨other, hother, rfl⟩ := mem_processNames.mp hname
    intro hempty
    have hnil := h.toList_normalize hname
    rw [hempty] at hnil
    refine (h other hother).1 (String.toList_eq_nil_iff.mp ?_)
    exact ProcessName.dropExtension_eq_nil_iff.mp hnil.symm
  unfold windowsOf
  rw [if_neg hne, List.mem_filter, decide_eq_true_eq]

/-- By the names listed all windows are found if and only if none of them ends in the extension. -/
theorem IsNamed.windows_found_iff (h : snapshot.IsNamed) :
    (∀ record ∈ snapshot.windows, ∃ name ∈ snapshot.processNames,
      record ∈ snapshot.windowsOf name) ↔
      ∀ name ∈ snapshot.processNames, ¬ ProcessName.HasExtension name.toList := by
  constructor
  · intro hfound name hname hext
    -- the longest name with the extension can only be found by a longer one
    obtain ⟨longest, hlongest, hmax⟩ := Finset.exists_max_image
      (snapshot.processNames.toFinset.filter fun name => ProcessName.HasExtension name.toList)
      (fun name => name.toList.length) ⟨name, by simp [hname, hext]⟩
    rw [Finset.mem_filter, List.mem_toFinset] at hlongest
    obtain ⟨record, hrecord, hlisted⟩ := mem_processNames.mp hlongest.1
    obtain ⟨finder, hfinder, hmem⟩ := hfound record hrecord
    have hnormal : ProcessName.dropExtension finder.toList = longest.toList := by
      rw [← h.toList_normalize hfinder, ← ((h.mem_windowsOf hfinder).mp hmem).2, hlisted]
    by_cases hfinds : ProcessName.HasExtension finder.toList
    · have hle := hmax finder (by simp [hfinder, hfinds])
      obtain ⟨rest, hrest, hfinderName⟩ := hfinds
      rw [hfinderName, ProcessName.dropExtension_append hrest] at hnormal
      rw [hfinderName, List.length_append, hnormal] at hle
      exact absurd hle (by simp [ProcessName.extension])
    · rw [ProcessName.dropExtension_of_not hfinds] at hnormal
      exact hfinds (hnormal ▸ hlongest.2)
  · intro hnone record hrecord
    have hname : record.processName ∈ snapshot.processNames :=
      mem_processNames.mpr ⟨record, hrecord, rfl⟩
    refine ⟨record.processName, hname, (h.mem_windowsOf hname).mpr ⟨hrecord, ?_⟩⟩
    exact ((h.normalize_eq_iff hname).mpr (hnone _ hname)).symm

/-- A listed name can be used as a target if and only if it does not end in the extension. -/
theorem IsNamed.normalTargets_iff (h : snapshot.IsNamed) {name : String}
    (hname : name ∈ snapshot.processNames) :
    Settings.normalTargets [name] = [name] ↔ ¬ ProcessName.HasExtension name.toList := by
  have hne : "" ∉ [name] := by
    obtain ⟨record, hrecord, rfl⟩ := mem_processNames.mp hname
    rw [List.mem_singleton]
    exact fun hempty => (h record hrecord).1 hempty.symm
  rw [Settings.normalTargets_eq_self_iff (List.nodup_singleton name) hne, List.forall_mem_singleton]
  exact h.normalize_eq_iff hname

end WindowSnapshot

namespace Workspace

variable {σ ε : Type} [WindowSystem σ]

/-- The query by a name makes the snapshot fresh if necessary and then answers from it alone. A name
that is empty in normal form is answered without a look at the cache. -/
theorem windowsOf_readsOff (name : String) :
    ReadsOff (σ := σ) (windowsOf name) (·.windowsOf name) := by
  unfold windowsOf WindowSnapshot.windowsOf
  -- the normal form of a name is not to be computed
  generalize ProcessName.normalize name = normal
  split
  · exact ⟨fun _ => rfl⟩
  · exact windows_readsOff.map _

/-- The same for the names listed. -/
theorem processNames_readsOff : ReadsOff (σ := σ) processNames (·.processNames) :=
  snapshot_readsOff.map _

/-- In every state of a run the names in the snapshot are those of programs. -/
theorem run_isNamed (staleness : Nat) (system : σ) (apply : ε → σ → σ) (inputs : List (Input ε)) :
    (run apply inputs (.unseen staleness { system })).cache.snapshot.IsNamed := by
  intro record hrecord
  have hknown := run_covered staleness system apply inputs record hrecord
  exact run_knowsOnly (fun name => name ≠ "" ∧ ∃ path, ProcessName.ofImagePath path = name)
    (fun path hpath => ⟨hpath, path, rfl⟩) staleness system apply inputs hknown

/-- When names are canonical. Normalizing a name twice does what normalizing it once does unless the
extension was dropped and what is left ends in a blank or in the extension. Normalizing the name of
a program does nothing unless it ends in the extension. Settings normalized twice are those
normalized once if this is so for each of their names.

Windows by a name and the names listed are answered from the snapshot that the query leaves. And in
every state of every run, by the names listed all windows of the snapshot are found if and only if
none of the names ends in the extension, and a listed name stays as it is among the targets of
settings if and only if it does not. -/
theorem canonical_iff (staleness : Nat) (system : σ) (apply : ε → σ → σ) (inputs : List (Input ε)) :
    let work := run apply inputs (.unseen staleness { system })
    let snapshot := work.cache.snapshot
    (∀ name, ProcessName.normalize (ProcessName.normalize name) = ProcessName.normalize name ↔
      ∀ rest, rest ≠ [] → Text.lower (Text.trim name.toList) = rest ++ ProcessName.extension →
        (∀ c ∈ rest.getLast?, Text.isBlank c = false) ∧ ¬ ProcessName.HasExtension rest) ∧
    (∀ path, ProcessName.normalize (ProcessName.ofImagePath path) = ProcessName.ofImagePath path ↔
      ¬ ProcessName.HasExtension (ProcessName.ofImagePath path).toList) ∧
    (∀ settings : Settings, settings.normalize.normalize = settings.normalize ↔
      ∀ name ∈ settings.targets,
        ProcessName.normalize (ProcessName.normalize name) = ProcessName.normalize name) ∧
    ((∀ name, ReadsOff (σ := σ) (windowsOf name) (·.windowsOf name)) ∧
      ReadsOff (σ := σ) processNames (·.processNames)) ∧
    ((∀ record ∈ snapshot.windows, ∃ name ∈ snapshot.processNames,
        record ∈ snapshot.windowsOf name) ↔
      ∀ name ∈ snapshot.processNames, ¬ ProcessName.HasExtension name.toList) ∧
    ∀ name ∈ snapshot.processNames,
      Settings.normalTargets [name] = [name] ↔ ¬ ProcessName.HasExtension name.toList := by
  intro work snapshot
  have hnamed : snapshot.IsNamed := run_isNamed staleness system apply inputs
  exact ⟨ProcessName.normalize_normalize_iff, ProcessName.normalize_ofImagePath_iff,
    Settings.normalize_normalize_iff, ⟨windowsOf_readsOff, processNames_readsOff⟩,
    hnamed.windows_found_iff, fun _ => hnamed.normalTargets_iff⟩

/-- The file of a game ends in the extension twice. The name listed for its window is normalized
once more by whoever asks for it, and the window is not found. -/
theorem listed_name_finds_nothing :
    let path := "C:\\Games\\Game.EXE.exe"
    let inputs : List (Input Desktop.Event) :=
      [.outside (.addMonitor ⟨⟨0, 0, 1920, 1080⟩, ⟨0, 0, 1920, 1040⟩⟩),
        .outside (.addProcess 1 path), .outside (.openWindow (DesktopWindow.titled 1 "Game")),
        .operation .processNames]
    let snapshot := (run Desktop.Event.apply inputs (.unseen 5 { system := {} })).cache.snapshot
    let settings : Settings := { targets := ["Game.exe.exe", "mail .exe"] }
    ProcessName.ofImagePath path = "game.exe" ∧ ProcessName.normalize "game.exe" = "game" ∧
      settings.normalize.targets = ["game.exe", "mail "] ∧
      settings.normalize.normalize.targets = ["game", "mail"] ∧
      snapshot.processNames = ["game.exe"] ∧
      ¬ ∀ record ∈ snapshot.windows, ∃ name ∈ snapshot.processNames,
        record ∈ snapshot.windowsOf name := by
  decide +kernel

/-- In the demonstration no name ends in the extension, and all windows are found. Among the targets
the names keep their form, and a name with the extension once is normalized once for all. -/
theorem canonical_iff_demo :
    let work := run Desktop.Event.apply [.operation .refresh]
      (.unseen 5 { system := Desktop.demo })
    work.cache.snapshot.processNames = ["firefox", "notepad"] ∧
      (∀ record ∈ work.cache.snapshot.windows, ∃ name ∈ work.cache.snapshot.processNames,
        record ∈ work.cache.snapshot.windowsOf name) ∧
      Settings.normalTargets ["notepad"] = ["notepad"] ∧
      ProcessName.normalize (ProcessName.ofImagePath "C:\\Games\\Game.EXE") = "game" ∧
      ({ targets := [" Game.exe", "mail"] } : Settings).normalize.normalize.targets =
        ["game", "mail"] := by
  intro work
  have hnames : work.cache.snapshot.processNames = ["firefox", "notepad"] := by decide +kernel
  obtain ⟨-, hprogram, hsettings, -, hfound, htarget⟩ :=
    canonical_iff 5 Desktop.demo Desktop.Event.apply [.operation .refresh]
  refine ⟨hnames, hfound.mpr ?_, (htarget "notepad" ?_).mpr (by decide +kernel), ?_, ?_⟩
  · rw [hnames]
    decide +kernel
  · rw [hnames]
    decide +kernel
  · rw [(hprogram _).mpr (by decide +kernel)]
    decide +kernel
  · rw [(hsettings _).mpr (by decide +kernel)]
    decide +kernel

end Workspace

end SoloScreen
