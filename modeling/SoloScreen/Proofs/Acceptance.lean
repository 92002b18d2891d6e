import SoloScreen.Proofs.Commands
import SoloScreen.Proofs.DesktopEvents
import SoloScreen.Proofs.Naming

/-!
# Which settings are accepted

New settings are normalized and checked before anything else is done with them. So what is not
acceptable can be said of the normal form alone (`Settings.check_normalize_eq_ok_iff`), settings
that are refused change nothing (`Service.updateSettings_exec_of_refused`), and settings that are
those of the service already do nothing at all (`Service.updateSettings_exec_of_same`).

A normal form has no name made of blanks, so one of the reasons to refuse a name never occurs.
-/

namespace SoloScreen

open SoloScreen.Action

namespace ProcessName

/-- The check finds no fault in a name that is not made of blanks if, without the blanks at its
ends, it is not too long and has no forbidden character. -/
theorem fault?_eq_none_iff {name : String} (h : Text.trim name.toList ≠ []) :
    fault? name = none ↔ (Text.trim name.toList).length ≤ maxLength ∧
      ∀ c ∈ Text.trim name.toList, c ∉ forbidden := by
  have hblank : (Text.trim name.toList).isEmpty = false := by simpa using h
  unfold fault?
  dsimp only
  rw [hblank, if_neg Bool.false_ne_true]
  split
  · rename_i hlong
    exact iff_of_false (by simp) fun hshort => absurd hshort.1 (Nat.not_le_of_lt hlong)
  · rename_i hshort
    rw [Option.map_eq_none_iff, List.find?_eq_none]
    simp [Nat.le_of_not_lt hshort]

end ProcessName

namespace Settings

/-- No fault is found in a list of names if none is found in any of them. The position only goes
into the text of a fault, so it is arbitrary here. -/
theorem targetFault?_eq_none_iff {names : List String} {position : Nat} :
    targetFault? position names = none ↔ ∀ name ∈ names, ProcessName.fault? name = none := by
  induction names generalizing position with
  | nil => simp [targetFault?]
  | cons name rest ih =>
    unfold targetFault?
    rcases hfault : ProcessName.fault? name with _ | fault
    · simp [hfault, ih]
    · simp [hfault]

/-- The interval is out of range, or a name is too long or has a character that no name has. -/
def IsRefused (settings : Settings) : Prop :=
  settings.pollInterval < 100 ∨ 2000 < settings.pollInterval ∨ ∃ name ∈ settings.targets,
    100 < (Text.trim name.toList).length ∨
      ∃ c ∈ Text.trim name.toList, c ∈ ['<', '>', ':', '"', '|', '?', '*', '\\', '/']

instance (settings : Settings) : Decidable settings.IsRefused :=
  decidable_of_iff (settings.pollInterval < 100 ∨ 2000 < settings.pollInterval ∨
    settings.targets.any fun name => 100 < (Text.trim name.toList).length ||
      (Text.trim name.toList).any (· ∈ ['<', '>', ':', '"', '|', '?', '*', '\\', '/']))
    (by simp [IsRefused])

/-- Normal settings pass the check unless they are refused. -/
theorem check_normalize_eq_ok_iff (settings : Settings) :
    settings.normalize.check = .ok () ↔ ¬ settings.normalize.IsRefused := by
  have hnames : targetFault? 1 settings.normalize.targets = none ↔
      ∀ name ∈ settings.normalize.targets, (Text.trim name.toList).length ≤ 100 ∧
        ∀ c ∈ Text.trim name.toList, c ∉ ['<', '>', ':', '"', '|', '?', '*', '\\', '/'] := by
    rw [targetFault?_eq_none_iff]
    refine forall₂_congr fun name hname => ProcessName.fault?_eq_none_iff ?_
    obtain ⟨hne, given, -, rfl⟩ := mem_normalTargets.mp hname
    exact ProcessName.trim_normalize_ne_nil hne
  have hcheck : settings.normalize.check = .ok () ↔ settings.normalize.fault? = none := by
    unfold check
    rcases settings.normalize.fault? with _ | fault <;> simp
  have hinterval : settings.normalize.fault? = none ↔
      ¬ (settings.normalize.pollInterval < 100 ∨ 2000 < settings.normalize.pollInterval) ∧
        targetFault? 1 settings.normalize.targets = none := by
    unfold fault?
    split
    · rename_i hrange
      exact iff_of_false (by simp) fun h => h.1 hrange
    · rename_i hrange
      exact (and_iff_right hrange).symm
  rw [hcheck, hinterval, hnames, IsRefused]
  push Not
  tauto

/-- What the check reports is a fault of the settings. -/
theorem check_eq_error {settings : Settings} {failure : Failure}
    (h : settings.check = .error failure) : ∃ fault : Fault, failure = .settings fault.message := by
  unfold check at h
  split at h
  · cases h
  · exact ⟨_, (Except.error.inj h).symm⟩

/-- Nothing differs between settings and themselves. -/
theorem diff_self_isEmpty (settings : Settings) : (settings.diff settings).isEmpty = true := by
  simp [diff, Change.isEmpty]

end Settings

namespace Service

variable {σ : Type} {settings : Settings} {p : Service × Workspace σ}

/-- Refused settings are reported, with their first fault, and that is all. -/
theorem updateSettings_exec_of_refused {failure : Failure}
    (h : settings.normalize.check = .error failure) :
    (updateSettings settings).run.exec p = (.ok (.error failure),
      ({ p.1 with
          channel := p.1.channel.send
            (.errorOccurred ("[" ++ failure.code ++ "] " ++ failure.message)) }, p.2)) := by
  unfold updateSettings
  dsimp only
  rw [h]
  rfl

/-- Settings that the service has already are accepted, and nothing happens. -/
theorem updateSettings_exec_of_same (h : settings.normalize.check = .ok ())
    (hsame : settings.normalize = p.1.settings) :
    (updateSettings settings).run.exec p = (.ok (.ok ()), p) := by
  have hempty : (p.1.settings.diff settings.normalize).isEmpty = true := by
    rw [hsame]
    exact Settings.diff_self_isEmpty _
  unfold updateSettings
  dsimp only
  rw [h]
  refine Ensures.exec_eq ?_
  dsimp only
  rw [ensures_run_lift]
  simp only [ensures_bind, ensures_read, ensures_update]
  rw [if_neg (by simp [hempty])]
  exact ⟨trivial, by rw [hsame]⟩

/-- Refused settings change nothing. In every state, a change of the settings fails if and only if
their normal form is refused. Then the failure is one of the settings, it is published with its
code, and nothing else is different from before. Otherwise the change succeeds, and the settings are
the normal form; if they were so before, then nothing is different from before, what is published
included. -/
theorem refused_settings_change_nothing [WindowSystem σ] (settings : Settings)
    (p : Service × Workspace σ) :
    (settings.normalize.IsRefused → ∃ fault : Settings.Fault,
      (updateSettings settings).run.exec p = (.ok (.error (.settings fault.message)),
        ({ p.1 with
            channel := p.1.channel.send (.errorOccurred
              ("[SETTINGS_ERROR] " ++ (Failure.settings fault.message).message)) }, p.2))) ∧
    (¬ settings.normalize.IsRefused → ∃ q,
      (updateSettings settings).run.exec p = (.ok (.ok ()), q) ∧
        q.1.settings = settings.normalize ∧ (settings.normalize = p.1.settings → q = p)) := by
  constructor
  · intro hrefused
    rcases hcheck : settings.normalize.check with failure | _
    · obtain ⟨fault, rfl⟩ := Settings.check_eq_error hcheck
      exact ⟨fault, updateSettings_exec_of_refused hcheck⟩
    · exact absurd hrefused (settings.check_normalize_eq_ok_iff.mp hcheck)
  · intro haccepted
    have hcheck := settings.check_normalize_eq_ok_iff.mpr haccepted
    obtain ⟨r, q, hexec, -, hupdated⟩ := (updateSettings_ensures settings p).exists_exec
    have hr : r = .ok () := by
      cases hupdated with
      | rejected failure text herror => rw [hcheck] at herror; cases herror
      | accepted => rfl
    subst hr
    refine ⟨q, hexec, hupdated.settings, fun hsame => ?_⟩
    rw [updateSettings_exec_of_same hcheck hsame] at hexec
    exact (Prod.mk.inj hexec).2.symm

/-- During an episode, a name with a forbidden character is refused. Then the targets of the service
are written in another way, which is accepted and nothing to do. -/
theorem refused_settings_change_nothing_demo :
    let game := (DesktopWindow.titled 400 "Game").maximizedOver ⟨0, 0, 1920, 1040⟩
    let inputs : List (Input Desktop.Event) :=
      [.outside (.addProcess 400 "game.exe"), .outside (.openWindow game), .command .start,
        .command .tick]
    let refused : Settings := { targets := [" Game.exe", " note|pad "], pollInterval := 250 }
    let same : Settings := { targets := ["GAME.exe ", "", "game"] }
    ∃ p : Service × Workspace Desktop,
      p = run Desktop.Event.apply inputs
        (withSettings { targets := ["game"] }, .unseen 0 Desktop.demo) ∧
      p.1.detector.any (·.fullScreen) = true ∧ refused.normalize.IsRefused ∧
      ((updateSettings refused).run.exec p).1 = .ok (.error (.settings
        "процесс #2: имя процесса 'note|pad' содержит недопустимый символ '|'")) ∧
      (∃ text, ((updateSettings refused).run.exec p).2 =
        ({ p.1 with channel := p.1.channel.send (.errorOccurred ("[SETTINGS_ERROR] " ++ text)) },
          p.2)) ∧
      ¬ same.normalize.IsRefused ∧ (updateSettings same).run.exec p = (.ok (.ok ()), p) := by
  intro game inputs refused same
  refine ⟨_, rfl, by decide +kernel, by decide +kernel, by decide +kernel, ?_,
    by decide +kernel, ?_⟩
  · obtain ⟨fault, hexec⟩ := (refused_settings_change_nothing refused
      (run Desktop.Event.apply inputs
        (withSettings { targets := ["game"] }, .unseen 0 Desktop.demo))).1 (by decide +kernel)
    rw [hexec]
    exact ⟨_, rfl⟩
  · obtain ⟨q, hexec, -, hsame⟩ := (refused_settings_change_nothing same
      (run Desktop.Event.apply inputs
        (withSettings { targets := ["game"] }, .unseen 0 Desktop.demo))).2 (by decide +kernel)
    rw [hexec, hsame (by decide +kernel)]

end Service

end SoloScreen
