import SoloScreen.Proofs.DesktopEvents
import SoloScreen.Proofs.Session

/-!
# The configuration of a session

New settings reach a running session in place, or through a restart, and often both in turn. Either
way leads to the same configuration, on any window system and whatever it answers.

* `Service.Configured`: the detector watches the targets of the settings at their interval. Every
  input keeps that (`Service.step_configured`).
* `Service.updateSettings_episode`: an update by itself leaves the episode as it is.
* `Service.act_engaged`: while no exit is handled, the session stays full screen through updates,
  and no second begin is reported.
* `Service.configuration_agrees`: all of this in every reachable state.

That a restarted detector is full screen just if it knows where (`Detector.Knows`) is part of the
configuration, for it is what a restart hands over: the new detector is given the window and the
monitor of the old one, and takes from them that it is full screen.
-/

namespace SoloScreen

open SoloScreen.Action

/-- The interval of settings is long enough for a detector. Both clamp it from below, at the same
bound, and so a session that is started and one that is adjusted run at the same interval. -/
theorem Settings.max_clampedInterval (settings : Settings) :
    max settings.clampedInterval Detector.minInterval = settings.clampedInterval := by
  unfold clampedInterval Detector.minInterval minInterval maxInterval
  omega

namespace Service

/-! ## The configuration -/

/-- The detector runs as the settings say, and it is full screen only if it knows where. -/
structure Configured (settings : Settings) (d : Detector) : Prop where
  /-- It watches what the settings name. -/
  targets : d.targets = settings.targets
  /-- It polls at the interval of the settings, brought into its bounds. -/
  interval : d.interval = settings.clampedInterval
  /-- It is full screen just if it holds a window and a monitor. -/
  knows : d.Knows

/-- When the loop ticks next is no matter of the configuration. -/
theorem Configured.with_loop {settings : Settings} {d : Detector} (h : Configured settings d)
    (loop : Option Timer) : Configured settings { d with loop } :=
  ⟨h.targets, h.interval, h.knows⟩

/-- Nor is what a tick sees. -/
theorem Configured.noticed {settings : Settings} {d d' : Detector} (h : Configured settings d)
    (hnoticed : d.Noticed d') : Configured settings d' := by
  have hknows := hnoticed.knows h.knows
  obtain ⟨fullScreen, window, monitor, last, rfl⟩ := hnoticed.eq_with
  exact ⟨h.targets, h.interval, hknows⟩

/-- A detector that was just built runs as the settings say, with or without an episode handed
over. -/
theorem configured_freshDetector (settings : Settings)
    (episode : Option (WindowHandle × MonitorHandle)) :
    Configured settings (freshDetector settings episode) := by
  refine ⟨?_, ?_, ?_⟩
  · rcases episode with _ | ⟨window, monitor⟩ <;> rfl
  · have hmax := settings.max_clampedInterval
    rcases episode with _ | ⟨window, monitor⟩ <;> exact hmax
  · unfold Detector.Knows
    rw [freshDetector_fullScreen, freshDetector_current?]

/-- What is handed to a detector is what differs, so it runs as the new settings say. -/
theorem Configured.adjusted {old : Settings} {d : Detector} (h : Configured old d)
    (new : Settings) (timer : Timer) : Configured new (d.adjusted (old.diff new) new timer) where
  targets := by
    show (if old.targets != new.targets then new.targets else d.targets) = new.targets
    split
    · rfl
    · rename_i hsame
      rw [h.targets]
      simpa using hsame
  interval := by
    show (if old.pollInterval != new.pollInterval then max new.clampedInterval Detector.minInterval
      else d.interval) = new.clampedInterval
    split
    · exact new.max_clampedInterval
    · rename_i hsame
      have hsame : old.pollInterval = new.pollInterval := by simpa using hsame
      rw [h.interval]
      unfold Settings.clampedInterval
      rw [hsame]
  knows := h.knows

/-- The detector of the session, if there is one, runs as the settings say. This is the invariant of
all runs. -/
def IsConfigured (s : Service) : Prop := ∀ d, s.detector = some d → Configured s.settings d

/-- A session that stays the same stays configured. -/
theorem SameSession.isConfigured {s s' : Service} (h : SameSession s s') (hs : IsConfigured s) :
    IsConfigured s' := by
  intro d hd
  rw [h.settings]
  exact hs d (h.detector.symm.trans hd)

/-- It is enough to look at the detector that there is. -/
theorem isConfigured_of_eq {s : Service} {d : Detector} (hd : s.detector = some d)
    (h : Configured s.settings d) : IsConfigured s := fun _ hd' =>
  Option.some.inj (hd.symm.trans hd') ▸ h

/-- An update leads to the configuration of the new settings: in place, where what differs is handed
over, or through a restart, where all of it is. -/
theorem Updated.isConfigured {settings : Settings} {s s' : Service}
    (h : Updated settings s s' (.ok ())) (hs : IsConfigured s) : IsConfigured s' := by
  rcases h with _ | ⟨-, hnone, hsome⟩
  rcases hd : s.detector with _ | d
  · intro d hd'
    rw [hnone hd] at hd'
    exact absurd (hd.symm.trans hd') (by simp)
  cases hsome d hd with
  | inPlace timer hrestart hs' =>
    rw [hs']
    exact isConfigured_of_eq rfl ((hs d hd).adjusted settings.normalize timer)
  | restarted timer hrestart hs' =>
    rw [hs']
    exact isConfigured_of_eq rfl
      ((configured_freshDetector settings.normalize d.current?).with_loop (some timer))

/-- Everything that a command can do to the session keeps the configuration. There is one case for
each way in which a session moves. -/
theorem Moves.isConfigured {completes : Prop} {command : Command} {s s' : Service}
    (h : Moves completes command s s') (hs : IsConfigured s) : IsConfigured s' := by
  cases h with
  | same hsame => exact hsame.isConfigured hs
  | started timer _ hnone hsame =>
    exact hsame.isConfigured (isConfigured_of_eq rfl
      ((configured_freshDetector s.settings none).with_loop (some timer)))
  | stopped d _ hd hsame => exact hsame.isConfigured fun d hd => by simp at hd
  | updated settings _ hupdated => exact hupdated.isConfigured hs
  | ticked d _ loop _ hd hnoticed _ hsame =>
    exact hsame.isConfigured (isConfigured_of_eq rfl (((hs d hd).noticed hnoticed).with_loop loop))

variable {σ ε : Type} [WindowSystem σ] (apply : ε → σ → σ)

/-- Every input keeps the configuration. Things that happen outside do not reach the session. -/
theorem step_configured {p : Service × Workspace σ} (hp : IsConfigured p.1) (input : Input ε) :
    IsConfigured (step apply p input).1 := by
  cases input with
  | command command => exact (act_moves command p).exec_snd.isConfigured hp
  | outside event => exact hp

/-- A run keeps the configuration. -/
theorem run_configured {p : Service × Workspace σ} (hp : IsConfigured p.1)
    (inputs : List (Input ε)) : IsConfigured (run apply inputs p).1 := by
  induction inputs generalizing p with
  | nil => exact hp
  | cons input rest ih => exact ih (step_configured apply hp input)

/-! ## Updates and episodes -/

/-- An update is answered with what is wrong with the settings. It leaves the list of hidden windows
and all that the session knows of full screen as they are. -/
theorem updateSettings_episode {p : Service × Workspace σ} (hp : IsConfigured p.1)
    (settings : Settings) :
    ∃ q, (updateSettings settings).run.exec p = (.ok settings.normalize.check, q) ∧
      q.1.minimizer = p.1.minimizer ∧
        q.1.detector.map (·.fullScreen) = p.1.detector.map (·.fullScreen) ∧
          q.1.detector.map (·.current?) = p.1.detector.map (·.current?) := by
  have h := updateSettings_ensures settings p
  rcases hexec : (updateSettings settings).run.exec p with ⟨e | r, q⟩
  · rw [ensures_of_error hexec] at h
    exact h.elim
  rw [ensures_of_ok hexec] at h
  have hminimizer := h.2.minimizer
  rcases h.2 with ⟨failure, text, hcheck, hs⟩ | ⟨hcheck, hnone, hsome⟩
  · exact ⟨q, by rw [hcheck], hminimizer, by rw [hs], by rw [hs]⟩
  · refine ⟨q, by rw [hcheck], hminimizer, ?_⟩
    rcases hd : p.1.detector with _ | d
    · rw [hnone hd, hd]
      exact ⟨rfl, rfl⟩
    · obtain ⟨d', hd', hretuned⟩ := (hsome d hd).retuned
      rw [hd']
      refine ⟨congrArg some ?_, congrArg some hretuned.current?⟩
      show d'.fullScreen = d.fullScreen
      rw [hretuned.fullScreen, ← (hp d hd).knows, ite_self]

/-- The session is full screen. -/
def Engaged (s : Service) : Prop := ∃ d, s.detector = some d ∧ d.fullScreen = true

/-- A tick that reports no end of full screen leaves the session full screen, and no event of it
reports a begin. Both follow from what a detector that is full screen can report. -/
theorem poll_engaged {p : Service × Workspace σ} (hp : IsConfigured p.1) (hengaged : Engaged p.1)
    (hexit : ∀ x ∈ tickHandlings p, x.1.isExit = false) :
    Engaged (poll.exec p).2.1 ∧ ∀ x ∈ tickHandlings p, x.1.isEnter = false := by
  obtain ⟨d, hd, hfull⟩ := hengaged
  have hseen : d.fullScreen → d.current?.isSome := fun h => (hp d hd).knows ▸ h
  refine ⟨?_, fun x hx => Bool.eq_false_iff.mpr fun henter => ?_⟩
  · have hround : Engaged (round.exec p).2.1 := by
      suffices hd' : ∃ d', ((onDetector d Detector.tick).exec p).2.1.detector = some d' ∧
          d'.fullScreen = true by
        obtain ⟨d', hd', hfull'⟩ := hd'
        exact ⟨d', (round_same hd).detector.trans hd', hfull'⟩
      have htick := Detector.tick_ensures d p.2
      rcases he : Detector.tick.exec (d, p.2) with ⟨e | events, q⟩
      · rw [ensures_of_error he] at htick
        refine ⟨q.1, by simp [onDetector, he], ?_⟩
        rcases htick.episode hseen with hsame | hstill
        · rw [hsame, hfull]
        · exact hstill.1
      · rw [ensures_of_ok he] at htick
        refine ⟨q.1, by simp [onDetector, he], ?_⟩
        rcases htick.episode hseen with hstill | ⟨-, ⟨-, hnot⟩ | ⟨sighting, hover, rfl⟩⟩
        · exact hstill.1
        · exact absurd (hfull.symm.trans hnot) (by simp)
        · -- the end of full screen would be handled
          have hexec : (onDetector d Detector.tick).exec p =
              (.ok [.fullScreenChanged sighting], ({ p.1 with detector := some q.1 }, q.2)) := by
            simp [onDetector, he]
          have hmem := head_mem_handlings (.fullScreenChanged sighting) []
            ({ p.1 with detector := some q.1 }, q.2)
          rw [← tickHandlings_of_exec hd hexec] at hmem
          have := hexit _ hmem
          simp [DetectorEvent.isExit, hover] at this
    exact (poll_ensures (I := fun q => Engaged q.1) (.of_exec_snd hround)
      fun q d loop clock hq hd => by
        obtain ⟨d', hd', hfull'⟩ := hq
        exact ⟨_, rfl, Option.some.inj (hd.symm.trans hd') ▸ hfull'⟩).of_uncut.exec_snd
  · obtain ⟨d', -, hd', hnot, -⟩ := enter_of_mem_tickHandlings hx henter
    obtain rfl : d = d' := Option.some.inj (hd.symm.trans hd')
    exact absurd (hfull.symm.trans hnot) (by simp)

/-- While a session is full screen, a command that does not end it and handles no end of full screen
leaves it full screen and handles no begin. -/
theorem act_engaged {p : Service × Workspace σ} (hp : IsConfigured p.1) (hengaged : Engaged p.1)
    {command : Command} (hcommand : command.ends = false)
    (hexit : ∀ x ∈ (Input.command command : Input ε).handlings p, x.1.isExit = false) :
    Engaged (command.act.exec p).2.1 ∧
      ∀ x ∈ (Input.command command : Input ε).handlings p, x.1.isEnter = false := by
  by_cases htick : command = .tick
  · subst htick
    exact poll_engaged hp hengaged hexit
  refine ⟨?_, by cases command <;> simp_all [Input.handlings]⟩
  obtain ⟨d, hd, hfull⟩ := hengaged
  cases (act_moves command p).exec_snd with
  | same hsame => exact ⟨d, hsame.detector.trans hd, hfull⟩
  | started timer _ hnone hsame => simp [hd] at hnone
  | stopped _ hends => simp [hcommand] at hends
  | ticked _ _ _ h => exact absurd h htick
  | updated settings _ hupdated =>
    rcases hupdated with _ | ⟨-, -, hsome⟩
    obtain ⟨d', hd', hretuned⟩ := (hsome d hd).retuned
    exact ⟨d', hd', by rw [hretuned.fullScreen, ← (hp d hd).knows, ite_self, hfull]⟩

/-- The same along a run. The induction carries the configuration with it, as the step lemma needs
it in every state. -/
theorem run_engaged {p : Service × Workspace σ} (hp : IsConfigured p.1) (hengaged : Engaged p.1)
    {inputs : List (Input ε)}
    (hinputs : ∀ command, .command command ∈ inputs → command.ends = false)
    (hexit : ∀ x ∈ runHandlings apply inputs p, x.1.isExit = false) :
    ∀ x ∈ runHandlings apply inputs p, x.1.isEnter = false := by
  induction inputs generalizing p with
  | nil => simp [runHandlings]
  | cons input rest ih =>
    simp only [runHandlings, List.mem_append] at hexit ⊢
    have hrest : ∀ command, .command command ∈ rest → command.ends = false :=
      fun command hmem => hinputs command (List.mem_cons_of_mem _ hmem)
    have hengaged' : Engaged (step apply p input).1 ∧
        ∀ x ∈ input.handlings p, x.1.isEnter = false := by
      cases input with
      | outside event => exact ⟨hengaged, by simp [Input.handlings]⟩
      | command command =>
        exact act_engaged hp hengaged (hinputs command List.mem_cons_self)
          fun x hx => hexit x (.inl hx)
    rintro x (hx | hx)
    · exact hengaged'.2 x hx
    · exact ih (step_configured apply hp input) hengaged'.1 hrest (fun x hx => hexit x (.inr hx))
        x hx

/-- In place or through a restart, new settings lead to the same configuration. In every reachable
state the detector of the session watches the targets of the settings at their interval. An update
by itself leaves the hidden windows and the episode as they are. And as long as no end of full
screen is handled and the session is not ended, updates and ticks handle no second begin. -/
theorem configuration_agrees (settings : Settings) (work : Workspace σ)
    (inputs : List (Input ε)) :
    let p := run apply inputs (withSettings settings, work)
    (∀ d, p.1.detector = some d →
      d.targets = p.1.settings.targets ∧ d.interval = p.1.settings.clampedInterval) ∧
    (∀ new, ∃ q, (updateSettings new).run.exec p = (.ok new.normalize.check, q) ∧
      q.1.minimizer = p.1.minimizer ∧
        q.1.detector.map (·.fullScreen) = p.1.detector.map (·.fullScreen) ∧
          q.1.detector.map (·.current?) = p.1.detector.map (·.current?)) ∧
    ∀ rest : List (Input ε), (∀ command, .command command ∈ rest → command.ends = false) →
      p.1.detector.any (·.fullScreen) →
        (∀ x ∈ runHandlings apply rest p, x.1.isExit = false) →
          ∀ x ∈ runHandlings apply rest p, x.1.isEnter = false := by
  intro p
  have hp : IsConfigured p.1 :=
    run_configured apply (fun d hd => by simp [withSettings] at hd) inputs
  exact ⟨fun d hd => ⟨(hp d hd).targets, (hp d hd).interval⟩, updateSettings_episode hp,
    fun rest hrest hengaged hexit =>
      run_engaged apply hp ((Option.any_eq_true ..).mp hengaged) hrest hexit⟩

/-- The settings change in every respect while a window is full screen. The session is restarted and
watches the new targets at the new interval, and its ticks do not begin the episode again. -/
theorem configuration_agrees_demo :
    let game := (DesktopWindow.titled 400 "Game").maximizedOver ⟨0, 0, 1920, 1040⟩
    let inputs : List (Input Desktop.Event) :=
      [.outside (.addProcess 400 "game.exe"), .outside (.openWindow game), .command .start,
        .command .tick]
    let new : Settings := { targets := ["Game.exe", "notepad"], pollInterval := 250,
                            restoreOnAppExit := false }
    let rest : List (Input Desktop.Event) :=
      [.command (.update new), .command .tick, .command .tick]
    let p := (withSettings { targets := ["game"] }, Workspace.unseen 0 Desktop.demo)
    (run Desktop.Event.apply (inputs ++ rest) p).1.detector.map
        (fun d => (d.targets, d.interval)) = some (["game", "notepad"], 250) ∧
      ∀ x ∈ runHandlings Desktop.Event.apply rest (run Desktop.Event.apply inputs p),
        x.1.isEnter = false := by
  intro game inputs new rest p
  obtain ⟨-, -, hagrees⟩ := configuration_agrees Desktop.Event.apply { targets := ["game"] }
    (Workspace.unseen 0 Desktop.demo) inputs
  exact ⟨by decide +kernel,
    hagrees rest (by simp [rest, Command.ends]) (by decide +kernel) (by decide +kernel)⟩

end Service

end SoloScreen
