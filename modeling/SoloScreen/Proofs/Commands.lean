import SoloScreen.Proofs.Run

/-!
# What the commands do

Starting, stopping and changing the settings make no native call, so what they do to a service can
be said exactly.

* `startWith_exec_of_none`, `stopWith_exec_of_some`: the state after a session was started or ended.
* `Untouched`: starting, stopping and changing the settings leave the list of hidden windows, the
  window system and its snapshot as they are.
* `Adapted`, `applyChange_ensures`: what differs between two settings reaches the session in place
  or through a restart.
* `Updated`, `updateSettings_ensures`: rejected settings are only reported, accepted ones are taken
  over.
-/

namespace SoloScreen

open SoloScreen.Action

/-- The detector after what differs in the settings was handed to it; a running loop that got
another interval ticks next at the given timer. -/
def Detector.adjusted (change : Settings.Change) (settings : Settings) (timer : Timer)
    (d : Detector) : Detector :=
  { d with
    targets := if change.targets then settings.targets else d.targets
    interval := if change.interval then max settings.clampedInterval minInterval else d.interval
    loop := if change.interval then d.loop.map fun _ => timer else d.loop }

namespace Service

variable {σ : Type}

/-- The detector of a session that begins with the given settings, and perhaps within an episode. -/
def freshDetector (settings : Settings) (episode : Option (WindowHandle × MonitorHandle)) :
    Detector :=
  match episode with
  | some (window, monitor) =>
    (Detector.watching settings.targets settings.clampedInterval).resume window monitor
  | none => .watching settings.targets settings.clampedInterval

/-- A new session counts as full screen if it goes on with an episode. -/
@[simp] theorem freshDetector_fullScreen (settings : Settings)
    (episode : Option (WindowHandle × MonitorHandle)) :
    (freshDetector settings episode).fullScreen = episode.isSome := by
  rcases episode with _ | ⟨window, monitor⟩ <;> rfl

/-- A new session knows the window of the episode that it goes on with. -/
@[simp] theorem freshDetector_current? (settings : Settings)
    (episode : Option (WindowHandle × MonitorHandle)) :
    (freshDetector settings episode).current? = episode := by
  rcases episode with _ | ⟨window, monitor⟩ <;> rfl

/-- A session that exists stays as it is. -/
theorem startWith_exec_of_some {p : Service × Workspace σ} {d : Detector}
    (h : p.1.detector = some d) (episode : Option (WindowHandle × MonitorHandle)) :
    (startWith episode).exec p = (.ok (), p) := by
  unfold startWith
  rw [exec_bind_of_ok (exec_read_of_eq (f := (·.detector)) h)]
  rfl

/-- A session begins with its first tick due at once. -/
theorem startWith_exec_of_none {p : Service × Workspace σ} (h : p.1.detector = none)
    (episode : Option (WindowHandle × MonitorHandle)) :
    (startWith episode).exec p = (.ok (),
      ({ p.1 with
          detector := some { freshDetector p.1.settings episode with
            loop := some (p.2.clock.arm 0).1 }
          monitoring := true
          channel := p.1.channel.send (.monitoringChanged true) },
        { p.2 with clock := (p.2.clock.arm 0).2 })) := by
  unfold startWith
  rw [exec_bind_of_ok (exec_read_of_eq (f := (·.detector)) h)]
  rcases episode with _ | ⟨window, monitor⟩ <;> rfl

/-- Without a session a stop does nothing, and publishes nothing. -/
theorem stopWith_exec_of_none {p : Service × Workspace σ} (h : p.1.detector = none) :
    stopWith.exec p = (.ok none, p) := by
  unfold stopWith
  rw [exec_bind_of_ok (exec_read_of_eq (f := (·.detector)) h)]
  rfl

/-- The answer to a stop is the full-screen window of the session. -/
theorem stopWith_exec_of_some {p : Service × Workspace σ} {d : Detector}
    (h : p.1.detector = some d) :
    stopWith.exec p = (.ok d.current?,
      ({ p.1 with
          detector := none
          monitoring := false
          channel := p.1.channel.send (.monitoringChanged false) }, p.2)) := by
  unfold stopWith
  rw [exec_bind_of_ok (exec_read_of_eq (f := (·.detector)) h)]
  rfl

/-- A restart: the new session goes on with the episode of the old one. -/
theorem restart_exec {p : Service × Workspace σ} {d : Detector} (h : p.1.detector = some d) :
    (stopWith >>= startWith).exec p = (.ok (),
      ({ p.1 with
          detector := some { freshDetector p.1.settings d.current? with
            loop := some (p.2.clock.arm 0).1 }
          monitoring := true
          channel := (p.1.channel.send (.monitoringChanged false)).send (.monitoringChanged true) },
        { p.2 with clock := (p.2.clock.arm 0).2 })) := by
  rw [exec_bind_of_ok (stopWith_exec_of_some h), startWith_exec_of_none rfl]

/-- Window system and snapshot stay as they are. -/
def SameDesk (work work' : Workspace σ) : Prop :=
  work'.system = work.system ∧ work'.cache = work.cache

/-- No window is touched: the list of hidden windows, the window system and its snapshot stay. -/
structure Untouched (p q : Service × Workspace σ) : Prop where
  /-- The minimizer is the same. -/
  minimizer : q.1.minimizer = p.1.minimizer
  /-- The window system and its snapshot are the same; timers may have moved. -/
  desk : SameDesk p.2 q.2

/-- A start touches no window, whether there is a session already or not. -/
theorem startWith_untouched (episode : Option (WindowHandle × MonitorHandle))
    (p : Service × Workspace σ) :
    (startWith episode).Ensures p (fun _ q => Untouched p q) fun _ => False := by
  rcases hd : p.1.detector with _ | d
  · rw [ensures_of_ok (startWith_exec_of_none hd episode)]
    exact ⟨rfl, rfl, rfl⟩
  · rw [ensures_of_ok (startWith_exec_of_some hd episode)]
    exact ⟨rfl, rfl, rfl⟩

/-- After a stop there is no session, and nothing else has changed but what is published. -/
structure Stopped (p q : Service × Workspace σ) : Prop extends Untouched p q where
  /-- There is no session. -/
  detector : q.1.detector = none
  /-- The settings are the same. -/
  settings : q.1.settings = p.1.settings

/-- What a stop does to the service. -/
theorem stop_ensures (p : Service × Workspace σ) :
    Service.stop.Ensures p (fun _ q => Stopped p q) fun _ => False := by
  unfold Service.stop
  rw [ensures_bind]
  rcases hd : p.1.detector with _ | d
  · rw [ensures_of_ok (stopWith_exec_of_none hd)]
    exact ⟨⟨rfl, rfl, rfl⟩, hd, rfl⟩
  · rw [ensures_of_ok (stopWith_exec_of_some hd)]
    exact ⟨⟨rfl, rfl, rfl⟩, rfl, rfl⟩

/-! ## Changing the settings -/

/-- A session after a change of the settings knows of full screen what it knew, and only a restart
asks again whether there is a window. -/
structure Retuned (restart : Bool) (d d' : Detector) : Prop where
  /-- The full-screen window, if there is one, is the same. -/
  current? : d'.current? = d.current?
  /-- A restarted session is full screen exactly if it has a window; one that goes on keeps its
  mark. -/
  fullScreen : d'.fullScreen = if restart then d.current?.isSome else d.fullScreen

/-- What a change of the settings makes of a session with a detector. -/
inductive Adapted (change : Settings.Change) (settings : Settings) (d : Detector)
    (s s' : Service) : Prop
  /-- The detector goes on, with what differs handed to it. -/
  | inPlace (timer : Timer) : change.restart = false →
    s' = { s with detector := some (d.adjusted change settings timer) } →
      Adapted change settings d s s'
  /-- A new session takes over the episode. -/
  | restarted (timer : Timer) : change.restart = true →
    s' = { s with
      detector := some { freshDetector s.settings d.current? with loop := some timer }
      monitoring := true
      channel := (s.channel.send (.monitoringChanged false)).send (.monitoringChanged true) } →
      Adapted change settings d s s'

/-- However the session adapts, it knows of full screen what it knew. -/
theorem Adapted.retuned {change : Settings.Change} {settings : Settings} {d : Detector}
    {s s' : Service} (h : Adapted change settings d s s') :
    ∃ d', s'.detector = some d' ∧ Retuned change.restart d d' := by
  cases h with
  | inPlace timer hrestart hs => exact ⟨_, congrArg Service.detector hs, rfl, by rw [hrestart]; rfl⟩
  | restarted timer hrestart hs =>
    refine ⟨_, congrArg Service.detector hs, freshDetector_current? s.settings d.current?, ?_⟩
    rw [hrestart]
    exact freshDetector_fullScreen s.settings d.current?

/-- Adapting the session changes neither the settings nor the minimizer. -/
theorem Adapted.same {change : Settings.Change} {settings : Settings} {d : Detector}
    {s s' : Service} (h : Adapted change settings d s s') :
    s'.settings = s.settings ∧ s'.minimizer = s.minimizer := by
  cases h with
  | inPlace timer hrestart hs => rw [hs]; exact ⟨rfl, rfl⟩
  | restarted timer hrestart hs => rw [hs]; exact ⟨rfl, rfl⟩

/-- The changes in place, and the clock if a running loop was armed anew. -/
theorem inPlace_exec (change : Settings.Change) (settings : Settings) (d : Detector)
    (work : Workspace σ) :
    ∃ timer clock, (do
        if change.interval then Detector.setInterval settings.clampedInterval
        if change.targets then modify fun p => (p.1.retarget settings.targets, p.2) :
      Action (Detector × Workspace σ) Unit).exec (d, work) =
        (.ok (), (d.adjusted change settings timer, { work with clock })) := by
  obtain ⟨interval, targets, restart⟩ := change
  obtain ⟨watched, fullScreen, window, monitor, last, every, loop⟩ := d
  rcases interval
  · exact ⟨⟨0, 0⟩, work.clock, by rcases targets <;> rfl⟩
  · rcases loop with _ | old
    · exact ⟨⟨0, 0⟩, work.clock, by rcases targets <;> rfl⟩
    · exact ⟨(work.clock.arm (max settings.clampedInterval Detector.minInterval)).1,
        (work.clock.arm (max settings.clampedInterval Detector.minInterval)).2,
        by rcases targets <;> rfl⟩

/-- What a change of the settings does to a session. -/
theorem applyChange_ensures (d : Detector) (change : Settings.Change) (settings : Settings)
    (p : Service × Workspace σ) :
    (applyChange d change settings).Ensures p
      (fun _ q => Adapted change settings d p.1 q.1 ∧ SameDesk p.2 q.2) fun _ => False := by
  obtain ⟨timer, clock, hexec⟩ := inPlace_exec change settings d p.2
  unfold applyChange
  rw [ensures_bind, ensures_onDetector, ensures_of_ok hexec]
  split
  · rename_i hrestart
    rw [ensures_of_ok (restart_exec rfl)]
    exact ⟨.restarted _ hrestart rfl, rfl, rfl⟩
  · rename_i hrestart
    exact ⟨.inPlace timer (by simpa using hrestart) rfl, rfl, rfl⟩

/-- What new settings do to a service: rejected ones are only reported, accepted ones are taken
over, and a session adapts to what differs. -/
inductive Updated (settings : Settings) (s s' : Service) : Except Failure Unit → Prop
  | rejected (failure : Failure) (text : String) :
    settings.normalize.check = .error failure →
      s' = { s with channel := s.channel.send (.errorOccurred text) } →
        Updated settings s s' (.error failure)
  | accepted :
    settings.normalize.check = .ok () →
      (s.detector = none → s' = { s with settings := settings.normalize }) →
      (∀ d, s.detector = some d → Adapted (s.settings.diff settings.normalize) settings.normalize d
        { s with settings := settings.normalize } s') → Updated settings s s' (.ok ())

/-- Nothing is to be handed to a session if nothing differs. -/
theorem adapted_of_isEmpty {change : Settings.Change} (h : change.isEmpty = true)
    (settings : Settings) {d : Detector} {s : Service} (hd : s.detector = some d) :
    Adapted change settings d s s := by
  simp only [Settings.Change.isEmpty, Bool.and_eq_true, Bool.not_eq_true'] at h
  refine .inPlace ⟨0, 0⟩ h.2 ?_
  have hsame : d.adjusted change settings ⟨0, 0⟩ = d := by
    unfold Detector.adjusted
    rw [h.1.1, h.1.2]
    rfl
  rw [hsame, ← hd]

/-- What new settings do to a service, in all cases; the window system and its snapshot stay as they
are. Everything else about changes of the settings is read off `Updated`. -/
theorem updateSettings_ensures (settings : Settings) (p : Service × Workspace σ) [WindowSystem σ] :
    (updateSettings settings).run.Ensures p
      (fun r q => SameDesk p.2 q.2 ∧ Updated settings p.1 q.1 r) fun _ => False := by
  unfold updateSettings
  dsimp only
  split
  · rename_i failure hcheck
    rw [ensures_run_lift_bind]
    exact ⟨⟨rfl, rfl⟩, .rejected failure _ hcheck rfl⟩
  · rename_i hcheck
    rw [ensures_run_lift]
    simp only [ensures_bind, ensures_read, ensures_update]
    split
    · rcases hd : p.1.detector with _ | d
      · exact ⟨⟨rfl, rfl⟩, .accepted hcheck (fun _ => by rw [hd]) (by simp [hd])⟩
      · refine (applyChange_ensures d _ settings.normalize _).mono (fun _ q hq => ?_) fun _ h => h
        refine ⟨hq.2, .accepted hcheck (by simp [hd]) fun d₀ h₀ => ?_⟩
        obtain rfl : d = d₀ := Option.some.inj (hd.symm.trans h₀)
        rw [hd]
        exact hq.1
    · rename_i hempty
      exact ⟨⟨rfl, rfl⟩, .accepted hcheck (fun _ => rfl)
        fun d hd => adapted_of_isEmpty (by simpa using hempty) settings.normalize hd⟩

/-- New settings leave the list of hidden windows alone. -/
theorem Updated.minimizer {settings : Settings} {s s' : Service} {r : Except Failure Unit}
    (h : Updated settings s s' r) : s'.minimizer = s.minimizer := by
  cases h with
  | rejected failure text hcheck hs => rw [hs]
  | accepted hcheck hnone hsome =>
    rcases hd : s.detector with _ | d
    · rw [hnone hd]
    · exact (hsome d hd).same.2

/-- Accepted settings are those of the service. -/
theorem Updated.settings {settings : Settings} {s s' : Service}
    (h : Updated settings s s' (.ok ())) :
    s'.settings = settings.normalize := by
  cases h with
  | accepted hcheck hnone hsome =>
    rcases hd : s.detector with _ | d
    · rw [hnone hd]
    · exact (hsome d hd).same.1

end Service

end SoloScreen
