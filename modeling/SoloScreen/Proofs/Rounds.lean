import SoloScreen.Proofs.Session
import SoloScreen.Proofs.Calls
import SoloScreen.Simulation

/-!
# The rounds of a polling loop

A simulation has two polling loops, that of a detector of its own and that of the session of its
service, and they are alike (`Simulation.Loop`). What the timer of a loop starts is a round, which
is one tick with the handling of its events in order; then the loop goes on, unless the round was
cut short (`Loop.perform_task`). A round itself moves no timer (`Loop.round_rounded`).

* `Loop.put`, `Loop.control`: how a loop is reached in a simulation. Everything that follows is said
  of a loop through these, so that it is proved once for both.
* `Loop.Apart`: an order to a loop leaves time, scenarios and the other loop as they are.
* `Loop.Rounded`: so does a round, which leaves the pace of its own loop as it is too.
-/

namespace SoloScreen

open SoloScreen.Action

namespace Workspace

variable {σ : Type} [WindowSystem σ]

/-- The clock stays as it is. -/
def SameClock (work work' : Workspace σ) : Prop := work'.clock = work.clock

/-- Neither queries nor requests move a timer. -/
theorem requestsConform_clock : RequestsConform (σ := σ) SameClock SameClock := by
  have hpath : IsPath (SameClock (σ := σ)) := ⟨fun _ => rfl, fun h h' => h'.trans h⟩
  have hsystem : ∀ {α : Type} (act : Action σ α),
      Conforms SameClock SameClock (onSystem act) :=
    fun act work => ensures_within.mpr (.of_forall (fun _ _ => rfl) fun _ => rfl)
  exact {
    toQueriesConform := .of_calls hpath.toSelf (fun call _ => hsystem (WindowSystem.call call))
      (hsystem WindowSystem.readClock) fun _ _ => rfl
    minimize := fun window => hsystem (WindowSystem.call (.setState window .minimize))
    restore := fun window => hsystem (WindowSystem.call (.setState window .restore)) }

end Workspace

namespace Simulation

/-! ## Parts of a simulation -/

section parts

variable {α : Type} {sim : Simulation}

/-- Without a detector nothing happens. -/
theorem onDetector_exec_of_none (h : sim.detector = none)
    (act : Action (Detector × Workspace FaultyDesktop) α) :
    (onDetector act).exec sim = (.ok none, sim) := by
  unfold onDetector
  rw [exec_bind_of_ok (exec_get sim), h]
  rfl

/-- With one, the action runs on it and on the workspace, and the rest stays. -/
theorem onDetector_exec_of_some {d : Detector} (h : sim.detector = some d)
    (act : Action (Detector × Workspace FaultyDesktop) α) :
    (onDetector act).exec sim = ((act.exec (d, sim.work)).1.map some,
      { sim with
        detector := some (act.exec (d, sim.work)).2.1
        work := (act.exec (d, sim.work)).2.2 }) := by
  unfold onDetector
  rw [exec_bind_of_ok (exec_get sim), h]
  dsimp only
  rw [map_eq_pure_bind, exec_bind, exec_within]
  rcases (act.exec (d, sim.work)).1 <;> rfl

/-- Without a service nothing happens. -/
theorem onService_exec_of_none (h : sim.service = none)
    (act : Action (Service × Workspace FaultyDesktop) α) :
    (onService act).exec sim = (.ok none, sim) := by
  unfold onService
  rw [exec_bind_of_ok (exec_get sim), h]
  rfl

/-- With one, the action runs on it and on the workspace, and the rest stays. -/
theorem onService_exec_of_some {service : Service} (h : sim.service = some service)
    (act : Action (Service × Workspace FaultyDesktop) α) :
    (onService act).exec sim = ((act.exec (service, sim.work)).1.map some,
      { sim with
        service := some (act.exec (service, sim.work)).2.1
        work := (act.exec (service, sim.work)).2.2 }) := by
  unfold onService
  rw [exec_bind_of_ok (exec_get sim), h]
  dsimp only
  rw [map_eq_pure_bind, exec_bind, exec_within]
  rcases (act.exec (service, sim.work)).1 <;> rfl

/-- The answer of an action is dropped. -/
theorem exec_drop (act : Action Simulation α) (sim : Simulation) :
    (do let _ ← act : Action Simulation Unit).exec sim =
      ((act.exec sim).1.map fun _ => (), (act.exec sim).2) := by
  rw [exec_bind]
  rcases act.exec sim with ⟨_ | _, _⟩ <;> rfl

end parts

/-! ## Polling loops -/

/-- A polling loop: that of the detector of its own, or that of the service's session. -/
inductive Loop where
  /-- The loop of a detector of its own, whose events are only recorded. -/
  | own
  /-- The loop of the session, whose events the service handles. -/
  | session
  deriving DecidableEq, Repr

namespace Loop

/-- What the timer of the loop starts. -/
def task : Loop → Task
  | .own => .detector
  | .session => .service

/-- Each loop has its own task. -/
theorem task_inj {loop loop' : Loop} (h : loop.task = loop'.task) : loop = loop' := by
  cases loop <;> cases loop' <;> simp_all [task]

/-- The detector that the loop polls. -/
def detector? (sim : Simulation) : Loop → Option Detector
  | .own => sim.detector
  | .session => sim.service.bind (·.detector)

/-- Put a detector in the place of the one that the loop polls. -/
def put (detector : Detector) (sim : Simulation) : Loop → Simulation
  | .own => { sim with detector := some detector }
  | .session =>
    { sim with
      service := sim.service.map fun service => { service with detector := some detector } }

/-- Do something with the detector that the loop polls, if there is one. -/
def control (act : Action (Detector × Workspace FaultyDesktop) Unit) : Loop → Action Simulation Unit
  | .own => do
    let _ ← onDetector act
  | .session => do
    let _ ← onService do
      match ← Service.read (·.detector) with
      | none => pure ()
      | some detector => Service.onDetector detector act

/-- One tick of the detector that the loop polls, with the handling of its events in order: the
detector of its own has them recorded, the session has the service handle them. -/
def round : Loop → Action Simulation Unit
  | .own => do
    let events ← onDetector Detector.tick
    modify fun sim => { sim with recorded := sim.recorded ++ events.getD [] }
  | .session => do
    let _ ← onService Service.round

variable {sim t : Simulation} {loop : Loop}

/-- To replace a detector is nothing to the workspace. -/
@[simp] theorem put_work (detector : Detector) (sim : Simulation) (loop : Loop) :
    (loop.put detector sim).work = sim.work := by
  cases loop <;> rfl

/-- What is done to the workspace is nothing to the detectors. -/
@[simp] theorem detector?_with_work (work : Workspace FaultyDesktop) (sim : Simulation)
    (loop : Loop) : loop.detector? { sim with work } = loop.detector? sim := by
  cases loop <;> rfl

/-- Nor is a detector anything to the scenarios. -/
@[simp] theorem put_scenarios (detector : Detector) (sim : Simulation) (loop : Loop) :
    (loop.put detector sim).scenarios = sim.scenarios := by
  cases loop <;> rfl

/-- The detector that was put there is found there. -/
theorem detector?_put {d : Detector} (h : loop.detector? sim = some d) (detector : Detector) :
    loop.detector? (loop.put detector sim) = some detector := by
  cases loop with
  | own => rfl
  | session =>
    obtain ⟨service, hservice, -⟩ := Option.bind_eq_some_iff.mp h
    simp [detector?, put, hservice]

/-- The other loop keeps its detector. -/
theorem detector?_put_of_ne {loop' : Loop} (h : loop' ≠ loop) (detector : Detector)
    (sim : Simulation) : loop'.detector? (loop.put detector sim) = loop'.detector? sim := by
  cases loop <;> cases loop' <;> first | exact absurd rfl h | rfl

/-- An order to a loop without a detector does nothing. -/
theorem control_exec_of_none (h : loop.detector? sim = none)
    (act : Action (Detector × Workspace FaultyDesktop) Unit) :
    (loop.control act).exec sim = (.ok (), sim) := by
  cases loop with
  | own =>
    unfold control
    rw [exec_drop, onDetector_exec_of_none h]
    rfl
  | session =>
    unfold control
    rw [exec_drop]
    rcases hservice : sim.service with _ | service
    · rw [onService_exec_of_none hservice]
      rfl
    · have hd : service.detector = none := by simpa [detector?, hservice] using h
      rw [onService_exec_of_some hservice,
        exec_bind_of_ok (Service.exec_read_of_eq (f := (·.detector)) hd)]
      show (Except.ok (), { sim with service := some service }) = _
      rw [← hservice]

/-- An action on the detector of a loop is an action on the detector and the workspace. -/
theorem control_exec_of_some {d : Detector} (h : loop.detector? sim = some d)
    (act : Action (Detector × Workspace FaultyDesktop) Unit) :
    (loop.control act).exec sim = ((act.exec (d, sim.work)).1,
      loop.put (act.exec (d, sim.work)).2.1 { sim with work := (act.exec (d, sim.work)).2.2 }) := by
  cases loop with
  | own =>
    unfold control
    rw [exec_drop, onDetector_exec_of_some h]
    rcases (act.exec (d, sim.work)).1 <;> rfl
  | session =>
    unfold control
    obtain ⟨service, hservice, hd⟩ := Option.bind_eq_some_iff.mp h
    rw [exec_drop, onService_exec_of_some hservice,
      exec_bind_of_ok (Service.exec_read_of_eq (f := (·.detector)) hd)]
    dsimp only [Service.onDetector, exec_within, put]
    rw [hservice]
    rcases (act.exec (d, sim.work)).1 <;> rfl

/-- Nothing is done to time, scenarios and the other loop. -/
structure Apart (loop : Loop) (sim t : Simulation) : Prop where
  /-- The time is the same; timers may have been armed. -/
  now : t.work.clock.now = sim.work.clock.now
  /-- No scenario has moved. -/
  scenarios : t.scenarios = sim.scenarios
  /-- The other loop has its detector as it was. -/
  other : ∀ loop', loop' ≠ loop → loop'.detector? t = loop'.detector? sim

/-- Doing nothing leaves all of that as it is. -/
theorem Apart.refl (loop : Loop) (sim : Simulation) : loop.Apart sim sim :=
  ⟨rfl, rfl, fun _ _ => rfl⟩

/-- A change of the detector, with a clock that shows the same time. -/
theorem control_apart {d d' : Detector} {clock : Clock}
    {act : Action (Detector × Workspace FaultyDesktop) Unit} (hd : loop.detector? sim = some d)
    (hact : act.exec (d, sim.work) = (.ok (), d', { sim.work with clock }))
    (hnow : clock.now = sim.work.clock.now) :
    ∃ t, (loop.control act).exec sim = (.ok (), t) ∧ loop.Apart sim t ∧
      loop.detector? t = some d' := by
  refine ⟨loop.put d' { sim with work := { sim.work with clock } }, ?_, ⟨?_, ?_, ?_⟩, ?_⟩
  · rw [control_exec_of_some hd, hact]
  · rw [put_work]
    exact hnow
  · rw [put_scenarios]
  · intro loop' hne
    rw [detector?_put_of_ne hne, detector?_with_work]
  · exact detector?_put (by rw [detector?_with_work, hd]) d'

/-- What the timer of a loop starts is a round, and the loop goes on unless the round was cut short.
For the detector of its own this is how it is defined; for the session the outcome is passed on
through the service. -/
theorem perform_task (loop : Loop) : perform loop.task = (do
    let ticked ← loop.round.outcome
    loop.control (Detector.proceed ticked)) := by
  ext1; funext sim
  rw [exec_bind_of_ok (exec_outcome loop.round sim)]
  cases loop with
  | own =>
    show pollDetector.exec sim = _
    unfold pollDetector round
    rw [exec_bind_of_ok (exec_outcome _ sim)]
    rcases he : (onDetector Detector.tick).exec sim with ⟨e | events, t⟩
    · rw [exec_bind_of_error he]
      rfl
    · rw [exec_bind_of_ok he]
      rfl
  | session =>
    show (do let _ ← onService Service.poll : Action Simulation Unit).exec sim = _
    unfold round
    rw [exec_drop, exec_drop]
    rcases hservice : sim.service with _ | service
    · rw [onService_exec_of_none hservice, onService_exec_of_none hservice,
        control_exec_of_none (by simp [detector?, hservice])]
      rfl
    · rw [onService_exec_of_some hservice, onService_exec_of_some hservice]
      unfold Service.poll
      rw [exec_bind_of_ok (exec_outcome _ _)]
      rcases hround : Service.round.exec (service, sim.work) with ⟨r, s, work⟩
      have hsame : (r.map some).map (fun _ => ()) = r := by rcases r with _ | ⟨⟩ <;> rfl
      dsimp only
      rw [hsame]
      rcases hd : s.detector with _ | d
      · rw [exec_bind_of_ok (Service.exec_read_of_eq (f := (·.detector)) hd),
          control_exec_of_none (by simp [detector?, hd])]
        rfl
      · rw [exec_bind_of_ok (Service.exec_read_of_eq (f := (·.detector)) hd),
          control_exec_of_some (d := d) (by simp [detector?, hd])]
        dsimp only [Service.onDetector, exec_within, put]
        rcases ((Detector.proceed r).exec (d, work)).1 <;> rfl

/-! ## Rounds -/

/-- How long a detector waits, and for when it is armed. -/
def pacing (detector : Detector) : Nat × Option Timer := (detector.interval, detector.loop)

/-- Clock, scenarios and the other loop stay as they are, and so does the pace of this one. -/
structure Rounded (loop : Loop) (sim sim' : Simulation) : Prop where
  /-- No timer is armed, and no time passes. -/
  clock : sim'.work.clock = sim.work.clock
  /-- No scenario has moved. -/
  scenarios : sim'.scenarios = sim.scenarios
  /-- The other loop has its detector as it was. -/
  other : ∀ loop', loop' ≠ loop → loop'.detector? sim' = loop'.detector? sim
  /-- Its own detector has the same interval and is armed for the same time. -/
  own : (loop.detector? sim').map pacing = (loop.detector? sim).map pacing

/-- Doing nothing is a round. -/
theorem Rounded.refl (loop : Loop) (sim : Simulation) : Rounded loop sim sim :=
  ⟨rfl, rfl, fun _ _ => rfl, rfl⟩

/-- Taking note of what was seen is no matter of the pace. -/
theorem pacing_noticed {d d' : Detector} (h : d.Noticed d') : pacing d' = pacing d := by
  obtain ⟨fullScreen, window, monitor, last, rfl⟩ := h.eq_with
  rfl

/-- A tick takes note, also if it is cut short. -/
theorem tick_noticed (d : Detector) (work : Workspace FaultyDesktop) :
    d.Noticed (Detector.tick.exec (d, work)).2.1 :=
  Ensures.exec_snd (I := fun q : Detector × Workspace FaultyDesktop => d.Noticed q.1)
    ((Detector.tick_ensures d work).mono (fun _ _ h => h.noticed) fun _ h => h.noticed)

/-- The round of a detector of its own. -/
theorem round_own_rounded (sim : Simulation) : Rounded .own sim (Loop.own.round.exec sim).2 := by
  unfold round
  rcases hd : sim.detector with _ | d
  · rw [exec_bind_of_ok (onDetector_exec_of_none hd _)]
    exact ⟨rfl, rfl, fun _ _ => rfl, rfl⟩
  · have hclock : ((Detector.tick.exec (d, sim.work)).2.2).clock = sim.work.clock :=
      (Detector.tick_conforms Workspace.requestsConform_clock.toQueriesConform).exec_snd
        (d, sim.work)
    have hticked : Rounded .own sim { sim with
        detector := some (Detector.tick.exec (d, sim.work)).2.1
        work := (Detector.tick.exec (d, sim.work)).2.2 } := by
      refine ⟨hclock, rfl, fun loop' hne => ?_, ?_⟩
      · cases loop' with
        | own => exact absurd rfl hne
        | session => rfl
      · simp [detector?, hd, pacing_noticed (tick_noticed d sim.work)]
    rw [exec_bind, onDetector_exec_of_some hd]
    rcases (Detector.tick.exec (d, sim.work)).1 with e | events
    · exact hticked
    · exact ⟨hticked.clock, hticked.scenarios, hticked.other, hticked.own⟩

/-- The round of the session. Its service may do anything to the windows, but not to the clock. -/
theorem round_session_rounded (sim : Simulation) :
    Rounded .session sim (Loop.session.round.exec sim).2 := by
  unfold round
  rw [exec_drop]
  rcases hservice : sim.service with _ | service
  · rw [onService_exec_of_none hservice]
    exact .refl .session sim
  · rw [onService_exec_of_some hservice]
    have hclock : ((Service.round.exec (service, sim.work)).2.2).clock = sim.work.clock :=
      (Service.round_conforms Workspace.requestsConform_clock).exec_snd (service, sim.work)
    refine ⟨hclock, rfl, fun loop' hne => ?_, ?_⟩
    · cases loop' with
      | own => rfl
      | session => exact absurd rfl hne
    · show ((Service.round.exec (service, sim.work)).2.1.detector).map pacing = _
      rcases hd : service.detector with _ | d
      · have hidle : Service.round.exec (service, sim.work) = (.ok (), (service, sim.work)) := by
          unfold Service.round
          rw [exec_bind_of_ok (Service.exec_read_of_eq (f := (·.detector)) hd)]
          rfl
        simp [hidle, detector?, hservice]
      · obtain ⟨d', hnoticed, htick⟩ := Service.exists_noticed d (service, sim.work)
        have hsame := Service.round_same (p := (service, sim.work)) hd
        rw [htick] at hsame
        rw [hsame.detector]
        simp [detector?, hservice, hd, pacing_noticed hnoticed]

/-- A round moves no timer and keeps to its own detector. -/
theorem round_rounded (loop : Loop) (sim : Simulation) :
    Rounded loop sim (loop.round.exec sim).2 := by
  cases loop with
  | own => exact round_own_rounded sim
  | session => exact round_session_rounded sim

end Loop

end Simulation

end SoloScreen
