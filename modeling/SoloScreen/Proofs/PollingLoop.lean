import SoloScreen.Proofs.Timekeeping
import SoloScreen.Proofs.Timetable

/-!
# The polling loop refines the manual tick

A polling loop that is started and gets orders ticks at the times of its timetable and at no other
time, whatever else has a timer; and where nothing else has one, the run is the same as ticking by
hand at these times.

* `Loop.run`, `Loop.runByHand`: a run of the loop, and the run that ticks by hand.
* `Loop.ticks`: the states in which a run begins a tick.
* `Loop.Armed`, `Loop.settle_tick`: the step, one settling in which the loop is due.
* `Loop.wait_armed`, `Loop.wait_by_hand`: the invariant of waiting, along the milliseconds.
* `Loop.stage_spec`, `Loop.obey_all`: one order, and all of them.
* `Simulation.polling_refines_ticks`: the main result.

In a run time passes after the start and after each order, if only for an instant, and to let time
pass begins with doing what is due. So a loop gets an order only when all that was due has run. Of
orders that follow a start or each other with nothing run in between, where an order could overtake
a tick that is due, nothing is said here.
-/

namespace SoloScreen

open SoloScreen.Action

namespace Simulation

/-! ## Runs of a loop -/

namespace Loop

/-- Start the loop. -/
def start : Loop → Action Simulation Unit
  | .own => do
    let _ ← onDetector Detector.start
  | .session => do
    let _ ← onService Service.start

/-- End the loop. -/
def stop : Loop → Action Simulation Unit
  | .own => do
    let _ ← onDetector Detector.stop
  | .session => do
    let _ ← onService Service.stop

/-- Give the loop an order. -/
def obey (loop : Loop) : Order → Action Simulation Unit
  | .retime interval => loop.control (Detector.setInterval interval)
  | .stop => loop.stop

/-- Start the loop and give it orders, each time with a stretch of time to pass. A stretch may be 0;
what is due runs all the same. -/
def run (loop : Loop) (stretch : Nat) (orders : List (Order × Nat)) : Action Simulation Unit := do
  loop.start
  advance stretch
  Action.each (fun told => do loop.obey told.1; advance told.2) orders

/-- One tick of the detector by hand at a certain time, with the handling of its events; the loop is
told that it happened. -/
def tickAt (loop : Loop) (time : Nat) : Action Simulation Unit := do
  modify (moveTo time)
  loop.round
  loop.control (Detector.proceed (.ok ()))
  modify runPump

/-- Give an order and tick by hand. -/
def playStage (loop : Loop) (stage : Stage) : Action Simulation Unit := do
  loop.obey stage.order
  modify runPump
  Action.each loop.tickAt stage.ticks
  modify (moveTo stage.ends)

/-- Start the loop and give it orders, and tick by hand at the times of the timetable. -/
def runByHand (loop : Loop) (interval start stretch : Nat) (orders : List (Order × Nat)) :
    Action Simulation Unit := do
  loop.start
  Action.each loop.tickAt (start :: ticksAfter start (sanitized interval) stretch)
  modify (moveTo (start + stretch))
  Action.each loop.playStage (stages true (start + stretch) orders)

/-! ## The ticks of a run -/

/-- The states in which the loop begins a tick while tasks are done. -/
def ticksDoing (loop : Loop) : List Task → Simulation → List Simulation
  | [], _ => []
  | task :: rest, sim =>
    if task = loop.task then sim :: loop.ticksDoing rest ((perform task).exec sim).2
    else loop.ticksDoing rest ((perform task).exec sim).2

/-- The states in which the loop begins a tick when all that is due is done. -/
def ticksSettling (loop : Loop) (sim : Simulation) : List Simulation := loop.ticksDoing sim.due sim

/-- The states in which the loop begins a tick within some milliseconds. -/
def ticksWaiting (loop : Loop) (n : Nat) (sim : Simulation) : List Simulation :=
  (List.range n).flatMap fun k =>
    loop.ticksSettling ((Action.times k waitOnce).exec sim).2.later

/-- The states in which the loop begins a tick while time passes. -/
def ticksAdvancing (loop : Loop) (n : Nat) (sim : Simulation) : List Simulation :=
  loop.ticksSettling sim ++ loop.ticksWaiting n (settle.exec sim).2

/-- The states in which the loop begins a tick while it gets orders. -/
def ticksObeying (loop : Loop) : List (Order × Nat) → Simulation → List Simulation
  | [], _ => []
  | (order, stretch) :: rest, sim =>
    loop.ticksAdvancing stretch ((loop.obey order).exec sim).2 ++
      loop.ticksObeying rest ((advance stretch).exec ((loop.obey order).exec sim).2).2

/-- The states in which the loop begins a tick in a run. -/
def ticks (loop : Loop) (stretch : Nat) (orders : List (Order × Nat)) (sim : Simulation) :
    List Simulation :=
  loop.ticksAdvancing stretch (loop.start.exec sim).2 ++
    loop.ticksObeying orders ((advance stretch).exec (loop.start.exec sim).2).2

/-- No tick is cut short. -/
def Calm (loop : Loop) (ticks : List Simulation) : Prop :=
  ∀ sim ∈ ticks, (loop.round.exec sim).1 = .ok ()

/-! ## Armed loops -/

/-- The loop ticks next when it is `due`, and goes on with a period. -/
def Armed (loop : Loop) (due period : Nat) (sim : Simulation) : Prop :=
  ∃ order, (loop.detector? sim).map pacing = some (period, some ⟨due, order⟩)

/-- The loop does not run. -/
def Idle (loop : Loop) (sim : Simulation) : Prop := sim.timer? loop.task = none

/-- No other task has a timer. -/
def Sole (loop : Loop) (sim : Simulation) : Prop :=
  ∀ task, task ≠ loop.task → sim.timer? task = none

variable {loop : Loop} {sim t : Simulation} {due period n : Nat}

/-- It depends on its detector alone whether a loop is armed. -/
theorem armed_congr (h : loop.detector? t = loop.detector? sim) :
    loop.Armed due period t ↔ loop.Armed due period sim := by
  unfold Armed
  rw [h]

/-- And whether it is idle. -/
theorem idle_congr (h : loop.detector? t = loop.detector? sim) : loop.Idle t ↔ loop.Idle sim := by
  unfold Idle
  rw [timer?_task, timer?_task, h]

/-- The timer of a loop that is armed, with the place in the order of arming left open. -/
theorem Armed.timer? (h : loop.Armed due period sim) :
    ∃ order, sim.timer? loop.task = some ⟨due, order⟩ := by
  obtain ⟨order, h⟩ := h
  obtain ⟨d, hd, hpacing⟩ := Option.map_eq_some_iff.mp h
  refine ⟨order, ?_⟩
  rw [timer?_task, hd]
  exact congrArg Prod.snd hpacing

/-- A loop that is armed is due when the time has come. -/
theorem Armed.mem_due (h : loop.Armed due period sim) :
    loop.task ∈ sim.due ↔ due ≤ sim.work.clock.now := by
  obtain ⟨order, htimer⟩ := h.timer?
  rw [Simulation.mem_due, htimer]
  simp

/-- A loop that does not run is never due. -/
theorem Idle.not_mem_due (h : loop.Idle sim) : loop.task ∉ sim.due := by
  rw [mem_due, h]
  simp

/-- A round that is not cut short, after which the loop goes on. -/
theorem perform_of_ok (hround : (loop.round.exec sim).1 = .ok ()) :
    (perform loop.task).exec sim = (do
      loop.round
      loop.control (Detector.proceed (.ok ())) : Action Simulation Unit).exec sim := by
  have he : loop.round.exec sim = (.ok (), (loop.round.exec sim).2) := by rw [← hround]
  rw [perform_task, exec_bind_of_ok (exec_outcome _ _), exec_bind_of_ok he, hround]

/-- After a tick that is not cut short the loop is armed again. -/
theorem perform_armed (h : loop.Armed due period sim) (hround : (loop.round.exec sim).1 = .ok ()) :
    loop.Armed (sim.work.clock.now + period) period ((perform loop.task).exec sim).2 := by
  have hrounded := loop.round_rounded sim
  rcases he : loop.round.exec sim with ⟨r, t⟩
  rw [he] at hround hrounded
  obtain rfl : r = .ok () := hround
  obtain ⟨order, h⟩ := h
  obtain ⟨d, hd, hpacing⟩ := Option.map_eq_some_iff.mp (hrounded.own.trans h)
  have hinterval : d.interval = period := congrArg Prod.fst hpacing
  have hact : (Detector.proceed (.ok ())).exec (d, t.work) = (.ok (),
      { d with loop := some (t.work.clock.arm d.interval).1 },
      { t.work with clock := (t.work.clock.arm d.interval).2 }) := rfl
  obtain ⟨t', ht', -, hd'⟩ := control_apart hd hact rfl
  rw [perform_of_ok (by rw [he]), exec_bind_of_ok he, ht']
  refine ⟨t.work.clock.armed, ?_⟩
  rw [hd', ← hinterval, ← hrounded.clock]
  rfl

/-! ## Settling -/

/-- Other tasks leave the loop alone. -/
theorem doing_others {tasks : List Task} (h : loop.task ∉ tasks) :
    loop.ticksDoing tasks sim = [] ∧
      loop.detector? ((Action.each perform tasks).exec sim).2 = loop.detector? sim := by
  induction tasks generalizing sim with
  | nil => exact ⟨rfl, rfl⟩
  | cons task rest ih =>
    have hne := List.ne_of_not_mem_cons h
    obtain ⟨hticks, hdetector⟩ := @ih ((perform task).exec sim).2 (List.not_mem_of_not_mem_cons h)
    rw [ticksDoing, if_neg (Ne.symm hne), each_perform_cons, hdetector]
    exact ⟨hticks, (perform_exec task sim).2.other loop hne⟩

/-- Among the tasks that are due the loop ticks once. The induction is on the tasks: those before
its own leave it armed as it is, and those after it leave it armed for the next time. -/
theorem doing_tick {tasks : List Task} (hnodup : tasks.Nodup) (hmem : loop.task ∈ tasks)
    (h : loop.Armed due period sim) (hcalm : loop.Calm (loop.ticksDoing tasks sim)) :
    (loop.ticksDoing tasks sim).map (·.work.clock.now) = [sim.work.clock.now] ∧
      loop.Armed (sim.work.clock.now + period) period
        ((Action.each perform tasks).exec sim).2 := by
  induction tasks generalizing sim with
  | nil => exact absurd hmem List.not_mem_nil
  | cons task rest ih =>
    obtain ⟨hfirst, hrest⟩ := List.nodup_cons.mp hnodup
    rw [each_perform_cons]
    by_cases htask : task = loop.task
    · subst htask
      rw [ticksDoing, if_pos rfl] at hcalm ⊢
      obtain ⟨hticks, hdetector⟩ := @doing_others _ ((perform loop.task).exec sim).2 _ hfirst
      rw [hticks, armed_congr hdetector]
      exact ⟨rfl, perform_armed h (hcalm sim List.mem_cons_self)⟩
    · have hturned := (perform_exec task sim).2
      rw [ticksDoing, if_neg htask] at hcalm ⊢
      rw [← hturned.now]
      exact ih hrest (List.mem_of_ne_of_mem (Ne.symm htask) hmem)
        ((armed_congr (hturned.other loop (Ne.symm htask))).mpr h) hcalm

/-- A loop that is not due does not tick, and stays as it is. -/
theorem settle_others (h : loop.task ∉ sim.due) :
    loop.ticksSettling sim = [] ∧ loop.detector? (settle.exec sim).2 = loop.detector? sim := by
  obtain ⟨hticks, hdetector⟩ := @doing_others _ sim _ h
  refine ⟨hticks, ?_⟩
  rw [settle_exec]
  exact (runPump_detector? _ loop).trans hdetector

/-- A loop that is due ticks now, and is armed for an interval from now on. -/
theorem settle_tick (h : loop.Armed due period sim) (hdue : due ≤ sim.work.clock.now)
    (hcalm : loop.Calm (loop.ticksSettling sim)) :
    (loop.ticksSettling sim).map (·.work.clock.now) = [sim.work.clock.now] ∧
      loop.Armed (sim.work.clock.now + period) period (settle.exec sim).2 := by
  obtain ⟨hticks, harmed⟩ := doing_tick sim.due_nodup (h.mem_due.mpr hdue) h hcalm
  refine ⟨hticks, ?_⟩
  rw [settle_exec]
  exact (armed_congr (runPump_detector? _ loop)).mpr harmed

/-- A loop that is armed for later does not tick. -/
theorem settle_early (h : loop.Armed due period sim) (hdue : sim.work.clock.now < due) :
    loop.ticksSettling sim = [] ∧ loop.Armed due period (settle.exec sim).2 := by
  obtain ⟨hticks, hdetector⟩ :=
    settle_others fun hmem => Nat.not_le_of_lt hdue (h.mem_due.mp hmem)
  exact ⟨hticks, (armed_congr hdetector).mpr h⟩

/-- A loop that does not run does not tick either. -/
theorem settle_idle (h : loop.Idle sim) :
    loop.ticksSettling sim = [] ∧ loop.Idle (settle.exec sim).2 := by
  obtain ⟨hticks, hdetector⟩ := settle_others h.not_mem_due
  exact ⟨hticks, (idle_congr hdetector).mpr h⟩

/-! ## Waiting -/

/-- If no tick of two stretches is cut short, none of either is. -/
theorem Calm.append {before after : List Simulation} (h : loop.Calm (before ++ after)) :
    loop.Calm before ∧ loop.Calm after :=
  List.forall_mem_append.mp h

/-- The ticks of the last millisecond come after the others. -/
theorem ticksWaiting_succ (loop : Loop) (n : Nat) (sim : Simulation) :
    loop.ticksWaiting (n + 1) sim = loop.ticksWaiting n sim ++
      loop.ticksSettling ((Action.times n waitOnce).exec sim).2.later := by
  unfold ticksWaiting
  rw [List.range_succ, List.flatMap_append, List.flatMap_singleton]

/-- A millisecond later a loop is armed for the same time. -/
theorem Armed.later (h : loop.Armed due period sim) : loop.Armed due period sim.later :=
  (armed_congr (moveTo_detector? _ sim loop)).mpr h

/-- And an idle one is idle. -/
theorem Idle.later (h : loop.Idle sim) : loop.Idle sim.later :=
  (idle_congr (moveTo_detector? _ sim loop)).mpr h

/-- An idle loop stays idle and does not tick. -/
theorem wait_idle (h : loop.Idle sim) (n : Nat) :
    loop.ticksWaiting n sim = [] ∧ loop.Idle ((Action.times n waitOnce).exec sim).2 := by
  induction n with
  | zero => exact ⟨rfl, h⟩
  | succ n ih =>
    obtain ⟨hticks, hidle⟩ := ih
    obtain ⟨hlast, hsettled⟩ := settle_idle hidle.later
    rw [ticksWaiting_succ, hticks, hlast, times_waitOnce_succ]
    exact ⟨rfl, hsettled⟩

/-- A loop ticks after each period. After `n` milliseconds it is armed for the first whole period
beyond them; this is the invariant, and one more millisecond either reaches that time or does
not. -/
theorem wait_armed (hperiod : 0 < period)
    (h : loop.Armed (sim.work.clock.now + period) period sim) (n : Nat)
    (hcalm : loop.Calm (loop.ticksWaiting n sim)) :
    (loop.ticksWaiting n sim).map (·.work.clock.now) = ticksAfter sim.work.clock.now period n ∧
      loop.Armed (sim.work.clock.now + (n / period + 1) * period) period
        ((Action.times n waitOnce).exec sim).2 := by
  induction n with
  | zero =>
    rw [Nat.zero_div, Nat.zero_add, Nat.one_mul]
    exact ⟨by simp [ticksWaiting, ticksAfter], h⟩
  | succ n ih =>
    rw [ticksWaiting_succ] at hcalm ⊢
    obtain ⟨hbefore, hlast⟩ := hcalm.append
    obtain ⟨hticks, harmed⟩ := ih hbefore
    have hnow := times_waitOnce_now n sim
    rw [times_waitOnce_succ, List.map_append, hticks]
    generalize ((Action.times n waitOnce).exec sim).2 = t at harmed hlast hnow ⊢
    replace harmed := harmed.later
    have hlater : t.later.work.clock.now = sim.work.clock.now + (n + 1) := by
      rw [← Nat.add_assoc, ← hnow]
      rfl
    rcases ticksAfter_succ hperiod sim.work.clock.now n with
      ⟨hfull, hdiv, hnext⟩ | ⟨hearly, hdiv, hnext⟩
    · rw [hfull, ← hlater] at harmed
      obtain ⟨htick, hagain⟩ := settle_tick harmed (Nat.le_refl _) hlast
      have hdue : sim.work.clock.now + (n / period + 1 + 1) * period =
          t.later.work.clock.now + period := by
        rw [Nat.succ_mul, hfull, ← Nat.add_assoc, hlater]
      rw [hnext, htick, hdiv, hdue, hlater]
      exact ⟨rfl, hlater ▸ hagain⟩
    · have hlate : t.later.work.clock.now <
          sim.work.clock.now + (n / period + 1) * period := by omega
      obtain ⟨hnone, hstill⟩ := settle_early harmed hlate
      rw [hnext, hnone, hdiv]
      exact ⟨List.append_nil _, hstill⟩

/-! ## Ticking by hand -/

/-- Doing what is due gives no timer to a task that had none. -/
theorem Sole.settle (h : loop.Sole sim) : loop.Sole (settle.exec sim).2 := by
  intro task hne
  have hnone := h task hne
  rw [settle_timer? fun hmem => ?_, hnone]
  obtain ⟨timer, htimer, -⟩ := Simulation.mem_due.mp hmem
  rw [hnone] at htimer
  cases htimer

/-- Only the loop that is alone can be due. -/
theorem Sole.eq_of_mem_due (h : loop.Sole sim) {task : Task} (hmem : task ∈ sim.due) :
    task = loop.task := by
  obtain ⟨timer, htimer, -⟩ := Simulation.mem_due.mp hmem
  rcases Decidable.em (task = loop.task) with htask | hne
  · exact htask
  · rw [h task hne] at htimer
    cases htimer

/-- Nothing else is due. -/
theorem Sole.due_eq_nil (h : loop.Sole sim) (hmem : loop.task ∉ sim.due) : sim.due = [] :=
  List.eq_nil_iff_forall_not_mem.mpr fun _ htask => hmem (h.eq_of_mem_due htask ▸ htask)

/-- If it is, it is the only one. -/
theorem Sole.due_eq (h : loop.Sole sim) (hmem : loop.task ∈ sim.due) : sim.due = [loop.task] := by
  have hnodup := sim.due_nodup
  rcases hdue : sim.due with _ | ⟨first, rest⟩
  · rw [hdue] at hmem
    exact absurd hmem List.not_mem_nil
  · obtain rfl := h.eq_of_mem_due (hdue ▸ List.mem_cons_self : first ∈ sim.due)
    rw [hdue, List.nodup_cons] at hnodup
    obtain rfl : rest = [] := List.eq_nil_iff_forall_not_mem.mpr fun task htask =>
      hnodup.1 (h.eq_of_mem_due (hdue ▸ List.mem_cons_of_mem _ htask : task ∈ sim.due) ▸ htask)
    rfl

/-- Where the loop alone is due, settling is a tick by hand: a round, the order to go on, and the
pump. -/
theorem settle_by_hand (hsole : loop.Sole sim) (h : loop.Armed due period sim)
    (hdue : due ≤ sim.work.clock.now) (hcalm : loop.Calm (loop.ticksSettling sim)) :
    settle.exec sim = (loop.tickAt sim.work.clock.now).exec sim := by
  have hone := hsole.due_eq (h.mem_due.mpr hdue)
  have hround : (loop.round.exec sim).1 = .ok () := by
    refine hcalm sim ?_
    unfold ticksSettling
    rw [hone, ticksDoing, if_pos rfl]
    exact List.mem_cons_self
  have hperform := (perform_of_ok hround).symm.trans (perform_exec loop.task sim).1
  rw [settle_exec, hone, each_perform_cons]
  show _ = (do loop.round; loop.control (Detector.proceed (.ok ())); modify runPump :
    Action Simulation Unit).exec sim
  rw [← bind_assoc, exec_bind_of_ok hperform]
  rfl

/-- A tick by hand does not ask what time it was before, and does not move the clock any more. -/
theorem tickAt_by_hand {u : Simulation} {time : Nat} (hsole : loop.Sole (u.moveTo time))
    (h : loop.Armed time period (u.moveTo time))
    (hcalm : loop.Calm (loop.ticksSettling (u.moveTo time))) :
    ∃ w, (loop.tickAt time).exec u = (.ok (), w) ∧
      settle.exec (u.moveTo time) = (.ok (), w.moveTo time) := by
  have htick := settle_by_hand hsole h (Nat.le_refl _) hcalm
  have hstays := moveTo_of_now (settle_now (u.moveTo time))
  refine ⟨(settle.exec (u.moveTo time)).2, ?_, ?_⟩
  · show (loop.tickAt time).exec (u.moveTo time) = _
    refine htick.symm.trans ?_
    rw [settle_exec]
  · rw [show (settle.exec (u.moveTo time)).2.moveTo time = _ from hstays, settle_exec]

/-- Where nothing is due, the pump runs. -/
theorem settle_nothing (hsole : loop.Sole sim) (h : loop.task ∉ sim.due) :
    settle.exec sim = (.ok (), sim.runPump) := by
  rw [settle_exec, hsole.due_eq_nil h]
  rfl

/-- A loop is alone a millisecond later too. -/
theorem Sole.later (h : loop.Sole sim) : loop.Sole sim.later :=
  fun task hne => (moveTo_timer? _ sim task).trans (h task hne)

/-- And after waiting. -/
theorem Sole.wait (h : loop.Sole sim) (n : Nat) :
    loop.Sole ((Action.times n waitOnce).exec sim).2 := by
  induction n with
  | zero => exact h
  | succ n ih =>
    rw [times_waitOnce_succ]
    exact ih.later.settle

/-- And after any stretch of time. -/
theorem Sole.advance (h : loop.Sole sim) (n : Nat) : loop.Sole ((advance n).exec sim).2 := by
  rw [advance_exec]
  exact h.settle.wait n

/-- While nothing happens the clock moves. -/
theorem wait_idle_by_hand (hsole : loop.Sole sim) (hpumped : sim.runPump = sim)
    (h : loop.Idle sim) (n : Nat) : (Action.times n waitOnce).exec sim =
      (.ok (), sim.moveTo (sim.work.clock.now + n)) := by
  induction n with
  | zero => rfl
  | succ n ih =>
    have hidle := (wait_idle h n).2
    have hstill := hsole.wait n
    rw [times_waitOnce_succ]
    rw [ih] at hidle hstill ⊢
    rw [settle_nothing hstill.later hidle.later.not_mem_due]
    show (Except.ok (), (sim.moveTo (sim.work.clock.now + (n + 1))).runPump) = _
    rw [runPump_moveTo, hpumped]

/-- A loop that is alone ticks as if by hand after each period. Ticking by hand sets the clock only
at the ticks, so between them the two runs differ in the time; `u` is the state in which the ticks
by hand leave the simulation, and it is the state of the run but for the clock. -/
theorem wait_by_hand (hperiod : 0 < period) (hsole : loop.Sole sim) (hpumped : sim.runPump = sim)
    (h : loop.Armed (sim.work.clock.now + period) period sim) (n : Nat)
    (hcalm : loop.Calm (loop.ticksWaiting n sim)) :
    ∃ u, (Action.each loop.tickAt (ticksAfter sim.work.clock.now period n)).exec sim =
        (.ok (), u) ∧
      (Action.times n waitOnce).exec sim = (.ok (), u.moveTo (sim.work.clock.now + n)) := by
  induction n with
  | zero => exact ⟨sim, by simp [ticksAfter, Action.each], rfl⟩
  | succ n ih =>
    rw [ticksWaiting_succ] at hcalm
    obtain ⟨hbefore, hlast⟩ := hcalm.append
    obtain ⟨u, hu, ht⟩ := ih hbefore
    have harmed := (wait_armed hperiod h n hbefore).2
    have hstill := hsole.wait n
    have hquiet := times_waitOnce_pumped hpumped n
    rw [times_waitOnce_succ]
    rw [ht] at harmed hstill hquiet hlast ⊢
    replace harmed := harmed.later
    rcases ticksAfter_succ hperiod sim.work.clock.now n with
      ⟨hfull, -, hnext⟩ | ⟨hearly, -, hnext⟩
    · rw [hfull] at harmed
      obtain ⟨w, hw, hsettled⟩ := tickAt_by_hand hstill.later harmed hlast
      refine ⟨w, ?_, hsettled⟩
      rw [hnext, each_append, exec_bind_of_ok hu]
      exact exec_bind_of_ok hw
    · refine ⟨u, by rw [hnext]; exact hu, ?_⟩
      have hlate : (u.moveTo (sim.work.clock.now + n)).later.work.clock.now <
          sim.work.clock.now + (n / period + 1) * period := by
        show sim.work.clock.now + n + 1 < _
        omega
      rw [settle_nothing hstill.later fun hmem => Nat.not_le_of_lt hlate (harmed.mem_due.mp hmem)]
      show (Except.ok (), ((u.moveTo (sim.work.clock.now + n)).moveTo _).runPump) = _
      rw [runPump_moveTo, hquiet]
      rfl

/-! ## Stretches of time -/

/-- The loop runs, and not too fast, or it does not run. -/
def InPhase (loop : Loop) : Bool → Simulation → Prop
  | true, sim => ∃ due period, Detector.minInterval ≤ period ∧ loop.Armed due period sim
  | false, sim => loop.Idle sim

/-- What a stretch of time is to a loop that ticks at certain times in it: where the loop is alone,
the time passes as if by hand from `begun` on. -/
structure Passes (loop : Loop) (times : List Nat) (n : Nat) (sim begun : Simulation)
    (running : Bool) : Prop where
  /-- The loop ticks at these times. -/
  ticks : (loop.ticksAdvancing n sim).map (·.work.clock.now) = times
  /-- Afterwards it runs, or it does not. -/
  phase : loop.InPhase running ((advance n).exec sim).2
  /-- Ticking by hand at these times, and then setting the clock, does the same. -/
  byHand : loop.Sole sim → ∃ u, (Action.each loop.tickAt times).exec begun = (.ok (), u) ∧
    (advance n).exec sim = (.ok (), u.moveTo (sim.work.clock.now + n))

/-- A stretch of time is nothing to a loop that does not run. -/
theorem advance_idle (h : loop.Idle sim) (n : Nat) : loop.Passes [] n sim sim.runPump false := by
  obtain ⟨hnone, hidle⟩ := settle_idle h
  obtain ⟨hlast, hstill⟩ := wait_idle hidle n
  refine ⟨?_, ?_, fun hsole => ⟨sim.runPump, rfl, ?_⟩⟩
  · unfold ticksAdvancing
    rw [hnone, hlast]
    rfl
  · rw [advance_exec]
    exact hstill
  · have hsettled := settle_nothing hsole h.not_mem_due
    have hquiet := hsole.settle
    rw [hsettled] at hquiet hidle
    rw [advance_exec, hsettled, wait_idle_by_hand hquiet (runPump_runPump sim) hidle, runPump_work]

/-- A loop that was just given an interval does not tick at once. -/
theorem advance_armed (hperiod : Detector.minInterval ≤ period)
    (h : loop.Armed (sim.work.clock.now + period) period sim)
    (hcalm : loop.Calm (loop.ticksAdvancing n sim)) :
    loop.Passes (ticksAfter sim.work.clock.now period n) n sim sim.runPump true := by
  have hpos : 0 < period := Nat.lt_of_lt_of_le (by decide) hperiod
  have hearly : sim.work.clock.now < sim.work.clock.now + period := Nat.lt_add_of_pos_right hpos
  obtain ⟨hnone, harmed⟩ := settle_early h hearly
  rw [← settle_now] at harmed
  obtain ⟨hticks, hagain⟩ := wait_armed hpos harmed n hcalm.append.2
  refine ⟨?_, ?_, fun hsole => ?_⟩
  · unfold ticksAdvancing
    rw [hnone, List.nil_append, hticks, settle_now]
  · rw [advance_exec]
    exact ⟨_, _, hperiod, hagain⟩
  · have hsettled := settle_nothing hsole fun hmem => Nat.not_le_of_lt hearly (h.mem_due.mp hmem)
    have hwaited := wait_by_hand hpos hsole.settle (settle_pumped sim) harmed n hcalm.append.2
    rw [← advance_exec, settle_now] at hwaited
    rwa [hsettled] at hwaited

/-- A loop that was just started ticks at once. Its first tick belongs to the stretch that follows
the start, also if that is empty. -/
theorem advance_started (hperiod : Detector.minInterval ≤ period)
    (h : loop.Armed sim.work.clock.now period sim)
    (hcalm : loop.Calm (loop.ticksAdvancing n sim)) :
    loop.Passes (sim.work.clock.now :: ticksAfter sim.work.clock.now period n) n sim sim true := by
  have hpos : 0 < period := Nat.lt_of_lt_of_le (by decide) hperiod
  obtain ⟨hfirst, hlast⟩ := hcalm.append
  obtain ⟨htick, harmed⟩ := settle_tick h (Nat.le_refl _) hfirst
  have hnow := settle_now sim
  rw [← hnow] at harmed
  obtain ⟨hticks, hagain⟩ := wait_armed hpos harmed n hlast
  refine ⟨?_, ?_, fun hsole => ?_⟩
  · unfold ticksAdvancing
    rw [List.map_append, htick, hticks, hnow]
    rfl
  · rw [advance_exec]
    exact ⟨_, _, hperiod, hagain⟩
  · obtain ⟨u, hu, hwaited⟩ := wait_by_hand hpos hsole.settle (settle_pumped sim) harmed n hlast
    have hhand := (settle_by_hand hsole h (Nat.le_refl _) hfirst).symm.trans (settle_exec sim)
    rw [hnow] at hu hwaited
    refine ⟨u, ?_, by rw [advance_exec, hwaited]⟩
    rw [settle_exec] at hu
    exact (exec_bind_of_ok hhand).trans hu

/-! ## Orders -/

/-- An order to a loop gives no other task a timer. -/
theorem Apart.sole (h : loop.Apart sim t) (hsole : loop.Sole sim) : loop.Sole t := by
  intro task hne
  rw [timer?_congr (fun loop' htask => h.other loop' ?_) fun index _ => by rw [h.scenarios]]
  · exact hsole task hne
  · rintro rfl
    exact hne htask.symm

/-- A running loop that is given another interval waits for it. -/
theorem obey_retime (h : loop.Armed due period sim) (interval : Nat) :
    ∃ t, (loop.obey (.retime interval)).exec sim = (.ok (), t) ∧ loop.Apart sim t ∧
      loop.Armed (sim.work.clock.now + sanitized interval) (sanitized interval)
        t := by
  obtain ⟨order, h⟩ := h
  obtain ⟨d, hd, hpacing⟩ := Option.map_eq_some_iff.mp h
  have hloop : d.loop = some ⟨due, order⟩ := congrArg Prod.snd hpacing
  have hact : (Detector.setInterval interval).exec (d, sim.work) = (.ok (),
      { d with
        interval := sanitized interval
        loop := some (sim.work.clock.arm (sanitized interval)).1 },
      { sim.work with clock := (sim.work.clock.arm (sanitized interval)).2 }) := by
    obtain ⟨_, _, _, _, _, _, _⟩ := d
    obtain rfl : _ = some _ := hloop
    rfl
  obtain ⟨t, ht, hapart, hd'⟩ := control_apart hd hact rfl
  refine ⟨t, ht, hapart, sim.work.clock.armed, ?_⟩
  rw [hd']
  rfl

/-- A loop without a detector does not run. -/
theorem idle_of_none (h : loop.detector? sim = none) : loop.Idle sim := by
  unfold Idle
  rw [timer?_task, h]
  rfl

/-- Nor does one whose detector is not armed. -/
theorem idle_of_some {d : Detector} (h : loop.detector? sim = some d) (hloop : d.loop = none) :
    loop.Idle sim := by
  unfold Idle
  rw [timer?_task, h]
  exact hloop

/-- A loop that does not run keeps an interval for later. -/
theorem obey_retime_idle (h : loop.Idle sim) (interval : Nat) :
    ∃ t, (loop.obey (.retime interval)).exec sim = (.ok (), t) ∧ loop.Apart sim t ∧
      loop.Idle t := by
  rcases hd : loop.detector? sim with _ | d
  · exact ⟨sim, control_exec_of_none hd _, .refl loop sim, h⟩
  · have hloop : d.loop = none := by
      unfold Idle at h
      rwa [timer?_task, hd] at h
    have hact : (Detector.setInterval interval).exec (d, sim.work) = (.ok (),
        { d with interval := sanitized interval },
        { sim.work with clock := sim.work.clock }) := by
      obtain ⟨_, _, _, _, _, _, _⟩ := d
      obtain rfl : _ = none := hloop
      rfl
    obtain ⟨t, ht, hapart, hd'⟩ := control_apart hd hact rfl
    exact ⟨t, ht, hapart, idle_of_some hd' hloop⟩

/-- A loop that is told to end does not run, whether it ran before or not. -/
theorem obey_stop (loop : Loop) (sim : Simulation) :
    ∃ t, (loop.obey .stop).exec sim = (.ok (), t) ∧ loop.Apart sim t ∧ loop.Idle t := by
  cases loop with
  | own =>
    rcases hd : detector? sim .own with _ | d
    · exact ⟨sim, control_exec_of_none hd Detector.stop, .refl .own sim, idle_of_none hd⟩
    · have hact : Detector.stop.exec (d, sim.work) = (.ok (), { d with loop := none },
        { sim.work with clock := sim.work.clock }) := rfl
      obtain ⟨t, ht, hapart, hd'⟩ := control_apart hd hact rfl
      exact ⟨t, ht, hapart, idle_of_some hd' rfl⟩
  | session =>
    show ∃ t, (do let _ ← onService Service.stop : Action Simulation Unit).exec sim = _ ∧ _
    rw [exec_drop]
    rcases hservice : sim.service with _ | service
    · rw [onService_exec_of_none hservice]
      exact ⟨sim, rfl, .refl .session sim, idle_of_none (by simp [detector?, hservice])⟩
    · rw [onService_exec_of_some hservice]
      have hstop : ∃ ended, Service.stop.exec (service, sim.work) = (.ok (), (ended, sim.work)) ∧
          ended.detector = none := by
        rcases hd : service.detector with _ | d
        · exact ⟨_, exec_bind_of_ok (Service.stopWith_exec_of_none hd), hd⟩
        · exact ⟨_, exec_bind_of_ok (Service.stopWith_exec_of_some hd), rfl⟩
      obtain ⟨ended, hended, hd⟩ := hstop
      rw [hended]
      refine ⟨_, rfl, ⟨rfl, rfl, fun loop' hne => ?_⟩, idle_of_none hd⟩
      cases loop' with
      | own => rfl
      | session => exact absurd rfl hne

/-- There is a detector to poll, which was given an interval, or a service to start a session with
its interval; the loop does not run yet. -/
def Ready (interval : Nat) (sim : Simulation) : Loop → Prop
  | .own => ∃ d, sim.detector = some d ∧ d.loop = none ∧ d.interval = sanitized interval
  | .session => ∃ service, sim.service = some service ∧ service.detector = none ∧
    service.settings.clampedInterval = interval

/-- A detector that was just put there is ready to be started. -/
theorem newDetector_ready (targets : List String) (interval : Nat) (sim : Simulation) :
    Loop.own.Ready interval ((newDetector targets interval).exec sim).2 :=
  ⟨_, rfl, rfl, rfl⟩

/-- A service that was just put there is ready to start a session. -/
theorem newService_ready (settings : Settings) (sim : Simulation) :
    Loop.session.Ready settings.clampedInterval ((newService settings).exec sim).2 :=
  ⟨_, rfl, rfl, rfl⟩

/-- A loop that is started is due at once. -/
theorem start_armed {interval : Nat} (h : loop.Ready interval sim) :
    ∃ t, loop.start.exec sim = (.ok (), t) ∧ loop.Apart sim t ∧
      loop.Armed sim.work.clock.now (sanitized interval) t := by
  cases loop with
  | own =>
    obtain ⟨d, hd, hloop, hinterval⟩ := h
    have hact : Detector.start.exec (d, sim.work) = (.ok true,
        { d with loop := some (sim.work.clock.arm 0).1 },
        { sim.work with clock := (sim.work.clock.arm 0).2 }) := by
      obtain ⟨_, _, _, _, _, _, _⟩ := d
      obtain rfl : _ = none := hloop
      rfl
    have hstart : (Loop.own.start).exec sim = (.ok (),
        Loop.own.put { d with loop := some (sim.work.clock.arm 0).1 } { sim with
          work := { sim.work with clock := (sim.work.clock.arm 0).2 } }) := by
      show (do let _ ← onDetector Detector.start : Action Simulation Unit).exec sim = _
      rw [exec_drop, onDetector_exec_of_some hd, hact]
      rfl
    refine ⟨_, hstart, ⟨rfl, rfl, fun loop' hne => ?_⟩, sim.work.clock.armed, ?_⟩
    · rw [detector?_put_of_ne hne, detector?_with_work]
    · rw [← hinterval]
      rfl
  | session =>
    obtain ⟨service, hservice, hd, rfl⟩ := h
    show ∃ t, (do let _ ← onService (Service.startWith none) : Action Simulation Unit).exec sim =
      _ ∧ _
    rw [exec_drop, onService_exec_of_some hservice, Service.startWith_exec_of_none hd]
    refine ⟨_, rfl, ⟨rfl, rfl, fun loop' hne => ?_⟩, sim.work.clock.armed, rfl⟩
    cases loop' with
    | own => rfl
    | session => exact absurd rfl hne

/-! ## Runs -/

/-- A loop that is alone and in phase keeps the pace, and so does the simulation, which has no
other. -/
theorem Sole.paced {running : Bool} (h : loop.Sole sim) (hphase : loop.InPhase running sim) :
    sim.Paced := by
  intro loop' d hd hloop
  obtain ⟨timer, htimer⟩ := Option.isSome_iff_exists.mp hloop
  have hrunning : sim.timer? loop'.task = some timer := by
    rw [timer?_task, hd]
    exact htimer
  by_cases hsame : loop' = loop
  · subst hsame
    cases running with
    | true =>
      obtain ⟨due, period, hperiod, order, harmed⟩ := hphase
      rw [hd] at harmed
      have hinterval : d.interval = period := congrArg Prod.fst (Option.some.inj harmed)
      exact hinterval ▸ hperiod
    | false =>
      rw [show sim.timer? loop'.task = none from hphase] at hrunning
      cases hrunning
  · rw [h loop'.task fun htask => hsame (task_inj htask)] at hrunning
    cases hrunning

/-- What an order and the stretch of time after it do. There are three kinds of order, a new
interval to a loop that runs, a new interval to one that does not, and the order to end; each of
them is followed by a stretch of which it is known how the time passes. -/
theorem stage_spec {running : Bool} (hphase : loop.InPhase running sim) (order : Order)
    (stretch : Nat)
    (hcalm : loop.Calm (loop.ticksAdvancing stretch ((loop.obey order).exec sim).2)) :
    ∃ told t, (loop.obey order).exec sim = (.ok (), told) ∧
      (advance stretch).exec told = (.ok (), t) ∧
      t.work.clock.now = sim.work.clock.now + stretch ∧
      loop.InPhase (running && order.keeps) t ∧
      (loop.ticksAdvancing stretch told).map (·.work.clock.now) =
        order.ticks running sim.work.clock.now stretch ∧
      (loop.Sole sim → loop.Sole t ∧
        (loop.playStage ⟨order, order.ticks running sim.work.clock.now stretch,
          sim.work.clock.now + stretch⟩).exec sim = (.ok (), t)) := by
  have htold : ∃ told, (loop.obey order).exec sim = (.ok (), told) ∧ loop.Apart sim told ∧
      (loop.Calm (loop.ticksAdvancing stretch told) →
        loop.Passes (order.ticks running sim.work.clock.now stretch) stretch told told.runPump
          (running && order.keeps)) := by
    rcases order with interval | _
    · rcases running with _ | _
      · obtain ⟨told, htold, hapart, hidle⟩ := obey_retime_idle hphase interval
        exact ⟨told, htold, hapart, fun _ => advance_idle hidle stretch⟩
      · obtain ⟨due, period, -, harmed⟩ := hphase
        obtain ⟨told, htold, hapart, hagain⟩ := obey_retime harmed interval
        refine ⟨told, htold, hapart, fun hcalm => ?_⟩
        rw [← hapart.now] at hagain ⊢
        exact advance_armed (minInterval_le_sanitized interval) hagain hcalm
    · obtain ⟨told, htold, hapart, hidle⟩ := obey_stop loop sim
      refine ⟨told, htold, hapart, fun _ => ?_⟩
      have hpasses := advance_idle hidle stretch
      cases running <;> exact hpasses
  obtain ⟨told, htold, hapart, hpasses⟩ := htold
  rw [htold] at hcalm
  obtain ⟨hticks, hnext, hbyHand⟩ := hpasses hcalm
  have hadvance : (advance stretch).exec told = (.ok (), ((advance stretch).exec told).2) := by
    rw [advance_exec, times_waitOnce_exec]
  have hnow := advance_now stretch told
  refine ⟨told, _, htold, hadvance, by rw [hnow, hapart.now], hnext, hticks, fun hsole => ?_⟩
  obtain ⟨u, hu, hpassed⟩ := hbyHand (hapart.sole hsole)
  refine ⟨(hapart.sole hsole).advance stretch, ?_⟩
  unfold playStage
  rw [exec_bind_of_ok htold, exec_bind_of_ok (exec_modify _ _), exec_bind_of_ok hu, hpassed,
    hapart.now]
  rfl

/-- Orders one after the other: the loop ticks at the times of their stages. The induction is on the
orders, with the phase of the loop and the time as what one stage hands to the next. -/
theorem obey_all {running : Bool} (hphase : loop.InPhase running sim)
    (orders : List (Order × Nat)) (hcalm : loop.Calm (loop.ticksObeying orders sim)) :
    ∃ t, (Action.each (fun told => do loop.obey told.1; advance told.2) orders).exec sim =
        (.ok (), t) ∧
      (loop.ticksObeying orders sim).map (·.work.clock.now) =
        (stages running sim.work.clock.now orders).flatMap (·.ticks) ∧
      (loop.Sole sim → t.Paced ∧
        (Action.each loop.playStage (stages running sim.work.clock.now orders)).exec sim =
          (.ok (), t)) := by
  induction orders generalizing running sim with
  | nil => exact ⟨sim, rfl, rfl, fun hsole => ⟨hsole.paced hphase, rfl⟩⟩
  | cons first rest ih =>
    obtain ⟨order, stretch⟩ := first
    unfold ticksObeying at hcalm ⊢
    obtain ⟨hnow, hrest⟩ := hcalm.append
    obtain ⟨told, s, htold, hs, htime, hnext, hticks, hbyHand⟩ :=
      stage_spec hphase order stretch hnow
    rw [htold, hs] at hrest
    obtain ⟨t, ht, hothers, hrestByHand⟩ := ih hnext hrest
    rw [htime] at hothers hrestByHand
    refine ⟨t, ?_, ?_, fun hsole => ?_⟩
    · exact (exec_bind_of_ok ((exec_bind_of_ok htold).trans hs)).trans ht
    · rw [htold, hs, List.map_append, hticks, hothers]
      rfl
    · obtain ⟨hquiet, hplayed⟩ := hbyHand hsole
      obtain ⟨hpaced, hremaining⟩ := hrestByHand hquiet
      exact ⟨hpaced, (exec_bind_of_ok hplayed).trans hremaining⟩

end Loop

/-- A polling loop refines the manual tick. Started at any time with any interval, and given any
orders at any later times, it begins its ticks at the times of the timetable, whatever else is going
on: at once, then after each period, from a new interval on after each new period, and not any more
when it was told to end. No two ticks are closer than the shortest interval, and what happens at
each of them is one round, after which the loop goes on. Where no other task has a timer, the run
does what ticking by hand at these times does, and from there on it does not matter into which
pieces a wait is cut. -/
theorem polling_refines_ticks {loop : Loop} {interval : Nat} {sim : Simulation}
    (hready : loop.Ready interval sim) (stretch : Nat) (orders : List (Order × Nat))
    (hcalm : loop.Calm (loop.ticks stretch orders sim)) :
    (loop.ticks stretch orders sim).map (·.work.clock.now) =
        timetable interval sim.work.clock.now stretch orders ∧
      (timetable interval sim.work.clock.now stretch orders).Pairwise
        (· + Detector.minInterval ≤ ·) ∧
      (∀ s ∈ loop.ticks stretch orders sim, (perform loop.task).exec s = (do
        loop.round
        loop.control (Detector.proceed (.ok ())) : Action Simulation Unit).exec s) ∧
      ∃ t, (loop.run stretch orders).exec sim = (.ok (), t) ∧
        (loop.Sole sim →
          (loop.runByHand interval sim.work.clock.now stretch orders).exec sim = (.ok (), t) ∧
          ∀ a b, (advance (a + b)).exec t = (do advance a; advance b).exec t) := by
  obtain ⟨s, hs, hapart, harmed⟩ := Loop.start_armed hready
  have hadvance : (advance stretch).exec s = (.ok (), ((advance stretch).exec s).2) := by
    rw [advance_exec, times_waitOnce_exec]
  have hnow := advance_now stretch s
  have hsplit : loop.ticks stretch orders sim = loop.ticksAdvancing stretch s ++
      loop.ticksObeying orders ((advance stretch).exec s).2 := by
    unfold Loop.ticks
    rw [hs]
  rw [hsplit] at hcalm ⊢
  obtain ⟨hfirst, hrest⟩ := hcalm.append
  rw [← hapart.now] at harmed
  obtain ⟨hticks, hphase, hbyHand⟩ :=
    Loop.advance_started (minInterval_le_sanitized interval) harmed hfirst
  obtain ⟨t, ht, hothers, hrestByHand⟩ := Loop.obey_all hphase orders hrest
  rw [hnow, hapart.now] at hothers hrestByHand
  refine ⟨?_, timetable_apart _ _ _ _, fun _ hs' => Loop.perform_of_ok (hcalm _ hs'), t, ?_,
    fun hsole => ?_⟩
  · rw [List.map_append, hticks, hothers, hapart.now]
    rfl
  · exact (exec_bind_of_ok hs).trans ((exec_bind_of_ok hadvance).trans ht)
  · obtain ⟨u, hu, hpassed⟩ := hbyHand (hapart.sole hsole)
    obtain ⟨hpaced, hremaining⟩ := hrestByHand ((hapart.sole hsole).advance stretch)
    rw [hapart.now] at hu hpassed
    refine ⟨?_, advance_add hpaced⟩
    unfold Loop.runByHand
    rw [exec_bind_of_ok hs, exec_bind_of_ok hu]
    rw [hpassed] at hremaining
    exact hremaining

/-- A session with a game on the screen: the loop ticks at once and after 100 milliseconds, gets
another interval, ticks once more, and ends. -/
theorem polling_refines_ticks_demo :
    let game := (DesktopWindow.titled 400 "Game").maximizedOver ⟨0, 0, 1920, 1040⟩
    let desktop := ((Desktop.demo.addProcess 400 "C:\\Games\\game.exe").openWindow game).2
    let sim := ((newService { targets := ["game"], pollInterval := 100 }).exec (.of desktop 0)).2
    let orders := [(.retime 50, 110), (.stop, 100)]
    (Loop.session.ticks 120 orders sim).map (·.work.clock.now) = [0, 100, 220] ∧
      ∃ t, (Loop.session.run 120 orders).exec sim = (.ok (), t) ∧
        (Loop.session.runByHand 100 0 120 orders).exec sim = (.ok (), t) := by
  intro game desktop sim orders
  have hends : ∀ s ∈ Loop.session.ticks 120 orders sim, (Loop.session.round.exec s).1.isOk := by
    decide +kernel
  have hcalm : Loop.session.Calm (Loop.session.ticks 120 orders sim) := by
    intro s hs
    have hok := hends s hs
    rcases hround : (Loop.session.round.exec s).1 with e | ⟨⟩
    · rw [hround] at hok
      cases hok
    · rfl
  have hsole : Loop.session.Sole sim := by
    intro task hne
    cases task with
    | detector => rfl
    | service => exact absurd rfl hne
    | scenario index => rfl
  have hready : Loop.session.Ready 100 sim := Loop.newService_ready _ _
  have hstart : sim.work.clock.now = 0 := rfl
  have htimes : timetable 100 0 120 orders = [0, 100, 220] := by decide
  have hrefines := polling_refines_ticks hready 120 orders hcalm
  rw [hstart, htimes] at hrefines
  obtain ⟨hticks, -, -, t, hrun, hbyHand⟩ := hrefines
  exact ⟨hticks, t, hrun, (hbyHand hsole).1⟩

end Simulation

end SoloScreen
