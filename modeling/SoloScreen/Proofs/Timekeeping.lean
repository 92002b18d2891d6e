import SoloScreen.Proofs.Rounds

/-!
# Time can be cut anywhere

What is due in a simulation runs at once, and when it has run, nothing is due any more: each task
arms its own timer for a later time, or it ends, and leaves the other timers alone. So settling
twice is settling once, and it does not matter into which pieces a wait is cut.

* `Channel.drain_exhausted`, `Pump.run_run`: a receiver that was drained has nothing to receive.
* `Simulation.Turned`, `Simulation.perform_turned`: what doing a task does to the timers.
* `Simulation.settle_paced`: after settling nothing is due.
* `Simulation.advance_add`: waiting is additive.

All of this is for loops that wait at all (`Simulation.Paced`). A loop with an interval of 0 would
be due again at once, and settling once would not be enough. No detector has such an interval, as it
is lengthened where it is set; here it is a hypothesis, since a simulation is a plain record.
-/

namespace SoloScreen

open SoloScreen.Action

/-! ## Draining a channel -/

namespace Channel

variable {α : Type} {channel : Channel α}

/-- There is nothing to receive at a position, but perhaps the end of the channel. -/
def Exhausted (channel : Channel α) (position : Nat) : Prop :=
  channel.receive position = (if channel.closed then .closed else .empty, position)

/-- A receiver that is not at the end moves on, and not beyond the end. -/
theorem receive_cases (channel : Channel α) (position : Nat) :
    channel.Exhausted position ∨ ∃ received after, channel.receive position = (received, after) ∧
      received ≠ .empty ∧ received ≠ .closed ∧ position < after ∧ after ≤ channel.sent.length := by
  unfold Exhausted receive
  split
  · rename_i hlost
    exact .inr ⟨_, _, rfl, by simp, by simp, hlost, Nat.sub_le _ _⟩
  · rcases hmessage : channel.sent[position]? with _ | message
    · exact .inl rfl
    · obtain ⟨hposition, -⟩ := List.getElem?_eq_some_iff.mp hmessage
      exact .inr ⟨_, _, rfl, by simp, by simp, Nat.lt_succ_self _, hposition⟩

/-- With nothing to receive a drain ends, and receives the end of the channel at most. -/
theorem drainUpTo_of_exhausted {position : Nat} (h : channel.Exhausted position) (fuel : Nat) :
    channel.drainUpTo (fuel + 1) position =
      (if channel.closed then [.closed] else [], position) := by
  unfold Exhausted at h
  unfold drainUpTo
  rw [h]
  cases channel.closed <;> rfl

/-- With something to receive a drain goes on behind it. -/
theorem drainUpTo_of_receive {position after : Nat} {received : Received α}
    (h : channel.receive position = (received, after)) (hempty : received ≠ .empty)
    (hclosed : received ≠ .closed) (fuel : Nat) :
    channel.drainUpTo (fuel + 1) position =
      (received :: (channel.drainUpTo fuel after).1, (channel.drainUpTo fuel after).2) := by
  rw [drainUpTo, h]
  cases received with
  | message => rfl
  | lagged => rfl
  | empty => exact absurd rfl hempty
  | closed => exact absurd rfl hclosed

/-- Enough fuel takes a receiver to the end, where it learns that the channel is closed. Each step
moves it on, so the messages that are left bound the steps that are left. -/
theorem drainUpTo_exhausted {fuel position : Nat} (hfuel : channel.sent.length - position < fuel) :
    channel.Exhausted (channel.drainUpTo fuel position).2 ∧
      (channel.closed = true → .closed ∈ (channel.drainUpTo fuel position).1) := by
  induction fuel generalizing position with
  | zero => omega
  | succ fuel ih =>
    rcases channel.receive_cases position with hend | ⟨received, after, hreceive, hempty, hclosed,
      hafter, hlength⟩
    · rw [drainUpTo_of_exhausted hend]
      exact ⟨hend, fun h => by simp [h]⟩
    · rw [drainUpTo_of_receive hreceive hempty hclosed]
      obtain ⟨hlast, hmem⟩ := @ih after (by omega)
      exact ⟨hlast, fun h => List.mem_cons_of_mem _ (hmem h)⟩

/-- A second drain receives nothing new. -/
theorem drain_of_exhausted {position : Nat} (h : channel.Exhausted position) :
    channel.drain position = (if channel.closed then [.closed] else [], position) :=
  drainUpTo_of_exhausted h _

/-- A drain has enough fuel, so it takes a receiver to the end. -/
theorem drain_exhausted (channel : Channel α) (position : Nat) :
    channel.Exhausted (channel.drain position).2 ∧
      (channel.closed = true → .closed ∈ (channel.drain position).1) :=
  drainUpTo_exhausted (by omega)

end Channel

namespace Pump

/-- Whatever a finished pump is handed, it stays finished. -/
theorem accept_finished {pump : Pump} (h : pump.finished = true)
    (received : Received Notification) : (pump.accept received).finished = true := by
  cases received with
  | message notification => exact h
  | closed => rfl
  | lagged => exact h
  | empty => exact h

/-- A pump that receives the end of the channel is finished. -/
theorem finished_of_mem {received : List (Received Notification)} {pump : Pump}
    (h : pump.finished = true ∨ .closed ∈ received) :
    (received.foldl accept pump).finished = true := by
  induction received generalizing pump with
  | nil => simpa using h
  | cons first rest ih =>
    refine ih ?_
    rcases h with h | h
    · exact .inl (accept_finished h first)
    · rcases List.mem_cons.mp h with rfl | h
      · exact .inl rfl
      · exact .inr h

/-- A pump that has received all there is has nothing more to receive. -/
theorem run_run (channel : Channel Notification) (pump : Pump) :
    (pump.run channel).run channel = pump.run channel := by
  by_cases hfinished : pump.finished = true
  · have hsame : pump.run channel = pump := by simp [run, hfinished]
    rw [hsame, hsame]
  obtain ⟨hend, hclosed⟩ := channel.drain_exhausted pump.position
  have hrun : pump.run channel = { (channel.drain pump.position).1.foldl accept pump with
      position := (channel.drain pump.position).2 } := by simp [run, hfinished]
  by_cases hdone : (pump.run channel).finished = true
  · rw [run, if_pos hdone]
  · -- the channel is open, so the second time nothing is received
    have hopen : channel.closed = false := by
      rcases h : channel.closed
      · rfl
      · refine absurd ?_ hdone
        rw [hrun]
        exact finished_of_mem (.inr (hclosed h))
    have hposition : (pump.run channel).position = (channel.drain pump.position).2 := by
      rw [hrun]
    have hnothing : channel.drain (pump.run channel).position =
        ([], (pump.run channel).position) := by
      rw [hposition, Channel.drain_of_exhausted hend, hopen]
      rfl
    rw [run, if_neg hdone, hnothing]
    rfl

end Pump

namespace Simulation

/-! ## Timers -/

/-- The timer that starts a task. -/
def timer? (sim : Simulation) : Task → Option Timer
  | .detector => sim.detector.bind (·.loop)
  | .service => (sim.service.bind (·.detector)).bind (·.loop)
  | .scenario index => sim.scenarios[index]?.map (·.timer)

/-- The timer of a loop is the one that its detector is armed with. -/
theorem timer?_task (sim : Simulation) (loop : Loop) :
    sim.timer? loop.task = (loop.detector? sim).bind (·.loop) := by
  cases loop <;> rfl

/-- A timer is that of a detector or that of a scenario. -/
theorem timer?_congr {sim sim' : Simulation} {task : Task}
    (hloop : ∀ loop : Loop, loop.task = task → loop.detector? sim' = loop.detector? sim)
    (hscenario : ∀ index, task = .scenario index →
      sim'.scenarios[index]? = sim.scenarios[index]?) : sim'.timer? task = sim.timer? task := by
  cases task with
  | detector => exact congrArg (Option.bind · (·.loop)) (hloop .own rfl)
  | service => exact congrArg (Option.bind · (·.loop)) (hloop .session rfl)
  | scenario index => exact congrArg (Option.map (·.timer)) (hscenario index rfl)

/-- The list of all timers has a timer just if it is that of its task. -/
theorem mem_timers {sim : Simulation} {timer : Timer} {task : Task} :
    (timer, task) ∈ sim.timers ↔ sim.timer? task = some timer := by
  unfold timers timer?
  cases task with
  | detector => simp
  | service => simp
  | scenario index => simp [List.getElem?_eq_some_iff]

/-- Each task has one timer at most. -/
theorem timers_nodup (sim : Simulation) : (sim.timers.map Prod.snd).Nodup := by
  have hscenarios : (sim.scenarios.mapIdx fun index scenario =>
      (scenario.timer, Task.scenario index)).map Prod.snd =
        (List.range sim.scenarios.length).map Task.scenario :=
    List.ext_getElem (by simp) (by simp)
  have hrange : ((List.range sim.scenarios.length).map Task.scenario).Nodup :=
    List.Pairwise.map _ (fun _ _ h heq => h (Task.scenario.inj heq)) List.nodup_range
  unfold timers
  rw [List.map_append, List.map_append, hscenarios]
  rcases sim.detector.bind (·.loop) with _ | _ <;>
    rcases (sim.service.bind (·.detector)).bind (·.loop) with _ | _ <;>
      simp [hrange]

/-- Putting a timer into its place leaves the others. -/
theorem insertTimer_perm (entry : Timer × Task) (entries : List (Timer × Task)) :
    (insertTimer entry entries).Perm (entry :: entries) := by
  induction entries with
  | nil => exact .refl _
  | cons other rest ih =>
    unfold insertTimer
    split
    · exact .refl _
    · exact (ih.cons other).trans (.swap entry other rest)

/-- What is due, in another order. -/
theorem due_perm (sim : Simulation) :
    sim.due.Perm ((sim.timers.filter (·.1.isDue sim.work.clock)).map Prod.snd) := by
  unfold due
  refine List.Perm.map _ ?_
  induction sim.timers.filter (·.1.isDue sim.work.clock) with
  | nil => exact .refl _
  | cons entry rest ih => exact (insertTimer_perm entry _).trans (ih.cons entry)

/-- A task is due if it has a timer and the time of that has come. -/
theorem mem_due {sim : Simulation} {task : Task} :
    task ∈ sim.due ↔ ∃ timer, sim.timer? task = some timer ∧ timer.due ≤ sim.work.clock.now := by
  rw [sim.due_perm.mem_iff]
  simp only [List.mem_map, List.mem_filter, Prod.exists, exists_eq_right, mem_timers,
    Timer.isDue, decide_eq_true_eq]

/-- No task is due twice. -/
theorem due_nodup (sim : Simulation) : sim.due.Nodup :=
  sim.due_perm.nodup_iff.mpr (sim.timers_nodup.sublist (List.filter_sublist.map _))

/-! ## Doing a task -/

/-- The loop goes on at its pace and ticks next after an interval, or it has ended. -/
def Advanced (loop : Loop) (sim sim' : Simulation) : Prop :=
  ∀ d', loop.detector? sim' = some d' → ∃ d, loop.detector? sim = some d ∧
    d'.interval = d.interval ∧
      ∀ timer, d'.loop = some timer → timer.due = sim.work.clock.now + d.interval

/-- Doing a task moves its own timer beyond the present, and no other timer. -/
structure Turned (task : Task) (sim sim' : Simulation) : Prop where
  /-- No time passes. -/
  now : sim'.work.clock.now = sim.work.clock.now
  /-- If it is a scenario, it moves next later on. -/
  scenario : ∀ index, task = .scenario index → ∀ scenario, sim'.scenarios[index]? = some scenario →
    sim.work.clock.now < scenario.timer.due
  /-- The other scenarios have not moved. -/
  scenarios : ∀ index, task ≠ .scenario index → sim'.scenarios[index]? = sim.scenarios[index]?
  /-- If it is a loop, it goes on at its pace or has ended. -/
  own : ∀ loop : Loop, loop.task = task → Advanced loop sim sim'
  /-- The other loops have their detectors as they were. -/
  other : ∀ loop : Loop, loop.task ≠ task → loop.detector? sim' = loop.detector? sim

namespace Turned

variable {task : Task} {sim sim' : Simulation}

/-- Another task keeps its timer. -/
theorem timer?_of_ne (h : Turned task sim sim') {other : Task} (hne : other ≠ task) :
    sim'.timer? other = sim.timer? other :=
  timer?_congr (fun loop hloop => h.other loop (hloop ▸ hne))
    fun index hindex => h.scenarios index fun htask => hne (hindex.trans htask.symm)

/-- The task is not due again, if a loop whose round it is waits at all. -/
theorem later (h : Turned task sim sim')
    (hpace : ∀ (loop : Loop) d, loop.task = task → loop.detector? sim = some d → 0 < d.interval)
    {timer : Timer} (htimer : sim'.timer? task = some timer) :
    sim.work.clock.now < timer.due := by
  have hloop : ∀ loop : Loop, loop.task = task → sim.work.clock.now < timer.due := by
    intro loop htask
    rw [← htask, timer?_task] at htimer
    obtain ⟨d', hd', htimer⟩ := Option.bind_eq_some_iff.mp htimer
    obtain ⟨d, hd, -, hdue⟩ := h.own loop htask d' hd'
    rw [hdue timer htimer]
    exact Nat.lt_add_of_pos_right (hpace loop d htask hd)
  cases task with
  | detector => exact hloop .own rfl
  | service => exact hloop .session rfl
  | scenario index =>
    obtain ⟨scenario, hscenario, rfl⟩ := Option.map_eq_some_iff.mp htimer
    exact h.scenario index rfl scenario hscenario

end Turned

/-- Doing the task of a loop. The round moves no timer, and what follows it sets this one. -/
theorem perform_loop_turned (loop : Loop) (sim : Simulation) :
    (perform loop.task).Ensures sim (fun _ t => Turned loop.task sim t) fun _ => False := by
  have hround := loop.round_rounded sim
  rw [loop.perform_task, ensures_bind, ensures_outcome]
  generalize (loop.round.exec sim).2 = t at hround
  have hother : ∀ loop' : Loop, loop'.task ≠ loop.task → loop'.detector? t = loop'.detector? sim :=
    fun loop' hne => hround.other loop' fun h => hne (congrArg Loop.task h)
  have hnone : ∀ index, loop.task ≠ .scenario index := by cases loop <;> simp [Loop.task]
  rcases hd : loop.detector? t with _ | d
  · -- there is no detector, and nothing goes on
    rw [ensures_of_ok (Loop.control_exec_of_none hd _)]
    refine ⟨by rw [hround.clock], fun index h => absurd h (hnone index),
      fun index _ => by rw [hround.scenarios], fun loop' htask d' hd' => ?_, hother⟩
    rw [Loop.task_inj htask, hd] at hd'
    cases hd'
  obtain ⟨d₀, hd₀, hpacing⟩ := Option.map_eq_some_iff.mp
    (hround.own.symm.trans (congrArg (Option.map Loop.pacing) hd))
  have hinterval : d₀.interval = d.interval := congrArg Prod.fst hpacing
  have hproceed : ∃ (next : Option Timer) (clock : Clock),
      (Detector.proceed (loop.round.exec sim).1).exec (d, t.work) =
        (.ok (), { d with loop := next }, { t.work with clock }) ∧
      clock.now = t.work.clock.now ∧
      ∀ timer, next = some timer → timer.due = t.work.clock.now + d.interval := by
    rcases (loop.round.exec sim).1 with e | ⟨⟩
    · exact ⟨none, t.work.clock, rfl, rfl, by simp⟩
    · exact ⟨some (t.work.clock.arm d.interval).1, (t.work.clock.arm d.interval).2, rfl, rfl,
        fun timer htimer => Option.some.inj htimer ▸ rfl⟩
  obtain ⟨next, clock, hexec, hnow, hdue⟩ := hproceed
  obtain ⟨t', ht', hapart, hd'⟩ := Loop.control_apart hd hexec hnow
  rw [ensures_of_ok ht']
  refine ⟨by rw [hapart.now, hround.clock], fun index h => absurd h (hnone index),
    fun index _ => by rw [hapart.scenarios, hround.scenarios], fun loop' htask d' h' => ?_,
    fun loop' hne => ?_⟩
  · obtain rfl := Loop.task_inj htask
    obtain rfl := Option.some.inj (hd'.symm.trans h')
    refine ⟨d₀, hd₀, hinterval.symm, fun timer htimer => ?_⟩
    rw [hdue timer htimer, hround.clock, hinterval]
  · rw [hapart.other loop' fun h => hne (congrArg Loop.task h), hother loop' hne]

/-- Doing the task of a scenario: it arms its timer, and it is the only one in its place. -/
theorem perform_scenario_turned (index : Nat) (sim : Simulation) :
    (perform (.scenario index)).Ensures sim (fun _ t => Turned (.scenario index) sim t)
      fun _ => False := by
  have hloop : ∀ loop : Loop, loop.task ≠ .scenario index := by
    intro loop
    cases loop <;> simp [Loop.task]
  show (playScenario index).Ensures sim _ _
  unfold playScenario
  rw [ensures_bind, ensures_get]
  rcases hscenario : sim.scenarios[index]? with _ | scenario
  · refine ⟨rfl, fun other h scenario' hscenario' => ?_, fun _ _ => rfl,
      fun loop htask => absurd htask (hloop loop), fun _ _ => rfl⟩
    obtain rfl := Task.scenario.inj h
    rw [hscenario] at hscenario'
    cases hscenario'
  · rw [ensures_bind]
    refine ensures_within.mpr (ensures_modifyGet.mpr (ensures_bind.mpr (ensures_within.mpr
      (ensures_modifyGet.mpr (ensures_modify.mpr ?_)))))
    refine ⟨rfl, fun other h scenario' hscenario' => ?_, fun other hne => ?_,
      fun loop htask => absurd htask (hloop loop), fun loop _ => ?_⟩
    · obtain rfl := Task.scenario.inj h
      obtain ⟨hindex, -⟩ := List.getElem?_eq_some_iff.mp hscenario
      dsimp only at hscenario'
      rw [List.getElem?_set_self hindex] at hscenario'
      obtain rfl := Option.some.inj hscenario'
      exact Nat.lt_add_of_pos_right (by decide)
    · exact List.getElem?_set_ne fun h => hne (congrArg Task.scenario h)
    · cases loop <;> rfl

/-- Doing any task. -/
theorem perform_turned (task : Task) (sim : Simulation) :
    (perform task).Ensures sim (fun _ t => Turned task sim t) fun _ => False := by
  cases task with
  | detector => exact perform_loop_turned .own sim
  | service => exact perform_loop_turned .session sim
  | scenario index => exact perform_scenario_turned index sim

/-- Nothing that a timer starts is cut short. -/
theorem perform_exec (task : Task) (sim : Simulation) :
    (perform task).exec sim = (.ok (), ((perform task).exec sim).2) ∧
      Turned task sim ((perform task).exec sim).2 := by
  obtain ⟨_, t, ht, hturned⟩ := (perform_turned task sim).exists_exec
  rw [ht]
  exact ⟨rfl, hturned⟩

/-- Tasks are done one after the other, as none of them is cut short. -/
theorem each_perform_cons (task : Task) (rest : List Task) (sim : Simulation) :
    (Action.each perform (task :: rest)).exec sim =
      (Action.each perform rest).exec ((perform task).exec sim).2 :=
  exec_bind_of_ok (perform_exec task sim).1

/-- So nor is doing all of them. -/
theorem each_perform_exec (tasks : List Task) (sim : Simulation) :
    (Action.each perform tasks).exec sim = (.ok (), ((Action.each perform tasks).exec sim).2) := by
  induction tasks generalizing sim with
  | nil => rfl
  | cons task rest ih =>
    rw [each_perform_cons]
    exact ih _

/-- The timers of other tasks stay as they are. -/
theorem each_perform_timer? {tasks : List Task} {task : Task} (h : task ∉ tasks)
    (sim : Simulation) :
    ((Action.each perform tasks).exec sim).2.timer? task = sim.timer? task := by
  induction tasks generalizing sim with
  | nil => rfl
  | cons first rest ih =>
    rw [each_perform_cons, ih (List.not_mem_of_not_mem_cons h)]
    exact (perform_exec first sim).2.timer?_of_ne (List.ne_of_not_mem_cons h)

/-- Doing tasks takes no time. -/
theorem each_perform_now (tasks : List Task) (sim : Simulation) :
    ((Action.each perform tasks).exec sim).2.work.clock.now = sim.work.clock.now := by
  induction tasks generalizing sim with
  | nil => rfl
  | cons task rest ih =>
    rw [each_perform_cons, ih]
    exact (perform_exec task sim).2.now

/-! ## Settling -/

/-- Nothing is due, and the pump has received all there is. -/
structure Settled (sim : Simulation) : Prop where
  /-- No timer has come to its time. -/
  due : sim.due = []
  /-- To run the pump changes nothing. -/
  pumped : sim.runPump = sim

/-- Running the pump twice is running it once. -/
theorem runPump_runPump (sim : Simulation) : sim.runPump.runPump = sim.runPump := by
  unfold runPump
  rcases hservice : sim.service with _ | service
  · simp only [hservice]
  · rcases hpump : sim.pump with _ | pump <;> simp [Pump.run_run]

/-- The pump takes no part in the workspace. -/
@[simp] theorem runPump_work (sim : Simulation) : sim.runPump.work = sim.work := by
  unfold runPump
  split <;> rfl

/-- It sets no timer. -/
theorem runPump_timer? (sim : Simulation) (task : Task) :
    sim.runPump.timer? task = sim.timer? task := by
  unfold runPump
  rcases hservice : sim.service with _ | service <;> cases task <;> simp [timer?, hservice]

/-- It touches no detector. -/
theorem runPump_detector? (sim : Simulation) (loop : Loop) :
    loop.detector? sim.runPump = loop.detector? sim := by
  unfold runPump
  rcases hservice : sim.service with _ | service <;> cases loop <;>
    simp [Loop.detector?, hservice]

/-- If all timers are in the future, nothing is due. -/
theorem due_eq_nil {sim : Simulation}
    (h : ∀ task timer, sim.timer? task = some timer → sim.work.clock.now < timer.due) :
    sim.due = [] := by
  refine List.eq_nil_iff_forall_not_mem.mpr fun task hmem => ?_
  obtain ⟨timer, htimer, hdue⟩ := mem_due.mp hmem
  exact absurd (h task timer htimer) (by omega)

/-- To settle is to do what is due and then to run the pump; it is never cut short. -/
theorem settle_exec (sim : Simulation) :
    settle.exec sim = (.ok (), ((Action.each perform sim.due).exec sim).2.runPump) := by
  unfold settle
  rw [exec_bind_of_ok (exec_get sim), exec_bind_of_ok (each_perform_exec _ _)]
  rfl

/-- What is not due keeps its timer. -/
theorem settle_timer? {sim : Simulation} {task : Task} (h : task ∉ sim.due) :
    (settle.exec sim).2.timer? task = sim.timer? task := by
  rw [settle_exec]
  exact (runPump_timer? _ task).trans (each_perform_timer? h sim)

/-- Nothing happens when a settled simulation settles. -/
theorem Settled.exec_settle {sim : Simulation} (h : sim.Settled) :
    settle.exec sim = (.ok (), sim) := by
  rw [settle_exec, h.due]
  show (Except.ok (), sim.runPump) = _
  rw [h.pumped]

/-- Settling takes no time. -/
theorem settle_now (sim : Simulation) :
    (settle.exec sim).2.work.clock.now = sim.work.clock.now := by
  rw [settle_exec, runPump_work]
  exact each_perform_now sim.due sim

/-- After settling the pump has nothing to receive. -/
theorem settle_pumped (sim : Simulation) : (settle.exec sim).2.runPump = (settle.exec sim).2 := by
  rw [settle_exec]
  exact runPump_runPump _

/-- Every loop that runs waits at least for the shortest interval. -/
def Paced (sim : Simulation) : Prop :=
  ∀ (loop : Loop) d, loop.detector? sim = some d → d.loop.isSome →
    Detector.minInterval ≤ d.interval

/-- When some tasks have been done, only others are due: whoever is not to come any more has a timer
beyond the present. The induction is on the tasks that are still to be done; of these nothing is
said but that their loops wait. -/
theorem each_perform_later {tasks : List Task} {sim : Simulation}
    (hpaced : ∀ (loop : Loop) d, loop.detector? sim = some d →
      d.loop.isSome ∨ loop.task ∈ tasks → Detector.minInterval ≤ d.interval)
    (hlater : ∀ task timer, task ∉ tasks → sim.timer? task = some timer →
      sim.work.clock.now < timer.due) :
    ((Action.each perform tasks).exec sim).2.Paced ∧
      ∀ task timer, ((Action.each perform tasks).exec sim).2.timer? task = some timer →
        sim.work.clock.now < timer.due := by
  induction tasks generalizing sim with
  | nil =>
    exact ⟨fun loop d hd hloop => hpaced loop d hd (.inl hloop),
      fun task timer => hlater task timer List.not_mem_nil⟩
  | cons first rest ih =>
    have hturned := (perform_exec first sim).2
    rw [each_perform_cons, ← hturned.now]
    refine ih (fun loop d' hd' hloop => ?_) fun task timer hmem htimer => ?_
    · by_cases htask : loop.task = first
      · obtain ⟨d, hd, hinterval, -⟩ := hturned.own loop htask d' hd'
        rw [hinterval]
        exact hpaced loop d hd (.inr (htask ▸ List.mem_cons_self))
      · rw [hturned.other loop htask] at hd'
        exact hpaced loop d' hd' (hloop.imp_right (List.mem_cons_of_mem first))
    · rw [hturned.now]
      by_cases htask : task = first
      · subst htask
        refine hturned.later (fun loop d htask hd => ?_) htimer
        exact Nat.lt_of_lt_of_le (by decide)
          (hpaced loop d hd (.inr (htask ▸ List.mem_cons_self)))
      · rw [hturned.timer?_of_ne htask] at htimer
        exact hlater task timer (List.not_mem_cons_of_ne_of_not_mem htask hmem) htimer

/-- When what is due has been done, nothing is due. -/
theorem settle_paced {sim : Simulation} (h : sim.Paced) :
    (settle.exec sim).2.Paced ∧ (settle.exec sim).2.Settled := by
  have hpace : ∀ (loop : Loop) d, loop.detector? sim = some d →
      d.loop.isSome ∨ loop.task ∈ sim.due → Detector.minInterval ≤ d.interval := by
    intro loop d hd hloop
    refine h loop d hd (hloop.elim id fun hmem => ?_)
    obtain ⟨timer, htimer, -⟩ := mem_due.mp hmem
    rw [timer?_task, hd] at htimer
    exact Option.isSome_of_eq_some htimer
  obtain ⟨hpaced, hlater⟩ := each_perform_later hpace fun task timer hmem htimer =>
    Nat.lt_of_not_le fun hdue => hmem (mem_due.mpr ⟨timer, htimer, hdue⟩)
  refine ⟨?_, due_eq_nil fun task timer htimer => ?_, settle_pumped sim⟩
  · rw [settle_exec]
    exact fun loop d hd => hpaced loop d (runPump_detector? _ loop ▸ hd)
  · rw [settle_now]
    rw [settle_exec] at htimer
    exact hlater task timer (runPump_timer? _ task ▸ htimer)

/-! ## Waiting -/

/-- Move the clock. -/
def moveTo (now : Nat) (sim : Simulation) : Simulation :=
  { sim with work := { sim.work with clock := { sim.work.clock with now } } }

/-- Moving the clock to the present changes nothing. -/
theorem moveTo_of_now {sim : Simulation} {now : Nat} (h : sim.work.clock.now = now) :
    sim.moveTo now = sim := by
  subst h
  rfl

/-- Timers do not move with the clock. -/
@[simp] theorem moveTo_timer? (now : Nat) (sim : Simulation) (task : Task) :
    (sim.moveTo now).timer? task = sim.timer? task := by
  cases task <;> rfl

/-- Nor do detectors. -/
@[simp] theorem moveTo_detector? (now : Nat) (sim : Simulation) (loop : Loop) :
    loop.detector? (sim.moveTo now) = loop.detector? sim := by
  cases loop <;> rfl

/-- The pump does not look at the clock. -/
theorem runPump_moveTo (now : Nat) (sim : Simulation) :
    (sim.moveTo now).runPump = sim.runPump.moveTo now := by
  unfold runPump
  rcases hservice : sim.service with _ | service <;> simp [moveTo, hservice]

/-- A millisecond later. -/
def later (sim : Simulation) : Simulation := sim.moveTo (sim.work.clock.now + 1)

/-- To wait is to move the clock by a millisecond and to settle. -/
theorem waitOnce_exec (sim : Simulation) : waitOnce.exec sim = settle.exec sim.later := rfl

/-- The pace does not depend on the time. -/
theorem Paced.later {sim : Simulation} (h : sim.Paced) : sim.later.Paced :=
  fun loop d hd => h loop d (moveTo_detector? _ sim loop ▸ hd)

/-- Waiting is never cut short. -/
theorem waitOnce_ok (sim : Simulation) : waitOnce.exec sim = (.ok (), (waitOnce.exec sim).2) := by
  rw [waitOnce_exec, settle_exec]

/-- Nor is waiting for long. -/
theorem times_waitOnce_exec (n : Nat) (sim : Simulation) :
    (Action.times n waitOnce).exec sim = (.ok (), ((Action.times n waitOnce).exec sim).2) := by
  induction n generalizing sim with
  | zero => rfl
  | succ n ih =>
    rw [times_succ, exec_bind_of_ok (waitOnce_ok sim)]
    exact ih _

/-- The last millisecond. -/
theorem times_waitOnce_succ (n : Nat) (sim : Simulation) :
    (Action.times (n + 1) waitOnce).exec sim =
      settle.exec ((Action.times n waitOnce).exec sim).2.later := by
  rw [times_add, exec_bind_of_ok (times_waitOnce_exec n sim), times_succ, times_zero,
    exec_bind_of_ok (waitOnce_ok _), exec_pure, ← waitOnce_ok, waitOnce_exec]

/-- To let time pass is to settle and then to wait. -/
theorem advance_exec (n : Nat) (sim : Simulation) :
    (advance n).exec sim = (Action.times n waitOnce).exec (settle.exec sim).2 := by
  unfold advance
  rw [exec_bind_of_ok (settle_exec sim), settle_exec]

/-- So many waits are so many milliseconds. -/
theorem times_waitOnce_now (n : Nat) (sim : Simulation) :
    ((Action.times n waitOnce).exec sim).2.work.clock.now = sim.work.clock.now + n := by
  induction n with
  | zero => rfl
  | succ n ih =>
    rw [times_waitOnce_succ, settle_now, ← Nat.add_assoc, ← ih]
    rfl

/-- Each wait ends with the pump, so waiting leaves nothing to receive if there was nothing at
first. -/
theorem times_waitOnce_pumped {sim : Simulation} (h : sim.runPump = sim) (n : Nat) :
    ((Action.times n waitOnce).exec sim).2.runPump = ((Action.times n waitOnce).exec sim).2 := by
  cases n with
  | zero => exact h
  | succ n =>
    rw [times_waitOnce_succ]
    exact settle_pumped _

/-- As much time passes as was asked for. -/
theorem advance_now (n : Nat) (sim : Simulation) :
    ((advance n).exec sim).2.work.clock.now = sim.work.clock.now + n := by
  rw [advance_exec, times_waitOnce_now, settle_now]

/-- From a settled state each wait leads to a settled state. -/
theorem times_waitOnce_paced {sim : Simulation} (hpaced : sim.Paced) (hsettled : sim.Settled)
    (n : Nat) : ((Action.times n waitOnce).exec sim).2.Paced ∧
      ((Action.times n waitOnce).exec sim).2.Settled := by
  induction n with
  | zero => exact ⟨hpaced, hsettled⟩
  | succ n ih =>
    rw [times_waitOnce_succ]
    exact settle_paced ih.1.later

/-- It does not matter into which pieces a wait is cut. The second piece begins by settling, and as
the first one has ended in a settled state, this does nothing. -/
theorem advance_add {sim : Simulation} (h : sim.Paced) (a b : Nat) :
    (advance (a + b)).exec sim = (do advance a; advance b).exec sim := by
  obtain ⟨hpaced, hsettled⟩ := settle_paced h
  have hwaited := (times_waitOnce_paced hpaced hsettled a).2
  have hfirst : (advance a).exec sim = (.ok (), ((advance a).exec sim).2) := by
    rw [advance_exec, times_waitOnce_exec]
  rw [advance_exec, times_add, exec_bind_of_ok (times_waitOnce_exec a _), exec_bind_of_ok hfirst,
    advance_exec b, advance_exec a, hwaited.exec_settle]

end Simulation

end SoloScreen
