import SoloScreen.Detector

/-!
# The timetable of a polling loop

A polling loop is started at some time and then gets orders at later times, to wait for another
interval from then on or to end (`Simulation.Order`). The timetable says when it should tick: at
once and after each period, from a new interval on after each new period, and not any more after an
order to end.

* `Simulation.ticksAfter`, `Simulation.stages`, `Simulation.timetable`: the times.
* `Simulation.ticksAfter_succ`: the step, one more millisecond.
* `Simulation.timetable_apart`: any two ticks have the shortest interval between them.

The timetable is arithmetic and knows nothing of timers. An order takes effect after the ticks of
its own moment: the stretch before it includes the time at which it is given, and the stretch after
it does not. So a first tick is never lost to an order that comes at once after the start.
-/

namespace SoloScreen

namespace Simulation

/-! ## Orders -/

/-- What a loop at work is told. -/
inductive Order where
  /-- Wait for another interval between ticks from now on. -/
  | retime (interval : Nat)
  /-- End. -/
  | stop
  deriving DecidableEq, Repr

/-- An interval as a loop keeps to it. -/
def sanitized (interval : Nat) : Nat := max interval Detector.minInterval

/-- The times within a stretch of time after `since` that are whole periods after it. -/
def ticksAfter (since period stretch : Nat) : List Nat :=
  (List.range (stretch / period)).map fun k => since + (k + 1) * period

/-- An order, with the times of the ticks until the next one is given. -/
structure Stage where
  /-- The order that begins the stage. -/
  order : Order
  /-- The times of its ticks. -/
  ticks : List Nat
  /-- The time at which the next order is given. -/
  ends : Nat

/-- The times of the ticks in a stretch of time after an order. -/
def Order.ticks (order : Order) (running : Bool) (now stretch : Nat) : List Nat :=
  match running, order with
  | true, .retime interval => ticksAfter now (sanitized interval) stretch
  | _, _ => []

/-- The loop goes on after the order. -/
def Order.keeps : Order → Bool
  | .retime _ => true
  | .stop => false

/-- Orders that are given one after the other, each followed by a stretch of time. -/
def stages : Bool → Nat → List (Order × Nat) → List Stage
  | _, _, [] => []
  | running, now, (order, stretch) :: rest =>
    ⟨order, order.ticks running now stretch, now + stretch⟩ ::
      stages (running && order.keeps) (now + stretch) rest

/-- The times of all ticks of a loop that is started with an interval and then gets orders; the
first one comes at once. -/
def timetable (interval start stretch : Nat) (orders : List (Order × Nat)) : List Nat :=
  start :: ticksAfter start (sanitized interval) stretch ++
    (stages true (start + stretch) orders).flatMap (·.ticks)

/-! ## Distances -/

/-- A loop keeps the shortest interval whatever it is told. -/
theorem minInterval_le_sanitized (interval : Nat) : Detector.minInterval ≤ sanitized interval :=
  Nat.le_max_right interval Detector.minInterval

/-- So it always waits. -/
theorem sanitized_pos (interval : Nat) : 0 < sanitized interval :=
  Nat.lt_of_lt_of_le (by decide) (minInterval_le_sanitized interval)

/-- The times are whole periods after `since`, and no such time within the stretch is left out. -/
theorem mem_ticksAfter {since period stretch time : Nat} (h : 0 < period) :
    time ∈ ticksAfter since period stretch ↔
      ∃ k, time = since + (k + 1) * period ∧ time ≤ since + stretch := by
  unfold ticksAfter
  constructor
  · intro hmem
    obtain ⟨k, hk, rfl⟩ := List.mem_map.mp hmem
    rw [List.mem_range] at hk
    have hwithin : (k + 1) * period ≤ stretch := (Nat.le_div_iff_mul_le h).mp hk
    exact ⟨k, rfl, by omega⟩
  · rintro ⟨k, rfl, hwithin⟩
    have hk : (k + 1) * period ≤ stretch := by omega
    exact List.mem_map.mpr ⟨k, List.mem_range.mpr ((Nat.le_div_iff_mul_le h).mpr hk), rfl⟩

/-- The first tick comes after a whole period, and none comes after the stretch. -/
theorem ticksAfter_bounds {since period stretch time : Nat} (h : 0 < period)
    (hmem : time ∈ ticksAfter since period stretch) :
    since + period ≤ time ∧ time ≤ since + stretch := by
  obtain ⟨k, rfl, hwithin⟩ := (mem_ticksAfter h).mp hmem
  refine ⟨?_, hwithin⟩
  rw [Nat.succ_mul]
  omega

/-- Ticks keep their distance. -/
theorem ticksAfter_apart {since period stretch distance : Nat} (h : distance ≤ period) :
    (ticksAfter since period stretch).Pairwise (· + distance ≤ ·) := by
  refine List.pairwise_map.mpr (List.pairwise_lt_range.imp fun {k l} hkl => ?_)
  have hnext : (k + 1 + 1) * period ≤ (l + 1) * period :=
    Nat.mul_le_mul_right _ (Nat.succ_le_succ hkl)
  rw [Nat.succ_mul] at hnext
  omega

/-- One more millisecond is one more tick or none. -/
theorem ticksAfter_succ {period : Nat} (h : 0 < period) (since n : Nat) :
    ((n / period + 1) * period = n + 1 ∧ (n + 1) / period = n / period + 1 ∧
      ticksAfter since period (n + 1) = ticksAfter since period n ++ [since + (n + 1)]) ∨
    (n + 1 < (n / period + 1) * period ∧ (n + 1) / period = n / period ∧
      ticksAfter since period (n + 1) = ticksAfter since period n) := by
  have hmod := Nat.div_add_mod n period
  have hrest := Nat.mod_lt n h
  by_cases hfull : n % period + 1 = period
  · have hnext : n + 1 = (n / period + 1) * period := by
      rw [Nat.succ_mul, Nat.mul_comm]
      omega
    have hdiv : (n + 1) / period = n / period + 1 := by rw [hnext, Nat.mul_div_cancel _ h]
    refine .inl ⟨hnext.symm, hdiv, ?_⟩
    unfold ticksAfter
    rw [hdiv, List.range_succ, List.map_append, List.map_singleton, ← hnext]
  · have hdiv : (n + 1) / period = n / period := by
      rw [show n + 1 = n % period + 1 + period * (n / period) by omega,
        Nat.add_mul_div_left _ _ h, Nat.div_eq_of_lt (by omega), Nat.zero_add]
    refine .inr ⟨?_, hdiv, by rw [ticksAfter, ticksAfter, hdiv]⟩
    rw [Nat.succ_mul, Nat.mul_comm]
    omega

/-- The ticks of a stage come after the shortest interval, and before the next order or together
with it. -/
theorem Order.ticks_bounds {order : Order} {running : Bool} {now stretch time : Nat}
    (h : time ∈ order.ticks running now stretch) :
    now + Detector.minInterval ≤ time ∧ time ≤ now + stretch := by
  unfold Order.ticks at h
  split at h
  · rename_i interval
    obtain ⟨hlow, hhigh⟩ := ticksAfter_bounds (sanitized_pos interval) h
    have hperiod := minInterval_le_sanitized interval
    exact ⟨by omega, hhigh⟩
  · exact absurd h List.not_mem_nil

/-- The ticks of a stage keep the shortest interval. -/
theorem Order.ticks_apart (order : Order) (running : Bool) (now stretch : Nat) :
    (order.ticks running now stretch).Pairwise (· + Detector.minInterval ≤ ·) := by
  unfold Order.ticks
  split
  · exact ticksAfter_apart (minInterval_le_sanitized _)
  · exact .nil

/-- No tick comes earlier than the shortest interval after the first order. The stages follow each
other in time, so this carries over from one to the next. -/
theorem stages_later {running : Bool} {now time : Nat} {orders : List (Order × Nat)}
    (h : time ∈ (stages running now orders).flatMap (·.ticks)) :
    now + Detector.minInterval ≤ time := by
  induction orders generalizing running now with
  | nil => exact absurd h List.not_mem_nil
  | cons told rest ih =>
    obtain ⟨order, stretch⟩ := told
    rw [stages, List.flatMap_cons, List.mem_append] at h
    rcases h with h | h
    · exact (Order.ticks_bounds h).1
    · have := ih h
      omega

/-- The ticks of all stages keep it: within a stage as they are whole periods apart, and from one
stage to another as each stage begins anew. -/
theorem stages_apart (running : Bool) (now : Nat) (orders : List (Order × Nat)) :
    ((stages running now orders).flatMap (·.ticks)).Pairwise (· + Detector.minInterval ≤ ·) := by
  induction orders generalizing running now with
  | nil => exact .nil
  | cons told rest ih =>
    obtain ⟨order, stretch⟩ := told
    rw [stages, List.flatMap_cons, List.pairwise_append]
    refine ⟨order.ticks_apart running now stretch, ih _ _, fun time h time' h' => ?_⟩
    have hbefore := (Order.ticks_bounds h).2
    have hafter := stages_later h'
    omega

/-- Any two ticks have the shortest interval between them. -/
theorem timetable_apart (interval start stretch : Nat) (orders : List (Order × Nat)) :
    (timetable interval start stretch orders).Pairwise (· + Detector.minInterval ≤ ·) := by
  have hperiod := minInterval_le_sanitized interval
  unfold timetable
  rw [List.cons_append, List.pairwise_cons, List.pairwise_append]
  -- the first tick, those of the first stretch, those of the stages, and the last two against each
  -- other
  refine ⟨fun time h => ?_, ticksAfter_apart hperiod, stages_apart _ _ _,
    fun time h time' h' => ?_⟩
  · rcases List.mem_append.mp h with h | h
    · have := (ticksAfter_bounds (sanitized_pos interval) h).1
      omega
    · have := stages_later h
      omega
  · have hbefore := (ticksAfter_bounds (sanitized_pos interval) h).2
    have hafter := stages_later h'
    omega

end Simulation

end SoloScreen
