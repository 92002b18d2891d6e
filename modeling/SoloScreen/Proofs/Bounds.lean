import Mathlib.Algebra.Group.Int.Defs
import SoloScreen.Faults
import SoloScreen.Proofs.Calls
import SoloScreen.Proofs.DesktopQueries

/-!
# Coordinates that do not overflow

Where all coordinates lie between -2³⁰ and 2³⁰, differences of two of them fit in 32 bits, so the
areas that windows share with monitors can be computed.

* `Rect.InBounds.intersectionArea_isOk`: two such rectangles share an area.
* `Desktop.InBounds`: all windows and monitors of a desktop are such rectangles. Native calls keep
  that, and none of them is cut short (`Desktop.answer_inBounds`).
* `FaultyDesktop.callsConform_inBounds`: nor is any call that injected faults answer in its place.

The bound is sufficient and simple, not sharp: a pair of rectangles may share an area beyond it. It
is stated of each edge alone so that it can be required of what comes onto the desktop, one window
or monitor at a time.
-/

namespace SoloScreen

open SoloScreen.Action

/-! ## Rectangles -/

/-- The coordinate lies between -2³⁰ and 2³⁰. -/
def Coordinate.InBounds (x : Int32) : Prop := -2 ^ 30 ≤ x.toInt ∧ x.toInt < 2 ^ 30

instance (x : Int32) : Decidable (Coordinate.InBounds x) :=
  inferInstanceAs (Decidable (_ ∧ _))

namespace Coordinate

variable {x y : Int32}

/-- The smaller of two coordinates is one of them. -/
theorem InBounds.min (hx : InBounds x) (hy : InBounds y) : InBounds (min x y) := by
  show InBounds (if x ≤ y then x else y)
  split <;> assumption

/-- And so is the greater. -/
theorem InBounds.max (hx : InBounds x) (hy : InBounds y) : InBounds (max x y) := by
  show InBounds (if x ≤ y then y else x)
  split <;> assumption

/-- The difference of two such coordinates fits. -/
theorem InBounds.sub (hx : InBounds x) (hy : InBounds y) :
    sub x y = .ok (Int32.ofInt (x.toInt - y.toInt)) := by
  unfold InBounds at hx hy
  exact if_pos (by omega)

end Coordinate

/-- All edges of the rectangle lie between -2³⁰ and 2³⁰. -/
structure Rect.InBounds (r : Rect) : Prop where
  /-- The left edge. -/
  left : Coordinate.InBounds r.left
  /-- The upper edge. -/
  top : Coordinate.InBounds r.top
  /-- The right edge. -/
  right : Coordinate.InBounds r.right
  /-- The lower edge. -/
  bottom : Coordinate.InBounds r.bottom

/-- To be in bounds is four comparisons of each of its edges, and can be decided. -/
theorem Rect.inBounds_iff (r : Rect) :
    r.InBounds ↔ Coordinate.InBounds r.left ∧ Coordinate.InBounds r.top ∧
      Coordinate.InBounds r.right ∧ Coordinate.InBounds r.bottom :=
  ⟨fun ⟨hl, ht, hr, hb⟩ => ⟨hl, ht, hr, hb⟩, fun ⟨hl, ht, hr, hb⟩ => ⟨hl, ht, hr, hb⟩⟩

instance (r : Rect) : Decidable r.InBounds := decidable_of_iff _ r.inBounds_iff.symm

/-- Two such rectangles share an area. -/
theorem Rect.InBounds.intersectionArea_isOk {r other : Rect} (hr : r.InBounds)
    (hother : other.InBounds) : ∃ area, r.intersectionArea other = .ok area := by
  unfold intersectionArea
  rw [(hr.right.min hother.right).sub (hr.left.max hother.left),
    (hr.bottom.min hother.bottom).sub (hr.top.max hother.top)]
  exact ⟨_, rfl⟩

/-! ## Desktops -/

namespace Desktop

/-- All windows and monitors of the desktop lie between -2³⁰ and 2³⁰. -/
structure InBounds (desktop : Desktop) : Prop where
  /-- The rectangle of every window, shown or not. -/
  windows : ∀ entry ∈ desktop.windows, entry.2.bounds.InBounds
  /-- The rectangle of every monitor. No area is computed from the work area, so nothing is said of
  that. -/
  monitors : ∀ entry ∈ desktop.monitors, entry.2.bounds.InBounds

/-- The two parts as a conjunction, which can be decided of a desktop at hand. -/
theorem inBounds_iff (desktop : Desktop) :
    desktop.InBounds ↔ (∀ entry ∈ desktop.windows, entry.2.bounds.InBounds) ∧
      ∀ entry ∈ desktop.monitors, entry.2.bounds.InBounds :=
  ⟨fun h => ⟨h.windows, h.monitors⟩, fun h => ⟨h.1, h.2⟩⟩

/-- A window in bounds shares an area with each of the monitors in bounds. By induction on the
monitors: the first one that cannot be computed would cut the list short. -/
theorem InBounds.overlaps {bounds : Rect} (hbounds : bounds.InBounds)
    {monitors : List (MonitorHandle × MonitorInfo)}
    (hmonitors : ∀ entry ∈ monitors, entry.2.bounds.InBounds) :
    ∃ areas, overlaps bounds monitors = .ok areas := by
  induction monitors with
  | nil => exact ⟨[], rfl⟩
  | cons entry rest ih =>
    obtain ⟨area, harea⟩ :=
      (hmonitors entry List.mem_cons_self).intersectionArea_isOk hbounds
    obtain ⟨areas, hareas⟩ := ih fun other hother => hmonitors other (List.mem_cons_of_mem _ hother)
    refine ⟨(entry.1, area) :: areas, ?_⟩
    unfold Desktop.overlaps
    rw [harea, hareas]
    rfl

/-- On such a desktop the monitor of every window can be computed. -/
theorem InBounds.fits {desktop : Desktop} (h : desktop.InBounds) : desktop.Fits :=
  .of_windows fun entry hentry => by
    obtain ⟨areas, hareas⟩ := InBounds.overlaps (h.windows entry hentry) h.monitors
    rw [hareas]
    rfl

/-- How windows are shown does not matter to where they are. -/
theorem InBounds.reshown {D E : Desktop} (h : D.InBounds) (hreshown : Reshown D E) :
    E.InBounds where
  windows entry hentry := by
    have hmem := List.mem_map_of_mem (f := Prod.map id DesktopWindow.unshown) hentry
    rw [hreshown.windows] at hmem
    obtain ⟨other, hother, hsame⟩ := List.mem_map.mp hmem
    have hbounds : other.2.bounds = entry.2.bounds :=
      congrArg (fun e => e.2.bounds) hsame
    rw [← hbounds]
    exact h.windows other hother
  monitors := by rw [hreshown.monitors]; exact h.monitors

/-- On a desktop in bounds no native call is cut short, and it stays in bounds. -/
theorem answer_inBounds (call : NativeCall) :
    Conforms (fun D E : Desktop => D.InBounds → E.InBounds) (fun D _ => ¬ D.InBounds)
      (WindowSystem.call call) := by
  intro desktop
  have hkeeps : desktop.InBounds → (desktop.answer call).2.InBounds :=
    fun h => h.reshown (desktop.answer_reshown call)
  rcases hanswer : desktop.answer call with ⟨e | answer, after⟩
  · rw [ensures_of_error (show (WindowSystem.call call : Action Desktop _).exec desktop = _ from
      hanswer)]
    intro h
    obtain ⟨answer, hok⟩ := h.fits.answer_isOk call
    simp [hanswer] at hok
  · rw [ensures_of_ok (show (WindowSystem.call call : Action Desktop _).exec desktop = _ from
      hanswer)]
    rwa [hanswer] at hkeeps

/-- The event brings nothing onto the desktop that is out of bounds. -/
def Event.InBounds : Event → Prop
  | .openWindow window => window.bounds.InBounds
  | .addMonitor info => info.bounds.InBounds
  | _ => True

/-- What comes onto a desktop in bounds must be in bounds itself; everything else leaves it so. -/
theorem InBounds.apply {desktop : Desktop} (h : desktop.InBounds) {event : Event}
    (hevent : event.InBounds) : (event.apply desktop).InBounds := by
  cases event with
  | openWindow window =>
    refine ⟨fun entry hentry => ?_, h.monitors⟩
    rcases List.mem_cons.mp hentry with rfl | hold
    · exact hevent
    · exact h.windows entry hold
  | addMonitor info =>
    refine ⟨h.windows, fun entry hentry => ?_⟩
    rcases List.mem_append.mp hentry with hold | hnew
    · exact h.monitors entry hold
    · rw [List.mem_singleton.mp hnew]
      exact hevent
  | closeWindow window =>
    exact ⟨fun entry hentry => h.windows entry (List.mem_filter.mp hentry).1, h.monitors⟩
  | setShowState window state =>
    refine h.reshown ⟨⟨rfl, rfl, map_fst_withState .., rfl, rfl, rfl, rfl, rfl⟩, ?_⟩
    exact map_unshown_withState ..
  | _ => exact ⟨h.windows, h.monitors⟩

end Desktop

/-! ## Desktops with injected faults -/

namespace FaultyDesktop

/-- Something that is done to a desktop with injected faults from outside. -/
inductive Event where
  /-- Something that can be done to any desktop. -/
  | onDesktop (event : Desktop.Event)
  /-- One more rule that answers calls in the place of the desktop. -/
  | addRule (rule : FaultRule)
  /-- No call is answered by a rule any more. -/
  | clearRules

/-- The desktop after an event. -/
def Event.apply : Event → FaultyDesktop → FaultyDesktop
  | .onDesktop event, faulty => { faulty with desktop := event.apply faulty.desktop }
  | .addRule rule, faulty => faulty.addRule rule
  | .clearRules, faulty => faulty.clearRules

/-- The event brings nothing onto the desktop that is out of bounds; injected answers may be
anything. -/
def Event.InBounds : Event → Prop
  | .onDesktop event => event.InBounds
  | _ => True

/-- Rules do not move a window, so only what is done to the desktop counts. -/
theorem inBounds_apply {faulty : FaultyDesktop} (h : faulty.desktop.InBounds) {event : Event}
    (hevent : event.InBounds) : (event.apply faulty).desktop.InBounds := by
  cases event with
  | onDesktop event => exact h.apply hevent
  | addRule rule => exact h
  | clearRules => exact h

/-- The relation of what keeps a desktop in bounds, and is not cut short on one. -/
theorem keeps_inBounds :
    IsPathTo (fun F G : FaultyDesktop => F.desktop.InBounds → G.desktop.InBounds)
      fun F _ => ¬ F.desktop.InBounds :=
  .keeps fun faulty : FaultyDesktop => faulty.desktop.InBounds

/-- On a desktop in bounds no call is cut short, whether a rule or the desktop answers it. -/
theorem callsConform_inBounds :
    CallsConform (fun F G : FaultyDesktop => F.desktop.InBounds → G.desktop.InBounds)
      fun F _ => ¬ F.desktop.InBounds where
  path := keeps_inBounds
  call call := by
    refine .bind keeps_inBounds (fun _ h => h) fun answer => ?_
    split
    · exact .pure keeps_inBounds _
    · exact fun faulty => ensures_within.mpr (Desktop.answer_inBounds call faulty.desktop)
  readClock _ h := ⟨h.windows, h.monitors⟩
  settled hnot h := absurd h hnot

end FaultyDesktop

end SoloScreen
