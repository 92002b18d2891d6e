import SoloScreen.Proofs.Bookkeeping
import SoloScreen.Proofs.Bounds

/-!
# The monitor that a window overlaps most

A window is assigned to a monitor by the area that it shares with each of them. Several monitors may
share the largest area, above all if the window overlaps none; then the last of them counts, in the
order in which they were added.

* `Rect.intersectionArea_eq`: the area that is computed is the exact one.
* `Desktop.monitorOf_eq`: the monitor that is chosen, in terms of exact areas.
* `Desktop.assigned_to_last_largest`: the monitor of a window, and when it is also the first one.
-/

namespace SoloScreen

/-! ## Exact areas -/

namespace Coordinate

/-- The lesser of two coordinates is the lesser of their numbers, so the exact area can be written
with numbers alone. -/
theorem toInt_min (x y : Int32) : (min x y).toInt = min x.toInt y.toInt := by
  show (if x ≤ y then x else y).toInt = _
  simp only [Int32.le_iff_toInt_le]
  split <;> omega

/-- The same for the greater one. -/
theorem toInt_max (x y : Int32) : (max x y).toInt = max x.toInt y.toInt := by
  show (if x ≤ y then y else x).toInt = _
  simp only [Int32.le_iff_toInt_le]
  split <;> omega

/-- A difference that fits is exact. -/
theorem toInt_of_sub {x y difference : Int32} (h : sub x y = .ok difference) :
    difference.toInt = x.toInt - y.toInt := by
  unfold sub ofInt at h
  split at h
  · rename_i hrange
    rw [← Except.ok.inj h]
    exact Int32.toInt_ofInt_of_le (by omega) (by omega)
  · cases h

end Coordinate

namespace Rect

/-- The number of points that lie in both rectangles, by the lengths of the common columns and
rows. -/
def sharedArea (r other : Rect) : Int :=
  max 0 (min r.right.toInt other.right.toInt - max r.left.toInt other.left.toInt) *
    max 0 (min r.bottom.toInt other.bottom.toInt - max r.top.toInt other.top.toInt)

/-- An area that is computed without an overflow is exact. -/
theorem intersectionArea_eq {r other : Rect} {area : Int}
    (h : r.intersectionArea other = .ok area) : area = r.sharedArea other := by
  unfold intersectionArea at h
  rcases hwidth : Coordinate.sub (min r.right other.right) (max r.left other.left) with e | width
  · rw [hwidth] at h
    cases h
  rcases hheight : Coordinate.sub (min r.bottom other.bottom) (max r.top other.top) with e | height
  · rw [hwidth, hheight] at h
    cases h
  rw [hwidth, hheight] at h
  have harea := Except.ok.inj h
  have hcolumns := Coordinate.toInt_of_sub hwidth
  have hrows := Coordinate.toInt_of_sub hheight
  rw [Coordinate.toInt_min, Coordinate.toInt_max] at hcolumns hrows
  unfold sharedArea
  rw [← hcolumns, ← hrows, ← harea]
  split
  · rename_i hempty
    rcases hempty with hempty | hempty
    · rw [Int.max_eq_left hempty, Int.zero_mul]
    · rw [Int.max_eq_left hempty, Int.mul_zero]
  · rw [Int.max_eq_right (by omega), Int.max_eq_right (by omega)]

end Rect

namespace Desktop

/-! ## The largest area -/

/-- The monitors that share the largest area with a rectangle, in the order in which they were
added. -/
def largest (bounds : Rect) (monitors : List (MonitorHandle × MonitorInfo)) :
    List (MonitorHandle × MonitorInfo) :=
  monitors.filter fun entry => monitors.all fun other =>
    other.2.bounds.sharedArea bounds ≤ entry.2.bounds.sharedArea bounds

variable {bounds : Rect} {monitors : List (MonitorHandle × MonitorInfo)}

/-- If all areas can be computed, they are the exact ones. -/
theorem overlaps_eq (h : ∀ entry ∈ monitors, ∃ area,
    entry.2.bounds.intersectionArea bounds = .ok area) :
    overlaps bounds monitors =
      .ok (monitors.map fun entry => (entry.1, entry.2.bounds.sharedArea bounds)) := by
  induction monitors with
  | nil => rfl
  | cons entry rest ih =>
    obtain ⟨area, harea⟩ := h entry List.mem_cons_self
    unfold overlaps
    rw [harea, ih fun other hother => h other (List.mem_cons_of_mem _ hother),
      Rect.intersectionArea_eq harea]
    rfl

/-- The key with the largest value: none before it has a larger one, and all after it have a smaller
one. -/
theorem exists_lastLargest {areas : List (MonitorHandle × Int)} (h : areas ≠ []) :
    ∃ before chosen after, areas = before ++ chosen :: after ∧
      lastLargest areas = some chosen.1 ∧ (∀ other ∈ before, other.2 ≤ chosen.2) ∧
        ∀ other ∈ after, other.2 < chosen.2 := by
  induction areas with
  | nil => exact absurd rfl h
  | cons first rest ih =>
    unfold lastLargest
    split
    · rename_i hlater
      obtain ⟨other, hother, hle⟩ := List.any_eq_true.mp hlater
      rw [decide_eq_true_eq] at hle
      obtain ⟨before, chosen, after, rfl, hchosen, hbefore, hafter⟩ :=
        ih (List.ne_nil_of_mem hother)
      refine ⟨first :: before, chosen, after, rfl, hchosen, fun entry hentry => ?_, hafter⟩
      rcases List.mem_cons.mp hentry with rfl | hmem
      · refine Int.le_trans hle ?_
        rcases List.mem_append.mp hother with hmem | hmem
        · exact hbefore other hmem
        · rcases List.mem_cons.mp hmem with rfl | hmem
          · exact Int.le_refl _
          · exact Int.le_of_lt (hafter other hmem)
      · exact hbefore entry hmem
    · rename_i hlater
      refine ⟨[], first, rest, rfl, rfl, by simp, fun other hother => ?_⟩
      rw [← Int.not_le]
      exact fun hle => hlater (List.any_eq_true.mpr ⟨other, hother, decide_eq_true hle⟩)

/-- What passes a test and has none after it that does passes it last. -/
theorem getLast?_filter_append_cons {α : Type} {p : α → Bool} {chosen : α} (before : List α)
    {after : List α} (hchosen : p chosen = true) (hafter : ∀ other ∈ after, ¬ p other = true) :
    ((before ++ chosen :: after).filter p).getLast? = some chosen := by
  rw [List.filter_append, List.filter_cons_of_pos hchosen, List.filter_eq_nil_iff.mpr hafter,
    List.getLast?_append]
  rfl

/-- Of the keys with the largest value the last one is chosen. -/
theorem lastLargest_eq (areas : List (MonitorHandle × Int)) : lastLargest areas =
    (areas.filter fun entry => areas.all fun other => other.2 ≤ entry.2).getLast?.map Prod.fst := by
  by_cases hempty : areas = []
  · rw [hempty]
    rfl
  obtain ⟨before, chosen, after, hsplit, hchosen, hbefore, hafter⟩ := exists_lastLargest hempty
  have hlargest : ∀ other ∈ areas, other.2 ≤ chosen.2 := by
    intro other hother
    rw [hsplit, List.mem_append, List.mem_cons] at hother
    rcases hother with hmem | rfl | hmem
    · exact hbefore other hmem
    · exact Int.le_refl _
    · exact Int.le_of_lt (hafter other hmem)
  have hlast := getLast?_filter_append_cons
    (p := fun entry => areas.all fun other => other.2 ≤ entry.2) before
    (List.all_eq_true.mpr fun other hother => decide_eq_true (hlargest other hother))
    fun entry hentry hall => by
      have hle := List.all_eq_true.mp hall chosen (by simp [hsplit])
      exact absurd (of_decide_eq_true hle) (Int.not_le.mpr (hafter entry hentry))
  rw [← hsplit] at hlast
  rw [hchosen, hlast]
  rfl

/-- Of the exact areas of the monitors the last one that is largest is chosen. -/
theorem lastLargest_largest : lastLargest
    (monitors.map fun entry => (entry.1, entry.2.bounds.sharedArea bounds)) =
      (largest bounds monitors).getLast?.map Prod.fst := by
  rw [lastLargest_eq, List.filter_map, List.getLast?_map, Option.map_map]
  unfold largest
  simp only [Function.comp_def, List.all_map]

/-- If all areas can be computed, the last of the monitors with the largest one is chosen. -/
theorem monitorOf_eq {desktop : Desktop} {window : WindowHandle} {w : DesktopWindow}
    (hw : desktop.window window = .ok w) (hfits : ∀ entry ∈ desktop.monitors, ∃ area,
      entry.2.bounds.intersectionArea w.bounds = .ok area) :
    desktop.monitorOf window = .ok (match (largest w.bounds desktop.monitors).getLast? with
      | some chosen => .ok chosen.1
      | none => .error (.platform "мониторы не найдены")) := by
  unfold monitorOf
  rw [hw]
  dsimp only
  rw [overlaps_eq hfits]
  show Except.ok _ = _
  rw [lastLargest_largest]
  rcases (largest w.bounds desktop.monitors).getLast? with _ | chosen <;> rfl

/-- If no area is shared with any monitor, all of them share the largest area. -/
theorem largest_of_apart (h : ∀ entry ∈ monitors, entry.2.bounds.sharedArea bounds = 0) :
    largest bounds monitors = monitors := by
  refine List.filter_eq_self.mpr fun entry hentry => List.all_eq_true.mpr fun other hother => ?_
  rw [h entry hentry, h other hother]
  rfl

/-- Some monitor shares the largest area. -/
theorem largest_ne_nil (h : monitors ≠ []) : largest bounds monitors ≠ [] := by
  have hareas : (monitors.map fun entry => (entry.1, entry.2.bounds.sharedArea bounds)) ≠ [] :=
    fun hnil => h (List.map_eq_nil_iff.mp hnil)
  obtain ⟨_, chosen, _, -, hchosen, -⟩ := exists_lastLargest hareas
  rw [lastLargest_largest] at hchosen
  intro hnil
  rw [hnil] at hchosen
  cases hchosen

/-- The first monitor with the largest area is also the last one if and only if it is the only
one. -/
theorem head?_eq_getLast?_iff (hne : monitors ≠ []) (hnodup : (monitors.map Prod.fst).Nodup) :
    (largest bounds monitors).head?.map Prod.fst = (largest bounds monitors).getLast?.map Prod.fst ↔
      (largest bounds monitors).length = 1 := by
  have hnodup : ((largest bounds monitors).map Prod.fst).Nodup :=
    hnodup.sublist (List.filter_sublist.map _)
  rcases hlargest : largest bounds monitors with _ | ⟨first, rest⟩
  · exact absurd hlargest (largest_ne_nil hne)
  rw [hlargest, List.map_cons, List.nodup_cons] at hnodup
  rcases hlast : rest.getLast? with _ | last
  · rw [List.getLast?_eq_none_iff.mp hlast]
    simp
  · -- the last monitor stands behind the first one, so its handle is another
    have hmem : last.1 ∈ rest.map Prod.fst :=
      List.mem_map_of_mem (List.mem_of_getLast? hlast)
    rw [List.getLast?_cons, hlast, List.head?_cons]
    refine iff_of_false (fun hsame => hnodup.1 ?_) fun hone => ?_
    · rwa [Option.some.inj hsame]
    · rw [List.length_eq_zero_iff.mp (Nat.succ.inj hone)] at hmem
      cases hmem

/-- The monitor of a window. Let a window be open and answer, on a desktop that has come about in
any run and has a monitor, and let the areas that it shares with the monitors be small enough to be
computed. Then the window is assigned to the last of the monitors with which it shares the largest
area, in the order in which they were added. This is the first of them if and only if there is only
one. A window that overlaps no monitor is assigned to the last monitor of all. -/
theorem assigned_to_last_largest (inputs : List Input) {window : WindowHandle} {w : DesktopWindow}
    (hw : (run inputs {}).window window = .ok w) (hne : (run inputs {}).monitors ≠ [])
    (hfits : ∀ entry ∈ (run inputs {}).monitors, ∃ area,
      entry.2.bounds.intersectionArea w.bounds = .ok area) :
    let desktop := run inputs {}
    let candidates := largest w.bounds desktop.monitors
    ∃ monitor, desktop.answer (.monitorOf window) = (.ok (.ok monitor), desktop) ∧
      candidates.getLast?.map Prod.fst = some monitor ∧
      (candidates.head?.map Prod.fst = some monitor ↔ candidates.length = 1) ∧
      ((∀ entry ∈ desktop.monitors, entry.2.bounds.sharedArea w.bounds = 0) →
        desktop.monitors.getLast?.map Prod.fst = some monitor) := by
  intro desktop candidates
  have hnodup : (desktop.monitors.map Prod.fst).Nodup := (run_orderly inputs).monitors_nodup
  obtain ⟨chosen, hchosen⟩ : ∃ chosen, candidates.getLast? = some chosen :=
    ⟨_, List.getLast?_eq_some_getLast (largest_ne_nil hne)⟩
  refine ⟨chosen.1, ?_, ?_, ?_, fun hapart => ?_⟩
  · show (desktop.monitorOf window, desktop) = _
    rw [monitorOf_eq hw hfits, hchosen]
  · rw [hchosen]
    rfl
  · have hfirst : candidates.head?.map Prod.fst = candidates.getLast?.map Prod.fst ↔
        candidates.length = 1 := head?_eq_getLast?_iff hne hnodup
    rwa [hchosen] at hfirst
  · have hall : candidates = desktop.monitors := largest_of_apart hapart
    rw [← hall, hchosen]
    rfl

/-- A window that overlaps neither of two monitors: both share the largest area with it, which is
none, and it is assigned to the last one, not to the first. -/
theorem apart_window_on_last_monitor :
    let left : MonitorInfo := ⟨⟨0, 0, 1920, 1080⟩, ⟨0, 0, 1920, 1040⟩⟩
    let right : MonitorInfo := ⟨⟨1920, 0, 3840, 1080⟩, ⟨1920, 0, 3840, 1040⟩⟩
    let w := { DesktopWindow.titled 1 "Far away" with bounds := ⟨5000, 5000, 5800, 5600⟩ }
    let desktop := run [.outside (.addMonitor left), .outside (.addMonitor right),
      .outside (.addProcess 1 "notepad.exe"), .outside (.openWindow w)] {}
    desktop.window ⟨0x1000⟩ = .ok w ∧
      overlaps w.bounds desktop.monitors = .ok [(⟨0x10⟩, 0), (⟨0x11⟩, 0)] ∧
      (largest w.bounds desktop.monitors).head? = some (⟨0x10⟩, left) ∧
      desktop.answer (.monitorOf ⟨0x1000⟩) = (.ok (.ok ⟨0x11⟩), desktop) ∧
      desktop.answer (.monitorOf ⟨0x1000⟩) ≠ (.ok (.ok ⟨0x10⟩), desktop) := by
  decide +kernel

/-- A window that hangs over from the first monitor a little into the second one is on the first,
the only one with which it shares the largest area. One that is cut in half by the border is on the
second. -/
theorem assigned_to_last_largest_demo :
    let inputs : List Input :=
      [.outside (.addMonitor ⟨⟨0, 0, 1920, 1080⟩, ⟨0, 0, 1920, 1040⟩⟩),
        .outside (.addMonitor ⟨⟨1920, 0, 3840, 1080⟩, ⟨1920, 0, 3840, 1040⟩⟩),
        .outside (.openWindow
          { DesktopWindow.titled 1 "Mostly left" with bounds := ⟨1500, 0, 2300, 600⟩ }),
        .outside (.openWindow
          { DesktopWindow.titled 1 "Half left" with bounds := ⟨1520, 0, 2320, 600⟩ })]
    let desktop := run inputs {}
    desktop.answer (.monitorOf ⟨0x1000⟩) = (.ok (.ok ⟨0x10⟩), desktop) ∧
      desktop.answer (.monitorOf ⟨0x1010⟩) = (.ok (.ok ⟨0x11⟩), desktop) := by
  intro inputs desktop
  have hmonitors : desktop.monitors =
      [(⟨0x10⟩, ⟨⟨0, 0, 1920, 1080⟩, ⟨0, 0, 1920, 1040⟩⟩),
        (⟨0x11⟩, ⟨⟨1920, 0, 3840, 1080⟩, ⟨1920, 0, 3840, 1040⟩⟩)] := by
    decide
  constructor
  · have hfits : ∀ entry ∈ desktop.monitors, ∃ area,
        entry.2.bounds.intersectionArea ⟨1500, 0, 2300, 600⟩ = .ok area := by
      rw [hmonitors]
      simp only [List.forall_mem_cons]
      exact ⟨⟨252000, by decide⟩, ⟨228000, by decide⟩, by simp⟩
    have hwindow : desktop.window ⟨0x1000⟩ =
        .ok { DesktopWindow.titled 1 "Mostly left" with bounds := ⟨1500, 0, 2300, 600⟩ } := by
      decide +kernel
    obtain ⟨monitor, hanswer, hlast, -⟩ :=
      assigned_to_last_largest inputs hwindow (hmonitors ▸ List.cons_ne_nil _ _) hfits
    have hleft : some (⟨0x10⟩ : MonitorHandle) = some monitor := by
      rw [← hlast]
      decide +kernel
    rw [Option.some.inj hleft]
    exact hanswer
  · have hfits : ∀ entry ∈ desktop.monitors, ∃ area,
        entry.2.bounds.intersectionArea ⟨1520, 0, 2320, 600⟩ = .ok area := by
      rw [hmonitors]
      simp only [List.forall_mem_cons]
      exact ⟨⟨240000, by decide⟩, ⟨240000, by decide⟩, by simp⟩
    have hwindow : desktop.window ⟨0x1010⟩ =
        .ok { DesktopWindow.titled 1 "Half left" with bounds := ⟨1520, 0, 2320, 600⟩ } := by
      decide +kernel
    obtain ⟨monitor, hanswer, hlast, -⟩ :=
      assigned_to_last_largest inputs hwindow (hmonitors ▸ List.cons_ne_nil _ _) hfits
    have hright : some (⟨0x11⟩ : MonitorHandle) = some monitor := by
      rw [← hlast]
      decide +kernel
    rw [Option.some.inj hright]
    exact hanswer

end Desktop

end SoloScreen
