import Mathlib.Data.Int.Interval
import Mathlib.Data.Set.Card
import Mathlib.Order.Defs.Unbundled
import SoloScreen.Proofs.Overlap

/-!
# Arithmetic of rectangles

A rectangle stands for the points with whole coordinates that lie in it. Sums and differences of
coordinates are exact or overflow, so what is computed from them is exact whenever it is computed at
all.

* `Rect.ncard_points`, `Rect.ncard_inter`: how many points lie in a rectangle, and in two of them.
* `Rect.intersectionArea_eq_ite`: when the shared area can be computed, and that it is exact.
* `Rect.ofSize_eq_ite`: when a rectangle can be made from its size, and that it has this size.
* `Rect.covers_isPartialOrder`: to cover is a partial order.
* `Rect.exact_or_overflow`: all of it together.
-/

namespace SoloScreen

/-! ## Exact coordinates -/

namespace Coordinate

/-- The number is one of 32 bits. -/
def Fits (n : Int) : Prop := -2 ^ 31 ≤ n ∧ n < 2 ^ 31

instance (n : Int) : Decidable (Fits n) := inferInstanceAs (Decidable (_ ∧ _))

variable {n : Int}

/-- A number that fits is a coordinate. -/
theorem ofInt_of_fits (h : Fits n) (overflow : Overflow) :
    ofInt overflow n = .ok (Int32.ofInt n) := if_pos h

/-- A number that does not fit is an overflow, of the operation that led to it. It is never cut down
to 32 bits. -/
theorem ofInt_of_not_fits (h : ¬ Fits n) (overflow : Overflow) :
    ofInt overflow n = .error overflow := if_neg h

/-- The coordinate made from a number that fits is that number. -/
theorem Fits.toInt_ofInt (h : Fits n) : (Int32.ofInt n).toInt = n :=
  Int32.toInt_ofInt_of_le h.1 h.2

/-- A coordinate is found again in its number. -/
theorem ofInt_toInt (x : Int32) (overflow : Overflow) : ofInt overflow x.toInt = .ok x := by
  rw [ofInt_of_fits ⟨x.le_toInt, x.toInt_lt⟩, Int32.ofInt_toInt]

end Coordinate

namespace Rect

variable {r other : Rect}

/-! ## Points -/

/-- The points with whole coordinates between two columns and two rows; those in the last column and
in the last row do not belong to them. -/
def block (left top right bottom : Int) : Set (Int × Int) :=
  {point | left ≤ point.1 ∧ point.1 < right ∧ top ≤ point.2 ∧ point.2 < bottom}

/-- To be in a block is four inequalities, on which `omega` can work. -/
theorem mem_block {left top right bottom : Int} {point : Int × Int} :
    point ∈ block left top right bottom ↔
      left ≤ point.1 ∧ point.1 < right ∧ top ≤ point.2 ∧ point.2 < bottom := Iff.rfl

/-- The points in a rectangle. -/
def points (r : Rect) : Set (Int × Int) :=
  block r.left.toInt r.top.toInt r.right.toInt r.bottom.toInt

/-- The columns that two rectangles share, negative if they are apart. -/
def sharedColumns (r other : Rect) : Int :=
  min r.right.toInt other.right.toInt - max r.left.toInt other.left.toInt

/-- The rows that two rectangles share, negative if they are apart. -/
def sharedRows (r other : Rect) : Int :=
  min r.bottom.toInt other.bottom.toInt - max r.top.toInt other.top.toInt

/-- A block is a finite set of as many points as columns times rows. -/
theorem exists_finset_block (left top right bottom : Int) : ∃ block' : Finset (Int × Int),
    ↑block' = block left top right bottom ∧
      (block'.card : Int) = max 0 (right - left) * max 0 (bottom - top) := by
  refine ⟨Finset.Ico left right ×ˢ Finset.Ico top bottom, ?_, ?_⟩
  · ext point
    simp [mem_block, and_assoc]
  · rw [Finset.card_product, Int.card_Ico, Int.card_Ico, Nat.cast_mul, Int.toNat_eq_max,
      Int.toNat_eq_max, max_comm, max_comm (bottom - top)]

/-- The same for the number of points in the set. An inverted block has none, as both factors are
cut off at zero. -/
theorem ncard_block (left top right bottom : Int) :
    ((block left top right bottom).ncard : Int) = max 0 (right - left) * max 0 (bottom - top) := by
  obtain ⟨block', hblock, hcard⟩ := exists_finset_block left top right bottom
  rw [← hblock, Set.ncard_coe_finset, hcard]

/-- A rectangle has finitely many points, so their number says what it seems to say. -/
theorem points_finite (r : Rect) : r.points.Finite := by
  obtain ⟨points', hpoints, -⟩ :=
    exists_finset_block r.left.toInt r.top.toInt r.right.toInt r.bottom.toInt
  rw [points, ← hpoints]
  exact points'.finite_toSet

/-- A rectangle that is not inverted has as many points as columns times rows. -/
theorem ncard_points (hcolumns : r.left ≤ r.right) (hrows : r.top ≤ r.bottom) :
    (r.points.ncard : Int) =
      (r.right.toInt - r.left.toInt) * (r.bottom.toInt - r.top.toInt) := by
  rw [Int32.le_iff_toInt_le] at hcolumns hrows
  rw [points, ncard_block, max_eq_right (by omega), max_eq_right (by omega)]

/-- The points in both rectangles are a block again. -/
theorem inter_points (r other : Rect) : r.points ∩ other.points =
    block (max r.left.toInt other.left.toInt) (max r.top.toInt other.top.toInt)
      (min r.right.toInt other.right.toInt) (min r.bottom.toInt other.bottom.toInt) := by
  ext point
  simp only [points, Set.mem_inter_iff, mem_block]
  omega

/-- The exact shared area is the number of points in both rectangles. -/
theorem ncard_inter (r other : Rect) :
    ((r.points ∩ other.points).ncard : Int) = r.sharedArea other := by
  rw [inter_points, ncard_block]
  rfl

/-! ## The shared area -/

/-- The shared area can be computed if and only if the shared columns and rows are numbers of 32
bits, and then it is the number of points in both rectangles. -/
theorem intersectionArea_eq_ite (r other : Rect) : r.intersectionArea other =
    if Coordinate.Fits (r.sharedColumns other) ∧ Coordinate.Fits (r.sharedRows other) then
      .ok ((r.points ∩ other.points).ncard : Int)
    else .error .subtract := by
  have hcolumns : Coordinate.sub (min r.right other.right) (max r.left other.left) =
      Coordinate.ofInt .subtract (r.sharedColumns other) := by
    rw [Coordinate.sub, Coordinate.toInt_min, Coordinate.toInt_max, sharedColumns]
  have hrows : Coordinate.sub (min r.bottom other.bottom) (max r.top other.top) =
      Coordinate.ofInt .subtract (r.sharedRows other) := by
    rw [Coordinate.sub, Coordinate.toInt_min, Coordinate.toInt_max, sharedRows]
  by_cases hfits : Coordinate.Fits (r.sharedColumns other) ∧ Coordinate.Fits (r.sharedRows other)
  · obtain ⟨area, harea⟩ : ∃ area, r.intersectionArea other = .ok area := by
      rw [intersectionArea, hcolumns, hrows, Coordinate.ofInt_of_fits hfits.1,
        Coordinate.ofInt_of_fits hfits.2]
      exact ⟨_, rfl⟩
    rw [if_pos hfits, ncard_inter, harea, intersectionArea_eq harea]
  · rw [if_neg hfits, intersectionArea, hcolumns, hrows]
    by_cases hfirst : Coordinate.Fits (r.sharedColumns other)
    · rw [Coordinate.ofInt_of_fits hfirst,
        Coordinate.ofInt_of_not_fits fun hsecond => hfits ⟨hfirst, hsecond⟩]
      rfl
    · rw [Coordinate.ofInt_of_not_fits hfirst]
      rfl

/-- It does not matter which of two rectangles is asked. -/
theorem intersectionArea_comm (r other : Rect) :
    r.intersectionArea other = other.intersectionArea r := by
  rw [intersectionArea_eq_ite, intersectionArea_eq_ite, Set.inter_comm, sharedColumns,
    sharedColumns, sharedRows, sharedRows, min_comm, max_comm, min_comm r.bottom.toInt,
    max_comm r.top.toInt]

/-- A shared area is a number of 64 bits: it has fewer than 2³¹ columns and rows. -/
theorem ncard_inter_lt (hcolumns : Coordinate.Fits (r.sharedColumns other))
    (hrows : Coordinate.Fits (r.sharedRows other)) :
    ((r.points ∩ other.points).ncard : Int) < 2 ^ 63 := by
  have hle : r.sharedArea other ≤ 2 ^ 31 * 2 ^ 31 := by
    refine Int.mul_le_mul ?_ ?_ (le_max_left _ _) (by decide)
    · exact max_le (by decide) hcolumns.2.le
    · exact max_le (by decide) hrows.2.le
  rw [ncard_inter]
  omega

/-! ## Covering -/

/-- The four comparisons, as propositions. They are those of the coordinates, so an inverted
rectangle can be covered too. -/
theorem covers_iff : r.covers other = true ↔ r.left ≤ other.left ∧ r.top ≤ other.top ∧
    other.right ≤ r.right ∧ other.bottom ≤ r.bottom := by
  simp [covers, and_assoc]

/-- A rectangle that is covered has all its points in both. -/
theorem inter_points_of_covers (h : r.covers other = true) :
    r.points ∩ other.points = other.points := by
  rw [covers_iff] at h
  simp only [Int32.le_iff_toInt_le] at h
  refine Set.inter_eq_right.mpr fun point hpoint => ?_
  simp only [points, mem_block] at hpoint ⊢
  omega

/-- To cover is a partial order. -/
theorem covers_isPartialOrder : IsPartialOrder Rect fun r other => r.covers other = true where
  refl r := covers_iff.mpr ⟨Int32.le_refl _, Int32.le_refl _, Int32.le_refl _, Int32.le_refl _⟩
  trans r other third h h' := by
    rw [covers_iff] at h h' ⊢
    exact ⟨Int32.le_trans h.1 h'.1, Int32.le_trans h.2.1 h'.2.1,
      Int32.le_trans h'.2.2.1 h.2.2.1, Int32.le_trans h'.2.2.2 h.2.2.2⟩
  antisymm r other h h' := by
    rw [covers_iff] at h h'
    calc r = ⟨r.left, r.top, r.right, r.bottom⟩ := rfl
      _ = ⟨other.left, other.top, other.right, other.bottom⟩ := by
        rw [Int32.le_antisymm h.1 h'.1, Int32.le_antisymm h.2.1 h'.2.1,
          Int32.le_antisymm h'.2.2.1 h.2.2.1, Int32.le_antisymm h'.2.2.2 h.2.2.2]
      _ = other := rfl

/-! ## Sizes -/

/-- A rectangle can be made from its size if and only if its right and lower edges are coordinates,
and then these are exact. -/
theorem ofSize_eq_ite (left top width height : Int32) : ofSize left top width height =
    if Coordinate.Fits (left.toInt + width.toInt) ∧ Coordinate.Fits (top.toInt + height.toInt) then
      .ok ⟨left, top, Int32.ofInt (left.toInt + width.toInt),
        Int32.ofInt (top.toInt + height.toInt)⟩
    else .error .add := by
  unfold ofSize Coordinate.add
  by_cases hright : Coordinate.Fits (left.toInt + width.toInt)
  · rw [Coordinate.ofInt_of_fits hright]
    by_cases hbottom : Coordinate.Fits (top.toInt + height.toInt)
    · rw [Coordinate.ofInt_of_fits hbottom, if_pos ⟨hright, hbottom⟩]
      rfl
    · rw [Coordinate.ofInt_of_not_fits hbottom, if_neg fun hboth => hbottom hboth.2]
      rfl
  · rw [Coordinate.ofInt_of_not_fits hright, if_neg fun hboth => hright hboth.1]
    rfl

/-- What was added to a coordinate is the distance from it. -/
theorem sub_ofInt_add {x distance : Int32} (h : Coordinate.Fits (x.toInt + distance.toInt)) :
    Coordinate.sub (Int32.ofInt (x.toInt + distance.toInt)) x = .ok distance := by
  rw [Coordinate.sub, h.toInt_ofInt, add_sub_cancel_left, Coordinate.ofInt_toInt]

/-- Rectangles are exact or overflow. The area that two rectangles share cannot be computed exactly
if the shared columns or the shared rows are no number of 32 bits. Otherwise it is the number of
points that lie in both: a number of 64 bits, the same for both rectangles, not larger than the
number of points of either, and that of a rectangle that is covered and not inverted.

A rectangle cannot be made from a size exactly if its right or its lower edge would be no number of
32 bits. Otherwise it has the size. To cover is a partial order. -/
theorem exact_or_overflow :
    (∀ r other : Rect, r.intersectionArea other =
      if Coordinate.Fits (min r.right.toInt other.right.toInt - max r.left.toInt other.left.toInt) ∧
        Coordinate.Fits (min r.bottom.toInt other.bottom.toInt - max r.top.toInt other.top.toInt)
      then .ok ((r.points ∩ other.points).ncard : Int) else .error .subtract) ∧
    (∀ (r other : Rect) (area : Int), r.intersectionArea other = .ok area →
      0 ≤ area ∧ area < 2 ^ 63 ∧ other.intersectionArea r = .ok area ∧
      area ≤ r.points.ncard ∧ area ≤ other.points.ncard ∧
      (r.covers other = true → other.left ≤ other.right → other.top ≤ other.bottom →
        area = other.points.ncard ∧
        area = (other.right.toInt - other.left.toInt) * (other.bottom.toInt - other.top.toInt))) ∧
    (∀ left top width height : Int32,
      if Coordinate.Fits (left.toInt + width.toInt) ∧ Coordinate.Fits (top.toInt + height.toInt)
      then ∃ made : Rect, ofSize left top width height = .ok made ∧ made.left = left ∧
        made.top = top ∧ made.width = .ok width ∧ made.height = .ok height
      else ofSize left top width height = .error .add) ∧
    IsPartialOrder Rect fun r other => r.covers other = true := by
  refine ⟨intersectionArea_eq_ite, fun r other area harea => ?_, fun left top width height => ?_,
    covers_isPartialOrder⟩
  · have hcomm : other.intersectionArea r = .ok area := by rw [intersectionArea_comm, harea]
    rw [intersectionArea_eq_ite] at harea
    split at harea
    · rename_i hfits
      rw [← Except.ok.inj harea] at hcomm ⊢
      refine ⟨Int.natCast_nonneg _, ncard_inter_lt hfits.1 hfits.2, hcomm, ?_, ?_, ?_⟩
      · exact Int.ofNat_le.mpr (Set.ncard_le_ncard Set.inter_subset_left r.points_finite)
      · exact Int.ofNat_le.mpr (Set.ncard_le_ncard Set.inter_subset_right other.points_finite)
      · intro hcovers hcolumns hrows
        rw [inter_points_of_covers hcovers]
        exact ⟨rfl, ncard_points hcolumns hrows⟩
    · cases harea
  · rw [ofSize_eq_ite]
    split
    · rename_i hfits
      exact ⟨_, rfl, rfl, rfl, sub_ofInt_add hfits.1, sub_ofInt_add hfits.2⟩
    · rfl

/-- A window that hangs over the edge of a screen shares a part of it, and one that is covered its
whole area. A screen and a window at opposite ends of the coordinates share no area that could be
computed, although they are apart. -/
theorem exact_or_overflow_demo :
    let screen : Rect := ⟨0, 0, 1920, 1080⟩
    let hanging : Rect := ⟨1500, -100, 2300, 500⟩
    let inside : Rect := ⟨100, 100, 900, 700⟩
    let farRight : Rect := ⟨2000000000, 0, 2000001920, 1080⟩
    let farLeft : Rect := ⟨-2000000000, 0, -1999999000, 500⟩
    screen.intersectionArea hanging = .ok 210000 ∧ hanging.intersectionArea screen = .ok 210000 ∧
      (screen.covers inside = true ∧ screen.intersectionArea inside = .ok 480000 ∧
        inside.points.ncard = 480000) ∧
      farRight.intersectionArea farLeft = .error .subtract ∧
      (∃ made : Rect, ofSize 50 50 100 200 = .ok made ∧ made.height = .ok 200) ∧
      ofSize 2147483647 0 1 1 = .error .add := by
  intro screen hanging inside farRight farLeft
  obtain ⟨harea, hlaws, hsize, -⟩ := exact_or_overflow
  have hhanging : screen.intersectionArea hanging = .ok 210000 := by decide
  have hinside : screen.intersectionArea inside = .ok 480000 := by decide
  have hcovers : screen.covers inside = true := by decide
  refine ⟨hhanging, (hlaws _ _ _ hhanging).2.2.1, ⟨hcovers, hinside, ?_⟩,
    (harea _ _).trans (if_neg (by decide)), ?_, ?_⟩
  · obtain ⟨-, -, -, -, -, hcovered⟩ := hlaws _ _ _ hinside
    exact (Int.ofNat_inj.mp (hcovered hcovers (by decide) (by decide)).1).symm
  · have hmade := hsize 50 50 100 200
    rw [if_pos (by decide)] at hmade
    obtain ⟨made, hmade, -, -, -, hheight⟩ := hmade
    exact ⟨made, hmade, hheight⟩
  · have hnone := hsize 2147483647 0 1 1
    rwa [if_neg (by decide)] at hnone

end Rect

end SoloScreen
