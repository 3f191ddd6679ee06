import EyesFree.Proofs.ExactIntegers
import EyesFree.Proofs.Extent
import Mathlib.Algebra.Order.Ring.Cast

namespace EyesFree

/-! Where the target lies on the active array. Its corners are those of a square around half
the extent of the array. That is the center of an array at the origin; an array elsewhere
has its center elsewhere, since rectangles are given in the coordinates of the sensor. -/

/-! ## Positions -/

def Point.position (point : Point) : ℚ × ℚ := (point.x.toRat, point.y.toRat)

/-- The corners of a square with a given center and half a given side,
clockwise from the top-left. -/
def squareAbout (x y half : Int) : List (ℚ × ℚ) :=
  [((x - half : Int), (y - half : Int)), ((x + half : Int), (y - half : Int)),
    ((x + half : Int), (y + half : Int)), ((x - half : Int), (y + half : Int))]

/-- A position is on a rectangle, its edges included. -/
def Rect.Covers (rect : Rect) (position : ℚ × ℚ) : Prop :=
  rect.left.toInt ≤ position.1 ∧ position.1 ≤ rect.right.toInt ∧
    rect.top.toInt ≤ position.2 ∧ position.2 ≤ rect.bottom.toInt

private theorem squareAbout_inj {x y otherX otherY half : Int} :
    squareAbout x y half = squareAbout otherX otherY half ↔ x = otherX ∧ y = otherY := by
  constructor
  · intro same
    simp only [squareAbout, List.cons.injEq, Prod.mk.injEq, Int.cast_inj] at same
    omega
  · rintro ⟨rfl, rfl⟩
    rfl

private theorem Rect.covers_squareAbout_iff {rect : Rect} {x y half : Int} (positive : 0 ≤ half) :
    (∀ position ∈ squareAbout x y half, rect.Covers position) ↔
      rect.left.toInt + half ≤ x ∧ x + half ≤ rect.right.toInt ∧
        rect.top.toInt + half ≤ y ∧ y + half ≤ rect.bottom.toInt := by
  simp only [squareAbout, List.forall_mem_cons, List.not_mem_nil, false_imp_iff, implies_true,
    and_true, Covers, Int.cast_le]
  omega

/-! ## Corners -/

def Point.ofPixels (x y : Int) : Point := ⟨.ofInt x, .ofInt y⟩

private theorem Point.position_ofPixels {x y : Int} (smallX : x.natAbs < 2 ^ 24)
    (smallY : y.natAbs < 2 ^ 24) : (ofPixels x y).position = ((x : ℚ), (y : ℚ)) := by
  rw [position, ofPixels, Single.toRat_ofInt smallX, Single.toRat_ofInt smallY]

/-- The target of an array of proper extent has its corners five pixels
from half the extent. -/
theorem Rect.targetCoordinates_eq {rect : Rect} {width height : Int32}
    (wide : rect.width = .ok width) (high : rect.height = .ok height) :
    let x := width.toInt.tdiv 2
    let y := height.toInt.tdiv 2
    rect.targetCoordinates = .ok [.ofPixels (x - 5) (y - 5), .ofPixels (x + 5) (y - 5),
      .ofPixels (x + 5) (y + 5), .ofPixels (x - 5) (y + 5)] := by
  have margin : targetHalfExtent.toInt = 5 := by decide
  have less (extent : Int32) := toInt_of_toInt32 (subInt32_half_eq_ok extent)
  have more (extent : Int32) := toInt_of_toInt32 (addInt32_half_eq_ok extent)
  simp only [toInt_half, margin] at less more
  simp only [targetCoordinates, wide, high, subInt32_half_eq_ok, addInt32_half_eq_ok, bind,
    Except.bind, toInt_half, margin, less, more]
  rfl

theorem Rect.HasExtent.targetCoordinates_eq {rect : Rect} (extent : rect.HasExtent) :
    let x := (rect.right.toInt - rect.left.toInt).tdiv 2
    let y := (rect.bottom.toInt - rect.top.toInt).tdiv 2
    rect.targetCoordinates = .ok [.ofPixels (x - 5) (y - 5), .ofPixels (x + 5) (y - 5),
      .ofPixels (x + 5) (y + 5), .ofPixels (x - 5) (y + 5)] := by
  obtain ⟨⟨width, wide⟩, height, high⟩ := extent
  have widthExact : width.toInt = rect.right.toInt - rect.left.toInt := toInt_of_toInt32 wide
  have heightExact : height.toInt = rect.bottom.toInt - rect.top.toInt := toInt_of_toInt32 high
  rw [← widthExact, ← heightExact]
  exact Rect.targetCoordinates_eq wide high

private theorem Rect.target_positions {rect : Rect}
    (wide : rect.left.toInt + 10 ≤ rect.right.toInt)
    (high : rect.top.toInt + 10 ≤ rect.bottom.toInt)
    (near : ∀ edge ∈ [rect.left, rect.top, rect.right, rect.bottom], edge.toInt.natAbs ≤ 2 ^ 22) :
    ∃ corners, rect.targetCoordinates = .ok corners ∧ corners.map Point.position =
      squareAbout ((rect.right.toInt - rect.left.toInt) / 2)
        ((rect.bottom.toInt - rect.top.toInt) / 2) 5 := by
  simp only [List.forall_mem_cons, List.not_mem_nil, false_imp_iff, implies_true, and_true] at near
  obtain ⟨nearLeft, nearTop, nearRight, nearBottom⟩ := near
  have extent : rect.HasExtent := hasExtent_iff.mpr ⟨⟨by omega, by omega⟩, by omega, by omega⟩
  refine ⟨_, extent.targetCoordinates_eq, ?_⟩
  rw [Int.tdiv_eq_ediv_of_nonneg (by omega), Int.tdiv_eq_ediv_of_nonneg (by omega)]
  simp only [List.map_cons, List.map_nil, squareAbout]
  rw [Point.position_ofPixels, Point.position_ofPixels, Point.position_ofPixels,
    Point.position_ofPixels] <;> omega

/-- The target is a square of ten pixels around half the extent of the array. Its center is
that of the array exactly if the array is at the origin, and then it is on the array;
elsewhere it may be off the array. -/
theorem target_on_array {rect : Rect} (wide : rect.left.toInt + 10 ≤ rect.right.toInt)
    (high : rect.top.toInt + 10 ≤ rect.bottom.toInt)
    (near : ∀ edge ∈ [rect.left, rect.top, rect.right, rect.bottom], edge.toInt.natAbs ≤ 2 ^ 22) :
    let x := (rect.right.toInt - rect.left.toInt) / 2
    let y := (rect.bottom.toInt - rect.top.toInt) / 2
    ∃ corners, rect.targetCoordinates = .ok corners ∧
      corners.map Point.position = squareAbout x y 5 ∧
      (corners.map Point.position = squareAbout (rect.left.toInt + x) (rect.top.toInt + y) 5 ↔
        rect.left = 0 ∧ rect.top = 0) ∧
      ((∀ corner ∈ corners, rect.Covers corner.position) ↔
        rect.left.toInt + 5 ≤ x ∧ x + 5 ≤ rect.right.toInt ∧
          rect.top.toInt + 5 ≤ y ∧ y + 5 ≤ rect.bottom.toInt) ∧
      (rect.left = 0 → rect.top = 0 → ∀ corner ∈ corners, rect.Covers corner.position) := by
  intro x y
  obtain ⟨corners, target, positions⟩ := Rect.target_positions wide high near
  have covered : (∀ corner ∈ corners, rect.Covers corner.position) ↔
      rect.left.toInt + 5 ≤ x ∧ x + 5 ≤ rect.right.toInt ∧
        rect.top.toInt + 5 ≤ y ∧ y + 5 ≤ rect.bottom.toInt := by
    rw [← Rect.covers_squareAbout_iff (by decide), ← positions, List.forall_mem_map]
  refine ⟨corners, target, positions, ?_, covered, ?_⟩
  · rw [positions, squareAbout_inj, ← Int32.toInt_inj, ← Int32.toInt_inj, Int32.toInt_zero]
    omega
  · intro left top
    rw [covered]
    have leftZero : rect.left.toInt = 0 := by rw [left]; rfl
    have topZero : rect.top.toInt = 0 := by rw [top]; rfl
    omega

/-- An array at the origin whose center is not a whole number of pixels from its left edge. -/
theorem target_on_array_odd :
    ∃ corners, (Rect.ofExtent 4001 3000).targetCoordinates = .ok corners ∧
      corners.map Point.position = squareAbout 2000 1500 5 ∧
      ∀ corner ∈ corners, (Rect.ofExtent 4001 3000).Covers corner.position := by
  obtain ⟨corners, target, positions, _, _, covered⟩ :=
    @target_on_array (.ofExtent 4001 3000) (by decide) (by decide)
      (by simp [Rect.ofExtent])
  exact ⟨corners, target, positions, covered rfl rfl⟩

def offsetArray : Rect := ⟨100, 200, 110, 210⟩

/-- Its target is not around its center, and no corner of the target is on it. -/
theorem target_off_array :
    ∃ corners, offsetArray.targetCoordinates = .ok corners ∧
      corners.map Point.position ≠ squareAbout 105 205 5 ∧
      ∀ corner ∈ corners, ¬offsetArray.Covers corner.position := by
  obtain ⟨corners, target, positions⟩ :=
    @Rect.target_positions offsetArray (by decide) (by decide) (by simp [offsetArray])
  have around : corners.map Point.position = squareAbout 5 5 5 := positions
  refine ⟨corners, target, ?_, ?_⟩
  · rw [around, ne_eq, squareAbout_inj]
    decide
  · rw [← List.forall_mem_map (P := fun position => ¬offsetArray.Covers position), around]
    rintro position member ⟨inside, _⟩
    have left : offsetArray.left.toInt = 100 := rfl
    simp only [squareAbout, List.mem_cons, List.not_mem_nil, or_false] at member
    rcases member with rfl | rfl | rfl | rfl <;> rw [left, Int.cast_le] at inside <;> omega

end EyesFree
