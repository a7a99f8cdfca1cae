import Mathlib
import Storyboard.Proofs.Canvas.Overhang

namespace Storyboard.Canvas

/-!
# Visible shapes have samples

A rectangle of which any point is on the sheet has a sample: its box is the
rectangle itself, and the corner of the visible part is the first point of the
grid.  The grid over an oval can miss it.  Then the center of the visible part
of its box stands for it.  That point is in the oval if the center of the oval
is on the sheet: along each axis it is half a radius away at most, and rounding
adds little to it as long as the radius is not itself as small as what is lost
by rounding.  It is also in the oval if the center is beyond one edge and the
oval reaches over this edge only.

An oval whose center is beyond a corner of the sheet can have points on the
sheet and no sample.
-/

open Number

/--
Whether a radius is at least a `2 ^ 47`-th of a side, and so not lost in the
rounding of coordinates along that side.
-/
structure Resolved (side : Nat) (radius : Float) : Prop where
  positive : 0 < radius
  side_le : side ≤ 2 ^ 47 * value radius

/--
Around a corner of the sheet an oval is lost if its radii are a few steps
between doubles.
-/
example :
    samples? ⟨100, 100⟩ ⟨5, 5⟩ ⟨"O", ⟨100, 100⟩, ⟨0, 0, 0⟩, .oval 4e-14 4e-14⟩ =
      some [] := by
  decide +kernel

/--
Whether a shape, if it is an oval, has its center on the sheet and radii that
are resolved.
-/
def Centered (sheet : Sheet) (shape : Shape) : Prop :=
  ∀ xRadius yRadius,
    shape.extent = .oval xRadius yRadius →
    OnSheet sheet shape.position ∧
      Resolved sheet.width xRadius ∧
      Resolved sheet.height yRadius

/-! One axis of an oval whose center is on the sheet. -/

section Axis

variable
  {side : Nat}
  {center radius first last : Float}
  {error : ℚ}

/--
Rounded or not, the ends of the visible part are on both sides of the center.
-/
theorem lower_le_center_le_upper
    (small : side < 2 ^ 32)
    (notNegative : 0 ≤ center)
    (onSide : center ≤ Float.ofNat side)
    (positive : 0 < radius) :
    larger (center - radius) 0 ≤ center ∧
      center ≤ smaller (center + radius) (Float.ofNat side) := by
  obtain ⟨-, -, finite⟩ := value_along_side small notNegative onSide
  exact ⟨larger_le (sub_le finite positive) notNegative,
    le_smaller (le_add finite positive) onSide⟩

/--
The lower end of the visible part is not much further from the center than the
radius.
-/
theorem center_sub_lower_le
    (small : side < 2 ^ 32)
    (notNegative : 0 ≤ center)
    (onSide : center ≤ Float.ofNat side)
    (positive : 0 < radius)
    (bounded : RoundingError (2 * side : Nat) error) :
    value center - value (larger (center - radius) 0) ≤
      value radius + error := by
  obtain ⟨centerLower, centerUpper, centerFinite⟩ :=
    value_along_side small notNegative onSide
  have someRadius := value_pos positive
  have errorPositive := bounded.nonneg
  by_cases far : value center ≤ value radius
  · have cut : 0 ≤ value (larger (center - radius) 0) :=
      value_nonneg (le_larger isNaN_zero)
    linarith
  · rw [not_le] at far
    have radiusFinite : radius.isFinite = true := by
      rw [isFinite_iff_abs_value] at centerFinite ⊢
      rw [abs_of_nonneg centerLower] at centerFinite
      rw [abs_of_pos someRadius]
      exact far.trans centerFinite
    have difference := rounds_sub centerFinite radiusFinite
    have inSize : |value center - value radius| ≤ (2 * side : Nat) := by
      push_cast
      rw [abs_of_pos (by linarith)]
      linarith
    have near := (abs_le.mp (bounded.abs_sub_le difference inSize)).1
    have notCut :=
      value_le_of_le (le_larger_left difference.isNumber isNaN_zero)
    linarith

theorem upper_sub_center_le
    (small : side < 2 ^ 32)
    (notNegative : 0 ≤ center)
    (onSide : center ≤ Float.ofNat side)
    (positive : 0 < radius)
    (bounded : RoundingError (2 * side : Nat) error) :
    value (smaller (center + radius) (Float.ofNat side)) - value center ≤
      value radius + error := by
  obtain ⟨centerLower, centerUpper, centerFinite⟩ :=
    value_along_side small notNegative onSide
  obtain ⟨isSide, sideFinite⟩ := Sheet.value_edge small
  have sideNumber := isNaN_eq_false_of_isFinite sideFinite
  have someRadius := value_pos positive
  have errorPositive := bounded.nonneg
  by_cases far : side ≤ value center + value radius
  · have cut := value_le_of_le (smaller_le sideNumber :
      smaller (center + radius) (Float.ofNat side) ≤ Float.ofNat side)
    rw [isSide] at cut
    linarith
  · rw [not_le] at far
    have radiusFinite : radius.isFinite = true := by
      rw [isFinite_iff_abs_value] at sideFinite ⊢
      rw [isSide, abs_of_nonneg (by linarith)] at sideFinite
      rw [abs_of_pos someRadius]
      linarith
    have sum := rounds_add centerFinite radiusFinite
    have inSize : |value center + value radius| ≤ (2 * side : Nat) := by
      push_cast
      rw [abs_of_pos (by linarith)]
      linarith
    have near := (abs_le.mp (bounded.abs_sub_le sum inSize)).2
    have notCut := value_le_of_le (smaller_le_left sum.isNumber sideNumber)
    linarith

/--
The middle of two ends is near to the middle of a stretch that they do not leave
by much.
-/
theorem middle_near
    (small : side < 2 ^ 32)
    (notNegative : 0 ≤ first)
    (lower : first ≤ center)
    (upper : center ≤ last)
    (onSide : last ≤ Float.ofNat side)
    (bounded : RoundingError (2 * side : Nat) error)
    {stretch : ℚ}
    (lowerNear : value center - value first ≤ stretch)
    (upperNear : value last - value center ≤ stretch) :
    |value ((first + last) / 2) - value center| ≤
      stretch / 2 + 3 / 2 * error := by
  have rounded := middle_sub_le small bounded notNegative
    (Number.le_trans lower upper) onSide
  have lowerValues := value_le_of_le lower
  have upperValues := value_le_of_le upper
  rw [abs_le] at rounded ⊢
  constructor <;> linarith

/--
The middle of the visible part is on the sheet, hardly more than half a radius
away.
-/
theorem clipped_middle_near
    (small : side < 2 ^ 32)
    (notNegative : 0 ≤ center)
    (onSide : center ≤ Float.ofNat side)
    (positive : 0 < radius)
    (bounded : RoundingError (2 * side : Nat) error) :
    let middle :=
      (larger (center - radius) 0 +
        smaller (center + radius) (Float.ofNat side)) / 2
    (0 ≤ middle ∧ middle ≤ Float.ofNat side) ∧
      |value middle - value center| ≤ value radius / 2 + 2 * error := by
  intro middle
  obtain ⟨lower, upper⟩ :=
    lower_le_center_le_upper small notNegative onSide positive
  have between := middle_clipped small (Number.le_trans lower upper)
  have near := middle_near small (le_larger isNaN_zero) lower upper
    (smaller_le (Sheet.isNaN_edge small)) bounded
    (center_sub_lower_le small notNegative onSide positive bounded)
    (upper_sub_center_le small notNegative onSide positive bounded)
  exact ⟨between_of_clipped small between.1 between.2, near.trans (by linarith)⟩

/-- Along one axis the middle of the visible part is well inside the radius. -/
theorem abs_offset_le
    (small : side < 2 ^ 32)
    (notNegative : 0 ≤ center)
    (onSide : center ≤ Float.ofNat side)
    (resolved : Resolved side radius) :
    let middle :=
      (larger (center - radius) 0 +
        smaller (center + radius) (Float.ofNat side)) / 2
    |value ((middle - center) / radius)| ≤ 5 / 8 := by
  intro middle
  obtain ⟨error, bounded⟩ : ∃ error, RoundingError (2 * side : Nat) error :=
    exists_roundingError (by omega)
  obtain ⟨unitError, unitBounded⟩ : ∃ error, RoundingError (1 : Nat) error :=
    exists_roundingError (by decide)
  obtain ⟨onSheet, near⟩ :=
    clipped_middle_near small notNegative onSide resolved.positive bounded
  obtain ⟨centerLower, centerUpper, centerFinite⟩ :=
    value_along_side small notNegative onSide
  obtain ⟨middleLower, middleUpper, middleFinite⟩ :=
    value_along_side small onSheet.1 onSheet.2
  have sideSmall : (side : ℚ) < 2 ^ 32 := by exact_mod_cast small
  have sideLe := resolved.side_le
  have errorPositive := bounded.nonneg
  have errorLe := bounded.mul_le
  push_cast at errorLe
  have inSize : |value middle - value center| ≤ (2 * side : Nat) := by
    push_cast
    rw [abs_le]
    constructor <;> linarith
  have difference :=
    bounded.abs_sub_le (rounds_sub middleFinite centerFinite) inSize
  have offset := abs_le_of_abs_sub_le near difference
  have offsetFinite : (middle - center).isFinite = true := by
    refine isFinite_of_abs_value_le
      ((abs_le_of_abs_sub_le inSize difference).trans ?_)
    push_cast
    linarith
  have offsetSmall :
      |value (middle - center)| ≤ 19 / 32 * value radius := by linarith
  rw [Nat.cast_one] at unitBounded
  have quotient :=
    unitBounded.abs_value_div_le offsetFinite resolved.positive offsetSmall
    (by norm_num) (by norm_num)
  have unitSmall := unitBounded.mul_le
  linarith

end Axis

/-- An oval contains what is not far from its center along both axes. -/
theorem oval_contains
    {shape : Shape}
    {xRadius yRadius : Float}
    {point : Point}
    (isOval : shape.extent = .oval xRadius yRadius)
    (across : |value ((point.x - shape.position.x) / xRadius)| ≤ 5 / 8)
    (up : |value ((point.y - shape.position.y) / yRadius)| ≤ 5 / 8) :
    contains shape point = true := by
  obtain ⟨unitError, unitBounded⟩ : ∃ error, RoundingError (1 : Nat) error :=
    exists_roundingError (by decide)
  rw [Nat.cast_one] at unitBounded
  have square {offset : Float} (small : |value offset| ≤ 5 / 8) :
      |value (offset * offset)| ≤ 1 / 2 := by
    have finite := isFinite_of_abs_value_le (small.trans (by norm_num))
    have exact : |value offset * value offset| ≤ 25 / 64 := by
      rw [abs_mul]
      nlinarith [abs_nonneg (value offset)]
    have product := unitBounded.abs_sub_le (rounds_mul finite finite)
      (exact.trans (by norm_num))
    have atMost := unitBounded.mul_le
    exact (abs_le_of_abs_sub_le exact product).trans (by linarith)
  exact oval_contains_of_squares isOval (square across) (square up)
    (by norm_num)

section Samples

variable
  {sheet : Sheet}
  {pitch : Pitch}
  {shape : Shape}
  {points : List Point}

/--
If the center of an oval is on the sheet, the oval contains that of its visible
box too.
-/
theorem contains_center_of_centered
    (inWords : sheet.InWords)
    (centered : Centered sheet shape)
    {xRadius yRadius : Float}
    (isOval : shape.extent = .oval xRadius yRadius) :
    let box := (Box.ofShape shape).clip sheet
    box.isEmpty = false ∧ contains shape box.center = true := by
  rw [Box.ofShape_oval isOval]
  intro box
  obtain ⟨⟨⟨fromLeft, toRight⟩, fromBottom, toTop⟩, xResolved, yResolved⟩ :=
    centered xRadius yRadius isOval
  have across := lower_le_center_le_upper inWords.width_lt fromLeft toRight
    xResolved.positive
  have up := lower_le_center_le_upper inWords.height_lt fromBottom toTop
    yResolved.positive
  have xOffset := abs_offset_le inWords.width_lt fromLeft toRight xResolved
  have yOffset := abs_offset_le inWords.height_lt fromBottom toTop yResolved
  refine ⟨(Box.isEmpty_clip_eq_false_iff inWords).mpr ⟨?_, ?_⟩, ?_⟩
  · exact Number.le_trans across.1 across.2
  · exact Number.le_trans up.1 up.2
  · exact oval_contains isOval xOffset yOffset

/--
A visible shape has a sample, however large the steps are and however thin its
visible part, if it is a rectangle or an oval that has its center on the sheet
or reaches over one edge only.
-/
theorem samples_ne_nil_of_visible
    (inWords : sheet.InWords)
    (sampled : samples? sheet pitch shape = some points)
    (visible : Visible sheet shape)
    (placed : Centered sheet shape ∨ OverOneEdge sheet shape) :
    points ≠ [] := by
  cases isExtent : shape.extent with
  | rectangle width height =>
      obtain ⟨rows, columns, inRows, inColumns, rfl⟩ :=
        exists_grid_of_rectangle inWords sampled isExtent visible
      exact inRows.grid_ne_nil inColumns
  | oval xRadius yRadius =>
      have ⟨someBox, inside⟩ := placed.elim
        (contains_center_of_centered inWords · isExtent)
        (contains_center_of_overOneEdge inWords · isExtent)
      rcases samples?_cases sampled with ⟨noBox, -⟩ | ⟨-, grid, -, rfl⟩
      · rw [someBox] at noBox
        cases noBox
      · split
        case isTrue =>
          rw [List.filter_singleton, inside]
          exact List.cons_ne_nil _ _
        case isFalse someGrid =>
          simpa using someGrid

/--
The grid misses an oval around a corner and one that touches an edge from
outside in a single point; the centers of their boxes stand for them.
-/
theorem samples_ne_nil_of_ovals_at_edges :
    let sheet : Sheet := ⟨100, 100⟩
    let atCorner : Shape := ⟨"O", ⟨100, 100⟩, ⟨0, 0, 0⟩, .oval 2 2⟩
    let overEdge : Shape := ⟨"P", ⟨-1, 53⟩, ⟨0, 0, 0⟩, .oval 1 1⟩
    (∃ points,
      samples? sheet ⟨5, 5⟩ atCorner = some points ∧
        Visible sheet atCorner ∧
        Centered sheet atCorner ∧
        points ≠ []) ∧
      ∃ points,
        samples? sheet ⟨5, 5⟩ overEdge = some points ∧
          Visible sheet overEdge ∧
          OverOneEdge sheet overEdge ∧
          points ≠ [] := by
  intro sheet atCorner overEdge
  have inWords : sheet.InWords := ⟨by decide, by decide⟩
  have isOne : value 1 = (1 : Nat) := (value_ofNat (by decide)).1
  have isTwo : value 2 = (2 : Nat) := (value_ofNat (by decide)).1
  have isHeight : value 53 = (53 : Nat) := (value_ofNat (by decide)).1
  constructor
  · have comesToAnEnd : (samples? sheet ⟨5, 5⟩ atCorner).isSome = true := by
      decide +kernel
    have onSheet : OnSheet sheet ⟨100, 100⟩ := by
      refine ⟨⟨?_, ?_⟩, ?_, ?_⟩ <;> decide +kernel
    have visible : Visible sheet atCorner :=
      ⟨⟨100, 100⟩, onSheet, by decide +kernel⟩
    have resolved : Resolved 100 2 :=
      ⟨by decide +kernel, by rw [isTwo]; norm_num⟩
    have centered : Centered sheet atCorner := by
      rintro xRadius yRadius ⟨⟩
      exact ⟨onSheet, resolved, resolved⟩
    obtain ⟨points, sampled⟩ := Option.isSome_iff_exists.mp comesToAnEnd
    exact ⟨points, sampled, visible, centered,
      samples_ne_nil_of_visible inWords sampled visible (.inl centered)⟩
  · have comesToAnEnd : (samples? sheet ⟨5, 5⟩ overEdge).isSome = true := by
      decide +kernel
    have onSheet : OnSheet sheet ⟨0, 53⟩ := by
      refine ⟨⟨?_, ?_⟩, ?_, ?_⟩ <;> decide +kernel
    have visible : Visible sheet overEdge :=
      ⟨⟨0, 53⟩, onSheet, by decide +kernel⟩
    have isLeft : value (-1) = -1 := by
      have isNegated : rank (-1) = -rank 1 := by decide +kernel
      rw [value, isNegated, rankValue_neg]
      exact congrArg Neg.neg (by exact_mod_cast isOne)
    have overhangs : Overhangs 100 (-1) 1 := by
      refine ⟨by decide +kernel, .inl ⟨by decide +kernel, ?_⟩⟩
      rw [isLeft, isOne]
      norm_num
    have fits : Fits 100 53 1 := by
      refine ⟨by decide +kernel, ?_, ?_, ?_⟩ <;>
        simp only [isOne, isHeight] <;> norm_num
    have overOneEdge : OverOneEdge sheet overEdge := by
      rintro xRadius yRadius ⟨⟩
      exact .inl ⟨overhangs, fits⟩
    obtain ⟨points, sampled⟩ := Option.isSome_iff_exists.mp comesToAnEnd
    exact ⟨points, sampled, visible, overOneEdge,
      samples_ne_nil_of_visible inWords sampled visible (.inr overOneEdge)⟩

/--
An oval with its center a little beyond the corner of the sheet holds that
corner, but neither the only point of the grid nor the center of its box.
-/
theorem samples_eq_nil_of_oval_beyond_corner :
    let sheet : Sheet := ⟨100, 100⟩
    let shape : Shape := ⟨"O", ⟨101.4, 101.4⟩, ⟨0, 0, 0⟩, .oval 2 2⟩
    (OnSheet sheet ⟨100, 100⟩ ∧ contains shape ⟨100, 100⟩ = true) ∧
      samples? sheet ⟨5, 5⟩ shape = some [] := by
  intro sheet shape
  refine ⟨⟨⟨⟨?_, ?_⟩, ?_, ?_⟩, ?_⟩, ?_⟩ <;> decide +kernel

end Samples

end Storyboard.Canvas
