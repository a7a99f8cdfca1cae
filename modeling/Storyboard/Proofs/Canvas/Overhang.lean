import Mathlib
import Storyboard.Proofs.Canvas.Sampling
import Storyboard.Proofs.Number.Middles

namespace Storyboard.Canvas

/-!
# Ovals with their center beyond an edge

Of an oval that reaches over one edge of the sheet only, the part on the sheet
may be as thin as a single point.  The center of its visible box is in the oval
all the same: towards the edge it is a whole radius away from the center of the
oval at most, rounded or not, and along the edge it is not moved but for
rounding.
-/

open Number

/--
Whether an oval whose center lies beyond one end of a side reaches back to it.
-/
structure Overhangs (side : Nat) (center radius : Float) : Prop where
  radiusFinite : radius.isFinite = true
  reaches :
    center < 0 ∧ -value center ≤ value radius ∨
      Float.ofNat side < center ∧ value center - side ≤ value radius

/--
Whether an oval lies between the ends of a side, with a radius that is at least
a `2 ^ 22`-th of the side.
-/
structure Fits (side : Nat) (center radius : Float) : Prop where
  positive : 0 < radius
  radius_le : value radius ≤ value center
  add_radius_le : value center + value radius ≤ side
  side_le : side ≤ 2 ^ 22 * value radius

/--
Whether a shape, if it is an oval, reaches over one edge of the sheet and no
other one, its center beyond that edge.
-/
def OverOneEdge (sheet : Sheet) (shape : Shape) : Prop :=
  ∀ xRadius yRadius,
    shape.extent = .oval xRadius yRadius →
    Overhangs sheet.width shape.position.x xRadius ∧
        Fits sheet.height shape.position.y yRadius ∨
      Fits sheet.width shape.position.x xRadius ∧
        Overhangs sheet.height shape.position.y yRadius

section Axis

variable
  {side : Nat}
  {center radius : Float}

namespace Overhangs

theorem positive
    (small : side < 2 ^ 32)
    (overhangs : Overhangs side center radius) :
    0 < radius := by
  refine lt_iff_value_lt.mpr
    ⟨isNaN_zero, isNaN_eq_false_of_isFinite overhangs.radiusFinite, ?_⟩
  rw [value_zero]
  rcases overhangs.reaches with ⟨before, reaches⟩ | ⟨behind, reaches⟩
  · have negative := value_lt_of_lt before
    rw [value_zero] at negative
    linarith
  · have beyond := value_lt_of_lt behind
    rw [(Sheet.value_edge small).1] at beyond
    linarith

theorem centerFinite
    (small : side < 2 ^ 32)
    (overhangs : Overhangs side center radius) :
    center.isFinite = true := by
  have radiusBound :=
    (abs_le.mp (abs_value_le_of_isFinite overhangs.radiusFinite)).2
  have sideSmall : (side : ℚ) < 2 ^ 32 := by exact_mod_cast small
  have unit : (2 : ℚ) ^ 32 < 2 ^ 971 :=
    pow_lt_pow_right₀ (by norm_num) (by norm_num)
  have bounded : side + value radius < rankValue infinityPattern := by
    rw [rankValue_infinityPattern]
    calc
      side + value radius < 2 ^ 971 + (2 ^ 1024 - 2 ^ 971) :=
        add_lt_add_of_lt_of_le (sideSmall.trans unit) radiusBound
      _ = 2 ^ 1024 := add_sub_cancel _ _
  have sideValue : (0 : ℚ) ≤ side := Nat.cast_nonneg side
  rw [isFinite_iff_abs_value]
  rcases overhangs.reaches with ⟨before, reaches⟩ | ⟨behind, reaches⟩
  · have negative := value_lt_of_lt before
    rw [value_zero] at negative
    rw [abs_of_neg negative]
    linarith
  · have beyond := value_lt_of_lt behind
    rw [(Sheet.value_edge small).1] at beyond
    rw [abs_of_pos (sideValue.trans_lt beyond)]
    linarith

/-- The visible part begins before it ends. -/
theorem lower_le_upper
    (small : side < 2 ^ 32)
    (overhangs : Overhangs side center radius) :
    larger (center - radius) 0 ≤
      smaller (center + radius) (Float.ofNat side) := by
  obtain ⟨isSide, sideFinite⟩ := Sheet.value_edge small
  have sideNumber := isNaN_eq_false_of_isFinite sideFinite
  have centerFinite := overhangs.centerFinite small
  have positive := overhangs.positive small
  have someRadius := value_pos positive
  have difference := rounds_sub centerFinite overhangs.radiusFinite
  have sum := rounds_add centerFinite overhangs.radiusFinite
  have zeroLe : 0 ≤ Float.ofNat side := by
    refine le_iff_value_le.mpr ⟨isNaN_zero, sideNumber, ?_⟩
    rw [value_zero, isSide]
    exact Nat.cast_nonneg side
  have sideValue : (0 : ℚ) ≤ side := Nat.cast_nonneg side
  have startsInside : center - radius ≤ Float.ofNat side := by
    refine difference.le_of_le_value sideNumber ?_
    rw [isSide]
    rcases overhangs.reaches with ⟨before, reaches⟩ | ⟨behind, reaches⟩
    · linarith [value_zero ▸ value_lt_of_lt before]
    · linarith
  have endsInside : 0 ≤ center + radius := by
    refine sum.le_of_value_le isNaN_zero ?_
    rw [value_zero]
    rcases overhangs.reaches with ⟨before, reaches⟩ | ⟨behind, reaches⟩
    · linarith
    · linarith [isSide ▸ value_lt_of_lt behind]
  refine larger_le (le_smaller ?_ startsInside) (le_smaller endsInside zeroLe)
  exact Number.le_trans (sub_le centerFinite positive)
    (le_add centerFinite positive)

/--
Beyond the start of a side, the middle of the visible part is half of the
rounded end of the oval.
-/
theorem value_middle_le
    (small : side < 2 ^ 32)
    (overhangs : Overhangs side center radius)
    (before : center < 0)
    (reaches : -value center ≤ value radius) :
    value
        ((larger (center - radius) 0 +
          smaller (center + radius) (Float.ofNat side)) / 2) ≤
      value center + value radius := by
  have sideNumber := Sheet.isNaN_edge small
  have centerFinite := overhangs.centerFinite small
  have ordered := overhangs.lower_le_upper small
  have sum := rounds_add centerFinite overhangs.radiusFinite
  have startsInside : 0 ≤ larger (center - radius) 0 := le_larger isNaN_zero
  have endsInside :
      smaller (center + radius) (Float.ofNat side) ≤ Float.ofNat side :=
    smaller_le sideNumber
  have cutEnd := smaller_le_left sum.isNumber sideNumber
  have isStart : value (larger (center - radius) 0) = 0 := by
    refine le_antisymm ?_ (value_nonneg startsInside)
    rw [← value_zero]
    have notPositive : center - radius ≤ 0 :=
      Number.le_trans (sub_le centerFinite (overhangs.positive small))
        (Number.le_of_lt before)
    exact value_le_of_le (larger_le notPositive (Number.le_refl isNaN_zero))
  obtain ⟨-, -, startFinite⟩ :=
    value_along_side small startsInside (Number.le_trans ordered endsInside)
  obtain ⟨endLower, -, endFinite⟩ :=
    value_along_side small (Number.le_trans startsInside ordered) endsInside
  generalize larger (center - radius) 0 = first at *
  generalize smaller (center + radius) (Float.ofNat side) = last at *
  have ends := rounds_add startFinite endFinite
  rw [isStart, zero_add] at ends
  have isEnd := ends.value_eq (isNaN_eq_false_of_isFinite endFinite)
  have endsFinite : (first + last).isFinite = true := by
    rw [isFinite_iff_abs_value, isEnd]
    exact isFinite_iff_abs_value.mp endFinite
  have half := rounds_half endsFinite
  rw [isEnd] at half
  exact sum.half_le half (by linarith) endLower (value_le_of_le cutEnd)

/--
Beyond the end of a side, the middle of the visible part lies above the rounded
start of the oval, unless no more is visible than the end of the side.
-/
theorem sub_le_value_middle
    (small : side < 2 ^ 32)
    (overhangs : Overhangs side center radius)
    (behind : Float.ofNat side < center)
    (reaches : value center - side ≤ value radius) :
    value center - value radius ≤
      value
        ((larger (center - radius) 0 +
          smaller (center + radius) (Float.ofNat side)) / 2) := by
  obtain ⟨isSide, sideFinite⟩ := Sheet.value_edge small
  have sideNumber := isNaN_eq_false_of_isFinite sideFinite
  have centerFinite := overhangs.centerFinite small
  have ordered := overhangs.lower_le_upper small
  have onMiddle := middle_clipped small ordered
  have difference := rounds_sub centerFinite overhangs.radiusFinite
  have startsInside : 0 ≤ larger (center - radius) 0 := le_larger isNaN_zero
  have cutStart := le_larger_left difference.isNumber isNaN_zero
  have isEnd : value (smaller (center + radius) (Float.ofNat side)) = side := by
    rw [← isSide]
    have reachesEnd : Float.ofNat side ≤ center + radius :=
      Number.le_trans (Number.le_of_lt behind)
        (le_add centerFinite (overhangs.positive small))
    exact le_antisymm (value_le_of_le (smaller_le sideNumber))
      (value_le_of_le (le_smaller reachesEnd (Number.le_refl sideNumber)))
  generalize larger (center - radius) 0 = first at *
  generalize smaller (center + radius) (Float.ofNat side) = last at *
  by_contra short
  rw [not_le] at short
  have notAbove : (first + last) / 2 ≤ first :=
    Number.le_trans
      (difference.le_of_value_le (isNaN_right_of_le onMiddle.1) short.le)
        cutStart
  by_cases less : first < last
  · have above := value_lt_of_lt (lt_middle small isEnd startsInside less)
    exact above.not_ge (value_le_of_le notAbove)
  · rw [Number.not_lt (isNaN_left_of_le ordered) (isNaN_right_of_le ordered)]
      at less
    have atEnd := value_le_of_le (Number.le_trans less onMiddle.1)
    rw [isEnd] at atEnd
    linarith

/--
The middle of the visible part is not further from the center than the radius.
-/
theorem abs_middle_sub_le
    (small : side < 2 ^ 32)
    (overhangs : Overhangs side center radius) :
    let middle :=
      (larger (center - radius) 0 +
        smaller (center + radius) (Float.ofNat side)) / 2
    |value middle - value center| ≤ value radius := by
  intro middle
  have someRadius := value_pos (overhangs.positive small)
  obtain ⟨middleLower, middleUpper, -⟩ :=
    middle_along_side small (overhangs.lower_le_upper small)
  rw [abs_le]
  rcases overhangs.reaches with ⟨before, reaches⟩ | ⟨behind, reaches⟩
  · have atMost := overhangs.value_middle_le small before reaches
    have negative := value_lt_of_lt before
    rw [value_zero] at negative
    constructor <;> linarith
  · have atLeast := overhangs.sub_le_value_middle small behind reaches
    have beyond := value_lt_of_lt behind
    rw [(Sheet.value_edge small).1] at beyond
    constructor <;> linarith

/-- Along one axis the middle of the visible part is at most the radius away. -/
theorem abs_offset_le_one
    (small : side < 2 ^ 32)
    (overhangs : Overhangs side center radius) :
    let middle :=
      (larger (center - radius) 0 +
        smaller (center + radius) (Float.ofNat side)) / 2
    |value ((middle - center) / radius)| ≤ 1 := by
  intro middle
  have radiusFinite := overhangs.radiusFinite
  have someRadius := value_pos (overhangs.positive small)
  obtain ⟨-, -, middleFinite⟩ :=
    middle_along_side small (overhangs.lower_le_upper small)
  have difference := rounds_sub middleFinite (overhangs.centerFinite small)
  have inRadius := difference.abs_value_le
    (isNaN_eq_false_of_isFinite radiusFinite)
      (overhangs.abs_middle_sub_le small)
  have offsetFinite : (middle - center).isFinite = true := by
    have radiusBound := isFinite_iff_abs_value.mp radiusFinite
    rw [abs_of_pos someRadius] at radiusBound
    exact isFinite_iff_abs_value.mpr (inRadius.trans_lt radiusBound)
  have quotient := rounds_div offsetFinite radiusFinite someRadius.ne'
  have isOne : value 1 = (1 : Nat) := (value_ofNat (by decide)).1
  rw [Nat.cast_one] at isOne
  rw [← isOne]
  refine quotient.abs_value_le (isNaN_ofNat (by decide)) ?_
  rw [isOne, abs_div, abs_of_pos someRadius]
  exact div_le_one_of_le₀ inRadius someRadius.le

end Overhangs

namespace Fits

variable {error : ℚ}

theorem isFinite
    (small : side < 2 ^ 32)
    (fits : Fits side center radius) :
    center.isFinite = true ∧ radius.isFinite = true := by
  have sideSmall : (side : ℚ) < 2 ^ 32 := by exact_mod_cast small
  have someRadius := value_pos fits.positive
  have fromStart := fits.radius_le
  have toEnd := fits.add_radius_le
  constructor <;>
    exact isFinite_of_abs_value_le (by rw [abs_of_pos] <;> linarith)

/--
The whole oval is visible, and the ends of its box are rounded but not cut.
-/
theorem ends_near
    (small : side < 2 ^ 32)
    (fits : Fits side center radius)
    (bounded : RoundingError (2 * side : Nat) error) :
    let lower := larger (center - radius) 0
    let upper := smaller (center + radius) (Float.ofNat side)
    lower ≤ upper ∧
      |value lower - (value center - value radius)| ≤ error ∧
        |value upper - (value center + value radius)| ≤ error := by
  intro lower upper
  obtain ⟨isSide, sideFinite⟩ := Sheet.value_edge small
  have sideNumber := isNaN_eq_false_of_isFinite sideFinite
  obtain ⟨centerFinite, radiusFinite⟩ := fits.isFinite small
  have someRadius := value_pos fits.positive
  have fromStart := fits.radius_le
  have toEnd := fits.add_radius_le
  have difference := rounds_sub centerFinite radiusFinite
  have sum := rounds_add centerFinite radiusFinite
  have notCutBelow : 0 ≤ center - radius :=
    difference.le_of_value_le isNaN_zero (by rw [value_zero]; linarith)
  have notCutAbove : center + radius ≤ Float.ofNat side :=
    sum.le_of_le_value sideNumber (by rwa [isSide])
  have ordered : center - radius ≤ center + radius :=
    difference.mono sum (by linarith)
  have isLower : value lower = value (center - radius) := by
    rw [value_larger difference.isNumber isNaN_zero]
    exact max_eq_left (value_le_of_le notCutBelow)
  have isUpper : value upper = value (center + radius) := by
    rw [value_smaller sum.isNumber sideNumber]
    exact min_eq_left (value_le_of_le notCutAbove)
  refine ⟨?_, ?_, ?_⟩
  · exact larger_le (le_smaller ordered (Number.le_trans ordered notCutAbove))
      (le_smaller (Number.le_trans notCutBelow ordered)
        (Number.le_trans notCutBelow (Number.le_trans ordered notCutAbove)))
  · rw [isLower]
    refine bounded.abs_sub_le difference ?_
    push_cast
    rw [abs_of_nonneg (by linarith)]
    linarith
  · rw [isUpper]
    refine bounded.abs_sub_le sum ?_
    push_cast
    rw [abs_of_nonneg (by linarith)]
    linarith

theorem lower_le_upper
    (small : side < 2 ^ 32)
    (fits : Fits side center radius) :
    larger (center - radius) 0 ≤
      smaller (center + radius) (Float.ofNat side) := by
  obtain ⟨error, bounded⟩ : ∃ error, RoundingError (2 * side : Nat) error :=
    exists_roundingError (by omega)
  exact (fits.ends_near small bounded).1

/--
Along one axis the middle of a visible oval is its center but for rounding.
-/
theorem abs_offset_le
    (small : side < 2 ^ 32)
    (fits : Fits side center radius) :
    let middle :=
      (larger (center - radius) 0 +
        smaller (center + radius) (Float.ofNat side)) / 2
    |value ((middle - center) / radius)| ≤ 2 ^ (-27 : ℤ) := by
  intro middle
  obtain ⟨error, bounded⟩ : ∃ error, RoundingError (2 * side : Nat) error :=
    exists_roundingError (by omega)
  obtain ⟨unitError, unitBounded⟩ : ∃ error, RoundingError (1 : Nat) error :=
    exists_roundingError (by decide)
  obtain ⟨ordered, lowerNear, upperNear⟩ := fits.ends_near small bounded
  obtain ⟨middleLower, middleUpper, middleFinite⟩ :=
    middle_along_side small ordered
  have rounded := middle_sub_le small bounded (le_larger isNaN_zero) ordered
    (smaller_le (Sheet.isNaN_edge small))
  have sideSmall : (side : ℚ) < 2 ^ 32 := by exact_mod_cast small
  have sideLe := fits.side_le
  have fromStart := fits.radius_le
  have toEnd := fits.add_radius_le
  have someRadius := value_pos fits.positive
  have errorPositive := bounded.nonneg
  have errorLe := bounded.mul_le
  push_cast at errorLe
  have near : |value middle - value center| ≤ 5 / 2 * error := by
    rw [abs_le] at lowerNear upperNear rounded ⊢
    constructor <;> linarith
  have inSize : |value middle - value center| ≤ (2 * side : Nat) := by
    push_cast
    rw [abs_le]
    constructor <;> linarith
  obtain ⟨centerFinite, -⟩ := fits.isFinite small
  have difference :=
    bounded.abs_sub_le (rounds_sub middleFinite centerFinite) inSize
  have offset := abs_le_of_abs_sub_le near difference
  have offsetFinite : (middle - center).isFinite = true :=
    isFinite_of_abs_value_le (offset.trans (by linarith))
  have offsetSmall :
      |value (middle - center)| ≤ 2 ^ (-28 : ℤ) * value radius := by
    rw [zpow_neg]
    norm_num
    linarith
  rw [Nat.cast_one] at unitBounded
  have quotient := unitBounded.abs_value_div_le offsetFinite fits.positive
    offsetSmall (by norm_num) (by norm_num)
  have unitSmall := unitBounded.mul_le
  refine quotient.trans ?_
  norm_num
  linarith

end Fits

end Axis

/-! The equation of an oval, with its squares and their sum rounded. -/

theorem abs_value_square_le
    {offset : Float}
    {share : ℚ}
    {rank : ℤ}
    (small : |value offset| ≤ share)
    (atMostOne : share ≤ 1)
    (notLarge : |rank| ≤ infinityPattern)
    (isSquare : rankValue rank = share ^ 2) :
    |value (offset * offset)| ≤ share ^ 2 := by
  have finite : offset.isFinite = true :=
    isFinite_of_abs_value_le (small.trans (by linarith))
  rw [← isSquare]
  refine (rounds_mul finite finite).abs_value_le_rankValue notLarge ?_
  rw [isSquare, ← sq, abs_pow]
  exact pow_le_pow_left₀ (abs_nonneg _) small 2

theorem abs_value_square_le_one
    {offset : Float}
    (small : |value offset| ≤ 1) :
    |value (offset * offset)| ≤ 1 := by
  have isOne : value 1 = (1 : Nat) := (value_ofNat (by decide)).1
  have isSquare : rankValue (rank 1) = (1 : ℚ) ^ 2 := by
    rw [one_pow]
    exact_mod_cast isOne
  have bounded := abs_value_square_le small le_rfl
    (isNaN_eq_false_iff.mp (isNaN_ofNat (by decide))) isSquare
  rwa [one_pow] at bounded

theorem abs_value_square_le_tiny
    {offset : Float}
    (small : |value offset| ≤ 2 ^ (-27 : ℤ)) :
    |value (offset * offset)| ≤ 2 ^ (-54 : ℤ) := by
  have isSquare :
      rankValue (968 * 2 ^ 52 + 2 ^ 52 : Nat) = ((2 : ℚ) ^ (-27 : ℤ)) ^ 2 := by
    rw [rankValue_of_parts (by decide) (.inl le_rfl)]
    norm_num
  have bounded :=
    abs_value_square_le small (by norm_num) (by decide) isSquare
  rwa [← zpow_natCast, ← zpow_mul] at bounded

theorem halfway_rank_one : halfway (rank 1) = 1 + 2 ^ (-53 : ℤ) := by
  have gap :
      halfGap (rank (Float.ofNat (2 ^ 0))) = 2 ^ (((0 : Nat) : ℤ) - 53) :=
    halfGap_rank_ofNat_two_pow (by decide +kernel)
  have isOne : value 1 = (1 : Nat) := (value_ofNat (by decide)).1
  rw [halfGap, pow_zero] at gap
  rw [value, Nat.cast_one] at isOne
  change halfway (rank 1) - rankValue (rank 1) = _ at gap
  rw [isOne] at gap
  rw [← sub_eq_iff_eq_add', gap]
  rfl

/--
An oval contains a point if the squares of its offsets add up to hardly more
than one.
-/
theorem oval_contains_of_squares
    {shape : Shape}
    {xRadius yRadius : Float}
    {point : Point}
    {xSquare ySquare : ℚ}
    (isOval : shape.extent = .oval xRadius yRadius)
    (across :
      let offset := (point.x - shape.position.x) / xRadius
      |value (offset * offset)| ≤ xSquare)
    (up :
      let offset := (point.y - shape.position.y) / yRadius
      |value (offset * offset)| ≤ ySquare)
    (small : xSquare + ySquare < 1 + 2 ^ (-53 : ℤ)) :
    contains shape point = true := by
  simp only [contains, isOval, decide_eq_true_eq]
  set dx := (point.x - shape.position.x) / xRadius
  set dy := (point.y - shape.position.y) / yRadius
  have xNotNegative := (abs_nonneg _).trans across
  have yNotNegative := (abs_nonneg _).trans up
  have notLarge : (1 : ℚ) + 2 ^ (-53 : ℤ) ≤ 2 ^ 53 := by norm_num
  have sum := rounds_add
    (isFinite_of_abs_value_le (across.trans (by linarith)))
    (isFinite_of_abs_value_le (up.trans (by linarith)))
  refine sum.le_of_lt_halfway (isNaN_ofNat (by decide)) ?_
  rw [halfway_rank_one]
  linarith [(abs_le.mp across).2, (abs_le.mp up).2]

section Shapes

variable
  {sheet : Sheet}
  {shape : Shape}

/--
An oval over one edge of the sheet contains the center of its visible box.
-/
theorem contains_center_of_overOneEdge
    (inWords : sheet.InWords)
    (overOneEdge : OverOneEdge sheet shape)
    {xRadius yRadius : Float}
    (isOval : shape.extent = .oval xRadius yRadius) :
    let box := (Box.ofShape shape).clip sheet
    box.isEmpty = false ∧ contains shape box.center = true := by
  rw [Box.ofShape_oval isOval]
  intro box
  have widthSmall := inWords.width_lt
  have heightSmall := inWords.height_lt
  rw [Box.isEmpty_clip_eq_false_iff inWords]
  rcases overOneEdge xRadius yRadius isOval with
    ⟨across, up⟩ | ⟨across, up⟩
  · exact ⟨⟨across.lower_le_upper widthSmall, up.lower_le_upper heightSmall⟩,
      oval_contains_of_squares isOval
        (abs_value_square_le_one (across.abs_offset_le_one widthSmall))
        (abs_value_square_le_tiny (up.abs_offset_le heightSmall))
        (by norm_num)⟩
  · exact ⟨⟨across.lower_le_upper widthSmall, up.lower_le_upper heightSmall⟩,
      oval_contains_of_squares isOval
        (abs_value_square_le_tiny (across.abs_offset_le widthSmall))
        (abs_value_square_le_one (up.abs_offset_le_one heightSmall))
        (by norm_num)⟩

end Shapes

end Storyboard.Canvas
