import Mathlib
import Storyboard.Proofs.Number.Characters
import Storyboard.Proofs.Report.PageFormat
import Storyboard.Proofs.Script.Captures
import Storyboard.Proofs.Script.Finite
import Storyboard.Proofs.Sheet

namespace Storyboard

/-!
# Numbers on a page

All numbers of an album that scripts reach are finite and are printed with
digits, a point and one more digit.  The distance of a shape from the upper edge
of the sheet is computed, however.  For an oval the difference is finite as
well; for a rectangle the height is subtracted, too, and if both are large
enough the result is infinite.
-/

namespace Number

/-- A minus sign or none, digits, a point and one digit. -/
def IsDecimalLiteral (text : List Char) : Prop :=
  ∃ whole digit,
    (text = whole ++ ['.', digit] ∨ text = '-' :: (whole ++ ['.', digit])) ∧
      whole ≠ [] ∧
      (∀ c ∈ whole, c.isDigit = true) ∧
      digit.isDigit = true

theorem toChars_one_place (units : Nat) :
    ∃ whole digit,
      (⟨units, 1⟩ : Decimal).toChars = whole ++ ['.', digit] ∧
        whole ≠ [] ∧
        (∀ c ∈ whole, c.isDigit = true) ∧
        digit.isDigit = true := by
  have one : (paddedDigits 1 (units % 10)).length = 1 :=
    length_paddedDigits (by decide) (Nat.mod_lt _ (by decide))
  obtain ⟨digit, isDigit⟩ := List.length_eq_one_iff.mp one
  refine ⟨Nat.toDigits 10 (units / 10), digit, ?_, Nat.toDigits_ne_nil,
    fun c member => ?_, ?_⟩
  · rw [← isDigit]
    rfl
  · exact isDigit_of_mem_toDigits member
  · exact isDigit_of_mem_paddedDigits (isDigit ▸ List.mem_singleton_self digit)

theorem isDecimalLiteral_tenths
    {double : Float}
    (finite : double.isFinite = true) :
    IsDecimalLiteral (tenths double).toList := by
  have small := magnitudePattern_lt_of_isFinite finite
  obtain ⟨whole, digit, isText, rest⟩ :=
    toChars_one_place (roundQuotient
      (10 * unitsOfPattern (magnitudePattern double)) unitsPerOne)
  refine ⟨whole, digit, ?_, rest⟩
  rw [tenths, String.toList_ofList, printWith, if_neg small.not_gt,
    if_neg small.ne, tenthsDecimal, isText]
  split
  · exact .inr rfl
  · exact .inl rfl

/-- Below all doubles there is negative infinity, which has no digits. -/
theorem tenths_of_rank_eq_neg_infinity
    {double : Float}
    (isInfinity : rank double = -infinityPattern) :
    tenths double = "-inf" := by
  have magnitude : magnitudePattern double = infinityPattern := by
    rw [← natAbs_rank, isInfinity, Int.natAbs_neg, Int.natAbs_natCast]
  have signed : signBit double = true := by
    by_contra unsigned
    rw [rank, if_neg unsigned, magnitude, infinityPattern_eq] at isInfinity
    revert isInfinity
    decide
  rw [tenths, printWith, if_neg (magnitude ▸ lt_irrefl _), if_pos magnitude,
    if_pos signed]
  rfl

end Number

namespace Report

open Number

/--
Whether the upper edge of a rectangle is too far from that of a sheet for a
double.
-/
def Overflows (sheet : Sheet) (shape : Shape) : Prop :=
  ∃ width height,
    shape.extent = .rectangle width height ∧
      overflowBound ≤ value height - value (sheet.top - shape.position.y)

section Depths

variable
  {sheet : Sheet}
  {shape : Shape}

/-- The distance of a position from the upper edge of a sheet is finite. -/
theorem isFinite_top_sub
    (inWords : sheet.InWords)
    {y : Float}
    (finite : y.isFinite = true) :
    (sheet.top - y).isFinite = true := by
  obtain ⟨isTop, topFinite⟩ :
      value sheet.top = sheet.height ∧ sheet.top.isFinite = true :=
    Sheet.value_edge inWords.height_lt
  have small : (sheet.height : ℚ) < 2 ^ 970 := by
    have inWord : (sheet.height : ℚ) < 2 ^ 32 := by
      exact_mod_cast inWords.height_lt
    exact inWord.trans (pow_lt_pow_right₀ (by norm_num) (by norm_num))
  have notNegative : (0 : ℚ) ≤ sheet.height := Nat.cast_nonneg _
  obtain ⟨lower, upper⟩ := abs_le.mp (abs_value_le_of_isFinite finite)
  have unit : (2 : ℚ) ^ 971 = 2 * 2 ^ 970 := pow_succ' 2 970
  rw [(rounds_sub topFinite finite).isFinite_iff, isTop, overflowBound, abs_lt]
  rw [unit] at lower upper
  generalize (2 : ℚ) ^ 970 = half at *
  generalize (2 : ℚ) ^ 1024 = large at *
  constructor <;> linarith only [small, notNegative, lower, upper]

theorem depth_of_rectangle
    {width height : Float}
    (isRectangle : shape.extent = .rectangle width height) :
    depth sheet shape = sheet.top - shape.position.y - height := by
  rw [depth, isRectangle]

theorem rounds_depth
    (inWords : sheet.InWords)
    (finite : shape.Finite)
    {width height : Float}
    (isRectangle : shape.extent = .rectangle width height) :
    Rounds (value (sheet.top - shape.position.y) - value height)
      (depth sheet shape) := by
  obtain ⟨⟨-, yFinite⟩, ⟨-, heightFinite⟩, -⟩ := shape.finite_iff.mp finite
  rw [isRectangle] at heightFinite
  rw [depth_of_rectangle isRectangle]
  exact rounds_sub (isFinite_top_sub inWords yFinite) heightFinite

theorem isFinite_depth
    (inWords : sheet.InWords)
    (valid : shape.Valid)
    (finite : shape.Finite)
    (notTooFar : ¬Overflows sheet shape) :
    (depth sheet shape).isFinite = true := by
  have yFinite := (shape.finite_iff.mp finite).1.2
  have topFinite := isFinite_top_sub inWords yFinite
  cases isExtent : shape.extent with
  | oval xRadius yRadius =>
      rw [depth, isExtent]
      exact topFinite
  | rectangle width height =>
      have positive := value_pos valid.sizesPositive.2
      have notAbove := (abs_lt.mp (abs_value_lt_overflowBound topFinite)).2
      have near :
          value height - value (sheet.top - shape.position.y) < overflowBound :=
        not_le.mp fun tooFar => notTooFar ⟨width, height, isExtent, tooFar⟩
      rw [isExtent] at positive
      change 0 < value height at positive
      rw [(rounds_depth inWords finite isExtent).isFinite_iff, abs_lt]
      constructor <;> linarith

theorem rank_depth_of_overflows
    (inWords : sheet.InWords)
    (finite : shape.Finite)
    (tooFar : Overflows sheet shape) :
    rank (depth sheet shape) = -infinityPattern := by
  obtain ⟨width, height, isRectangle, large⟩ := tooFar
  obtain ⟨nearest, isNearest, isRank⟩ :=
    (rounds_depth inWords finite isRectangle).exists_nearest
  have below := isNearest.neg.infinity_le_iff.mpr (by rwa [neg_sub])
  have positive : (0 : ℤ) < infinityPattern := by
    rw [infinityPattern_eq]
    decide
  rw [isRank, clamp]
  omega

theorem isFinite_depth_iff
    (inWords : sheet.InWords)
    (valid : shape.Valid)
    (finite : shape.Finite) :
    (depth sheet shape).isFinite = true ↔ ¬Overflows sheet shape := by
  refine ⟨fun depthFinite tooFar => ?_, isFinite_depth inWords valid finite⟩
  rw [Number.isFinite_iff, rank_depth_of_overflows inWords finite tooFar,
    abs_neg, Nat.abs_cast] at depthFinite
  exact lt_irrefl _ depthFinite

end Depths

/--
On every page of an archive that scripts have filled, all numbers of the shapes
are decimal literals, but for the distance of a rectangle from the upper edge:
it is one as long as a double can hold it, and negative infinity otherwise.
-/
theorem numbers_on_page
    {clock : Clock}
    {album : Album}
    (reached : Script.Reached clock album)
    {sheet : Sheet}
    (inWords : sheet.InWords) :
    readPage? (page sheet album.archive) =
      some (sectionsOf sheet album.archive) ∧
      ∀ snapshot ∈ album.archive.snapshots,
        ∀ shape ∈ snapshot.shapes,
          let shown := Figure.ofShape sheet shape
          IsDecimalLiteral shown.x.toList ∧
            IsDecimalLiteral shown.first.toList ∧
            IsDecimalLiteral shown.second.toList ∧
            (¬Overflows sheet shape → IsDecimalLiteral shown.y.toList) ∧
            (Overflows sheet shape → shown.y = "-inf") := by
  refine ⟨readPage?_page sheet album.archive,
    fun snapshot recorded shape member => ?_⟩
  have finite : shape.Finite :=
    reached.finite.recorded snapshot recorded shape member
  have valid : shape.Valid :=
    reached.valid_recorded snapshot recorded shape member
  obtain ⟨⟨xFinite, -⟩, ⟨firstFinite, secondFinite⟩, -⟩ :=
    shape.finite_iff.mp finite
  exact ⟨isDecimalLiteral_tenths xFinite, isDecimalLiteral_tenths firstFinite,
    isDecimalLiteral_tenths secondFinite,
    fun notTooFar =>
      isDecimalLiteral_tenths (isFinite_depth inWords valid finite notTooFar),
    fun tooFar => tenths_of_rank_eq_neg_infinity
      (rank_depth_of_overflows inWords finite tooFar)⟩

/--
A rectangle that reaches over the upper edge of the sheet is shown with numbers.
-/
theorem numbers_on_page_of_high_rectangle :
    let clock : Clock := fun _ => ⟨2024, 3, 9, 14, 5, 7, 0⟩
    let source := "shape r rectangle 0 999 2 2 0 0 0\nsnapshot"
    let archive := (Script.run clock .empty source).after.archive
    archive.size = 1 ∧
      ∀ snapshot ∈ archive.snapshots,
        ∀ shape ∈ snapshot.shapes,
          ¬Overflows {} shape ∧
            IsDecimalLiteral (Figure.ofShape {} shape).y.toList := by
  intro clock source archive
  have reached : Script.Reached clock (Script.run clock .empty source).after :=
    Script.Reached.fresh.run source
  have inWords : ({} : Sheet).InWords := ⟨by decide, by decide⟩
  have depthsFinite :
      ∀ snapshot ∈ archive.snapshots,
        ∀ shape ∈ snapshot.shapes, (depth {} shape).isFinite = true := by
    decide +kernel
  refine ⟨by decide +kernel, fun snapshot recorded shape member => ?_⟩
  have valid : shape.Valid :=
    reached.valid_recorded snapshot recorded shape member
  have finite : shape.Finite :=
    reached.finite.recorded snapshot recorded shape member
  have notTooFar := (isFinite_depth_iff inWords valid finite).mp
    (depthsFinite snapshot recorded shape member)
  obtain ⟨-, -, -, isLiteral, -⟩ :=
    (numbers_on_page reached inWords).2 snapshot recorded shape member
  exact ⟨notTooFar, isLiteral notTooFar⟩

theorem not_isDecimalLiteral_neg_infinity :
    ¬IsDecimalLiteral "-inf".toList := by
  rintro ⟨whole, digit, isText, -, -, isDigit⟩
  have endsInDigit : "-inf".toList.getLast? = some digit := by
    rcases isText with isText | isText <;> simp [isText, List.getLast?_cons,
      List.getLast?_append]
  obtain rfl : 'f' = digit := Option.some.inj endsInDigit
  cases isDigit

/--
A rectangle that scripts can draw lies too far from the upper edge of the sheet.
-/
theorem page_shows_infinity :
    let clock : Clock := fun _ => ⟨2024, 3, 9, 14, 5, 7, 0⟩
    let source := "shape r rectangle 0 1.7e308 1 1.7e308 0 0 0\nsnapshot"
    let archive := (Script.run clock .empty source).after.archive
    ∃ snapshot ∈ archive.snapshots,
      ∃ shape ∈ snapshot.shapes,
        (Figure.ofShape {} shape).y = "-inf" ∧
          ¬IsDecimalLiteral (Figure.ofShape {} shape).y.toList := by
  intro clock source archive
  have shown :
      ∃ snapshot ∈ archive.snapshots,
        ∃ shape ∈ snapshot.shapes, (Figure.ofShape {} shape).y = "-inf" := by
    decide +kernel
  obtain ⟨snapshot, recorded, shape, member, isInfinity⟩ := shown
  refine ⟨snapshot, recorded, shape, member, isInfinity, ?_⟩
  rw [isInfinity]
  exact not_isDecimalLiteral_neg_infinity

end Report

end Storyboard
