import Mathlib
import Storyboard.Canvas.Sampling
import Storyboard.Proofs.Sheet

namespace Storyboard.Canvas

/-!
# Samples lie in the visible part of a shape

The samples of a shape are taken from a grid over the part of its box that is on
the sheet, so they lie on the sheet, and only those are kept that lie in the
shape.  The box of a rectangle is the rectangle itself: no point of the grid
over it is left out.

Rows and columns are found by adding a step until the end of the box is passed.
Although every sum is rounded, the last one before the end is less than a step
away from it.
-/

open Number

/--
Coordinates from a first one in steps, the last of them less than a step from
the end.
-/
structure Ticks (first last step : Float) (ticks : List Float) : Prop where
  head?_eq : ticks.head? = some first
  isChain : ticks.IsChain fun tick next => tick < next ∧ next = tick + step
  le_last : ∀ tick ∈ ticks, tick ≤ last
  last_lt : ∀ tick ∈ ticks.getLast?, last < tick + step

theorem ticksWithin_of_not_le
    {first last step : Float}
    {limit : Nat}
    {ticks : List Float}
    (outside : ¬first ≤ last)
    (inSteps : ticksWithin last step limit first = some ticks) :
    ticks = [] := by
  cases limit with
  | zero =>
      cases inSteps
  | succ limit =>
      rw [ticksWithin, if_neg outside] at inSteps
      exact (Option.some.inj inSteps).symm

namespace Ticks

variable
  {first last step : Float}
  {ticks : List Float}

theorem of_ticksWithin
    {limit : Nat}
    (inSteps : ticksWithin last step limit first = some ticks)
    (firstInside : first ≤ last) :
    Ticks first last step ticks := by
  induction limit generalizing first ticks with
  | zero =>
      cases inSteps
  | succ limit inductionHypothesis =>
      rw [ticksWithin, if_pos firstInside, Option.ite_none_right_eq_some,
        Option.map_eq_some_iff] at inSteps
      obtain ⟨moves, rest, restSteps, rfl⟩ := inSteps
      by_cases nextInside : first + step ≤ last
      · have restTicks := inductionHypothesis restSteps nextInside
        obtain ⟨later, rfl⟩ := List.head?_eq_some_iff.mp restTicks.head?_eq
        refine ⟨rfl, .cons_cons ⟨moves, rfl⟩ restTicks.isChain, ?_, ?_⟩
        · exact List.forall_mem_cons.mpr ⟨firstInside, restTicks.le_last⟩
        · rw [List.getLast?_cons_cons]
          exact restTicks.last_lt
      · obtain rfl := ticksWithin_of_not_le nextInside restSteps
        have nextNumber := isNaN_eq_false_of_lt moves
        have lastLess : last < first + step :=
          (Number.not_le nextNumber (isNaN_right_of_le firstInside)).mp
            nextInside
        refine ⟨rfl, .singleton _, ?_, ?_⟩
        · simpa using firstInside
        · simpa using lastLess

theorem pairwise (inTicks : Ticks first last step ticks) :
    ticks.Pairwise (· < ·) := by
  have isTrans : IsTrans Float (· < ·) := ⟨fun _ _ _ => Number.lt_trans⟩
  exact (inTicks.isChain.imp fun _ _ both => both.1).pairwise

theorem first_le (inTicks : Ticks first last step ticks) :
    ∀ tick ∈ ticks, first ≤ tick := by
  have ordered := inTicks.pairwise
  obtain ⟨rest, rfl⟩ := List.head?_eq_some_iff.mp inTicks.head?_eq
  have firstNumber :=
    isNaN_left_of_le (inTicks.le_last first List.mem_cons_self)
  rw [List.forall_mem_cons]
  refine ⟨Number.le_refl firstNumber, fun tick member => ?_⟩
  exact Number.le_of_lt (List.rel_of_pairwise_cons ordered member)

/-- Rows and columns that both start somewhere make a grid with some point. -/
theorem grid_ne_nil
    {otherFirst otherLast otherStep : Float}
    {others : List Float}
    (inRows : Ticks first last step ticks)
    (inColumns : Ticks otherFirst otherLast otherStep others) :
    (ticks.flatMap fun y => others.map fun x => Point.mk x y) ≠ [] := by
  obtain ⟨laterRows, rfl⟩ := List.head?_eq_some_iff.mp inRows.head?_eq
  obtain ⟨laterColumns, rfl⟩ := List.head?_eq_some_iff.mp inColumns.head?_eq
  exact List.cons_ne_nil _ _

/--
The last coordinate is less than a step away from the end, also without
rounding.
-/
theorem sub_lt_step
    (inTicks : Ticks first last step ticks)
    (notBackward : 0 ≤ step)
    {tick : Float}
    (isLast : ticks.getLast? = some tick)
    (tickFinite : tick.isFinite = true)
    (near : value last - value tick < rankValue infinityPattern) :
    value last - value tick < value step := by
  have lastLess := inTicks.last_lt tick isLast
  by_cases stepFinite : step.isFinite = true
  · by_contra reached
    have sum := rounds_add tickFinite stepFinite
    have notBeyond := sum.le_of_le_value (lt_iff.mp lastLess).1 (by linarith)
    exact (value_lt_of_lt lastLess).not_ge (value_le_of_le notBeyond)
  · have positive := value_nonneg notBackward
    rw [isFinite_iff_abs_value, abs_of_nonneg positive, not_lt] at stepFinite
    exact near.trans_le stepFinite

end Ticks

/-- Whether a point lies on a sheet or on its edge. -/
def OnSheet (sheet : Sheet) (point : Point) : Prop :=
  (0 ≤ point.x ∧ point.x ≤ sheet.right) ∧ 0 ≤ point.y ∧ point.y ≤ sheet.top

/-- Whether some point of a shape lies on a sheet. -/
def Visible (sheet : Sheet) (shape : Shape) : Prop :=
  ∃ point, OnSheet sheet point ∧ contains shape point = true

/--
Whether a point comes before another one row by row from below, from left to
right.
-/
def Before (first second : Point) : Prop :=
  first.y < second.y ∨ first.y = second.y ∧ first.x < second.x

/-- Whether a point lies in a box or on its edge. -/
def Box.Holds (box : Box) (point : Point) : Prop :=
  (box.left ≤ point.x ∧ point.x ≤ box.right) ∧
    box.bottom ≤ point.y ∧ point.y ≤ box.top

/-! One side of a box that is cut to a sheet. -/

section Sides

variable
  {first last x : Float}
  {side : Nat}

theorem between_of_clipped
    (small : side < 2 ^ 32)
    (lower : larger first 0 ≤ x)
    (upper : x ≤ smaller last (Float.ofNat side)) :
    0 ≤ x ∧ x ≤ Float.ofNat side :=
  ⟨Number.le_trans (le_larger isNaN_zero) lower,
    Number.le_trans upper (smaller_le (Sheet.isNaN_edge small))⟩

theorem value_along_side
    (small : side < 2 ^ 32)
    (notNegative : 0 ≤ x)
    (onSheet : x ≤ Float.ofNat side) :
    0 ≤ value x ∧ value x ≤ side ∧ x.isFinite = true :=
  value_between_natCast (small.trans (by decide)) notNegative onSheet

/-- Coordinates on a sheet are so small that twice as much is finite. -/
theorem two_mul_value_lt
    (small : side < 2 ^ 32)
    (notNegative : 0 ≤ x)
    (onSheet : x ≤ Float.ofNat side) :
    |2 * value x| < rankValue infinityPattern := by
  obtain ⟨lower, upper, -⟩ := value_along_side small notNegative onSheet
  have sideSmall : (side : ℚ) < 2 ^ 32 := by exact_mod_cast small
  have large : (2 : ℚ) ^ 33 < 2 ^ 1024 :=
    pow_lt_pow_right₀ (by norm_num) (by norm_num)
  rw [rankValue_infinityPattern, abs_of_nonneg (by linarith)]
  exact lt_trans (by linarith) large

theorem middle_clipped
    (small : side < 2 ^ 32)
    (ordered : larger first 0 ≤ smaller last (Float.ofNat side)) :
    let middle := (larger first 0 + smaller last (Float.ofNat side)) / 2
    larger first 0 ≤ middle ∧ middle ≤ smaller last (Float.ofNat side) := by
  have lowerNumber := isNaN_left_of_le ordered
  have upperNumber := isNaN_right_of_le ordered
  have lower := between_of_clipped small (Number.le_refl lowerNumber) ordered
  have upper := between_of_clipped small ordered (Number.le_refl upperNumber)
  exact middle_between ordered (two_mul_value_lt small lower.1 lower.2)
    (two_mul_value_lt small upper.1 upper.2)

/-- The middle of the visible part is on the sheet. -/
theorem middle_along_side
    (small : side < 2 ^ 32)
    (ordered : larger first 0 ≤ smaller last (Float.ofNat side)) :
    let middle := (larger first 0 + smaller last (Float.ofNat side)) / 2
    0 ≤ value middle ∧ value middle ≤ side ∧ middle.isFinite = true := by
  intro middle
  have between := middle_clipped small ordered
  have onSide := between_of_clipped small between.1 between.2
  exact value_along_side small onSide.1 onSide.2

end Sides

section Boxes

variable
  {sheet : Sheet}
  {box : Box}
  {shape : Shape}
  {point : Point}

theorem Box.Holds.onSheet
    (inWords : sheet.InWords)
    (holds : (box.clip sheet).Holds point) :
    OnSheet sheet point :=
  ⟨between_of_clipped inWords.width_lt holds.1.1 holds.1.2,
    between_of_clipped inWords.height_lt holds.2.1 holds.2.2⟩

theorem Box.ofShape_oval
    {xRadius yRadius : Float}
    (isOval : shape.extent = .oval xRadius yRadius) :
    Box.ofShape shape =
      ⟨shape.position.x - xRadius, shape.position.y - yRadius,
        shape.position.x + xRadius, shape.position.y + yRadius⟩ := by
  simp only [Box.ofShape, isOval]

theorem Box.isEmpty_clip_eq_false_iff (inWords : sheet.InWords) :
    (box.clip sheet).isEmpty = false ↔
      (box.clip sheet).left ≤ (box.clip sheet).right ∧
        (box.clip sheet).bottom ≤ (box.clip sheet).top := by
  have leftNumber : (box.clip sheet).left.isNaN = false :=
    isNaN_larger isNaN_zero
  have bottomNumber : (box.clip sheet).bottom.isNaN = false :=
    isNaN_larger isNaN_zero
  have rightNumber : (box.clip sheet).right.isNaN = false :=
    isNaN_smaller (Sheet.isNaN_edge inWords.width_lt)
  have topNumber : (box.clip sheet).top.isNaN = false :=
    isNaN_smaller (Sheet.isNaN_edge inWords.height_lt)
  rw [isEmpty, Bool.or_eq_false_iff, decide_eq_false_iff_not,
    decide_eq_false_iff_not, Number.not_lt rightNumber leftNumber,
    Number.not_lt topNumber bottomNumber]

/-- A box that is not empty holds its center. -/
theorem Box.holds_center
    (inWords : sheet.InWords)
    (notEmpty : (box.clip sheet).isEmpty = false) :
    (box.clip sheet).Holds (box.clip sheet).center := by
  obtain ⟨across, up⟩ := (Box.isEmpty_clip_eq_false_iff inWords).mp notEmpty
  exact ⟨middle_clipped inWords.width_lt across,
    middle_clipped inWords.height_lt up⟩

/-- A visible part of a rectangle is a box that is not empty. -/
theorem isEmpty_of_visible_rectangle
    (inWords : sheet.InWords)
    {width height : Float}
    (isRectangle : shape.extent = .rectangle width height)
    (visible : Visible sheet shape) :
    ((Box.ofShape shape).clip sheet).isEmpty = false := by
  obtain ⟨point, onSheet, inside⟩ := visible
  simp only [contains, isRectangle, Bool.and_eq_true, decide_eq_true_eq]
    at inside
  obtain ⟨⟨⟨left, right⟩, bottom⟩, top⟩ := inside
  rw [Box.isEmpty_clip_eq_false_iff inWords]
  simp only [Box.ofShape, isRectangle, Box.clip]
  exact ⟨Number.le_trans (larger_le left onSheet.1.1)
    (le_smaller right onSheet.1.2),
    Number.le_trans (larger_le bottom onSheet.2.1) (le_smaller top onSheet.2.2)⟩

/-- A rectangle contains what its visible part holds. -/
theorem contains_of_holds
    {width height : Float}
    (isRectangle : shape.extent = .rectangle width height)
    (visible : Visible sheet shape)
    (inWords : sheet.InWords)
    (holds : ((Box.ofShape shape).clip sheet).Holds point) :
    contains shape point = true := by
  obtain ⟨seen, -, inside⟩ := visible
  simp only [contains, isRectangle, Bool.and_eq_true, decide_eq_true_eq]
    at inside ⊢
  obtain ⟨⟨⟨left, right⟩, bottom⟩, top⟩ := inside
  simp only [Box.Holds, Box.ofShape, isRectangle, Box.clip] at holds
  obtain ⟨⟨fromLeft, toRight⟩, fromBottom, toTop⟩ := holds
  have widthNumber := Sheet.isNaN_edge inWords.width_lt
  have heightNumber := Sheet.isNaN_edge inWords.height_lt
  have cutLeft := le_larger_left (isNaN_left_of_le left) isNaN_zero
  have cutRight := smaller_le_left (isNaN_right_of_le right) widthNumber
  have cutBottom := le_larger_left (isNaN_left_of_le bottom) isNaN_zero
  have cutTop := smaller_le_left (isNaN_right_of_le top) heightNumber
  exact ⟨⟨⟨Number.le_trans cutLeft fromLeft, Number.le_trans toRight cutRight⟩,
    Number.le_trans cutBottom fromBottom⟩, Number.le_trans toTop cutTop⟩

end Boxes

theorem gridPoints?_eq_some_iff
    {shape : Shape}
    {box : Box}
    {pitch : Pitch}
    {points : List Point} :
    gridPoints? shape box pitch = some points ↔
      ∃ rows columns,
        ticks? box.bottom box.top (larger pitch.y leastStep) = some rows ∧
          ticks? box.left box.right (larger pitch.x leastStep) = some columns ∧
          points = rows.flatMap fun y =>
            (columns.map fun x => Point.mk x y).filter (contains shape) := by
  simp only [gridPoints?, bind, Option.bind_eq_some_iff, pure,
    Option.some.injEq]
  grind

theorem Before.ne
    {first second : Point}
    (before : Before first second) : first ≠ second := by
  rintro rfl
  rcases before with lower | ⟨-, left⟩
  · exact Number.lt_irrefl _ lower
  · exact Number.lt_irrefl _ left

/-- The points of a grid come row by row, whichever of them are left out. -/
theorem pairwise_grid
    {rows columns : List Float}
    (rowsOrdered : rows.Pairwise (· < ·))
    (columnsOrdered : columns.Pairwise (· < ·))
    (keeps : Point → Bool) :
    (rows.flatMap fun y =>
      (columns.map fun x => Point.mk x y).filter keeps).Pairwise Before := by
  rw [List.pairwise_flatMap]
  constructor
  · intro y member
    refine (List.pairwise_map.mpr (columnsOrdered.imp ?_)).filter keeps
    intro first second less
    exact .inr ⟨rfl, less⟩
  · refine rowsOrdered.imp fun {lower upper} less => ?_
    intro first firstMember second secondMember
    obtain ⟨x, -, rfl⟩ := List.mem_map.mp (List.mem_of_mem_filter firstMember)
    obtain ⟨x', -, rfl⟩ := List.mem_map.mp (List.mem_of_mem_filter secondMember)
    exact .inl less

section Samples

variable
  {sheet : Sheet}
  {pitch : Pitch}
  {shape : Shape}
  {points : List Point}

/--
The samples of a shape are the points of its grid or, if there is none, the
center.
-/
theorem samples?_cases (sampled : samples? sheet pitch shape = some points) :
    let box := (Box.ofShape shape).clip sheet
    box.isEmpty = true ∧ points = [] ∨
      box.isEmpty = false ∧
        ∃ grid, gridPoints? shape box pitch = some grid ∧
          points = if grid.isEmpty then [box.center].filter (contains shape)
            else grid := by
  intro box
  simp only [samples?] at sampled
  split at sampled
  case isTrue isEmpty =>
    exact .inl ⟨isEmpty, (Option.some.inj sampled).symm⟩
  case isFalse notEmpty =>
    obtain ⟨grid, isGrid, rfl⟩ := Option.map_eq_some_iff.mp sampled
    exact .inr ⟨Bool.eq_false_iff.mpr notEmpty, grid, isGrid, rfl⟩

/-- The grid of a box that is not empty, with its rows and columns. -/
theorem exists_ticks_of_gridPoints?
    (inWords : sheet.InWords)
    {box : Box}
    (notEmpty : (box.clip sheet).isEmpty = false)
    (isGrid : gridPoints? shape (box.clip sheet) pitch = some points) :
    ∃ rows columns,
      Ticks (box.clip sheet).bottom (box.clip sheet).top
        (larger pitch.y leastStep) rows ∧
        Ticks (box.clip sheet).left (box.clip sheet).right
          (larger pitch.x leastStep) columns ∧
        points = rows.flatMap fun y =>
          (columns.map fun x => Point.mk x y).filter (contains shape) := by
  obtain ⟨across, up⟩ := (Box.isEmpty_clip_eq_false_iff inWords).mp notEmpty
  obtain ⟨rows, columns, areRows, areColumns, rfl⟩ :=
    gridPoints?_eq_some_iff.mp isGrid
  exact ⟨rows, columns, .of_ticksWithin areRows up,
    .of_ticksWithin areColumns across, rfl⟩

theorem holds_of_mem_ticks
    {box : Box}
    {xStep yStep x y : Float}
    {rows columns : List Float}
    (inRows : Ticks box.bottom box.top yStep rows)
    (inColumns : Ticks box.left box.right xStep columns)
    (isRow : y ∈ rows)
    (isColumn : x ∈ columns) :
    box.Holds ⟨x, y⟩ :=
  ⟨⟨inColumns.first_le x isColumn, inColumns.le_last x isColumn⟩,
    inRows.first_le y isRow, inRows.le_last y isRow⟩

theorem forall_mem_samples
    (inWords : sheet.InWords)
    (sampled : samples? sheet pitch shape = some points) :
    ∀ point ∈ points, OnSheet sheet point ∧ contains shape point = true := by
  intro point member
  rcases samples?_cases sampled with ⟨-, rfl⟩ | ⟨notEmpty, grid, isGrid, rfl⟩
  · cases member
  · split at member
    case isTrue =>
      obtain ⟨isCenter, inside⟩ := List.mem_filter.mp member
      rw [List.mem_singleton.mp isCenter] at inside ⊢
      exact ⟨(Box.holds_center inWords notEmpty).onSheet inWords, inside⟩
    case isFalse =>
      obtain ⟨rows, columns, inRows, inColumns, rfl⟩ :=
        exists_ticks_of_gridPoints? inWords notEmpty isGrid
      obtain ⟨y, isRow, inRow⟩ := List.mem_flatMap.mp member
      obtain ⟨isColumn, inside⟩ := List.mem_filter.mp inRow
      obtain ⟨x, isX, rfl⟩ := List.mem_map.mp isColumn
      exact ⟨(holds_of_mem_ticks inRows inColumns isRow isX).onSheet inWords,
        inside⟩

theorem pairwise_samples
    (inWords : sheet.InWords)
    (sampled : samples? sheet pitch shape = some points) :
    points.Pairwise Before := by
  rcases samples?_cases sampled with ⟨-, rfl⟩ | ⟨notEmpty, grid, isGrid, rfl⟩
  · exact .nil
  · split
    case isTrue =>
      exact (List.pairwise_singleton _ _).filter _
    case isFalse =>
      obtain ⟨rows, columns, inRows, inColumns, rfl⟩ :=
        exists_ticks_of_gridPoints? inWords notEmpty isGrid
      exact pairwise_grid inRows.pairwise inColumns.pairwise _

/--
The samples of a visible rectangle are all points of the grid over its visible
part.
-/
theorem exists_grid_of_rectangle
    (inWords : sheet.InWords)
    (sampled : samples? sheet pitch shape = some points)
    {width height : Float}
    (isRectangle : shape.extent = .rectangle width height)
    (visible : Visible sheet shape) :
    let box := (Box.ofShape shape).clip sheet
    ∃ rows columns,
      Ticks box.bottom box.top (larger pitch.y leastStep) rows ∧
        Ticks box.left box.right (larger pitch.x leastStep) columns ∧
        points = rows.flatMap fun y => columns.map fun x => ⟨x, y⟩ := by
  intro box
  have visibleBox := isEmpty_of_visible_rectangle inWords isRectangle visible
  rcases samples?_cases sampled with
    ⟨isEmpty, -⟩ | ⟨notEmpty, grid, isGrid, isPoints⟩
  · rw [visibleBox] at isEmpty
    cases isEmpty
  · obtain ⟨rows, columns, inRows, inColumns, isFiltered⟩ :=
      exists_ticks_of_gridPoints? inWords notEmpty isGrid
    refine ⟨rows, columns, inRows, inColumns, ?_⟩
    have isWhole :
        grid = rows.flatMap fun y => columns.map fun x => ⟨x, y⟩ := by
      rw [isFiltered]
      refine List.flatMap_congr fun y isRow =>
        List.filter_eq_self.mpr fun point isColumn => ?_
      obtain ⟨x, isX, rfl⟩ := List.mem_map.mp isColumn
      exact contains_of_holds isRectangle visible inWords
        (holds_of_mem_ticks inRows inColumns isRow isX)
    have someGrid : ¬grid.isEmpty = true := by
      rw [List.isEmpty_iff, isWhole]
      exact inRows.grid_ne_nil inColumns
    rw [isPoints, if_neg someGrid, isWhole]

theorem zero_le_step (pitch : Float) : 0 ≤ larger pitch leastStep := by
  have leastNumber : leastStep.isNaN = false := by decide +kernel
  have leastPositive : 0 ≤ leastStep := by decide +kernel
  exact Number.le_trans leastPositive (le_larger leastNumber)

/--
The last coordinate of one side of a visible box is less than a step away from
its end.
-/
theorem Ticks.sub_lt_step_of_clipped
    {side : Nat}
    {first last pitch : Float}
    {ticks : List Float}
    (small : side < 2 ^ 32)
    (inTicks : Ticks (larger first 0) (smaller last (Float.ofNat side))
      (larger pitch leastStep)
      ticks)
    {tick : Float}
    (isLast : ticks.getLast? = some tick) :
    value (smaller last (Float.ofNat side)) - value tick <
      value (larger pitch leastStep) := by
  have member := List.mem_of_getLast? isLast
  have inside := inTicks.le_last tick member
  have onSheet := between_of_clipped small (inTicks.first_le tick member) inside
  have endOnSheet := between_of_clipped small
    (Number.le_trans (inTicks.first_le tick member) inside)
    (Number.le_refl (isNaN_right_of_le inside))
  have endSmall :=
    (abs_lt.mp (two_mul_value_lt small endOnSheet.1 endOnSheet.2)).2
  obtain ⟨tickNotNegative, -, tickFinite⟩ :=
    value_along_side small onSheet.1 onSheet.2
  obtain ⟨endNotNegative, -, -⟩ :=
    value_along_side small endOnSheet.1 endOnSheet.2
  exact inTicks.sub_lt_step (zero_le_step pitch) isLast tickFinite (by linarith)

/--
Every sample lies on the sheet and in the shape, and the samples come row by row
from below and from left to right, so none comes twice.  Those of a visible
rectangle are all points of a grid: it starts at the lower left corner of the
visible part, and its last row and column are less than a step away from the
upper right one.
-/
theorem samples_inside
    (inWords : sheet.InWords)
    (sampled : samples? sheet pitch shape = some points) :
    (∀ point ∈ points, OnSheet sheet point ∧ contains shape point = true) ∧
      points.Pairwise Before ∧
      points.Nodup ∧
      ∀ width height,
        shape.extent = .rectangle width height →
        Visible sheet shape →
        let box := (Box.ofShape shape).clip sheet
        let xStep := larger pitch.x leastStep
        let yStep := larger pitch.y leastStep
        ∃ rows columns,
          Ticks box.bottom box.top yStep rows ∧
            Ticks box.left box.right xStep columns ∧
            (∀ y ∈ rows.getLast?, value box.top - value y < value yStep) ∧
            (∀ x ∈ columns.getLast?, value box.right - value x < value xStep) ∧
            points = rows.flatMap fun y => columns.map fun x => ⟨x, y⟩ := by
  have ordered := pairwise_samples inWords sampled
  refine ⟨forall_mem_samples inWords sampled, ordered,
    ordered.imp Before.ne, ?_⟩
  intro width height isRectangle visible box xStep yStep
  obtain ⟨rows, columns, inRows, inColumns, isGrid⟩ :=
    exists_grid_of_rectangle inWords sampled isRectangle visible
  exact ⟨rows, columns, inRows, inColumns,
    fun y isLast => inRows.sub_lt_step_of_clipped inWords.height_lt isLast,
    fun x isLast =>
      inColumns.sub_lt_step_of_clipped inWords.width_lt isLast, isGrid⟩

/-- A rectangle of four by two units has its samples in a grid. -/
theorem samples_inside_of_four_by_two :
    let sheet : Sheet := ⟨100, 100⟩
    let shape : Shape := ⟨"R", ⟨10, 10⟩, ⟨0, 0, 0⟩, .rectangle 4 2⟩
    ∃ points,
      samples? sheet ⟨1, 1⟩ shape = some points ∧
        shape.extent = .rectangle 4 2 ∧
        Visible sheet shape ∧
        points.Nodup ∧
        ∃ rows columns : List Float,
          points = rows.flatMap fun y => columns.map fun x => ⟨x, y⟩ := by
  intro sheet shape
  have comesToAnEnd : (samples? sheet ⟨1, 1⟩ shape).isSome = true := by
    decide +kernel
  have onSheet : OnSheet sheet ⟨12, 11⟩ := by
    refine ⟨⟨?_, ?_⟩, ?_, ?_⟩ <;> decide +kernel
  have visible : Visible sheet shape := ⟨⟨12, 11⟩, onSheet, by decide +kernel⟩
  have inWords : sheet.InWords := ⟨by decide, by decide⟩
  obtain ⟨points, sampled⟩ := Option.isSome_iff_exists.mp comesToAnEnd
  obtain ⟨-, -, noDuplicates, complete⟩ := samples_inside inWords sampled
  obtain ⟨rows, columns, -, -, -, -, isGrid⟩ := complete 4 2 rfl visible
  exact ⟨points, sampled, rfl, visible, noDuplicates, rows, columns, isGrid⟩

end Samples

end Storyboard.Canvas
