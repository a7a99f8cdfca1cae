import Mathlib
import Storyboard.Proofs.Canvas.Sampling
import Storyboard.Proofs.Number.Truncation
import Storyboard.Proofs.Viewer.Panes

namespace Storyboard.Canvas

/-!
# Shapes over one another

The samples of a shape fall on dots of the pane, and a cell gathers those of its
dots in a mask.  A shape with dots in a cell takes it over, symbol and hue, so
of all shapes that are drawn into a cell the last one is seen.
-/

open Display (Screen)
open Number

section Offsets

variable
  {side last : Nat}
  {offset : Float}

/--
A distance on a side falls on one of the dots that are spread over the side.
-/
theorem toNat_offset_le
    (side_lt : side < 2 ^ 32)
    (side_pos : 0 < side)
    (last_lt : last < 2 ^ 20)
    (notNegative : 0 ≤ offset)
    (onSide : offset ≤ Float.ofNat side) :
    (offset * Float.ofNat last / Float.ofNat side).toUInt64.toNat ≤ last := by
  obtain ⟨lower, upper, finite⟩ := value_along_side side_lt notNegative onSide
  obtain ⟨isSide, sideFinite⟩ := Sheet.value_edge side_lt
  obtain ⟨isLast, lastFinite⟩ := value_ofNat (last_lt.trans (by decide))
  have someSide : (0 : ℚ) < side := by exact_mod_cast side_pos
  have notNegativeLast : (0 : ℚ) ≤ last := last.cast_nonneg
  have short : side * last < 2 ^ 53 := by
    calc
      side * last ≤ 2 ^ 32 * 2 ^ 20 := Nat.mul_le_mul side_lt.le last_lt.le
      _ < 2 ^ 53 := by decide
  have product := (rounds_mul finite lastFinite).between_natCast short
    (by rw [isLast]; positivity)
    (by rw [isLast, Nat.cast_mul]; gcongr)
  obtain ⟨productLower, productUpper, productFinite⟩ :=
    value_between_natCast short product.1 product.2
  rw [Nat.cast_mul, mul_comm] at productUpper
  have quotient := rounds_div productFinite sideFinite (isSide ▸ someSide.ne')
  rw [isSide] at quotient
  have inDots := quotient.between_natCast (last_lt.trans (by decide))
    (div_nonneg productLower someSide.le)
      ((div_le_iff₀ someSide).mpr productUpper)
  exact toNat_toUInt64_le (last_lt.trans (by decide)) inDots.1 inDots.2

/-- The distance from the other end of a side is on the side, too. -/
theorem sub_between
    (side_lt : side < 2 ^ 32)
    (notNegative : 0 ≤ offset)
    (onSide : offset ≤ Float.ofNat side) :
    0 ≤ Float.ofNat side - offset ∧
      Float.ofNat side - offset ≤ Float.ofNat side := by
  obtain ⟨lower, upper, finite⟩ := value_along_side side_lt notNegative onSide
  obtain ⟨isSide, sideFinite⟩ := Sheet.value_edge side_lt
  have difference := rounds_sub sideFinite finite
  rw [isSide] at difference
  exact difference.between_natCast (side_lt.trans (by decide)) (by linarith)
    (by linarith)

end Offsets

section Dots

variable
  {sheet : Sheet}
  {columns rows : Nat}

/-- A point on the sheet falls on a dot of the pane. -/
theorem dot_lt
    (inWords : sheet.InWords)
    (columns_lt : columns < 2 ^ 16)
    (rows_lt : rows < 2 ^ 16)
    (someColumn : 0 < columns)
    (someRow : 0 < rows)
    {point : Point}
    (onSheet : OnSheet sheet point)
    {dot : Nat × Nat}
    (isDot : dot? sheet columns rows point = some dot) :
    dot.1 < 2 * columns ∧ dot.2 < 4 * rows := by
  simp only [dot?, Option.ite_none_left_eq_some, Option.some.injEq,
    Bool.or_eq_true, beq_iff_eq, not_or] at isDot
  obtain ⟨⟨⟨-, someWidth⟩, someHeight⟩, rfl⟩ := isDot
  have fromTop := sub_between inWords.height_lt onSheet.2.1 onSheet.2.2
  have column := toNat_offset_le inWords.width_lt (Nat.pos_of_ne_zero someWidth)
    (show 2 * columns - 1 < 2 ^ 20 by omega) onSheet.1.1 onSheet.1.2
  have row := toNat_offset_le inWords.height_lt (Nat.pos_of_ne_zero someHeight)
    (show 4 * rows - 1 < 2 ^ 20 by omega) fromTop.1 fromTop.2
  exact ⟨Nat.lt_of_le_of_lt column (by omega),
    Nat.lt_of_le_of_lt row (by omega)⟩

/-- The dots of a pane on which the samples of a shape fall. -/
def dots (sheet : Sheet) (columns rows : Nat) (pitch : Pitch) (shape : Shape) :
    List (Nat × Nat) :=
  ((samples? sheet pitch shape).getD []).filterMap (dot? sheet columns rows)

theorem forall_mem_dots
    (inWords : sheet.InWords)
    (columns_lt : columns < 2 ^ 16)
    (rows_lt : rows < 2 ^ 16)
    (someColumn : 0 < columns)
    (someRow : 0 < rows)
    (pitch : Pitch)
    (shape : Shape) :
    ∀ dot ∈ dots sheet columns rows pitch shape,
      dot.1 < 2 * columns ∧ dot.2 < 4 * rows := by
  intro dot member
  obtain ⟨point, isSample, isDot⟩ := List.mem_filterMap.mp member
  cases sampled : samples? sheet pitch shape with
  | none =>
      rw [sampled, Option.getD_none] at isSample
      cases isSample
  | some points =>
      rw [sampled, Option.getD_some] at isSample
      have onSheet := (forall_mem_samples inWords sampled point isSample).1
      exact dot_lt inWords columns_lt rows_lt someColumn someRow onSheet isDot

end Dots

section Masks

/-! The eight bits of a mask are those of the eight dots in a cell. -/

theorem and_dotBit_ne_zero_iff (column row column' row' : Nat) :
    dotBit column row &&& dotBit column' row' ≠ 0 ↔
      column % 2 = column' % 2 ∧ row % 4 = row' % 4 := by
  have ofDot (column row : Nat) :
      dotBit column row = dotBit (column % 2) (row % 4) := by
    simp only [dotBit, Nat.mod_mod]
  have inCell : ∀ column < 2, ∀ row < 4, ∀ column' < 2, ∀ row' < 4,
      (dotBit column row &&& dotBit column' row' ≠ 0 ↔
        column = column' ∧ row = row') := by
    decide
  rw [ofDot column, ofDot column']
  exact inCell _ (Nat.mod_lt _ (by decide)) _ (Nat.mod_lt _ (by decide)) _
    (Nat.mod_lt _ (by decide)) _ (Nat.mod_lt _ (by decide))

theorem dotBit_lt (column row : Nat) : dotBit column row < 2 ^ 8 := by
  unfold dotBit
  split <;> decide

/-- A mask that is not empty has the bit of some dot. -/
theorem exists_dotBit
    {mask : Nat}
    (mask_lt : mask < 2 ^ 8)
    (notEmpty : mask ≠ 0) :
    ∃ column < 2, ∃ row < 4, mask &&& dotBit column row ≠ 0 := by
  revert mask
  decide +kernel

/-- The bits of a mask are those dots of a list that are in a cell. -/
structure IsMask (dots : List (Nat × Nat)) (x y mask : Nat) : Prop where
  mask_lt : mask < 2 ^ 8
  and_ne_zero_iff : ∀ column row,
    column / 2 = x → row / 4 = y →
      (mask &&& dotBit column row ≠ 0 ↔ (column, row) ∈ dots)

namespace IsMask

variable
  {dots : List (Nat × Nat)}
  {x y mask : Nat}

theorem nil (x y : Nat) : IsMask [] x y 0 where
  mask_lt := by decide
  and_ne_zero_iff column row _ _ := by simp

/-- A dot in the cell adds its own bit. -/
theorem concat
    (isMask : IsMask dots x y mask)
    {dot : Nat × Nat}
    (inColumn : dot.1 / 2 = x)
    (inRow : dot.2 / 4 = y) :
    IsMask (dots ++ [dot]) x y (mask ||| dotBit dot.1 dot.2) where
  mask_lt := Nat.or_lt_two_pow isMask.mask_lt (dotBit_lt _ _)
  and_ne_zero_iff column row inColumn' inRow' := by
    have sameDot : column % 2 = dot.1 % 2 ∧ row % 4 = dot.2 % 4 ↔
        (column, row) = dot := by
      rw [Prod.ext_iff]
      omega
    rw [Nat.and_or_distrib_right, Ne, Nat.or_eq_zero_iff, not_and_or, ← Ne,
      ← Ne, isMask.and_ne_zero_iff column row inColumn' inRow',
      and_dotBit_ne_zero_iff, List.mem_append, List.mem_singleton, ← sameDot,
      eq_comm, @eq_comm _ (dot.2 % 4)]

/-- A dot in another cell leaves the mask as it is. -/
theorem concat_of_elsewhere
    (isMask : IsMask dots x y mask)
    {dot : Nat × Nat}
    (elsewhere : ¬(dot.1 / 2 = x ∧ dot.2 / 4 = y)) :
    IsMask (dots ++ [dot]) x y mask where
  mask_lt := isMask.mask_lt
  and_ne_zero_iff column row inColumn inRow := by
    have otherDot : (column, row) ≠ dot := by
      rintro rfl
      exact elsewhere ⟨inColumn, inRow⟩
    rw [isMask.and_ne_zero_iff column row inColumn inRow, List.mem_append,
      List.mem_singleton, or_iff_left otherDot]

/--
A mask is empty if and only if no dot of the list is in the cell.  Its bits tell
dots up to the cell that they are in, so every bit is read as a dot of this
cell.
-/
theorem ne_zero_iff (isMask : IsMask dots x y mask) :
    mask ≠ 0 ↔ ∃ dot ∈ dots, dot.1 / 2 = x ∧ dot.2 / 4 = y := by
  constructor
  · intro notEmpty
    obtain ⟨column, column_lt, row, row_lt, hasBit⟩ :=
      exists_dotBit isMask.mask_lt notEmpty
    have sameBit :
        dotBit column row = dotBit (2 * x + column) (4 * y + row) := by
      simp only [dotBit, Nat.mul_add_mod]
    have inColumn : (2 * x + column) / 2 = x := by omega
    have inRow : (4 * y + row) / 4 = y := by omega
    rw [sameBit, isMask.and_ne_zero_iff _ _ inColumn inRow] at hasBit
    exact ⟨_, hasBit, inColumn, inRow⟩
  · rintro ⟨⟨column, row⟩, member, inColumn, inRow⟩ isEmpty
    refine (isMask.and_ne_zero_iff column row inColumn inRow).mpr member ?_
    rw [isEmpty, Nat.zero_and]

end IsMask

/-- The masks of all cells of a pane, row by row. -/
structure AreMasks
    (dots : List (Nat × Nat))
    (columns rows : Nat)
    (masks : Array Nat) : Prop where
  size_eq : masks.size = columns * rows
  isMask : ∀ x y, x < columns → y < rows →
    IsMask dots x y (masks[y * columns + x]?.getD 0)

namespace AreMasks

variable
  {dots : List (Nat × Nat)}
  {columns rows : Nat}
  {masks : Array Nat}

theorem nil (columns rows : Nat) :
    AreMasks [] columns rows (.replicate (columns * rows) 0) where
  size_eq := Array.size_replicate
  isMask x y inRow inColumn := by
    rw [Array.getElem?_replicate, if_pos (Screen.index_lt inRow inColumn),
      Option.getD_some]
    exact .nil x y

/-- A dot of the pane is added to the mask of its own cell. -/
theorem concat
    (areMasks : AreMasks dots columns rows masks)
    {dot : Nat × Nat}
    (inPane : dot.1 < 2 * columns ∧ dot.2 < 4 * rows) :
    AreMasks (dots ++ [dot]) columns rows
      (masks.modify (dot.2 / 4 * columns + dot.1 / 2)
        (· ||| dotBit dot.1 dot.2)) where
  size_eq := Array.size_modify.trans areMasks.size_eq
  isMask x y inRow inColumn := by
    have isMask := areMasks.isMask x y inRow inColumn
    have inMasks : y * columns + x < masks.size :=
      areMasks.size_eq ▸ Screen.index_lt inRow inColumn
    have dotColumn : dot.1 / 2 < columns := Nat.div_lt_of_lt_mul inPane.1
    rw [Array.getElem?_modify]
    rw [Array.getElem?_eq_getElem inMasks, Option.getD_some] at isMask
    split
    case isTrue sameCell =>
      rw [Screen.index_eq_iff dotColumn inRow] at sameCell
      rw [Array.getElem?_eq_getElem inMasks]
      exact isMask.concat sameCell.1 sameCell.2
    case isFalse otherCell =>
      rw [Screen.index_eq_iff dotColumn inRow] at otherCell
      rw [Array.getElem?_eq_getElem inMasks]
      exact isMask.concat_of_elsewhere otherCell

/-- Points on the pane are added one by one. -/
theorem foldl
    {sheet : Sheet}
    (points : List Point)
    (inPane : ∀ dot ∈ points.filterMap (dot? sheet columns rows),
      dot.1 < 2 * columns ∧ dot.2 < 4 * rows)
    (areMasks : AreMasks dots columns rows masks) :
    AreMasks (dots ++ points.filterMap (dot? sheet columns rows)) columns rows
      (points.foldl (setDot sheet columns rows) masks) := by
  induction points generalizing dots masks with
  | nil =>
      rw [List.filterMap_nil, List.append_nil]
      exact areMasks
  | cons point rest inductionHypothesis =>
      rw [List.foldl_cons]
      unfold setDot
      cases isDot : dot? sheet columns rows point with
      | none =>
          rw [List.filterMap_cons_none isDot] at inPane ⊢
          exact inductionHypothesis inPane areMasks
      | some dot =>
          rw [List.filterMap_cons_some isDot, List.forall_mem_cons] at inPane
          rw [List.filterMap_cons_some isDot, List.append_cons]
          exact inductionHypothesis inPane.2 (areMasks.concat inPane.1)

end AreMasks

/-- The mask of a cell for the samples of a shape. -/
def cellMask
    (sheet : Sheet)
    (columns rows : Nat)
    (pitch : Pitch)
    (shape : Shape)
    (x y : Nat) : Nat :=
  let points := (samples? sheet pitch shape).getD []
  (dotMasks sheet columns rows points)[y * columns + x]?.getD 0

theorem isMask_cellMask
    {sheet : Sheet}
    (inWords : sheet.InWords)
    {columns rows : Nat}
    (columns_lt : columns < 2 ^ 16)
    (rows_lt : rows < 2 ^ 16)
    (pitch : Pitch)
    (shape : Shape)
    {x y : Nat}
    (inRow : x < columns)
    (inColumn : y < rows) :
    IsMask (dots sheet columns rows pitch shape) x y
      (cellMask sheet columns rows pitch shape x y) := by
  have inPane :=
    forall_mem_dots inWords columns_lt rows_lt (Nat.zero_lt_of_lt inRow)
    (Nat.zero_lt_of_lt inColumn) pitch shape
  exact (AreMasks.foldl _ inPane (.nil columns rows)).isMask x y inRow inColumn

end Masks

section Cells

open Display

/-- Whether some sample of a shape falls into a cell. -/
def covers
    (sheet : Sheet)
    (columns rows : Nat)
    (pitch : Pitch)
    (x y : Nat)
    (shape : Shape) : Bool :=
  (dots sheet columns rows pitch shape).any fun dot =>
    dot.1 / 2 == x && dot.2 / 4 == y

/-- A cell with the dots of a shape. -/
def covered (mask : Nat) (shape : Shape) (cell : Cell) : Cell :=
  cell.drawn (dotSymbol mask) (.colored (Palette.ofColor shape.color))

/-- A cell that a shape takes over shows nothing of the shapes before. -/
theorem covered_covered
    (mask earlierMask : Nat)
    (shape earlier : Shape)
    (cell : Cell) :
    covered mask shape (covered earlierMask earlier cell) =
      covered mask shape cell := by
  simp [covered, Cell.drawn, Cell.styled, Style.colored]

/-- A cell after shapes have been drawn into it one after the other. -/
def painted (mask : Shape → Nat) (shapes : List Shape) (cell : Cell) : Cell :=
  shapes.foldl (fun cell shape =>
    if mask shape = 0 then cell else covered (mask shape) shape cell)
    cell

/-- The last shape with dots in a cell has it all. -/
theorem painted_eq
    {mask : Shape → Nat}
    {covers : Shape → Bool}
    (hasDots : ∀ shape, mask shape ≠ 0 ↔ covers shape = true)
    (shapes : List Shape)
    (cell : Cell) :
    painted mask shapes cell =
      (shapes.filter covers).getLast?.elim cell fun shape =>
        covered (mask shape) shape cell := by
  induction shapes using List.reverseRecOn with
  | nil =>
      rfl
  | append_singleton earlier shape inductionHypothesis =>
      have step : painted mask (earlier ++ [shape]) cell =
          if mask shape = 0 then painted mask earlier cell
          else covered (mask shape) shape (painted mask earlier cell) := by
        rw [painted, List.foldl_append]
        rfl
      rw [step, inductionHypothesis, List.filter_append]
      by_cases covering : covers shape = true
      · rw [if_neg ((hasDots shape).mpr covering),
          List.filter_cons_of_pos covering, List.filter_nil,
          List.getLast?_concat]
        cases (earlier.filter covers).getLast? with
        | none =>
            rfl
        | some =>
            exact covered_covered ..
      · rw [if_pos (not_not.mp (mt (hasDots shape).mp covering)),
          List.filter_cons_of_neg covering, List.filter_nil, List.append_nil]

variable
  {sheet : Sheet}
  {area : Area}
  {pitch : Pitch}
  {screen : Screen}
  {x y : Nat}
  (inRow : x < area.width)
  (inColumn : y < area.height)

include inRow inColumn

/-- In a cell of its area, a shape is drawn with the mask of the cell. -/
theorem get_drawShape
    (isFull : screen.IsFull)
    (inScreen : screen.area.Has (area.x + x) (area.y + y))
    (shape : Shape) :
    (drawShape sheet area pitch screen shape).get (area.x + x) (area.y + y) =
      painted (cellMask sheet area.width area.height pitch · x y) [shape]
        (screen.get (area.x + x) (area.y + y)) := by
  unfold drawShape
  generalize arePoints : (samples? sheet pitch shape).getD [] = points
  have inMasks : y * area.width + x <
      (dotMasks sheet area.width area.height points).size := by
    rw [size_dotMasks]
    exact Screen.index_lt inRow inColumn
  have isMask : cellMask sheet area.width area.height pitch shape x y =
      (dotMasks sheet area.width area.height points)[y * area.width + x] := by
    rw [cellMask, arePoints, Array.getElem?_eq_getElem inMasks,
      Option.getD_some]
  have member : (cellMask sheet area.width area.height pitch shape x y,
      y * area.width + x) ∈
      (dotMasks sheet area.width area.height points).toList.zipIdx := by
    rw [List.mem_zipIdx_iff_getElem?, Array.getElem?_toList, isMask,
      Array.getElem?_eq_getElem inMasks]
  have each (item : Nat × Nat) (screen : Screen) :
      (if item.1 = 0 then
        screen
      else
        screen.modify (area.x + item.2 % area.width)
          (area.y + item.2 / area.width)
          (covered item.1 shape)).ChangedIn screen fun x' y' =>
        x' = area.x + item.2 % area.width ∧
          y' = area.y + item.2 / area.width := by
    split
    · exact .refl screen _
    · exact Screen.changedIn_modify screen _ _ _
  refine Screen.get_foldl_of_mem
    (painted (cellMask sheet area.width area.height pitch · x y) [shape])
    (List.nodup_zipIdx_map_snd _).of_map
      (fun item _ => each item) member ?only ?changes isFull
    inScreen
  case only =>
    rintro ⟨mask, index⟩ inZip ⟨sameColumn, sameRow⟩
    have isIndex : index = y * area.width + x := by
      rw [← Nat.div_add_mod' index area.width]
      dsimp only at sameColumn sameRow
      rw [← Nat.add_left_cancel sameColumn, ← Nat.add_left_cancel sameRow]
    rw [List.mem_zipIdx_iff_getElem?, Array.getElem?_toList, isIndex,
      Array.getElem?_eq_getElem inMasks] at inZip
    rw [Prod.mk.injEq, isMask]
    exact ⟨(Option.some.inj inZip).symm, isIndex⟩
  case changes =>
    intro screen isFull inScreen
    simp only [Screen.index_mod inRow, Screen.index_div inRow, painted,
      List.foldl_cons, List.foldl_nil]
    split
    · rfl
    · exact Screen.get_modify _ isFull inScreen

/-- Each shape is drawn over what the shapes before have left of a cell. -/
theorem get_drawShapes
    (isFull : screen.IsFull)
    (inScreen : screen.area.Has (area.x + x) (area.y + y))
    (shapes : List Shape) :
    (drawShapes sheet area pitch screen shapes).get (area.x + x) (area.y + y) =
      painted (cellMask sheet area.width area.height pitch · x y) shapes
        (screen.get (area.x + x) (area.y + y)) := by
  induction shapes generalizing screen with
  | nil =>
      rfl
  | cons shape rest inductionHypothesis =>
      have first := changedIn_drawShapes sheet area pitch screen [shape]
      have others := inductionHypothesis (first.isFull_iff.mpr isFull)
        (first.area_eq ▸ inScreen)
      exact others.trans
        (congrArg _ (get_drawShape inRow inColumn isFull inScreen shape))

variable
  (inWords : sheet.InWords)
  (width_lt : area.width < 2 ^ 16)
  (height_lt : area.height < 2 ^ 16)

include inWords width_lt height_lt

/--
A cell shows the last shape that covers it, or what it showed before the first
one.
-/
theorem get_drawShapes_eq
    (isFull : screen.IsFull)
    (inScreen : screen.area.Has (area.x + x) (area.y + y))
    (shapes : List Shape) :
    (drawShapes sheet area pitch screen shapes).get (area.x + x) (area.y + y) =
      (shapes.filter
        (covers sheet area.width area.height pitch x y)).getLast?.elim
        (screen.get (area.x + x) (area.y + y)) fun shape =>
          covered (cellMask sheet area.width area.height pitch shape x y) shape
            (screen.get (area.x + x) (area.y + y)) := by
  rw [get_drawShapes inRow inColumn isFull inScreen]
  refine painted_eq (fun shape => ?_) shapes _
  have isMask :=
    isMask_cellMask inWords width_lt height_lt pitch shape inRow inColumn
  simp only [isMask.ne_zero_iff, covers, List.any_eq_true, Bool.and_eq_true,
    beq_iff_eq]

omit inRow inColumn

/--
Drawings are the same if each cell is covered by the same shapes in the same
order.
-/
theorem drawShapes_congr
    (isFull : screen.IsFull)
    (inScreen : ∀ x y, area.Has x y → screen.area.Has x y)
    {shapes others : List Shape}
    (sameShapes : ∀ x y, x < area.width → y < area.height →
      shapes.filter (covers sheet area.width area.height pitch x y) =
        others.filter (covers sheet area.width area.height pitch x y)) :
    drawShapes sheet area pitch screen shapes =
      drawShapes sheet area pitch screen others := by
  have drawing := changedIn_drawShapes sheet area pitch screen shapes
  have otherDrawing := changedIn_drawShapes sheet area pitch screen others
  refine Screen.ext_of_get (drawing.isFull_iff.mpr isFull)
    (otherDrawing.isFull_iff.mpr isFull)
    (drawing.width_eq.trans otherDrawing.width_eq.symm)
    (drawing.height_eq.trans otherDrawing.height_eq.symm) fun x y => ?_
  by_cases inArea : area.Has x y
  · have inPane := inScreen x y inArea
    obtain ⟨fromLeft, toRight, fromTop, toBottom⟩ := inArea
    obtain ⟨column, rfl⟩ := Nat.exists_eq_add_of_le fromLeft
    obtain ⟨row, rfl⟩ := Nat.exists_eq_add_of_le fromTop
    have inRow := Nat.lt_of_add_lt_add_left toRight
    have inColumn := Nat.lt_of_add_lt_add_left toBottom
    rw [get_drawShapes_eq inRow inColumn inWords width_lt height_lt
      isFull inPane,
      get_drawShapes_eq inRow inColumn inWords width_lt height_lt isFull inPane,
      sameShapes column row inRow inColumn]
  · rw [drawing.get_eq x y inArea, otherDrawing.get_eq x y inArea]

end Cells

section Apart

/-- Whether no cell is covered by both of two shapes. -/
def Apart
    (sheet : Sheet)
    (columns rows : Nat)
    (pitch : Pitch)
    (first second : Shape) : Prop :=
  ∀ x y, ¬(covers sheet columns rows pitch x y first = true ∧
    covers sheet columns rows pitch x y second = true)

variable
  {sheet : Sheet}
  {columns rows : Nat}
  {pitch : Pitch}
  {group permuted : List Shape}

/-- Of shapes that are apart, a cell is covered by one at most. -/
theorem length_filter_covers_le
    (apart : group.Pairwise (Apart sheet columns rows pitch))
    (x y : Nat) :
    (group.filter (covers sheet columns rows pitch x y)).length ≤ 1 := by
  have among := apart.filter (covers sheet columns rows pitch x y)
  match covering : group.filter (covers sheet columns rows pitch x y) with
  | [] => exact Nat.zero_le 1
  | [_] => exact Nat.le_refl 1
  | first :: second :: rest =>
      have firstCovers :
          first ∈ group.filter (covers sheet columns rows pitch x y) := by
        simp [covering]
      have secondCovers :
          second ∈ group.filter (covers sheet columns rows pitch x y) := by
        simp [covering]
      rw [covering, List.pairwise_cons, List.forall_mem_cons] at among
      exact absurd
        ⟨List.of_mem_filter firstCovers, List.of_mem_filter secondCovers⟩
        (among.1.1 x y)

/-- The order of shapes that are apart is not seen in any cell. -/
theorem filter_covers_eq_of_perm
    (isPermuted : group.Perm permuted)
    (apart : group.Pairwise (Apart sheet columns rows pitch))
    (x y : Nat) :
    group.filter (covers sheet columns rows pitch x y) =
      permuted.filter (covers sheet columns rows pitch x y) := by
  have among := isPermuted.filter (covers sheet columns rows pitch x y)
  have atMostOne := length_filter_covers_le apart x y
  match covering : group.filter (covers sheet columns rows pitch x y) with
  | [] =>
      rw [covering] at among
      exact among.nil_eq
  | [_] =>
      rw [covering] at among
      exact (List.perm_singleton.mp among.symm).symm
  | first :: second :: rest =>
      rw [covering] at atMostOne
      exact absurd atMostOne (by simp)

end Apart

end Storyboard.Canvas
