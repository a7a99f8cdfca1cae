import Mathlib
import Storyboard.Proofs.Canvas.DotGrid
import Storyboard.Proofs.Canvas.Layers

namespace Storyboard.Viewer

open Canvas
open Display Screen

/-!
# Shapes in the drawing pane

Every shape of a snapshot is sampled as finely as the pane has dots, and a cell
of the pane shows the dots of the last shape that has some there, on light
paper.
-/

section Paper

/-- The paper in a frame, before any shape is drawn. -/
def onPaper (screen : Screen) (area : Area) (frame : Frame) : Screen :=
  (frame.draw screen area).style (frame.inner area) (.backed Palette.paper)

variable
  {screen : Screen}
  {area : Area}

theorem changedIn_onPaper (screen : Screen) (area : Area) (frame : Frame) :
    (onPaper screen area frame).ChangedIn screen area.Has :=
  (changedIn_frame screen area frame).trans
    (changedIn_inner area (changedIn_style _ _ _))

/-- In a blank pane, the paper is blank but for its background. -/
theorem get_onPaper
    (isFull : screen.IsFull)
    (inScreen : ∀ x y, area.Has x y → screen.area.Has x y)
    (isBlank : ∀ x y, area.Has x y → screen.get x y = .blank)
    {frame : Frame}
    {x y : Nat}
    (inInner : (frame.inner area).Has x y) :
    (onPaper screen area frame).get x y = { background := Palette.paper } := by
  have framed := frame.changedIn_draw screen area
  have place := Frame.has_of_inner inInner
  rw [onPaper, style,
    get_modifyArea _ (framed.isFull_iff.mpr isFull) inInner
      (framed.area_eq ▸ inScreen x y place.1), framed.get_eq x y place.2,
    isBlank x y place.1]
  rfl

theorem inner_lt
    (width_lt : area.width < 2 ^ 16)
    (height_lt : area.height < 2 ^ 16)
    (frame : Frame) :
    (frame.inner area).width < 2 ^ 16 ∧ (frame.inner area).height < 2 ^ 16 := by
  simp only [Frame.inner]
  omega

theorem drawDrawing_eq
    (sheet : Sheet)
    {snapshot : Snapshot}
    (notEmpty : ((drawingFrame (some snapshot)).inner area).isEmpty = false) :
    drawDrawing sheet (some snapshot) screen area =
      drawShapes sheet ((drawingFrame (some snapshot)).inner area)
        (pitch sheet (area.width - 2) (area.height - 2))
        (onPaper screen area (drawingFrame (some snapshot)))
          snapshot.shapes := by
  simp only [drawDrawing, onPaper, notEmpty, Bool.false_eq_true, if_false]

end Paper

section Pane

variable
  {sheet : Sheet}
  {area : Area}
  {screen : Screen}
  (inWords : sheet.InWords)
  (width_lt : area.width < 2 ^ 16)
  (height_lt : area.height < 2 ^ 16)
  (isFull : screen.IsFull)
  (inScreen : ∀ x y, area.Has x y → screen.area.Has x y)

include inWords width_lt height_lt isFull inScreen

/--
A cell of a blank pane shows the last shape that covers it, or bare paper.
-/
theorem get_drawDrawing
    (isBlank : ∀ x y, area.Has x y → screen.get x y = .blank)
    (snapshot : Snapshot)
    {column row : Nat} :
    let inner := (drawingFrame (some snapshot)).inner area
    let pitch := pitch sheet (area.width - 2) (area.height - 2)
    column < inner.width →
    row < inner.height →
    (drawDrawing sheet (some snapshot) screen area).get (inner.x + column)
      (inner.y + row) =
      (snapshot.shapes.filter
          (covers sheet inner.width inner.height pitch column row)
        ).getLast?.elim
        { background := Palette.paper } fun shape =>
          covered
            (cellMask sheet inner.width inner.height pitch shape column row)
            shape { background := Palette.paper } := by
  intro inner pitch inRow inColumn
  have notEmpty : inner.isEmpty = false := by
    simp only [Area.isEmpty, Bool.or_eq_false_iff, beq_eq_false_iff_ne]
    omega
  have inInner : inner.Has (inner.x + column) (inner.y + row) := by
    simp only [Area.Has]
    omega
  have paper := changedIn_onPaper screen area (drawingFrame (some snapshot))
  have onScreen := inScreen _ _ (Frame.has_of_inner inInner).1
  have bounds := inner_lt width_lt height_lt (drawingFrame (some snapshot))
  rw [drawDrawing_eq sheet notEmpty,
    get_drawShapes_eq inRow inColumn inWords bounds.1 bounds.2
      (paper.isFull_iff.mpr isFull) (paper.area_eq ▸ onScreen),
    get_onPaper isFull inScreen isBlank inInner]

/--
Drawings are the same if each cell is covered by the same shapes in the same
order.
-/
theorem drawDrawing_congr
    (snapshot : Snapshot)
    (shapes : List Shape) :
    let inner := (drawingFrame (some snapshot)).inner area
    let pitch := pitch sheet (area.width - 2) (area.height - 2)
    (∀ x y, x < inner.width → y < inner.height →
      shapes.filter (covers sheet inner.width inner.height pitch x y) =
        snapshot.shapes.filter
          (covers sheet inner.width inner.height pitch x y)) →
    drawDrawing sheet (some { snapshot with shapes }) screen area =
      drawDrawing sheet (some snapshot) screen area := by
  intro inner pitch sameShapes
  cases noCell : inner.isEmpty with
  | true =>
      have bare (shapes : List Shape) :
          drawDrawing sheet (some { snapshot with shapes }) screen area =
            (drawingFrame (some snapshot)).draw screen area :=
        if_pos noCell
      rw [bare shapes]
      exact (bare snapshot.shapes).symm
  | false =>
      have paper := changedIn_onPaper screen area (drawingFrame (some snapshot))
      have onScreen (x y : Nat) (inInner : inner.Has x y) :
          (onPaper screen area (drawingFrame (some snapshot))).area.Has x y :=
        paper.area_eq ▸ inScreen x y (Frame.has_of_inner inInner).1
      have bounds := inner_lt width_lt height_lt (drawingFrame (some snapshot))
      have sameShapesDrawn := drawShapes_congr inWords bounds.1 bounds.2
        (paper.isFull_iff.mpr isFull) onScreen sameShapes
      have drawing := @drawDrawing_eq screen area sheet snapshot noCell
      have otherDrawing :=
        @drawDrawing_eq screen area sheet { snapshot with shapes } noCell
      exact otherDrawing.trans (sameShapesDrawn.trans drawing.symm)

/--
In a blank pane, every shape of a snapshot is sampled, and each cell inside the
frame shows the dots of the last shape that covers it in the shade of its color,
or nothing on the paper if no shape does.  So shapes make the same drawing in
every order that is the same for the shapes over each cell, and shapes that are
apart may be drawn in any order.
-/
theorem drawDrawing_last_on_top
    (isBlank : ∀ x y, area.Has x y → screen.get x y = .blank)
    (snapshot : Snapshot) :
    let inner := (drawingFrame (some snapshot)).inner area
    let pitch := pitch sheet (area.width - 2) (area.height - 2)
    let drawing := drawDrawing sheet (some snapshot) screen area
    (∀ shape ∈ snapshot.shapes, (samples? sheet pitch shape).isSome = true) ∧
      (∀ column row,
        column < inner.width →
        row < inner.height →
        let covers := covers sheet inner.width inner.height pitch column row
        let cell := drawing.get (inner.x + column) (inner.y + row)
        match (snapshot.shapes.filter covers).getLast? with
        | none => cell = { background := Palette.paper }
        | some shape =>
            ∃ mask,
              IsMask (dots sheet inner.width inner.height pitch shape)
                column row mask ∧
                cell =
                  { symbol := dotSymbol mask
                    foreground :=
                      .rgb shape.color.shade.red shape.color.shade.green
                        shape.color.shade.blue
                    background := Palette.paper }) ∧
      (∀ shapes,
        (∀ column row, column < inner.width → row < inner.height →
          shapes.filter
            (covers sheet inner.width inner.height pitch column row) =
            snapshot.shapes.filter
              (covers sheet inner.width inner.height pitch column row)) →
        drawDrawing sheet (some { snapshot with shapes }) screen
          area = drawing) ∧
      ∀ before group permuted later,
        snapshot.shapes = before ++ group ++ later →
        group.Perm permuted →
        group.Pairwise (Apart sheet inner.width inner.height pitch) →
        drawDrawing sheet
          (some { snapshot with shapes := before ++ permuted ++ later }) screen
          area = drawing := by
  intro inner pitch drawing
  have reordered :=
    drawDrawing_congr inWords width_lt height_lt isFull inScreen snapshot
  refine ⟨fun shape _ => ?sampled, fun column row inRow inColumn => ?cell,
    reordered, ?apart⟩
  case sampled =>
    exact isSome_samples?_of_movesAll inWords
      (movesAll_pitch inWords width_lt height_lt) shape
  case cell =>
    intro covers cell
    have bounds := inner_lt width_lt height_lt (drawingFrame (some snapshot))
    have isCell : cell = _ :=
      get_drawDrawing inWords width_lt height_lt isFull inScreen isBlank
        snapshot inRow inColumn
    split
    case h_1 noShape =>
      rwa [noShape] at isCell
    case h_2 shape isLast =>
      rw [isLast] at isCell
      exact ⟨_, isMask_cellMask inWords bounds.1 bounds.2 pitch shape inRow
        inColumn, isCell⟩
  case apart =>
    intro before group permuted later areShapes isPermuted apart
    refine reordered _ fun x y _ _ => ?_
    have sameGroup := filter_covers_eq_of_perm isPermuted apart x y
    rw [areShapes, List.filter_append, List.filter_append, List.filter_append,
      List.filter_append, sameGroup]

end Pane

/--
Two bars beside one another may be swapped under a square that is drawn over the
left one.
-/
theorem drawDrawing_last_on_top_of_two_bars :
    let sheet : Sheet := ⟨10, 10⟩
    let area : Area := ⟨0, 0, 4, 3⟩
    let left : Shape := ⟨"Left", ⟨0, 0⟩, ⟨255, 0, 0⟩, .rectangle 4 10⟩
    let right : Shape := ⟨"Right", ⟨7, 0⟩, ⟨0, 255, 0⟩, .rectangle 3 10⟩
    let square : Shape := ⟨"Square", ⟨1, 1⟩, ⟨0, 0, 255⟩, .rectangle 2 2⟩
    let snapshot : Snapshot := ⟨⟨1, "id"⟩, "", "", [left, right, square]⟩
    let swapped : Snapshot := ⟨⟨1, "id"⟩, "", "", [right, left, square]⟩
    let drawing := drawDrawing sheet (some snapshot) (.blank 4 3) area
    (drawing.get 1 1).foreground = .rgb 0 0 255 ∧
      drawDrawing sheet (some swapped) (.blank 4 3) area = drawing := by
  intro sheet area left right square snapshot swapped drawing
  have inWords : sheet.InWords := ⟨by decide, by decide⟩
  have pane := @drawDrawing_last_on_top sheet area (.blank 4 3) inWords
    (by decide) (by decide)
    (isFull_blank 4 3)
      (fun _ _ inArea => inArea) (fun x y _ => get_blank 4 3 x y) snapshot
  obtain ⟨-, cells, -, order⟩ := pane
  have isLast : (snapshot.shapes.filter
      (covers sheet 2 1 (pitch sheet 2 1) 0 0)).getLast? = some square := by
    decide +kernel
  have atLeft : ∀ dot ∈ dots sheet 2 1 (pitch sheet 2 1) left,
      dot.1 / 2 = 0 := by decide +kernel
  have atRight : ∀ dot ∈ dots sheet 2 1 (pitch sheet 2 1) right,
      dot.1 / 2 = 1 := by
    decide +kernel
  have apart : Apart sheet 2 1 (pitch sheet 2 1) left right := by
    rintro x y ⟨leftCovers, rightCovers⟩
    simp only [covers, List.any_eq_true, Bool.and_eq_true, beq_iff_eq]
      at leftCovers rightCovers
    obtain ⟨dot, isDot, inColumn, -⟩ := leftCovers
    obtain ⟨dot', isDot', inColumn', -⟩ := rightCovers
    have atLeft := atLeft dot isDot
    have atRight := atRight dot' isDot'
    omega
  have swap :=
    order [] [left, right] [right, left] [square] rfl (.swap right left [])
    (List.pairwise_pair.mpr apart)
  refine ⟨?_, swap⟩
  have cell := cells 0 0 (by decide) (by decide)
  dsimp only at cell
  split at cell
  case h_1 noShape =>
    exact absurd (isLast.symm.trans noShape) (by simp)
  case h_2 shape isShape =>
    obtain rfl := Option.some.inj (isLast.symm.trans isShape)
    obtain ⟨mask, -, isCell⟩ := cell
    have isBlue : square.color.shade = ⟨0, 0, 255⟩ := by decide +kernel
    rw [isBlue] at isCell
    exact congrArg Cell.foreground isCell

end Storyboard.Viewer
