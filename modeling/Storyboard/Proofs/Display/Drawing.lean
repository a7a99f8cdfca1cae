import Storyboard.Display.Frame
import Storyboard.Proofs.Display.Places

namespace Storyboard.Display

open Screen

/-!
# Text and frames stay in their areas

A line of text is cut off where its area ends, and a frame is drawn along the
edges of what it encloses.  So text changes no place outside its area, and a
frame none but the outermost ones.
-/

/-! The graphemes of a line fill no more columns than they are fitted into. -/

theorem glyphsWidth_fitting_le (columns left : Nat) (glyphs : List Glyph) :
    glyphsWidth (fitting columns left glyphs) ≤ left := by
  fun_induction fitting columns left glyphs with
  | case1 => exact Nat.zero_le _
  | case2 left glyph rest _ inductionHypothesis => exact inductionHypothesis
  | case3 => exact Nat.zero_le _
  | case4 left glyph rest _ fits inductionHypothesis =>
      have whole :
          glyphsWidth (glyph :: fitting columns (left - glyph.width) rest) =
          glyph.width + glyphsWidth
            (fitting columns (left - glyph.width) rest) := rfl
      omega

theorem changedIn_drawGlyphs
    (screen : Screen)
    (x y : Nat)
    (glyphs : List Glyph) :
    (drawGlyphs screen x y glyphs).ChangedIn screen
      (Area.mk x y (glyphsWidth glyphs) 1).Has := by
  induction glyphs generalizing screen x with
  | nil =>
      exact .refl screen _
  | cons glyph rest inductionHypothesis =>
      have whole :
          glyphsWidth (glyph :: rest) = glyph.width + glyphsWidth rest := rfl
      unfold drawGlyphs
      split
      case isTrue noWidth =>
        rw [whole, noWidth, Nat.zero_add]
        exact inductionHypothesis screen x
      case isFalse someWidth =>
        refine .trans (changedIn_modify_of_has _ _ ?first)
          ((inductionHypothesis _ _).mono ?rest)
        case first =>
          simp only [Area.Has]
          omega
        case rest =>
          intro x' y' isPlace
          simp only [Area.Has] at isPlace ⊢
          omega

theorem changedIn_drawAligned
    (screen : Screen)
    (area : Area)
    (row : Nat)
    (alignment : Alignment)
    (line : Line) :
    (drawAligned screen area row alignment line).ChangedIn screen
      (Area.mk area.x (area.y + row) area.width 1).Has := by
  have fits := glyphsWidth_fitting_le area.width area.width line.glyphs
  refine (changedIn_drawGlyphs _ _ _ _).mono fun x y isPlace => ?_
  cases alignment
  all_goals
    simp only [Area.Has] at isPlace ⊢
    omega

theorem changedIn_drawParagraph
    (screen : Screen)
    (area : Area)
    (alignment : Alignment)
    (first : Nat)
    (lines : List Line) :
    (drawParagraph screen area alignment first lines).ChangedIn screen
      area.Has := by
  unfold drawParagraph
  split
  case isTrue =>
    exact .refl screen _
  case isFalse =>
    refine ChangedIn.foldl (fun item member screen => ?_) screen
    have inRows : item.2 < area.height := by
      have inLines := List.snd_lt_of_mem_zipIdx member
      rw [List.length_take] at inLines
      omega
    refine (changedIn_drawAligned _ _ _ _ _).mono fun x y isPlace => ?_
    simp only [Area.Has] at isPlace ⊢
    omega

section Spans

/-!
A span is drawn grapheme by grapheme; one without width goes into the cell
before it.
-/

theorem changedIn_drawTail
    {area : Area}
    (notEmpty : 0 < area.width)
    {x : Nat}
    (fromLeft : area.x ≤ x)
    (upToRight : x ≤ area.right)
    (screen : Screen)
    (y : Nat)
    (glyphs : List Glyph) :
    (drawTail screen area y x glyphs).ChangedIn screen
      (Area.mk area.x y area.width 1).Has := by
  induction glyphs generalizing screen x with
  | nil =>
      exact .refl screen _
  | cons glyph rest inductionHypothesis =>
      simp only [drawTail]
      split
      case isTrue =>
        exact .refl screen _
      case isFalse fits =>
        simp only [Area.right] at fits upToRight
        refine .trans
          (.trans ?drawn ((changedIn_modifyRow _ _ _ _ _).mono ?cleared))
          (inductionHypothesis (by omega) (Nat.le_of_not_lt fits) _)
        case cleared =>
          intro x' y' isPlace
          simp only [Area.Has] at isPlace ⊢
          omega
        case drawn =>
          split_ifs
          all_goals
            apply changedIn_modify_of_has
            simp only [Area.Has]
            omega

theorem changedIn_drawSpan (screen : Screen) (area : Area) (span : Span) :
    (drawSpan screen area span).ChangedIn screen area.Has := by
  unfold drawSpan
  split
  case h_1 =>
    exact .refl screen _
  case h_2 glyph rest _ =>
    split
    case isTrue =>
      exact .refl screen _
    case isFalse someRoom =>
      simp only [Area.isEmpty, Bool.or_eq_true, beq_iff_eq, decide_eq_true_eq,
        not_or] at someRoom
      obtain ⟨notEmpty, fits⟩ := someRoom
      have tail := changedIn_drawTail (Nat.pos_of_ne_zero notEmpty.1)
        (Nat.le_add_right area.x glyph.width) (Nat.le_of_not_lt fits)
      rw [Area.right] at fits
      refine .trans
        (.trans ?drawn ((changedIn_modifyRow _ _ _ _ _).mono ?cleared))
        ((tail _ _ _).mono ?tail)
      case drawn =>
        apply changedIn_modify_of_has
        simp only [Area.Has]
        omega
      case cleared =>
        intro x y isPlace
        simp only [Area.Has] at isPlace ⊢
        omega
      case tail =>
        intro x y isPlace
        simp only [Area.Has] at isPlace ⊢
        omega

theorem changedIn_drawRow (screen : Screen) (area : Area) (line : Line) :
    (drawRow screen area line).ChangedIn screen area.Has := by
  induction line generalizing screen area with
  | nil =>
      exact .refl screen _
  | cons span rest inductionHypothesis =>
      unfold drawRow
      split
      · exact inductionHypothesis screen area
      · refine (changedIn_drawSpan screen area span).trans
          ((inductionHypothesis _ _).mono fun x y isPlace => ?_)
        simp only [Area.Has, Area.indent] at isPlace ⊢
        omega

/-!
What stands first in an area is the first grapheme of a line, if it has a width.
-/

/-- Graphemes with a width are drawn from their column on to the right. -/
theorem changedIn_drawTail_of_width
    {area : Area}
    {x : Nat}
    (behindLeft : area.x < x)
    {glyphs : List Glyph}
    (someWidth : ∀ glyph ∈ glyphs, 0 < glyph.width)
    (screen : Screen)
    (y : Nat) :
    (drawTail screen area y x glyphs).ChangedIn screen fun x' _ => x ≤ x' := by
  induction glyphs generalizing screen x with
  | nil =>
      exact .refl screen _
  | cons glyph rest inductionHypothesis =>
      rw [List.forall_mem_cons] at someWidth
      simp only [drawTail, if_neg (Nat.ne_of_gt behindLeft),
        if_neg (Nat.ne_of_gt someWidth.1)]
      split
      case isTrue =>
        exact .refl screen _
      case isFalse =>
        refine .trans (.trans ((changedIn_modify _ _ _ _).mono ?drawn)
          ((changedIn_modifyRow _ _ _ _ _).mono ?cleared))
            ((inductionHypothesis (by omega) someWidth.2 _).mono ?rest)
        case cleared =>
          exact fun x' y' isPlace => Nat.le_of_succ_le isPlace.1
        all_goals
          intro x' y' isPlace
          omega

section First

variable
  {screen : Screen}
  (isFull : screen.IsFull)
  {area : Area}
  (inScreen : screen.area.Has area.x area.y)
  (notEmpty : area.isEmpty = false)
  {span : Span}
  {first : Glyph}
  {rest : List Glyph}
  (areGlyphs : span.glyphs = first :: rest)
  (firstWidth : first.width = 1)
  (someWidth : ∀ glyph ∈ rest, 0 < glyph.width)

include isFull inScreen notEmpty areGlyphs firstWidth someWidth

theorem symbol_drawSpan :
    ((drawSpan screen area span).get area.x area.y).symbol = first.symbol := by
  have fits : ¬area.right < area.x + 1 := by
    simp only [Area.isEmpty, Bool.or_eq_false_iff, beq_eq_false_iff_ne]
      at notEmpty
    simp only [Area.right]
    omega
  have tail := changedIn_drawTail_of_width (Nat.lt_succ_self area.x) someWidth
  simp only [drawSpan, areGlyphs, firstWidth, notEmpty, fits, Bool.or_self,
    decide_false, Bool.false_eq_true, if_false]
  rw [(tail _ _).get_eq _ _ (Nat.not_succ_le_self _)]
  have noneCleared (screen : Screen) :
      screen.modifyRow (area.x + 1) area.y (1 - 1)
        (fun _ => .blank) = screen := rfl
  rw [noneCleared, get_modify _ isFull inScreen]
  rfl

theorem symbol_drawRow (spanWidth : 0 < span.width) (line : Line) :
    ((drawRow screen area (span :: line)).get area.x area.y).symbol =
      first.symbol := by
  rw [drawRow, if_neg (Nat.ne_of_gt spanWidth),
    (changedIn_drawRow _ _ _).get_eq]
  · exact symbol_drawSpan isFull inScreen notEmpty areGlyphs
      firstWidth someWidth
  · simp only [Area.Has, Area.indent]
    omega

end First

end Spans

namespace Frame

/-- A place is one of the outermost ones of an area. -/
def Edge (area : Area) (x y : Nat) : Prop :=
  area.Has x y ∧
    (x = area.x ∨ x + 1 = area.right ∨ y = area.y ∨ y + 1 = area.bottom)

theorem edge_of_mem_parts
    {area part : Area}
    (notEmpty : area.isEmpty = false)
    {symbol : String}
    (member : (part, symbol) ∈ parts area)
    {x y : Nat}
    (inPart : part.Has x y) :
    Edge area x y := by
  simp only [Area.isEmpty, Bool.or_eq_false_iff, beq_eq_false_iff_ne]
    at notEmpty
  simp only [parts, List.mem_cons, Prod.mk.injEq, List.not_mem_nil, or_false]
    at member
  simp only [Edge, Area.Has, Area.right, Area.bottom] at member inPart ⊢
  rcases member with
    ⟨rfl, -⟩ | ⟨rfl, -⟩ | ⟨rfl, -⟩ | ⟨rfl, -⟩ | ⟨rfl, -⟩ | ⟨rfl, -⟩ |
    ⟨rfl, -⟩ | ⟨rfl, -⟩
  all_goals
    simp only at inPart
    omega

theorem changedIn_draw (frame : Frame) (screen : Screen) (area : Area) :
    (frame.draw screen area).ChangedIn screen (Edge area) := by
  unfold draw
  split
  case isTrue =>
    exact .refl screen _
  case isFalse notEmpty =>
    rw [Bool.not_eq_true] at notEmpty
    refine .trans (ChangedIn.foldl (fun part member screen => ?_) screen)
      ((changedIn_drawSpan _ _ _).mono ?title)
    case title =>
      intro x y isPlace
      simp only [Area.isEmpty, Bool.or_eq_false_iff, beq_eq_false_iff_ne]
        at notEmpty
      simp only [Edge, Area.Has, titleArea, Area.right, Area.bottom]
        at isPlace ⊢
      omega
    · exact (changedIn_modifyArea _ _ _).mono fun x y =>
        edge_of_mem_parts notEmpty member

/-- What a frame encloses is in its area and not on its edge. -/
theorem has_of_inner
    {frame : Frame}
    {area : Area}
    {x y : Nat}
    (inInner : (frame.inner area).Has x y) :
    area.Has x y ∧ ¬Edge area x y := by
  simp only [Edge, inner, Area.Has, Area.right, Area.bottom] at inInner ⊢
  omega

end Frame

end Storyboard.Display
