import Storyboard.Proofs.Display.Drawing
import Storyboard.Viewer.Draw

namespace Storyboard

open Display Screen

/-!
# Panes stay in their areas

Every pane draws in its own area.  The areas of a layout do not overlap, so what
the screen shows in one of them is what that pane has drawn on an empty screen.
-/

namespace Canvas

theorem size_setDot
    (sheet : Sheet)
    (columns rows : Nat)
    (masks : Array Nat)
    (point : Point) :
    (setDot sheet columns rows masks point).size = masks.size := by
  unfold setDot
  split
  · rfl
  · exact Array.size_modify

theorem size_dotMasks
    (sheet : Sheet)
    (columns rows : Nat)
    (points : List Point) :
    (dotMasks sheet columns rows points).size = columns * rows := by
  have sizeKept (masks : Array Nat) :
      (points.foldl (setDot sheet columns rows) masks).size = masks.size := by
    induction points generalizing masks with
    | nil =>
        rfl
    | cons point rest inductionHypothesis =>
        exact (inductionHypothesis _).trans (size_setDot ..)
  exact (sizeKept _).trans Array.size_replicate

theorem changedIn_drawShapes
    (sheet : Sheet)
    (area : Area)
    (pitch : Pitch)
    (screen : Screen)
    (shapes : List Shape) :
    (drawShapes sheet area pitch screen shapes).ChangedIn screen area.Has := by
  refine ChangedIn.foldl (fun shape _ screen => ?_) screen
  refine ChangedIn.foldl (fun (mask, i) member screen => ?_) screen
  have inMasks : i < area.width * area.height := by
    simpa only [Array.length_toList, size_dotMasks, Nat.add_zero] using
      List.snd_lt_of_mem_zipIdx member
  dsimp only
  split
  case isTrue =>
    exact .refl screen _
  case isFalse =>
    have someColumn : 0 < area.width :=
      Nat.pos_of_mul_pos_right (Nat.zero_lt_of_lt inMasks)
    have inColumns := Nat.mod_lt i someColumn
    have inRows : i / area.width < area.height := Nat.div_lt_of_lt_mul inMasks
    exact changedIn_modify_of_has _ _
      ⟨Nat.le_add_right _ _, Nat.add_lt_add_left inColumns _,
        Nat.le_add_right _ _, Nat.add_lt_add_left inRows _⟩

end Canvas

namespace Viewer

section Panes

variable
  (screen : Screen)
  (area : Area)

theorem changedIn_frame (frame : Frame) :
    (frame.draw screen area).ChangedIn screen area.Has :=
  (frame.changedIn_draw screen area).mono fun _ _ onEdge => onEdge.1

theorem changedIn_inner
    {frame : Frame}
    {later earlier : Screen}
    (changed : later.ChangedIn earlier (frame.inner area).Has) :
    later.ChangedIn earlier area.Has :=
  changed.mono fun _ _ inInner => (Frame.has_of_inner inInner).1

theorem changedIn_drawNote (frame : Frame) (note : String) :
    (drawNote screen area frame note).ChangedIn screen area.Has :=
  .trans (.trans (changedIn_style screen area _) (changedIn_frame _ area frame))
    (changedIn_inner area (changedIn_drawParagraph _ _ _ _ _))

theorem changedIn_drawDrawing (sheet : Sheet) (snapshot : Option Snapshot) :
    (drawDrawing sheet snapshot screen area).ChangedIn screen area.Has := by
  unfold drawDrawing
  split
  case h_1 =>
    exact changedIn_drawNote screen area _ _
  case h_2 snapshot =>
    have framed := changedIn_frame screen area (drawingFrame (some snapshot))
    dsimp only
    split
    case isTrue =>
      exact framed
    case isFalse =>
      exact framed.trans
        (changedIn_inner area
          ((changedIn_style _ _ _).trans
            (Canvas.changedIn_drawShapes _ _ _ _ _)))

theorem changedIn_drawDetails
    (snapshot : Option Snapshot)
    (focused : Bool)
    (first : Nat) :
    (drawDetails snapshot focused first screen area).ChangedIn screen
      area.Has := by
  unfold drawDetails
  split
  case h_1 =>
    exact changedIn_drawNote screen area _ _
  case h_2 =>
    exact .trans
      (.trans (changedIn_style screen area _) (changedIn_frame _ area _))
      (changedIn_inner area (changedIn_drawParagraph _ _ _ _ _))

theorem changedIn_drawStatus (status : Status) :
    (status.draw screen area).ChangedIn screen area.Has := by
  refine .trans (.trans (changedIn_style screen area _)
    ((changedIn_drawParagraph _ _ _ _ _).mono ?left))
      ((changedIn_drawParagraph _ _ _ _ _).mono ?right)
  all_goals
    intro x y isPlace
    simp only [Area.Has, Area.indent] at isPlace ⊢
    omega

end Panes

end Viewer

end Storyboard
