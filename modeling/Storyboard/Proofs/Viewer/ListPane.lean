import Mathlib.Data.List.Sigma
import Storyboard.Proofs.Viewer.Panes

namespace Storyboard.Viewer

open Display Screen

/-!
# The rows of the list

The list shows a window of rows, the snapshots from a first position on.  The
row of the cursor alone is marked, and where a row is inside the frame, its
first cell shows whether it is.
-/

section Rows

/-- Whether a line begins with the marker of the cursor. -/
def isMarked (line : Line) : Bool :=
  line.head?.any (·.text = "▶ ")

theorem isMarked_listRow (cursor position : Nat) (snapshot : Snapshot) :
    isMarked (listRow cursor position snapshot) = true ↔ position = cursor := by
  by_cases same : position = cursor <;> simp [isMarked, listRow, same]

variable
  {archive : Archive}
  {first rows position : Nat}

theorem getElem?_listed {row : Nat} (inRows : row < rows) :
    (listed archive first rows)[row]? =
      (archive.get? (first + row)).map fun snapshot =>
        (snapshot, first + row) := by
  rw [listed, List.getElem?_take_of_lt inRows, List.getElem?_drop,
    List.getElem?_zipIdx, Nat.zero_add, Array.getElem?_toList]
  rfl

theorem get?_of_mem_listed
    {snapshot : Snapshot}
    (member : (snapshot, position) ∈ listed archive first rows) :
    archive.get? position = some snapshot := by
  have inArchive := List.mem_of_mem_drop (List.mem_of_mem_take member)
  rw [List.mem_zipIdx_iff_getElem?, Array.getElem?_toList] at inArchive
  exact inArchive

theorem nodup_listed : (listed archive first rows).Nodup := by
  have all : archive.snapshots.toList.zipIdx.Nodup :=
    (List.nodup_zipIdx_map_snd archive.snapshots.toList).of_map
  exact (all.sublist (List.drop_sublist _ _)).sublist (List.take_sublist _ _)

/--
Of the rows of a window that holds the position, its own one is marked and no
other.
-/
theorem filter_isMarked_listed
    {snapshot : Snapshot}
    (isSnapshot : archive.get? position = some snapshot)
    (fromFirst : first ≤ position)
    (beforeEnd : position < first + rows) :
    (listed archive first rows).filter
        (fun row => isMarked (listRow position row.2 row.1)) =
      [(snapshot, position)] := by
  have member : (snapshot, position) ∈ listed archive first rows := by
    apply List.mem_of_getElem? (i := position - first)
    rw [getElem?_listed (by omega), Nat.add_sub_cancel' fromFirst, isSnapshot,
      Option.map_some]
  have onlyOwn :
      (listed archive first rows).filter
          (fun row => isMarked (listRow position row.2 row.1)) =
        (listed archive first rows).filter (· = (snapshot, position)) := by
    refine List.filter_congr fun row inRows => ?_
    rw [Bool.eq_iff_iff, isMarked_listRow, decide_eq_true_eq]
    constructor
    · intro samePosition
      have sameSnapshot := get?_of_mem_listed inRows
      rw [samePosition, isSnapshot] at sameSnapshot
      exact Prod.ext (Option.some.inj sameSnapshot).symm samePosition
    · rintro rfl
      rfl
  rw [onlyOwn, List.filter_eq, List.count_eq_one_of_mem nodup_listed member,
    List.replicate_one]

end Rows

section Drawing

/-- The first cell of a row of the list. -/
def markerOf (cursor position : Nat) : String :=
  if position = cursor then "▶" else " "

theorem markerOf_eq_iff (cursor position : Nat) :
    markerOf cursor position = "▶" ↔ position = cursor := by
  unfold markerOf
  split
  case isTrue same =>
    exact iff_of_true rfl same
  case isFalse other =>
    exact iff_of_false (by decide) other

variable
  (cursor : Nat)
  (screen : Screen)
  (area : Area)

/-- The tone of a row is that of its own places. -/
theorem changedIn_toned (position : Nat) (style : Style) :
    (if position = cursor then screen.style area style else screen).ChangedIn
      screen area.Has := by
  split
  · exact changedIn_style screen area style
  · exact .refl screen _

theorem changedIn_drawListRow (position : Nat) (snapshot : Snapshot) :
    (drawListRow cursor position screen area snapshot).ChangedIn
      screen area.Has :=
  (changedIn_toned cursor screen area position _).trans
    (changedIn_drawRow _ _ _)

theorem changedIn_drawListRows (rows : List (Snapshot × Nat)) (start : Nat) :
    ((rows.zipIdx start).foldl
        (fun screen ((snapshot, position), row) =>
          drawListRow cursor position screen
            ⟨area.x, area.y + row, area.width, 1⟩ snapshot)
        screen).ChangedIn screen
      (Area.mk area.x (area.y + start) area.width rows.length).Has := by
  refine ChangedIn.foldl
    (fun ((snapshot, position), row) member screen => ?_) screen
  refine (changedIn_drawListRow cursor screen _ position snapshot).mono
    fun x y isPlace => ?_
  have fromStart := List.le_snd_of_mem_zipIdx member
  have inRows := List.snd_lt_of_mem_zipIdx member
  simp only [Area.Has] at isPlace fromStart inRows ⊢
  omega

/-- A row that is not listed stays as it was. -/
theorem get_drawListRows_of_length_le
    {rows : List (Snapshot × Nat)}
    {row : Nat}
    (below : rows.length ≤ row) :
    (drawListRows cursor screen area rows).get area.x (area.y + row) =
      screen.get area.x (area.y + row) := by
  refine (changedIn_drawListRows cursor screen area rows 0).get_eq _ _ ?_
  simp only [Area.Has]
  omega

variable
  {cursor : Nat}
  {screen : Screen}
  {area : Area}
  (isFull : screen.IsFull)

include isFull

theorem symbol_drawListRow
    (inScreen : screen.area.Has area.x area.y)
    (notEmpty : area.isEmpty = false)
    (position : Nat)
    (snapshot : Snapshot) :
    ((drawListRow cursor position screen area snapshot).get area.x
      area.y).symbol =
      markerOf cursor position := by
  have areGlyphs :
      Span.glyphs
        ⟨if position = cursor then "▶ " else "  ", .colored Palette.accent⟩ =
        [⟨markerOf cursor position, 1, .colored Palette.accent⟩,
          ⟨" ", 1, .colored Palette.accent⟩] := by
    unfold markerOf
    split <;> decide +kernel
  have someWidth :
      0 < Span.width ⟨if position = cursor then "▶ " else "  ",
        .colored Palette.accent⟩ := by
    split <;> decide +kernel
  have toned := changedIn_toned cursor screen area position
    (Style.backed Palette.band).strong
  exact symbol_drawRow (toned.isFull_iff.mpr isFull)
    (toned.area_eq ▸ inScreen) notEmpty
    areGlyphs rfl (by simp) someWidth _

/-- The rows above a row are drawn before it, and those below leave it alone. -/
theorem symbol_drawListRows
    {rows : List (Snapshot × Nat)}
    {row position : Nat}
    {snapshot : Snapshot}
    (isRow : rows[row]? = some (snapshot, position))
    (inScreen : screen.area.Has area.x (area.y + row))
    (someColumn : 0 < area.width) :
    ((drawListRows cursor screen area rows).get area.x (area.y + row)).symbol =
      markerOf cursor position := by
  obtain ⟨inRows, isItem⟩ := List.getElem?_eq_some_iff.mp isRow
  have split :
      rows = rows.take row ++ (snapshot, position) :: rows.drop (row + 1) := by
    rw [← isItem, List.getElem_cons_drop, List.take_append_drop]
  have isAbove : (rows.take row).length = row :=
    List.length_take_of_le (Nat.le_of_lt inRows)
  have above := changedIn_drawListRows cursor screen area (rows.take row) 0
  rw [drawListRows, split, List.zipIdx_append, List.foldl_append, isAbove,
    Nat.zero_add, List.zipIdx_cons, List.foldl_cons,
    (changedIn_drawListRows cursor _ area (rows.drop (row + 1))
      (row + 1)).get_eq]
  · exact symbol_drawListRow (above.isFull_iff.mpr isFull)
      (above.area_eq ▸ inScreen)
      (by simp [Area.isEmpty, Nat.ne_of_gt someColumn]) position snapshot
  · simp only [Area.Has]
    omega

end Drawing

section Pane

/--
In a pane that is wide enough, the rows begin two columns and a row behind its
corner.
-/
theorem inner_sideFrame
    {area : Area}
    (someColumn : 3 < area.width)
    (someRow : 2 < area.height)
    (title : String)
    (focused : Bool) :
    (sideFrame title focused 1).inner area =
      ⟨area.x + 2, area.y + 1, area.width - 3, area.height - 2⟩ := by
  simp only [sideFrame, Frame.inner, Area.right, Area.bottom, Area.mk.injEq,
    and_true]
  omega

variable
  {archive : Archive}
  {cursor : Nat}
  {screen : Screen}
  {area : Area}

/--
On a screen that shows no symbol in a place for the first cell of a row, the
list puts the marker there if the row is that of the cursor, and no symbol if it
is another.
-/
theorem symbol_drawList
    (inArchive : cursor < archive.size)
    (isFull : screen.IsFull)
    (someColumn : 3 < area.width)
    {row : Nat}
    (inPane : row + 2 < area.height)
    (inScreen : screen.area.Has (area.x + 2) (area.y + 1 + row))
    (noSymbol : (screen.get (area.x + 2) (area.y + 1 + row)).symbol = " ")
    (focused : Bool)
    (first : Nat) :
    ((drawList archive cursor focused first screen area).get
        (area.x + 2) (area.y + 1 + row)).symbol =
      markerOf cursor (first + row) := by
  have notEmpty : archive.size ≠ 0 := Nat.ne_of_gt (Nat.zero_lt_of_lt inArchive)
  have isInner := inner_sideFrame someColumn (by omega) " Snapshots " focused
  have someRoom :
      ¬(Area.mk (area.x + 2) (area.y + 1) (area.width - 3)
        (area.height - 2)).isEmpty = true := by
    simp only [Area.isEmpty, Bool.or_eq_true, beq_iff_eq]
    omega
  have framed := (sideFrame " Snapshots " focused 1).changedIn_draw screen area
  have inRows : row < windowRows area.height := by
    simp only [windowRows]
    omega
  simp only [drawList, if_neg notEmpty, isInner, if_neg someRoom]
  cases isSnapshot : archive.get? (first + row) with
  | some snapshot =>
      have isRow : (listed archive first (windowRows area.height))[row]? =
          some (snapshot, first + row) := by
        rw [getElem?_listed inRows, isSnapshot, Option.map_some]
      exact symbol_drawListRows (framed.isFull_iff.mpr isFull) isRow
        (framed.area_eq ▸ inScreen) (Nat.sub_pos_of_lt someColumn)
  | none =>
      have noRow :
          (listed archive first (windowRows area.height)).length ≤ row := by
        rw [← List.getElem?_eq_none_iff, getElem?_listed inRows, isSnapshot,
          Option.map_none]
      have inInner :
          ((sideFrame " Snapshots " focused 1).inner area).Has
            (area.x + 2) (area.y + 1 + row) := by
        rw [isInner]
        simp only [Area.Has]
        omega
      have otherRow : first + row ≠ cursor := by
        rintro rfl
        have inSnapshots : archive.snapshots[first + row]? = none := isSnapshot
        rw [Array.getElem?_eq_none_iff] at inSnapshots
        exact Nat.not_le_of_gt inArchive inSnapshots
      have unlisted := get_drawListRows_of_length_le cursor
        ((sideFrame " Snapshots " focused 1).draw screen area)
        ⟨area.x + 2, area.y + 1, area.width - 3, area.height - 2⟩ noRow
      rw [unlisted, framed.get_eq _ _ (Frame.has_of_inner inInner).2, noSymbol,
        markerOf, if_neg otherRow]

/--
On the screen of the viewer, the marker is the first cell of the row of the
position and of no other row inside the frame of the list.
-/
theorem symbol_screen
    {state : State}
    (inArchive : state.cursor.position < state.archive.size)
    (width height : Nat)
    (someColumn : 3 < (Layout.ofSize width height).list.width)
    {row : Nat}
    (inPane : row + 2 < (Layout.ofSize width height).list.height) :
    ((state.screen width height).get
        ((Layout.ofSize width height).list.x + 2)
        ((Layout.ofSize width height).list.y + 1 + row)).symbol =
      markerOf state.cursor.position (state.listScroll + row) := by
  have drawing := changedIn_drawDrawing (.blank width height)
    (Layout.ofSize width height).drawing
    state.sheet state.current?
  have noSymbol := drawing.get_eq
    ((Layout.ofSize width height).list.x + 2)
      ((Layout.ofSize width height).list.y + 1 + row)
  rw [State.screen, (changedIn_drawStatus _ _ _).get_eq,
    (changedIn_drawDetails _ _ _ _ _).get_eq]
  · refine symbol_drawList inArchive
      (drawing.isFull_iff.mpr (isFull_blank width height))
      someColumn inPane ?_ ?_ _ _
    · rw [drawing.area_eq]
      simp only [Layout.ofSize, Area.Has, Screen.area, blank]
        at someColumn inPane ⊢
      omega
    · rw [noSymbol, get_blank]
      · rfl
      · simp only [Layout.ofSize, Area.Has]
        omega
  · simp only [Layout.ofSize, Area.Has] at inPane ⊢
    omega
  · simp only [Layout.ofSize, Area.Has] at inPane ⊢
    omega

end Pane

end Storyboard.Viewer
