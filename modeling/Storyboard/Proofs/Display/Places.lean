import Mathlib.Tactic.SplitIfs
import Storyboard.Display.Basic

namespace Storyboard.Display

/-!
# Places that a drawing step changes

A drawing step changes the cells of some places and leaves the others and the
size of the screen alone.  Steps in a row change what each of them changes, so
what is said of a step is found again in every drawing that is made of such
steps.
-/

/-- A place is in an area. -/
def Area.Has (area : Area) (x y : Nat) : Prop :=
  area.x ≤ x ∧ x < area.x + area.width ∧ area.y ≤ y ∧ y < area.y + area.height

namespace Screen

/-- A screen has a cell for every place. -/
def IsFull (screen : Screen) : Prop :=
  screen.cells.size = screen.width * screen.height

theorem isFull_blank (width height : Nat) : (blank width height).IsFull := by
  simp [IsFull, blank]

theorem get_blank (width height x y : Nat) :
    (blank width height).get x y = .blank := by
  unfold get blank
  split
  · by_cases inCells : y * width + x < width * height <;> simp [inCells]
  · rfl

section Indices

variable {width height x y x' y' : Nat}

theorem index_mod (inRow : x < width) : (y * width + x) % width = x := by
  rw [Nat.mul_comm, Nat.mul_add_mod, Nat.mod_eq_of_lt inRow]

theorem index_div (inRow : x < width) : (y * width + x) / width = y := by
  rw [Nat.mul_comm, Nat.mul_add_div (Nat.zero_lt_of_lt inRow),
    Nat.div_eq_of_lt inRow, Nat.add_zero]

/-- A cell is counted through one row and column only. -/
theorem index_eq_iff
    (inRow : x < width)
    (inRow' : x' < width) :
    y * width + x = y' * width + x' ↔ x = x' ∧ y = y' := by
  constructor
  · intro sameIndex
    have sameColumn := congrArg (· % width) sameIndex
    have sameRow := congrArg (· / width) sameIndex
    simp only [index_mod inRow, index_mod inRow', index_div inRow,
      index_div inRow']
      at sameColumn sameRow
    exact ⟨sameColumn, sameRow⟩
  · rintro ⟨rfl, rfl⟩
    rfl

theorem index_lt
    (inRow : x < width)
    (inColumn : y < height) :
    y * width + x < width * height := by
  calc
    y * width + x < y * width + width := Nat.add_lt_add_left inRow _
    _ = (y + 1) * width := (Nat.succ_mul y width).symm
    _ ≤ height * width := Nat.mul_le_mul_right width inColumn
    _ = width * height := Nat.mul_comm height width

end Indices

/--
A later screen has the size of an earlier one and other cells in some places at
most.
-/
structure ChangedIn
    (later earlier : Screen)
    (places : Nat → Nat → Prop) : Prop where
  width_eq :
    later.width = earlier.width
  height_eq :
    later.height = earlier.height
  isFull_iff :
    later.IsFull ↔ earlier.IsFull
  get_eq :
    ∀ x y, ¬places x y → later.get x y = earlier.get x y

namespace ChangedIn

variable
  {later middle earlier : Screen}
  {places : Nat → Nat → Prop}

theorem refl
    (screen : Screen)
    (places : Nat → Nat → Prop) :
    screen.ChangedIn screen places where
  width_eq := rfl
  height_eq := rfl
  isFull_iff := .rfl
  get_eq _ _ _ := rfl

theorem trans
    (first : middle.ChangedIn earlier places)
    (second : later.ChangedIn middle places) :
    later.ChangedIn earlier places where
  width_eq := second.width_eq.trans first.width_eq
  height_eq := second.height_eq.trans first.height_eq
  isFull_iff := second.isFull_iff.trans first.isFull_iff
  get_eq x y elsewhere :=
    (second.get_eq x y elsewhere).trans (first.get_eq x y elsewhere)

theorem mono
    (changed : later.ChangedIn earlier places)
    {more : Nat → Nat → Prop}
    (areAmong : ∀ x y, places x y → more x y) :
    later.ChangedIn earlier more where
  width_eq := changed.width_eq
  height_eq := changed.height_eq
  isFull_iff := changed.isFull_iff
  get_eq x y elsewhere := changed.get_eq x y (mt (areAmong x y) elsewhere)

theorem area_eq (changed : later.ChangedIn earlier places) :
    later.area = earlier.area := by
  rw [area, area, changed.width_eq, changed.height_eq]

/--
A drawing that takes one step for each item changes what the steps change.
-/
theorem foldl
    {Item : Type}
    {step : Screen → Item → Screen}
    {items : List Item}
    (each :
      ∀ item ∈ items, ∀ screen, (step screen item).ChangedIn screen places)
    (screen : Screen) :
    (items.foldl step screen).ChangedIn screen places := by
  induction items generalizing screen with
  | nil =>
      exact refl screen places
  | cons item rest inductionHypothesis =>
      rw [List.forall_mem_cons] at each
      exact (each.1 screen).trans (inductionHypothesis each.2 _)

end ChangedIn

section Modifying

variable
  (screen : Screen)
  (change : Cell → Cell)

theorem changedIn_modify (x y : Nat) :
    (screen.modify x y change).ChangedIn screen fun x' y' =>
      x' = x ∧ y' = y := by
  unfold modify
  split
  case isTrue inRow =>
    refine ⟨rfl, rfl, by simp [IsFull], fun x' y' elsewhere => ?_⟩
    simp only [get]
    split
    case isTrue inRow' =>
      have otherIndex : y * screen.width + x ≠ y' * screen.width + x' := by
        rw [Ne, index_eq_iff inRow inRow']
        exact fun same => elsewhere ⟨same.1.symm, same.2.symm⟩
      rw [Array.getElem?_modify, if_neg otherIndex]
    case isFalse =>
      rfl
  case isFalse =>
    exact .refl screen _

theorem changedIn_modify_of_has
    {area : Area}
    {x y : Nat}
    (inArea : area.Has x y) :
    (screen.modify x y change).ChangedIn screen area.Has :=
  (changedIn_modify screen change x y).mono fun _ _ ⟨sameColumn, sameRow⟩ =>
    sameColumn ▸ sameRow ▸ inArea

/-- A change of a cell is seen in its place. -/
theorem get_modify
    {screen : Screen}
    (isFull : screen.IsFull)
    {x y : Nat}
    (inScreen : screen.area.Has x y) :
    (screen.modify x y change).get x y = change (screen.get x y) := by
  obtain ⟨-, inRow, -, inColumn⟩ := inScreen
  simp only [area, Nat.zero_add] at inRow inColumn
  have inCells : y * screen.width + x < screen.cells.size :=
    isFull ▸ index_lt inRow inColumn
  simp [get, modify, inRow, inCells, Array.getElem_modify]

theorem changedIn_modifyRow (x y columns : Nat) :
    (screen.modifyRow x y columns change).ChangedIn screen
      (Area.mk x y columns 1).Has := by
  refine ChangedIn.foldl
    (fun i inColumns screen => changedIn_modify_of_has screen change ?_) screen
  rw [List.mem_range] at inColumns
  simp only [Area.Has]
  omega

theorem changedIn_modifyArea (area : Area) :
    (screen.modifyArea area change).ChangedIn screen area.Has := by
  refine ChangedIn.foldl (fun i inRows screen => ?_) screen
  refine (changedIn_modifyRow screen change _ _ _).mono fun x' y' isPlace => ?_
  rw [List.mem_range] at inRows
  simp only [Area.Has] at isPlace ⊢
  omega

theorem changedIn_style (area : Area) (style : Style) :
    (screen.style area style).ChangedIn screen area.Has :=
  changedIn_modifyArea screen _ area

/--
A place that one item of a drawing changes and no other one is changed just
once, because the items before and behind that one leave it alone.
-/
theorem get_foldl_of_mem
    {Item : Type}
    {step : Screen → Item → Screen}
    {places : Item → Nat → Nat → Prop}
    {items : List Item}
    (noDuplicates : items.Nodup)
    (each : ∀ other ∈ items, ∀ screen,
      (step screen other).ChangedIn screen (places other))
    {item : Item}
    (member : item ∈ items)
    {x y : Nat}
    (onlyItem : ∀ other ∈ items, places other x y → other = item)
    (changes : ∀ screen : Screen, screen.IsFull → screen.area.Has x y →
      (step screen item).get x y = change (screen.get x y))
    {screen : Screen}
    (isFull : screen.IsFull)
    (inScreen : screen.area.Has x y) :
    (items.foldl step screen).get x y = change (screen.get x y) := by
  obtain ⟨before, later, rfl⟩ := List.append_of_mem member
  obtain ⟨-, -, apart⟩ := List.nodup_append.mp noDuplicates
  have notLater : item ∉ later :=
    (List.nodup_cons.mp
      (noDuplicates.sublist (List.sublist_append_right _ _))).1
  have elsewhere (others : List Item)
      (among : ∀ other ∈ others, other ∈ before ++ item :: later)
      (noItem : item ∉ others) (screen : Screen) :
      (others.foldl step screen).ChangedIn screen fun x' y' =>
        ¬(x' = x ∧ y' = y) := by
    refine ChangedIn.foldl (fun other inOthers screen => ?_) screen
    refine (each other (among other inOthers) screen).mono
      fun x' y' isPlace => ?_
    rintro ⟨rfl, rfl⟩
    exact noItem (onlyItem other (among other inOthers) isPlace ▸ inOthers)
  have first := elsewhere before (fun _ => List.mem_append_left _)
    (fun inBefore => apart item inBefore item List.mem_cons_self rfl) screen
  have last := elsewhere later
    (fun _ inLater => List.mem_append_right _ (List.mem_cons_of_mem _ inLater))
      notLater
  have noPlace : ¬¬(x = x ∧ y = y) := not_not_intro ⟨rfl, rfl⟩
  rw [List.foldl_append, List.foldl_cons, (last _).get_eq x y noPlace,
    changes _ (first.isFull_iff.mpr isFull) (first.area_eq ▸ inScreen),
    first.get_eq x y noPlace]

theorem get_modifyArea
    {screen : Screen}
    (isFull : screen.IsFull)
    {area : Area}
    {x y : Nat}
    (inArea : area.Has x y)
    (inScreen : screen.area.Has x y) :
    (screen.modifyArea area change).get x y = change (screen.get x y) := by
  obtain ⟨fromLeft, toRight, fromTop, toBottom⟩ := inArea
  unfold modifyArea
  refine get_foldl_of_mem change List.nodup_range
    (fun row _ screen =>
      changedIn_modifyRow screen change area.x (area.y + row) area.width)
    (List.mem_range.mpr (show y - area.y < area.height by omega)) ?rowOnly ?row
      isFull inScreen
  case rowOnly =>
    intro row _ isPlace
    simp only [Area.Has] at isPlace
    omega
  case row =>
    intro screen isFull inScreen
    unfold modifyRow
    refine get_foldl_of_mem change List.nodup_range
      (fun column _ screen =>
        changedIn_modify screen change (area.x + column) _)
      (List.mem_range.mpr (show x - area.x < area.width by omega)) ?cellOnly
        ?cell isFull inScreen
    case cellOnly =>
      intro column _ isPlace
      omega
    case cell =>
      intro screen isFull inScreen
      rw [Nat.add_sub_cancel' fromLeft, Nat.add_sub_cancel' fromTop]
      exact get_modify change isFull inScreen

end Modifying

/-- Two screens of one size that show the same in every place are the same. -/
theorem ext_of_get
    {first second : Screen}
    (isFull : first.IsFull)
    (isFull' : second.IsFull)
    (sameWidth : first.width = second.width)
    (sameHeight : first.height = second.height)
    (sameCells : ∀ x y, first.get x y = second.get x y) :
    first = second := by
  obtain ⟨width, height, cells⟩ := first
  obtain ⟨_, _, cells'⟩ := second
  obtain rfl : width = _ := sameWidth
  obtain rfl : height = _ := sameHeight
  simp only [IsFull] at isFull isFull'
  refine congrArg (Screen.mk width height)
    (Array.ext (isFull.trans isFull'.symm) ?_)
  intro index inCells inCells'
  have someColumn : 0 < width :=
    Nat.pos_of_mul_pos_right (Nat.zero_lt_of_lt (isFull ▸ inCells))
  have sameCell := sameCells (index % width) (index / width)
  simpa [get, Nat.mod_lt _ someColumn, Nat.div_add_mod', inCells, inCells']
    using sameCell

end Screen

end Storyboard.Display
