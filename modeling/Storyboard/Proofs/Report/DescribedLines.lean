import Storyboard.Proofs.Script.Listings
import Storyboard.Proofs.Snapshot.Naming

namespace Storyboard

/-!
# The lines that describe a snapshot

A snapshot is described in four lines and three more for each of its shapes.
These are found again as they are if each text in them is a line, and whatever
scripts leave is so: names are words of a line, a description is trimmed and all
other texts are made of numbers.
-/

open Text (IsLine isLine_of_notMem)

theorem isLine_tenths (value : Float) : IsLine (Number.tenths value) :=
  isLine_of_notMem (Number.notMem_tenths (by decide) (by decide) value)
    (Number.notMem_tenths (by decide) (by decide) value)

theorem Color.isLine_text (color : Color) : IsLine color.text := by
  have opening : IsLine "(" := by decide
  have comma : IsLine ", " := by decide
  have closing : IsLine ")" := by decide
  exact opening |>.append (isLine_tenths color.red) |>.append comma
    |>.append (isLine_tenths color.green) |>.append comma
    |>.append (isLine_tenths color.blue) |>.append closing

namespace Shape

theorem isLine_outline (shape : Shape) : IsLine shape.outline := by
  have noNewline (value : Float) := (isLine_tenths value).newline_notMem
  have noReturn (value : Float) : '\r' ∉ (Number.tenths value).toList :=
    Number.notMem_tenths (by decide) (by decide) value
  unfold outline
  cases shape.extent
  all_goals
    refine isLine_of_notMem ?_ ?_
    · simp [toString, noNewline]
    · simp [toString, noReturn]

/-- The three lines that describe a shape. -/
def describedLines (shape : Shape) : List String :=
  ["Name: " ++ shape.name, "Type: " ++ shape.kind.word,
    shape.outline ++ ", Color: " ++ shape.color.text]

theorem describe_eq_joinLines (shape : Shape) :
    shape.describe = Text.joinLines shape.describedLines := by
  have label : "\nType: ".toList = "\n".toList ++ "Type: ".toList := rfl
  apply String.toList_injective
  simp only [describe, describedLines, Text.joinLines, toString,
    String.intercalate_cons_cons, String.intercalate_singleton,
    String.toList_append, label, List.append_assoc]

theorem describe_append_newline (shape : Shape) :
    shape.describe ++ "\n" =
      String.join (shape.describedLines.map (· ++ "\n")) := by
  have someLine : shape.describedLines ≠ [] := List.cons_ne_nil _ _
  apply String.toList_injective
  rw [describe_eq_joinLines, Text.toList_joinLines_append someLine,
    String.toList_join, List.flatMap_map]

variable
  {shape : Shape}
  (named : IsLine shape.name)

include named

theorem forall_mem_describedLines :
    ∀ line ∈ shape.describedLines, IsLine line := by
  have word : IsLine shape.kind.word := by cases shape.kind <;> decide
  simp only [describedLines, List.forall_mem_cons, List.not_mem_nil,
    false_imp_iff, implies_true, and_true]
  exact ⟨.append (by decide) named, .append (by decide) word,
    shape.isLine_outline.append (by decide) |>.append shape.color.isLine_text⟩

/-- A shape is described in three lines. -/
theorem lines_describe : Text.lines shape.describe = shape.describedLines := by
  have notEmpty :
      shape.outline ++ ", Color: " ++ shape.color.text ≠ "" := by simp
  have areLines := forall_mem_describedLines named
  have divided : shape.describedLines =
      ["Name: " ++ shape.name, "Type: " ++ shape.kind.word] ++
        [shape.outline ++ ", Color: " ++ shape.color.text] := rfl
  rw [divided, List.forall_mem_append] at areLines
  rw [describe_eq_joinLines, divided, Text.lines_joinLines areLines.1
    (areLines.2 _ List.mem_cons_self).newline_notMem, if_neg notEmpty]

end Shape

namespace Snapshot

/-- The first four lines that describe a snapshot. -/
def describedHeader (snapshot : Snapshot) : List String :=
  ["Snapshot ID: " ++ snapshot.id.text, "Timestamp: " ++ snapshot.timestamp,
    "Description: " ++ snapshot.description, "Shape Information:"]

theorem describe_eq_join (snapshot : Snapshot) :
    snapshot.describe =
      String.join ((snapshot.describedHeader ++
        snapshot.shapes.flatMap Shape.describedLines).map (· ++ "\n")) := by
  have timeLabel :
      "\nTimestamp: ".toList = "\n".toList ++ "Timestamp: ".toList := rfl
  have shapeLabel : "\nShape Information:\n".toList =
      "\n".toList ++ ("Shape Information:".toList ++ "\n".toList) := rfl
  have shapes :
      (snapshot.shapes.map fun shape => shape.describe ++ "\n").flatMap
        String.toList =
        ((snapshot.shapes.flatMap Shape.describedLines).map (· ++ "\n")).flatMap
          String.toList := by
    simp only [Shape.describe_append_newline, String.toList_join,
      List.map_flatMap, List.flatMap_assoc, List.flatMap_map]
  unfold describe describedHeader
  apply String.toList_injective
  simp only [toString, timeLabel, shapeLabel, String.toList_append,
    String.toList_join, shapes, List.map_append, List.map_cons, List.map_nil,
    List.flatMap_cons, List.flatMap_nil, List.flatMap_append, List.append_assoc,
    List.append_nil]

/-- Every text of a snapshot is a line. -/
structure Lined (snapshot : Snapshot) : Prop where
  id : IsLine snapshot.id.text
  timestamp : IsLine snapshot.timestamp
  description : IsLine snapshot.description
  names : ∀ shape ∈ snapshot.shapes, IsLine shape.name

variable
  {snapshot : Snapshot}
  (lined : snapshot.Lined)

include lined

theorem forall_mem_describedHeader :
    ∀ line ∈ snapshot.describedHeader, IsLine line := by
  simp only [describedHeader, List.forall_mem_cons, List.not_mem_nil,
    false_imp_iff, implies_true, and_true]
  exact ⟨.append (by decide) lined.id, .append (by decide) lined.timestamp,
    .append (by decide) lined.description, by decide⟩

/-- A snapshot is described in four lines and three for each shape. -/
theorem lines_describe :
    Text.lines snapshot.describe =
      snapshot.describedHeader ++
        snapshot.shapes.flatMap Shape.describedLines := by
  rw [describe_eq_join, Text.lines_ended]
  rw [List.forall_mem_append, List.forall_mem_flatMap]
  exact ⟨forall_mem_describedHeader lined, fun shape member =>
    Shape.forall_mem_describedLines (lined.names shape member)⟩

end Snapshot

/-- Every text of what scripts leave is a line. -/
theorem Script.lined_of_mem
    {clock : Clock}
    {sources : List String}
    {snapshot : Snapshot}
    (member :
      snapshot ∈ (runAll clock .empty sources).archive.snapshots.toList) :
    snapshot.Lined := by
  rcases exists_leftBehind?_of_mem member with ⟨position, left⟩
  rcases exists_of_leftBehind?_eq_some left with
    ⟨text, -, sequence, instant, captured, isId, isTimestamp, -⟩
  have unbroken := unbroken_of_mem member
  have names := isWord_name_of_mem member
  refine ⟨?id, ?timestamp, ?description,
    fun shape isShape => (names shape isShape).isLine⟩
  case id =>
    have trimmed := SnapshotId.isTrimmed_text_issuedAt sequence instant
    exact (isId ▸ trimmed).isLine unbroken.id_unbroken
  case timestamp =>
    rw [isTimestamp]
    exact isLine_of_notMem
      (instant.notMem_idText_timestamp (by decide) (by decide)).2
      (instant.notMem_idText_timestamp (by decide) (by decide)).2
  case description =>
    obtain ⟨keyword, behind, -, isBehind⟩ :=
      exists_behind_of_capturedIn? captured
    have trimmed : Text.IsTrimmed snapshot.description.toList :=
      isBehind ▸ Text.isTrimmed_trimChars behind
    exact trimmed.isLine unbroken.description_unbroken

end Storyboard
