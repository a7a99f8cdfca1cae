import Storyboard.Proofs.Report.DescribedLines
import Storyboard.Viewer.DetailsPane

namespace Storyboard.Viewer

open Display

/-!
# The details tell what the report tells

The details of a snapshot have the lines of its description behind a swatch or
an indent, and the first lines in other words.  A name that went on in another
line would shift all lines below it, so this rests on the texts of a snapshot
being lines.
-/

section Shapes

/--
The three lines of a shape, its name behind a swatch in the shade of its color.
-/
def swatchedLines (shape : Shape) : List Line :=
  let shade := shape.color.shade
  [[⟨"■ ", .colored (.rgb shade.red shade.green shade.blue)⟩,
      ⟨"Name: " ++ shape.name, (Style.colored Palette.shapeName).strong⟩],
    [⟨"  " ++ ("Type: " ++ shape.kind.word), .plain⟩],
    [⟨"  " ++ (shape.outline ++ ", Color: " ++ shape.color.text), .plain⟩]]

theorem shapeLines_eq
    {shape : Shape}
    (named : Text.IsLine shape.name) :
    shapeLines shape = swatchedLines shape := by
  rw [shapeLines, Shape.lines_describe named]
  rfl

/-- The characters of a line behind its first two. -/
def textBehindPrefix (line : Line) : String :=
  .ofList (line.text.toList.drop 2)

theorem textBehindPrefix_eq
    {line : Line}
    {first text : String}
    (isText : line.text = first ++ text)
    (twoCharacters : first.toList.length = 2) :
    textBehindPrefix line = text := by
  rw [textBehindPrefix, isText, String.toList_append,
    List.drop_left' twoCharacters, String.ofList_toList]

theorem map_textBehindPrefix_swatchedLines (shape : Shape) :
    (swatchedLines shape).map textBehindPrefix = shape.describedLines := by
  have swatched (first text : String) (style textStyle : Style) :
      Line.text [⟨first, style⟩, ⟨text, textStyle⟩] = first ++ text := by
    simp [Line.text]
  have indented (text : String) (style : Style) :
      Line.text [⟨text, style⟩] = text := by
    simp [Line.text]
  rw [swatchedLines, List.map_cons, List.map_cons, List.map_singleton,
    textBehindPrefix_eq (swatched _ _ _ _) rfl,
    textBehindPrefix_eq (indented _ _) rfl,
    textBehindPrefix_eq (indented _ _) rfl]
  rfl

end Shapes

section Details

variable
  {snapshot : Snapshot}
  (lined : snapshot.Lined)

include lined

/-- Behind the head, the details have the lines of every shape. -/
theorem drop_detailLines (someShape : snapshot.shapes ≠ []) :
    (detailLines snapshot).drop 4 = snapshot.shapes.flatMap swatchedLines := by
  have notEmpty : snapshot.shapes.isEmpty = false := by simpa using someShape
  have sameLines : snapshot.shapes.flatMap shapeLines =
      snapshot.shapes.flatMap swatchedLines :=
    List.flatMap_congr fun shape member =>
      shapeLines_eq (lined.names shape member)
  simp only [detailLines, notEmpty, Bool.false_eq_true, if_false, sameLines]
  rfl

theorem drop_lines_describe :
    (Text.lines snapshot.describe).drop 4 =
      snapshot.shapes.flatMap Shape.describedLines := by
  rw [Snapshot.lines_describe lined]
  rfl

theorem length_detailLines :
    (detailLines snapshot).length = 4 + max 1 (3 * snapshot.shapes.length) := by
  by_cases noShape : snapshot.shapes = []
  · simp [detailLines, noShape]
  · have shapeCount : (snapshot.shapes.flatMap swatchedLines).length =
        3 * snapshot.shapes.length := by
      simp [List.length_flatMap, swatchedLines, Nat.mul_comm]
    have whole := congrArg List.length (drop_detailLines lined noShape)
    have some := List.length_pos_iff.mpr noShape
    rw [List.length_drop, shapeCount] at whole
    omega

end Details

/--
The details of a snapshot that scripts leave tell the same as its description:
the same id, timestamp and description in the first three lines, and from the
fifth line on the same lines, three for each shape, behind two characters that
are a swatch in the shade of the shape in front of its name and spaces in front
of the rest.
-/
theorem detailLines_tell_description
    (clock : Clock)
    (sources : List String) :
    ∀ snapshot ∈ (Script.runAll clock .empty sources).archive.snapshots.toList,
      let details := detailLines snapshot
      let report := Text.lines snapshot.describe
      (snapshot.shapes ≠ [] →
        (details.drop 4).map textBehindPrefix = report.drop 4 ∧
          details.drop 4 = snapshot.shapes.flatMap swatchedLines) ∧
        report.drop 4 = snapshot.shapes.flatMap Shape.describedLines ∧
        details.length = 4 + max 1 (3 * snapshot.shapes.length) ∧
        (details.take 3).map Line.text =
          ["ID: " ++ snapshot.id.text, "Taken: " ++ snapshot.timestamp,
            "Description: " ++ snapshot.description] ∧
        report.take 3 =
          ["Snapshot ID: " ++ snapshot.id.text,
            "Timestamp: " ++ snapshot.timestamp,
            "Description: " ++ snapshot.description] := by
  intro snapshot member details report
  have lined := Script.lined_of_mem member
  have reportLines := drop_lines_describe lined
  refine ⟨fun someShape => ?shapes, reportLines, length_detailLines lined,
    ?details, ?report⟩
  case shapes =>
    have detailsLines := drop_detailLines lined someShape
    refine ⟨?_, detailsLines⟩
    rw [reportLines, detailsLines, List.map_flatMap]
    exact List.flatMap_congr fun shape _ =>
      map_textBehindPrefix_swatchedLines shape
  case details =>
    simp [details, detailLines, Line.text]
  case report =>
    simp only [report, Snapshot.lines_describe lined]
    rfl

/-- The details of a single oval. -/
theorem detailLines_tell_description_of_oval :
    let clock : Clock := fun _ => ⟨2024, 2, 29, 12, 0, 0, 0⟩
    let source := "shape Dot oval 1 2 3 4 5 6 7\nsnapshot first\n"
    ∃ snapshot ∈ (Script.runAll clock .empty [source]).archive.snapshots.toList,
      snapshot.shapes ≠ [] ∧
        ((detailLines snapshot).drop 4).map textBehindPrefix =
          (Text.lines snapshot.describe).drop 4 ∧
        (detailLines snapshot).length =
          4 + max 1 (3 * snapshot.shapes.length) := by
  intro clock source
  have taken : ∃ snapshot ∈
      (Script.runAll clock .empty [source]).archive.snapshots.toList,
      snapshot.shapes ≠ [] := by
    decide +kernel
  obtain ⟨snapshot, member, someShape⟩ := taken
  obtain ⟨shapes, -, length, -⟩ :=
    detailLines_tell_description clock [source] snapshot member
  exact ⟨snapshot, member, someShape, (shapes someShape).1, length⟩

end Storyboard.Viewer
