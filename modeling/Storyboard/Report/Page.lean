import Storyboard.Report.Drawing
import Storyboard.Snapshot.Archive

namespace Storyboard.Report

/-!
# The page

The page is one markup document with a section for every snapshot: its id, its
timestamp, its description and its shapes as vector graphics.  All of a user's
text passes through `Text.markup`.
-/

/-- The part of the page before the first section. -/
def pageHead : String :=
  "<!DOCTYPE html>\n<html>\n<head>\n<meta charset=\"utf-8\">\n" ++
    "<title>Shapes Photo Album</title>\n</head>\n<body>\n"

/-- What stands in place of the sections when there are none. -/
def pageEmpty : String :=
  "<p>No snapshots were taken.</p>\n"

/-- The part of the page after the last section. -/
def pageFoot : String :=
  "</body>\n</html>\n"

/-- The section of a snapshot. -/
def snapshotSection (sheet : Sheet) (snapshot : Snapshot) : String :=
  "<div class=\"snapshot\" style=\"background-color:lightgrey;\">\n" ++
    s!"<h2>{Text.markup snapshot.id.text}</h2>\n" ++
    s!"<p>Timestamp: {Text.markup snapshot.timestamp}</p>\n" ++
    s!"<p>Description: {Text.markup snapshot.description}</p>\n" ++
    "<svg" ++ field "width" (toString sheet.width) ++
      field "height" (toString sheet.height) ++
    field "xmlns" "http://www.w3.org/2000/svg" ++ ">\n" ++
    String.join
      (snapshot.shapes.map fun shape => element sheet shape ++ "\n") ++
    "</svg>\n</div>\n"

/-- The page of an archive. -/
def page (sheet : Sheet) (archive : Archive) : String :=
  let sections := archive.snapshots.toList.map (snapshotSection sheet)
  pageHead ++
    (if sections.isEmpty then pageEmpty else String.join sections) ++ pageFoot

end Storyboard.Report
