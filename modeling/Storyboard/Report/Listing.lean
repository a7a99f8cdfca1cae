import Storyboard.Snapshot.Archive

namespace Storyboard.Report

/-!
# The listing

The listing describes every snapshot of an archive in plain text, with an empty
line between one snapshot and the next.
-/

/-- The descriptions of all snapshots, oldest first. -/
def listing (archive : Archive) : String :=
  "\n".intercalate (archive.snapshots.toList.map Snapshot.describe)

end Storyboard.Report
