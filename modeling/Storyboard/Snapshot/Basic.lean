import Storyboard.Shape.Basic
import Storyboard.Snapshot.Instant

namespace Storyboard

/-!
# Snapshots

A snapshot holds the shapes of a moment under an id.  The id is made of the
clock reading and of a sequence number; its text alone decides whether two ids
are equal, while the order goes by the sequence number first.
-/

/-- The identity of a snapshot. -/
structure SnapshotId where
  sequence : Nat
  text : String
deriving Repr, DecidableEq

namespace SnapshotId

/-- The id with a sequence number that is issued at an instant. -/
def issuedAt (sequence : Nat) (instant : Instant) : SnapshotId :=
  ⟨sequence, instant.idText ++ "#" ++ Instant.padded 4 sequence⟩

/-- Whether two ids are equal, which their texts decide. -/
def same (first second : SnapshotId) : Bool :=
  first.text == second.text

/-- The order of ids: by sequence number, then by text. -/
def order (first second : SnapshotId) : Ordering :=
  (compare first.sequence second.sequence).then (compare first.text second.text)

end SnapshotId

/-- The shapes of the scene at one moment. -/
structure Snapshot where
  id : SnapshotId
  timestamp : String
  description : String
  shapes : List Shape
deriving Repr, DecidableEq

namespace Snapshot

/-- The lines that describe a snapshot, the shapes last, each line ended. -/
def describe (snapshot : Snapshot) : String :=
  s!"Snapshot ID: {snapshot.id.text}\nTimestamp: {snapshot.timestamp}\n" ++
    s!"Description: {snapshot.description}\nShape Information:\n" ++
    String.join (snapshot.shapes.map fun shape => shape.describe ++ "\n")

end Snapshot

end Storyboard
