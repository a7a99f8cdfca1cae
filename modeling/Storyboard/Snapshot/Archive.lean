import Std.Data.ExtTreeMap.Lemmas
import Storyboard.Snapshot.Basic

namespace Storyboard

/-!
# The archive

The archive keeps snapshots in the order in which they arrived, their ids
beside them, and an index from the text of an id to its position.  Sequence
numbers are never reused, not even after the archive has been cleared.

Every issued id takes one clock reading.  The first sequence number is one, so
the reading for an id is the one before its sequence number.
-/

/--
Snapshots with their ids, an index over the id texts, and the next sequence
number.
-/
structure Archive where
  snapshots : Array Snapshot := #[]
  ids : Array SnapshotId := #[]
  index : Std.ExtTreeMap String Nat := ∅
  nextSequence : Nat := 1

namespace Archive

/-- An archive that has issued no id yet. -/
def empty : Archive := {}

/--
An issued id and the timestamp of the clock reading that it was made from.
-/
structure Issued where
  id : SnapshotId
  timestamp : String
deriving Repr, DecidableEq

/-- How many snapshots an archive holds. -/
def size (archive : Archive) : Nat :=
  archive.snapshots.size

/-- Whether some snapshot of the archive has an id of this text. -/
def holds (archive : Archive) (text : String) : Bool :=
  archive.index.contains text

/-- Issue the next id. -/
def issue (clock : Clock) (archive : Archive) : Change Archive Issued :=
  let instant := clock (archive.nextSequence - 1)
  ⟨⟨.issuedAt archive.nextSequence instant, instant.timestamp⟩,
    { archive with nextSequence := archive.nextSequence + 1 }⟩

/--
Issue ids until one is free.

The archive holds one text fewer than there are attempts and all issued texts
differ, so the last attempt needs no test.
-/
def issueFree (clock : Clock) : Nat → Archive → Change Archive Issued
  | 0, archive => issue clock archive
  | attempts + 1, archive =>
      let issued := issue clock archive
      if archive.holds issued.answer.id.text then
        issueFree clock attempts issued.after
      else
        issued

/-- Put a snapshot at the end. -/
def push (archive : Archive) (snapshot : Snapshot) : Archive :=
  { archive with
    snapshots := archive.snapshots.push snapshot
    ids := archive.ids.push snapshot.id
    index := archive.index.insert snapshot.id.text archive.size }

/-- Record shapes under the next free id. -/
def capture
    (clock : Clock)
    (archive : Archive)
    (description : String)
    (shapes : List Shape) :
    Change Archive SnapshotId :=
  let issued := issueFree clock archive.size archive
  let snapshot : Snapshot :=
    ⟨issued.answer.id, issued.answer.timestamp, description, shapes⟩
  ⟨snapshot.id, issued.after.push snapshot⟩

/-- Add a snapshot that was made elsewhere, unless its id is taken. -/
def append (archive : Archive) (snapshot : Snapshot) :
    Change Archive (Except Refusal Unit) :=
  if archive.holds snapshot.id.text then
    ⟨.error (.idTaken snapshot.id.text), archive⟩
  else
    ⟨.ok (), archive.push snapshot⟩

/-- Forget all snapshots; sequence numbers go on where they were. -/
def clear (archive : Archive) : Archive :=
  { nextSequence := archive.nextSequence }

/-- The snapshot at a position. -/
def get? (archive : Archive) (position : Nat) : Option Snapshot :=
  archive.snapshots[position]?

/-- The snapshot whose id has a text. -/
def find? (archive : Archive) (text : String) : Option Snapshot :=
  archive.index[text]?.bind archive.get?

/-- The snapshot whose id has a text, refusing a text that no id has. -/
def require (archive : Archive) (text : String) : Except Refusal Snapshot :=
  match archive.find? text with
  | some snapshot => .ok snapshot
  | none => .error (.noSnapshot text)

/-- The ids and the next sequence number on one line, for diagnosis. -/
def diagnosis (archive : Archive) : String :=
  let entries := archive.ids.toList.map fun id =>
    s!"SnapshotId \x7b seq: {id.sequence}, text: \"{id.text}\" \x7d"
  "SnapshotArchive \x7b ids: [" ++ ", ".intercalate entries ++
    s!"], next_seq: {archive.nextSequence} \x7d"

end Archive

end Storyboard
