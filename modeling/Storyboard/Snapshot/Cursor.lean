import Storyboard.Snapshot.Archive

namespace Storyboard

/-!
# The cursor

A cursor is a position in an archive.  It steps only to positions that hold a
snapshot, but it stays where it is when the archive is cleared under it.
-/

/-- A position in an archive. -/
structure Cursor where
  position : Nat := 0
deriving Repr, DecidableEq

namespace Cursor

/-- The snapshot under the cursor. -/
def current? (cursor : Cursor) (archive : Archive) : Option Snapshot :=
  archive.get? cursor.position

/--
Move by a number of positions; the answer says whether there was a place to go.
-/
def step
    (cursor : Cursor)
    (archive : Archive)
    (distance : Int) : Change Cursor Bool :=
  let target := cursor.position + distance
  if 0 ≤ target ∧ target < archive.size then
    ⟨true, ⟨target.toNat⟩⟩
  else
    ⟨false, cursor⟩

/-- The first position, even of an empty archive. -/
def first : Cursor :=
  ⟨0⟩

/-- The last position of an archive, or the first one if it is empty. -/
def last (archive : Archive) : Cursor :=
  ⟨archive.size - 1⟩

/--
Move to the snapshot whose id has a text; the answer says whether there is one.
-/
def jumpTo
    (cursor : Cursor)
    (archive : Archive)
    (text : String) : Change Cursor Bool :=
  match archive.ids.findIdx? (·.text = text) with
  | some position => ⟨true, ⟨position⟩⟩
  | none => ⟨false, cursor⟩

end Cursor

end Storyboard
