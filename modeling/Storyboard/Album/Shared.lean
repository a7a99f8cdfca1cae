import Storyboard.Album.Operation

namespace Storyboard

/-!
# Shared albums

A shared album is an album behind a lock that its clients take by turns.  A turn
is a run of operations that no other client interrupts.  A turn can be broken
off between two operations; the lock is given back all the same, but it is
poisoned, and from then on it says so to everyone who takes it.  As no operation
is broken off itself, the album behind a poisoned lock is as good as any.
-/

/-- What one client does while no other one has the album. -/
structure Turn where
  operations : List Operation
  /-- How many operations come before the turn is broken off, if it is. -/
  brokenOffAfter : Option Nat := none
deriving Repr, DecidableEq

namespace Turn

/-- Whether a turn is broken off. -/
def isBrokenOff (turn : Turn) : Bool :=
  turn.brokenOffAfter.isSome

/-- The operations that a turn completes. -/
def completed (turn : Turn) : List Operation :=
  match turn.brokenOffAfter with
  | none => turn.operations
  | some count => turn.operations.take count

end Turn

/-- An album behind a lock, and whether the lock is poisoned. -/
structure SharedAlbum where
  album : Album
  poisoned : Bool := false

namespace SharedAlbum

/-- Take the lock; a poisoned one gives the album out as an error. -/
def lock (shared : SharedAlbum) : Except Album Album :=
  if shared.poisoned then .error shared.album else .ok shared.album

/-- The album that the lock gives out, poisoned or not. -/
def locked (shared : SharedAlbum) : Album :=
  match shared.lock with
  | .ok album => album
  | .error album => album

/-- Take a turn; once one has been broken off, the lock stays poisoned. -/
def takeTurn (clock : Clock) (shared : SharedAlbum) (turn : Turn) :
    Change SharedAlbum (List Answer) :=
  let performed := shared.locked.performAll clock turn.completed
  ⟨performed.answer, ⟨performed.after, shared.poisoned || turn.isBrokenOff⟩⟩

end SharedAlbum

end Storyboard
