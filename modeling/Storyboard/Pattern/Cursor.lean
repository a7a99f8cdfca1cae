import Storyboard.Pattern.Fault

namespace Storyboard.Pattern

/-!
# Reading a pattern from left to right

A cursor stands between what has been read of a pattern and what has not.  Where
blanks are to be ignored, white space and comments up to the end of a line are
passed over between signs.
-/

/-- What is left of a pattern, and where it begins. -/
structure Cursor where
  rest : List Char
  position : Position := {}
  /-- Whether blanks and comments are passed over. -/
  ignoresBlanks : Bool := false
deriving Repr, DecidableEq

/-- A step that reads some of a pattern. -/
abbrev Reading := StateT Cursor (Except Fault)

namespace Cursor

/-- The cursor behind the next character. -/
def next (cursor : Cursor) : Cursor :=
  match cursor.rest with
  | [] => cursor
  | c :: rest => { cursor with rest, position := cursor.position.after c }

/--
What is left behind blanks and comments, and whether the reading is within a
comment.
-/
def afterBlanks
    (inComment : Bool)
    (position : Position) :
    List Char → Position × List Char
  | [] => (position, [])
  | c :: rest =>
      if inComment then
        afterBlanks (c ≠ '\n') (position.after c) rest
      else if Text.isBlank c || c = '#' then
        afterBlanks (c = '#') (position.after c) rest
      else
        (position, c :: rest)

/-- The cursor behind blanks, where they are ignored. -/
def skipped (cursor : Cursor) : Cursor :=
  if cursor.ignoresBlanks then
    let (position, rest) := afterBlanks false cursor.position cursor.rest
    { cursor with position, rest }
  else
    cursor

/--
The next but one character, blanks left out where they are ignored.

A single sign of a comment is left out as well, but not the comment behind it.
-/
def second? (cursor : Cursor) : Option Char :=
  let following := cursor.rest.tail
  if cursor.ignoresBlanks then
    match following.dropWhile Text.isBlank with
    | '#' :: rest => (rest.dropWhile Text.isBlank).head?.or following.head?
    | rest => rest.head?.or following.head?
  else
    following.head?

end Cursor

namespace Reading

/-- Where the reading has come. -/
def position : Reading Position :=
  return (← get).position

/-- Whether the pattern has ended. -/
def atEnd : Reading Bool :=
  return (← get).rest.isEmpty

/-- The next character, if there is one. -/
def char? : Reading (Option Char) :=
  return (← get).rest.head?

/-- Stop with a fault about a piece. -/
def fail (span : Span) (kind : FaultKind) : Reading α :=
  throw ⟨span, kind⟩

/-- Stop with a fault about the place that was reached. -/
def failHere (kind : FaultKind) : Reading α := do
  fail (.empty (← position)) kind

/-- The piece that holds the next character. -/
def charSpan : Reading Span := do
  let cursor ← get
  return ⟨cursor.position, cursor.next.position⟩

/-- The piece from a place to where the reading has come. -/
def spanFrom (start : Position) : Reading Span :=
  return ⟨start, ← position⟩

/-- Pass the next character and say whether there is another one. -/
def pass : Reading Bool := do
  modify Cursor.next
  return !(← atEnd)

/-- Pass blanks, where they are ignored. -/
def skipBlanks : Reading Unit :=
  modify Cursor.skipped

/-- Pass the next character and blanks and say whether there is another one. -/
def passBlanks : Reading Bool := do
  modify Cursor.next
  skipBlanks
  return !(← atEnd)

/-- Pass a text if it comes next. -/
def passText (text : String) : Reading Bool := do
  let found := text.toList.isPrefixOf (← get).rest
  if found then
    modify fun cursor => text.toList.foldl (fun cursor _ => cursor.next) cursor
  return found

/-- Collect characters of a kind; at most a number of them are passed. -/
def collectAtMost
    (wanted : Char → Bool)
    (pass : Reading Bool) :
    Nat → Reading (List Char)
  | 0 => return []
  | limit + 1 => do
      match ← char? with
      | none => return []
      | some c =>
          if wanted c then
            let _ ← pass
            return c :: (← collectAtMost wanted pass limit)
          else
            return []

/-- Collect characters of a kind up to the first other one. -/
def collect
    (wanted : Char → Bool)
    (pass : Reading Bool) :
    Reading (List Char) := do
  collectAtMost wanted pass (← get).rest.length

end Reading

end Storyboard.Pattern
