import Storyboard.Text.Break

namespace Storyboard.Text

/-!
# Graphemes

A grapheme is what a reader takes for one character: a character with the marks
on it, a syllable, consonants that are joined, a flag made of two letters, or
pictures joined to one.  Whether two neighbours belong together depends on their
classes and on a short memory of what stands before them.
-/

/-- How far the current grapheme has come towards a joined consonant. -/
inductive Conjunct where
  | none
  /-- A consonant, perhaps with marks on it. -/
  | consonant
  /-- A consonant behind which a linker waits for another one. -/
  | linked
deriving Repr, DecidableEq

/-- How far the current grapheme has come towards a joined picture. -/
inductive Joining where
  | none
  /-- A picture, perhaps with marks on it. -/
  | picture
  /-- A picture behind which a joiner waits for another one. -/
  | joined
deriving Repr, DecidableEq

/-- What is remembered of the current grapheme. -/
structure GraphemeMemory where
  last : BreakClass
  conjunct : Conjunct := .none
  joining : Joining := .none
  /-- Whether the last character is a flag letter that waits for another one. -/
  halfFlag : Bool := false
deriving Repr, DecidableEq

namespace GraphemeMemory

/-- Whether the next character belongs to the current grapheme. -/
def takes (memory : GraphemeMemory) (next : BreakClass) : Bool :=
  match memory.last, next with
  | .carriageReturn, .lineFeed => true
  | .carriageReturn, _ | .lineFeed, _ | .control, _ => false
  | _, .carriageReturn | _, .lineFeed | _, .control => false
  | _, .extender | _, .linker | _, .nonJoiner | _, .joiner | _, .spacer => true
  | .prepended, _ => true
  | .leadingLetter, .leadingLetter | .leadingLetter, .vowelLetter
  | .leadingLetter, .openSyllable | .leadingLetter, .closedSyllable => true
  | .openSyllable, .vowelLetter | .openSyllable, .trailingLetter => true
  | .vowelLetter, .vowelLetter | .vowelLetter, .trailingLetter => true
  | .closedSyllable, .trailingLetter | .trailingLetter, .trailingLetter => true
  | _, .consonant => memory.conjunct = .linked
  | _, .picture => memory.joining = .joined
  | .flagLetter, .flagLetter => memory.halfFlag
  | _, _ => false

/-- What is known of consonants after another character. -/
def conjunctAfter (conjunct : Conjunct) (next : BreakClass) : Conjunct :=
  match next, conjunct with
  | .consonant, _ => .consonant
  | .linker, .consonant | .linker, .linked => .linked
  | .extender, conjunct | .joiner, conjunct => conjunct
  | _, _ => .none

/-- What is known of pictures after another character. -/
def joiningAfter (joining : Joining) (next : BreakClass) : Joining :=
  match next, joining with
  | .picture, _ => .picture
  | .extender, .picture | .linker, .picture | .nonJoiner, .picture => .picture
  | .joiner, .picture => .joined
  | _, _ => .none

/-- What is remembered after another character of the same grapheme. -/
def after (memory : GraphemeMemory) (next : BreakClass) : GraphemeMemory where
  last := next
  conjunct := conjunctAfter memory.conjunct next
  joining := joiningAfter memory.joining next
  halfFlag := next = .flagLetter ∧ !memory.halfFlag

/-- What is remembered after the first character of a grapheme. -/
def start (first : BreakClass) : GraphemeMemory where
  last := first
  conjunct := conjunctAfter .none first
  joining := joiningAfter .none first
  halfFlag := first = .flagLetter

end GraphemeMemory

/--
The graphemes of a text, given the current one with its last character first.
-/
def graphemesFrom
    (memory : GraphemeMemory)
    (current : List Char) :
    List Char → List (List Char)
  | [] => [current.reverse]
  | c :: rest =>
      let next := breakClass c
      if memory.takes next then
        graphemesFrom (memory.after next) (c :: current) rest
      else
        current.reverse :: graphemesFrom (.start next) [c] rest

/-- The graphemes of a text in order. -/
def graphemes : List Char → List (List Char)
  | [] => []
  | first :: rest => graphemesFrom (.start (breakClass first)) [first] rest

/-- No character is lost or moved while graphemes are put together. -/
theorem flatten_graphemesFrom
    (memory : GraphemeMemory)
    (current text : List Char) :
    (graphemesFrom memory current text).flatten = current.reverse ++ text := by
  induction text generalizing memory current with
  | nil =>
      simp [graphemesFrom]
  | cons c rest inductionHypothesis =>
      simp only [graphemesFrom]
      split <;> simp [inductionHypothesis]

/-- The graphemes of a text make up the text. -/
theorem flatten_graphemes (text : List Char) :
    (graphemes text).flatten = text := by
  cases text with
  | nil => rfl
  | cons first rest => simp [graphemes, flatten_graphemesFrom]

end Storyboard.Text
