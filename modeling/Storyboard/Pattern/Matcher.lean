import Storyboard.Pattern.CharSet

namespace Storyboard.Pattern

/-!
# What patterns match

A matcher leads from places in a text to the places behind what it matches.  It
takes a set of places at once, so that no way through a text is tried twice.  A
repetition has led everywhere that it can after as many rounds as the text has
places.
-/

/-- What must hold at a place of a text for a matcher to go on. -/
inductive Look where
  | textStart
  | textEnd
  | lineStart (returnEndsLine : Bool)
  | lineEnd (returnEndsLine : Bool)
  | wordBoundary
  | noWordBoundary
  | wordStart
  | wordEnd
  | wordStartHalf
  | wordEndHalf
  /-- What would ask for words of all scripts, which is not supported. -/
  | anyScript
deriving Repr, DecidableEq

/-- The meaning of a pattern. -/
inductive Matcher where
  | nothing
  | chars (set : CharSet)
  | look (look : Look)
  | both (first second : Matcher)
  | either (first second : Matcher)
  | repeated (least : Nat) (most : Option Nat) (part : Matcher)
  | captured (part : Matcher)
deriving Repr

namespace Look

/-- Whether a character is one of an ASCII word. -/
def isWordChar (c : Char) : Bool :=
  c.isAlphanum || c = '_'

/-- Whether it holds between two characters, or at an end of the text. -/
def holds (look : Look) (before behind : Option Char) : Bool :=
  let wordBefore := before.any isWordChar
  let wordBehind := behind.any isWordChar
  match look with
  | textStart => before.isNone
  | textEnd => behind.isNone
  | lineStart false => before.isNone || before = some '\n'
  | lineEnd false => behind.isNone || behind = some '\n'
  | lineStart true =>
      before.isNone || before = some '\n' ||
        (before = some '\r' && behind ≠ some '\n')
  | lineEnd true =>
      behind.isNone || behind = some '\r' ||
        (behind = some '\n' && before ≠ some '\r')
  | wordBoundary => wordBefore ≠ wordBehind
  | noWordBoundary => wordBefore = wordBehind
  | wordStart => !wordBefore && wordBehind
  | wordEnd => wordBefore && !wordBehind
  | wordStartHalf => !wordBefore
  | wordEndHalf => !wordBehind
  | anyScript => false

end Look

/--
For every place of a text, its end included, whether it is in a set of places.
-/
abbrev Places := List Bool

namespace Places

/-- The places of either of two sets. -/
def union (a b : Places) : Places :=
  List.zipWith (· || ·) a b

/-- The places behind the characters of a set that stand at the given places. -/
def behind (set : CharSet) (text : List Char) (places : Places) : Places :=
  false :: List.zipWith (fun place c => place && set.contains c) places text

/--
The given places at which something holds, the first one being behind a
character.
-/
def keep (look : Look) (before : Option Char) : List Char → Places → Places
  | c :: text, place :: places =>
      (place && look.holds before (some c)) :: keep look (some c) text places
  | [], place :: _ => [place && look.holds before none]
  | _, [] => []

/--
The places after a step was repeated a number of times, or after which it
changes nothing.
-/
def iterate (step : Places → Places) : Nat → Places → Places
  | 0, places => places
  | count + 1, places =>
      let next := step places
      if next = places then places else iterate step count next

end Places

namespace Matcher

/-- The places behind what is matched at the given places of a text. -/
def ends (text : List Char) : Matcher → Places → Places
  | nothing, places => places
  | chars set, places => places.behind set text
  | look condition, places => places.keep condition none text
  | both first second, places =>
      let middle := first.ends text places
      if middle.any id then second.ends text middle else middle
  | either first second, places =>
      (first.ends text places).union (second.ends text places)
  | repeated least most part, places =>
      let enough := text.length + 1
      let required := Places.iterate (part.ends text) (min least enough) places
      let further := (most.map (· - least)).getD enough
      Places.iterate (fun places => places.union (part.ends text places))
        (min further enough)
        required
  | captured part, places => part.ends text places

/-- Whether something in a text is matched. -/
def occursIn (matcher : Matcher) (text : List Char) : Bool :=
  (matcher.ends text (List.replicate (text.length + 1) true)).any id

/-- Whether only the empty text can be matched. -/
def isEmptyOnly : Matcher → Bool
  | nothing | look _ => true
  | chars _ => false
  | both first second
  | either first second => first.isEmptyOnly && second.isEmptyOnly
  | repeated _ most part => most = some 0 || part.isEmptyOnly
  | captured part => part.isEmptyOnly

/--
A repetition in its simplest form: of nothing but the empty text once is enough.
-/
def repetition (least : Nat) (most : Option Nat) (part : Matcher) : Matcher :=
  let least := if part.isEmptyOnly then min least 1 else least
  let most := if part.isEmptyOnly then some (min (most.getD 1) 1) else most
  if most = some 0 then nothing
  else if least = 1 ∧ most = some 1 then part
  else repeated least most part

/-- Whether a condition is looked for that is not supported. -/
def looksForAnyScript : Matcher → Bool
  | nothing | chars _ => false
  | look condition => condition = .anyScript
  | both first second | either first second =>
      first.looksForAnyScript || second.looksForAnyScript
  | repeated _ _ part | captured part => part.looksForAnyScript

end Matcher

end Storyboard.Pattern
