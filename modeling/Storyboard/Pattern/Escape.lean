import Storyboard.Pattern.Cursor

namespace Storyboard.Pattern

/-!
# Escapes

A backslash gives the character behind it another meaning: a sign stands for
itself, a letter for a character that is hard to type, a class of characters or
an assertion.  Digits are refused, since they would refer back to a group.
-/

/-- What can stand alone or between brackets. -/
inductive Atom where
  | literal (literal : Literal)
  | anyChar (span : Span)
  | assertion (span : Span) (assertion : Assertion)
  | letter (span : Span) (negated : Bool) (kind : LetterClass)
  | property (span : Span) (negated : Bool) (property : Property)
deriving Repr

namespace Atom

/-- Where an atom stands. -/
def span : Atom → Span
  | literal char => char.span
  | anyChar span | assertion span _ | letter span .. | property span .. => span

/-- The part of a pattern that an atom is. -/
def toNode : Atom → Node
  | literal char => .literal char
  | anyChar span => .anyChar span
  | .assertion span condition => .assertion span condition
  | letter span negated kind => .letter span negated kind
  | .property span negated query => .property span negated query

end Atom

/-- Whether a character stands for itself behind a backslash. -/
def isEscapable (c : Char) : Bool :=
  c.toNat < 0x80 && !c.isAlphanum && c ≠ '<' && c ≠ '>'

/-- Whether a character is a hexadecimal digit. -/
def isHexDigit (c : Char) : Bool :=
  c.isDigit || ('a' ≤ c && c ≤ 'f') || ('A' ≤ c && c ≤ 'F')

/-- The value of a hexadecimal digit. -/
def hexDigitValue (c : Char) : Nat :=
  if c.isDigit then c.toNat - '0'.toNat else c.toLower.toNat - 'a'.toNat + 10

/-- The character that hexadecimal digits denote, if there is one. -/
def hexChar? (digits : List Char) : Option Char :=
  let code := digits.foldl (fun code digit => 16 * code + hexDigitValue digit) 0
  if digits = [] then none
  else if code.isValidChar then some (Char.ofNat code)
  else none

namespace Reading

/-- Read a number of hexadecimal digits, the next of which is there. -/
def hexDigits : Nat → Reading (List Char)
  | 0 => return []
  | count + 1 => do
      match ← char? with
      | some digit =>
          if !isHexDigit digit then
            fail (← charSpan) .hexDigit
          let more ← passBlanks
          if count = 0 then
            return [digit]
          else if more then
            return digit :: (← hexDigits count)
          else
            failHere .unfinishedEscape
      | none => failHere .unfinishedEscape

/-- Read the character that a fixed number of hexadecimal digits denotes. -/
def fixedHex (escape : Position) (count : Nat) : Reading Atom := do
  let start ← position
  let digits ← hexDigits count
  match hexChar? digits with
  | some char =>
      return .literal { span := ← spanFrom escape, char, isByte := count = 2 }
  | none => fail (← spanFrom start) .hexNoCharacter

/-- Read the character that hexadecimal digits in braces denote. -/
def bracedHex (escape : Position) : Reading Atom := do
  let brace ← position
  let start := (← charSpan).stop
  let _ ← passBlanks
  let digits ← collect isHexDigit passBlanks
  match ← char? with
  | none => fail (← spanFrom brace) .unfinishedEscape
  | some c =>
      if c ≠ '\x7d' then
        fail (← charSpan) .hexDigit
      let stop ← position
      let _ ← passBlanks
      if digits.isEmpty then
        fail (← spanFrom brace) .hexEmpty
      match hexChar? digits with
      | some char => return .literal { span := ← spanFrom escape, char }
      | none => fail ⟨start, stop⟩ .hexNoCharacter

/--
Read a character that is written by its code, from the letter that begins it.
-/
def hexEscape (escape : Position) (count : Nat) : Reading Atom := do
  let _ ← passBlanks
  match ← char? with
  | none => failHere .unfinishedEscape
  | some '\x7b' => bracedHex escape
  | some _ => fixedHex escape count

/--
The parts of a text before and behind the first place of another one in it.
-/
def cut? (separator : List Char) : List Char → Option (List Char × List Char)
  | [] => none
  | c :: rest =>
      if separator.isPrefixOf (c :: rest) then
        some ([], (c :: rest).drop separator.length)
      else
        (cut? separator rest).map fun (before, behind) => (c :: before, behind)

/-- The property that is named in braces, perhaps with a value. -/
def namedProperty (text : List Char) : Property :=
  match (cut? ['!', '='] text).or ((cut? [':'] text).or (cut? ['='] text)) with
  | some (name, value) => ⟨.ofList name, some (.ofList value)⟩
  | none => ⟨.ofList text, none⟩

/-- Read a class by a property, from the letter that begins it. -/
def propertyEscape (escape : Position) (negated : Bool) : Reading Atom := do
  let _ ← passBlanks
  match ← char? with
  | some '\x7b' =>
      let _ ← passBlanks
      let text ← collect (· ≠ '\x7d') passBlanks
      if ← atEnd then
        failHere .unfinishedEscape
      let _ ← pass
      return .property (← spanFrom escape) negated (namedProperty text)
  | some '\\' => fail (← charSpan) .propertySyntax
  | some name =>
      let _ ← passBlanks
      return .property (← spanFrom escape) negated ⟨.singleton name, none⟩
  | none => failHere .unfinishedEscape

/-- Whether a character can stand in the name of a boundary. -/
def isBoundaryChar (c : Char) : Bool :=
  c.isAlpha || c = '-'

/-- The boundary of a name. -/
def boundary? : List Char → Option Assertion
  | ['s', 't', 'a', 'r', 't'] => some .wordStart
  | ['e', 'n', 'd'] => some .wordEnd
  | ['s', 't', 'a', 'r', 't', '-', 'h', 'a', 'l', 'f'] => some .wordStartHalf
  | ['e', 'n', 'd', '-', 'h', 'a', 'l', 'f'] => some .wordEndHalf
  | _ => none

/--
Read the name of a boundary in braces.

If no name can begin in the braces they are left for a count.
-/
def namedBoundary (escape : Position) : Reading Assertion := do
  let before ← get
  let brace := before.position
  if !(← passBlanks) then
    fail (← spanFrom escape) .unfinishedBoundary
  let start ← position
  if !(← char?).any isBoundaryChar then
    set before
    return .wordBoundary
  let name ← collect isBoundaryChar passBlanks
  if (← char?) ≠ some '\x7d' then
    fail (← spanFrom brace) .unclosedBoundary
  let stop ← position
  let _ ← pass
  match boundary? name with
  | some boundary => return boundary
  | none => fail ⟨start, stop⟩ .unknownBoundary

/-- The character that a letter behind a backslash stands for. -/
def letterChar? : Char → Option Char
  | 'a' => some '\x07'
  | 'f' => some '\x0c'
  | 't' => some '\t'
  | 'n' => some '\n'
  | 'r' => some '\r'
  | 'v' => some '\x0b'
  | _ => none

/-- The assertion that a letter or sign behind a backslash stands for. -/
def letterAssertion? : Char → Option Assertion
  | 'A' => some .textStart
  | 'z' => some .textEnd
  | 'b' => some .wordBoundary
  | 'B' => some .noWordBoundary
  | '<' => some .wordStart
  | '>' => some .wordEnd
  | _ => none

/--
The class that a letter behind a backslash stands for, and whether it is turned
around.
-/
def letterClass? : Char → Option (Bool × LetterClass)
  | 'd' => some (false, .digit)
  | 'D' => some (true, .digit)
  | 's' => some (false, .space)
  | 'S' => some (true, .space)
  | 'w' => some (false, .word)
  | 'W' => some (true, .word)
  | _ => none

/-- Read what a single character behind a backslash stands for. -/
def plainEscape (escape : Position) (c : Char) : Reading Atom := do
  let _ ← pass
  let span ← spanFrom escape
  if isEscapable c then
    return .literal { span, char := c }
  if let some char := letterChar? c then
    return .literal { span, char }
  if let some (negated, kind) := letterClass? c then
    return .letter span negated kind
  match letterAssertion? c with
  | some .wordBoundary =>
      if (← char?) = some '\x7b' then
        let boundary ← namedBoundary escape
        return .assertion (← spanFrom escape) boundary
      else
        return .assertion span .wordBoundary
  | some assertion => return .assertion span assertion
  | none => fail span .unknownEscape

/-- Read an escape from its backslash on. -/
def escape : Reading Atom := do
  let start ← position
  let _ ← pass
  match ← char? with
  | none => fail (← spanFrom start) .unfinishedEscape
  | some 'x' => hexEscape start 2
  | some 'u' => hexEscape start 4
  | some 'U' => hexEscape start 8
  | some 'p' => propertyEscape start false
  | some 'P' => propertyEscape start true
  | some c =>
      if c.isDigit then
        fail ⟨start, (← charSpan).stop⟩ .backReference
      else
        plainEscape start c

end Reading

end Storyboard.Pattern
