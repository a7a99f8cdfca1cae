import Storyboard.Pattern.Node
import Storyboard.Text.Blank

namespace Storyboard.Pattern

/-!
# Faults of patterns

A fault says what is wrong with a pattern and where.  It is shown under the
pattern, with carets below the characters that it is about.
-/

/-- What is wrong with a pattern. -/
inductive FaultKind where
  | escapeInClass
  | rangeOrder
  | rangeEnd
  | unclosedClass
  | noNumber
  | badNumber
  | hexEmpty
  | hexNoCharacter
  | hexDigit
  | unfinishedEscape
  | unknownEscape
  | danglingNegation
  | repeatedFlag (first : Span)
  | repeatedNegation (first : Span)
  | unfinishedFlags
  | unknownFlag
  | repeatedName (first : Span)
  | emptyName
  | nameCharacter
  | unfinishedName
  | unclosedGroup
  | unopenedGroup
  | tooDeep (limit : Nat)
  | countOrder
  | noCount
  | unclosedCount
  | nothingToRepeat
  | unclosedBoundary
  | unknownBoundary
  | unfinishedBoundary
  | propertySyntax
  | backReference
  | lookAround
  | characterNotAllowed
  | splitsCharacters
  | unknownProperty
  | unknownPropertyValue
  | letterClassUnavailable
  | caseUnavailable
deriving Repr, DecidableEq

namespace FaultKind

/-- The text shown for a kind of fault. -/
def message : FaultKind → String
  | escapeInClass => "invalid escape sequence found in character class"
  | rangeOrder => "invalid character class range, the start must be <= the end"
  | rangeEnd => "invalid range boundary, must be a literal"
  | unclosedClass => "unclosed character class"
  | noNumber => "decimal literal empty"
  | badNumber => "decimal literal invalid"
  | hexEmpty => "hexadecimal literal empty"
  | hexNoCharacter => "hexadecimal literal is not a Unicode scalar value"
  | hexDigit => "invalid hexadecimal digit"
  | unfinishedEscape =>
      "incomplete escape sequence, reached end of pattern prematurely"
  | unknownEscape => "unrecognized escape sequence"
  | danglingNegation => "dangling flag negation operator"
  | repeatedFlag _ => "duplicate flag"
  | repeatedNegation _ => "flag negation operator repeated"
  | unfinishedFlags => "expected flag but got end of regex"
  | unknownFlag => "unrecognized flag"
  | repeatedName _ => "duplicate capture group name"
  | emptyName => "empty capture group name"
  | nameCharacter => "invalid capture group character"
  | unfinishedName => "unclosed capture group name"
  | unclosedGroup => "unclosed group"
  | unopenedGroup => "unopened group"
  | tooDeep limit =>
      s!"exceed the maximum number of nested parentheses/brackets ({limit})"
  | countOrder => "invalid repetition count range, the start must be <= the end"
  | noCount => "repetition quantifier expects a valid decimal"
  | unclosedCount => "unclosed counted repetition"
  | nothingToRepeat => "repetition operator missing expression"
  | unclosedBoundary =>
      "special word boundary assertion is either unclosed or contains an invalid character"
  | unknownBoundary =>
      "unrecognized special word boundary assertion, valid choices are: " ++
        "start, end, start-half or end-half"
  | unfinishedBoundary =>
      "found either the beginning of a special word boundary or a bounded repetition on a \\b " ++
        "with an opening brace, but no closing brace"
  | propertySyntax => "invalid Unicode character class"
  | backReference => "backreferences are not supported"
  | lookAround =>
      "look-around, including look-ahead and look-behind, is not supported"
  | characterNotAllowed => "Unicode not allowed here"
  | splitsCharacters => "pattern can match invalid UTF-8"
  | unknownProperty => "Unicode property not found"
  | unknownPropertyValue => "Unicode property value not found"
  | letterClassUnavailable =>
      "Unicode-aware Perl class not found (make sure the unicode-perl feature is enabled)"
  | caseUnavailable =>
      "Unicode-aware case insensitivity matching is not available " ++
        "(make sure the unicode-case feature is enabled)"

/-- The earlier piece that a kind of fault is about as well. -/
def first? : FaultKind → Option Span
  | repeatedFlag first | repeatedNegation first
  | repeatedName first => some first
  | _ => none

end FaultKind

/-- What is wrong with a pattern, and where. -/
structure Fault where
  span : Span
  kind : FaultKind
deriving Repr, DecidableEq

namespace Fault

/-- The pieces that a fault is about in the order of the pattern. -/
def spans (fault : Fault) : List Span :=
  fault.kind.first?.toList ++ [fault.span]

/-- The carets below the pieces in a line that begins at a column. -/
def carets : Nat → List Span → List Char
  | _, [] => []
  | column, span :: rest =>
      let blanks := span.start.column - column
      let marks := max 1 (span.stop.column - span.start.column)
      List.replicate blanks ' ' ++ List.replicate marks '^' ++
        carets (column + blanks + marks) rest

/--
A line of a pattern behind a margin, and a line of carets if a piece is within
it.
-/
def shownLine (margin : String) (spans : List Span) (line : String) : String :=
  let below :=
    if spans.isEmpty then
      ""
    else
      .ofList (List.replicate margin.length ' ' ++ carets 1 spans) ++ "\n"
  margin ++ line ++ "\n" ++ below

/-- The number of a line in front of it, as wide as the greatest number. -/
def lineMargin (width number : Nat) : String :=
  let digits := toString number
  .ofList (List.replicate (width - digits.length) ' ') ++ digits ++ ": "

/-- The lines of a pattern, each with the carets below it. -/
def shownLines
    (margin : Nat → String)
    (spans : List Span)
    (pattern : String) : String :=
  String.join <| (Text.lines pattern).mapIdx fun i line =>
    shownLine (margin (i + 1)) (spans.filter (·.start.line = i + 1)) line

/-- The note about a piece that goes over several lines. -/
def note (span : Span) : String :=
  s!"on line {span.start.line} (column {span.start.column}) " ++
    s!"through line {span.stop.line} (column {span.stop.column - 1})\n"

/-- The line above and below a pattern of several lines. -/
def divider : String :=
  .ofList (List.replicate 79 '~') ++ "\n"

/-- The text shown for a fault of a pattern. -/
def message (fault : Fault) (pattern : String) : String :=
  let (within, across) :=
    fault.spans.partition fun span => span.start.line = span.stop.line
  let cause := "error: " ++ fault.kind.message
  if pattern.contains '\n' then
    let count :=
      (Text.lines pattern).length + if pattern.endsWith "\n" then 1 else 0
    let margin :=
      if count ≤ 1 then fun _ => "    " else lineMargin (toString count).length
    "regex parse error:\n" ++ divider ++
      shownLines margin within pattern ++ divider ++
      String.join (across.map note) ++ cause
  else
    "regex parse error:\n" ++
      shownLines (fun _ => "    ") within pattern ++ cause

end Fault

end Storyboard.Pattern
