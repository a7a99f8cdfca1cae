import Storyboard.Pattern.Fault
import Storyboard.Pattern.Matcher
import Storyboard.Text.Blank

namespace Storyboard.Pattern

/-!
# The meaning of patterns

The meaning of a part depends on the flags that apply to it.  Where characters
of all scripts are meant, classes that would need a table of them and the cases
of letters are not available; where only bytes are meant, no class may reach
beyond ASCII, since it could split a character.
-/

/-- The flags that apply to a part of a pattern. -/
structure Modes where
  ignoreCase : Bool := false
  multiLine : Bool := false
  dotMatchesNewline : Bool := false
  unicode : Bool := true
  returnEndsLine : Bool := false
deriving Repr, DecidableEq

/-- The flags that apply after some were set. -/
def Modes.set (modes : Modes) (settings : Settings) : Modes where
  ignoreCase := (settings.find? .ignoreCase).getD modes.ignoreCase
  multiLine := (settings.find? .multiLine).getD modes.multiLine
  dotMatchesNewline :=
    (settings.find? .dotMatchesNewline).getD modes.dotMatchesNewline
  unicode := (settings.find? .unicode).getD modes.unicode
  returnEndsLine := (settings.find? .returnEndsLine).getD modes.returnEndsLine

/-- A set with both cases of its letters if case is ignored. -/
def folded
    (modes : Modes)
    (span : Span)
    (set : CharSet) :
    Except Fault CharSet :=
  if !modes.ignoreCase then .ok set
  else if !modes.unicode then .ok set.withBothCases
  else if set.isEmpty then .ok set
  else .error ⟨span, .caseUnavailable⟩

/--
What a class with brackets around it has, or all else if it is turned around.
-/
def enclosed (modes : Modes) (span : Span) (negated : Bool) (set : CharSet) :
    Except Fault CharSet := do
  let set ← folded modes span set
  if !negated then
    return set
  else if modes.unicode then
    return set.complement
  else
    throw ⟨span, .splitsCharacters⟩

/-- The characters of a class with a letter of its own. -/
def letterSet
    (modes : Modes)
    (span : Span)
    (negated : Bool)
    (kind : LetterClass) :
    Except Fault CharSet :=
  if modes.unicode then .error ⟨span, .letterClassUnavailable⟩
  else if negated then .error ⟨span, .splitsCharacters⟩
  else .ok (.ofLetter kind)

/-- A name of a property in lower case without what is not told apart. -/
def Property.plainName (property : Property) : List Char :=
  let characters := property.name.toList
  let bare := if Text.lowered (characters.take 2) = ['i', 's']
    then characters.drop 2 else characters
  let kept :=
    bare.filter fun c => c ≠ ' ' && c ≠ '_' && c ≠ '-' && c.toNat < 0x80
  Text.lowered kept

/-- The fault of a class by a property, of which none is available. -/
def propertyFault (modes : Modes) (span : Span) (property : Property) : Fault :=
  if !modes.unicode then ⟨span, .characterNotAllowed⟩
  else if property.value = none ∧
      property.plainName ∈ [['c', 'f'], ['s', 'c'], ['l', 'c']] then
    ⟨span, .unknownPropertyValue⟩
  else ⟨span, .unknownProperty⟩

/-- The fault of a byte beyond ASCII, if a literal is one. -/
def byteFault? (modes : Modes) (literal : Literal) : Option Fault :=
  if !modes.unicode && literal.isByte && 0x80 ≤ literal.char.toNat then
    some ⟨literal.span, .splitsCharacters⟩
  else
    none

/-- A character inside a class. -/
def classChar (modes : Modes) (literal : Literal) : Except Fault Char :=
  match byteFault? modes literal with
  | some fault => .error fault
  | none =>
      if !modes.unicode && 0x80 ≤ literal.char.toNat then
        .error ⟨literal.span, .characterNotAllowed⟩
      else
        .ok literal.char

mutual

/-- The characters of a class. -/
def ClassNode.chars (modes : Modes) : ClassNode → Except Fault CharSet
  | .empty _ => .ok .empty
  | .literal char => return .single (← classChar modes char)
  | .range _ first last =>
      return .range (← classChar modes first) (← classChar modes last)
  | .named span negated kind => enclosed modes span negated (.ofName kind)
  | .letter span negated kind => letterSet modes span negated kind
  | .property span _ query => .error (propertyFault modes span query)
  | .bracketed span negated content => do
      enclosed modes span negated (← content.chars modes)
  | .union _ items => ClassNode.unionOf modes items
  | .combined _ combination left right => do
      let first ← left.chars modes
      let second ← right.chars modes
      let second ← folded modes right.span second
      let first ← folded modes left.span first
      return .combine combination first second

/-- The characters of any of several classes. -/
def ClassNode.unionOf (modes : Modes) : List ClassNode → Except Fault CharSet
  | [] => .ok .empty
  | item :: rest =>
      return (← item.chars modes).union (← ClassNode.unionOf modes rest)

end

/-- The characters that a dot matches. -/
def dotSet (modes : Modes) : CharSet :=
  if modes.dotMatchesNewline then CharSet.empty.complement
  else if modes.returnEndsLine
    then (CharSet.ofRanges [(0xA, 0xA), (0xD, 0xD)]).complement
  else (CharSet.single '\n').complement

/-- What an assertion looks for. -/
def lookOf (modes : Modes) : Assertion → Look
  | .lineStart =>
      if modes.multiLine then .lineStart modes.returnEndsLine else .textStart
  | .lineEnd =>
      if modes.multiLine then .lineEnd modes.returnEndsLine else .textEnd
  | .textStart => .textStart
  | .textEnd => .textEnd
  | .wordBoundary => if modes.unicode then .anyScript else .wordBoundary
  | .noWordBoundary => if modes.unicode then .anyScript else .noWordBoundary
  | .wordStart => if modes.unicode then .anyScript else .wordStart
  | .wordEnd => if modes.unicode then .anyScript else .wordEnd
  | .wordStartHalf => if modes.unicode then .anyScript else .wordStartHalf
  | .wordEndHalf => if modes.unicode then .anyScript else .wordEndHalf

/-- What a single character matches. -/
def literalMatcher (modes : Modes) (literal : Literal) : Except Fault Matcher :=
  match byteFault? modes literal with
  | some fault => .error fault
  | none => return .chars (← folded modes literal.span (.single literal.char))

mutual

/-- What a part of a pattern matches, and the flags that apply behind it. -/
def Node.meaning (modes : Modes) : Node → Except Fault (Matcher × Modes)
  | .empty _ => .ok (.nothing, modes)
  | .flags _ settings => .ok (.nothing, modes.set settings)
  | .literal char => return (← literalMatcher modes char, modes)
  | .anyChar span =>
      if modes.unicode then .ok (.chars (dotSet modes), modes)
      else .error ⟨span, .splitsCharacters⟩
  | .assertion _ condition => .ok (.look (lookOf modes condition), modes)
  | .letter span negated kind =>
      return (.chars (← letterSet modes span negated kind), modes)
  | .property span _ query => .error (propertyFault modes span query)
  | .bracketed span negated content => do
      return (.chars (← enclosed modes span negated (← content.chars modes)),
        modes)
  | .repetition _ least most node => do
      let (part, after) ← node.meaning modes
      return (.repetition least most part, after)
  | .group _ captures settings node => do
      let (part, _) ← node.meaning (modes.set settings)
      return (if captures then .captured part else part, modes)
  | .alternatives _ nodes => Node.anyMeaning modes nodes
  | .sequence _ nodes => Node.allMeaning modes nodes

/-- What parts beside one another match. -/
def Node.allMeaning (modes : Modes) : List Node → Except Fault (Matcher × Modes)
  | [] => .ok (.nothing, modes)
  | [node] => node.meaning modes
  | node :: rest => do
      let (first, modes) ← node.meaning modes
      let (second, modes) ← Node.allMeaning modes rest
      return (.both first second, modes)

/-- What any of several alternatives matches. -/
def Node.anyMeaning (modes : Modes) : List Node → Except Fault (Matcher × Modes)
  | [] => .ok (.chars .empty, modes)
  | [node] => node.meaning modes
  | node :: rest => do
      let (first, modes) ← node.meaning modes
      let (second, modes) ← Node.anyMeaning modes rest
      return (.either first second, modes)

end

end Storyboard.Pattern
