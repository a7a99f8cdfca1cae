import Storyboard.Pattern.Escape

namespace Storyboard.Pattern

/-!
# Classes between brackets

Between brackets stand characters, ranges, other classes and operators that
combine what stands on both of their sides, from left to right.  Classes inside
classes are kept on a stack until their bracket is closed.
-/

/-- Items of a class beside one another, the last one first. -/
structure Items where
  span : Span
  reversed : List ClassNode := []

namespace Items

/-- No items at a place. -/
def atPlace (position : Position) : Items :=
  ⟨.empty position, []⟩

/-- Items with another one behind them. -/
def push (items : Items) (item : ClassNode) : Items where
  span :=
    if items.reversed.isEmpty then
      item.span
    else
      ⟨items.span.start, item.span.stop⟩
  reversed := item :: items.reversed

/-- The class of what belongs to one of the items. -/
def toClass (items : Items) : ClassNode :=
  match items.reversed with
  | [] => .empty items.span
  | [item] => item
  | reversed => .union items.span reversed.reverse

end Items

/-- What waits for the end of a class. -/
inductive ClassFrame where
  /-- A class that was opened, and the items before it. -/
  | opened (before : Items) (span : Span) (negated : Bool)
  /-- An operator with what stands on its left side. -/
  | combining (combination : Combination) (left : ClassNode)

namespace Reading

/-- Pass dashes at the beginning of a class, each of which is an item. -/
def leadingDashes (opening : Position) : Nat → Items → Reading Items
  | 0, items => return items
  | limit + 1, items => do
      if (← char?) = some '-' then
        let item := ClassNode.literal { span := ← charSpan, char := '-' }
        if !(← passBlanks) then
          fail (.empty opening) .unclosedClass
        leadingDashes opening limit (items.push item)
      else
        return items

/-- Pass a character of a class that is not closed by the end of the pattern. -/
def passWithin (opening : Position) : Reading Unit := do
  let more ← passBlanks
  if !more then
    fail (← spanFrom opening) .unclosedClass

/--
Pass a sign at the beginning of a class if it comes next, and say whether it
does.
-/
def passSign (opening : Position) (sign : Char) : Reading Bool := do
  let found := (← char?) = some sign
  if found then
    passWithin opening
  return found

/-- Pass the opening of a class: its first items, and what waits for its end. -/
def openClass (before : Items) : Reading (Items × ClassFrame) := do
  let start ← position
  passWithin start
  let negated ← passSign start '^'
  let items ← leadingDashes start (← get).rest.length (.atPlace (← position))
  let item := ClassNode.literal { span := ← charSpan, char := ']' }
  let bracket ← if items.reversed.isEmpty then passSign start ']'
      else pure false
  return (if bracket then items.push item else items,
    .opened before (← spanFrom start) negated)

/-- Read a named class from its bracket on, if there is one. -/
def namedClass? : Reading (Option ClassNode) := do
  let before ← get
  let opened ← passText "[:"
  if !opened then
    return none
  let negated ← passText "^"
  let name ← collect (· ≠ ':') pass
  let closed ← passText ":]"
  match closed, NamedClass.ofName? (.ofList name) with
  | true, some kind =>
      return some (.named (← spanFrom before.position) negated kind)
  | _, _ =>
      set before
      return none

/-- Read a character or an escape between brackets. -/
def classAtom : Reading Atom := do
  match ← char? with
  | some '\\' => escape
  | some char =>
      let span ← charSpan
      let _ ← pass
      return .literal { span, char }
  | none => failHere .unclosedClass

/-- An atom as an item of a class. -/
def itemOf : Atom → Reading ClassNode
  | .literal char => return .literal char
  | .letter span negated kind => return .letter span negated kind
  | .property span negated named => return .property span negated named
  | .anyChar span | .assertion span _ => fail span .escapeInClass

/-- An atom as an end of a range. -/
def rangeEndOf : Atom → Reading Literal
  | .literal char => return char
  | other => fail other.span .rangeEnd

/-- The fault of a class that is not closed, about the innermost one. -/
def unclosedClass (frames : List ClassFrame) : Reading α := do
  let opening := frames.findSome? fun
    | .opened _ span _ => some span
    | .combining .. => none
  match opening with
  | some span => fail span .unclosedClass
  | none => failHere .unclosedClass

/-- Read an item or a range of a class. -/
def classItem (frames : List ClassFrame) : Reading ClassNode := do
  let first ← classAtom
  skipBlanks
  let cursor ← get
  match cursor.rest, cursor.second? with
  | [], _ => unclosedClass frames
  | '-' :: _, some ']' | '-' :: _, some '-' => itemOf first
  | '-' :: _, _ =>
      let more ← passBlanks
      if !more then
        unclosedClass frames
      let last ← classAtom
      let span : Span := ⟨first.span.start, last.span.stop⟩
      let low ← rangeEndOf first
      let high ← rangeEndOf last
      if high.char < low.char then
        fail span .rangeOrder
      return .range span low high
  | _, _ => itemOf first

/--
What an operator combines with a class on its right side, and the frames below
it.
-/
def combined (right : ClassNode) : List ClassFrame → ClassNode × List ClassFrame
  | .combining combination left :: frames =>
      (.combined ⟨left.span.start, right.span.stop⟩ combination left right,
        frames)
  | frames => (right, frames)

/-- The operator that comes next, if there is one. -/
def operator? : List Char → Option Combination
  | '&' :: '&' :: _ => some .intersection
  | '-' :: '-' :: _ => some .difference
  | '~' :: '~' :: _ => some .symmetricDifference
  | _ => none

/--
Pass the bracket that closes a class: the class, and what was open around it.
-/
def closeClass (items : Items) (frames : List ClassFrame) :
    Reading (Node × Option (Items × List ClassFrame)) := do
  let (content, frames) := combined items.toClass frames
  match frames with
  | .opened before span negated :: outer =>
      let _ ← pass
      let span ← spanFrom span.start
      let around :=
        if outer.isEmpty then none
        else some (before.push (.bracketed span negated content), outer)
      return (.bracketed span negated content, around)
  | _ => unclosedClass frames

/--
Read what stands in a class up to the bracket that closes the outermost one.
-/
def classContent : Nat → List ClassFrame → Items → Reading Node
  | 0, frames, _ => unclosedClass frames
  | limit + 1, frames, items => do
      skipBlanks
      let cursor ← get
      match cursor.rest with
      | [] => unclosedClass frames
      | '[' :: _ =>
          match ← namedClass? with
          | some item => classContent limit frames (items.push item)
          | none =>
              let (inner, frame) ← openClass items
              classContent limit (frame :: frames) inner
      | ']' :: _ =>
          match ← closeClass items frames with
          | (node, none) => return node
          | (_, some (items, frames)) => classContent limit frames items
      | rest =>
          match operator? rest with
          | some combination =>
              let _ ← pass
              let _ ← pass
              let (left, frames) := combined items.toClass frames
              classContent limit (.combining combination left :: frames)
                (.atPlace (← position))
          | none =>
              let item ← classItem frames
              classContent limit frames (items.push item)

/-- Read a class from its bracket on. -/
def bracketed : Reading Node := do
  let limit := (← get).rest.length
  let (items, frame) ← openClass (.atPlace (← position))
  classContent (limit + 1) [frame] items

end Reading

end Storyboard.Pattern
