namespace Storyboard.Pattern

/-!
# Written patterns

A pattern describes texts.  This module has what a pattern looks like after it
was read: a tree whose nodes know where in the pattern they stand.
-/

/-- A place in a pattern. -/
structure Position where
  line : Nat := 1
  column : Nat := 1
deriving Repr, DecidableEq

/-- The place behind a character. -/
def Position.after (position : Position) (c : Char) : Position :=
  if c = '\n' then
    ⟨position.line + 1, 1⟩
  else
    { position with column := position.column + 1 }

/-- A piece of a pattern, up to before the place where it stops. -/
structure Span where
  start : Position
  stop : Position
deriving Repr, DecidableEq

/-- The piece with nothing in it at a place. -/
def Span.empty (position : Position) : Span :=
  ⟨position, position⟩

/-- What a flag changes for the rest of its group. -/
inductive Flag where
  | ignoreCase
  | multiLine
  | dotMatchesNewline
  | swapGreed
  | unicode
  | returnEndsLine
  | ignoreBlanks
deriving Repr, DecidableEq

/-- Flags, each switched on or off. -/
abbrev Settings := List (Flag × Bool)

/-- What flags say about one of them, if they say anything. -/
def Settings.find? (settings : Settings) (flag : Flag) : Option Bool :=
  (List.find? (fun (named, _) => named = flag) settings).map Prod.snd

/-- A class of characters with a letter of its own. -/
inductive LetterClass where
  | digit
  | space
  | word
deriving Repr, DecidableEq

/-- A class of ASCII characters with a name. -/
inductive NamedClass where
  | alnum
  | alpha
  | ascii
  | blank
  | cntrl
  | digit
  | graph
  | lower
  | print
  | punct
  | space
  | upper
  | word
  | xdigit
deriving Repr, DecidableEq

/-- The class of a name. -/
def NamedClass.ofName? : String → Option NamedClass
  | "alnum" => some alnum
  | "alpha" => some alpha
  | "ascii" => some ascii
  | "blank" => some blank
  | "cntrl" => some cntrl
  | "digit" => some digit
  | "graph" => some graph
  | "lower" => some lower
  | "print" => some print
  | "punct" => some punct
  | "space" => some space
  | "upper" => some upper
  | "word" => some word
  | "xdigit" => some xdigit
  | _ => none

/-- What must hold at a place of a text. -/
inductive Assertion where
  | lineStart
  | lineEnd
  | textStart
  | textEnd
  | wordBoundary
  | noWordBoundary
  | wordStart
  | wordEnd
  | wordStartHalf
  | wordEndHalf
deriving Repr, DecidableEq

/-- A class of characters by a property: its name and perhaps a value. -/
structure Property where
  name : String
  value : Option String := none
deriving Repr, DecidableEq

/-- A single character of a pattern. -/
structure Literal where
  span : Span
  char : Char
  /-- Whether it is written as a byte of two hexadecimal digits. -/
  isByte : Bool := false
deriving Repr, DecidableEq

/-- How two classes of characters are combined. -/
inductive Combination where
  | intersection
  | difference
  | symmetricDifference
deriving Repr, DecidableEq

/-- What stands between brackets. -/
inductive ClassNode where
  | empty (span : Span)
  | literal (literal : Literal)
  | range (span : Span) (first last : Literal)
  | named (span : Span) (negated : Bool) (kind : NamedClass)
  | letter (span : Span) (negated : Bool) (kind : LetterClass)
  | property (span : Span) (negated : Bool) (property : Property)
  | bracketed (span : Span) (negated : Bool) (content : ClassNode)
  | union (span : Span) (items : List ClassNode)
  | combined (span : Span) (combination : Combination) (left right : ClassNode)
deriving Repr

/-- Where a part of a class stands. -/
def ClassNode.span : ClassNode → Span
  | empty span | range span .. | named span .. | letter span
      .. | property span ..
  | bracketed span .. | union span .. | combined span .. => span
  | .literal char => char.span

/-- A part of a pattern. -/
inductive Node where
  | empty (span : Span)
  | flags (span : Span) (settings : Settings)
  | literal (literal : Literal)
  | anyChar (span : Span)
  | assertion (span : Span) (assertion : Assertion)
  | letter (span : Span) (negated : Bool) (kind : LetterClass)
  | property (span : Span) (negated : Bool) (property : Property)
  | bracketed (span : Span) (negated : Bool) (content : ClassNode)
  | repetition (span : Span) (least : Nat) (most : Option Nat) (node : Node)
  | group (span : Span) (captures : Bool) (settings : Settings) (node : Node)
  | alternatives (span : Span) (nodes : List Node)
  | sequence (span : Span) (nodes : List Node)
deriving Repr

/-- Where a part of a pattern stands. -/
def Node.span : Node → Span
  | empty span | flags span _ | anyChar span | assertion span _ | letter span ..
  | property span .. | bracketed span .. | repetition span .. | group span ..
  | alternatives span _ | sequence span _ => span
  | .literal char => char.span

end Storyboard.Pattern
