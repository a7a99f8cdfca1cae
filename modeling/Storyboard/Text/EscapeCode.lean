namespace Storyboard.Text

/-!
# Escape codes

Terminals take some sequences of characters for codes instead of showing them.
A code begins with the escape character; what comes next says how far it goes.
A plain text is what is left without codes and control characters.  White space
that a terminal would obey in the middle of a code ends the code and stays.
-/

/-- How far a code has come. -/
inductive CodePart where
  /-- Outside of codes. -/
  | outside
  /-- Behind the escape character. -/
  | escape
  | escapeIntermediate
  /-- At the beginning of a control sequence. -/
  | control
  | controlParameter
  | controlIntermediate
  | controlIgnored
  /-- At the beginning of a device string. -/
  | device
  | deviceParameter
  | deviceIntermediate
  | deviceIgnored
  | deviceContent
  /-- In a command for the terminal itself, which a bell ends. -/
  | command
  /-- In a string that no terminal uses. -/
  | unusedString
deriving Repr, DecidableEq

namespace CodePart

/-- Whether control characters are obeyed there. -/
def obeysControls : CodePart → Bool
  | outside | escape | escapeIntermediate | control | controlParameter
  | controlIntermediate | controlIgnored => true
  | device | deviceParameter | deviceIntermediate | deviceIgnored
  | deviceContent | command | unusedString => false

/-- Whether a character is white space that moves the cursor of a terminal. -/
def movesCursor (c : Char) : Bool :=
  c = '\t' ∨ c = '\n' ∨ c = '\x0c' ∨ c = '\r'

/-- Whether a character is shown there. -/
def shows (part : CodePart) (c : Char) : Bool :=
  (part = outside && 0x20 ≤ c.toNat && c.toNat ≠ 0x7F) ||
    (part.obeysControls && movesCursor c)

/--
Whether a byte of the encoding of a character is the one that ends a string.
-/
def holdsTerminator (c : Char) : Bool :=
  (String.singleton c).toUTF8.toList.contains 0x9C

/-- The part that begins with a character behind the escape character. -/
def afterEscape (c : Char) : CodePart :=
  if c.toNat < 0x20 ∨ 0x7F ≤ c.toNat then escape
  else if c.toNat < 0x30 then escapeIntermediate
  else if c = '[' then control
  else if c = ']' then command
  else if c = 'P' then device
  else if c = 'X' ∨ c = '^' ∨ c = '_' then unusedString
  else outside

/--
The part after a character of a control sequence.

Signs before the parameters are read with them; behind them they spoil the code.
-/
def afterControl (part : CodePart) (c : Char) : CodePart :=
  if c.toNat < 0x20 ∨ 0x7F ≤ c.toNat then part
  else if 0x40 ≤ c.toNat then outside
  else if part = controlIgnored then controlIgnored
  else if c.toNat < 0x30 then controlIntermediate
  else if part = controlIntermediate then controlIgnored
  else if c.toNat < 0x3C ∨ part = control then controlParameter
  else controlIgnored

/-- The part after a character at the beginning of a device string. -/
def afterDevice (part : CodePart) (c : Char) : CodePart :=
  if c.toNat < 0x20 ∨ 0x7F ≤ c.toNat then part
  else if 0x40 ≤ c.toNat then deviceContent
  else if c.toNat < 0x30 then deviceIntermediate
  else if part = deviceIntermediate ∨ c = ':' then deviceIgnored
  else if c.toNat < 0x3C ∨ part = device then deviceParameter
  else deviceIgnored

/-- The part after a character that is not shown. -/
def after (part : CodePart) (c : Char) : CodePart :=
  if c = '\x1b' then escape
  else if c = '\x18' ∨ c = '\x1a' then outside
  else
    match part with
    | outside => outside
    | escape => afterEscape c
    | escapeIntermediate =>
        if 0x30 ≤ c.toNat ∧ c.toNat < 0x7F then outside else part
    | control | controlParameter | controlIntermediate
    | controlIgnored => afterControl part c
    | device | deviceParameter | deviceIntermediate => afterDevice part c
    | deviceIgnored | deviceContent
    | unusedString => if holdsTerminator c then outside else part
    | command => if c = '\x07' then outside else part

end CodePart

/--
The characters of a text that are not part of codes, from a part of a code on.
-/
def plainFrom (part : CodePart) : List Char → List Char
  | [] => []
  | c :: rest =>
      if part.shows c then
        c :: plainFrom .outside rest
      else
        plainFrom (part.after c) rest

/-- A text without escape codes and control characters. -/
def plain (text : String) : String :=
  .ofList (plainFrom .outside text.toList)

/-- A text of characters that are shown has no codes in it. -/
theorem plainFrom_eq_self
    {text : List Char}
    (shown : ∀ c ∈ text, CodePart.outside.shows c = true) :
    plainFrom .outside text = text := by
  induction text with
  | nil => rfl
  | cons c rest inductionHypothesis =>
      have first := shown c (by simp)
      simp [plainFrom, first,
        inductionHypothesis fun c member => shown c (by simp [member])]

end Storyboard.Text
