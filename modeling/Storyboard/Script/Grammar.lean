import Storyboard.Number.Numeral
import Storyboard.Script.Fault

namespace Storyboard.Script

/-!
# The grammar of a line

A line is blank, a comment or a command.  The words after the keyword fill the
slots of its form from left to right, and the leftmost slot that cannot be
filled decides which problem is reported.
-/

/-- The value of a word in a slot. -/
def Slot.read (slot : Slot) (word : String) : Except Problem slot.Value :=
  let number : Except Problem Float :=
    match (Number.ofNumeral? word).filter Float.isFinite with
    | some value => .ok value
    | none => .error (.invalidNumber slot word)
  match slot with
  | .name => .ok word
  | .kind =>
      match Kind.ofWord? word with
      | some found => .ok found
      | none => .error (.unknownKind word)
  | .x | .y | .firstSize | .secondSize | .red | .green | .blue => number

/--
Fill slots with words from left to right; no word may be missing or left over.
-/
def fill (keyword : Keyword) :
    (slots : List Slot) → List String → Except Problem (Values slots)
  | [], [] => .ok ()
  | [], word :: _ => .error (.unexpectedArgument keyword word)
  | slot :: _, [] => .error (.missingArgument keyword slot)
  | slot :: slots, word :: words => do
      let value ← slot.read word
      let values ← fill keyword slots words
      return (value, values)

/-- The target that a word names, whatever the case of its ASCII letters. -/
def Target.ofWord? (word : String) : Option Target :=
  [snapshots, shapes, all].find? fun target =>
    target.word.toList = Text.lowered word.toList

/--
The target of a clear from the words after it; without a word it is the
snapshots.
-/
def readTarget : List String → Except Problem Target
  | [] => .ok .snapshots
  | word :: rest =>
      match Target.ofWord? word, rest with
      | none, _ => .error (.unknownTarget word)
      | some target, [] => .ok target
      | some _, extra :: _ => .error (.unexpectedArgument .clear extra)

/--
The description after a keyword of some length: what follows it, less the space
around.
-/
def description (keywordLength : Nat) (line : List Char) : String :=
  .ofList (Text.trimChars (line.drop keywordLength))

/-- The command of a trimmed line with a given first word. -/
def readCommand
    (line word : List Char)
    (arguments : List String) :
    Except Problem Command :=
  match Keyword.ofWord? word with
  | none => .error (.unknownCommand (.ofList word))
  | some (.form form) =>
      (fill (.form form) form.slots arguments).map form.command
  | some .snapshot => .ok (.snapshot (description word.length line))
  | some .clear => (readTarget arguments).map .clear

/--
What a line asks for: nothing if it is blank or starts with a number sign.
-/
def readLine (text : String) : Except Problem (Option Command) :=
  let line := Text.trimChars text.toList
  match Text.words line with
  | [] => .ok none
  | word :: arguments =>
      if word.head? = some '#' then
        .ok none
      else
        (readCommand line word (arguments.map .ofList)).map some

/-- What a numbered line asks for, or the fault in it. -/
def SourceLine.read (line : SourceLine) : Except Fault (Option Command) :=
  match readLine line.text with
  | .ok command => .ok command
  | .error problem => .error ⟨line, problem⟩

/-- A line is read as what its text is read as. -/
theorem SourceLine.read_eq_ok_iff
    (line : SourceLine)
    (asked : Option Command) :
    line.read = .ok asked ↔ readLine line.text = .ok asked := by
  unfold SourceLine.read
  cases readLine line.text <;> simp

/-- A line cannot be read for the problem of its text. -/
theorem SourceLine.read_eq_error_iff
    (line : SourceLine)
    (fault : Fault) :
    line.read = .error fault ↔
      fault.line = line ∧ readLine line.text = .error fault.problem := by
  obtain ⟨place, problem⟩ := fault
  unfold SourceLine.read
  cases readLine line.text <;> simp [eq_comm]

end Storyboard.Script
