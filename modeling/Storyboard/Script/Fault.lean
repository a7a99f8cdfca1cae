import Storyboard.Script.Command

namespace Storyboard.Script

/-!
# Faults

A fault is the one reason for which a line of a script failed, together with
the line itself.  It is reported and the script goes on with the next line.
-/

/-- A line of a script as it was written, and its number counted from one. -/
structure SourceLine where
  number : Nat
  text : String
deriving Repr, DecidableEq

/-- Why a line failed. -/
inductive Problem where
  /-- The first word is no keyword. -/
  | unknownCommand (word : String)
  /-- The line ends before a slot is filled. -/
  | missingArgument (keyword : Keyword) (slot : Slot)
  /-- A word is left after all slots are filled. -/
  | unexpectedArgument (keyword : Keyword) (word : String)
  /-- The word in a slot for a number is not a finite number. -/
  | invalidNumber (slot : Slot) (word : String)
  /-- The word in the slot for the kind is no kind. -/
  | unknownKind (word : String)
  /-- The word after a clear is no target. -/
  | unknownTarget (word : String)
  /-- The album refused what the line asks for. -/
  | refused (refusal : Refusal)
deriving Repr, DecidableEq

/-- The part of the message that says what is wrong. -/
def Problem.message : Problem → String
  | unknownCommand word => s!"Unknown command '{word}'"
  | missingArgument keyword slot =>
      s!"'{keyword.word}' is missing its {slot.label} argument"
  | unexpectedArgument keyword word =>
      s!"Unexpected argument '{word}' after '{keyword.word}'"
  | invalidNumber slot word =>
      s!"Expected a number for {slot.label}, got '{word}'"
  | unknownKind word =>
      s!"Unknown shape type '{word}' (expected RECTANGLE or OVAL)"
  | unknownTarget word =>
      s!"Unknown clear target '{word}' (expected snapshots, shapes or all)"
  | refused refusal => refusal.message

/-- A failed line and what is wrong with it. -/
structure Fault where
  line : SourceLine
  problem : Problem
deriving Repr, DecidableEq

/--
The text shown for a fault, which quotes the line without the space around it.
-/
def Fault.message (fault : Fault) : String :=
  s!"Line {fault.line.number}: {fault.problem.message} in `{Text.trim fault.line.text}`"

end Storyboard.Script
