import Storyboard.Pattern.Meaning
import Storyboard.Pattern.Reader
import Storyboard.Pattern.Size

namespace Storyboard

/-!
# Patterns

A pattern describes texts.  It is read once and then says of any text whether
what it describes occurs in it.
-/

/-- A pattern that was read. -/
structure Pattern where
  matcher : Pattern.Matcher
deriving Repr

namespace Pattern

/-- Why a pattern cannot be used. -/
inductive Problem where
  | fault (fault : Fault)
  | notSupported
  | tooLarge
deriving Repr, DecidableEq

/-- The text shown for a problem with a pattern. -/
def Problem.message (pattern : String) : Problem → String
  | fault cause => cause.message pattern
  | notSupported => "error building NFA"
  | tooLarge => s!"Compiled regex exceeds size limit of {maxSize} bytes."

/-- The pattern that is written in a text. -/
def read (text : String) : Except Problem Pattern :=
  match Node.read text with
  | .error fault => .error (.fault fault)
  | .ok node =>
      match node.meaning {} with
      | .error fault => .error (.fault fault)
      | .ok (matcher, _) =>
          if matcher.isTooLarge then .error .tooLarge
          else if matcher.looksForAnyScript then .error .notSupported
          else .ok ⟨matcher⟩

/-- Whether something that a pattern describes occurs in a text. -/
def occursIn (pattern : Pattern) (text : String) : Bool :=
  pattern.matcher.occursIn text.toList

end Pattern

end Storyboard
