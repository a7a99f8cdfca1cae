import Storyboard.Refusal

namespace Storyboard.Viewer

/-!
# The terminal session

The viewer takes the whole terminal over and gives it back when it ends, also
when taking it over failed.  Giving it back takes two codes; the second is not
sent if the first one could not be.
-/

/-- A terminal whose first writes fail, and what has been written to it. -/
structure Terminal where
  failures : Nat
  written : String := ""
deriving Repr, DecidableEq

namespace Terminal

/-- The code that switches to a screen of its own. -/
def enterCode : String :=
  "\x1b[?1049h"

/-- The code that switches back. -/
def leaveCode : String :=
  "\x1b[?1049l"

/-- The code that shows the text cursor. -/
def showCode : String :=
  "\x1b[?25h"

/-- Write one code; the answer says whether that worked. -/
def write (terminal : Terminal) (code : String) : Change Terminal Bool :=
  if terminal.failures = 0 then
    ⟨true, { terminal with written := terminal.written ++ code }⟩
  else
    ⟨false, { terminal with failures := terminal.failures - 1 }⟩

/-- Give the terminal back, as far as it goes. -/
def restore (terminal : Terminal) : Terminal :=
  let left := terminal.write leaveCode
  if left.answer then
    (left.after.write showCode).after
  else
    left.after

/--
Take the terminal over and give it back; the answer says whether it was taken
over.
-/
def session (terminal : Terminal) : Change Terminal Bool :=
  let entered := terminal.write enterCode
  ⟨entered.answer, entered.after.restore⟩

end Terminal

end Storyboard.Viewer
