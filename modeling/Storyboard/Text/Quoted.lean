import Storyboard.Text.Hidden

namespace Storyboard.Text

/-!
# Quotations

A quotation shows a text between double quotes on one line, with escapes for
what cannot be seen by itself.
-/

/-- A character by its code point in hexadecimal. -/
def codePoint (c : Char) : List Char :=
  "\\u\x7b".toList ++ Nat.toDigits 16 c.toNat ++ ['\x7d']

/-- A character inside a quotation. -/
def quotedChar (c : Char) : List Char :=
  match c with
  | '\x00' => ['\\', '0']
  | '\t' => ['\\', 't']
  | '\r' => ['\\', 'r']
  | '\n' => ['\\', 'n']
  | '\\' => ['\\', '\\']
  | '"' => ['\\', '"']
  | c => if isHidden c then codePoint c else [c]

/-- A text as a quotation. -/
def quoted (text : String) : String :=
  "\"" ++ .ofList (text.toList.flatMap quotedChar) ++ "\""

end Storyboard.Text
