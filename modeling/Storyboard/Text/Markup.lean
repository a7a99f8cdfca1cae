namespace Storyboard.Text

/-!
# Text inside markup

The five characters that markup gives a meaning are written as character
references, so that a text can stand between tags and inside quoted attributes.
-/

/-- A character as it is written inside markup. -/
def markupChar : Char → List Char
  | '&' => "&amp;".toList
  | '<' => "&lt;".toList
  | '>' => "&gt;".toList
  | '"' => "&quot;".toList
  | '\'' => "&#39;".toList
  | c => [c]

/-- A text as it is written inside markup. -/
def markup (text : String) : String :=
  .ofList (text.toList.flatMap markupChar)

end Storyboard.Text
