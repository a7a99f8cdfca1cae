namespace Storyboard.Text

/-!
# White space, words and lines

White space is the Unicode property of that name.  Words are the longest runs
without it.  Lines end at a newline, which takes one carriage return before it
along; a text that ends with a newline has no empty line after it.
-/

/-- The characters with the Unicode property `White_Space`. -/
def isBlank (c : Char) : Bool :=
  let code := c.toNat
  (0x9 ≤ code && code ≤ 0xD) || code == 0x20 || code == 0x85 || code == 0xA0 ||
    code == 0x1680 || (0x2000 ≤ code && code ≤ 0x200A) || code == 0x2028 ||
    code == 0x2029 || code == 0x202F || code == 0x205F || code == 0x3000

/-- A text without the white space before its first word. -/
def trimLeft (text : List Char) : List Char :=
  text.dropWhile isBlank

/-- A text without the white space around it. -/
def trimChars (text : List Char) : List Char :=
  (trimLeft (trimLeft text).reverse).reverse

/-- A string without the white space around it. -/
def trim (text : String) : String :=
  .ofList (trimChars text.toList)

/--
The pieces between separators, empty ones included; there is at least one.
-/
def pieces (separates : Char → Bool) (text : List Char) : List (List Char) :=
  let (first, others) :=
    text.foldr
      (fun c (first, others) =>
        if separates c then ([], first :: others) else (c :: first, others))
      ([], [])
  first :: others

/-- The words of a text: its pieces between white space that are not empty. -/
def words (text : List Char) : List (List Char) :=
  (pieces isBlank text).filter (· ≠ [])

/-- A line without the carriage return that belongs to its newline. -/
def dropReturn (line : List Char) : List Char :=
  if line.getLast? = some '\r' then line.dropLast else line

/-- The lines of a text, without their line ends. -/
def lineChars (text : List Char) : List (List Char) :=
  let parts := pieces (· = '\n') text
  parts.dropLast.map dropReturn ++ (parts.getLast?.filter (· ≠ [])).toList

/-- The lines of a string, without their line ends. -/
def lines (text : String) : List String :=
  (lineChars text.toList).map .ofList

/-- A text with its ASCII capitals made small; all other characters stay. -/
def lowered (text : List Char) : List Char :=
  text.map Char.toLower

/--
Every character that the ASCII test calls white space is white space here.
-/
theorem isBlank_of_isWhitespace
    {c : Char}
    (white : c.isWhitespace = true) :
    isBlank c = true := by
  simp only [Char.isWhitespace, Bool.or_eq_true, decide_eq_true_eq] at white
  rcases white with ((rfl | rfl) | rfl) | rfl <;> rfl

end Storyboard.Text
