import Storyboard.Proofs.Text.Lines

namespace Storyboard.Text

/-!
# Words that are put side by side

Words with single spaces between them are found again, in their order and
unchanged.  The text that they make is one line, since a newline is white space
and no word has any.
-/

/-- A text is a single word: not empty and without white space. -/
def IsWord (text : String) : Prop :=
  text ≠ "" ∧ ∀ c ∈ text.toList, isBlank c = false

instance (text : String) : Decidable (IsWord text) :=
  decidable_of_iff (text ≠ "" ∧ text.toList.all (fun c => !isBlank c) = true)
    (by simp [IsWord])

/-- The text of some words, with a space between every two of them. -/
def spaced (parts : List String) : String :=
  " ".intercalate parts

theorem isWord_of_mem_words
    {text word : List Char}
    (member : word ∈ words text) :
    IsWord (.ofList word) := by
  obtain ⟨isPiece, notEmpty⟩ := List.mem_filter.mp member
  constructor
  · simpa using notEmpty
  · intro c inWord
    rw [String.toList_ofList] at inWord
    exact separates_eq_false_of_mem_pieces isPiece c inWord

theorem IsWord.words_toList
    {text : String}
    (isWord : IsWord text) :
    words text.toList = [text.toList] := by
  have notEmpty : text.toList ≠ [] := by simpa using isWord.1
  exact words_eq_singleton notEmpty isWord.2

theorem toList_spaced_cons_cons (first second : String) (rest : List String) :
    (spaced (first :: second :: rest)).toList =
      first.toList ++ ' ' :: (spaced (second :: rest)).toList := by
  simp [spaced, String.toList_intercalate, List.intercalate]

/-- Words that are put side by side are found again. -/
theorem words_spaced
    {parts : List String}
    (allWords : ∀ part ∈ parts, IsWord part) :
    words (spaced parts).toList = parts.map String.toList := by
  induction parts with
  | nil =>
      rfl
  | cons first rest inductionHypothesis =>
      rw [List.forall_mem_cons] at allWords
      cases rest with
      | nil =>
          simpa [spaced] using allWords.1.words_toList
      | cons second rest =>
          have isSpace : isBlank ' ' = true := by decide
          rw [toList_spaced_cons_cons, words_append_cons isSpace,
            allWords.1.words_toList, inductionHypothesis allWords.2]
          rfl

theorem IsWord.newline_notMem
    {text : String}
    (isWord : IsWord text) :
    '\n' ∉ text.toList := by
  intro member
  have notBlank := isWord.2 '\n' member
  revert notBlank
  decide

theorem IsWord.isLine
    {text : String}
    (isWord : IsWord text) :
    IsLine text := by
  refine isLine_of_notMem isWord.newline_notMem fun member => ?_
  have notBlank := isWord.2 '\r' member
  revert notBlank
  decide

/-- Words that are put side by side are on one line. -/
theorem newline_notMem_spaced
    {parts : List String}
    (allWords : ∀ part ∈ parts, IsWord part) :
    '\n' ∉ (spaced parts).toList := by
  induction parts with
  | nil =>
      simp [spaced]
  | cons first rest inductionHypothesis =>
      rw [List.forall_mem_cons] at allWords
      cases rest with
      | nil =>
          simpa [spaced] using allWords.1.newline_notMem
      | cons second rest =>
          rw [toList_spaced_cons_cons, List.mem_append, List.mem_cons]
          rintro (inFirst | isSpace | inRest)
          · exact allWords.1.newline_notMem inFirst
          · revert isSpace
            decide
          · exact inductionHypothesis allWords.2 inRest

end Storyboard.Text
