import Mathlib.Data.List.DropRight
import Storyboard.Text.Blank

namespace Storyboard.Text

/-!
# Words and the white space around them

Words do not depend on how much white space stands between and around them, so a
text has the words of its trimmed form.  A trimmed text that is not empty begins
with its first word.
-/

/-- Cutting a text into pieces is splitting it at its separators. -/
theorem pieces_eq_splitOnP (separates : Char → Bool) (text : List Char) :
    pieces separates text = text.splitOnP separates := by
  induction text with
  | nil =>
      rw [List.splitOnP_nil]
      rfl
  | cons c rest inductionHypothesis =>
      rw [List.splitOnP_cons_eq_if_modifyHead, ← inductionHypothesis]
      simp only [pieces, List.foldr_cons]
      split <;> rfl

/-- A text without white space is a single word. -/
theorem words_eq_singleton
    {word : List Char}
    (notEmpty : word ≠ [])
    (noSpace : ∀ c ∈ word, isBlank c = false) :
    words word = [word] := by
  rw [words, pieces_eq_splitOnP, List.splitOnP_eq_singleton noSpace,
    List.filter_cons_of_pos (by simpa using notEmpty), List.filter_nil]

/-- White space inside a text divides its words. -/
theorem words_append_cons
    {blank : Char}
    (isSpace : isBlank blank = true)
    (before after : List Char) :
    words (before ++ blank :: after) = words before ++ words after := by
  simp only [words, pieces_eq_splitOnP]
  rw [List.splitOnP_append_cons before after isSpace, List.filter_append]

@[simp] theorem words_nil : words [] = [] :=
  rfl

theorem words_cons_of_isBlank
    {blank : Char}
    (isSpace : isBlank blank = true)
    (text : List Char) :
    words (blank :: text) = words text := by
  simpa using words_append_cons isSpace [] text

theorem words_eq_nil_of_isBlank
    {text : List Char}
    (allSpace : ∀ c ∈ text, isBlank c = true) :
    words text = [] := by
  induction text with
  | nil =>
      rfl
  | cons c rest inductionHypothesis =>
      rw [List.forall_mem_cons] at allSpace
      rw [words_cons_of_isBlank allSpace.1, inductionHypothesis allSpace.2]

theorem words_append_of_isBlank_left
    {space : List Char}
    (allSpace : ∀ c ∈ space, isBlank c = true)
    (text : List Char) :
    words (space ++ text) = words text := by
  induction space with
  | nil =>
      rfl
  | cons c rest inductionHypothesis =>
      rw [List.forall_mem_cons] at allSpace
      rw [List.cons_append, words_cons_of_isBlank allSpace.1,
        inductionHypothesis allSpace.2]

theorem words_append_of_isBlank_right
    (text : List Char)
    {space : List Char}
    (allSpace : ∀ c ∈ space, isBlank c = true) :
    words (text ++ space) = words text := by
  cases space with
  | nil =>
      rw [List.append_nil]
  | cons c rest =>
      rw [List.forall_mem_cons] at allSpace
      rw [words_append_cons allSpace.1, words_eq_nil_of_isBlank allSpace.2,
        List.append_nil]

theorem trimChars_eq_rdropWhile (text : List Char) :
    trimChars text = (text.dropWhile isBlank).rdropWhile isBlank :=
  rfl

/-- A text has the words of its trimmed form. -/
theorem words_trimChars (text : List Char) :
    words (trimChars text) = words text := by
  have leading : ∀ c ∈ text.takeWhile isBlank, isBlank c = true :=
    fun _ member => List.mem_takeWhile_imp member
  have trailing :
      ∀ c ∈ (text.dropWhile isBlank).rtakeWhile isBlank, isBlank c = true :=
    fun _ member => List.mem_rtakeWhile_imp member
  calc
    words (trimChars text) =
        words (trimChars text ++ (text.dropWhile isBlank).rtakeWhile isBlank) :=
      (words_append_of_isBlank_right _ trailing).symm
    _ = words (text.dropWhile isBlank) := by
      rw [trimChars_eq_rdropWhile, List.rdropWhile_append_rtakeWhile]
    _ = words (text.takeWhile isBlank ++ text.dropWhile isBlank) :=
      (words_append_of_isBlank_left leading _).symm
    _ = words text := by
      rw [List.takeWhile_append_dropWhile]

theorem mem_of_mem_trimChars
    {text : List Char}
    {c : Char}
    (member : c ∈ trimChars text) :
    c ∈ text := by
  rw [trimChars_eq_rdropWhile] at member
  have inRest :=
    (List.rdropWhile_prefix isBlank (text.dropWhile isBlank)).subset member
  exact (List.dropWhile_suffix isBlank).subset inRest

/-- White space behind a text is trimmed away. -/
theorem trimChars_append_of_isBlank
    (text : List Char)
    {blank : Char}
    (isSpace : isBlank blank = true) :
    trimChars (text ++ [blank]) = trimChars text := by
  simp only [trimChars_eq_rdropWhile, List.dropWhile_append]
  split
  · rename_i allSpace
    rw [List.isEmpty_iff] at allSpace
    simp [allSpace, isSpace]
  · rw [List.rdropWhile_concat_pos _ _ _ isSpace]

/-- A trimmed text does not begin with white space. -/
theorem isBlank_eq_false_of_trimChars_eq_cons
    {text rest : List Char}
    {first : Char}
    (trimmed : trimChars text = first :: rest) :
    isBlank first = false := by
  obtain ⟨behind, untrimmed⟩ :=
    List.rdropWhile_prefix isBlank (text.dropWhile isBlank)
  rw [← trimChars_eq_rdropWhile, trimmed, List.cons_append] at untrimmed
  have firstLeft := List.head?_dropWhile_not isBlank text
  rwa [← untrimmed, List.head?_cons] at firstLeft

/-- A text that does not begin with white space begins with its first word. -/
theorem words_cons_of_not_isBlank
    {first : Char}
    (notSpace : isBlank first = false)
    (rest : List Char) :
    ∃ word behind,
      words (first :: rest) = (first :: word) :: words behind ∧
        first :: rest = first :: word ++ behind ∧
        ∀ c ∈ behind.head?, isBlank c = true := by
  let word := rest.takeWhile fun c => !isBlank c
  let behind := rest.dropWhile fun c => !isBlank c
  have whole : rest = word ++ behind := List.takeWhile_append_dropWhile.symm
  have allLetters : ∀ c ∈ first :: word, isBlank c = false := by
    refine List.forall_mem_cons.mpr ⟨notSpace, fun c member => ?_⟩
    simpa using List.mem_takeWhile_imp member
  have oneWord : words (first :: word) = [first :: word] :=
    words_eq_singleton (List.cons_ne_nil first word) allLetters
  have divided : ∀ c ∈ behind.head?, isBlank c = true := by
    intro c isFirst
    have firstBehind := List.head?_dropWhile_not (fun c => !isBlank c) rest
    have sameHead :
        (rest.dropWhile fun c => !isBlank c).head? = some c := isFirst
    simpa [sameHead] using firstBehind
  refine ⟨word, behind, ?_, by rw [whole, List.cons_append], divided⟩
  rw [whole, ← List.cons_append]
  cases isBehind : behind with
  | nil =>
      rw [List.append_nil, oneWord, words_nil]
  | cons blank others =>
      have isSpace : isBlank blank = true :=
        divided blank (by rw [isBehind]; rfl)
      rw [words_append_cons isSpace, words_cons_of_isBlank isSpace, oneWord,
        List.singleton_append]

/-- A trimmed text without words is empty. -/
theorem trimChars_eq_nil_iff (text : List Char) :
    trimChars text = [] ↔ words text = [] := by
  rw [← words_trimChars]
  constructor
  · intro isEmpty
    rw [isEmpty, words_nil]
  · intro noWords
    cases trimmed : trimChars text with
    | nil =>
        rfl
    | cons first rest =>
        obtain ⟨word, behind, hasWords, -⟩ :=
          words_cons_of_not_isBlank
            (isBlank_eq_false_of_trimChars_eq_cons trimmed) rest
        rw [trimmed, hasWords] at noWords
        cases noWords

/--
A trimmed text is its first word and what stands behind it: the other words,
divided from the first one by white space.
-/
theorem trimChars_eq_first_append_behind
    {text word : List Char}
    {others : List (List Char)}
    (hasWords : words text = word :: others) :
    ∃ behind,
      trimChars text = word ++ behind ∧
        words behind = others ∧
        ∀ c ∈ behind.head?, isBlank c = true := by
  cases trimmed : trimChars text with
  | nil =>
      rw [(trimChars_eq_nil_iff text).mp trimmed] at hasWords
      cases hasWords
  | cons first rest =>
      obtain ⟨letters, behind, beginsWith, whole, divided⟩ :=
        words_cons_of_not_isBlank
          (isBlank_eq_false_of_trimChars_eq_cons trimmed) rest
      rw [← words_trimChars, trimmed, beginsWith] at hasWords
      cases hasWords
      exact ⟨behind, whole, rfl, divided⟩

/--
A trimmed text begins with the first word of the text, which is not empty.
-/
theorem trimChars_eq_append_of_words_eq_cons
    {text word : List Char}
    {others : List (List Char)}
    (hasWords : words text = word :: others) :
    ∃ first letters behind,
      word = first :: letters ∧ trimChars text = word ++ behind := by
  obtain ⟨behind, whole, -⟩ := trimChars_eq_first_append_behind hasWords
  have notEmpty : word ≠ [] := by
    have member : word ∈ words text := hasWords ▸ List.mem_cons_self
    simpa using (List.mem_filter.mp member).2
  obtain ⟨first, letters, isWord⟩ := List.exists_cons_of_ne_nil notEmpty
  exact ⟨first, letters, behind, isWord, whole⟩

theorem isBlank_eq_false_of_isDigit
    {c : Char}
    (isDigit : c.isDigit = true) :
    isBlank c = false := by
  simp only [Char.isDigit, Bool.and_eq_true, decide_eq_true_eq] at isDigit
  have low : 48 ≤ c.toNat := isDigit.1
  have high : c.toNat ≤ 57 := isDigit.2
  simp only [isBlank, Bool.or_eq_false_iff, Bool.and_eq_false_iff,
    decide_eq_false_iff_not, beq_eq_false_iff_ne]
  omega

end Storyboard.Text
