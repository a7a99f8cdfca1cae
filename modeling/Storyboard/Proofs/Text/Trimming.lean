import Storyboard.Proofs.Text.Spacing

namespace Storyboard.Text

/-!
# Trimmed texts

A trimmed text neither begins nor ends with white space.  Trimming makes every
text such a one and leaves alone what is one already, and white space that is
put around a text is trimmed away again.
-/

/-- A text neither begins nor ends with white space. -/
structure IsTrimmed (text : List Char) : Prop where
  first : ∀ c ∈ text.head?, isBlank c = false
  last : ∀ c ∈ text.getLast?, isBlank c = false

/-- A text is nothing but white space. -/
def IsSpace (text : String) : Prop :=
  ∀ c ∈ text.toList, isBlank c = true

instance (text : String) : Decidable (IsSpace text) :=
  decidable_of_iff (text.toList.all isBlank = true) (by simp [IsSpace])

section Trimming

variable {text : List Char}

/--
Trimming at the end leaves a text alone exactly if it does not end with white
space.
-/
theorem rdropWhile_isBlank_eq_self_iff :
    text.rdropWhile isBlank = text ↔
      ∀ c ∈ text.getLast?, isBlank c = false := by
  rw [List.rdropWhile_eq_self_iff]
  cases text using List.reverseRecOn with
  | nil =>
      simp
  | append_singleton before c =>
      simp

theorem isBlank_of_mem_getLast?_trimChars
    {c : Char}
    (isLast : c ∈ (trimChars text).getLast?) :
    isBlank c = false := by
  have trimmedTwice : (trimChars text).rdropWhile isBlank = trimChars text :=
    List.rdropWhile_idempotent isBlank _
  exact rdropWhile_isBlank_eq_self_iff.mp trimmedTwice c isLast

/-- What trimming makes is trimmed. -/
theorem isTrimmed_trimChars (text : List Char) :
    IsTrimmed (trimChars text) where
  first c isFirst := by
    obtain ⟨rest, trimmed⟩ := List.head?_eq_some_iff.mp isFirst
    exact isBlank_eq_false_of_trimChars_eq_cons trimmed
  last _ isLast := isBlank_of_mem_getLast?_trimChars isLast

theorem IsTrimmed.isLine
    {text : String}
    (trimmed : IsTrimmed text.toList)
    (noNewline : '\n' ∉ text.toList) :
    IsLine text := by
  refine ⟨noNewline, fun isLast => ?_⟩
  have notBlank := trimmed.last '\r' isLast
  revert notBlank
  decide

/--
A text that does not end with white space is some white space and its trimmed
form.
-/
theorem takeWhile_append_trimChars
    (ends : ∀ c ∈ text.getLast?, isBlank c = false) :
    text.takeWhile isBlank ++ trimChars text = text := by
  have whole : text.takeWhile isBlank ++ text.dropWhile isBlank = text :=
    List.takeWhile_append_dropWhile
  have restEnds : ∀ c ∈ (text.dropWhile isBlank).getLast?,
      isBlank c = false := by
    intro c isLast
    apply ends
    rw [← whole, List.getLast?_append]
    simp_all
  rw [trimChars_eq_rdropWhile, rdropWhile_isBlank_eq_self_iff.mpr restEnds,
    whole]

/-- Trimming leaves alone exactly the trimmed texts. -/
theorem trimChars_eq_self_iff : trimChars text = text ↔ IsTrimmed text := by
  constructor
  · intro unchanged
    rw [← unchanged]
    exact isTrimmed_trimChars text
  · intro trimmed
    have noneBefore : text.takeWhile isBlank = [] := by
      cases text with
      | nil =>
          rfl
      | cons c rest =>
          simp [trimmed.first c rfl]
    have whole := takeWhile_append_trimChars trimmed.last
    rwa [noneBefore, List.nil_append] at whole

/-- White space before a text is trimmed away. -/
theorem trimChars_append_left
    {space : List Char}
    (allSpace : ∀ c ∈ space, isBlank c = true)
    (text : List Char) :
    trimChars (space ++ text) = trimChars text := by
  rw [trimChars_eq_rdropWhile, List.dropWhile_append_of_pos allSpace,
    ← trimChars_eq_rdropWhile]

/-- White space behind a text is trimmed away. -/
theorem trimChars_append_right
    (text : List Char)
    {space : List Char}
    (allSpace : ∀ c ∈ space, isBlank c = true) :
    trimChars (text ++ space) = trimChars text := by
  induction space using List.reverseRecOn with
  | nil =>
      rw [List.append_nil]
  | append_singleton before c inductionHypothesis =>
      rw [List.forall_mem_append, List.forall_mem_singleton] at allSpace
      rw [← List.append_assoc, trimChars_append_of_isBlank _ allSpace.2,
        inductionHypothesis allSpace.1]

end Trimming

section Words

theorem toLower_of_isBlank
    {c : Char}
    (isSpace : isBlank c = true) :
    c.toLower = c := by
  have notCapital : ¬('A'.val ≤ c.val ∧ c.val ≤ 'Z'.val) := by
    rintro ⟨aboveA, belowZ⟩
    have low : 65 ≤ c.toNat := aboveA
    have high : c.toNat ≤ 90 := belowZ
    simp only [isBlank, Bool.or_eq_true, Bool.and_eq_true, decide_eq_true_eq,
      beq_iff_eq] at isSpace
    omega
  exact dif_neg notCapital

/-- What is a word in small letters is a word. -/
theorem IsWord.of_lowered
    {word fixed : String}
    (isWord : IsWord fixed)
    (spelt : lowered word.toList = fixed.toList) :
    IsWord word := by
  constructor
  · rintro rfl
    apply isWord.1
    simpa [lowered] using spelt.symm
  · intro c member
    by_contra isSpace
    have sameLetter : c.toLower = c :=
      toLower_of_isBlank (by simpa using isSpace)
    have inFixed : c ∈ fixed.toList := by
      rw [← spelt, ← sameLetter]
      exact List.mem_map_of_mem member
    exact isSpace (isWord.2 c inFixed)

/-- White space behind a word divides it from what follows. -/
theorem IsWord.words_append_space
    {word space : String}
    (isWord : IsWord word)
    (notEmpty : space ≠ "")
    (isSpace : IsSpace space)
    (text : List Char) :
    words (word.toList ++ (space.toList ++ text)) =
      word.toList :: words text := by
  obtain ⟨blank, more, letters⟩ :=
    List.exists_cons_of_ne_nil (mt String.toList_eq_nil_iff.mp notEmpty)
  rw [IsSpace, letters, List.forall_mem_cons] at isSpace
  rw [letters, List.cons_append, words_append_cons isSpace.1,
    isWord.words_toList, words_append_of_isBlank_left isSpace.2,
    List.singleton_append]

/-- Behind a word, trimming takes away only the white space at the end. -/
theorem IsWord.trimChars_append
    {word : String}
    (isWord : IsWord word)
    (rest : List Char) :
    ∃ behind,
      trimChars (word.toList ++ rest) = word.toList ++ behind ∧
        trimChars behind = trimChars rest := by
  let behind := rest.rdropWhile isBlank
  let space := rest.rtakeWhile isBlank
  have whole : behind ++ space = rest := List.rdropWhile_append_rtakeWhile
  have allSpace : ∀ c ∈ space, isBlank c = true :=
    fun _ member => List.mem_rtakeWhile_imp member
  have ends : ∀ c ∈ behind.getLast?, isBlank c = false :=
    rdropWhile_isBlank_eq_self_iff.mp (List.rdropWhile_idempotent isBlank rest)
  have trimmed : IsTrimmed (word.toList ++ behind) := by
    constructor
    · intro c isFirst
      obtain ⟨first, letters, isLetters⟩ :=
        List.exists_cons_of_ne_nil (mt String.toList_eq_nil_iff.mp isWord.1)
      rw [isLetters, List.cons_append, List.head?_cons] at isFirst
      cases isFirst
      exact isWord.2 c (isLetters ▸ List.mem_cons_self)
    · intro c isLast
      rw [List.getLast?_append, Option.mem_def, Option.or_eq_some_iff] at isLast
      obtain behindLast | ⟨-, wordLast⟩ := isLast
      · exact ends c behindLast
      · exact isWord.2 c (List.mem_of_getLast? wordLast)
  refine ⟨behind, ?_, ?_⟩
  · rw [← whole, ← List.append_assoc, trimChars_append_right _ allSpace,
      trimChars_eq_self_iff.mpr trimmed]
  · rw [← whole, trimChars_append_right _ allSpace]

end Words

end Storyboard.Text
