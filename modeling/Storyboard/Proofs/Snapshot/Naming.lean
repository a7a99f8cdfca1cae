import Storyboard.Proofs.Snapshot.ClockText
import Storyboard.Proofs.Snapshot.Issuing
import Storyboard.Proofs.Text.Trimming

namespace Storyboard

/-!
# What an id is called by

An id is called by its whole text or by its sequence number, with number signs
in front or without.  The two never meet: an id text begins with its year and
has a number sign only behind the clock part, so nothing that is left of it is a
numeral.  Among ids that one archive has issued, a text therefore calls at most
one.
-/

/--
A text is a numeral of a number that fits into sixty-four bits: digits, perhaps
with a plus sign in front.
-/
def Number.IsNumeral (text : List Char) (number : Nat) : Prop :=
  ∃ digits,
    (text = digits ∨ text = '+' :: digits) ∧
      digits ≠ [] ∧
      (∀ c ∈ digits, c.isDigit = true) ∧
      ofDigits digits = number ∧
      number < 2 ^ 64

namespace Number

theorem isNumeral_paddedDigits
    {number : Nat}
    (fits : number < 2 ^ 64)
    (width : Nat) :
    IsNumeral (paddedDigits width number) number :=
  ⟨_, .inl rfl, paddedDigits_ne_nil width number,
    fun _ => isDigit_of_mem_paddedDigits,
    ofDigits_paddedDigits width number, fits⟩

theorem IsNumeral.ne_nil
    {text : List Char}
    {number : Nat}
    (isNumeral : IsNumeral text number) :
    text ≠ [] := by
  rcases isNumeral with ⟨digits, isText, notEmpty, -⟩
  rcases isText with rfl | rfl
  · exact notEmpty
  · exact List.cons_ne_nil '+' digits

theorem IsNumeral.notMem
    {text : List Char}
    {number : Nat}
    (isNumeral : IsNumeral text number)
    {c : Char}
    (noDigit : c.isDigit = false)
    (noSign : c ≠ '+') :
    c ∉ text := by
  rcases isNumeral with ⟨digits, isText, -, allDigits, -⟩
  have notInDigits : c ∉ digits := by
    intro member
    rw [allDigits c member] at noDigit
    cases noDigit
  rcases isText with rfl | rfl
  · exact notInDigits
  · exact List.not_mem_cons_of_ne_of_not_mem noSign notInDigits

/-- What ends with a number does not end with white space. -/
theorem isBlank_of_mem_getLast?_append_paddedDigits
    {before : List Char}
    {width number : Nat}
    {c : Char}
    (isLast : c ∈ (before ++ paddedDigits width number).getLast?) :
    Text.isBlank c = false := by
  rw [List.getLast?_append_of_ne_nil _ (paddedDigits_ne_nil width number)]
    at isLast
  exact Text.isBlank_eq_false_of_isDigit
    (isDigit_of_mem_paddedDigits (List.mem_of_getLast? isLast))

end Number

namespace Instant

/-- A year is written with a sign or a digit first. -/
theorem exists_yearText_eq_cons (year : Int) :
    ∃ first rest,
      (yearText year).toList = first :: rest ∧
        (first.isDigit = true ∨ first = '+' ∨ first = '-') := by
  obtain ⟨digit, digits, whole⟩ :=
    List.exists_cons_of_ne_nil (Number.paddedDigits_ne_nil 4 year.natAbs)
  have isDigit : digit.isDigit = true :=
    Number.isDigit_of_mem_paddedDigits (whole ▸ List.mem_cons_self)
  unfold yearText
  split_ifs
  · exact ⟨digit, digits, by rw [toList_padded, whole], .inl isDigit⟩
  · exact ⟨'+', digit :: digits, by simp [whole], .inr (.inl rfl)⟩
  · exact ⟨'-', digit :: digits, by simp [whole], .inr (.inr rfl)⟩

end Instant

namespace SnapshotId

section Issued

variable
  (sequence : Nat)
  (instant : Instant)

theorem exists_text_issuedAt_eq_cons :
    ∃ first rest,
      (issuedAt sequence instant).text.toList = first :: rest ∧
        (first.isDigit = true ∨ first = '+' ∨ first = '-') := by
  obtain ⟨first, rest, whole, isFirst⟩ :=
    Instant.exists_yearText_eq_cons instant.year
  rw [toList_text_issuedAt, Instant.toList_idText, whole]
  exact ⟨first, _, rfl, isFirst⟩

/--
Without what stands before its number sign, an id text is a sign and digits.
-/
theorem dropWhile_text_issuedAt :
    (issuedAt sequence instant).text.toList.dropWhile (· ≠ '#') =
      '#' :: Number.paddedDigits 4 sequence := by
  have notBefore : ∀ c ∈ instant.idText.toList, decide (c ≠ '#') = true := by
    intro c member
    have notSign : '#' ∉ instant.idText.toList :=
      (Instant.notMem_idText_timestamp (by decide) (by decide) instant).1
    simpa using ne_of_mem_of_not_mem member notSign
  rw [toList_text_issuedAt, List.dropWhile_append_of_pos notBefore]
  simp

/-- No white space stands around an id. -/
theorem isTrimmed_text_issuedAt :
    Text.IsTrimmed (issuedAt sequence instant).text.toList where
  first := by
    obtain ⟨first, rest, whole, isFirst⟩ :=
      exists_text_issuedAt_eq_cons sequence instant
    rw [whole]
    rintro c ⟨⟩
    rcases isFirst with isDigit | rfl | rfl
    · exact Text.isBlank_eq_false_of_isDigit isDigit
    · decide
    · decide
  last := by
    rw [toList_text_issuedAt, List.append_cons]
    exact fun _ => Number.isBlank_of_mem_getLast?_append_paddedDigits

/-- What is left of an id text without leading number signs is no numeral. -/
theorem not_isNumeral_dropWhile_text_issuedAt (number : Nat) :
    ¬Number.IsNumeral
      ((issuedAt sequence instant).text.toList.dropWhile (· = '#')) number := by
  intro isNumeral
  apply isNumeral.notMem (c := '#') (by decide) (by decide)
  obtain ⟨first, rest, whole, isFirst⟩ :=
    exists_text_issuedAt_eq_cons sequence instant
  have noSign : first ≠ '#' := by
    rintro rfl
    revert isFirst
    decide
  rw [whole, List.dropWhile_cons_of_neg (by simpa using noSign), ← whole,
    toList_text_issuedAt]
  simp

end Issued

/--
A trimmed text calls an id: its text, or its number with any number signs in
front.
-/
def IsCalledBy (id : SnapshotId) (wanted : List Char) : Prop :=
  wanted = id.text.toList ∨
    Number.IsNumeral (wanted.dropWhile (· = '#')) id.sequence

/--
What an id is written as: whole, from its number sign on, or as its number
alone.
-/
inductive Spelling (id : SnapshotId) : List Char → Prop where
  | whole :
      Spelling id id.text.toList
  | fromSign (fits : id.sequence < 2 ^ 64) :
      Spelling id (id.text.toList.dropWhile (· ≠ '#'))
  | number (fits : id.sequence < 2 ^ 64) :
      Spelling id (toString id.sequence).toList

section Issued

variable
  {sequence : Nat}
  {instant : Instant}
  {wanted : List Char}

theorem toList_toString_eq_paddedDigits (number : Nat) :
    (toString number).toList = Number.paddedDigits 0 number := by
  simp [Number.paddedDigits, Nat.toList_repr]

/-- However an id is written, there is no white space around it. -/
theorem isTrimmed_of_spelling
    (spelling : (issuedAt sequence instant).Spelling wanted) :
    Text.IsTrimmed wanted := by
  cases spelling with
  | whole =>
      exact isTrimmed_text_issuedAt sequence instant
  | fromSign =>
      rw [dropWhile_text_issuedAt]
      constructor
      · rintro c ⟨⟩
        decide
      · rw [← List.singleton_append]
        exact fun _ => Number.isBlank_of_mem_getLast?_append_paddedDigits
  | number =>
      rw [toList_toString_eq_paddedDigits]
      constructor
      · intro c isFirst
        exact Text.isBlank_eq_false_of_isDigit
          (Number.isDigit_of_mem_paddedDigits (List.mem_of_mem_head? isFirst))
      · rw [← List.nil_append (Number.paddedDigits _ _)]
        exact fun _ => Number.isBlank_of_mem_getLast?_append_paddedDigits

/-- However an id is written, it is called by it. -/
theorem isCalledBy_of_spelling
    (spelling : (issuedAt sequence instant).Spelling wanted) :
    (issuedAt sequence instant).IsCalledBy wanted := by
  have noSign (width : Nat) :
      (Number.paddedDigits width sequence).dropWhile (· = '#') =
        Number.paddedDigits width sequence := by
    obtain ⟨first, rest, whole⟩ :=
      List.exists_cons_of_ne_nil (Number.paddedDigits_ne_nil width sequence)
    have isDigit : first.isDigit = true :=
      Number.isDigit_of_mem_paddedDigits (whole ▸ List.mem_cons_self)
    rw [whole, List.dropWhile_cons_of_neg]
    rw [decide_eq_true_eq]
    rintro rfl
    cases isDigit
  cases spelling with
  | whole =>
      exact .inl rfl
  | fromSign fits =>
      right
      rw [dropWhile_text_issuedAt, List.dropWhile_cons_of_pos (by decide),
        noSign]
      exact Number.isNumeral_paddedDigits fits 4
  | number fits =>
      right
      have written :
          (toString (issuedAt sequence instant).sequence).toList =
            Number.paddedDigits 0 sequence :=
        toList_toString_eq_paddedDigits sequence
      rw [written, noSign]
      exact Number.isNumeral_paddedDigits fits 0

theorem ne_nil_of_isCalledBy
    (called : (issuedAt sequence instant).IsCalledBy wanted) :
    wanted ≠ [] := by
  rintro rfl
  rcases called with isText | isNumeral
  · obtain ⟨first, rest, whole, -⟩ :=
      exists_text_issuedAt_eq_cons sequence instant
    rw [whole] at isText
    cases isText
  · exact isNumeral.ne_nil rfl

end Issued

end SnapshotId

end Storyboard
