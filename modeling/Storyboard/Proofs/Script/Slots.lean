import Storyboard.Proofs.Except
import Storyboard.Script.Grammar

namespace Storyboard.Script

/-!
# Words in slots

A slot takes some words and gives each of them a value.  The words of a line go
into the slots of its form one by one.  Where that fails, the leftmost offence
is reported: a slot without a word, a word that its slot does not take, or a
word behind the last slot.
-/

/-- A word is one of the fixed words, whatever the case of its ASCII letters. -/
def Spells (word fixed : String) : Prop :=
  Text.lowered word.toList = fixed.toList

/-- A word is the numeral of a finite number. -/
def IsNumber (word : String) (value : Float) : Prop :=
  Number.ofNumeral? word = some value ∧ value.isFinite = true

/-- A word has a value in a slot. -/
def Slot.Denotes : (slot : Slot) → String → slot.Value → Prop
  | .name, word, value => value = word
  | .kind, word, value => Spells word value.word
  | .x, word, value | .y, word, value
  | .firstSize, word, value | .secondSize, word, value
  | .red, word, value | .green, word, value | .blue, word, value =>
      IsNumber word value

/-- A word cannot stand in a slot, for the given problem. -/
inductive Slot.Refuses (word : String) : Slot → Problem → Prop where
  | noKind
      (unknown : ∀ kind : Kind, ¬Spells word kind.word) :
      Refuses word .kind (.unknownKind word)
  | noNumber
      {slot : Slot}
      (notName : slot ≠ .name)
      (notKind : slot ≠ .kind)
      (notFinite : ∀ value, ¬IsNumber word value) :
      Refuses word slot (.invalidNumber slot word)

/-- Words fill slots with values, one word for every slot. -/
def Filled : (slots : List Slot) → List String → Values slots → Prop
  | [], words, _ => words = []
  | slot :: slots, words, (value, values) =>
      ∃ word rest,
        words = word :: rest ∧ slot.Denotes word value ∧
          Filled slots rest values

theorem Filled.nil : Filled [] [] () :=
  rfl

theorem Filled.cons
    {slot : Slot}
    {slots : List Slot}
    {word : String}
    {rest : List String}
    {value : slot.Value}
    {values : Values slots}
    (denotes : slot.Denotes word value)
    (filled : Filled slots rest values) :
    Filled (slot :: slots) (word :: rest) (value, values) :=
  ⟨word, rest, rfl, denotes, filled⟩

/-- What is wrong at one position of the slots and the words. -/
inductive OffenceAt
    (keyword : Keyword)
    (slots : List Slot)
    (words : List String)
    (position : Nat) :
    Problem → Prop where
  | missing
      {slot : Slot}
      (isSlot : slots[position]? = some slot)
      (noWord : words[position]? = none) :
      OffenceAt keyword slots words position (.missingArgument keyword slot)
  | refused
      {slot : Slot}
      {word : String}
      {problem : Problem}
      (isSlot : slots[position]? = some slot)
      (isWord : words[position]? = some word)
      (refuses : slot.Refuses word problem) :
      OffenceAt keyword slots words position problem
  | leftOver
      {word : String}
      (behindSlots : position = slots.length)
      (isWord : words[position]? = some word) :
      OffenceAt keyword slots words position (.unexpectedArgument keyword word)

/-- What is wrong at the smallest position at which anything is. -/
def LeftmostOffence
    (keyword : Keyword)
    (slots : List Slot)
    (words : List String)
    (problem : Problem) : Prop :=
  ∃ position,
    OffenceAt keyword slots words position problem ∧
      ∀ earlier,
        earlier < position →
        ∀ other, ¬OffenceAt keyword slots words earlier other

section FixedWords

/--
Among all entries of a table, the one found for a word is the one that has it.
-/
theorem find?_word_eq_some_iff
    {Entry : Type}
    (word : Entry → List Char)
    (injective : Function.Injective word)
    {table : List Entry}
    (complete : ∀ entry, entry ∈ table)
    (letters : List Char)
    (entry : Entry) :
    table.find? (fun candidate => word candidate = letters) = some entry ↔
      letters = word entry := by
  constructor
  · intro found
    have sameWord : word entry = letters := by
      simpa using List.find?_some found
    exact sameWord.symm
  · rintro rfl
    cases found : table.find? fun candidate => word candidate = word entry with
    | none =>
        have notEntry := List.find?_eq_none.mp found entry (complete entry)
        simp at notEntry
    | some other =>
        have sameWord : word other = word entry := by
          simpa using List.find?_some found
        rw [injective sameWord]

/-- A word is read as the keyword that it spells. -/
theorem Keyword.ofWord?_eq_some_iff (letters : List Char) (keyword : Keyword) :
    Keyword.ofWord? letters = some keyword ↔
      Text.lowered letters = keyword.word.toList := by
  refine find?_word_eq_some_iff (fun entry : Keyword => entry.word.toList)
    ?_ ?_ (Text.lowered letters) keyword
  · intro first second sameWord
    revert sameWord
    rcases first with ⟨_ | _⟩ | _ | _ <;>
      rcases second with ⟨_ | _⟩ | _ | _ <;> decide
  · rintro (⟨_ | _⟩ | _ | _) <;> decide

theorem Target.ofWord?_eq_some_iff (word : String) (target : Target) :
    Target.ofWord? word = some target ↔ Spells word target.word := by
  refine find?_word_eq_some_iff (fun entry : Target => entry.word.toList)
    ?_ ?_ (Text.lowered word.toList) target
  · intro first second sameWord
    revert sameWord
    cases first <;> cases second <;> decide
  · intro entry
    cases entry <;> decide

theorem kindOfWord?_eq_some_iff (word : String) (kind : Kind) :
    Kind.ofWord? word = some kind ↔ Spells word kind.word := by
  have differ : Kind.rectangle.word.toList ≠ Kind.oval.word.toList := by decide
  unfold Kind.ofWord? Spells
  cases kind <;> grind

end FixedWords

section Reading

variable
  {slot : Slot}
  {word : String}

theorem filter_ofNumeral?_eq_some_iff (word : String) (value : Float) :
    (Number.ofNumeral? word).filter Float.isFinite = some value ↔
      IsNumber word value :=
  Option.filter_eq_some_iff

/-- A slot reads the words that have a value in it. -/
theorem Slot.read_eq_ok_iff {value : slot.Value} :
    slot.read word = .ok value ↔ slot.Denotes word value := by
  cases slot with
  | name =>
      simp [Slot.read, Slot.Denotes, eq_comm]
  | kind =>
      rw [Slot.Denotes, ← kindOfWord?_eq_some_iff]
      unfold Slot.read
      cases Kind.ofWord? word <;> simp
  | x | y | firstSize | secondSize | red | green | blue =>
      rw [Slot.Denotes, ← filter_ofNumeral?_eq_some_iff]
      unfold Slot.read
      cases (Number.ofNumeral? word).filter Float.isFinite <;> simp

/-- A slot fails on the words that it refuses, and for that reason. -/
theorem Slot.read_eq_error_iff {problem : Problem} :
    slot.read word = .error problem ↔ slot.Refuses word problem := by
  cases slot with
  | name =>
      constructor
      · intro failed
        cases failed
      · rintro (_ | ⟨notName, -, -⟩)
        exact absurd rfl notName
  | kind =>
      have noKindIff :
          Kind.ofWord? word = none ↔ ∀ kind : Kind, ¬Spells word kind.word := by
        simp only [Option.eq_none_iff_forall_ne_some, ne_eq,
          kindOfWord?_eq_some_iff]
      constructor
      · intro failed
        unfold Slot.read at failed
        cases found : Kind.ofWord? word with
        | none =>
            rw [found] at failed
            cases failed
            exact .noKind (noKindIff.mp found)
        | some kind =>
            rw [found] at failed
            cases failed
      · rintro (unknown | ⟨-, notKind, -⟩)
        · unfold Slot.read
          rw [noKindIff.mpr unknown]
        · exact absurd rfl notKind
  | x | y | firstSize | secondSize | red | green | blue =>
      have noNumberIff :
          (Number.ofNumeral? word).filter Float.isFinite = none ↔
            ∀ value, ¬IsNumber word value := by
        simp only [Option.eq_none_iff_forall_ne_some, ne_eq,
          filter_ofNumeral?_eq_some_iff]
      constructor
      · intro failed
        unfold Slot.read at failed
        cases found : (Number.ofNumeral? word).filter Float.isFinite with
        | none =>
            rw [found] at failed
            cases failed
            exact .noNumber nofun nofun (noNumberIff.mp found)
        | some value =>
            rw [found] at failed
            cases failed
      · rintro (_ | ⟨-, -, notFinite⟩)
        unfold Slot.read
        rw [noNumberIff.mpr notFinite]

end Reading

/-- Words are read as the values that they fill the slots with. -/
theorem fill_eq_ok_iff
    {keyword : Keyword}
    {slots : List Slot}
    {words : List String}
    {values : Values slots} :
    fill keyword slots words = .ok values ↔ Filled slots words values := by
  induction slots generalizing words with
  | nil =>
      cases words <;> simp [fill, Filled]
  | cons slot slots inductionHypothesis =>
      cases words with
      | nil =>
          simp [fill, Filled]
      | cons word rest =>
          obtain ⟨value, values⟩ := values
          simp only [fill, bind_eq_ok_iff, Slot.read_eq_ok_iff,
            inductionHypothesis]
          constructor
          · rintro ⟨_, denotes, _, filled, made⟩
            cases made
            exact .cons denotes filled
          · rintro ⟨_, _, sameWords, denotes, filled⟩
            cases sameWords
            exact ⟨value, denotes, values, filled, rfl⟩

section Leftmost

variable
  {keyword : Keyword}
  {slot : Slot}
  {slots : List Slot}
  {word : String}
  {words : List String}
  {problem : Problem}

/-- The first word offends exactly if the first slot refuses it. -/
theorem offenceAt_zero_iff :
    OffenceAt keyword (slot :: slots) (word :: words) 0 problem ↔
      slot.Refuses word problem := by
  constructor
  · rintro (⟨-, noWord⟩ | ⟨isSlot, isWord, refuses⟩ | ⟨behindSlots, -⟩)
    · cases noWord
    · cases isSlot
      cases isWord
      exact refuses
    · cases behindSlots
  · intro refuses
    exact .refused rfl rfl refuses

/-- Behind the first word, positions are those of the other slots and words. -/
theorem offenceAt_succ_iff {position : Nat} :
    OffenceAt keyword (slot :: slots) (word :: words) (position + 1) problem ↔
      OffenceAt keyword slots words position problem := by
  constructor
  · rintro (⟨isSlot, noWord⟩ | ⟨isSlot, isWord, refuses⟩ |
      ⟨behindSlots, isWord⟩)
    · exact .missing isSlot noWord
    · exact .refused isSlot isWord refuses
    · exact .leftOver (Nat.succ.inj behindSlots) isWord
  · rintro (⟨isSlot, noWord⟩ | ⟨isSlot, isWord, refuses⟩ |
      ⟨behindSlots, isWord⟩)
    · exact .missing isSlot noWord
    · exact .refused isSlot isWord refuses
    · exact .leftOver (congrArg Nat.succ behindSlots) isWord

/--
If something offends at the first position, only that can be the leftmost
offence.
-/
theorem leftmostOffence_iff_of_offenceAt_zero
    {some : Problem}
    (offends : OffenceAt keyword slots words 0 some) :
    LeftmostOffence keyword slots words problem ↔
      OffenceAt keyword slots words 0 problem := by
  constructor
  · rintro ⟨position, offendsThere, noneEarlier⟩
    cases position with
    | zero =>
        exact offendsThere
    | succ position =>
        exact absurd offends (noneEarlier 0 (Nat.succ_pos position) some)
  · intro offendsFirst
    exact ⟨0, offendsFirst, nofun⟩

/-- If the first slot takes the first word, the leftmost offence lies behind. -/
theorem leftmostOffence_cons_iff
    (taken : ∀ other, ¬slot.Refuses word other) :
    LeftmostOffence keyword (slot :: slots) (word :: words) problem ↔
      LeftmostOffence keyword slots words problem := by
  constructor
  · rintro ⟨position, offends, noneEarlier⟩
    cases position with
    | zero =>
        exact absurd (offenceAt_zero_iff.mp offends) (taken problem)
    | succ position =>
        refine ⟨position, offenceAt_succ_iff.mp offends, ?_⟩
        intro earlier before other offendsEarlier
        exact noneEarlier (earlier + 1) (Nat.succ_lt_succ before) other
          (offenceAt_succ_iff.mpr offendsEarlier)
  · rintro ⟨position, offends, noneEarlier⟩
    refine ⟨position + 1, offenceAt_succ_iff.mpr offends, ?_⟩
    intro earlier before other offendsEarlier
    cases earlier with
    | zero =>
        exact taken other (offenceAt_zero_iff.mp offendsEarlier)
    | succ earlier =>
        exact noneEarlier earlier (Nat.lt_of_succ_lt_succ before) other
          (offenceAt_succ_iff.mp offendsEarlier)

/-- Without slots, the first word is left over. -/
theorem leftmostOffence_nil_iff :
    LeftmostOffence keyword [] words problem ↔
      ∃ word rest,
        words = word :: rest ∧ problem = .unexpectedArgument keyword word := by
  constructor
  · rintro ⟨position, ⟨isSlot, -⟩ | ⟨isSlot, -, -⟩ | ⟨behindSlots, isWord⟩, -⟩
    · cases isSlot
    · cases isSlot
    · subst behindSlots
      cases words with
      | nil =>
          cases isWord
      | cons word rest =>
          cases isWord
          exact ⟨_, rest, rfl, rfl⟩
  · rintro ⟨word, rest, rfl, rfl⟩
    exact ⟨0, .leftOver rfl rfl, nofun⟩

/-- Without words, the first slot has none. -/
theorem leftmostOffence_cons_nil_iff :
    LeftmostOffence keyword (slot :: slots) [] problem ↔
      problem = .missingArgument keyword slot := by
  have offends :
      OffenceAt keyword (slot :: slots) [] 0 (.missingArgument keyword slot) :=
    .missing rfl rfl
  rw [leftmostOffence_iff_of_offenceAt_zero offends]
  constructor
  · rintro (⟨isSlot, -⟩ | ⟨-, isWord, -⟩ | ⟨behindSlots, -⟩)
    · cases isSlot
      rfl
    · cases isWord
    · cases behindSlots
  · rintro rfl
    exact offends

/-- If the first slot refuses the first word, that is the leftmost offence. -/
theorem leftmostOffence_cons_cons_iff
    {refusal : Problem}
    (refused : slot.read word = .error refusal) :
    LeftmostOffence keyword (slot :: slots) (word :: words) problem ↔
      problem = refusal := by
  have offends :
      OffenceAt keyword (slot :: slots) (word :: words) 0 refusal :=
    offenceAt_zero_iff.mpr (Slot.read_eq_error_iff.mp refused)
  rw [leftmostOffence_iff_of_offenceAt_zero offends, offenceAt_zero_iff,
    ← Slot.read_eq_error_iff, refused, Except.error.injEq, eq_comm]

/-- Filling slots fails for the leftmost offence. -/
theorem fill_eq_error_iff :
    fill keyword slots words = .error problem ↔
      LeftmostOffence keyword slots words problem := by
  induction slots generalizing words with
  | nil =>
      rw [leftmostOffence_nil_iff]
      cases words <;> simp [fill, eq_comm]
  | cons slot slots inductionHypothesis =>
      cases words with
      | nil =>
          rw [leftmostOffence_cons_nil_iff, fill, Except.error.injEq, eq_comm]
      | cons word rest =>
          rw [fill, bind_eq_error_iff]
          cases valueRead : slot.read word with
          | error refusal =>
              rw [leftmostOffence_cons_cons_iff valueRead]
              simp [eq_comm]
          | ok value =>
              have taken : ∀ other, ¬slot.Refuses word other := by
                intro other refuses
                rw [← Slot.read_eq_error_iff, valueRead] at refuses
                cases refuses
              rw [leftmostOffence_cons_iff taken, ← inductionHypothesis]
              simp [bind_eq_error_iff, pure, Except.pure]

end Leftmost

end Storyboard.Script
