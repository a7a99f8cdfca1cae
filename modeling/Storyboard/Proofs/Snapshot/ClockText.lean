import Storyboard.Proofs.Snapshot.Identity

namespace Storyboard.Instant

/-!
# What a clock text tells

In front of every number of a clock text but the first stands a separator that
is no digit.  Read from the end, each number reaches up to the nearest
separator, so the text gives back all of them, also those that have outgrown
their width.  What is left is the year, which is told by its digits and its
sign.

The text does not tell a leap second from the second after it.  A leap second
that ends a minute is shown as second sixty and is therefore told after all.
-/

/--
The date and time that a clock text shows: whole microseconds, no leap second.
-/
def shown (instant : Instant) : Instant :=
  { instant with
    second := instant.shownSecond
    nanosecond := instant.microsecond * 1000 }

/-- The same date and time without what is less than a microsecond. -/
def truncated (instant : Instant) : Instant :=
  { instant with nanosecond := instant.nanosecond / 1000 * 1000 }

/--
The second is one of a minute, and only the last one has a leap second behind
it.
-/
structure Regular (instant : Instant) : Prop where
  second_lt :
    instant.second < 60
  nanosecond_lt :
    instant.nanosecond < 2000000000
  leap_ends_minute :
    1000000000 ≤ instant.nanosecond → instant.second = 59

/-- The year that the characters of a year text stand for. -/
def yearOf : List Char → Int
  | '-' :: digits => -Number.ofDigits digits
  | '+' :: digits => Number.ofDigits digits
  | digits => Number.ofDigits digits

/-- Without a sign, the digits of a year stand for themselves. -/
theorem yearOf_paddedDigits (width number : Nat) :
    yearOf (Number.paddedDigits width number) = number := by
  have noSign
      {sign : Char}
      {digits : List Char}
      (starts : Number.paddedDigits width number = sign :: digits) :
      sign.isDigit = true := by
    apply Number.isDigit_of_mem_paddedDigits
    rw [starts]
    exact List.mem_cons_self
  unfold yearOf
  split
  · rename_i starts
    exact absurd (noSign starts) (by decide)
  · rename_i starts
    exact absurd (noSign starts) (by decide)
  · rw [Number.ofDigits_paddedDigits]

/-- A year text reads back as its year. -/
theorem yearOf_yearText (year : Int) :
    yearOf (yearText year).toList = year := by
  unfold yearText
  split
  · rw [toList_padded, yearOf_paddedDigits]
    omega
  · split
    · have characters :
          ("+" ++ padded 4 year.natAbs).toList =
            '+' :: Number.paddedDigits 4 year.natAbs := by
        simp
      rw [characters, yearOf, Number.ofDigits_paddedDigits]
      omega
    · have characters :
          ("-" ++ padded 4 year.natAbs).toList =
            '-' :: Number.paddedDigits 4 year.natAbs := by
        simp
      rw [characters, yearOf, Number.ofDigits_paddedDigits]
      omega

/--
The characters of a clock text: the year, and six separators with their numbers.
-/
theorem toList_idText (instant : Instant) :
    instant.idText.toList =
      (((((yearText instant.year).toList ++
        '-' :: Number.paddedDigits 2 instant.month) ++
        '-' :: Number.paddedDigits 2 instant.day) ++
        'T' :: Number.paddedDigits 2 instant.hour) ++
        ':' :: Number.paddedDigits 2 instant.minute) ++
        ':' :: Number.paddedDigits 2 instant.shownSecond ++
        '.' :: Number.paddedDigits 6 instant.microsecond := by
  simp [idText, timeText]

section OtherCharacters

variable {c : Char}

theorem notMem_yearText
    (noDigit : c.isDigit = false)
    (noSign : c ∉ ['+', '-'])
    (year : Int) :
    c ∉ (yearText year).toList := by
  have number : c ∉ Number.paddedDigits 4 year.natAbs :=
    Number.notMem_paddedDigits noDigit 4 year.natAbs
  simp only [List.mem_cons, List.not_mem_nil, or_false, not_or] at noSign
  unfold yearText
  split_ifs <;> simp [number, noSign]

/-- Clock texts and timestamps have only digits, signs and separators. -/
theorem notMem_idText_timestamp
    (noDigit : c.isDigit = false)
    (noSeparator : c ∉ ['+', '-', 'T', ' ', ':', '.'])
    (instant : Instant) :
    c ∉ instant.idText.toList ∧ c ∉ instant.timestamp.toList := by
  have number (width value : Nat) : c ∉ Number.paddedDigits width value :=
    Number.notMem_paddedDigits noDigit width value
  simp only [List.mem_cons, List.not_mem_nil, or_false, not_or] at noSeparator
  have year : c ∉ (yearText instant.year).toList :=
    notMem_yearText noDigit (by simp [noSeparator]) instant.year
  constructor
  · simp [toList_idText, year, number, noSeparator]
  · simp [timestamp, timeText, year, number, noSeparator]

/-- An issued id is on one line. -/
theorem newline_notMem_text_issuedAt (sequence : Nat) (instant : Instant) :
    '\n' ∉ (SnapshotId.issuedAt sequence instant).text.toList := by
  have number : '\n' ∉ Number.paddedDigits 4 sequence :=
    Number.notMem_paddedDigits (by decide) 4 sequence
  have clockPart : '\n' ∉ instant.idText.toList :=
    (notMem_idText_timestamp (by decide) (by decide) instant).1
  simp [SnapshotId.toList_text_issuedAt, clockPart, number]

end OtherCharacters

variable (first second : Instant)

/-- Two clock texts are equal exactly if they show one date and time. -/
theorem idText_eq_iff :
    first.idText = second.idText ↔ first.shown = second.shown := by
  constructor
  · intro sameText
    have same := congrArg String.toList sameText
    rw [toList_idText, toList_idText] at same
    obtain ⟨same, sameMicrosecond⟩ :=
      Number.before_eq_and_number_eq (by decide) same
    obtain ⟨same, sameSecond⟩ :=
      Number.before_eq_and_number_eq (by decide) same
    obtain ⟨same, sameMinute⟩ :=
      Number.before_eq_and_number_eq (by decide) same
    obtain ⟨same, sameHour⟩ :=
      Number.before_eq_and_number_eq (by decide) same
    obtain ⟨same, sameDay⟩ :=
      Number.before_eq_and_number_eq (by decide) same
    obtain ⟨same, sameMonth⟩ :=
      Number.before_eq_and_number_eq (by decide) same
    have sameYear : first.year = second.year := by
      rw [← yearOf_yearText first.year, same, yearOf_yearText]
    unfold shown
    rw [sameYear, sameMonth, sameDay, sameHour, sameMinute, sameSecond,
      sameMicrosecond]
  · intro sameShown
    simp only [shown, mk.injEq] at sameShown
    obtain ⟨sameYear, sameMonth, sameDay, sameHour, sameMinute, sameSecond,
      sameNanosecond⟩ := sameShown
    have sameMicrosecond : first.microsecond = second.microsecond := by
      omega
    simp only [idText, timeText, sameYear, sameMonth, sameDay, sameHour,
      sameMinute, sameSecond, sameMicrosecond]

/--
Where leap seconds end minutes, what is shown tells the time to the microsecond.
-/
theorem shown_eq_iff
    {first second : Instant}
    (firstRegular : first.Regular)
    (secondRegular : second.Regular) :
    first.shown = second.shown ↔ first.truncated = second.truncated := by
  obtain ⟨firstSecond, firstNanosecond, firstLeap⟩ := firstRegular
  obtain ⟨secondSecond, secondNanosecond, secondLeap⟩ := secondRegular
  have sameTime :
      first.shownSecond = second.shownSecond ∧
          first.microsecond * 1000 = second.microsecond * 1000 ↔
        first.second = second.second ∧
          first.nanosecond / 1000 * 1000 =
            second.nanosecond / 1000 * 1000 := by
    have wholeSecond : Number.tenTo 9 = 1000000000 := rfl
    simp only [shownSecond, microsecond, wholeSecond]
    omega
  simp only [shown, truncated, mk.injEq, sameTime]

end Storyboard.Instant
