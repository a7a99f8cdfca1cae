import Storyboard.Proofs.Number.Digits
import Storyboard.Snapshot.Basic

namespace Storyboard

/-!
# The text of an id determines its sequence number

The sequence number stands behind the last number sign of an id text and is
written with digits only.  Two ids that are issued under different sequence
numbers therefore differ in their texts, whatever the clock showed.
-/

namespace Text

/-- What stands before the first separator is what comes up to it. -/
theorem takeWhile_ne_append_cons
    {separator : Char}
    {before : List Char}
    (notBefore : separator ∉ before)
    (after : List Char) :
    (before ++ separator :: after).takeWhile (· ≠ separator) = before := by
  rw [List.takeWhile_append_of_pos]
  · simp
  · intro c member
    simpa using ne_of_mem_of_not_mem member notBefore

/-- Two texts with equal first separators agree before and after them. -/
theorem before_after_of_append_cons_eq
    {separator : Char}
    {firstBefore firstAfter secondBefore secondAfter : List Char}
    (notFirst : separator ∉ firstBefore)
    (notSecond : separator ∉ secondBefore)
    (same :
      firstBefore ++ separator :: firstAfter =
        secondBefore ++ separator :: secondAfter) :
    firstBefore = secondBefore ∧ firstAfter = secondAfter := by
  have sameBefore : firstBefore = secondBefore := by
    rw [← takeWhile_ne_append_cons notFirst firstAfter, same,
      takeWhile_ne_append_cons notSecond secondAfter]
  subst sameBefore
  exact ⟨rfl, List.tail_eq_of_cons_eq (List.append_cancel_left same)⟩

end Text

namespace Instant

/-- The characters of a padded number. -/
@[simp] theorem toList_padded (width number : Nat) :
    (padded width number).toList = Number.paddedDigits width number := by
  simp [padded]

end Instant

/--
Two texts that end in a separator and a padded number agree before the separator
and in the number, because the digits reach up to the last separator.
-/
theorem Number.before_eq_and_number_eq
    {separator : Char}
    (noDigit : separator.isDigit = false)
    {width firstNumber secondNumber : Nat}
    {firstBefore secondBefore : List Char}
    (same :
      firstBefore ++ separator :: paddedDigits width firstNumber =
        secondBefore ++ separator :: paddedDigits width secondNumber) :
    firstBefore = secondBefore ∧ firstNumber = secondNumber := by
  have notInDigits (number : Nat) :
      separator ∉ (paddedDigits width number).reverse :=
    List.mem_reverse.not.mpr (notMem_paddedDigits noDigit width number)
  have sameReversed := congrArg List.reverse same
  simp only [List.reverse_append, List.reverse_cons, List.append_assoc,
    List.singleton_append] at sameReversed
  obtain ⟨sameDigits, sameBefore⟩ :=
    Text.before_after_of_append_cons_eq
      (notInDigits firstNumber) (notInDigits secondNumber) sameReversed
  constructor
  · exact List.reverse_injective sameBefore
  · exact paddedDigits_injective width (List.reverse_injective sameDigits)

namespace SnapshotId

/--
The characters of an issued id: the clock part, a number sign, the digits.
-/
theorem toList_text_issuedAt (sequence : Nat) (instant : Instant) :
    (issuedAt sequence instant).text.toList =
      instant.idText.toList ++ '#' :: Number.paddedDigits 4 sequence := by
  simp [issuedAt]

/-- Ids with equal texts have equal clock parts and equal sequence numbers. -/
theorem parts_of_text_eq
    {firstSequence secondSequence : Nat}
    {firstInstant secondInstant : Instant}
    (sameText :
      (issuedAt firstSequence firstInstant).text =
        (issuedAt secondSequence secondInstant).text) :
    firstInstant.idText = secondInstant.idText ∧
      firstSequence = secondSequence := by
  have sameChars := congrArg String.toList sameText
  rw [toList_text_issuedAt, toList_text_issuedAt] at sameChars
  obtain ⟨sameClock, sameSequence⟩ :=
    Number.before_eq_and_number_eq (by decide) sameChars
  exact ⟨String.toList_inj.mp sameClock, sameSequence⟩

/--
The id with a text, its sequence number read from behind the last number sign.
-/
def ofText (text : String) : SnapshotId :=
  ⟨Number.ofDigits (text.toList.reverse.takeWhile (· ≠ '#')).reverse, text⟩

/-- An issued id is known from its text. -/
theorem ofText_text_issuedAt (sequence : Nat) (instant : Instant) :
    ofText (issuedAt sequence instant).text = issuedAt sequence instant := by
  have notInDigits : '#' ∉ (Number.paddedDigits 4 sequence).reverse :=
    List.mem_reverse.not.mpr (Number.notMem_paddedDigits (by decide) 4 sequence)
  rw [ofText, toList_text_issuedAt, List.reverse_append, List.reverse_cons,
    List.append_assoc, List.singleton_append,
    Text.takeWhile_ne_append_cons notInDigits, List.reverse_reverse,
    Number.ofDigits_paddedDigits]
  rfl

end SnapshotId

end Storyboard
