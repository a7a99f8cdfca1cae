import Storyboard.Proofs.Snapshot.ClockText

namespace Storyboard.SnapshotId

/-!
# Equal ids and their order

Ids are equal if their texts are, and they are ordered by their sequence numbers
first.  The two agree on issued ids, because the text of an issued id tells its
sequence number: no two ids of one text differ in the order.
-/

/--
Issued ids have one text exactly if they have one number and show one time.
-/
theorem text_issuedAt_eq_iff
    (firstSequence secondSequence : Nat)
    (first second : Instant) :
    (issuedAt firstSequence first).text =
        (issuedAt secondSequence second).text ↔
      firstSequence = secondSequence ∧ first.shown = second.shown := by
  constructor
  · intro sameText
    obtain ⟨sameClock, sameSequence⟩ := parts_of_text_eq sameText
    exact ⟨sameSequence, (Instant.idText_eq_iff first second).mp sameClock⟩
  · rintro ⟨rfl, sameShown⟩
    have sameClock := (Instant.idText_eq_iff first second).mpr sameShown
    simp only [issuedAt, sameClock]

theorem order_eq_eq_iff (first second : SnapshotId) :
    first.order second = .eq ↔
      first.sequence = second.sequence ∧ first.text = second.text := by
  simp [order, Ordering.then_eq_eq]

/-- On issued ids, the order tells as equal what the texts tell as equal. -/
theorem same_issuedAt_iff_order_eq
    (firstSequence secondSequence : Nat)
    (first second : Instant) :
    (issuedAt firstSequence first).same (issuedAt secondSequence second) =
        true ↔
      (issuedAt firstSequence first).order (issuedAt secondSequence second) =
        .eq := by
  rw [order_eq_eq_iff, same, beq_iff_eq]
  constructor
  · intro sameText
    exact ⟨(parts_of_text_eq sameText).2, sameText⟩
  · rintro ⟨-, sameText⟩
    exact sameText

instance : Std.TransCmp order :=
  inferInstanceAs
    (Std.TransCmp
      (compareLex (compareOn SnapshotId.sequence) (compareOn SnapshotId.text)))

instance : Std.LawfulEqCmp order where
  eq_of_compare {first second} isEq := by
    obtain ⟨sameSequence, sameText⟩ := (order_eq_eq_iff first second).mp isEq
    cases first
    cases second
    cases sameSequence
    cases sameText
    rfl

/--
Issued ids have one text exactly if they have one sequence number and their
clocks showed one time to the microsecond, which is the time itself unless a
leap second stands elsewhere than at the end of a minute.  They are equal
exactly if their order says so.  The order is total, and a smaller sequence
number always comes first.
-/
theorem equality_agrees_with_order :
    (∀ (firstSequence secondSequence : Nat) (first second : Instant),
      let firstId := issuedAt firstSequence first
      let secondId := issuedAt secondSequence second
      (firstId.text = secondId.text ↔
        firstSequence = secondSequence ∧ first.shown = second.shown) ∧
      (first.Regular → second.Regular →
        (firstId.text = secondId.text ↔
          firstSequence = secondSequence ∧
            first.truncated = second.truncated)) ∧
      (firstId.same secondId = true ↔ firstId.order secondId = .eq)) ∧
    (∀ first second third : SnapshotId,
      (first.order second = .eq ↔ first = second) ∧
      second.order first = (first.order second).swap ∧
      ((first.order second).isLE → (second.order third).isLE →
        (first.order third).isLE)) ∧
    ∀ first second : SnapshotId,
      first.sequence < second.sequence → first.order second = .lt := by
  refine ⟨?issued, ?total, ?bySequence⟩
  case issued =>
    intro firstSequence secondSequence first second firstId secondId
    have sameText :=
      text_issuedAt_eq_iff firstSequence secondSequence first second
    refine ⟨sameText, ?_, ?_⟩
    · intro firstRegular secondRegular
      rw [← Instant.shown_eq_iff firstRegular secondRegular]
      exact sameText
    · exact same_issuedAt_iff_order_eq firstSequence secondSequence first second
  case total =>
    intro first second third
    exact ⟨Std.LawfulEqCmp.compare_eq_iff_eq, Std.OrientedCmp.eq_swap,
      Std.TransCmp.isLE_trans⟩
  case bySequence =>
    intro first second before
    rw [order, Nat.compare_eq_lt.mpr before]
    rfl

/--
Two readings in the leap second at the end of a year, less than a microsecond
apart.
-/
theorem text_eq_within_microsecond :
    let first : Instant := ⟨2016, 12, 31, 23, 59, 59, 1500000000⟩
    let second : Instant := ⟨2016, 12, 31, 23, 59, 59, 1500000999⟩
    (first.Regular ∧ second.Regular) ∧
      first.truncated = second.truncated ∧
      (issuedAt 10000 first).text = (issuedAt 10000 second).text := by
  intro first second
  have regular : first.Regular ∧ second.Regular := by
    constructor <;> constructor <;> decide
  have sameTime : first.truncated = second.truncated := by
    decide
  obtain ⟨issued, -, -⟩ := equality_agrees_with_order
  obtain ⟨-, sameText, -⟩ := issued 10000 10000 first second
  exact ⟨regular, sameTime,
    (sameText regular.1 regular.2).mpr ⟨rfl, sameTime⟩⟩

/--
A leap second within a minute and the second after it, which have one text.
-/
theorem text_eq_of_leap_within_minute :
    let first : Instant := ⟨2020, 5, 5, 5, 5, 7, 1250000000⟩
    let second : Instant := ⟨2020, 5, 5, 5, 5, 8, 250000000⟩
    (issuedAt 1 first).text = (issuedAt 1 second).text ∧
      first.truncated ≠ second.truncated := by
  decide +kernel

end Storyboard.SnapshotId
