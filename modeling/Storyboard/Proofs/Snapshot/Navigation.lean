import Mathlib
import Storyboard.Proofs.Snapshot.Shelf
import Storyboard.Snapshot.Cursor

namespace Storyboard

/-!
# The cursor agrees with the archive

A cursor steps to the position that the numbers tell, or stays where it is if
the archive has no such position.  It may stand beyond the end, where an archive
has been cleared under it.  The position is really a word of sixty-four bits and
the distance a signed one; their sum leaves the words exactly if it is negative
or too large.

A jump looks through the ids one after the other, and a look-up asks the index.
Both find the same snapshot, because the id texts of an archive all differ and
the index holds each with its position.
-/

theorem Archive.getElem?_texts_eq_map_ids (archive : Archive) (position : Nat) :
    archive.texts[position]? = archive.ids[position]?.map (·.text) := by
  simp [texts]

namespace Cursor

section Stepping

variable
  {cursor : Cursor}
  {archive : Archive}
  {distance : Int}

theorem step_eq
    (isPosition :
      0 ≤ cursor.position + distance ∧
        cursor.position + distance < archive.size) :
    cursor.step archive distance =
      ⟨true, ⟨(cursor.position + distance).toNat⟩⟩ :=
  if_pos isPosition

theorem step_eq_of_not
    (noPosition :
      ¬(0 ≤ cursor.position + distance ∧
        cursor.position + distance < archive.size)) :
    cursor.step archive distance = ⟨false, cursor⟩ :=
  if_neg noPosition

theorem step_answer_iff :
    (cursor.step archive distance).answer = true ↔
      0 ≤ cursor.position + distance ∧
        cursor.position + distance < archive.size := by
  by_cases isPosition :
      0 ≤ cursor.position + distance ∧ cursor.position + distance < archive.size
  · simp [step_eq isPosition, isPosition]
  · simp [step_eq_of_not isPosition, isPosition]

theorem step_after_position
    (moves : (cursor.step archive distance).answer = true) :
    ((cursor.step archive distance).after.position : Int) =
      cursor.position + distance := by
  have isPosition := step_answer_iff.mp moves
  rw [step_eq isPosition]
  exact Int.toNat_of_nonneg isPosition.1

theorem step_after_of_not
    (stays : (cursor.step archive distance).answer = false) :
    (cursor.step archive distance).after = cursor := by
  rw [step_eq_of_not (mt step_answer_iff.mpr (by simp [stays]))]

/-- A step back undoes a step from a position of the archive. -/
theorem step_neg_step
    (inArchive : cursor.position < archive.size)
    (moves : (cursor.step archive distance).answer = true) :
    (cursor.step archive distance).after.step archive (-distance) =
      ⟨true, cursor⟩ := by
  have isPosition := step_answer_iff.mp moves
  have isBack : ((cursor.position + distance).toNat : Int) + -distance =
      cursor.position := by
    omega
  rw [step_eq isPosition, step_eq (by rw [isBack]; omega), isBack,
    Int.toNat_natCast]

end Stepping

/-! Positions are words, and distances are words that may be negative. -/

/-- The sum of a word and a signed word, unless it is no word. -/
def sumInWords? (position : UInt64) (distance : Int64) : Option UInt64 :=
  let sum := position + distance.toUInt64
  let carries := decide (sum < position)
  let leaves := carries ^^ decide (distance < 0)
  if leaves then none else some sum

/-- A step as it is computed with words. -/
def stepInWords (archive : Archive) (position : UInt64) (distance : Int64) :
    Change UInt64 Bool :=
  match sumInWords? position distance with
  | some target =>
      if target.toNat < archive.size then ⟨true, target⟩ else ⟨false, position⟩
  | none => ⟨false, position⟩

/--
A signed word differs from its number by one whole round of words if it is
negative.
-/
theorem toNat_toUInt64_eq (distance : Int64) :
    (distance.toUInt64.toNat : Int) =
      if distance < 0 then distance.toInt + 2 ^ 64 else distance.toInt := by
  have signed : distance < 0 ↔ distance.toInt < 0 := by
    rw [Int64.lt_iff_toInt_lt, Int64.toInt_zero]
  have asBits : distance.toUInt64.toNat = distance.toBitVec.toNat := rfl
  have number := BitVec.toInt_eq_toNat_cond distance.toBitVec
  have bounded := distance.toBitVec.isLt
  rw [Int64.toInt_toBitVec] at number
  simp only [signed, asBits]
  split_ifs at number ⊢ <;> omega

/-- The sum is computed exactly if it is a word. -/
theorem sumInWords?_eq_some_iff
    {position target : UInt64}
    {distance : Int64} :
    sumInWords? position distance = some target ↔
      (target.toNat : Int) = position.toNat + distance.toInt := by
  have isWord := toNat_toUInt64_eq distance
  have sum := UInt64.toNat_add position distance.toUInt64
  have carries : position + distance.toUInt64 < position ↔
      (position + distance.toUInt64).toNat < position.toNat :=
        UInt64.lt_iff_toNat_lt
  have positionBounded := position.toNat_lt
  have targetBounded := target.toNat_lt
  have wordBounded := distance.toUInt64.toNat_lt
  have signed : distance < 0 ↔ distance.toInt < 0 := by
    rw [Int64.lt_iff_toInt_lt, Int64.toInt_zero]
  have lower := distance.le_toInt
  have upper := distance.toInt_lt
  simp only [sumInWords?, carries]
  rw [Option.ite_none_left_eq_some, Option.some.injEq, ← UInt64.toNat_inj]
  by_cases backward : distance < 0
  · have negative := signed.mp backward
    rw [if_pos backward] at isWord
    simp only [backward, decide_true, Bool.xor_true, Bool.not_eq_true',
      decide_eq_false_iff_not]
    omega
  · have notNegative := mt signed.mpr backward
    rw [if_neg backward] at isWord
    simp only [backward, decide_false, Bool.xor_false, decide_eq_true_eq]
    omega

/-- There is no sum if it is negative or needs another bit. -/
theorem sumInWords?_eq_none_iff
    {position : UInt64}
    {distance : Int64} :
    sumInWords? position distance = none ↔
      ¬(0 ≤ position.toNat + distance.toInt ∧
        position.toNat + distance.toInt < 2 ^ 64) := by
  constructor
  · rintro noSum ⟨notNegative, inWords⟩
    obtain ⟨sum, isSum⟩ := Int.eq_ofNat_of_zero_le notNegative
    have isWord : (UInt64.ofNat sum).toNat = sum :=
      UInt64.toNat_ofNat_of_lt' (by change sum < 2 ^ 64; omega)
    rw [sumInWords?_eq_some_iff.mpr (isWord ▸ isSum.symm)] at noSum
    cases noSum
  · intro outside
    cases sum : sumInWords? position distance with
    | none =>
        rfl
    | some target =>
        have isSum := sumInWords?_eq_some_iff.mp sum
        have bounded := target.toNat_lt
        omega

/-- A step that is computed with words is the step that is meant. -/
theorem stepInWords_eq
    {archive : Archive}
    (fits : archive.size < 2 ^ 64)
    (position : UInt64)
    (distance : Int64) :
    let inWords := stepInWords archive position distance
    (⟨position.toNat⟩ : Cursor).step archive distance.toInt =
      ⟨inWords.answer, ⟨inWords.after.toNat⟩⟩ := by
  cases sum : sumInWords? position distance with
  | some target =>
      have isSum := sumInWords?_eq_some_iff.mp sum
      simp only [stepInWords, sum]
      split
      case isTrue inArchive =>
        rw [step_eq (by rw [← isSum]; omega), ← isSum, Int.toNat_natCast]
      case isFalse outside =>
        rw [step_eq_of_not (by rw [← isSum]; omega)]
  | none =>
      have noSum := sumInWords?_eq_none_iff.mp sum
      simp only [stepInWords, sum]
      have inWords : (archive.size : Int) < 2 ^ 64 := by omega
      exact step_eq_of_not fun isPosition =>
        noSum ⟨isPosition.1, isPosition.2.trans inWords⟩

/-- A step back is also one with words, unless its distance has no negative. -/
theorem stepInWords_neg_stepInWords
    {archive : Archive}
    (fits : archive.size < 2 ^ 64)
    {position : UInt64}
    {distance : Int64}
    (negatable : distance ≠ Int64.minValue)
    (inArchive : position.toNat < archive.size)
    (moves : (stepInWords archive position distance).answer = true) :
    stepInWords archive (stepInWords archive position distance).after
      (-distance) =
      ⟨true, position⟩ := by
  have isNegative : (-distance).toInt = -distance.toInt := by
    have notLeast := mt Int64.toInt_inj.mp negatable
    have lower := distance.le_toInt
    have upper := distance.toInt_lt
    rw [Int64.toInt_minValue] at notLeast
    rw [Int64.toInt_neg]
    exact Int.bmod_eq_of_le (by omega) (by omega)
  have there := stepInWords_eq fits position distance
  have back := stepInWords_eq fits
    (stepInWords archive position distance).after (-distance)
  let cursor : Cursor := ⟨position.toNat⟩
  have undone :
      (cursor.step archive distance.toInt).after.step archive
        (-distance.toInt) =
        ⟨true, cursor⟩ :=
    step_neg_step inArchive (by rw [there]; exact moves)
  simp only [cursor, there] at undone
  simp only [isNegative, undone, Change.mk.injEq, Cursor.mk.injEq,
    UInt64.toNat_inj] at back
  generalize stepInWords archive _ (-distance) = returned at back ⊢
  cases returned
  simpa only [Change.mk.injEq, eq_comm] using back

section Jumping

variable
  {archive : Archive}
  {text : String}

theorem jumpTo_of_text_at
    (aligned : archive.Aligned)
    {position : Nat}
    (isText : archive.texts[position]? = some text)
    (cursor : Cursor) :
    cursor.jumpTo archive text = ⟨true, ⟨position⟩⟩ := by
  have found : archive.ids.findIdx? (·.text = text) = some position := by
    have isIdText := isText
    rw [archive.getElem?_texts_eq_map_ids, Option.map_eq_some_iff] at isIdText
    rcases isIdText with ⟨id, isId, sameText⟩
    rw [Array.findIdx?_eq_some_iff_getElem]
    obtain ⟨inIds, atPosition⟩ := Array.getElem?_eq_some_iff.mp isId
    refine ⟨inIds, by simp [atPosition,
      sameText], fun other before sameOther => ?_⟩
    have isOther : archive.texts[other]? = some text := by
      rw [archive.getElem?_texts_eq_map_ids,
        Array.getElem?_eq_getElem (before.trans inIds)]
      simpa using sameOther
    rw [aligned.text_at_iff isText] at isOther
    omega
  rw [jumpTo, found]

theorem jumpTo_of_notMem
    (absent : text ∉ archive.texts)
    (cursor : Cursor) :
    cursor.jumpTo archive text = ⟨false, cursor⟩ := by
  have noneFound : archive.ids.findIdx? (·.text = text) = none := by
    rw [Array.findIdx?_eq_none_iff]
    intro id member
    rw [decide_eq_false_iff_not]
    rintro rfl
    exact absent (List.mem_map_of_mem (Array.mem_toList_iff.mpr member))
  rw [jumpTo, noneFound]

/-- A jump ends at the snapshot that a look-up finds. -/
theorem jumpTo_of_find?_eq_some
    (aligned : archive.Aligned)
    {snapshot : Snapshot}
    (found : archive.find? text = some snapshot)
    (cursor : Cursor) :
    (cursor.jumpTo archive text).answer = true ∧
      (cursor.jumpTo archive text).after.current? archive = some snapshot := by
  obtain ⟨position, isSnapshot, onlyThere⟩ :=
    (aligned.find?_eq_some_iff text snapshot).mp found
  rw [jumpTo_of_text_at aligned ((onlyThere position).mpr rfl)]
  exact ⟨rfl, isSnapshot⟩

/-- A jump to what no look-up finds leads nowhere. -/
theorem jumpTo_of_find?_eq_none
    (aligned : archive.Aligned)
    (notFound : archive.find? text = none)
    (cursor : Cursor) :
    cursor.jumpTo archive text = ⟨false, cursor⟩ :=
  jumpTo_of_notMem ((aligned.find?_eq_none_iff text).mp notFound) cursor

end Jumping

end Cursor

namespace Shelf

/--
In an archive that any steps have filled, a cursor steps to exactly the
positions that there are, and a step back from there to a position of the
archive restores it; with words it steps in the same way.  It jumps to exactly
the texts that a look-up finds, and to the snapshot that this finds.  Otherwise
it stays where it is.
-/
theorem navigation_run_fresh
    (clocks : Nat → Clock)
    (steps : List Step)
    (number : Nat)
    (fits : (fresh.run clocks steps number).size < 2 ^ 64) :
    let archive := fresh.run clocks steps number
    (∀ (cursor : Cursor) (distance : Int),
      let moved := cursor.step archive distance
      (moved.answer = true ↔
          0 ≤ cursor.position + distance ∧
            cursor.position + distance < archive.size) ∧
        (moved.answer = true →
          (moved.after.position : Int) = cursor.position + distance) ∧
        (moved.answer = false → moved.after = cursor) ∧
        (cursor.position < archive.size →
          moved.answer = true →
          moved.after.step archive (-distance) = ⟨true, cursor⟩)) ∧
      (∀ (position : UInt64) (distance : Int64),
        let moved := Cursor.stepInWords archive position distance
        (⟨position.toNat⟩ : Cursor).step archive distance.toInt =
            ⟨moved.answer, ⟨moved.after.toNat⟩⟩ ∧
          (position.toNat < archive.size →
            distance ≠ Int64.minValue →
            moved.answer = true →
            Cursor.stepInWords archive moved.after (-distance) =
              ⟨true, position⟩)) ∧
      ∀ (cursor : Cursor) (text : String),
        let jumped := cursor.jumpTo archive text
        (jumped.answer = true ↔ (archive.find? text).isSome = true) ∧
          (jumped.answer = true →
            jumped.after.current? archive = archive.find? text) ∧
          (jumped.answer = false → jumped.after = cursor) := by
  intro archive
  have aligned : archive.Aligned := aligned_fresh.run clocks steps number
  refine ⟨fun cursor distance => ?_, fun position distance => ?_,
    fun cursor text => ?_⟩
  · exact ⟨Cursor.step_answer_iff, Cursor.step_after_position,
      Cursor.step_after_of_not, Cursor.step_neg_step⟩
  · exact ⟨Cursor.stepInWords_eq fits position distance,
      fun inArchive negatable moves =>
        Cursor.stepInWords_neg_stepInWords fits negatable inArchive moves⟩
  · cases found : archive.find? text with
    | some snapshot =>
        obtain ⟨moves, isCurrent⟩ :=
          Cursor.jumpTo_of_find?_eq_some aligned found cursor
        simp [moves, isCurrent]
    | none =>
        simp [Cursor.jumpTo_of_find?_eq_none aligned found cursor]

/-- From the first of two snapshots the cursor steps to the second and back. -/
theorem navigation_of_two_snapshots :
    let steps : List Step :=
      [.call 0 (.append ⟨⟨1, "a"⟩, "", "", []⟩),
        .call 0 (.append ⟨⟨2, "b"⟩, "", "", []⟩)]
    let archive := fresh.run (fun _ _ => ⟨0, 0, 0, 0, 0, 0, 0⟩) steps 0
    archive.size < 2 ^ 64 ∧
      (Cursor.first.step archive 1).after.step archive (-1) =
        ⟨true, .first⟩ := by
  intro steps archive
  have fits : archive.size < 2 ^ 64 := by decide
  have moves : (Cursor.first.step archive 1).answer = true := by decide
  have inArchive : Cursor.first.position < archive.size := by decide
  exact ⟨fits,
    ((navigation_run_fresh _ steps 0 fits).1 .first 1).2.2.2 inArchive moves⟩

end Shelf

end Storyboard
