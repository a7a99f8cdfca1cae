import Storyboard.Proofs.Snapshot.Shelf

namespace Storyboard.Archive

/-!
# Ids are handed out in order

An archive counts its sequence numbers up and never down, not even when it is
cleared.  Ids that it hands out later therefore stand behind those that it
handed out earlier and differ from them in their texts, whatever the clock
shows.  A capture may use up numbers under which appended snapshots are already
held; that leaves gaps in the numbers and nothing else.
-/

/--
Ids that were issued one after the other while a range of sequence numbers was
used up.
-/
structure IssuedBetween
    (clock : Clock)
    (first next : Nat)
    (ids : List SnapshotId) : Prop where
  first_le :
    first ≤ next
  isClocked :
    ∀ id ∈ ids, id = clockedId clock id.sequence
  inRange :
    ∀ id ∈ ids, first ≤ id.sequence ∧ id.sequence < next
  increasing :
    ids.Pairwise fun earlier later => earlier.sequence < later.sequence

namespace IssuedBetween

variable
  {clock : Clock}
  {first middle next : Nat}
  {ids : List SnapshotId}

theorem none
    (first_le : first ≤ next) :
    IssuedBetween clock first next [] where
  first_le := first_le
  isClocked := by simp
  inRange := by simp
  increasing := .nil

theorem one
    {sequence : Nat}
    (first_le : first ≤ sequence)
    (lt_next : sequence < next) :
    IssuedBetween clock first next [clockedId clock sequence] where
  first_le := Nat.le_of_lt (Nat.lt_of_le_of_lt first_le lt_next)
  isClocked := by simp [clockedId, SnapshotId.issuedAt]
  inRange := by simpa [clockedId, SnapshotId.issuedAt] using ⟨first_le, lt_next⟩
  increasing := List.pairwise_singleton ..

/-- Ids that were issued after others stand behind them. -/
theorem append
    {laterIds : List SnapshotId}
    (earlier : IssuedBetween clock first middle ids)
    (later : IssuedBetween clock middle next laterIds) :
    IssuedBetween clock first next (ids ++ laterIds) where
  first_le := earlier.first_le.trans later.first_le
  isClocked := by
    rw [List.forall_mem_append]
    exact ⟨earlier.isClocked, later.isClocked⟩
  inRange := by
    rw [List.forall_mem_append]
    constructor
    · intro id member
      obtain ⟨fromFirst, belowMiddle⟩ := earlier.inRange id member
      exact ⟨fromFirst, belowMiddle.trans_le later.first_le⟩
    · intro id member
      obtain ⟨fromMiddle, belowNext⟩ := later.inRange id member
      exact ⟨earlier.first_le.trans fromMiddle, belowNext⟩
  increasing := by
    rw [List.pairwise_append]
    refine ⟨earlier.increasing, later.increasing, ?_⟩
    intro id member laterId laterMember
    exact (earlier.inRange id member).2.trans_le
      (later.inRange laterId laterMember).1

/-- The order of ids is the one in which they were issued. -/
theorem pairwise_order
    (issued : IssuedBetween clock first next ids) :
    ids.Pairwise fun earlier later => earlier.order later = .lt := by
  refine issued.increasing.imp ?_
  intro earlier later before
  rw [SnapshotId.order, Nat.compare_eq_lt.mpr before]
  rfl

/-- No two issued ids have one text. -/
theorem nodup_texts
    (issued : IssuedBetween clock first next ids) :
    (ids.map (·.text)).Nodup := by
  rw [List.Nodup, List.pairwise_map]
  refine issued.increasing.imp_of_mem ?_
  intro earlier later member laterMember before sameText
  rw [issued.isClocked earlier member, issued.isClocked later laterMember]
    at sameText
  have sameSequence := clockedId_text_injective clock sameText
  omega

end IssuedBetween

/-- The id that a reply hands out. -/
def Reply.id? : Reply → Option SnapshotId
  | .issued made => some made.id
  | .captured id => some id
  | .appended | .refused _ | .cleared => none

/-- Whether a call asks for an id. -/
def Call.asksForId : Call → Bool
  | .issue | .capture .. => true
  | .append _ | .clear => false

/-- Carry out calls one after the other. -/
def performAll (clock : Clock) (archive : Archive) :
    List Call → Change Archive (List Reply)
  | [] => ⟨[], archive⟩
  | call :: rest =>
      let first := archive.perform clock call
      let later := performAll clock first.after rest
      ⟨first.answer :: later.answer, later.after⟩

/-- The ids that calls hand out, in order. -/
def handedOut (clock : Clock) (archive : Archive) (calls : List Call) :
    List SnapshotId :=
  (archive.performAll clock calls).answer.filterMap Reply.id?

section Replies

variable
  {α : Type}
  (project : Reply → Option α)
  (clock : Clock)
  (archive : Archive)

/-- What is wanted of the replies to calls, the first one apart. -/
theorem filterMap_answer_cons (call : Call) (rest : List Call) :
    (archive.performAll clock (call :: rest)).answer.filterMap project =
      (project (archive.perform clock call).answer).toList ++
        ((archive.perform clock call).after.performAll clock
          rest).answer.filterMap
          project := by
  rw [performAll, List.filterMap_cons]
  cases project (archive.perform clock call).answer <;> rfl

/-- Later calls are answered by the archive that the former ones leave. -/
theorem filterMap_answer_append (former further : List Call) :
    (archive.performAll clock (former ++ further)).answer.filterMap project =
      (archive.performAll clock former).answer.filterMap project ++
        ((archive.performAll clock former).after.performAll clock
          further).answer.filterMap project := by
  rw [← List.filterMap_append]
  congr 1
  induction former generalizing archive with
  | nil =>
      rfl
  | cons call rest inductionHypothesis =>
      exact congrArg _ (inductionHypothesis (archive.perform clock call).after)

end Replies

section

variable
  (clock : Clock)
  (archive : Archive)

theorem nextSequence_append (snapshot : Snapshot) :
    (archive.append snapshot).after.nextSequence = archive.nextSequence := by
  unfold append
  split <;> rfl

/--
A capture issues ids until one is free, and hands out the last of them.  The
numbers of the others are used up.
-/
theorem issuedBetween_capture
    (description : String)
    (shapes : List Shape) :
    let captured := archive.capture clock description shapes
    IssuedBetween clock archive.nextSequence captured.after.nextSequence
      [captured.answer] := by
  intro captured
  obtain ⟨skipped, -, result, -, -⟩ :=
    issueFree_eq_issue clock archive.size archive
  have isAnswer :
      captured.answer =
        clockedId clock (archive.nextSequence + skipped) := by
    simp only [captured, capture, result, issue_eq, skip]
  have usedUp :
      captured.after.nextSequence = archive.nextSequence + skipped + 1 := by
    simp only [captured, capture, result, issue_eq, skip, push]
  rw [isAnswer, usedUp]
  exact .one (Nat.le_add_right ..) (Nat.lt_succ_self _)

/-- A call hands out at most one id, under a sequence number that it uses up. -/
theorem issuedBetween_perform (call : Call) :
    IssuedBetween clock archive.nextSequence
      (archive.perform clock call).after.nextSequence
      (archive.perform clock call).answer.id?.toList := by
  cases call with
  | issue =>
      exact .one (Nat.le_refl _) (Nat.lt_succ_self _)
  | capture description shapes =>
      exact issuedBetween_capture clock archive description shapes
  | append snapshot =>
      have handsOutNothing :
          (archive.perform clock (.append snapshot)).answer.id? = .none := by
        simp only [perform]
        split <;> rfl
      rw [handsOutNothing, perform_append_after, nextSequence_append]
      exact .none (Nat.le_refl _)
  | clear =>
      exact .none (Nat.le_refl _)

/-- Calls hand out ids in order, under sequence numbers that they use up. -/
theorem issuedBetween_handedOut (calls : List Call) :
    IssuedBetween clock archive.nextSequence
      (archive.performAll clock calls).after.nextSequence
      (archive.handedOut clock calls) := by
  induction calls generalizing archive with
  | nil =>
      exact .none (Nat.le_refl _)
  | cons call rest inductionHypothesis =>
      rw [handedOut, filterMap_answer_cons]
      exact (issuedBetween_perform clock archive call).append
        (inductionHypothesis (archive.perform clock call).after)

/-- A call hands out an id exactly if it asks for one. -/
theorem isSome_id?_perform (call : Call) :
    (archive.perform clock call).answer.id?.isSome = call.asksForId := by
  cases call with
  | append snapshot =>
      simp only [perform]
      split <;> rfl
  | issue | capture | clear =>
      rfl

/-- Calls hand out as many ids as they ask for. -/
theorem length_handedOut (calls : List Call) :
    (archive.handedOut clock calls).length =
      calls.countP Call.asksForId := by
  induction calls generalizing archive with
  | nil =>
      rfl
  | cons call rest inductionHypothesis =>
      have oneOrNone := isSome_id?_perform clock archive call
      simp only [handedOut] at inductionHypothesis ⊢
      rw [filterMap_answer_cons, List.length_append, inductionHypothesis,
        List.countP_cons, ← oneOrNone, Nat.add_comm]
      cases (archive.perform clock call).answer.id? <;> rfl

end

end Storyboard.Archive
