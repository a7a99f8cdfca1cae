import Mathlib.Logic.Function.Basic
import Storyboard.Proofs.Snapshot.Alignment

namespace Storyboard

/-!
# Archives side by side

A shelf holds any number of archives, each with a clock of its own.  A step is a
call on one of them or puts a copy of a snapshot of one archive into another.
Whatever the steps are, the snapshots, the ids and the index of every archive
tell the same, so a lookup finds a snapshot exactly where its id stands.
-/

namespace Archive

/-- A call of an archive's interface that may change it. -/
inductive Call where
  | issue
  | capture (description : String) (shapes : List Shape)
  | append (snapshot : Snapshot)
  | clear
deriving Repr, DecidableEq

/-- What a call answers. -/
inductive Reply where
  | issued (issued : Issued)
  | captured (id : SnapshotId)
  | appended
  | refused (refusal : Refusal)
  | cleared
deriving Repr, DecidableEq

/-- Carry out a call. -/
def perform (clock : Clock) (archive : Archive) : Call → Change Archive Reply
  | .issue =>
      let issued := archive.issue clock
      ⟨.issued issued.answer, issued.after⟩
  | .capture description shapes =>
      let captured := archive.capture clock description shapes
      ⟨.captured captured.answer, captured.after⟩
  | .append snapshot =>
      let appended := archive.append snapshot
      match appended.answer with
      | .ok () => ⟨.appended, appended.after⟩
      | .error refusal => ⟨.refused refusal, appended.after⟩
  | .clear => ⟨.cleared, archive.clear⟩

/-- The state after an append does not depend on how its answer is worded. -/
@[simp] theorem perform_append_after
    (clock : Clock)
    (archive : Archive)
    (snapshot : Snapshot) :
    (archive.perform clock (.append snapshot)).after =
      (archive.append snapshot).after := by
  simp only [perform]
  split <;> rfl

/-- Every call keeps snapshots, ids and index in step. -/
theorem Aligned.perform
    {archive : Archive}
    (aligned : archive.Aligned)
    (clock : Clock)
    (call : Call) :
    (archive.perform clock call).after.Aligned := by
  cases call with
  | issue =>
      exact aligned.skip 1
  | capture description shapes =>
      exact aligned.capture clock description shapes
  | append snapshot =>
      rw [perform_append_after]
      exact aligned.append snapshot
  | clear =>
      exact aligned_clear archive

end Archive

/-- Any number of archives, told apart by their numbers. -/
abbrev Shelf := Nat → Archive

namespace Shelf

/-- What happens on a shelf. -/
inductive Step where
  /-- A call on one archive; a snapshot that it appends may be any whatever. -/
  | call (target : Nat) (call : Archive.Call)
  /-- Append to one archive a copy of the snapshot at a position of another. -/
  | copy (source position target : Nat)
deriving Repr, DecidableEq

/-- A shelf of archives that have issued no id yet. -/
def fresh : Shelf :=
  fun _ => .empty

/-- Carry out a call on one archive by its own clock. -/
def performCall
    (clocks : Nat → Clock)
    (shelf : Shelf)
    (target : Nat)
    (call : Archive.Call) :
    Shelf :=
  Function.update shelf target
    ((shelf target).perform (clocks target) call).after

/-- Take a step; a copy of a snapshot that there is not changes nothing. -/
def step (clocks : Nat → Clock) (shelf : Shelf) : Step → Shelf
  | .call target call => shelf.performCall clocks target call
  | .copy source position target =>
      match (shelf source).get? position with
      | none => shelf
      | some snapshot => shelf.performCall clocks target (.append snapshot)

/-- Take steps one after the other. -/
def run (clocks : Nat → Clock) : Shelf → List Step → Shelf
  | shelf, [] => shelf
  | shelf, first :: rest => run clocks (shelf.step clocks first) rest

/-- Whether every archive of a shelf is aligned. -/
def Aligned (shelf : Shelf) : Prop :=
  ∀ number, (shelf number).Aligned

namespace Aligned

variable {shelf : Shelf}

/-- A call on one archive keeps all of them aligned. -/
theorem performCall
    (aligned : shelf.Aligned)
    (clocks : Nat → Clock)
    (target : Nat)
    (call : Archive.Call) :
    (shelf.performCall clocks target call).Aligned := by
  intro number
  by_cases isTarget : number = target
  · subst isTarget
    rw [Shelf.performCall, Function.update_self]
    exact (aligned number).perform (clocks number) call
  · rw [Shelf.performCall, Function.update_of_ne isTarget]
    exact aligned number

/-- A step keeps all archives aligned. -/
theorem step
    (aligned : shelf.Aligned)
    (clocks : Nat → Clock)
    (taken : Step) :
    (shelf.step clocks taken).Aligned := by
  cases taken with
  | call target call =>
      exact aligned.performCall clocks target call
  | copy source position target =>
      cases found : (shelf source).get? position with
      | none =>
          simpa [Shelf.step, found] using aligned
      | some snapshot =>
          simpa [Shelf.step, found] using
            aligned.performCall clocks target (.append snapshot)

/-- Any row of steps keeps all archives aligned. -/
theorem run
    (aligned : shelf.Aligned)
    (clocks : Nat → Clock)
    (steps : List Step) :
    (shelf.run clocks steps).Aligned := by
  induction steps generalizing shelf with
  | nil =>
      exact aligned
  | cons first rest inductionHypothesis =>
      exact inductionHypothesis (aligned.step clocks first)

end Aligned

/-- A fresh shelf is aligned. -/
theorem aligned_fresh : fresh.Aligned :=
  fun _ => Archive.aligned_clear .empty

/--
After any steps on any archives, every archive holds as many ids as snapshots,
each id beside its snapshot, no text twice, and an index without a missing,
stale or misdirected entry: a text finds a snapshot exactly if the snapshot
stands at the one position whose id has that text, and is refused exactly if no
id has it.
-/
theorem lookup_run_fresh
    (clocks : Nat → Clock)
    (steps : List Step)
    (number : Nat) :
    let archive := fresh.run clocks steps number
    archive.ids.size = archive.snapshots.size ∧
      (∀ position : Nat,
        archive.ids[position]? = archive.snapshots[position]?.map (·.id)) ∧
      archive.texts.Nodup ∧
      (∀ (text : String) (position : Nat),
        archive.index[text]? = some position ↔
          archive.texts[position]? = some text) ∧
      ∀ text,
        (∀ snapshot,
          (archive.find? text = some snapshot ↔
            ∃ position : Nat,
              archive.snapshots[position]? = some snapshot ∧
                ∀ other : Nat,
                  archive.texts[other]? = some text ↔ other = position) ∧
          (archive.require text = .ok snapshot ↔
            archive.find? text = some snapshot)) ∧
        (archive.require text = .error (.noSnapshot text) ↔
          text ∉ archive.texts) := by
  intro archive
  have aligned : archive.Aligned := aligned_fresh.run clocks steps number
  refine ⟨by simp [aligned.ids_eq], fun position => by simp [aligned.ids_eq],
    aligned.nodup_texts, aligned.index_iff,
    fun text => ⟨fun snapshot => ?_, ?_⟩⟩
  · exact ⟨aligned.find?_eq_some_iff text snapshot,
      archive.require_eq_ok_iff text snapshot⟩
  · rw [archive.require_eq_error_iff, aligned.find?_eq_none_iff]

end Shelf

end Storyboard
