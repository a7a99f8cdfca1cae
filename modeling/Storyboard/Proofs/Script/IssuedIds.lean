import Storyboard.Proofs.Script.Captures
import Storyboard.Proofs.Snapshot.Issuing

namespace Storyboard.Script

/-!
# The ids that scripts leave in an archive

Scripts put nothing into an archive but what it captures itself.  The ids that
it holds are then those that it handed out since it was last cleared, so they
stand in its list in the order of their sequence numbers.
-/

/-- The album after some sources were run one after the other. -/
def runAll (clock : Clock) (album : Album) (sources : List String) : Album :=
  sources.foldl (fun album source => (run clock album source).after) album

namespace Reached

variable
  {clock : Clock}
  {album : Album}

/-- Running further sources stays among the albums that scripts reach. -/
theorem runAll
    (reached : Reached clock album)
    (sources : List String) :
    Reached clock (Script.runAll clock album sources) := by
  induction sources generalizing album with
  | nil =>
      exact reached
  | cons source rest inductionHypothesis =>
      exact inductionHypothesis (reached.run source)

/--
The held ids of every album that scripts reach were issued in their order.
-/
theorem issuedBetween_ids (reached : Reached clock album) :
    Archive.IssuedBetween clock 1 album.archive.nextSequence
      album.archive.ids.toList := by
  induction reached with
  | fresh =>
      exact .none (Nat.le_refl 1)
  | @line before reachedBefore line inductionHypothesis =>
      obtain ⟨aligned, own⟩ := reachedBefore.archive_own
      rw [executeLine_after, archive_executeOptional]
      split
      · rw [own.capture_eq aligned, Archive.push, Array.toList_push]
        exact inductionHypothesis.append
          (.one (Nat.le_refl _) (Nat.lt_succ_self _))
      · split
        · exact .none inductionHypothesis.first_le
        · exact inductionHypothesis

end Reached

/--
The ids that the calls on an archive hand out have increasing sequence numbers
and texts that all differ, and their order is the one in which they are handed
out.  The ids that any scripts leave in a fresh album stand in this order too.
-/
theorem ids_increasing (clock : Clock) :
    (∀ (archive : Archive) (calls : List Archive.Call),
      let ids := archive.handedOut clock calls
      ids.length = calls.countP Archive.Call.asksForId ∧
        ids.Pairwise (fun earlier later => earlier.sequence < later.sequence) ∧
        (ids.map (·.text)).Nodup ∧
        ids.Pairwise fun earlier later => earlier.order later = .lt) ∧
      ∀ sources : List String,
        (runAll clock .empty sources).archive.ids.toList.Pairwise
          fun earlier later => earlier.order later = .lt := by
  constructor
  · intro archive calls ids
    have issued := archive.issuedBetween_handedOut clock calls
    exact ⟨archive.length_handedOut clock calls, issued.increasing,
      issued.nodup_texts, issued.pairwise_order⟩
  · intro sources
    have reached : Reached clock (runAll clock .empty sources) :=
      Reached.fresh.runAll sources
    exact reached.issuedBetween_ids.pairwise_order

end Storyboard.Script
