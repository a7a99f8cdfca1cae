import Storyboard.Proofs.Snapshot.Issuing

namespace Storyboard.Archive

/-!
# Archives that only grow

As long as an archive is not cleared, calls put snapshots at its end and leave
all that it holds where it is.  No text enters the index twice, because an
append is refused under a held text and a capture passes over it.  What was
found under a text is therefore found under it for good.
-/

/-- A later archive holds all that an earlier one holds, at the same places. -/
structure Extends (earlier later : Archive) : Prop where
  snapshots_prefix :
    earlier.snapshots.toList <+: later.snapshots.toList
  index_kept :
    ∀ (text : String) (position : Nat),
      earlier.index[text]? = some position →
        later.index[text]? = some position

namespace Extends

variable {earlier middle later : Archive}

theorem refl (archive : Archive) : archive.Extends archive where
  snapshots_prefix := List.prefix_refl _
  index_kept := fun _ _ indexed => indexed

theorem trans
    (first : earlier.Extends middle)
    (second : middle.Extends later) :
    earlier.Extends later where
  snapshots_prefix := first.snapshots_prefix.trans second.snapshots_prefix
  index_kept := by
    intro text position indexed
    exact second.index_kept text position
      (first.index_kept text position indexed)

/-- Positions go on to hold the snapshots that they held. -/
theorem get?_eq_some
    (extended : earlier.Extends later)
    {position : Nat}
    {snapshot : Snapshot}
    (held : earlier.get? position = some snapshot) :
    later.get? position = some snapshot := by
  obtain ⟨added, after⟩ := extended.snapshots_prefix
  rw [get?, ← Array.getElem?_toList] at held ⊢
  obtain ⟨inBounds, -⟩ := List.getElem?_eq_some_iff.mp held
  rw [← after, List.getElem?_append_left inBounds]
  exact held

/-- Texts go on to find the snapshots that they found. -/
theorem find?_eq_some
    (extended : earlier.Extends later)
    {text : String}
    {snapshot : Snapshot}
    (found : earlier.find? text = some snapshot) :
    later.find? text = some snapshot := by
  rw [find?, Option.bind_eq_some_iff] at found ⊢
  obtain ⟨position, indexed, held⟩ := found
  exact ⟨position, extended.index_kept text position indexed,
    extended.get?_eq_some held⟩

/-- Held texts stay held. -/
theorem holds
    (extended : earlier.Extends later)
    {text : String}
    (held : earlier.holds text = true) :
    later.holds text = true := by
  rw [Archive.holds, Std.ExtTreeMap.contains_eq_isSome_getElem?,
    Option.isSome_iff_exists] at held ⊢
  obtain ⟨position, indexed⟩ := held
  exact ⟨position, extended.index_kept text position indexed⟩

end Extends

section

variable (archive : Archive)

theorem extends_skip (count : Nat) : archive.Extends (archive.skip count) where
  snapshots_prefix := List.prefix_refl _
  index_kept := fun _ _ indexed => indexed

/-- A snapshot under a free text leaves the places of all others alone. -/
theorem extends_push
    (snapshot : Snapshot)
    (free : archive.holds snapshot.id.text = false) :
    archive.Extends (archive.push snapshot) where
  snapshots_prefix := by
    simp [push]
  index_kept := by
    intro text position indexed
    have otherText : snapshot.id.text ≠ text := by
      rintro rfl
      have held : archive.holds snapshot.id.text = true := by
        rw [holds, Std.ExtTreeMap.contains_eq_isSome_getElem?, indexed]
        rfl
      rw [free] at held
      cases held
    simpa [push, Std.ExtTreeMap.getElem?_insert, otherText] using indexed

/--
An append puts its snapshot in under a free text and is refused under a held
one.
-/
theorem append_cases (snapshot : Snapshot) :
    (archive.holds snapshot.id.text = false ∧
      archive.append snapshot = ⟨.ok (), archive.push snapshot⟩) ∨
    (archive.holds snapshot.id.text = true ∧
      archive.append snapshot =
        ⟨.error (.idTaken snapshot.id.text), archive⟩) := by
  cases held : archive.holds snapshot.id.text with
  | false =>
      exact .inl ⟨rfl, by simp [append, held]⟩
  | true =>
      exact .inr ⟨rfl, by simp [append, held]⟩

/-- An accepted append is a push under a free text. -/
theorem eq_push_of_append_eq_ok
    {snapshot : Snapshot}
    (accepted : (archive.append snapshot).answer = .ok ()) :
    archive.holds snapshot.id.text = false ∧
      (archive.append snapshot).after = archive.push snapshot := by
  obtain ⟨free, appended⟩ | ⟨-, refused⟩ := archive.append_cases snapshot
  · exact ⟨free, by rw [appended]⟩
  · rw [refused] at accepted
    cases accepted

/--
A pushed snapshot stands at the position behind all others and is found there.
-/
theorem found_push (snapshot : Snapshot) :
    (archive.push snapshot).get? archive.size = some snapshot ∧
      (archive.push snapshot).find? snapshot.id.text = some snapshot := by
  have atEnd : (archive.push snapshot).get? archive.size = some snapshot := by
    simp [push, get?, size]
  have indexed :
      (archive.push snapshot).index[snapshot.id.text]? = some archive.size := by
    simp [push]
  refine ⟨atEnd, ?_⟩
  rw [find?, indexed, Option.bind_some]
  exact atEnd

end

section

variable
  {clock : Clock}
  {archive : Archive}

/-- A call that does not clear an archive extends it. -/
theorem Aligned.extends_perform
    (aligned : archive.Aligned)
    {call : Call}
    (notClear : call ≠ .clear) :
    archive.Extends (archive.perform clock call).after := by
  cases call with
  | issue =>
      exact archive.extends_skip 1
  | capture description shapes =>
      obtain ⟨skipped, -, -, free, captured⟩ :=
        aligned.capture_eq_push clock description shapes
      simp only [Archive.perform, captured]
      exact (archive.extends_skip (skipped + 1)).trans
        (extends_push _ _ free)
  | append snapshot =>
      rw [perform_append_after]
      obtain ⟨free, appended⟩ | ⟨-, refused⟩ := archive.append_cases snapshot
      · rw [appended]
        exact archive.extends_push snapshot free
      · rw [refused]
        exact .refl archive
  | clear =>
      exact absurd rfl notClear

/-- Calls keep snapshots, ids and index in step. -/
theorem Aligned.performAll
    (aligned : archive.Aligned)
    (clock : Clock)
    (calls : List Call) :
    (archive.performAll clock calls).after.Aligned := by
  induction calls generalizing archive with
  | nil =>
      exact aligned
  | cons call rest inductionHypothesis =>
      exact inductionHypothesis (aligned.perform clock call)

/-- Calls that do not clear an archive extend it. -/
theorem Aligned.extends_performAll
    (aligned : archive.Aligned)
    {calls : List Call}
    (notCleared : .clear ∉ calls) :
    archive.Extends (archive.performAll clock calls).after := by
  induction calls generalizing archive with
  | nil =>
      exact .refl archive
  | cons call rest inductionHypothesis =>
      rw [List.mem_cons, not_or] at notCleared
      obtain ⟨notClear, restNotCleared⟩ := notCleared
      have first : archive.Extends (archive.perform clock call).after :=
        aligned.extends_perform (Ne.symm notClear)
      exact first.trans
        (inductionHypothesis (aligned.perform clock call) restNotCleared)

end

/-- Issuing ids one after the other does nothing but use up their numbers. -/
theorem after_performAll_replicate_issue
    (clock : Clock)
    (archive : Archive)
    (count : Nat) :
    (archive.performAll clock (List.replicate count .issue)).after =
      archive.skip count := by
  induction count generalizing archive with
  | zero =>
      rfl
  | succ count inductionHypothesis =>
      calc
        (archive.performAll clock
              (List.replicate (count + 1) .issue)).after =
            ((archive.skip 1).performAll clock
              (List.replicate count .issue)).after := rfl
        _ = archive.skip (count + 1) := by
          rw [inductionHypothesis, skip_skip, Nat.add_comm]

/-- Further calls go on where the former ones ended. -/
theorem after_performAll_append
    (clock : Clock)
    (archive : Archive)
    (former further : List Call) :
    (archive.performAll clock (former ++ further)).after =
      ((archive.performAll clock former).after.performAll clock
        further).after := by
  induction former generalizing archive with
  | nil =>
      rfl
  | cons call rest inductionHypothesis =>
      exact inductionHypothesis (archive.perform clock call).after

end Storyboard.Archive
