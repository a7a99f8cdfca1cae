namespace Storyboard

/-!
# Results of steps that may fail

A chain of steps succeeds exactly if every step does, with the value that the
last one makes of what came before, and fails for what its first failing step
says.
-/

variable {ε α β : Type}

/--
Two steps succeed exactly if the second does so on the value of the first.
-/
theorem bind_eq_ok_iff
    {first : Except ε α}
    {next : α → Except ε β}
    {value : β} :
    first >>= next = .ok value ↔
      ∃ middle, first = .ok middle ∧ next middle = .ok value := by
  cases first with
  | error refusal =>
      simp [bind, Except.bind]
  | ok middle =>
      simp [bind, Except.bind]

/-- A converted step succeeds exactly if the step does. -/
theorem map_eq_ok_iff
    {first : Except ε α}
    {convert : α → β}
    {value : β} :
    first.map convert = .ok value ↔
      ∃ middle, first = .ok middle ∧ convert middle = value := by
  cases first with
  | error refusal =>
      simp [Except.map]
  | ok middle =>
      simp [Except.map]

/-- Two steps fail exactly if the first does, or else the second. -/
theorem bind_eq_error_iff
    {first : Except ε α}
    {next : α → Except ε β}
    {refusal : ε} :
    first >>= next = .error refusal ↔
      first = .error refusal ∨
        ∃ middle, first = .ok middle ∧ next middle = .error refusal := by
  cases first with
  | error refusal =>
      simp [bind, Except.bind]
  | ok middle =>
      simp [bind, Except.bind]

/--
What is behind a check succeeds exactly if the check does not refuse and it
does.
-/
theorem check_eq_ok_iff
    {refused : Prop}
    [Decidable refused]
    {refusal : ε}
    {next : Unit → Except ε α}
    {value : α} :
    (if refused then .error refusal >>= next else next ()) = .ok value ↔
      ¬ refused ∧ next () = .ok value := by
  by_cases isRefused : refused
  · simp [isRefused, bind, Except.bind]
  · simp [isRefused]

/-- A converted step fails exactly if the step does. -/
theorem map_eq_error_iff
    {first : Except ε α}
    {convert : α → β}
    {refusal : ε} :
    first.map convert = .error refusal ↔ first = .error refusal := by
  cases first with
  | error refusal =>
      simp [Except.map]
  | ok middle =>
      simp [Except.map]

end Storyboard
