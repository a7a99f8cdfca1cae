import Mathlib
import Storyboard.Proofs.Canvas.Sampling
import Storyboard.Proofs.Number.Gaps
import Storyboard.Proofs.Shape.Validity

namespace Storyboard.Canvas

/-!
# Grids that come to an end

A loop over coordinates ends exactly if every step that it takes moves the
coordinate: there are only so many doubles before the end, and the loop never
comes back to one.

The further a coordinate is from zero, the longer a step has to be to move it.
So the loops over a sheet end for every shape exactly if the steps move the far
edges.  The least step, the distance from one to the next double, does so only
on a sheet of one unit.
-/

open Number

/--
A loop in steps, which goes on as long as the end is not passed, comes to a
coordinate.
-/
inductive Comes (first last step : Float) : Float → Prop where
  | first :
      Comes first last step first
  | next
      {tick : Float}
      (comes : Comes first last step tick)
      (inside : tick ≤ last) :
      Comes first last step (tick + step)

/-- Every step of a loop moves the coordinate from which it is taken. -/
def Advances (first last step : Float) : Prop :=
  ∀ tick, Comes first last step tick → tick ≤ last → tick < tick + step

section Loops

variable {first last step tick : Float}

theorem Comes.cases_next (comes : Comes first last step tick) :
    tick = first ∨ first ≤ last ∧ Comes (first + step) last step tick := by
  induction comes with
  | first =>
      exact .inl rfl
  | next comes inside inductionHypothesis =>
      rcases inductionHypothesis with rfl | ⟨firstInside, later⟩
      · exact .inr ⟨inside, .first⟩
      · exact .inr ⟨firstInside, later.next inside⟩

theorem Comes.of_next
    (firstInside : first ≤ last)
    (later : Comes (first + step) last step tick) :
    Comes first last step tick := by
  induction later with
  | first =>
      exact Comes.first.next firstInside
  | next later inside inductionHypothesis =>
      exact inductionHypothesis.next inside

theorem advances_of_not_le (outside : ¬first ≤ last) :
    Advances first last step := by
  intro tick comes inside
  rcases comes.cases_next with rfl | ⟨firstInside, -⟩
  · exact absurd inside outside
  · exact absurd firstInside outside

theorem advances_iff_of_le (firstInside : first ≤ last) :
    Advances first last step ↔
      first < first + step ∧ Advances (first + step) last step := by
  constructor
  · intro advances
    exact ⟨advances first .first firstInside,
      fun tick later inside => advances tick (later.of_next firstInside) inside⟩
  · rintro ⟨moves, advances⟩ tick comes inside
    rcases comes.cases_next with rfl | ⟨-, later⟩
    · exact moves
    · exact advances tick later inside

/--
A loop that may take more steps than there are doubles ends if all of them
advance it.
-/
theorem isSome_ticksWithin_iff
    {limit : Nat}
    (some : 0 < limit)
    (enough : rank last + 1 < rank first + limit) :
    (ticksWithin last step limit first).isSome = true ↔
      Advances first last step := by
  induction limit generalizing first with
  | zero =>
      exact absurd some (lt_irrefl 0)
  | succ limit inductionHypothesis =>
      rw [ticksWithin]
      split
      case isFalse outside =>
        exact iff_of_true rfl (advances_of_not_le outside)
      case isTrue inside =>
        rw [advances_iff_of_le inside]
        split
        case isFalse stuck =>
          exact iff_of_false Bool.false_ne_true fun advances => stuck advances.1
        case isTrue moves =>
          have firstInside := (le_iff.mp inside).2.2
          have later := (lt_iff.mp moves).2.2
          rw [Option.isSome_map, inductionHypothesis (by omega) (by omega)]
          exact (and_iff_right moves).symm

theorem isSome_ticks?_iff
    (firstNumber : first.isNaN = false)
    (lastNumber : last.isNaN = false) :
    (ticks? first last step).isSome = true ↔ Advances first last step := by
  have firstRank := abs_le.mp (isNaN_eq_false_iff.mp firstNumber)
  have lastRank := abs_le.mp (isNaN_eq_false_iff.mp lastNumber)
  rw [infinityPattern_eq] at firstRank lastRank
  have isLimit : ((twoTo 64 : Nat) : ℤ) = 2 ^ 64 := by
    rw [twoTo, Nat.pow_eq, Nat.cast_pow, Nat.cast_ofNat]
  exact isSome_ticksWithin_iff (Nat.two_pow_pos 64) (by omega)

end Loops

section Samples

variable
  {sheet : Sheet}
  {pitch : Pitch}
  {shape : Shape}

theorem isSome_gridPoints?_iff {box : Box} :
    (gridPoints? shape box pitch).isSome = true ↔
      (ticks? box.bottom box.top (larger pitch.y leastStep)).isSome = true ∧
        (ticks? box.left box.right (larger pitch.x leastStep)).isSome =
          true := by
  simp only [gridPoints?, bind, pure]
  cases ticks? box.bottom box.top (larger pitch.y leastStep) <;>
    cases ticks? box.left box.right (larger pitch.x leastStep) <;> simp

/-- The loops over a box advance, if it is not empty. -/
def BoxAdvances (box : Box) (pitch : Pitch) : Prop :=
  box.isEmpty = false →
    Advances box.left box.right (larger pitch.x leastStep) ∧
      Advances box.bottom box.top (larger pitch.y leastStep)

/-- A shape has samples exactly if the loops over its visible box advance. -/
theorem isSome_samples?_iff (inWords : sheet.InWords) :
    (samples? sheet pitch shape).isSome = true ↔
      BoxAdvances ((Box.ofShape shape).clip sheet) pitch := by
  have rightNumber : ((Box.ofShape shape).clip sheet).right.isNaN = false :=
    isNaN_smaller (Sheet.isNaN_edge inWords.width_lt)
  have topNumber : ((Box.ofShape shape).clip sheet).top.isNaN = false :=
    isNaN_smaller (Sheet.isNaN_edge inWords.height_lt)
  unfold samples? BoxAdvances
  dsimp only
  split
  case isTrue isEmpty =>
    rw [isEmpty]
    exact iff_of_true rfl nofun
  case isFalse notEmpty =>
    rw [Option.isSome_map, isSome_gridPoints?_iff,
      Bool.eq_false_iff.mpr notEmpty, forall_prop_of_true rfl, and_comm]
    exact and_congr (isSome_ticks?_iff (isNaN_larger isNaN_zero) rightNumber)
      (isSome_ticks?_iff (isNaN_larger isNaN_zero) topNumber)

/-- Whether the steps of a grid move the far edges of a sheet. -/
structure Pitch.Moves (pitch : Pitch) (sheet : Sheet) : Prop where
  right_lt : sheet.right < sheet.right + larger pitch.x leastStep
  top_lt : sheet.top < sheet.top + larger pitch.y leastStep

/-! One side of a sheet and the steps along it. -/

section Sides

variable
  {side : Nat}
  {step : Float}

theorem leastStep_pos : 0 < leastStep := by
  decide +kernel

theorem value_leastStep : value leastStep = 2 ^ (-52 : ℤ) := by
  have isRank : rank leastStep = (970 * 2 ^ 52 + 2 ^ 52 : Nat) := by
    decide +kernel
  have exponent : ((970 : Nat) : ℤ) - 1074 = -52 - (52 : Nat) := by norm_num
  rw [value, isRank, rankValue_of_parts (by decide) (.inl le_rfl), exponent,
    zpow_sub₀ two_ne_zero, zpow_natCast, Nat.cast_pow, Nat.cast_ofNat,
    mul_div_cancel₀ _ (by positivity)]

theorem leastStep_le_step (pitch : Float) :
    leastStep ≤ larger pitch leastStep :=
  le_larger (by decide +kernel)

theorem step_pos (pitch : Float) : 0 < larger pitch leastStep := by
  have least := leastStep_le_step pitch
  refine lt_iff_value_lt.mpr ⟨isNaN_zero, isNaN_right_of_le least, ?_⟩
  exact (value_lt_of_lt leastStep_pos).trans_le (value_le_of_le least)

/--
A step moves an edge exactly if it reaches beyond the halfway point to the next
double.
-/
theorem edge_lt_add_iff
    (small : side < 2 ^ 32)
    (positive : 0 < step) :
    Float.ofNat side < Float.ofNat side + step ↔
      halfGap (rank (Float.ofNat side)) < value step :=
  have finite := (Sheet.value_edge small).2
  ⟨halfGap_lt_of_lt_add finite
    (even_rank_ofNat (small.trans (by decide))) positive,
    lt_add_of_halfGap_lt finite positive⟩

/-- A step that moves an edge moves every coordinate between it and zero. -/
theorem lt_add_of_edge_lt
    (small : side < 2 ^ 32)
    (positive : 0 < step)
    (moves : Float.ofNat side < Float.ofNat side + step)
    {x : Float}
    (notNegative : 0 ≤ x)
    (onSheet : x ≤ Float.ofNat side) :
    x < x + step := by
  obtain ⟨-, -, finite⟩ := value_along_side small notNegative onSheet
  have rankZero : rank 0 = 0 := by decide +kernel
  have lower := (le_iff.mp notNegative).2.2
  have upper := (le_iff.mp onSheet).2.2
  refine lt_add_of_halfGap_lt finite positive ?_
  exact (halfGap_mono (rankZero ▸ lower) upper).trans_lt
    ((edge_lt_add_iff small positive).mp moves)

/--
A loop along a side advances if its steps move the coordinates on the sheet.
-/
theorem advances_along_side
    (small : side < 2 ^ 32)
    (moves : ∀ x, 0 ≤ x → x ≤ Float.ofNat side → x < x + step)
    (first last : Float) :
    Advances (larger first 0) (smaller last (Float.ofNat side)) step := by
  have onSheet {x : Float} (inside : x ≤ smaller last (Float.ofNat side)) :
      x ≤ Float.ofNat side :=
    Number.le_trans inside (smaller_le (Sheet.isNaN_edge small))
  have notNegative {x : Float}
      (comes :
        Comes (larger first 0) (smaller last (Float.ofNat side)) step x) :
      0 ≤ x := by
    induction comes with
    | first =>
        exact le_larger isNaN_zero
    | @next tick _ inside notNegative =>
        exact Number.le_trans notNegative
          (Number.le_of_lt (moves tick notNegative (onSheet inside)))
  exact fun x comes inside => moves x (notNegative comes) (onSheet inside)

theorem rank_ofNat_le_rank_ofNat
    {first second : Nat}
    (ordered : first ≤ second)
    (short : second < 2 ^ 53) :
    rank (Float.ofNat first) ≤ rank (Float.ofNat second) := by
  rw [← rankValue_strictMono.le_iff_le]
  change value (Float.ofNat first) ≤ value (Float.ofNat second)
  rw [(value_ofNat (ordered.trans_lt short)).1, (value_ofNat short).1]
  exact_mod_cast ordered

/--
The least step moves the edges of a sheet of one unit and of no larger one.
-/
theorem halfGap_edge_lt_leastStep_iff (small : side < 2 ^ 32) :
    halfGap (rank (Float.ofNat side)) < value leastStep ↔ side ≤ 1 := by
  have one :
      halfGap (rank (Float.ofNat (2 ^ 0))) = 2 ^ (((0 : Nat) : ℤ) - 53) :=
    halfGap_rank_ofNat_two_pow (by decide +kernel)
  have two :
      halfGap (rank (Float.ofNat (2 ^ 1))) = 2 ^ (((1 : Nat) : ℤ) - 53) :=
    halfGap_rank_ofNat_two_pow (by decide +kernel)
  rw [value_leastStep]
  constructor
  · intro short
    by_contra large
    have atLeastTwo : 2 ^ 1 ≤ side := not_le.mp large
    have further := halfGap_mono (by decide +kernel)
      (rank_ofNat_le_rank_ofNat atLeastTwo (small.trans (by decide)))
    rw [two] at further
    exact further.not_gt short
  · intro atMostOne
    have nearer : halfGap (rank (Float.ofNat side)) ≤
        halfGap (rank (Float.ofNat (2 ^ 0))) :=
      halfGap_mono ((by decide +kernel : (0 : ℤ) ≤ rank (Float.ofNat 0)).trans
        (rank_ofNat_le_rank_ofNat (Nat.zero_le side) (small.trans (by decide))))
        (rank_ofNat_le_rank_ofNat atMostOne (by decide))
    rw [one] at nearer
    exact nearer.trans_lt (zpow_lt_zpow_right₀ (by norm_num) (by norm_num))

/-- Every step moves the edges of a sheet of one unit. -/
theorem edge_lt_add_step_of_le_one
    (small : side < 2 ^ 32)
    (atMostOne : side ≤ 1)
    (pitch : Float) :
    Float.ofNat side < Float.ofNat side + larger pitch leastStep := by
  rw [edge_lt_add_iff small (step_pos pitch)]
  exact ((halfGap_edge_lt_leastStep_iff small).mpr atMostOne).trans_le
    (value_le_of_le (leastStep_le_step pitch))

end Sides

/-! The visible part of a square at the far corner of a sheet is that corner. -/

/-- A square with its lower left corner at the upper right one of a sheet. -/
def cornerSquare (sheet : Sheet) : Shape :=
  ⟨"Corner", ⟨sheet.right, sheet.top⟩, ⟨0, 0, 0⟩, .rectangle 1 1⟩

theorem valid_cornerSquare (sheet : Sheet) : (cornerSquare sheet).Valid where
  named := by
    change Shape.isBlankName "Corner" = false
    decide +kernel
  sizesPositive := by
    change (0 : Float) < 1 ∧ (0 : Float) < 1
    decide +kernel
  colorValid := by
    constructor <;>
      · change (0 : Float) ≤ 0 ∧ (0 : Float) ≤ 255
        decide +kernel

theorem clip_edge
    {side : Nat}
    (small : side < 2 ^ 32) :
    larger (Float.ofNat side) 0 = Float.ofNat side ∧
      smaller (Float.ofNat side + 1) (Float.ofNat side) = Float.ofNat side := by
  obtain ⟨isSide, finite⟩ := Sheet.value_edge small
  obtain ⟨isOne, oneFinite⟩ :
      value 1 = (1 : Nat) ∧ (1 : Float).isFinite = true :=
    value_ofNat (by decide)
  have number := isNaN_eq_false_of_isFinite finite
  have next := rounds_add finite oneFinite
  rw [isSide, isOne, ← Nat.cast_add] at next
  obtain ⟨isNext, nextFinite⟩ := next.value_eq_natCast (by omega)
  have nextNumber := isNaN_eq_false_of_isFinite nextFinite
  have notBelow : ¬Float.ofNat side < 0 := by
    rw [Number.not_lt number isNaN_zero, le_iff_value_le, isSide, value_zero]
    exact ⟨isNaN_zero, number, Nat.cast_nonneg side⟩
  have further : Float.ofNat side < Float.ofNat side + 1 := by
    rw [lt_iff_value_lt, isSide, isNext]
    exact ⟨number, nextNumber, by exact_mod_cast Nat.lt_succ_self side⟩
  simp only [larger, smaller, number, nextNumber, notBelow, further,
    Bool.false_eq_true, if_false, if_true, and_self]

theorem clip_cornerSquare (inWords : sheet.InWords) :
    (Box.ofShape (cornerSquare sheet)).clip sheet =
      ⟨sheet.right, sheet.top, sheet.right, sheet.top⟩ := by
  obtain ⟨left, right⟩ := clip_edge inWords.width_lt
  obtain ⟨bottom, top⟩ := clip_edge inWords.height_lt
  simp only [Box.ofShape, cornerSquare, Box.clip, Sheet.right, Sheet.top, left,
    right, bottom, top]

theorem moves_of_isSome_samples?_cornerSquare
    (inWords : sheet.InWords)
    (ends : (samples? sheet pitch (cornerSquare sheet)).isSome = true) :
    pitch.Moves sheet := by
  rw [isSome_samples?_iff inWords, clip_cornerSquare inWords] at ends
  have onePoint :
      (Box.mk sheet.right sheet.top sheet.right sheet.top).isEmpty = false := by
    rw [Box.isEmpty, Bool.or_eq_false_iff, decide_eq_false_iff_not,
      decide_eq_false_iff_not]
    exact ⟨Number.lt_irrefl _, Number.lt_irrefl _⟩
  obtain ⟨across, up⟩ := ends onePoint
  exact ⟨across _ .first (Number.le_refl (Sheet.isNaN_edge inWords.width_lt)),
    up _ .first (Number.le_refl (Sheet.isNaN_edge inWords.height_lt))⟩

/-- Whether the steps of a grid move every coordinate on a sheet. -/
def Pitch.MovesAll (pitch : Pitch) (sheet : Sheet) : Prop :=
  (∀ x, 0 ≤ x → x ≤ sheet.right → x < x + larger pitch.x leastStep) ∧
    ∀ y, 0 ≤ y → y ≤ sheet.top → y < y + larger pitch.y leastStep

theorem moves_iff_movesAll (inWords : sheet.InWords) :
    pitch.Moves sheet ↔ pitch.MovesAll sheet := by
  have onSheet {side : Nat} (small : side < 2 ^ 32) :
      0 ≤ Float.ofNat side ∧ Float.ofNat side ≤ Float.ofNat side := by
    have number := Sheet.isNaN_edge small
    refine ⟨le_iff_value_le.mpr ⟨isNaN_zero, number, ?_⟩, Number.le_refl number⟩
    rw [(Sheet.value_edge small).1, value_zero]
    exact Nat.cast_nonneg side
  constructor
  · intro moves
    exact ⟨fun _ =>
      lt_add_of_edge_lt inWords.width_lt (step_pos _) moves.right_lt,
      fun _ => lt_add_of_edge_lt inWords.height_lt (step_pos _) moves.top_lt⟩
  · rintro ⟨across, up⟩
    obtain ⟨rightLower, rightUpper⟩ := onSheet inWords.width_lt
    obtain ⟨topLower, topUpper⟩ := onSheet inWords.height_lt
    exact ⟨across _ rightLower rightUpper, up _ topLower topUpper⟩

/--
A grid that moves on from every coordinate of the sheet comes to an end over
every shape.
-/
theorem isSome_samples?_of_movesAll
    (inWords : sheet.InWords)
    (movesAll : pitch.MovesAll sheet)
    (shape : Shape) :
    (samples? sheet pitch shape).isSome = true := by
  rw [isSome_samples?_iff inWords]
  exact fun _ => ⟨advances_along_side inWords.width_lt movesAll.1 _ _,
    advances_along_side inWords.height_lt movesAll.2 _ _⟩

theorem moves_of_sides_le_one
    (inWords : sheet.InWords)
    (width_le : sheet.width ≤ 1)
    (height_le : sheet.height ≤ 1)
    (pitch : Pitch) :
    pitch.Moves sheet :=
  ⟨edge_lt_add_step_of_le_one inWords.width_lt width_le pitch.x,
    edge_lt_add_step_of_le_one inWords.height_lt height_le pitch.y⟩

theorem sides_le_one_of_moves
    (inWords : sheet.InWords)
    (moves : (Pitch.mk 0 0).Moves sheet) :
    sheet.width ≤ 1 ∧ sheet.height ≤ 1 := by
  have isLeast : larger 0 leastStep = leastStep := by decide +kernel
  have atMostOne {side : Nat} (small : side < 2 ^ 32)
      (moves : Float.ofNat side < Float.ofNat side + larger 0 leastStep) :
        side ≤ 1 := by
    rw [isLeast, edge_lt_add_iff small leastStep_pos] at moves
    exact (halfGap_edge_lt_leastStep_iff small).mp moves
  exact ⟨atMostOne inWords.width_lt moves.right_lt,
    atMostOne inWords.height_lt moves.top_lt⟩

/--
The grids over a sheet come to an end for every shape exactly if the steps, as
far as they are not replaced by the least one, move the far edges of the sheet,
and then they move every coordinate on it.  The grid over one shape comes to an
end exactly if its own loops advance.  That every pitch will do is true of
sheets of one unit at most.
-/
theorem samples_end_iff_edges_move (inWords : sheet.InWords) :
    (∀ pitch : Pitch,
      ((∀ shape : Shape, shape.Valid →
        (samples? sheet pitch shape).isSome = true) ↔
          pitch.Moves sheet) ∧
        (pitch.Moves sheet ↔ pitch.MovesAll sheet) ∧
        ∀ shape,
          (samples? sheet pitch shape).isSome = true ↔
            BoxAdvances ((Box.ofShape shape).clip sheet) pitch) ∧
      ((∀ pitch shape, shape.Valid →
        (samples? sheet pitch shape).isSome = true) ↔
        sheet.width ≤ 1 ∧ sheet.height ≤ 1) := by
  have ends (pitch : Pitch) :
      (∀ shape : Shape, shape.Valid →
        (samples? sheet pitch shape).isSome = true) ↔
        pitch.Moves sheet := by
    constructor
    · intro allEnd
      exact moves_of_isSome_samples?_cornerSquare inWords
        (allEnd (cornerSquare sheet) (valid_cornerSquare sheet))
    · intro moves shape _
      exact isSome_samples?_of_movesAll inWords
        ((moves_iff_movesAll inWords).mp moves) shape
  refine ⟨fun pitch => ⟨ends pitch, moves_iff_movesAll inWords,
    fun shape => isSome_samples?_iff inWords⟩, ?_⟩
  constructor
  · intro allEnd
    exact sides_le_one_of_moves inWords ((ends ⟨0, 0⟩).mp (allEnd ⟨0, 0⟩))
  · rintro ⟨width_le, height_le⟩ pitch
    exact (ends pitch).mpr
      (moves_of_sides_le_one inWords width_le height_le pitch)

/--
Steps that barely move the far edges are enough, however many points the grid
has then.
-/
theorem samples_end_with_tiny_steps :
    let sheet : Sheet := ⟨100, 100⟩
    let pitch : Pitch := ⟨7.2e-15, 7.2e-15⟩
    let shape : Shape := ⟨"O", ⟨50, 50⟩, ⟨0, 0, 0⟩, .oval 50 50⟩
    shape.Valid ∧ pitch.Moves sheet ∧
      (samples? sheet pitch shape).isSome = true := by
  intro sheet pitch shape
  have inWords : sheet.InWords := ⟨by decide, by decide⟩
  have valid : shape.Valid :=
    ⟨by decide +kernel, by decide +kernel,
      ⟨by decide +kernel, by decide +kernel, by decide +kernel⟩⟩
  have moves : pitch.Moves sheet := ⟨by decide +kernel, by decide +kernel⟩
  exact ⟨valid, moves,
    (((samples_end_iff_edges_move inWords).1 pitch).1.mpr moves) shape valid⟩

/--
Over an oval that touches a sheet of a hundred units at its corner, a grid
without any steps never leaves the corner: the least step is lost there.
-/
theorem samples_never_end_at_corner :
    let sheet : Sheet := ⟨100, 100⟩
    let shape : Shape := ⟨"O", ⟨102, 102⟩, ⟨0, 0, 0⟩, .oval 2 2⟩
    let box := (Box.ofShape shape).clip sheet
    shape.Valid ∧
      (Comes box.left box.right (larger 0 leastStep) 100 ∧
        (100 : Float) ≤ box.right ∧
        ¬(100 : Float) < 100 + larger 0 leastStep) ∧
      samples? sheet ⟨0, 0⟩ shape = none := by
  intro sheet shape box
  have valid : shape.Valid :=
    ⟨by decide +kernel, by decide +kernel,
      ⟨by decide +kernel, by decide +kernel, by decide +kernel⟩⟩
  have isLeft : box.left = 100 := by decide +kernel
  have comes : Comes box.left box.right (larger 0 leastStep) 100 :=
    isLeft ▸ .first
  exact ⟨valid, ⟨comes, by decide +kernel, by decide +kernel⟩,
    by decide +kernel⟩

end Samples

end Storyboard.Canvas
