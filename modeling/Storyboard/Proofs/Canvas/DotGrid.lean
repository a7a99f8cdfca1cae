import Mathlib
import Storyboard.Canvas.Dots
import Storyboard.Proofs.Canvas.Progress
import Storyboard.Snapshot.Basic

namespace Storyboard.Canvas

/-!
# A coordinate for every dot

In a pane, samples are as far apart as dots.  Whenever a coordinate moves on to
the next one the sum is rounded, but a pane has so few dots that all these
errors together do not make up for the distance of two of them.  So there are at
most as many coordinates along a side as dots and one more, wherever the shape
begins and ends.
-/

open Number

/--
How far dots are apart if cells with a number of dots each are spread over a
side.
-/
def dotDistance (side cells dots : Nat) : Float :=
  Float.ofNat side / (Float.ofNat cells * Float.ofNat dots)

/-- Some dots are spread over a side, and not too many. -/
structure Spread (side cells dots : Nat) : Prop where
  side_lt : side < 2 ^ 32
  side_pos : 0 < side
  two_le : 2 ≤ cells * dots
  few : cells * dots < 2 ^ 19

section Spreads

variable
  {side cells dots : Nat}
  {error : ℚ}

/--
The distance of dots is the rounded quotient of the side and the number of dots.
-/
theorem Spread.rounds_dotDistance (spread : Spread side cells dots) :
    Rounds ((side : ℚ) / (cells * dots : Nat))
      (dotDistance side cells dots) := by
  have someDots : 0 < cells * dots := Nat.zero_lt_of_lt spread.two_le
  have cellsShort :=
    (Nat.le_mul_of_pos_right cells (Nat.pos_of_mul_pos_left someDots)).trans_lt
    spread.few
  have dotsShort :=
    (Nat.le_mul_of_pos_left dots (Nat.pos_of_mul_pos_right someDots)).trans_lt
    spread.few
  obtain ⟨isCells, cellsFinite⟩ := value_ofNat (cellsShort.trans (by decide))
  obtain ⟨isDots, dotsFinite⟩ := value_ofNat (dotsShort.trans (by decide))
  obtain ⟨isSide, sideFinite⟩ := Sheet.value_edge spread.side_lt
  have product := rounds_mul cellsFinite dotsFinite
  rw [isCells, isDots, ← Nat.cast_mul] at product
  obtain ⟨isProduct, productFinite⟩ :=
    product.value_eq_natCast (spread.few.trans (by decide))
  have notZero : value (Float.ofNat cells * Float.ofNat dots) ≠ 0 := by
    rw [isProduct]
    exact_mod_cast someDots.ne'
  have quotient := rounds_div sideFinite productFinite notZero
  rwa [isSide, isProduct] at quotient

/--
The step from dot to dot is not longer than the side and hardly shorter than the
quotient.
-/
theorem Spread.value_step_between
    (spread : Spread side cells dots)
    (bounded : RoundingError (2 * side : Nat) error) :
    (side : ℚ) / (cells * dots : Nat) - error ≤
        value (larger (dotDistance side cells dots) leastStep) ∧
      value (larger (dotDistance side cells dots) leastStep) ≤ side := by
  have quotient := spread.rounds_dotDistance
  have someSide : (1 : ℚ) ≤ side := by exact_mod_cast spread.side_pos
  have twoDots : (2 : ℚ) ≤ (cells * dots : Nat) := by
    exact_mod_cast spread.two_le
  have errorSmall := bounded.mul_le
  push_cast at errorSmall
  have notNegative : 0 ≤ (side : ℚ) / (cells * dots : Nat) := by positivity
  have half : (side : ℚ) / (cells * dots : Nat) ≤ side / 2 :=
    div_le_div_of_nonneg_left (by linarith) (by norm_num) twoDots
  have inSize : |(side : ℚ) / (cells * dots : Nat)| ≤ (2 * side : Nat) := by
    push_cast at half notNegative ⊢
    rw [abs_of_nonneg notNegative]
    linarith
  have near := abs_le.mp (bounded.abs_sub_le quotient inSize)
  have leastSmall : value leastStep ≤ 1 := by
    rw [value_leastStep]
    exact zpow_le_one_of_nonpos₀ (by norm_num) (by norm_num)
  rw [value_larger quotient.isNumber (isNaN_eq_false_of_lt leastStep_pos)]
  exact ⟨le_max_of_le_left (by linarith), max_le (by linarith) (by linarith)⟩

/--
On the sheet, a step moves a coordinate on by hardly less than the quotient.
-/
theorem Spread.value_add_step_ge
    (spread : Spread side cells dots)
    (bounded : RoundingError (2 * side : Nat) error)
    {x : Float}
    (notNegative : 0 ≤ x)
    (onSheet : x ≤ Float.ofNat side) :
    value x + ((side : ℚ) / (cells * dots : Nat) - 2 * error) ≤
      value (x + larger (dotDistance side cells dots) leastStep) := by
  obtain ⟨lower, upper, finite⟩ :=
    value_along_side spread.side_lt notNegative onSheet
  obtain ⟨stepLower, stepUpper⟩ := spread.value_step_between bounded
  have stepPositive := value_pos (step_pos (dotDistance side cells dots))
  have sideSmall : (side : ℚ) ≤ 2 ^ 53 := by
    exact_mod_cast (spread.side_lt.trans (by decide)).le
  have stepFinite :
      (larger (dotDistance side cells dots) leastStep).isFinite = true := by
    refine isFinite_of_abs_value_le ?_
    rw [abs_of_pos stepPositive]
    exact stepUpper.trans sideSmall
  have inSize :
      |value x + value (larger (dotDistance side cells dots) leastStep)| ≤
      (2 * side : Nat) := by
    push_cast
    rw [abs_of_nonneg (by linarith)]
    linarith
  have near :=
    abs_le.mp (bounded.abs_sub_le (rounds_add finite stepFinite) inSize)
  linarith

/-- As many steps as there are dots and one more lead over the side. -/
theorem Spread.side_lt_mul
    (spread : Spread side cells dots)
    (bounded : RoundingError (2 * side : Nat) error) :
    (side : ℚ) <
      ((cells * dots : Nat) + 1) *
        ((side : ℚ) / (cells * dots : Nat) - 2 * error) := by
  have someSide : (1 : ℚ) ≤ side := by exact_mod_cast spread.side_pos
  have errorPositive := bounded.nonneg
  have errorSmall := bounded.mul_le
  have few : ((cells * dots : Nat) : ℚ) ≤ 2 ^ 19 := by
    exact_mod_cast spread.few.le
  have some : (0 : ℚ) < (cells * dots : Nat) := by
    exact_mod_cast Nat.zero_lt_of_lt spread.two_le
  generalize ((cells * dots : Nat) : ℚ) = count at few some ⊢
  push_cast at errorSmall
  have allErrors : count * ((count + 1) * (2 * error)) < side := by
    calc
      count * ((count + 1) * (2 * error)) ≤
        2 ^ 19 * ((2 ^ 19 + 1) * (2 * error)) := by gcongr
      _ < side := by linarith
  have whole : count * ((side : ℚ) / count) = side := mul_div_cancel₀ _ some.ne'
  have oneMore : (count + 1) * (2 * error) < side / count := by
    rw [lt_div_iff₀ some]
    linarith
  calc
    (side : ℚ) < side + (side / count - (count + 1) * (2 * error)) := by
      linarith
    _ = count * (side / count) +
        (side / count - (count + 1) * (2 * error)) := by rw [whole]
    _ = (count + 1) * (side / count - 2 * error) := by ring

/--
A spacing that every step keeps and that has room only as often as there are
dots.
-/
theorem Spread.exists_spacing (spread : Spread side cells dots) :
    ∃ spacing : ℚ,
      0 < spacing ∧
        (side : ℚ) < ((cells * dots : Nat) + 1) * spacing ∧
        ∀ x, 0 ≤ x → x ≤ Float.ofNat side →
          value x + spacing ≤
            value (x + larger (dotDistance side cells dots) leastStep) := by
  have short : 2 * side < 2 ^ 53 := by
    have small := spread.side_lt
    omega
  obtain ⟨error, bounded⟩ := exists_roundingError short
  have beyond := spread.side_lt_mul bounded
  have someDots : (0 : ℚ) < (cells * dots : Nat) + 1 := by positivity
  exact ⟨_, (mul_pos_iff_of_pos_left someDots).mp
    ((Nat.cast_nonneg side).trans_lt beyond),
    beyond, fun _ => spread.value_add_step_ge bounded⟩

/-- A step from dot to dot moves every coordinate on the sheet. -/
theorem lt_add_dotDistance
    (small : side < 2 ^ 32)
    (two_le : 2 ≤ cells * dots)
    (few : cells * dots < 2 ^ 19)
    {x : Float}
    (notNegative : 0 ≤ x)
    (onSheet : x ≤ Float.ofNat side) :
    x < x + larger (dotDistance side cells dots) leastStep := by
  rcases Nat.eq_zero_or_pos side with rfl | some
  · exact lt_add_of_edge_lt small (step_pos _)
      (edge_lt_add_step_of_le_one small (Nat.zero_le 1) _) notNegative onSheet
  · obtain ⟨spacing, positive, -, further⟩ :=
      Spread.exists_spacing ⟨small, some, two_le, few⟩
    obtain ⟨-, -, finite⟩ := value_along_side small notNegative onSheet
    have notBackward := le_add finite (step_pos (dotDistance side cells dots))
    refine lt_iff_value_lt.mpr
      ⟨isNaN_eq_false_of_isFinite finite, isNaN_right_of_le notBackward, ?_⟩
    linarith [further x notNegative onSheet]

/-- Spaced coordinates need as much room as there are spaces between them. -/
theorem length_mul_le_of_isChain
    {spacing bound : ℚ}
    {first : Float}
    {rest : List Float}
    (spaced : (first :: rest).IsChain fun tick next =>
      value tick + spacing ≤ value next)
    (bounded : ∀ tick ∈ first :: rest, value tick ≤ bound) :
    value first + rest.length * spacing ≤ bound := by
  induction rest generalizing first with
  | nil =>
      simpa using bounded first List.mem_cons_self
  | cons next later inductionHypothesis =>
      rw [List.isChain_cons_cons] at spaced
      have fromNext :=
        inductionHypothesis spaced.2 (List.forall_mem_cons.mp bounded).2
      rw [List.length_cons, Nat.cast_succ, add_mul, one_mul]
      linarith [spaced.1]

/-- Along a side there are at most as many coordinates as dots and one more. -/
theorem Ticks.length_le
    (spread : Spread side cells dots)
    {first last : Float}
    {ticks : List Float}
    (inTicks : Ticks (larger first 0) (smaller last (Float.ofNat side))
      (larger (dotDistance side cells dots) leastStep) ticks) :
    ticks.length ≤ cells * dots + 1 := by
  obtain ⟨spacing, positive, beyond, further⟩ := spread.exists_spacing
  have onSheet : ∀ tick ∈ ticks, 0 ≤ tick ∧ tick ≤ Float.ofNat side :=
    fun tick member =>
    between_of_clipped spread.side_lt (inTicks.first_le tick member)
      (inTicks.le_last tick member)
  have spaced :
      ticks.IsChain fun tick next => value tick + spacing ≤ value next := by
    refine inTicks.isChain.imp_of_mem_imp fun tick next member _ step => ?_
    rw [step.2]
    exact further tick (onSheet tick member).1 (onSheet tick member).2
  have bounded : ∀ tick ∈ ticks, value tick ≤ side := fun tick member =>
    (value_along_side spread.side_lt (onSheet tick member).1
      (onSheet tick member).2).2.1
  obtain ⟨rest, rfl⟩ := List.head?_eq_some_iff.mp inTicks.head?_eq
  have room := length_mul_le_of_isChain spaced bounded
  have notNegative := value_nonneg (onSheet _ List.mem_cons_self).1
  have fewer : (rest.length : ℚ) < (cells * dots : Nat) + 1 :=
    lt_of_mul_lt_mul_right (by linarith) positive.le
  rw [List.length_cons, Nat.add_le_add_iff_right]
  exact Nat.lt_succ_iff.mp (by exact_mod_cast fewer)

theorem length_ticks?_le
    (spread : Spread side cells dots)
    {first last : Float}
    {ticks : List Float}
    (inSteps : ticks? (larger first 0) (smaller last (Float.ofNat side))
      (larger (dotDistance side cells dots) leastStep) = some ticks) :
    ticks.length ≤ cells * dots + 1 := by
  by_cases inside : larger first 0 ≤ smaller last (Float.ofNat side)
  · exact (Ticks.of_ticksWithin inSteps inside).length_le spread
  · rw [ticksWithin_of_not_le inside inSteps]
    exact Nat.zero_le _

/--
The coordinates along a side come to an end, and there are not many of them.
-/
theorem exists_ticks?_of_spread
    (spread : Spread side cells dots)
    (first last : Float) :
    ∃ ticks,
      ticks? (larger first 0) (smaller last (Float.ofNat side))
          (larger (dotDistance side cells dots) leastStep) = some ticks ∧
        ticks.length ≤ cells * dots + 1 := by
  have advances := advances_along_side spread.side_lt
    (fun _ => lt_add_dotDistance spread.side_lt spread.two_le spread.few)
      first last
  rw [← isSome_ticks?_iff (isNaN_larger isNaN_zero)
    (isNaN_smaller (Sheet.isNaN_edge spread.side_lt)),
    Option.isSome_iff_exists] at advances
  obtain ⟨ticks, inSteps⟩ := advances
  exact ⟨ticks, inSteps, length_ticks?_le spread inSteps⟩

end Spreads

section Panes

open Display (Area)

variable
  {sheet : Sheet}
  {area : Area}

/-- In a pane, the steps between samples move every coordinate on the sheet. -/
theorem movesAll_pitch
    (inWords : sheet.InWords)
    (width_lt : area.width < 2 ^ 16)
    (height_lt : area.height < 2 ^ 16) :
    (pitch sheet (area.width - 2) (area.height - 2)).MovesAll sheet := by
  have columns : 2 ≤ max (area.width - 2) 1 * 2 ∧
      max (area.width - 2) 1 * 2 < 2 ^ 19 := by omega
  have rows : 2 ≤ max (area.height - 2) 1 * 4 ∧
      max (area.height - 2) 1 * 4 < 2 ^ 19 := by omega
  exact ⟨fun _ => lt_add_dotDistance inWords.width_lt columns.1 columns.2,
    fun _ => lt_add_dotDistance inWords.height_lt rows.1 rows.2⟩

theorem length_gridPoints_le
    (rows columns : List Float)
    (keeps : Point → Bool) :
    (rows.flatMap fun y =>
      (columns.map fun x => Point.mk x y).filter keeps).length ≤
      rows.length * columns.length := by
  induction rows with
  | nil =>
      exact Nat.zero_le _
  | cons y rest inductionHypothesis =>
      have inRow :=
        List.length_filter_le keeps (columns.map fun x => Point.mk x y)
      rw [List.length_map] at inRow
      rw [List.flatMap_cons, List.length_append, List.length_cons, Nat.succ_mul,
        Nat.add_comm]
      exact Nat.add_le_add inductionHypothesis inRow

/-- A shape has no more samples than its grid has points, or a single one. -/
theorem length_samples_le
    {pitch : Pitch}
    {shape : Shape}
    {points : List Point}
    {rows columns : List Float}
    (sampled : samples? sheet pitch shape = some points)
    (areRows : ticks? ((Box.ofShape shape).clip sheet).bottom
      ((Box.ofShape shape).clip sheet).top
      (larger pitch.y leastStep) = some rows)
    (areColumns : ticks? ((Box.ofShape shape).clip sheet).left
      ((Box.ofShape shape).clip sheet).right (larger pitch.x leastStep) =
        some columns) :
    points.length ≤ max 1 (rows.length * columns.length) := by
  rcases samples?_cases sampled with ⟨-, rfl⟩ | ⟨-, grid, isGrid, rfl⟩
  · exact Nat.zero_le _
  · split
    case isTrue =>
      exact (List.length_filter_le _ _).trans (le_max_left _ _)
    case isFalse =>
      obtain ⟨ownRows, ownColumns, areOwnRows, areOwnColumns, rfl⟩ :=
        gridPoints?_eq_some_iff.mp isGrid
      obtain rfl := Option.some.inj (areRows.symm.trans areOwnRows)
      obtain rfl := Option.some.inj (areColumns.symm.trans areOwnColumns)
      exact (length_gridPoints_le rows columns _).trans (le_max_right _ _)

/--
In a pane, every step of the loops over a shape moves its coordinate, and each
shape of a snapshot is sampled in at most one column more than the pane has dots
beside one another and one row more than it has above one another, wherever the
shape is and however large.
-/
theorem sampled_within_dots
    (inWords : sheet.InWords)
    (someWidth : 0 < sheet.width)
    (someHeight : 0 < sheet.height)
    (width_lt : area.width < 2 ^ 16)
    (height_lt : area.height < 2 ^ 16)
    (snapshot : Snapshot) :
    let columns := max (area.width - 2) 1
    let rows := max (area.height - 2) 1
    let pitch := pitch sheet (area.width - 2) (area.height - 2)
    pitch.MovesAll sheet ∧
      ∀ shape ∈ snapshot.shapes,
        let box := (Box.ofShape shape).clip sheet
        ∃ xs ys points,
          ticks? box.left box.right (larger pitch.x leastStep) = some xs ∧
            ticks? box.bottom box.top (larger pitch.y leastStep) = some ys ∧
            samples? sheet pitch shape = some points ∧
            xs.length ≤ 2 * columns + 1 ∧
            ys.length ≤ 4 * rows + 1 ∧
            points.length ≤ (2 * columns + 1) * (4 * rows + 1) := by
  intro columns rows pitch
  have movesAll : pitch.MovesAll sheet :=
    movesAll_pitch inWords width_lt height_lt
  refine ⟨movesAll, fun shape _ => ?_⟩
  intro box
  have across : Spread sheet.width columns 2 :=
    ⟨inWords.width_lt, someWidth, by omega, by omega⟩
  have up : Spread sheet.height rows 4 :=
    ⟨inWords.height_lt, someHeight, by omega, by omega⟩
  obtain ⟨xs, areColumns, fewColumns⟩ :=
    exists_ticks?_of_spread across (Box.ofShape shape).left
      (Box.ofShape shape).right
  obtain ⟨ys, areRows, fewRows⟩ :=
    exists_ticks?_of_spread up (Box.ofShape shape).bottom
      (Box.ofShape shape).top
  obtain ⟨points, sampled⟩ :=
    Option.isSome_iff_exists.mp
      (isSome_samples?_of_movesAll inWords movesAll shape)
  have fewPoints := length_samples_le sampled areRows areColumns
  rw [Nat.mul_comm columns] at fewColumns
  rw [Nat.mul_comm rows] at fewRows
  refine ⟨xs, ys, points, areColumns, areRows, sampled, fewColumns, fewRows, ?_⟩
  refine fewPoints.trans (max_le (Nat.mul_pos (by omega) (by omega)) ?_)
  rw [Nat.mul_comm ys.length]
  exact Nat.mul_le_mul fewColumns fewRows

/--
The largest of all shapes on the largest of all sheets, in a pane that is too
small for a dot.
-/
theorem sampled_within_dots_of_one_cell :
    let sheet : Sheet := ⟨2 ^ 32 - 1, 2 ^ 32 - 1⟩
    let area : Area := ⟨0, 0, 1, 2⟩
    let pitch := pitch sheet (area.width - 2) (area.height - 2)
    let far : Shape :=
      ⟨"Far", ⟨-1.7e308, 1⟩, ⟨0, 0, 0⟩, .rectangle 1.7e308 1.7e308⟩
    let snapshot : Snapshot := ⟨⟨1, "id"⟩, "", "", [far]⟩
    ∃ points,
      far ∈ snapshot.shapes ∧
        samples? sheet pitch far = some points ∧
        points.length ≤ (2 * 1 + 1) * (4 * 1 + 1) := by
  intro sheet area pitch far snapshot
  have inWords : sheet.InWords := ⟨by decide, by decide⟩
  have within :=
    @sampled_within_dots sheet area inWords (by decide) (by decide) (by decide)
    (by decide) snapshot
  obtain ⟨-, -, points, -, -, sampled, -, -, few⟩ :=
    within.2 far List.mem_cons_self
  exact ⟨points, List.mem_cons_self, sampled, few⟩

end Panes

end Storyboard.Canvas
