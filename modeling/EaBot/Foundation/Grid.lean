import EaBot.Foundation.Rounding

/-!
# Grids

The whole multiples of a step form a grid.  A value snaps down to the last point of the grid
that it reaches, and it is rounded to the nearest one, where a value in the middle of two goes
to the even multiple.  Both leave the points of the grid where they are.

The numbers with so many decimal places form a grid of their own.  Rounding to these places
leaves the points of every coarser grid where they are.
-/

namespace EaBot.Foundation

/-- The value is a whole number of steps. -/
def OnGrid (step value : ℚ) : Prop :=
  ∃ count : Int, value = count * step

namespace OnGrid

variable {fine step value : ℚ}

theorem mul (step : ℚ) (count : Int) : OnGrid step (count * step) :=
  ⟨count, rfl⟩

@[simp]
theorem zero (step : ℚ) : OnGrid step 0 :=
  ⟨0, by simp⟩

/-- The points of a grid lie on every grid that its step lies on. -/
theorem trans (steps : OnGrid fine step) (point : OnGrid step value) : OnGrid fine value := by
  rcases steps with ⟨inner, rfl⟩
  rcases point with ⟨outer, rfl⟩
  exact ⟨outer * inner, by push_cast; ring⟩

end OnGrid

/-! ## Snapping down -/

/-- The last point of the grid at a value or below it. -/
def snapDown (step value : ℚ) : ℚ :=
  (value / step).floor * step

section SnapDown

variable {step value slack : ℚ}

theorem onGrid_snapDown (step value : ℚ) : OnGrid step (snapDown step value) :=
  OnGrid.mul step _

theorem snapDown_le (positive : 0 < step) (value : ℚ) : snapDown step value ≤ value := by
  have below : ((value / step).floor : ℚ) ≤ value / step := Rat.floor_le _
  calc snapDown step value ≤ value / step * step :=
        mul_le_mul_of_nonneg_right below positive.le
    _ = value := div_mul_cancel₀ _ positive.ne'

theorem snapDown_nonneg (positive : 0 < step) (nonneg : 0 ≤ value) : 0 ≤ snapDown step value := by
  have floorNonneg : (0 : Int) ≤ (value / step).floor :=
    Rat.le_floor_iff.mpr (by simpa using div_nonneg nonneg positive.le)
  exact mul_nonneg (by exact_mod_cast floorNonneg) positive.le

/-- A point of the grid stays where it is, also with a slack of less than a step. -/
theorem snapDown_add_of_onGrid (positive : 0 < step) (point : OnGrid step value)
    (lower : 0 ≤ slack) (upper : slack < step) : snapDown step (value + slack) = value := by
  rcases point with ⟨count, rfl⟩
  have quotient : (count * step + slack) / step = count + slack / step := by
    rw [add_div, mul_div_cancel_right₀ _ positive.ne']
  have nonneg : 0 ≤ slack / step := div_nonneg lower positive.le
  have small : slack / step < 1 := (div_lt_one positive).mpr upper
  have floorIs : ((count * step + slack) / step).floor = count := by
    rw [quotient]
    apply le_antisymm
    · apply Int.lt_add_one_iff.mp
      rw [Rat.floor_lt_iff]
      push_cast
      linarith
    · rw [Rat.le_floor_iff]
      linarith
  rw [snapDown, floorIs]

end SnapDown

/-! ## Rounding to the nearest point -/

/-- A point of the grid is the one that a value is rounded to: it is nearer than half a step,
or it is the even one of two that are half a step away. -/
def RoundsTo (step value point : ℚ) : Prop :=
  ∃ count : Int, point = count * step ∧
    (2 * |value - point| < step ∨ 2 * |value - point| = step ∧ count % 2 = 0)

namespace Text

theorem roundHalfEven_intCast (whole : Int) : roundHalfEven whole = whole :=
  roundHalfEven_of_near (by simp)

/-- The nearest integer is the one that is nearer than a half, or the even one at a half. -/
theorem roundHalfEven_eq_iff {value : ℚ} {whole : Int} :
    roundHalfEven value = whole ↔
      2 * |value - whole| < 1 ∨ 2 * |value - whole| = 1 ∧ whole % 2 = 0 := by
  have below : (value.floor : ℚ) ≤ value := Rat.floor_le value
  have above : value < (value.floor : ℚ) + 1 := by exact_mod_cast Rat.lt_floor_add_one value
  constructor
  · rintro rfl
    unfold roundHalfEven
    dsimp only
    split_ifs with nearer farther even
    · left
      rw [abs_of_nonneg (sub_nonneg.mpr below)]
      linarith
    · left
      push_cast
      rw [abs_of_nonpos (by linarith)]
      linarith
    · right
      rw [abs_of_nonneg (sub_nonneg.mpr below)]
      exact ⟨by linarith, even⟩
    · right
      push_cast
      rw [abs_of_nonpos (by linarith)]
      exact ⟨by linarith, by omega⟩
  · rintro (near | ⟨middle, even⟩)
    · exact roundHalfEven_of_near (by linarith)
    · rcases abs_cases (value - whole) with ⟨is, -⟩ | ⟨is, -⟩
      · have floorIs : value.floor = whole := by
          rw [is] at middle
          apply le_antisymm
          · apply Int.lt_add_one_iff.mp
            rw [Rat.floor_lt_iff]
            push_cast
            linarith
          · rw [Rat.le_floor_iff]
            linarith
        rw [is] at middle
        have half : value - whole = 1 / 2 := by linarith
        simp only [roundHalfEven, floorIs, half, lt_irrefl, if_false, if_pos even]
      · have floorIs : value.floor = whole - 1 := by
          rw [is] at middle
          apply le_antisymm
          · apply Int.lt_add_one_iff.mp
            rw [Rat.floor_lt_iff]
            push_cast
            linarith
          · rw [Rat.le_floor_iff]
            push_cast
            linarith
        rw [is] at middle
        have half : value - ((whole - 1 : Int) : ℚ) = 1 / 2 := by
          push_cast
          linarith
        have odd : ¬(whole - 1) % 2 = 0 := by omega
        simp only [roundHalfEven, floorIs, half, lt_irrefl, if_false, if_neg odd]
        omega

/-- The nearest integer is at most a bound when the value is below the middle above it, or
in this middle above an even bound. -/
theorem roundHalfEven_le_iff {value : ℚ} {bound : Int} :
    roundHalfEven value ≤ bound ↔
      2 * value < 2 * bound + 1 ∨ 2 * value = 2 * bound + 1 ∧ bound % 2 = 0 := by
  have nearest := roundHalfEven_eq_iff.mp (rfl : roundHalfEven value = _)
  generalize roundHalfEven value = whole at nearest ⊢
  have near : 2 * |value - whole| ≤ 1 := by
    rcases nearest with near | ⟨middle, -⟩
    · exact near.le
    · exact middle.le
  have lower := neg_abs_le (value - whole)
  have upper := le_abs_self (value - whole)
  constructor
  · intro within
    rcases within.lt_or_eq with less | rfl
    · have apart : (whole : ℚ) + 1 ≤ bound := by exact_mod_cast less
      left
      linarith
    · rcases nearest with near | ⟨middle, even⟩
      · left
        linarith
      · have reached : 2 * value ≤ 2 * whole + 1 := by linarith
        exact reached.lt_or_eq.imp_right fun middle => ⟨middle, even⟩
  · intro below
    by_contra outside
    rw [not_le] at outside
    have apart : (bound : ℚ) + 1 ≤ whole := by exact_mod_cast outside
    rcases below with below | ⟨middle, even⟩
    · linarith
    · have next : (whole : ℚ) = bound + 1 := by linarith
      have half : value - whole = -(1 / 2) := by linarith
      rw [half, abs_neg, abs_of_pos (by norm_num)] at nearest
      rcases nearest with near | ⟨-, other⟩
      · norm_num at near
      · have same : whole = bound + 1 := by exact_mod_cast next
        omega

end Text

section Nearest

variable {step value point bound : ℚ} {places : Nat}

/-- Rounding to whole numbers of steps gives the point that a value is rounded to. -/
theorem roundsTo_iff (positive : 0 < step) :
    RoundsTo step value point ↔ Text.roundHalfEven (value / step) * step = point := by
  have scaled : ∀ count : Int, |value / step - count| * step = |value - count * step| := by
    intro count
    rw [← abs_of_pos positive, ← abs_mul, abs_of_pos positive, sub_mul,
      div_mul_cancel₀ _ positive.ne']
  constructor
  · rintro ⟨count, rfl, near⟩
    rw [Text.roundHalfEven_eq_iff.mpr]
    rw [← scaled] at near
    rcases near with near | ⟨middle, even⟩
    · left
      nlinarith
    · right
      refine ⟨?_, even⟩
      apply mul_right_cancel₀ positive.ne'
      linarith
  · rintro rfl
    refine ⟨_, rfl, ?_⟩
    rw [← scaled]
    rcases Text.roundHalfEven_eq_iff.mp (rfl : Text.roundHalfEven (value / step) = _) with
      near | ⟨middle, even⟩
    · left
      nlinarith
    · right
      refine ⟨?_, even⟩
      rw [← mul_assoc, middle, one_mul]

/-- The point that a value is rounded to is within a bound when the value is below the middle
above the last point within the bound, or in this middle above an even point. -/
theorem roundHalfEven_mul_le_iff (positive : 0 < step) :
    Text.roundHalfEven (value / step) * step ≤ bound ↔
      2 * value < 2 * snapDown step bound + step ∨
        2 * value = 2 * snapDown step bound + step ∧ (bound / step).floor % 2 = 0 := by
  rw [← le_div_iff₀ positive, ← Rat.le_floor_iff, Text.roundHalfEven_le_iff, mul_div_assoc',
    div_lt_iff₀ positive, div_eq_iff positive.ne', snapDown, add_mul, one_mul, mul_assoc]

theorem roundTo_eq_div (places : Nat) (value : ℚ) :
    Text.roundTo places value =
      Text.roundHalfEven (value / (1 / 10 ^ places)) * (1 / 10 ^ places) := by
  rw [Text.roundTo, div_div_eq_mul_div, div_one, mul_one_div]
  push_cast
  rfl

/-- Rounding to decimal places gives the number with so many places that a value is rounded
to. -/
theorem roundsTo_places_iff :
    RoundsTo (1 / 10 ^ places) value point ↔ Text.roundTo places value = point := by
  rw [roundsTo_iff (by positivity), roundTo_eq_div]

/-- Rounding leaves the points of the grid where they are. -/
theorem roundHalfEven_mul_of_onGrid (positive : 0 < step) (onGrid : OnGrid step value) :
    Text.roundHalfEven (value / step) * step = value := by
  rcases onGrid with ⟨count, rfl⟩
  rw [mul_div_cancel_right₀ _ positive.ne', Text.roundHalfEven_intCast]

/-- Rounding to decimal places leaves the numbers with so many places where they are. -/
theorem roundTo_of_onGrid (onGrid : OnGrid (1 / 10 ^ places) value) :
    Text.roundTo places value = value := by
  rw [roundTo_eq_div, roundHalfEven_mul_of_onGrid (by positivity) onGrid]

/-- Rounding does not pass a point of the grid. -/
theorem le_roundHalfEven_mul (positive : 0 < step) (onGrid : OnGrid step bound)
    (above : bound ≤ value) : bound ≤ Text.roundHalfEven (value / step) * step := by
  rcases onGrid with ⟨count, rfl⟩
  apply mul_le_mul_of_nonneg_right _ positive.le
  have reached : (count : ℚ) ≤ value / step := (le_div_iff₀ positive).mpr above
  have moved := abs_le.mp (Text.abs_roundHalfEven_sub_le (value / step))
  have close : (count : ℚ) < Text.roundHalfEven (value / step) + 1 := by linarith
  exact_mod_cast Int.lt_add_one_iff.mp (by exact_mod_cast close)

end Nearest

end EaBot.Foundation
