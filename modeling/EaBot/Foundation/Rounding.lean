import EaBot.Foundation.Text
import Mathlib.Data.Rat.Floor
import Mathlib.Tactic.FieldSimp
import Mathlib.Tactic.Linarith
import Mathlib.Tactic.Positivity

/-!
# Rounding to decimal places

Rounding moves a value by half a unit of the last place at most.  A value that is nearer
than that to a number with so many places therefore becomes that number.
-/

namespace EaBot.Foundation.Text

/-- Half a unit of the last of some decimal places. -/
def halfUnit (places : Nat) : ℚ :=
  1 / 2 / (10 ^ places : Nat)

theorem abs_roundHalfEven_sub_le (value : ℚ) : |(roundHalfEven value : ℚ) - value| ≤ 1 / 2 := by
  have below : (value.floor : ℚ) ≤ value := Rat.floor_le value
  have above : value < (value.floor : ℚ) + 1 := by exact_mod_cast Rat.lt_floor_add_one value
  unfold roundHalfEven
  dsimp only
  rw [abs_le]
  split_ifs <;> push_cast <;> constructor <;> linarith

theorem roundHalfEven_of_near {value : ℚ} {whole : Int} (near : |value - whole| < 1 / 2) :
    roundHalfEven value = whole := by
  have moved := abs_roundHalfEven_sub_le value
  rw [abs_lt] at near
  rw [abs_le] at moved
  have above : (roundHalfEven value : ℚ) < whole + 1 := by linarith
  have below : (whole : ℚ) - 1 < roundHalfEven value := by linarith
  have upper : roundHalfEven value < whole + 1 := by exact_mod_cast above
  have lower : whole - 1 < roundHalfEven value := by exact_mod_cast below
  omega

variable {places : Nat} {value : ℚ}

theorem abs_roundTo_sub_le (places : Nat) (value : ℚ) :
    |roundTo places value - value| ≤ halfUnit places := by
  have positive : (0 : ℚ) < (10 ^ places : Nat) := by positivity
  have moved := abs_roundHalfEven_sub_le (value * (10 ^ places : Nat))
  have split : roundTo places value - value =
      (roundHalfEven (value * (10 ^ places : Nat)) - value * (10 ^ places : Nat)) /
        (10 ^ places : Nat) := by
    rw [roundTo, sub_div, mul_div_cancel_right₀ _ positive.ne']
  rw [split, abs_div, abs_of_pos positive, halfUnit]
  exact div_le_div_of_nonneg_right moved positive.le

/-- A value that is nearest to a number with so many places becomes that number. -/
theorem roundTo_of_near {whole : Int}
    (near : |value - whole / (10 ^ places : Nat)| < halfUnit places) :
    roundTo places value = whole / (10 ^ places : Nat) := by
  have positive : (0 : ℚ) < (10 ^ places : Nat) := by positivity
  have scaled : |value * (10 ^ places : Nat) - whole| < 1 / 2 := by
    have split : value * (10 ^ places : Nat) - whole =
        (value - whole / (10 ^ places : Nat)) * (10 ^ places : Nat) := by
      rw [sub_mul, div_mul_cancel₀ _ positive.ne']
    rw [split, abs_mul, abs_of_pos positive, ← lt_div_iff₀ positive]
    exact near
  rw [roundTo, roundHalfEven_of_near scaled]

/-- Rounding keeps the order. -/
theorem roundHalfEven_mono {first second : ℚ} (order : first ≤ second) :
    roundHalfEven first ≤ roundHalfEven second := by
  have floors : first.floor ≤ second.floor :=
    Rat.le_floor_iff.mpr ((Rat.floor_le first).trans order)
  rcases floors.eq_or_lt with same | apart
  · unfold roundHalfEven
    dsimp only
    rw [same]
    split_ifs <;> first | omega | (exfalso; linarith)
  · have upper : roundHalfEven first ≤ first.floor + 1 := by
      unfold roundHalfEven
      dsimp only
      split_ifs <;> omega
    have lower : second.floor ≤ roundHalfEven second := by
      unfold roundHalfEven
      dsimp only
      split_ifs <;> omega
    omega

theorem roundTo_mono (places : Nat) {first second : ℚ} (order : first ≤ second) :
    roundTo places first ≤ roundTo places second := by
  have positive : (0 : ℚ) < (10 ^ places : Nat) := by positivity
  have scaled := roundHalfEven_mono (mul_le_mul_of_nonneg_right order positive.le)
  exact div_le_div_of_nonneg_right (by exact_mod_cast scaled) positive.le

/-- Rounding keeps the order of two values unless it makes them equal. -/
theorem roundTo_lt_iff {places : Nat} {first second : ℚ} :
    roundTo places first < roundTo places second ↔
      first < second ∧ roundTo places first ≠ roundTo places second := by
  constructor
  · intro lower
    refine ⟨?_, lower.ne⟩
    by_contra passed
    exact absurd (roundTo_mono places (not_lt.mp passed)) lower.not_ge
  · rintro ⟨order, apart⟩
    exact lt_of_le_of_ne (roundTo_mono places order.le) apart

/-- Values that are further apart than a unit of the last place stay apart. -/
theorem roundTo_lt_of_far {places : Nat} {first second : ℚ}
    (far : first + 2 * halfUnit places < second) :
    roundTo places first < roundTo places second := by
  have before := (abs_le.mp (abs_roundTo_sub_le places first)).2
  have after := (abs_le.mp (abs_roundTo_sub_le places second)).1
  linarith

/-- Rounding treats both signs alike. -/
theorem roundHalfEven_neg (value : ℚ) : roundHalfEven (-value) = -roundHalfEven value := by
  have below : (value.floor : ℚ) ≤ value := Rat.floor_le value
  have above : value < (value.floor : ℚ) + 1 := by exact_mod_cast Rat.lt_floor_add_one value
  rcases lt_trichotomy (value - value.floor) (1 / 2) with near | tie | far
  · have rounded : roundHalfEven value = value.floor :=
      roundHalfEven_of_near (by rw [abs_lt]; constructor <;> linarith)
    rw [rounded]
    apply roundHalfEven_of_near
    push_cast
    rw [abs_lt]
    constructor <;> linarith
  · have mirrored : (-value).floor = -value.floor - 1 := by
      have lower : -value.floor - 1 ≤ (-value).floor := by
        rw [Rat.le_floor_iff]
        push_cast
        linarith
      have upper : (-value).floor < -value.floor := by
        rw [Rat.floor_lt_iff]
        push_cast
        linarith
      omega
    have tied : -value - (-value).floor = 1 / 2 := by
      rw [mirrored]
      push_cast
      linarith
    unfold roundHalfEven
    dsimp only
    rw [tie, tied, mirrored]
    simp only [lt_irrefl, if_false]
    split_ifs <;> omega
  · have rounded : roundHalfEven value = value.floor + 1 :=
      roundHalfEven_of_near (by rw [abs_lt]; push_cast; constructor <;> linarith)
    rw [rounded]
    apply roundHalfEven_of_near
    push_cast
    rw [abs_lt]
    constructor <;> linarith

/-- What a value becomes when it is scaled and rounded, and what it becomes when it is rounded,
determine each other. -/
theorem roundHalfEven_eq_of_roundTo {first second : ℚ}
    (same : roundTo places first = roundTo places second) :
    roundHalfEven (first * (10 ^ places : Nat)) = roundHalfEven (second * (10 ^ places : Nat)) := by
  have positive : (0 : ℚ) < (10 ^ places : Nat) := by positivity
  unfold roundTo at same
  exact_mod_cast (div_left_inj' positive.ne').mp same

/-- Two values that become the same number are written in the same way, as long as neither is
a negative value that becomes zero. -/
theorem fixedSigned_congr {first second : ℚ}
    (same : roundTo places first = roundTo places second)
    (signed : ¬ (first < 0 ∧ roundTo places first = 0))
    (signedOther : ¬ (second < 0 ∧ roundTo places second = 0)) :
    fixedSigned places first = fixedSigned places second := by
  have zero : roundTo places 0 = 0 := by
    have whole : roundHalfEven 0 = 0 := roundHalfEven_of_near (by norm_num)
    rw [roundTo, zero_mul, whole, Int.cast_zero, zero_div]
  have digits := roundHalfEven_eq_of_roundTo same
  unfold fixedSigned
  by_cases negative : first < 0
  · have below : second < 0 := by
      by_contra above
      have low := roundTo_mono places negative.le
      have high := roundTo_mono places (not_lt.mp above)
      rw [zero] at low high
      exact signed ⟨negative, le_antisymm low (same ▸ high)⟩
    rw [if_pos negative, if_pos below]
    unfold fixed
    rw [neg_mul, neg_mul, roundHalfEven_neg, roundHalfEven_neg, digits]
  · have above : ¬ second < 0 := by
      intro below
      have low := roundTo_mono places below.le
      have high := roundTo_mono places (not_lt.mp negative)
      rw [zero] at low high
      exact signedOther ⟨below, le_antisymm low (same ▸ high)⟩
    rw [if_neg negative, if_neg above]
    unfold fixed
    rw [digits]

end EaBot.Foundation.Text
