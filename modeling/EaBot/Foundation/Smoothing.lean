import EaBot.Foundation.Causal
import Mathlib.Algebra.Order.Ring.Defs
import Mathlib.Tactic.Linarith
import Mathlib.Tactic.Positivity
import Mathlib.Tactic.Ring

/-!
# Exponential smoothing

A smoothed value moves by a share of the distance to every new value.  What it started from
fades with each value: two smoothings of the same values differ by the difference of their
starts, times the rest of the share once for every value.
-/

namespace EaBot.Foundation

universe u

variable {R : Type u}

section Ring

variable [CommRing R]

/-- The smoothed value after some values. -/
def smooth (share : R) (start : R) (values : List R) : R :=
  values.foldl (fun last value => share * value + (1 - share) * last) start

theorem smooth_append (share start : R) (first second : List R) :
    smooth share start (first ++ second) = smooth share (smooth share start first) second :=
  List.foldl_append

/-- The difference of two starts fades with every value. -/
theorem smooth_sub (share start other : R) (values : List R) :
    smooth share start values - smooth share other values =
      (1 - share) ^ values.length * (start - other) := by
  induction values generalizing start other with
  | nil => simp [smooth]
  | cons value rest ih =>
      have faded : share * value + (1 - share) * start - (share * value + (1 - share) * other) =
          (1 - share) * (start - other) := by ring
      change smooth share (share * value + (1 - share) * start) rest -
        smooth share (share * value + (1 - share) * other) rest = _
      rw [ih, faded, List.length_cons, pow_succ, mul_assoc]

/-- A value that stays is approached. -/
theorem smooth_replicate (share start value : R) (count : Nat) :
    smooth share start (List.replicate count value) =
      value + (1 - share) ^ count * (start - value) := by
  have still : smooth share value (List.replicate count value) = value := by
    induction count with
    | zero => rfl
    | succ count ih =>
        have same : share * value + (1 - share) * value = value := by ring
        rw [List.replicate_succ]
        change smooth share (share * value + (1 - share) * value) (List.replicate count value) = _
        rw [same, ih]
  have faded := smooth_sub share start value (List.replicate count value)
  rw [still, List.length_replicate] at faded
  rw [← faded]
  ring

end Ring

/-- Positive values are smoothed to a positive value. -/
theorem smooth_pos [CommRing R] [LinearOrder R] [IsStrictOrderedRing R] {share start : R}
    {values : List R} (some : 0 < share) (rest : share < 1) (started : 0 < start)
    (positive : ∀ value ∈ values, 0 < value) : 0 < smooth share start values := by
  induction values generalizing start with
  | nil => exact started
  | cons value later ih =>
      rcases List.forall_mem_cons.mp positive with ⟨first, others⟩
      have left : 0 < 1 - share := sub_pos.mpr rest
      exact ih (by positivity) others

/-! ## The last value of a recurrence -/

variable {σ α β : Type u}

theorem getLast_follow (next : σ → α → σ) (state : σ) (items : List α) :
    (state :: follow next state items).getLast (List.cons_ne_nil _ _) = items.foldl next state := by
  induction items generalizing state with
  | nil => rfl
  | cons item rest ih => rw [follow, List.getLast_cons (List.cons_ne_nil _ _), ih, List.foldl_cons]

/-- The last value of a recurrence that has started. -/
theorem getLast?_seeded {period : Nat} (missing : β) (seed : List α → σ) (next : σ → α → σ)
    (value : σ → β) {items : List α} (enough : period ≤ items.length) :
    (seeded period missing seed next value items).getLast? =
      some (value ((items.drop period).foldl next (seed (items.take period)))) := by
  rw [seeded, if_neg (not_lt.mpr enough), List.getLast?_append_of_ne_nil _ (by simp),
    List.getLast?_map, List.getLast?_eq_getLast_of_ne_nil (List.cons_ne_nil _ _), getLast_follow]
  rfl

end EaBot.Foundation
