import Mathlib.Algebra.Order.Group.MinMax
import Mathlib.Algebra.BigOperators.Group.List.Basic
import Mathlib.Order.Lattice

/-!
# Falls below a running maximum

A value that starts somewhere and takes steps leads through points, each with the highest
value up to it.  A loop that keeps the highest value and the deepest of a measure of the
falls below it finds the deepest measure of all points.  A step of zero leads to no new
point.
-/

namespace EaBot.Foundation

universe u v

variable {α : Type u} {β : Type v}

/-- A value on its way, with the highest value up to it. -/
structure Summit (α : Type u) where
  peak : α
  value : α
deriving DecidableEq

/-- The deepest of the measures, with the highest value. -/
structure Deepest (α : Type u) (β : Type v) where
  peak : α
  depth : β

section Points

variable [Add α] [LinearOrder α]

namespace Summit

/-- The point that a step leads to. -/
def after (point : Summit α) (step : α) : Summit α :=
  ⟨max point.peak (point.value + step), point.value + step⟩

/-- The points that the steps lead through. -/
def points (point : Summit α) : List α → List (Summit α)
  | [] => [point]
  | step :: rest => point :: points (point.after step) rest

theorem mem_points_self (point : Summit α) (steps : List α) : point ∈ point.points steps := by
  cases steps <;> simp [points]

/-- The highest value only rises, and no value is above it. -/
theorem bounds_of_mem_points {point other : Summit α} (below : point.value ≤ point.peak)
    {steps : List α} (member : other ∈ point.points steps) :
    point.peak ≤ other.peak ∧ other.value ≤ other.peak := by
  induction steps generalizing point with
  | nil =>
      cases List.mem_singleton.mp member
      exact ⟨le_rfl, below⟩
  | cons step rest ih =>
      rcases List.mem_cons.mp member with rfl | later
      · exact ⟨le_rfl, below⟩
      · have bounds := ih (le_max_right _ _) later
        exact ⟨(le_max_left _ _).trans bounds.1, bounds.2⟩

end Summit

/-- The next value of a loop that keeps the deepest of a measure. -/
def Deepest.next [LinearOrder β] (measure : α → α → β) (deepest : Deepest α β) (value : α) :
    Deepest α β :=
  ⟨max deepest.peak value, max deepest.depth (measure (max deepest.peak value) value)⟩

variable [LinearOrder β]

omit [Add α] in
/-- Loops that take the same steps from a depth on come to the same point. -/
theorem Deepest.foldl_congr {measure : α → α → β} {other : Deepest α β → α → Deepest α β}
    {least : β}
    (agree : ∀ deepest value, least ≤ deepest.depth →
      other deepest value = deepest.next measure value)
    (values : List α) {deepest : Deepest α β} (deep : least ≤ deepest.depth) :
    values.foldl other deepest = values.foldl (Deepest.next measure) deepest := by
  induction values generalizing deepest with
  | nil => rfl
  | cons value rest ih =>
      rw [List.foldl_cons, List.foldl_cons, agree deepest value deep]
      exact ih (deep.trans (le_max_left _ _))

/-- A loop over the values finds the deepest measure of all points. -/
theorem Deepest.depth_foldl_le_iff (measure : α → α → β) (steps : List α) (value : α)
    (deepest : Deepest α β) (bound : β) :
    ((steps.scanl (· + ·) value).foldl (Deepest.next measure) deepest).depth ≤ bound ↔
      deepest.depth ≤ bound ∧
        ∀ point ∈ (Summit.mk (max deepest.peak value) value).points steps,
          measure point.peak point.value ≤ bound := by
  induction steps generalizing value deepest with
  | nil => simp [Summit.points, Deepest.next]
  | cons step rest ih =>
      rw [List.scanl_cons, List.foldl_cons, ih, Summit.points, List.forall_mem_cons,
        Deepest.next, max_le_iff, and_assoc]
      rfl

end Points

section Steps

variable [AddCommGroup α] [LinearOrder α]

namespace Summit

/-- Steps of zero lead to no new point. -/
theorem mem_points_filter {point : Summit α} (below : point.value ≤ point.peak)
    (steps : List α) (other : Summit α) :
    other ∈ point.points (steps.filter (· ≠ 0)) ↔ other ∈ point.points steps := by
  induction steps generalizing point with
  | nil => rfl
  | cons step rest ih =>
      by_cases still : step = 0
      · have same : point.after step = point := by
          rw [after, still, add_zero, max_eq_left below]
        rw [List.filter_cons_of_neg (by simp [still]), ih below, points, same, List.mem_cons]
        constructor
        · exact Or.inr
        · rintro (rfl | later)
          · exact mem_points_self other rest
          · exact later
      · have onwards : other ∈ (point.after step).points (rest.filter (· ≠ 0)) ↔
            other ∈ (point.after step).points rest :=
          ih (le_max_right _ _)
        rw [List.filter_cons_of_pos (by simp [still]), points, points, List.mem_cons,
          List.mem_cons, onwards]

/-- The point that lies further by an amount. -/
def shift (amount : α) (point : Summit α) : Summit α :=
  ⟨amount + point.peak, amount + point.value⟩

variable [IsOrderedAddMonoid α]

/-- From a point further by an amount, the steps lead through points further by it. -/
theorem points_shift (amount : α) (point : Summit α) (steps : List α) :
    (point.shift amount).points steps = (point.points steps).map (shift amount) := by
  induction steps generalizing point with
  | nil => rfl
  | cons step rest ih =>
      have same : (point.shift amount).after step = (point.after step).shift amount := by
        simp only [after, shift, add_assoc, ← max_add_add_left]
      rw [points, points, List.map_cons, same, ih]

/-- The value never falls below its peak when no step goes down, and only then. -/
theorem forall_peak_le_iff {point : Summit α} (risen : point.peak = point.value)
    (steps : List α) :
    (∀ other ∈ point.points steps, other.peak ≤ other.value) ↔ ∀ step ∈ steps, 0 ≤ step := by
  induction steps generalizing point with
  | nil => simp [points, risen]
  | cons step rest ih =>
      rw [points, List.forall_mem_cons, List.forall_mem_cons]
      by_cases up : 0 ≤ step
      · have onwards : (point.after step).peak = (point.after step).value := by
          simp [after, risen, up]
        rw [ih onwards]
        simp [risen, up]
      · have fallen : ¬ (point.after step).peak ≤ (point.after step).value := by
          simpa [after, risen] using up
        constructor
        · rintro ⟨-, never⟩
          exact absurd (never _ (mem_points_self _ rest)) fallen
        · rintro ⟨rises, -⟩
          exact absurd rises up

end Summit

end Steps

end EaBot.Foundation
