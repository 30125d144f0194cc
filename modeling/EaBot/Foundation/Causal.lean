import Mathlib.Data.List.Basic

/-!
# Sequences without a look ahead

A function on sequences is causal when the first items of its result depend on the first
items of its argument alone.  Moving averages are: they are seeded with the first items
and then follow the others one by one.

A loop over the items of a sequence that notes down what happens at every position is
causal in the same sense: what it notes before a position depends on the items before
that position.
-/

namespace EaBot.Foundation

variable {α β γ σ τ : Type*}

/-- The first items of the result depend on the first items of the sequence alone. -/
def Causal (f : List α → List β) : Prop :=
  ∀ count items, f (items.take count) = (f items).take count

namespace Causal

theorem map (convert : α → β) : Causal (List.map convert) := by
  intro count items
  exact List.map_take

theorem comp {g : List β → List γ} {f : List α → List β} (outer : Causal g)
    (inner : Causal f) : Causal (g ∘ f) := by
  intro count items
  rw [Function.comp, inner count items, outer count]
  rfl

theorem zipWith {f : List α → List β} {g : List α → List γ} (left : Causal f)
    (right : Causal g) (combine : β → γ → τ) :
    Causal fun items => List.zipWith combine (f items) (g items) := by
  intro count items
  dsimp only
  rw [left count items, right count items, List.take_zipWith]

end Causal

/-! ## Seeded recurrences -/

/-- The states that the items lead through. -/
def follow (next : σ → α → σ) (state : σ) : List α → List σ
  | [] => []
  | item :: rest => next state item :: follow next (next state item) rest

theorem causal_follow (next : σ → α → σ) (state : σ) : Causal (follow next state) := by
  intro count items
  induction items generalizing count state with
  | nil => simp [follow]
  | cons item rest ih =>
      cases count with
      | zero => rfl
      | succ count =>
          rw [List.take_succ_cons, follow, follow, List.take_succ_cons, ih]

@[simp]
theorem length_follow (next : σ → α → σ) (state : σ) (items : List α) :
    (follow next state items).length = items.length := by
  induction items generalizing state with
  | nil => rfl
  | cons item rest ih => simp [follow, ih]

/-- A recurrence that starts from the first `period` items.  Before that its values are
missing. -/
def seeded (period : Nat) (missing : β) (seed : List α → σ) (next : σ → α → σ) (value : σ → β)
    (items : List α) : List β :=
  if items.length < period then List.replicate items.length missing
  else
    List.replicate (period - 1) missing ++
      ((seed (items.take period) :: follow next (seed (items.take period))
        (items.drop period)).map value)

theorem causal_seeded {period : Nat} (positive : 1 ≤ period) (missing : β) (seed : List α → σ)
    (next : σ → α → σ) (value : σ → β) : Causal (seeded period missing seed next value) := by
  intro count items
  unfold seeded
  by_cases short : items.length < period
  · rw [if_pos short, if_pos (by rw [List.length_take]; omega), List.take_replicate,
      List.length_take]
  · rw [if_neg short]
    by_cases early : count < period
    · rw [if_pos (by rw [List.length_take]; omega), List.length_take,
        List.take_append_of_le_length (by rw [List.length_replicate]; omega),
        List.take_replicate]
      congr 1
      omega
    · have whole : (items.take count).take period = items.take period := by
        rw [List.take_take, Nat.min_eq_left (by omega)]
      have enough : ¬(items.take count).length < period := by
        rw [List.length_take]
        omega
      rw [if_neg enough, whole, List.take_append, List.length_replicate, List.take_replicate,
        Nat.min_eq_right (by omega)]
      congr 1
      obtain ⟨rest, later⟩ : ∃ rest, count - (period - 1) = rest + 1 :=
        ⟨count - period, by omega⟩
      rw [← List.map_take, later, List.take_succ_cons,
        ← causal_follow next (seed (items.take period)) rest, List.drop_take]
      congr 4
      omega

theorem length_seeded {period : Nat} (positive : 1 ≤ period) (missing : β) (seed : List α → σ)
    (next : σ → α → σ) (value : σ → β) (items : List α) :
    (seeded period missing seed next value items).length = items.length := by
  unfold seeded
  split_ifs with short
  · exact List.length_replicate
  · simp only [List.length_append, List.length_replicate, List.length_map, List.length_cons,
      length_follow, List.length_drop]
    omega

/-! ## Loops over a sequence -/

/-- The state after a loop over the items, each with its position. -/
def loop (step : Nat → α → σ → σ) : Nat → List α → σ → σ
  | _, [], state => state
  | position, item :: rest, state => loop step (position + 1) rest (step position item state)

theorem loop_append (step : Nat → α → σ → σ) (position : Nat) (first second : List α)
    (state : σ) :
    loop step position (first ++ second) state =
      loop step (position + first.length) second (loop step position first state) := by
  induction first generalizing position state with
  | nil => rfl
  | cons item rest ih =>
      rw [List.cons_append, loop, loop, ih, List.length_cons]
      congr 1
      omega

/-- What every step keeps holds after the loop. -/
theorem loop_keeps {step : Nat → α → σ → σ} (inv : Nat → σ → Prop)
    (keeps : ∀ position item state, inv position state →
      inv (position + 1) (step position item state))
    (position : Nat) (items : List α) {state : σ} (holds : inv position state) :
    inv (position + items.length) (loop step position items state) := by
  induction items generalizing position state with
  | nil => exact holds
  | cons item rest ih =>
      have after := ih (position + 1) (keeps position item state holds)
      rw [List.length_cons, loop]
      rwa [Nat.add_assoc, Nat.add_comm 1] at after

/-- Loops whose steps agree where the invariant holds come to the same state. -/
theorem loop_congr {step other : Nat → α → σ → σ} (inv : Nat → σ → Prop)
    (keeps : ∀ position item state, inv position state →
      inv (position + 1) (step position item state))
    (last : Nat)
    (agree : ∀ position item state, position < last → inv position state →
      step position item state = other position item state)
    (position : Nat) (items : List α) (within : position + items.length ≤ last) {state : σ}
    (holds : inv position state) :
    loop step position items state = loop other position items state := by
  induction items generalizing position state with
  | nil => rfl
  | cons item rest ih =>
      rw [List.length_cons] at within
      have same := agree position item state (by omega) holds
      have onwards := ih (position + 1) (by omega) (keeps position item state holds)
      rw [loop, loop, ← same]
      exact onwards

/-- Every step appends to the notes, and what it appends bears its position. -/
def Notes (step : Nat → α → σ → σ) (notes : σ → List γ) (place : γ → Nat) : Prop :=
  ∀ position item state, ∃ more, notes (step position item state) = notes state ++ more ∧
    ∀ note ∈ more, place note = position

namespace Notes

variable {step : Nat → α → σ → σ} {notes : σ → List γ} {place : γ → Nat}

theorem loop (appends : Notes step notes place) (position : Nat) (items : List α) (state : σ) :
    ∃ more, notes (loop step position items state) = notes state ++ more ∧
      ∀ note ∈ more, position ≤ place note := by
  induction items generalizing position state with
  | nil => exact ⟨[], by simp [Foundation.loop], by simp⟩
  | cons item rest ih =>
      rcases appends position item state with ⟨here, noted, placed⟩
      rcases ih (position + 1) (step position item state) with ⟨later, others, beyond⟩
      refine ⟨here ++ later, ?_, ?_⟩
      · rw [Foundation.loop, others, noted, List.append_assoc]
      · intro note member
        rcases List.mem_append.mp member with first | second
        · exact Nat.le_of_eq (placed note first).symm
        · exact Nat.le_of_succ_le (beyond note second)

/-- What is noted before a position was noted by the items before it. -/
theorem before (appends : Notes step notes place) (count : Nat) (items : List α) (state : σ) :
    (notes (Foundation.loop step 0 items state)).filter (fun note => place note < count) =
      (notes (Foundation.loop step 0 (items.take count) state)).filter
        (fun note => place note < count) := by
  by_cases whole : items.length ≤ count
  · rw [List.take_of_length_le whole]
  · rcases appends.loop (items.take count).length (items.drop count)
      (Foundation.loop step 0 (items.take count) state) with ⟨more, noted, beyond⟩
    have split := loop_append step 0 (items.take count) (items.drop count) state
    rw [List.take_append_drop, Nat.zero_add] at split
    rw [split, noted, List.filter_append]
    have none_ : more.filter (fun note => place note < count) = [] := by
      rw [List.filter_eq_nil_iff]
      intro note member
      have late := beyond note member
      rw [List.length_take] at late
      simp only [decide_eq_true_eq]
      omega
    rw [none_, List.append_nil]

end Notes

end EaBot.Foundation
