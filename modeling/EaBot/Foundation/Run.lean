import Mathlib.Data.List.Basic

/-!
# Runs over a sequence of inputs

A system takes one step for every input.  `Every` says that each input of a run
meets a condition in the state that it finds, and `emitted` collects what the
steps emit.  Both follow the recursion of a run, so a fact about a whole run is a
fact about one step carried along by an invariant.
-/

namespace EaBot.Foundation.Run

universe u v w

variable {σ : Type u} {ι : Type v} {ε : Type w}

/-- Each input meets the condition in the state that it finds. -/
def Every (step : σ → ι → σ) (condition : σ → ι → Prop) : σ → List ι → Prop
  | _, [] => True
  | state, input :: rest =>
      condition state input ∧ Every step condition (step state input) rest

/-- The state after a sequence of inputs. -/
def after (step : σ → ι → σ) (state : σ) (inputs : List ι) : σ :=
  inputs.foldl step state

/-- What the steps of a run emit, in order. -/
def emitted (step : σ → ι → σ) (emit : σ → ι → List ε) : σ → List ι → List ε
  | _, [] => []
  | state, input :: rest => emit state input ++ emitted step emit (step state input) rest

instance Every.instDecidable (step : σ → ι → σ) (condition : σ → ι → Prop)
    [∀ state input, Decidable (condition state input)] :
    ∀ state inputs, Decidable (Every step condition state inputs)
  | _, [] => isTrue trivial
  | state, input :: rest =>
      have := Every.instDecidable step condition (step state input) rest
      inferInstanceAs (Decidable (_ ∧ _))

variable {step : σ → ι → σ} {condition weaker : σ → ι → Prop}

theorem Every.mono {state : σ} {inputs : List ι}
    (implies : ∀ state input, condition state input → weaker state input)
    (every : Every step condition state inputs) : Every step weaker state inputs := by
  induction inputs generalizing state with
  | nil => trivial
  | cons input rest ih => exact ⟨implies _ _ every.1, ih every.2⟩

/-- An invariant that each input keeps, and that makes it meet a goal, as long as the
inputs meet a condition. -/
theorem Every.of_invariant {goal : σ → ι → Prop} {state : σ} {inputs : List ι}
    (every : Every step condition state inputs) (invariant : σ → Prop)
    (initial : invariant state)
    (keeps : ∀ state input, invariant state → condition state input →
      invariant (step state input))
    (meets : ∀ state input, invariant state → condition state input → goal state input) :
    Every step goal state inputs := by
  induction inputs generalizing state with
  | nil => trivial
  | cons input rest ih =>
      rcases every with ⟨now, onwards⟩
      exact ⟨meets state input initial now, ih onwards (keeps state input initial now)⟩

/-- What each input keeps, as long as it meets a condition, holds after the run. -/
theorem Every.after {state : σ} {inputs : List ι} (every : Every step condition state inputs)
    (invariant : σ → Prop) (initial : invariant state)
    (keeps : ∀ state input, invariant state → condition state input →
      invariant (step state input)) : invariant (Run.after step state inputs) := by
  induction inputs generalizing state with
  | nil => exact initial
  | cons input rest ih =>
      rcases every with ⟨now, onwards⟩
      exact ih onwards (keeps state input initial now)

/-- A run in two parts. -/
theorem every_append (state : σ) (first second : List ι) :
    Every step condition state (first ++ second) ↔
      Every step condition state first ∧
        Every step condition (Run.after step state first) second := by
  induction first generalizing state with
  | nil => exact (and_iff_right trivial).symm
  | cons input rest ih =>
      rw [List.cons_append, Every, Every, ih, and_assoc]
      rfl

/-- Two conditions that agree under an invariant agree on a run, when the second one
keeps the invariant. -/
theorem every_iff_of_kept (invariant : σ → Prop) {inputs : List ι}
    (keeps : ∀ state, ∀ input ∈ inputs, invariant state → weaker state input →
      invariant (step state input))
    (agree : ∀ state, ∀ input ∈ inputs, invariant state →
      (condition state input ↔ weaker state input))
    {state : σ} (initial : invariant state) :
    Every step condition state inputs ↔ Every step weaker state inputs := by
  induction inputs generalizing state with
  | nil => exact Iff.rfl
  | cons input rest ih =>
      have first : input ∈ input :: rest := List.mem_cons_self
      rw [Every, Every, agree state input first initial]
      apply and_congr_right
      intro met
      exact ih (fun other later member => keeps other later (.tail _ member))
        (fun other later member => agree other later (.tail _ member))
        (keeps state input first initial met)

/-- Two conditions that agree under an invariant and an assumption on every input agree on a
run, when the second one keeps the invariant. -/
theorem every_iff_of_assumed (invariant : σ → Prop) {assumed : σ → ι → Prop} {state : σ}
    {inputs : List ι} (assumption : Every step assumed state inputs)
    (keeps : ∀ state input, invariant state → assumed state input → weaker state input →
      invariant (step state input))
    (agree : ∀ state input, invariant state → assumed state input →
      (condition state input ↔ weaker state input))
    (initial : invariant state) :
    Every step condition state inputs ↔ Every step weaker state inputs := by
  induction inputs generalizing state with
  | nil => exact Iff.rfl
  | cons input rest ih =>
      rcases assumption with ⟨now, onwards⟩
      rw [Every, Every, agree state input initial now]
      apply and_congr_right
      intro met
      exact ih onwards (keeps state input initial now met)

/-- Two conditions that agree under an invariant of every step agree on a run. -/
theorem every_iff_of_invariant (invariant : σ → Prop)
    (keeps : ∀ state input, invariant state → invariant (step state input))
    (agree : ∀ state input, invariant state → (condition state input ↔ weaker state input))
    {state : σ} (initial : invariant state) (inputs : List ι) :
    Every step condition state inputs ↔ Every step weaker state inputs :=
  every_iff_of_kept invariant (fun state input _ holds _ => keeps state input holds)
    (fun state input _ holds => agree state input holds) initial

/-- Two conditions that agree on the inputs of a run agree on the run. -/
theorem every_congr_of_mem {inputs : List ι}
    (agree : ∀ state, ∀ input ∈ inputs, (condition state input ↔ weaker state input))
    (state : σ) : Every step condition state inputs ↔ Every step weaker state inputs :=
  every_iff_of_kept (fun _ => True) (fun _ _ _ _ _ => trivial)
    (fun state input member _ => agree state input member) trivial

/-- A condition on the inputs alone holds of a run when it holds of every input. -/
theorem every_iff_forall_mem {accepts : ι → Prop} {inputs : List ι} (state : σ) :
    Every step (fun _ input => accepts input) state inputs ↔ ∀ input ∈ inputs, accepts input := by
  induction inputs generalizing state with
  | nil => simp [Every]
  | cons input rest ih => rw [Every, ih, List.forall_mem_cons]

end EaBot.Foundation.Run
