import Mathlib.Logic.Basic

/-!
# Procedures of stages

A procedure works through stages.  A stage either leaves the procedure with its
outcome or goes on with a value for the next stage.

What holds of every outcome is proved one stage at a time: `Satisfies` says what the
outcomes that a stage leaves with have in common and what the next stage may rely
on, and a sequence of stages is governed by the rule for two of them.
-/

namespace EaBot.Foundation

universe u v w

/-- What a stage comes to. -/
inductive Stage (ω : Type u) (α : Type v)
  | leave (outcome : ω)
  | proceed (value : α)

namespace Stage

variable {ω : Type u} {α β : Type v}

/-- One stage after another. -/
def bind (first : Stage ω α) (next : α → Stage ω β) : Stage ω β :=
  match first with
  | leave outcome => leave outcome
  | proceed value => next value

instance : Monad (Stage ω) where
  pure := proceed
  bind := bind

@[simp]
theorem proceed_bind (value : α) (next : α → Stage ω β) :
    ((proceed value : Stage ω α) >>= next) = next value :=
  rfl

@[simp]
theorem leave_bind (outcome : ω) (next : α → Stage ω β) :
    ((leave outcome : Stage ω α) >>= next) = leave outcome :=
  rfl

theorem pure_eq_proceed (value : α) : (pure value : Stage ω α) = proceed value :=
  rfl

/-- A sequence of two stages that goes on has taken both. -/
theorem of_bind_eq_proceed {first : Stage ω α} {next : α → Stage ω β} {result : β}
    (onwards : (first >>= next) = proceed result) :
    ∃ value, first = proceed value ∧ next value = proceed result := by
  cases first with
  | leave outcome => cases onwards
  | proceed value => exact ⟨value, rfl, onwards⟩

theorem bind_assoc {γ : Type v} (first : Stage ω α) (second : α → Stage ω β)
    (third : β → Stage ω γ) :
    ((first >>= second) >>= third) = (first >>= fun value => second value >>= third) := by
  cases first with
  | leave outcome => rfl
  | proceed value => rfl

/-- The outcome of a procedure whose last stage gives one. -/
def outcome : Stage ω ω → ω
  | leave outcome => outcome
  | proceed value => value

/-- Outcomes that the stage leaves with meet `exit`, values it goes on with `goal`. -/
def Satisfies (exit : ω → Prop) (goal : α → Prop) : Stage ω α → Prop
  | leave outcome => exit outcome
  | proceed value => goal value

variable {exit : ω → Prop} {goal middle : α → Prop}

/-- The rule for two stages. -/
theorem Satisfies.bind {first : Stage ω α} {next : α → Stage ω β} {goal : β → Prop}
    (start : first.Satisfies exit middle)
    (onwards : ∀ value, middle value → (next value).Satisfies exit goal) :
    (first >>= next).Satisfies exit goal := by
  cases first with
  | leave outcome => exact start
  | proceed value => exact onwards value start

/-- The rule for a whole procedure. -/
theorem Satisfies.outcome {procedure : Stage ω ω} (every : procedure.Satisfies exit exit) :
    exit procedure.outcome := by
  cases procedure with
  | leave outcome => exact every
  | proceed value => exact every

theorem Satisfies.mono {stage : Stage ω α} {exit' : ω → Prop} {goal' : α → Prop}
    (every : stage.Satisfies exit goal) (exits : ∀ outcome, exit outcome → exit' outcome)
    (goals : ∀ value, goal value → goal' value) : stage.Satisfies exit' goal' := by
  cases stage with
  | leave outcome => exact exits outcome every
  | proceed value => exact goals value every

theorem Satisfies.of_proceed {stage : Stage ω α} {value : α} (every : stage.Satisfies exit goal)
    (onwards : stage = proceed value) : goal value := by
  rw [onwards] at every
  exact every

instance [DecidablePred exit] [DecidablePred goal] (stage : Stage ω α) :
    Decidable (stage.Satisfies exit goal) :=
  match stage with
  | leave outcome => inferInstanceAs (Decidable (exit outcome))
  | proceed value => inferInstanceAs (Decidable (goal value))

end Stage

end EaBot.Foundation
