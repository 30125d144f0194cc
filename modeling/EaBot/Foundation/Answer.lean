import Mathlib.Logic.Basic

/-!
# Calls that return, raise or are interrupted

The answer of a call into code of unknown behaviour.  A raised error is one that a
handler for ordinary errors catches; an interruption passes through such a handler.
-/

namespace EaBot.Foundation

universe u

/-- What a call comes to. -/
inductive Answer (α : Type u)
  | value (result : α)
  | raised (text : String)
  | interrupted
deriving DecidableEq

namespace Answer

variable {α β : Type u}

/-- Go on with the result. -/
def bind (first : Answer α) (next : α → Answer β) : Answer β :=
  match first with
  | value result => next result
  | raised text => raised text
  | interrupted => interrupted

instance : Monad Answer where
  pure := value
  bind := bind

/-- Catch an ordinary error. -/
def attempt : Answer α → Answer (Except String α)
  | value result => value (.ok result)
  | raised text => value (.error text)
  | interrupted => interrupted

@[simp]
theorem pure_eq_value (result : α) : (pure result : Answer α) = value result := rfl

@[simp]
theorem value_bind (result : α) (next : α → Answer β) : (value result >>= next) = next result :=
  rfl

@[simp]
theorem raised_bind (text : String) (next : α → Answer β) :
    (raised text >>= next) = raised text := rfl

@[simp]
theorem interrupted_bind (next : α → Answer β) : (interrupted >>= next) = interrupted := rfl

@[simp]
theorem attempt_value (result : α) : (value result).attempt = value (.ok result) := rfl

@[simp]
theorem attempt_raised (text : String) : (raised text : Answer α).attempt = value (.error text) :=
  rfl

@[simp]
theorem attempt_interrupted : (interrupted : Answer α).attempt = interrupted := rfl

/-- Two calls in a row return when the first one does and the second one goes on to. -/
theorem bind_eq_value_iff {first : Answer α} {next : α → Answer β} {result : β} :
    (first >>= next) = value result ↔
      ∃ middle, first = value middle ∧ next middle = value result := by
  cases first with
  | value middle =>
      rw [value_bind]
      constructor
      · intro returned
        exact ⟨middle, rfl, returned⟩
      · rintro ⟨other, same, returned⟩
        cases same
        exact returned
  | raised text => exact ⟨nofun, nofun⟩
  | interrupted => exact ⟨nofun, nofun⟩

/-- Whether the call returns. -/
def Returns (answer : Answer α) : Prop :=
  ∃ result, answer = value result

@[simp]
theorem returns_value (result : α) : (value result).Returns := ⟨result, rfl⟩

@[simp]
theorem not_returns_raised (text : String) : ¬(raised text : Answer α).Returns := nofun

@[simp]
theorem not_returns_interrupted : ¬(interrupted : Answer α).Returns := nofun

end Answer

end EaBot.Foundation
