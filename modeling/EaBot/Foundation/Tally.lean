import EaBot.Foundation.Dict
import Mathlib.Algebra.BigOperators.Group.List.Basic

/-!
# Tallies

A tally adds up the amounts of items under their keys, in the order in which the keys come
up first.  Whatever the keys are, the tally adds up to the amounts.
-/

namespace EaBot.Foundation

universe u v w

variable {κ : Type u} {ν : Type v} {α : Type w} [DecidableEq κ] [AddCommMonoid ν]

namespace Dict

/-- Add an amount to what a key has. -/
def add (dict : Dict κ ν) (key : κ) (amount : ν) : Dict κ ν :=
  dict.set key ((dict.get key).getD 0 + amount)

/-- The amounts of items under their keys. -/
def tally (key : α → κ) (amount : α → ν) (items : List α) : Dict κ ν :=
  items.foldl (fun dict item => dict.add (key item) (amount item)) empty

end Dict

theorem Entries.sum_set (key : κ) (amount : ν) (entries : List (κ × ν)) :
    ((Entries.set key ((Entries.get key entries).getD 0 + amount) entries).map Prod.snd).sum =
      (entries.map Prod.snd).sum + amount := by
  induction entries with
  | nil => simp [Entries.set, Entries.get]
  | cons entry rest ih =>
      rcases entry with ⟨other, old⟩
      by_cases hit : other = key
      · simp [Entries.set, Entries.get, hit, add_assoc, add_comm]
      · simp [Entries.set, Entries.get, hit, ih, add_assoc]

namespace Dict

theorem sum_values_add (dict : Dict κ ν) (key : κ) (amount : ν) :
    (dict.add key amount).values.sum = dict.values.sum + amount :=
  Entries.sum_set key amount dict.entries

/-- A tally adds up to the amounts of the items. -/
theorem sum_values_tally (key : α → κ) (amount : α → ν) (items : List α) :
    (tally key amount items).values.sum = (items.map amount).sum := by
  have grows : ∀ dict : Dict κ ν,
      (items.foldl (fun dict item => dict.add (key item) (amount item)) dict).values.sum =
        dict.values.sum + (items.map amount).sum := by
    induction items with
    | nil => simp
    | cons item rest ih =>
        intro dict
        rw [List.foldl_cons, ih, sum_values_add, List.map_cons, List.sum_cons, add_assoc]
  have whole := grows empty
  rwa [show (empty : Dict κ ν).values.sum = 0 from rfl, zero_add] at whole

end Dict

end EaBot.Foundation
