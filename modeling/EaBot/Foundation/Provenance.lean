import EaBot.Foundation.Dict

/-!
# Where the values of a bounded store come from

A store of bounded size drops its oldest entry when a value is put into it.  Beside the store
stands the list of everything that was ever put, the latest first.  A value that the store
still holds under a key is what was put last under that key, whatever was dropped meanwhile.
-/

namespace EaBot.Foundation

universe u v w

variable {κ : Type u} {υ : Type v} {μ : Type w} [DecidableEq κ]

namespace Dict

/-- The entries without the oldest one. -/
def dropOldest (dict : Dict κ υ) : Dict κ υ :=
  match dict.keys with
  | [] => dict
  | oldest :: _ => dict.erase oldest

/-- Put a value into a store that holds at most `capacity` entries. -/
def putBounded (capacity : Nat) (dict : Dict κ υ) (key : κ) (value : υ) : Dict κ υ :=
  if capacity ≤ dict.entries.length then dict.dropOldest.set key value else dict.set key value

theorem get_dropOldest {dict : Dict κ υ} {key : κ} {value : υ}
    (kept : dict.dropOldest.get key = some value) : dict.get key = some value := by
  rw [dropOldest] at kept
  cases named : dict.keys with
  | nil =>
      rw [named] at kept
      exact kept
  | cons oldest rest =>
      rw [named] at kept
      have erased : (if key = oldest then none else dict.get key) = some value :=
        (get_erase dict oldest key).symm.trans kept
      by_cases same : key = oldest
      · rw [if_pos same] at erased
        cases erased
      · rw [if_neg same] at erased
        exact erased

theorem get_putBounded {capacity : Nat} {dict : Dict κ υ} {key other : κ} {value held : υ}
    (kept : (dict.putBounded capacity key value).get other = some held) :
    (other = key ∧ held = value) ∨ (other ≠ key ∧ dict.get other = some held) := by
  by_cases same : other = key
  · subst same
    left
    rw [putBounded] at kept
    split at kept <;> rw [get_set_self] at kept
    · exact ⟨rfl, (Option.some.inj kept).symm⟩
    · exact ⟨rfl, (Option.some.inj kept).symm⟩
  · right
    rw [putBounded] at kept
    split at kept <;> rw [get_set_of_ne _ same] at kept
    · exact ⟨same, get_dropOldest kept⟩
    · exact ⟨same, kept⟩

end Dict

/-- What was put last under a key. -/
def latest (puts : List (κ × μ)) (key : κ) : Option μ :=
  (puts.find? fun put => put.1 = key).map Prod.snd

theorem latest_cons_self (key : κ) (put : μ) (puts : List (κ × μ)) :
    latest ((key, put) :: puts) key = some put := by
  simp [latest]

theorem latest_cons_of_ne {key other : κ} (different : other ≠ key) (put : μ)
    (puts : List (κ × μ)) : latest ((key, put) :: puts) other = latest puts other := by
  simp [latest, Ne.symm different]

theorem mem_of_latest {puts : List (κ × μ)} {key : κ} {put : μ}
    (last : latest puts key = some put) : (key, put) ∈ puts := by
  rcases Option.map_eq_some_iff.mp last with ⟨⟨named, found⟩, hit, rfl⟩
  have same : named = key := by simpa using List.find?_some hit
  rw [← same]
  exact List.mem_of_find?_eq_some hit

/-- Every value of the store is seen in what was put last under its key. -/
def Remembers (view : μ → υ) (dict : Dict κ υ) (puts : List (κ × μ)) : Prop :=
  ∀ key value, dict.get key = some value → ∃ put, latest puts key = some put ∧ view put = value

theorem Remembers.empty (view : μ → υ) : Remembers view (Dict.empty : Dict κ υ) [] := by
  intro key value held
  rw [Dict.get_empty] at held
  cases held

theorem Remembers.put {view : μ → υ} {dict : Dict κ υ} {puts : List (κ × μ)}
    (remembers : Remembers view dict puts) (capacity : Nat) (key : κ) (put : μ) :
    Remembers view (dict.putBounded capacity key (view put)) ((key, put) :: puts) := by
  intro other value held
  rcases Dict.get_putBounded held with ⟨rfl, rfl⟩ | ⟨different, before⟩
  · exact ⟨put, latest_cons_self _ _ _, rfl⟩
  · rw [latest_cons_of_ne different]
    exact remembers other value before

end EaBot.Foundation
