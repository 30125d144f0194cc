import Mathlib.Data.List.Pairwise
import Mathlib.Data.List.Sort
import Mathlib.Order.Defs.LinearOrder

/-!
# The first of the highest

Items wait in the order of their arrival, and each has a rank.  The item that leaves is the
first one of the highest rank.  Items that leave one after another leave in the order of
falling ranks, those of one rank in the order of their arrival, and a list with that order is
the only one.
-/

namespace EaBot.Foundation.Selection

universe u v w

variable {α : Type u} {β : Type v} {κ : Type w} [LinearOrder κ]

/-- The item between two parts of a list is the first of the highest: the items before it rank
lower, and those after it do not rank higher. -/
structure FirstHighest (rank : α → κ) (before : List α) (best : α) (after : List α) : Prop where
  lower : ∀ item ∈ before, rank item < rank best
  noHigher : ∀ item ∈ after, rank item ≤ rank best

/-- The first of the highest items, and the others. -/
def takeHighest (rank : α → κ) : List α → Option (α × List α)
  | [] => none
  | item :: rest =>
      match takeHighest rank rest with
      | none => some (item, [])
      | some (best, others) =>
          if rank item < rank best then some (best, item :: others) else some (item, rest)

variable {rank : α → κ}

theorem takeHighest_eq_none_iff {items : List α} : takeHighest rank items = none ↔ items = [] := by
  cases items with
  | nil => simp [takeHighest]
  | cons item rest =>
      rw [takeHighest]
      split
      · simp
      · split <;> simp

/-- Only one item of a list is the first of the highest. -/
theorem FirstHighest.unique {before before' after after' : List α} {best best' : α}
    (highest : FirstHighest rank before best after)
    (highest' : FirstHighest rank before' best' after')
    (same : before ++ best :: after = before' ++ best' :: after') :
    before = before' ∧ best = best' ∧ after = after' := by
  rcases List.append_eq_append_iff.mp same with ⟨between, rfl, rest⟩ | ⟨between, rfl, rest⟩
  · cases between with
    | nil =>
        cases rest
        exact ⟨(List.append_nil before).symm, rfl, rfl⟩
    | cons first between =>
        rcases List.cons.inj rest with ⟨rfl, rfl⟩
        have low := highest'.lower best (by simp)
        have high := highest.noHigher best' (by simp)
        exact absurd low (not_lt.mpr high)
  · cases between with
    | nil =>
        cases rest
        exact ⟨List.append_nil before', rfl, rfl⟩
    | cons first between =>
        rcases List.cons.inj rest with ⟨rfl, rfl⟩
        have low := highest.lower best' (by simp)
        have high := highest'.noHigher best (by simp)
        exact absurd low (not_lt.mpr high)

/-- What leaves is the first of the highest, and the others keep their order. -/
theorem exists_of_takeHighest {items others : List α} {best : α}
    (taken : takeHighest rank items = some (best, others)) :
    ∃ before after, items = before ++ best :: after ∧ others = before ++ after ∧
      FirstHighest rank before best after := by
  induction items generalizing best others with
  | nil => cases taken
  | cons item rest ih =>
      rw [takeHighest] at taken
      split at taken
      case h_1 inner =>
          cases taken
          rw [takeHighest_eq_none_iff.mp inner]
          exact ⟨[], [], rfl, rfl, by simp, by simp⟩
      case h_2 found left inner =>
          rcases ih inner with ⟨before, after, rfl, rfl, highest⟩
          split at taken
          case isTrue lower =>
              cases taken
              refine ⟨item :: before, after, rfl, rfl, ?_, highest.noHigher⟩
              exact List.forall_mem_cons.mpr ⟨lower, highest.lower⟩
          case isFalse noLower =>
              cases taken
              refine ⟨[], before ++ found :: after, rfl, rfl, by simp, ?_⟩
              intro other member
              have most := not_lt.mp noLower
              rcases List.mem_append.mp member with early | late
              · exact (highest.lower other early).le.trans most
              · rcases List.mem_cons.mp late with rfl | late
                · exact most
                · exact (highest.noHigher other late).trans most

/-- The first of the highest leaves. -/
theorem takeHighest_of_firstHighest {before after : List α} {best : α}
    (highest : FirstHighest rank before best after) :
    takeHighest rank (before ++ best :: after) = some (best, before ++ after) := by
  cases taken : takeHighest rank (before ++ best :: after) with
  | none =>
      have empty := takeHighest_eq_none_iff.mp taken
      simp at empty
  | some found =>
      rcases exists_of_takeHighest taken with ⟨before', after', same, left, highest'⟩
      rcases highest.unique highest' same with ⟨rfl, rfl, rfl⟩
      exact congrArg some (Prod.ext rfl left)

theorem takeHighest_perm {items others : List α} {best : α}
    (taken : takeHighest rank items = some (best, others)) : items.Perm (best :: others) := by
  rcases exists_of_takeHighest taken with ⟨before, after, rfl, rfl, -⟩
  exact List.perm_middle

/-- Items leave as what they stand for does. -/
theorem takeHighest_map {rank : β → κ} (convert : α → β) (items : List α) :
    takeHighest rank (items.map convert) =
      (takeHighest (fun item => rank (convert item)) items).map fun taken =>
        (convert taken.1, taken.2.map convert) := by
  cases taken : takeHighest (fun item => rank (convert item)) items with
  | none =>
      rw [takeHighest_eq_none_iff.mp taken]
      rfl
  | some found =>
      rcases exists_of_takeHighest taken with ⟨before, after, rfl, left, highest⟩
      have mapped : FirstHighest rank (before.map convert) (convert found.1)
          (after.map convert) := by
        constructor
        · intro item member
          rcases List.mem_map.mp member with ⟨source, early, rfl⟩
          exact highest.lower source early
        · intro item member
          rcases List.mem_map.mp member with ⟨source, late, rfl⟩
          exact highest.noHigher source late
      rw [List.map_append, List.map_cons, takeHighest_of_firstHighest mapped, Option.map_some, left,
        List.map_append]

/-! ## One item after another -/

/-- What leaves one after another, for so many times. -/
def drain (rank : α → κ) : Nat → List α → List α
  | 0, _ => []
  | times + 1, items =>
      match takeHighest rank items with
      | none => []
      | some (best, others) => best :: drain rank times others

theorem drain_perm {items : List α} {times : Nat} (enough : items.length ≤ times) :
    (drain rank times items).Perm items := by
  induction times generalizing items with
  | zero =>
      rw [List.eq_nil_of_length_eq_zero (Nat.le_zero.mp enough)]
      exact .refl _
  | succ times ih =>
      rw [drain]
      cases taken : takeHighest rank items with
      | none =>
          rw [takeHighest_eq_none_iff.mp taken]
      | some found =>
          have perm := takeHighest_perm taken
          have shorter : found.2.length ≤ times := by
            have lengths := perm.length_eq
            rw [List.length_cons] at lengths
            omega
          exact ((ih shorter).cons found.1).trans perm.symm

/-- Fewer times take a beginning of what more times take. -/
theorem drain_eq_take {items : List α} {enough : Nat} (within : items.length ≤ enough)
    (times : Nat) : drain rank times items = (drain rank enough items).take times := by
  induction times generalizing items enough with
  | zero => rfl
  | succ times ih =>
      cases taken : takeHighest rank items with
      | none =>
          have empty := takeHighest_eq_none_iff.mp taken
          subst empty
          cases enough <;> rfl
      | some found =>
          have lengths := (takeHighest_perm taken).length_eq
          rw [List.length_cons] at lengths
          cases enough with
          | zero => omega
          | succ enough =>
              rw [drain, drain, taken]
              dsimp only
              rw [List.take_succ_cons, ih (show found.2.length ≤ enough by omega)]

section Arrival

variable (rank) (stamp : α → Nat)

/-- An item leaves before another one: it ranks higher, or as high and came first. -/
def Ahead (first second : α) : Prop :=
  rank second < rank first ∨ rank first = rank second ∧ stamp first < stamp second

instance (first second : α) : Decidable (Ahead rank stamp first second) :=
  inferInstanceAs (Decidable (_ ∨ _))

variable {rank} {stamp}

theorem Ahead.asymm {first second : α} (ahead : Ahead rank stamp first second) :
    ¬ Ahead rank stamp second first := by
  rintro (lower | ⟨same, later⟩)
  · rcases ahead with higher | ⟨same, -⟩
    · exact lt_asymm higher lower
    · exact absurd same lower.ne
  · rcases ahead with higher | ⟨-, earlier⟩
    · exact absurd same higher.ne
    · omega

theorem Ahead.stamp_eq {first second : α} (notAhead : ¬ Ahead rank stamp first second)
    (notBehind : ¬ Ahead rank stamp second first) : stamp first = stamp second := by
  rcases not_or.mp notAhead with ⟨noHigher, noEarlier⟩
  rcases not_or.mp notBehind with ⟨noLower, noLater⟩
  have same : rank first = rank second := le_antisymm (not_lt.mp noHigher) (not_lt.mp noLower)
  have earlier : ¬ stamp first < stamp second := fun before => noEarlier ⟨same, before⟩
  have later : ¬ stamp second < stamp first := fun before => noLater ⟨same.symm, before⟩
  omega

/-- Items that came one after another leave in order. -/
theorem pairwise_drain {items : List α}
    (arrived : items.Pairwise fun first second => stamp first < stamp second) (times : Nat) :
    (drain rank times items).Pairwise (Ahead rank stamp) := by
  induction times generalizing items with
  | zero => exact .nil
  | succ times ih =>
      rw [drain]
      cases taken : takeHighest rank items with
      | none => exact .nil
      | some found =>
          rcases exists_of_takeHighest taken with ⟨before, after, rfl, left, highest⟩
          rcases List.pairwise_append.mp arrived with ⟨early, late, apart⟩
          rcases List.pairwise_cons.mp late with ⟨behind, late⟩
          have others : found.2.Pairwise fun first second => stamp first < stamp second := by
            rw [left]
            refine List.pairwise_append.mpr ⟨early, late, ?_⟩
            exact fun first member second later => apart first member second (.tail _ later)
          refine List.Pairwise.cons ?_ (ih others)
          intro item member
          have rest : item ∈ found.2 := by
            have all : (drain rank found.2.length found.2).Perm found.2 := drain_perm le_rfl
            rw [drain_eq_take (le_refl found.2.length)] at member
            exact all.mem_iff.mp (List.mem_of_mem_take member)
          rw [left] at rest
          rcases List.mem_append.mp rest with first | last
          · exact .inl (highest.lower item first)
          · rcases lt_or_eq_of_le (highest.noHigher item last) with lower | same
            · exact .inl lower
            · exact .inr ⟨same.symm, behind item last⟩

/-- Only one order of the items has each one before those that it is ahead of. -/
theorem eq_drain_of_sorted {items sorted : List α}
    (arrived : items.Pairwise fun first second => stamp first < stamp second)
    (perm : sorted.Perm items)
    (ordered : sorted.Pairwise fun first second => ¬ Ahead rank stamp second first) :
    sorted = drain rank items.length items := by
  have drained : (drain rank items.length items).Perm items := drain_perm le_rfl
  have inOrder : (drain rank items.length items).Pairwise (Ahead rank stamp) :=
    pairwise_drain arrived items.length
  have ordered' : (drain rank items.length items).Pairwise
      fun first second => ¬ Ahead rank stamp second first := inOrder.imp Ahead.asymm
  refine List.Perm.eq_of_pairwise ?_ ordered ordered' (perm.trans drained.symm)
  intro first second inSorted inDrained notBehind notAhead
  by_contra different
  have distinct : items.Pairwise fun first second => stamp first ≠ stamp second :=
    arrived.imp Nat.ne_of_lt
  have symmetric : Std.Symm fun first second => stamp first ≠ stamp second :=
    ⟨fun _ _ apart => apart.symm⟩
  have apart := distinct.forall (perm.mem_iff.mp inSorted) (drained.mem_iff.mp inDrained) different
  exact apart (Ahead.stamp_eq notAhead notBehind)

end Arrival

end EaBot.Foundation.Selection
