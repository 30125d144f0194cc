import Mathlib.Data.List.Nodup
import Mathlib.Data.List.Pairwise

/-!
# Lineages in a forest

The members of a forest are numbered so that a parent comes before its children.  The lineage
of a member is the member with its ancestors, the nearest first.  A change that is made to every
member of a lineage, one after another, changes each of them once.
-/

namespace EaBot.Foundation.Lineage

universe u

/-- A parent comes before its children. -/
def Descends (parent : Nat → Option Nat) : Prop :=
  ∀ member ancestor, parent member = some ancestor → ancestor < member

/-- Follow the parents, for as many steps as there is fuel. -/
def climb (parent : Nat → Option Nat) : Nat → Nat → List Nat
  | 0, _ => []
  | fuel + 1, member =>
      member :: match parent member with
        | none => []
        | some ancestor => climb parent fuel ancestor

/-- The member with its ancestors. -/
def lineage (parent : Nat → Option Nat) (member : Nat) : List Nat :=
  climb parent (member + 1) member

variable {parent other : Nat → Option Nat}

theorem le_of_mem_climb (descends : Descends parent) {fuel member found : Nat}
    (among : found ∈ climb parent fuel member) : found ≤ member := by
  induction fuel generalizing member with
  | zero => cases among
  | succ fuel ih =>
      rw [climb] at among
      rcases List.mem_cons.mp among with rfl | later
      · exact Nat.le_refl _
      · cases up : parent member with
        | none =>
            rw [up] at later
            cases later
        | some ancestor =>
            rw [up] at later
            exact Nat.le_of_lt (Nat.lt_of_le_of_lt (ih later) (descends member ancestor up))

theorem climb_nodup (descends : Descends parent) (fuel member : Nat) :
    (climb parent fuel member).Nodup := by
  induction fuel generalizing member with
  | zero => exact List.nodup_nil
  | succ fuel ih =>
      rw [climb]
      cases up : parent member with
      | none => exact List.nodup_singleton _
      | some ancestor =>
          refine List.nodup_cons.mpr ⟨fun among => ?_, ih ancestor⟩
          have below := descends member ancestor up
          exact absurd (le_of_mem_climb descends among) (Nat.not_le.mpr below)

/-- A climb with enough fuel reaches the member without a parent, when there is one only. -/
theorem root_mem_climb (descends : Descends parent) {size : Nat}
    (root : ∀ member < size, parent member = none → member = 0) {fuel member : Nat}
    (enough : member < fuel) (inside : member < size) : 0 ∈ climb parent fuel member := by
  induction fuel generalizing member with
  | zero => cases enough
  | succ fuel ih =>
      rw [climb]
      cases up : parent member with
      | none =>
          rw [root member inside up]
          exact List.mem_cons_self
      | some ancestor =>
          have below := descends member ancestor up
          exact List.mem_cons_of_mem _ (ih (by omega) (by omega))

/-- The parents of later members do not matter. -/
theorem climb_congr (descends : Descends parent) {fuel member : Nat}
    (agree : ∀ found ≤ member, other found = parent found) :
    climb other fuel member = climb parent fuel member := by
  induction fuel generalizing member with
  | zero => rfl
  | succ fuel ih =>
      rw [climb, climb, agree member (Nat.le_refl _)]
      cases up : parent member with
      | none => rfl
      | some ancestor =>
          have below := descends member ancestor up
          have earlier : climb other fuel ancestor = climb parent fuel ancestor :=
            ih (fun found le => agree found (by omega))
          exact congrArg (member :: ·) earlier

theorem le_of_mem_lineage (descends : Descends parent) {member found : Nat}
    (among : found ∈ lineage parent member) : found ≤ member :=
  le_of_mem_climb descends among

theorem lineage_nodup (descends : Descends parent) (member : Nat) :
    (lineage parent member).Nodup :=
  climb_nodup descends _ _

theorem root_mem_lineage (descends : Descends parent) {size : Nat}
    (root : ∀ member < size, parent member = none → member = 0) {member : Nat}
    (inside : member < size) : 0 ∈ lineage parent member :=
  root_mem_climb descends root (Nat.lt_succ_self _) inside

theorem lineage_congr (descends : Descends parent) {member : Nat}
    (agree : ∀ found ≤ member, other found = parent found) :
    lineage other member = lineage parent member :=
  climb_congr descends agree

section ForEach

variable {α : Type u}

/-- Change the listed members, one after another. -/
def forEach (members : List Nat) (change : α → α) (values : List α) : List α :=
  members.foldl (fun values member => values.modify member change) values

theorem length_forEach (members : List Nat) (change : α → α) (values : List α) :
    (forEach members change values).length = values.length := by
  induction members generalizing values with
  | nil => rfl
  | cons member rest ih =>
      exact (ih (values.modify member change)).trans (List.length_modify _ _ _)

theorem getElem?_forEach {members : List Nat} (nodup : members.Nodup) (change : α → α)
    (values : List α) (index : Nat) :
    (forEach members change values)[index]? =
      if index ∈ members then values[index]?.map change else values[index]? := by
  induction members generalizing values with
  | nil => rfl
  | cons member rest ih =>
      rcases List.nodup_cons.mp nodup with ⟨fresh, distinct⟩
      have later := ih distinct (values.modify member change)
      rw [forEach, List.foldl_cons]
      refine later.trans ?_
      rw [List.getElem?_modify, Option.map_eq_map]
      by_cases same : member = index
      · subst same
        rw [if_neg fresh, if_pos List.mem_cons_self]
        simp only [if_true]
      · have apart : index ≠ member := fun equal => same equal.symm
        simp only [if_neg same, List.mem_cons, apart, false_or, Option.map_id']

end ForEach

end EaBot.Foundation.Lineage
