import Mathlib.Data.List.DropRight
import Mathlib.Order.Lattice

/-!
# Pages of a timeline

A timeline is a list of items whose times grow.  The page before a time holds a number of items
that come right before it.  Pages are fetched backwards: each next one ends before the oldest
item of the page that was fetched last.

Fetching misses no item and repeats none: some pages together hold as many items as fit into
them, in order.
-/

namespace EaBot.Foundation

universe u v

/-- Items whose times grow. -/
structure Timeline (α : Type u) (τ : Type v) [LinearOrder τ] where
  items : List α
  time : α → τ
  grows : items.Pairwise fun first second => time first < time second

namespace Timeline

variable {α : Type u} {τ : Type v} [LinearOrder τ]

/-- The items before a time. -/
def before (line : Timeline α τ) (bound : τ) : List α :=
  line.items.filter fun item => line.time item < bound

/-- The items right before a time. -/
def page (line : Timeline α τ) (size : Nat) (bound : τ) : List α :=
  (line.before bound).rtake size

/-- Some pages before a time, the oldest one first. -/
def fetch (line : Timeline α τ) (size : Nat) : Nat → τ → List α
  | 0, _ => []
  | count + 1, bound =>
      match line.page size bound with
      | [] => []
      | oldest :: rest => line.fetch size count (line.time oldest) ++ oldest :: rest

variable {line : Timeline α τ} {size : Nat} {bound : τ}

theorem mem_before {item : α} :
    item ∈ line.before bound ↔ item ∈ line.items ∧ line.time item < bound := by
  simp [before]

theorem before_before {earlier : τ} (le : earlier ≤ bound) :
    line.before earlier = (line.before bound).filter fun item => line.time item < earlier := by
  rw [before, before, List.filter_filter]
  refine List.filter_congr fun item _ => ?_
  rw [Bool.eq_iff_iff, Bool.and_eq_true, decide_eq_true_iff, decide_eq_true_iff]
  exact ⟨fun less => ⟨less, lt_of_lt_of_le less le⟩, And.left⟩

theorem lt_of_mem_page {item : α} (member : item ∈ line.page size bound) :
    line.time item < bound :=
  (mem_before.mp (List.mem_of_mem_drop member)).2

theorem rdrop_append_page : (line.before bound).rdrop size ++ line.page size bound =
    line.before bound :=
  List.take_append_drop _ _

/-- A page holds the latest items. -/
theorem exists_mem_page (positive : 0 < size) {item : α} (member : item ∈ line.before bound) :
    ∃ last ∈ line.page size bound, line.time item ≤ line.time last := by
  have grows : (line.before bound).Pairwise fun first second =>
      line.time first < line.time second :=
    line.grows.sublist List.filter_sublist
  have whole := @rdrop_append_page _ _ _ line size bound
  rw [← whole] at member
  rw [← whole, List.pairwise_append] at grows
  rcases List.mem_append.mp member with earlier | here
  · cases paged : line.page size bound with
    | nil =>
        rw [page, List.rtake, List.drop_eq_nil_iff] at paged
        have none_ : line.before bound = [] := List.length_eq_zero_iff.mp (by omega)
        rw [none_, List.rdrop_nil] at earlier
        cases earlier
    | cons oldest rest =>
        rw [paged] at grows
        have first := List.mem_cons_self (a := oldest) (l := rest)
        exact ⟨oldest, first, le_of_lt (grows.2.2 item earlier oldest first)⟩
  · exact ⟨item, here, le_refl _⟩

/-- Before the oldest item of a page there are the items that the page leaves out. -/
theorem before_oldest {oldest : α} {rest : List α}
    (paged : line.page size bound = oldest :: rest) :
    line.before (line.time oldest) = (line.before bound).rdrop size := by
  have whole := @rdrop_append_page _ _ _ line size bound
  rw [paged] at whole
  have member : oldest ∈ line.before bound := by
    rw [← whole]
    exact List.mem_append_right _ List.mem_cons_self
  have grows : (line.before bound).Pairwise fun first second =>
      line.time first < line.time second :=
    line.grows.sublist List.filter_sublist
  rw [before_before (le_of_lt (mem_before.mp member).2)]
  rw [← whole, List.pairwise_append] at grows
  obtain ⟨-, later, apart⟩ := grows
  conv_lhs => rw [← whole]
  rw [List.filter_append, List.filter_eq_self.mpr, List.filter_eq_nil_iff.mpr, List.append_nil]
  · intro item held
    rw [decide_eq_true_iff, not_lt]
    rcases List.mem_cons.mp held with rfl | after
    · exact le_refl _
    · exact le_of_lt ((List.pairwise_cons.mp later).1 item after)
  · intro item held
    exact decide_eq_true (apart item held oldest List.mem_cons_self)

theorem rtake_rdrop_append (items : List α) (first second : Nat) :
    (items.rdrop second).rtake first ++ items.rtake second = items.rtake (first + second) := by
  have start : items.length - (first + second) =
      min (items.length - second) items.length - first := by
    omega
  rw [List.rdrop, List.rtake, List.rtake, List.rtake, start, List.length_take,
    ← List.drop_append_of_le_length, List.take_append_drop]
  rw [List.length_take]
  exact Nat.sub_le _ _

/-- Some pages together hold as many items as fit into them, in order. -/
theorem fetch_eq (positive : 0 < size) (count : Nat) (bound : τ) :
    line.fetch size count bound = (line.before bound).rtake (count * size) := by
  induction count generalizing bound with
  | zero => rw [Nat.zero_mul, List.rtake_zero, fetch]
  | succ count ih =>
      rw [fetch]
      cases paged : line.page size bound with
      | nil =>
          have none_ : line.before bound = [] := by
            rw [page, List.rtake, List.drop_eq_nil_iff] at paged
            exact List.length_eq_zero_iff.mp (by omega)
          rw [none_, List.rtake_nil]
      | cons oldest rest =>
          dsimp only
          rw [ih, before_oldest paged, ← paged, page, rtake_rdrop_append, Nat.succ_mul]

end Timeline

end EaBot.Foundation
