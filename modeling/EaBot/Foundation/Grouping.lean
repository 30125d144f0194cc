import EaBot.Foundation.Dict
import Mathlib.Algebra.BigOperators.Group.List.Lemmas
import Mathlib.Algebra.Ring.Nat
import Mathlib.Data.List.Sort

/-!
# Values in groups

Values are grouped under their keys, each group in the order of its values, and every group is
summed up.  The summaries are listed by falling keys.  They say for each key whether it has
values and what their summary is, and nothing else.
-/

namespace EaBot.Foundation.Grouping

universe u v w

variable {κ : Type u} {ν : Type v} {σ : Type w} [LinearOrder κ]

/-- The values under a key. -/
def members (items : List (κ × ν)) (key : κ) : List ν :=
  (items.filter fun item => item.1 = key).map Prod.snd

/-- Put a value at the end of the group of its key. -/
def put (groups : Dict κ (List ν)) (item : κ × ν) : Dict κ (List ν) :=
  groups.set item.1 ((groups.get item.1).getD [] ++ [item.2])

/-- The values in groups. -/
def groupBy (items : List (κ × ν)) : Dict κ (List ν) :=
  items.foldl put Dict.empty

/-- The summaries of the groups, by falling keys. -/
def summaries (summary : List ν → σ) (items : List (κ × ν)) : List (κ × σ) :=
  ((groupBy items).keys.insertionSort (· ≥ ·)).map fun key =>
    (key, summary (((groupBy items).get key).getD []))

@[simp]
theorem members_nil (key : κ) : members ([] : List (κ × ν)) key = [] :=
  rfl

theorem members_cons_self (key : κ) (value : ν) (items : List (κ × ν)) :
    members ((key, value) :: items) key = value :: members items key := by
  simp [members]

theorem members_cons_of_ne {key other : κ} (different : other ≠ key) (value : ν)
    (items : List (κ × ν)) : members ((other, value) :: items) key = members items key := by
  simp [members, different]

theorem members_append (first second : List (κ × ν)) (key : κ) :
    members (first ++ second) key = members first key ++ members second key := by
  simp [members]

theorem members_perm {items others : List (κ × ν)} (same : items.Perm others) (key : κ) :
    (members items key).Perm (members others key) :=
  (same.filter _).map _

theorem members_ne_nil_iff {items : List (κ × ν)} {key : κ} :
    members items key ≠ [] ↔ key ∈ items.map Prod.fst := by
  simp [members]

theorem length_members (items : List (κ × ν)) (key : κ) :
    (members items key).length = (items.map Prod.fst).count key := by
  rw [members, List.length_map, ← List.countP_eq_length_filter, List.count, List.countP_map]
  rfl

/-- A group holds the values of its key. -/
theorem getD_groupBy (items : List (κ × ν)) (key : κ) :
    ((groupBy items).get key).getD [] = members items key := by
  have grows : ∀ groups : Dict κ (List ν),
      ((items.foldl put groups).get key).getD [] =
        (groups.get key).getD [] ++ members items key := by
    induction items with
    | nil => simp
    | cons item rest ih =>
        intro groups
        rw [List.foldl_cons, ih]
        rcases item with ⟨other, value⟩
        by_cases here : other = key
        · subst here
          rw [put, Dict.get_set_self, Option.getD_some, members_cons_self, List.append_assoc,
            List.singleton_append]
        · rw [put, Dict.get_set_of_ne _ (Ne.symm here), members_cons_of_ne here]
  exact grows Dict.empty

theorem mem_keys_groupBy (items : List (κ × ν)) (key : κ) :
    key ∈ (groupBy items).keys ↔ key ∈ items.map Prod.fst := by
  have grows : ∀ groups : Dict κ (List ν),
      key ∈ (items.foldl put groups).keys ↔ key ∈ groups.keys ∨ key ∈ items.map Prod.fst := by
    induction items with
    | nil => simp
    | cons item rest ih =>
        intro groups
        rw [List.foldl_cons, ih, put, Dict.mem_keys_set, List.map_cons, List.mem_cons, or_assoc,
          or_left_comm]
  rw [groupBy, grows]
  simp [Dict.empty, Dict.keys]

/-- The keys of the groups by falling order, each once. -/
theorem keys_perm (items : List (κ × ν)) :
    ((groupBy items).keys.insertionSort (· ≥ ·)).Perm (items.map Prod.fst).dedup := by
  refine (List.perm_insertionSort _ _).trans ?_
  refine (List.perm_ext_iff_of_nodup (groupBy items).distinct (List.nodup_dedup _)).mpr ?_
  intro key
  rw [List.mem_dedup]
  exact mem_keys_groupBy items key

theorem mem_summaries_iff {summary : List ν → σ} {items : List (κ × ν)} {key : κ} {total : σ} :
    (key, total) ∈ summaries summary items ↔
      members items key ≠ [] ∧ summary (members items key) = total := by
  unfold summaries
  simp only [getD_groupBy, List.mem_map, Prod.mk.injEq]
  constructor
  · rintro ⟨other, member, rfl, same⟩
    exact ⟨members_ne_nil_iff.mpr (List.mem_dedup.mp ((keys_perm items).mem_iff.mp member)), same⟩
  · rintro ⟨some, same⟩
    have member := List.mem_dedup.mpr (members_ne_nil_iff.mp some)
    exact ⟨key, (keys_perm items).mem_iff.mpr member, rfl, same⟩

/-- Two lists have the same summaries exactly when each key has values in both or in none, and
the same summary of them. -/
theorem summaries_eq_iff {summary : List ν → σ} {items others : List (κ × ν)} :
    summaries summary items = summaries summary others ↔
      ∀ key, (members items key = [] ↔ members others key = []) ∧
        (members items key ≠ [] → summary (members items key) = summary (members others key)) := by
  constructor
  · intro same key
    have agree : ∀ total, (members items key ≠ [] ∧ summary (members items key) = total) ↔
        (members others key ≠ [] ∧ summary (members others key) = total) := by
      intro total
      rw [← mem_summaries_iff, ← mem_summaries_iff, same]
    refine ⟨not_iff_not.mp ⟨?_, ?_⟩, ?_⟩
    · exact fun some => ((agree _).mp ⟨some, rfl⟩).1
    · exact fun some => ((agree _).mpr ⟨some, rfl⟩).1
    · exact fun some => ((agree _).mp ⟨some, rfl⟩).2.symm
  · intro agree
    have keys : (groupBy items).keys.insertionSort (· ≥ ·) =
        (groupBy others).keys.insertionSort (· ≥ ·) := by
      refine List.Perm.eq_of_pairwise' (r := (· ≥ ·)) (List.pairwise_insertionSort _ _)
        (List.pairwise_insertionSort _ _) ?_
      refine (keys_perm items).trans (List.Perm.trans ?_ (keys_perm others).symm)
      refine (List.perm_ext_iff_of_nodup (List.nodup_dedup _) (List.nodup_dedup _)).mpr ?_
      intro key
      rw [List.mem_dedup, List.mem_dedup, ← members_ne_nil_iff, ← members_ne_nil_iff]
      exact not_congr (agree key).1
    unfold summaries
    rw [keys]
    refine List.map_congr_left fun key member => ?_
    have some := members_ne_nil_iff.mpr (List.mem_dedup.mp ((keys_perm others).mem_iff.mp member))
    rw [getD_groupBy, getD_groupBy, (agree key).2 (mt (agree key).1.mp some)]

/-- The sizes of the groups add up to the number of the values. -/
theorem sum_sizes {summary : List ν → σ} {size : σ → Nat}
    (counts : ∀ values, size (summary values) = values.length) (items : List (κ × ν)) :
    ((summaries summary items).map fun group => size group.2).sum = items.length := by
  unfold summaries
  rw [List.map_map, ((keys_perm items).map _).sum_eq]
  have lengths := List.sum_map_count_dedup_eq_length (items.map Prod.fst)
  rw [List.length_map] at lengths
  rw [← lengths]
  refine congrArg List.sum (List.map_congr_left fun key _ => ?_)
  rw [← length_members, ← getD_groupBy]
  exact counts _

/-- The summaries stay when a value gets another key exactly when it is the same key. -/
theorem summaries_rekey_iff {summary : List ν → σ} {size : σ → Nat}
    (counts : ∀ values, size (summary values) = values.length) (before after : List (κ × ν))
    (key key' : κ) (value : ν) :
    summaries summary (before ++ (key', value) :: after) =
        summaries summary (before ++ (key, value) :: after) ↔ key' = key := by
  constructor
  · intro same
    by_contra different
    rcases summaries_eq_iff.mp same key with ⟨empty, agree⟩
    rw [members_append, members_append, members_cons_of_ne different, members_cons_self]
      at empty agree
    by_cases alone : members before key ++ members after key = []
    · have none := empty.mp alone
      simp at none
    · have sizes := congrArg size (agree alone)
      rw [counts, counts, List.length_append, List.length_append, List.length_cons] at sizes
      omega
  · rintro rfl
    rfl

end EaBot.Foundation.Grouping
