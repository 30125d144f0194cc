import Mathlib.Data.List.Nodup

/-!
# Insertion-ordered dictionaries

A dictionary is a list of entries with distinct keys.  Assigning to a present
key replaces its value in place and assigning to an absent key appends it, so
iteration order is the order in which keys were first assigned.  Callers that
fold over the values can therefore rely on the position of every entry.

Distinctness of the keys is a field of the structure, so a lookup and a
traversal of the entries can never disagree.
-/

namespace EaBot.Foundation

universe u v

namespace Entries

variable {κ : Type u} {υ : Type v} [DecidableEq κ]

/-- Assign `value` to `key` in an entry list: in place when the key is
present, at the end otherwise. -/
def set (key : κ) (value : υ) : List (κ × υ) → List (κ × υ)
  | [] => [(key, value)]
  | (other, old) :: rest =>
      if other = key then (key, value) :: rest else (other, old) :: set key value rest

/-- The value of the first entry whose key is `key`. -/
def get (key : κ) : List (κ × υ) → Option υ
  | [] => none
  | (other, value) :: rest => if other = key then some value else get key rest

theorem get_set (key other : κ) (value : υ) (entries : List (κ × υ)) :
    get other (set key value entries) =
      if other = key then some value else get other entries := by
  induction entries with
  | nil =>
      by_cases same : other = key
      · simp [set, get, same]
      · simp [set, get, same, Ne.symm same]
  | cons entry rest ih =>
      rcases entry with ⟨present, old⟩
      by_cases hit : present = key
      · subst hit
        by_cases same : other = present
        · simp [set, get, same]
        · simp [set, get, same, Ne.symm same]
      · by_cases found : present = other
        · subst found
          simp [set, get, hit]
        · simp [set, get, hit, found, ih]

theorem set_of_notMem {key : κ} {entries : List (κ × υ)} (absent : key ∉ entries.map Prod.fst)
    (value : υ) : set key value entries = entries ++ [(key, value)] := by
  induction entries with
  | nil => rfl
  | cons entry rest ih =>
      rcases entry with ⟨present, old⟩
      simp only [List.map_cons, List.mem_cons, not_or] at absent
      rw [set, if_neg (Ne.symm absent.1), ih absent.2, List.cons_append]

theorem mem_keys_set (key other : κ) (value : υ) (entries : List (κ × υ)) :
    other ∈ (set key value entries).map Prod.fst ↔
      other = key ∨ other ∈ entries.map Prod.fst := by
  induction entries with
  | nil => simp [set]
  | cons entry rest ih =>
      rcases entry with ⟨present, old⟩
      by_cases hit : present = key
      · subst hit
        simp [set]
      · simp only [set, hit, if_false, List.map_cons, List.mem_cons, ih]
        tauto

theorem nodup_set (key : κ) (value : υ) (entries : List (κ × υ))
    (distinct : (entries.map Prod.fst).Nodup) :
    ((set key value entries).map Prod.fst).Nodup := by
  induction entries with
  | nil => simp [set]
  | cons entry rest ih =>
      rcases entry with ⟨present, old⟩
      simp only [List.map_cons, List.nodup_cons] at distinct
      by_cases hit : present = key
      · subst hit
        simpa [set] using distinct
      · simp only [set, hit, if_false, List.map_cons, List.nodup_cons]
        refine ⟨?_, ih distinct.2⟩
        rw [mem_keys_set]
        rintro (same | member)
        · exact hit same
        · exact distinct.1 member

theorem mem_iff_get {entries : List (κ × υ)}
    (distinct : (entries.map Prod.fst).Nodup) (key : κ) (value : υ) :
    (key, value) ∈ entries ↔ get key entries = some value := by
  induction entries with
  | nil => simp [get]
  | cons entry rest ih =>
      rcases entry with ⟨present, old⟩
      simp only [List.map_cons, List.nodup_cons] at distinct
      by_cases hit : present = key
      · subst hit
        have absent : (present, value) ∉ rest := fun member =>
          distinct.1 (List.mem_map.mpr ⟨_, member, rfl⟩)
        simp [get, absent, eq_comm]
      · simp [get, hit, Ne.symm hit, ih distinct.2]

theorem get_of_notMem {entries : List (κ × υ)} {key : κ}
    (unlisted : key ∉ entries.map Prod.fst) : get key entries = none := by
  induction entries with
  | nil => rfl
  | cons entry rest ih =>
      rcases entry with ⟨present, value⟩
      simp only [List.map_cons, List.mem_cons, not_or] at unlisted
      rw [get, if_neg (Ne.symm unlisted.1), ih unlisted.2]

/-- A predicate that neither the assigned value nor the value it replaces
satisfies selects the same values, in the same order, after the assignment. -/
theorem filter_values_set (keep : υ → Bool) (key : κ) (value : υ)
    (entries : List (κ × υ)) (dropped : keep value = false)
    (replaced : ∀ old, get key entries = some old → keep old = false) :
    ((set key value entries).map Prod.snd).filter keep =
      (entries.map Prod.snd).filter keep := by
  induction entries with
  | nil => simp [set, dropped]
  | cons entry rest ih =>
      rcases entry with ⟨present, old⟩
      by_cases hit : present = key
      · subst hit
        have oldDropped : keep old = false := replaced old (by simp [get])
        simp [set, dropped, oldDropped]
      · have restReplaced : ∀ old, get key rest = some old → keep old = false := by
          intro other found
          exact replaced other (by simpa [get, hit] using found)
        simp only [set, hit, if_false, List.map_cons, List.filter_cons, ih restReplaced]

end Entries

/-- An insertion-ordered dictionary. -/
structure Dict (κ : Type u) (υ : Type v) where
  entries : List (κ × υ)
  distinct : (entries.map Prod.fst).Nodup

namespace Dict

variable {κ : Type u} {υ : Type v}

/-- The dictionary without entries. -/
def empty : Dict κ υ :=
  ⟨[], List.nodup_nil⟩

instance : Inhabited (Dict κ υ) := ⟨empty⟩

/-- The keys in the order of their first assignment. -/
def keys (dict : Dict κ υ) : List κ :=
  dict.entries.map Prod.fst

/-- The values in the order of their keys. -/
def values (dict : Dict κ υ) : List υ :=
  dict.entries.map Prod.snd

variable [DecidableEq κ]

/-- The value assigned to `key`, when there is one. -/
def get (dict : Dict κ υ) (key : κ) : Option υ :=
  Entries.get key dict.entries

/-- Whether `key` is assigned. -/
def contains (dict : Dict κ υ) (key : κ) : Bool :=
  (dict.get key).isSome

/-- Assign `value` to `key`. -/
def set (dict : Dict κ υ) (key : κ) (value : υ) : Dict κ υ :=
  ⟨Entries.set key value dict.entries, Entries.nodup_set _ _ _ dict.distinct⟩

/-- Assign every listed entry, from left to right. -/
def update (dict : Dict κ υ) : List (κ × υ) → Dict κ υ
  | [] => dict
  | (key, value) :: rest => (dict.set key value).update rest

/-- Forget `key`. -/
def erase (dict : Dict κ υ) (key : κ) : Dict κ υ :=
  ⟨dict.entries.filter fun entry => entry.1 ≠ key,
    dict.distinct.sublist (List.filter_sublist.map Prod.fst)⟩

omit [DecidableEq κ] in
theorem keys_mapped (change : υ → υ) (entries : List (κ × υ)) :
    (entries.map fun entry => (entry.1, change entry.2)).map Prod.fst = entries.map Prod.fst := by
  rw [List.map_map]
  rfl

/-- Change every value. -/
def mapValues (dict : Dict κ υ) (change : υ → υ) : Dict κ υ :=
  ⟨dict.entries.map fun entry => (entry.1, change entry.2),
    (keys_mapped change dict.entries).symm ▸ dict.distinct⟩

@[simp]
theorem get_empty (key : κ) : (empty : Dict κ υ).get key = none :=
  rfl

theorem get_set (dict : Dict κ υ) (key other : κ) (value : υ) :
    (dict.set key value).get other = if other = key then some value else dict.get other :=
  Entries.get_set key other value dict.entries

@[simp]
theorem get_set_self (dict : Dict κ υ) (key : κ) (value : υ) :
    (dict.set key value).get key = some value := by
  simp [get_set]

@[simp]
theorem get_set_of_ne (dict : Dict κ υ) {key other : κ} (different : other ≠ key)
    (value : υ) : (dict.set key value).get other = dict.get other := by
  simp [get_set, different]

@[simp]
theorem update_nil (dict : Dict κ υ) : dict.update [] = dict :=
  rfl

@[simp]
theorem update_cons (dict : Dict κ υ) (key : κ) (value : υ) (rest : List (κ × υ)) :
    dict.update ((key, value) :: rest) = (dict.set key value).update rest :=
  rfl

/-- Keys that an update does not list keep their value. -/
theorem get_update_of_notMem (dict : Dict κ υ) (key : κ) (changes : List (κ × υ))
    (unlisted : key ∉ changes.map Prod.fst) : (dict.update changes).get key = dict.get key := by
  induction changes generalizing dict with
  | nil => rfl
  | cons change rest ih =>
      rcases change with ⟨listed, value⟩
      simp only [List.map_cons, List.mem_cons, not_or] at unlisted
      rw [update_cons, ih _ unlisted.2, get_set_of_ne _ unlisted.1]

/-- A value survives an update that can only assign it again. -/
theorem get_update_of_forall (dict : Dict κ υ) {key : κ} {value : υ}
    (changes : List (κ × υ)) (same : ∀ other, (key, other) ∈ changes → other = value)
    (present : dict.get key = some value) : (dict.update changes).get key = some value := by
  induction changes generalizing dict with
  | nil => exact present
  | cons change rest ih =>
      rcases change with ⟨listed, assigned⟩
      rw [update_cons]
      refine ih _ (fun other member => same other (List.mem_cons_of_mem _ member)) ?_
      by_cases hit : key = listed
      · subst hit
        rw [get_set_self, same assigned List.mem_cons_self]
      · rw [get_set_of_ne _ hit, present]

/-- An update leaves the last value that it assigns to a key. -/
theorem get_update (dict : Dict κ υ) (changes : List (κ × υ)) (key : κ) :
    (dict.update changes).get key =
      ((changes.reverse.find? fun change => change.1 = key).map Prod.snd).or (dict.get key) := by
  induction changes generalizing dict with
  | nil => rfl
  | cons change rest ih =>
      rcases change with ⟨listed, value⟩
      rw [update_cons, ih, get_set, List.reverse_cons, List.find?_append, Option.map_or,
        Option.or_assoc]
      congr 1
      by_cases hit : key = listed
      · simp [hit]
      · simp [hit, Ne.symm hit]

/-- A value that an update assigns, and never replaces by another one, is what it
leaves. -/
theorem get_update_of_mem (dict : Dict κ υ) {key : κ} {value : υ} {changes : List (κ × υ)}
    (assigned : (key, value) ∈ changes)
    (same : ∀ other, (key, other) ∈ changes → other = value) :
    (dict.update changes).get key = some value := by
  induction changes generalizing dict with
  | nil => cases assigned
  | cons change rest ih =>
      rcases change with ⟨listed, first⟩
      rw [update_cons]
      have later : ∀ other, (key, other) ∈ rest → other = value :=
        fun other member => same other (List.mem_cons_of_mem _ member)
      rcases List.mem_cons.mp assigned with now | member
      · obtain ⟨rfl, rfl⟩ := Prod.mk.inj now
        exact get_update_of_forall _ _ later (get_set_self _ _ _)
      · exact ih _ member later

@[simp]
theorem update_append (dict : Dict κ υ) (first second : List (κ × υ)) :
    dict.update (first ++ second) = (dict.update first).update second := by
  induction first generalizing dict with
  | nil => rfl
  | cons change rest ih => exact ih _

/-- Taking over the entries of another dictionary prefers its values. -/
theorem get_update_entries (dict other : Dict κ υ) (key : κ) :
    (dict.update other.entries).get key = (other.get key).or (dict.get key) := by
  rcases other with ⟨entries, distinct⟩
  change _ = (Entries.get key entries).or (dict.get key)
  induction entries generalizing dict with
  | nil => rfl
  | cons entry rest ih =>
      rcases entry with ⟨present, value⟩
      have restDistinct := (List.nodup_cons.mp distinct).2
      rw [update_cons, ih _ restDistinct, Entries.get]
      by_cases hit : present = key
      · subst hit
        have absent := Entries.get_of_notMem (List.nodup_cons.mp distinct).1
        rw [absent, get_set_self, if_pos rfl]
        rfl
      · rw [get_set_of_ne _ (Ne.symm hit), if_neg hit]

theorem mem_entries_iff (dict : Dict κ υ) (key : κ) (value : υ) :
    (key, value) ∈ dict.entries ↔ dict.get key = some value :=
  Entries.mem_iff_get dict.distinct key value

theorem mem_values_iff (dict : Dict κ υ) (value : υ) :
    value ∈ dict.values ↔ ∃ key, dict.get key = some value := by
  simp only [values, List.mem_map, Prod.exists, exists_eq_right, mem_entries_iff]

theorem mem_keys_iff (dict : Dict κ υ) (key : κ) :
    key ∈ dict.keys ↔ ∃ value, dict.get key = some value := by
  simp only [keys, List.mem_map, Prod.exists, exists_and_right, exists_eq_right, mem_entries_iff]

theorem get_eq_none_iff (dict : Dict κ υ) (key : κ) : dict.get key = none ↔ key ∉ dict.keys := by
  rw [mem_keys_iff, Option.eq_none_iff_forall_ne_some, not_exists]

theorem mem_keys_set (dict : Dict κ υ) (key other : κ) (value : υ) :
    other ∈ (dict.set key value).keys ↔ other = key ∨ other ∈ dict.keys :=
  Entries.mem_keys_set key other value dict.entries

/-- Assigning the value that a key has changes nothing. -/
theorem set_of_get (dict : Dict κ υ) {key : κ} {value : υ} (held : dict.get key = some value) :
    dict.set key value = dict := by
  rcases dict with ⟨entries, distinct⟩
  have same : Entries.set key value entries = entries := by
    change Entries.get key entries = some value at held
    clear distinct
    induction entries with
    | nil => cases held
    | cons entry rest ih =>
        rcases entry with ⟨other, old⟩
        rw [Entries.get] at held
        rw [Entries.set]
        split at held
        · rename_i here
          cases held
          rw [if_pos here, here]
        · rename_i later
          rw [if_neg later, ih held]
  rw [set]
  congr

/-- What an update leaves under a key was there before or is listed. -/
theorem mem_of_get_update (dict : Dict κ υ) {changes : List (κ × υ)} {key : κ} {value : υ}
    (found : (dict.update changes).get key = some value) :
    dict.get key = some value ∨ (key, value) ∈ changes := by
  induction changes generalizing dict with
  | nil => exact Or.inl found
  | cons change rest ih =>
      rcases change with ⟨listed, assigned⟩
      rcases ih _ found with present | member
      · by_cases hit : key = listed
        · rw [hit, get_set_self] at present
          cases present
          exact Or.inr (hit ▸ List.mem_cons_self)
        · rw [get_set_of_ne _ hit] at present
          exact Or.inl present
      · exact Or.inr (List.mem_cons_of_mem _ member)

/-- An update leaves a value under every key that it lists or that had one. -/
theorem mem_keys_update (dict : Dict κ υ) (changes : List (κ × υ)) (key : κ) :
    key ∈ (dict.update changes).keys ↔ key ∈ dict.keys ∨ key ∈ changes.map Prod.fst := by
  induction changes generalizing dict with
  | nil => simp
  | cons change rest ih =>
      rcases change with ⟨listed, assigned⟩
      rw [update_cons, ih, mem_keys_set, List.map_cons, List.mem_cons]
      tauto

/-- The values by an index; of several with one index the last one stays, in the
place of the first. -/
def indexBy (index : υ → κ) (values : List υ) : Dict κ υ :=
  empty.update (values.map fun value => (index value, value))

theorem mem_keys_indexBy (index : υ → κ) (values : List υ) (key : κ) :
    key ∈ (indexBy index values).keys ↔ key ∈ values.map index := by
  rw [indexBy, mem_keys_update, List.map_map]
  exact or_iff_right List.not_mem_nil

theorem of_get_indexBy {index : υ → κ} {values : List υ} {key : κ} {value : υ}
    (found : (indexBy index values).get key = some value) :
    index value = key ∧ value ∈ values := by
  rcases mem_of_get_update _ found with absent | member
  · cases absent
  · obtain ⟨listed, inside, same⟩ := List.mem_map.mp member
    cases same
    exact ⟨rfl, inside⟩

/-- Assigning an entry that a predicate rejects, over one it rejects or over
nothing, leaves the selected values as they were. -/
theorem filter_values_set (dict : Dict κ υ) (keep : υ → Bool) (key : κ) (value : υ)
    (dropped : keep value = false)
    (replaced : ∀ old, dict.get key = some old → keep old = false) :
    (dict.set key value).values.filter keep = dict.values.filter keep :=
  Entries.filter_values_set keep key value dict.entries dropped replaced

theorem get_erase (dict : Dict κ υ) (key other : κ) :
    (dict.erase key).get other = if other = key then none else dict.get other := by
  rcases dict with ⟨entries, distinct⟩
  simp only [get, erase]
  clear distinct
  induction entries with
  | nil => simp [Entries.get]
  | cons entry rest ih =>
      rcases entry with ⟨present, value⟩
      by_cases hit : present = key
      · subst hit
        by_cases same : other = present
        · simpa [List.filter_cons, same] using ih
        · simpa [List.filter_cons, Entries.get, same, Ne.symm same] using ih
      · by_cases found : present = other
        · subst found
          simp [Entries.get, hit]
        · simpa [List.filter_cons, Entries.get, hit, found] using ih

theorem mem_keys_erase (dict : Dict κ υ) (key other : κ) :
    other ∈ (dict.erase key).keys ↔ other ≠ key ∧ other ∈ dict.keys := by
  rw [mem_keys_iff, mem_keys_iff, get_erase]
  by_cases same : other = key <;> simp [same]

theorem get_mapValues (dict : Dict κ υ) (change : υ → υ) (key : κ) :
    (dict.mapValues change).get key = (dict.get key).map change := by
  rcases dict with ⟨entries, distinct⟩
  simp only [get, mapValues]
  clear distinct
  induction entries with
  | nil => rfl
  | cons entry rest ih =>
      by_cases hit : entry.1 = key
      · simp [Entries.get, hit]
      · simpa [Entries.get, hit] using ih

/-- Assigning entries with new and distinct keys adds them at the end. -/
theorem entries_update_of_disjoint (dict : Dict κ υ) (changes : List (κ × υ))
    (distinct : (changes.map Prod.fst).Nodup)
    (fresh : ∀ key ∈ changes.map Prod.fst, key ∉ dict.keys) :
    (dict.update changes).entries = dict.entries ++ changes := by
  induction changes generalizing dict with
  | nil => simp
  | cons change rest ih =>
      rcases change with ⟨key, value⟩
      obtain ⟨absent, restDistinct⟩ := List.nodup_cons.mp distinct
      have unset : key ∉ dict.keys := fresh key List.mem_cons_self
      have added : (dict.set key value).entries = dict.entries ++ [(key, value)] :=
        Entries.set_of_notMem unset value
      rw [update_cons, ih (dict.set key value) restDistinct, added, List.append_assoc,
        List.singleton_append]
      intro other member
      rw [mem_keys_set]
      rintro (rfl | present)
      · exact absent member
      · exact fresh other (List.mem_cons_of_mem _ member) present

/-- The entries of a dictionary give it back. -/
theorem update_empty_entries (dict : Dict κ υ) : empty.update dict.entries = dict := by
  have same := entries_update_of_disjoint empty dict.entries dict.distinct (by
    intro key _ present
    cases present)
  cases dict
  cases updated : (empty : Dict κ υ).update _
  simp_all [empty]

/-- The value of a key stands at one place among the values, and assigning to the key changes
that place only. -/
theorem values_split_of_get (dict : Dict κ υ) {key : κ} {old : υ}
    (held : dict.get key = some old) :
    ∃ before after, dict.values = before ++ old :: after ∧
      ∀ value, (dict.set key value).values = before ++ value :: after := by
  rcases dict with ⟨entries, distinct⟩
  simp only [get, set, values] at held ⊢
  clear distinct
  induction entries with
  | nil => cases held
  | cons entry rest ih =>
      obtain ⟨other, present⟩ := entry
      rw [Entries.get] at held
      by_cases here : other = key
      · rw [if_pos here] at held
        cases held
        refine ⟨[], rest.map Prod.snd, rfl, fun value => ?_⟩
        rw [Entries.set, if_pos here]
        rfl
      · rw [if_neg here] at held
        obtain ⟨before, after, whole, changed⟩ := ih held
        refine ⟨present :: before, after, congrArg (present :: ·) whole, fun value => ?_⟩
        rw [Entries.set, if_neg here, List.map_cons, changed]
        rfl

end Dict

end EaBot.Foundation
