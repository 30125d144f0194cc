import EaBot.Foundation.Dict
import Mathlib.Data.List.Dedup
import Mathlib.Data.List.DropRight

/-!
# Bounded caches of a log

A log assigns values to keys, and a key may be assigned again.  A cache of a log holds the
keys that were assigned last, each with its last value, in the order of their last
assignments, and drops the oldest ones beyond its limit.

Dropping the oldest keys after every assignment or once at the end leaves the same cache, so a
cache that follows a log and one that is filled from it hold the same.
-/

namespace EaBot.Foundation

universe u v

variable {κ : Type u} {υ : Type v}

/-! ## Last items of a list -/

namespace Recency

variable {α : Type u}

theorem rtake_of_length_le {items : List α} {limit : Nat} (within : items.length ≤ limit) :
    items.rtake limit = items := by
  rw [List.rtake, Nat.sub_eq_zero_of_le within, List.drop_zero]

theorem rtake_append_of_le (first : List α) {second : List α} {limit : Nat}
    (enough : limit ≤ second.length) : (first ++ second).rtake limit = second.rtake limit := by
  rw [List.rtake, List.rtake, List.length_append, List.drop_append,
    List.drop_of_length_le (by omega), List.nil_append]
  congr 1
  omega

theorem length_rtake (items : List α) (limit : Nat) :
    (items.rtake limit).length = min limit items.length := by
  rw [List.rtake, List.length_drop]
  omega

theorem rtake_map {β : Type v} (convert : α → β) (items : List α) (limit : Nat) :
    (items.map convert).rtake limit = (items.rtake limit).map convert := by
  rw [List.rtake, List.rtake, List.length_map, List.map_drop]

theorem rtake_sublist (items : List α) (limit : Nat) :
    (items.rtake limit).Sublist items :=
  List.drop_sublist _ _

/-- Removing one item leaves at least one item less. -/
theorem length_le_filter [DecidableEq α] {items : List α} (distinct : items.Nodup) (item : α) :
    items.length ≤ (items.filter fun other => other ≠ item).length + 1 := by
  induction items with
  | nil => simp
  | cons first rest ih =>
      rcases List.nodup_cons.mp distinct with ⟨apart, restDistinct⟩
      by_cases same : first = item
      · subst same
        have whole : (rest.filter fun other => other ≠ first) = rest := by
          rw [List.filter_eq_self]
          intro other member
          simp only [ne_eq, decide_eq_true_eq]
          rintro rfl
          exact apart member
        rw [List.filter_cons_of_neg (by simp), whole, List.length_cons]
      · have shorter := ih restDistinct
        simp [same] at shorter ⊢
        exact shorter

/-- The last occurrences after one more item. -/
theorem dedup_concat [DecidableEq α] (items : List α) (item : α) :
    (items ++ [item]).dedup = (items.dedup.filter fun other => other ≠ item) ++ [item] := by
  induction items with
  | nil => rfl
  | cons first rest ih =>
      rw [List.cons_append, List.dedup_cons, List.dedup_cons, ih]
      by_cases again : first ∈ rest
      · rw [if_pos (List.mem_append_left _ again), if_pos again]
      · rw [if_neg again]
        by_cases same : first = item
        · subst same
          rw [if_pos (List.mem_append_right _ (List.mem_singleton_self _)),
            List.filter_cons_of_neg (by simp)]
        · have other : first ∉ rest ++ [item] := by
            simp [again, same]
          rw [if_neg other, List.filter_cons_of_pos (by simp [same]), List.cons_append]

end Recency

namespace Dict

variable [DecidableEq κ]

/-- Assign a value and make its key the newest one. -/
def touch (dict : Dict κ υ) (key : κ) (value : υ) : Dict κ υ :=
  (dict.erase key).set key value

/-- Drop the oldest entries beyond a limit. -/
def trim (dict : Dict κ υ) (limit : Nat) : Dict κ υ :=
  ⟨dict.entries.rtake limit, dict.distinct.sublist ((Recency.rtake_sublist _ _).map Prod.fst)⟩

/-- Assign a value as the newest one, within a limit. -/
def remember (limit : Nat) (dict : Dict κ υ) (entry : κ × υ) : Dict κ υ :=
  (dict.touch entry.1 entry.2).trim limit

omit [DecidableEq κ] in
theorem ext_entries {first second : Dict κ υ} (same : first.entries = second.entries) :
    first = second := by
  cases first
  cases second
  congr

theorem entries_touch (dict : Dict κ υ) (key : κ) (value : υ) :
    (dict.touch key value).entries =
      (dict.entries.filter fun entry => entry.1 ≠ key) ++ [(key, value)] := by
  have gone : key ∉ (dict.erase key).entries.map Prod.fst := by
    intro member
    exact ((dict.mem_keys_erase key key).mp member).1 rfl
  exact Entries.set_of_notMem gone value

theorem keys_touch (dict : Dict κ υ) (key : κ) (value : υ) :
    (dict.touch key value).keys = (dict.keys.filter fun other => other ≠ key) ++ [key] := by
  rw [keys, entries_touch, List.map_append, keys, List.filter_map]
  rfl

theorem get_touch (dict : Dict κ υ) (key other : κ) (value : υ) :
    (dict.touch key value).get other = if other = key then some value else dict.get other := by
  rw [touch, get_set, get_erase]
  split <;> rfl

omit [DecidableEq κ] in
theorem keys_trim (dict : Dict κ υ) (limit : Nat) :
    (dict.trim limit).keys = dict.keys.rtake limit :=
  (Recency.rtake_map Prod.fst dict.entries limit).symm

omit [DecidableEq κ] in
theorem trim_of_length_le {dict : Dict κ υ} {limit : Nat} (within : dict.keys.length ≤ limit) :
    dict.trim limit = dict := by
  rw [keys, List.length_map] at within
  exact ext_entries (Recency.rtake_of_length_le within)

/-- What is left after dropping is unchanged. -/
theorem get_of_get_trim (dict : Dict κ υ) {limit : Nat} {key : κ} {value : υ}
    (found : (dict.trim limit).get key = some value) : dict.get key = some value := by
  rw [← mem_entries_iff] at found ⊢
  exact (Recency.rtake_sublist _ _).subset found

/-- Dropping before an assignment does not change what is left after it. -/
theorem trim_touch_trim (dict : Dict κ υ) {limit : Nat} (positive : 0 < limit) (key : κ)
    (value : υ) : ((dict.trim limit).touch key value).trim limit =
      (dict.touch key value).trim limit := by
  apply ext_entries
  obtain ⟨last, rfl⟩ : ∃ last, limit = last + 1 := ⟨limit - 1, by omega⟩
  change List.rtake ((dict.trim (last + 1)).touch key value).entries (last + 1) =
    List.rtake (dict.touch key value).entries (last + 1)
  rw [entries_touch, entries_touch, List.rtake_concat_succ, List.rtake_concat_succ]
  congr 1
  change List.rtake ((dict.entries.rtake (last + 1)).filter _) last = _
  by_cases short : dict.entries.length ≤ last + 1
  · rw [Recency.rtake_of_length_le short]
  · have split : dict.entries = dict.entries.take (dict.entries.length - (last + 1)) ++
        dict.entries.rtake (last + 1) := (List.take_append_drop _ _).symm
    have distinct : ((dict.entries.rtake (last + 1)).map Prod.fst).Nodup := (dict.trim _).distinct
    have removed := Recency.length_le_filter distinct key
    have kept : ((dict.entries.rtake (last + 1)).map Prod.fst).filter (fun other => other ≠ key) =
        ((dict.entries.rtake (last + 1)).filter fun entry => entry.1 ≠ key).map Prod.fst := by
      rw [List.filter_map]
      rfl
    rw [kept, List.length_map, List.length_map, Recency.length_rtake] at removed
    conv_rhs => rw [split, List.filter_append]
    rw [Recency.rtake_append_of_le]
    omega

/-- The key that an assignment drops: the oldest one of a full cache that does not hold its own
key. -/
def displaced (limit : Nat) (dict : Dict κ υ) (key : κ) : Option κ :=
  if key ∈ dict.keys ∨ dict.keys.length < limit then none else dict.keys.head?

theorem displaced_ne_self (dict : Dict κ υ) {limit : Nat} {key : κ} :
    dict.displaced limit key ≠ some key := by
  unfold displaced
  split
  · exact nofun
  · rename_i full
    intro oldest
    exact full (.inl (List.mem_of_mem_head? oldest))

theorem keys_remember (limit : Nat) (dict : Dict κ υ) (entry : κ × υ) :
    (dict.remember limit entry).keys =
      ((dict.keys.filter fun other => other ≠ entry.1) ++ [entry.1]).rtake limit := by
  rw [remember, keys_trim, keys_touch]

theorem length_keys_remember_le (limit : Nat) (dict : Dict κ υ) (entry : κ × υ) :
    (dict.remember limit entry).keys.length ≤ limit := by
  rw [keys_remember, Recency.length_rtake]
  exact Nat.min_le_left _ _

/-- An assignment leaves its own key and those that it does not drop. -/
theorem mem_keys_remember (dict : Dict κ υ) {limit : Nat} (positive : 0 < limit)
    (within : dict.keys.length ≤ limit) (entry : κ × υ) (other : κ) :
    other ∈ (dict.remember limit entry).keys ↔
      other = entry.1 ∨ other ∈ dict.keys ∧ dict.displaced limit entry.1 ≠ some other := by
  rw [keys_remember, displaced]
  by_cases room : entry.1 ∈ dict.keys ∨ dict.keys.length < limit
  · have short : ((dict.keys.filter fun other => other ≠ entry.1) ++ [entry.1]).length ≤ limit := by
      rw [List.length_append, List.length_singleton]
      rcases room with held | fewer
      · have fewer : (dict.keys.filter fun other => other ≠ entry.1).length < dict.keys.length :=
          List.length_filter_lt_length_iff_exists.mpr ⟨entry.1, held, by simp⟩
        omega
      · have fewer := List.length_filter_le (fun other => decide (other ≠ entry.1)) dict.keys
        omega
    rw [Recency.rtake_of_length_le short, if_pos room]
    by_cases same : other = entry.1
    · simp [same]
    · simp [same]
  · rw [if_neg room]
    rw [not_or, not_lt] at room
    have apart : ∀ key ∈ dict.keys, key ≠ entry.1 := by
      rintro key member rfl
      exact room.1 member
    have distinct : dict.keys.Nodup := dict.distinct
    have whole : (dict.keys.filter fun other => other ≠ entry.1) = dict.keys :=
      List.filter_eq_self.mpr fun key member => by simpa using apart key member
    rw [whole]
    cases keys : dict.keys with
    | nil =>
        rw [keys, List.length_nil] at room
        omega
    | cons oldest rest =>
        rw [keys] at distinct within
        have full : limit = rest.length + 1 := by
          rw [keys, List.length_cons] at room
          rw [List.length_cons] at within
          omega
        have kept : ((oldest :: rest) ++ [entry.1]).rtake limit = rest ++ [entry.1] := by
          rw [List.rtake, full]
          simp
        rw [kept, List.mem_append, List.mem_singleton, List.head?_cons, List.mem_cons]
        have gone := (List.nodup_cons.mp distinct).1
        constructor
        · rintro (member | same)
          · refine .inr ⟨.inr member, fun same => gone ?_⟩
            rwa [Option.some.inj same]
          · exact .inl same
        · rintro (same | ⟨same | member, apart⟩)
          · exact .inr same
          · exact absurd (congrArg some same.symm) apart
          · exact .inl member

end Dict

/-! ## Caches -/

section Caches

variable [DecidableEq κ]

/-- What the assignments of a log leave, in the order of the last ones. -/
def recency (log : List (κ × υ)) : Dict κ υ :=
  log.foldl (fun dict entry => dict.touch entry.1 entry.2) Dict.empty

/-- The value that a log assigns to a key last. -/
def lastAssigned (key : κ) (log : List (κ × υ)) : Option υ :=
  (log.reverse.find? fun entry => entry.1 = key).map Prod.snd

theorem recency_concat (log : List (κ × υ)) (entry : κ × υ) :
    recency (log ++ [entry]) = (recency log).touch entry.1 entry.2 :=
  List.foldl_append

theorem lastAssigned_concat (key : κ) (log : List (κ × υ)) (entry : κ × υ) :
    lastAssigned key (log ++ [entry]) =
      if key = entry.1 then some entry.2 else lastAssigned key log := by
  rw [lastAssigned, lastAssigned, List.reverse_append, List.reverse_singleton,
    List.singleton_append]
  by_cases same : key = entry.1
  · rw [List.find?_cons_of_pos (by simp [same]), if_pos same]
    rfl
  · rw [List.find?_cons_of_neg (by simp [Ne.symm same]), if_neg same]

/-- A key has the value that the log assigns to it last. -/
theorem get_recency (log : List (κ × υ)) (key : κ) :
    (recency log).get key = lastAssigned key log := by
  induction log using List.reverseRecOn with
  | nil => rfl
  | append_singleton log entry ih =>
      rw [recency_concat, Dict.get_touch, ih, lastAssigned_concat]

/-- The keys are in the order of their last assignments. -/
theorem keys_recency (log : List (κ × υ)) : (recency log).keys = (log.map Prod.fst).dedup := by
  induction log using List.reverseRecOn with
  | nil => rfl
  | append_singleton log entry ih =>
      rw [recency_concat, Dict.keys_touch, ih, List.map_append, List.map_singleton,
        Recency.dedup_concat]

/-- A cache that follows a log holds what one that is filled from it does. -/
theorem trim_recency_concat {limit : Nat} (positive : 0 < limit) (log : List (κ × υ))
    (entry : κ × υ) :
    (recency (log ++ [entry])).trim limit = ((recency log).trim limit).remember limit entry := by
  rw [recency_concat, Dict.remember, Dict.trim_touch_trim _ positive]

theorem keys_trim_recency (limit : Nat) (log : List (κ × υ)) :
    ((recency log).trim limit).keys = (log.map Prod.fst).dedup.rtake limit := by
  rw [Dict.keys_trim, keys_recency]

/-- What a cache filled from a log holds, the log has assigned last. -/
theorem lastAssigned_of_get_trim {limit : Nat} {log : List (κ × υ)} {key : κ} {value : υ}
    (found : ((recency log).trim limit).get key = some value) :
    lastAssigned key log = some value := by
  rw [← get_recency]
  exact Dict.get_of_get_trim _ found

end Caches

end EaBot.Foundation
