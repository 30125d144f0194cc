import Mathlib.Data.Set.Basic
import Mathlib.Data.List.Nodup

/-!
# Watching a set through successive snapshots

A watcher keeps the keys of a set that it has seen and reports keys that have
left.  `Watched` describes a run of a watcher against the true snapshots: a key
that it starts to track is in the current snapshot, and a key that it reports was
tracked, is not in the current snapshot and is no longer tracked afterwards.  When
no key comes back to the snapshots after it has been missing, such a watcher
reports every key at most once.
-/

namespace EaBot.Foundation

universe u v

variable {κ : Type u}

/-- A key that was present and is missing later does not come back. -/
def NeverReturns (snapshots : List (Set κ)) : Prop :=
  ∀ earlier now later, [earlier, now, later].Sublist snapshots →
    ∀ key ∈ earlier, key ∉ now → key ∉ later

namespace NeverReturns

variable {snapshot : Set κ} {snapshots : List (Set κ)}

theorem tail (unique : NeverReturns (snapshot :: snapshots)) : NeverReturns snapshots :=
  fun earlier now later sub => unique earlier now later (sub.cons _)

/-- Less may be known about the start. -/
theorem of_subset {smaller : Set κ} (unique : NeverReturns (snapshot :: snapshots))
    (within : smaller ⊆ snapshot) : NeverReturns (smaller :: snapshots) := by
  intro earlier now later sub key held left
  cases sub with
  | cons _ sub => exact unique.tail earlier now later sub key held left
  | cons_cons _ sub => exact unique snapshot now later (sub.cons_cons _) key (within held) left

/-- Keys that are missing from the second snapshot stay missing. -/
theorem missing {next : Set κ} (unique : NeverReturns (snapshot :: next :: snapshots))
    {key : κ} (held : key ∈ snapshot) (left : key ∉ next) :
    ∀ later ∈ snapshots, key ∉ later := by
  intro later member
  apply unique snapshot next later _ key held left
  exact ((List.singleton_sublist.mpr member).cons_cons _).cons_cons _

/-- The first two snapshots may be merged into one. -/
theorem merge {next merged : Set κ} (unique : NeverReturns (snapshot :: next :: snapshots))
    (within : merged ⊆ snapshot ∪ next) : NeverReturns (merged :: snapshots) := by
  intro earlier now later sub key held left
  cases sub with
  | cons _ sub => exact unique.tail.tail earlier now later sub key held left
  | cons_cons _ sub =>
      rcases within held with inFirst | inNext
      · exact unique snapshot now later ((sub.cons _).cons_cons _) key inFirst left
      · exact unique next now later ((sub.cons_cons _).cons _) key inNext left

/-- Keys that never return do so in every indexing of the snapshots. -/
theorem preimage {ι : Type v} (index : ι → κ) (unique : NeverReturns snapshots) :
    NeverReturns (snapshots.map (Set.preimage index)) := by
  intro earlier now later sub key held left
  obtain ⟨originals, chosen, same⟩ := List.sublist_map_iff.mp sub
  match originals, same with
  | [first, second, third], same =>
      simp only [List.map_cons, List.map_nil, List.cons.injEq, and_true] at same
      obtain ⟨rfl, rfl, rfl⟩ := same
      exact unique first second third chosen (index key) held left

end NeverReturns

/-- One observation: from the tracked keys to the ones tracked afterwards, with the
keys reported. -/
structure Observes (book tracked next : Set κ) (reported : List κ) : Prop where
  within : next ⊆ tracked ∪ book
  held : ∀ key ∈ reported, key ∈ tracked
  missing : ∀ key ∈ reported, key ∉ book
  dropped : ∀ key ∈ reported, key ∉ next
  nodup : reported.Nodup

/-- A run of a watcher against a sequence of snapshots, with all it reports. -/
inductive Watched : Set κ → List (Set κ) → List κ → Prop
  | nil (tracked : Set κ) : Watched tracked [] []
  | cons {book tracked next : Set κ} {books : List (Set κ)} {reported later : List κ}
      (now : Observes book tracked next reported) (rest : Watched next books later) :
      Watched tracked (book :: books) (reported ++ later)

namespace Watched

variable {tracked : Set κ} {books : List (Set κ)} {reported : List κ}

/-- A reported key was tracked at the start or is in one of the snapshots. -/
theorem mem_source (watched : Watched tracked books reported) {key : κ}
    (member : key ∈ reported) : key ∈ tracked ∨ ∃ book ∈ books, key ∈ book := by
  induction watched with
  | nil => cases member
  | cons now rest ih =>
      rcases List.mem_append.mp member with current | future
      · exact Or.inl (now.held key current)
      · rcases ih future with kept | ⟨book, listed, inside⟩
        · rcases now.within kept with before | inside
          · exact Or.inl before
          · exact Or.inr ⟨_, List.mem_cons_self, inside⟩
        · exact Or.inr ⟨book, List.mem_cons_of_mem _ listed, inside⟩

/-- A watcher reports every key at most once when no key returns. -/
theorem nodup (watched : Watched tracked books reported)
    (unique : NeverReturns (tracked :: books)) : reported.Nodup := by
  induction watched with
  | nil => exact List.nodup_nil
  | cons now rest ih =>
      apply List.Nodup.append now.nodup (ih (unique.merge now.within))
      intro key current future
      rcases rest.mem_source future with kept | ⟨book, listed, inside⟩
      · exact now.dropped key current kept
      · exact unique.missing (now.held key current) (now.missing key current) book listed inside

end Watched

end EaBot.Foundation
