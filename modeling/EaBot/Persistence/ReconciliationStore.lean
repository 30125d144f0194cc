import EaBot.Foundation.Numerals
import EaBot.Monitoring.PositionMonitor

/-!
# The durable copy of the tracked levels

The levels of every ticket are saved under the ticket's number as a text, one entry after
another, and the last entry is read back with integers as keys.  A monitor that starts on the
file of another one tracks what the other one saved last.
-/

namespace EaBot.Persistence

open EaBot.Foundation EaBot.Monitoring

/-! ## Keys as texts -/

/-- The entries under the texts of their keys. -/
def textKeys (levels : Dict Int ℚ) : Dict String ℚ :=
  Dict.empty.update (levels.entries.map fun entry => (toString entry.1, entry.2))

/-- The entries under the integers that their keys spell, unless one spells none. -/
def intKeys (levels : Dict String ℚ) : Option (Dict Int ℚ) :=
  (levels.entries.mapM fun entry => (Text.toInt? entry.1).map fun key => (key, entry.2)).map
    Dict.empty.update

theorem entries_textKeys (levels : Dict Int ℚ) :
    (textKeys levels).entries = levels.entries.map fun entry => (toString entry.1, entry.2) := by
  have distinct : ((levels.entries.map fun entry => (toString entry.1, entry.2)).map
      Prod.fst).Nodup := by
    rw [List.map_map]
    have keys := levels.distinct.map Text.toString_injective
    rwa [List.map_map] at keys
  refine (Dict.entries_update_of_disjoint Dict.empty _ distinct ?_).trans (List.nil_append _)
  intro key _ present
  cases present

/-- Keys that were written are read back. -/
theorem intKeys_textKeys (levels : Dict Int ℚ) : intKeys (textKeys levels) = some levels := by
  have read : ∀ entries : List (Int × ℚ),
      ((entries.map fun entry => (toString entry.1, entry.2)).mapM fun entry =>
        (Text.toInt? entry.1).map fun key => (key, entry.2)) = some entries := by
    intro entries
    induction entries with
    | nil => rfl
    | cons entry rest ih =>
        rw [List.map_cons, List.mapM_cons, ih, Text.toInt?_toString]
        rfl
  rw [intKeys, entries_textKeys, read, Option.map_some, Dict.update_empty_entries]

theorem toInt?_of_mem_keys_textKeys {levels : Dict Int ℚ} {name : String}
    (member : name ∈ (textKeys levels).keys) :
    ∃ key ∈ levels.keys, Text.toInt? name = some key := by
  rw [Dict.keys, entries_textKeys, List.map_map] at member
  rcases List.mem_map.mp member with ⟨entry, listed, rfl⟩
  exact ⟨entry.1, List.mem_map.mpr ⟨entry, listed, rfl⟩, Text.toInt?_toString entry.1⟩

/-! ## The store -/

/-- A saved entry.  The monitor that writes it never tracks ticket zero. -/
structure SnapshotEntry where
  lastSl : Dict String ℚ
  lastTp : Dict String ℚ
  lastVolume : Dict String ℚ
  timestamp : String
  untracked : ∀ name ∈ lastSl.keys, Text.toInt? name ≠ some 0

/-- The store, with its cache and the entries of its file. -/
structure SnapshotStore where
  snapshot : Option SnapshotEntry
  lines : List SnapshotEntry

namespace SnapshotStore

/-- A store on a new file. -/
def empty : SnapshotStore :=
  ⟨none, []⟩

/-- A store that is built on the file. -/
def reload (store : SnapshotStore) : SnapshotStore :=
  ⟨store.lines.getLast?, store.lines⟩

/-- The entry of the tracked levels. -/
def entryOf (tracked : TrackedLevels) (timestamp : String) : SnapshotEntry where
  lastSl := textKeys tracked.lastSl
  lastTp := textKeys tracked.lastTp
  lastVolume := textKeys tracked.lastVolume
  timestamp := timestamp
  untracked := by
    intro name member zero
    rcases toInt?_of_mem_keys_textKeys member with ⟨key, tracks, same⟩
    cases same.symm.trans zero
    exact (Dict.get_eq_none_iff _ _).mp tracked.nonzero tracks

/-- Save the tracked levels.  Where the file cannot be written the cache alone holds them. -/
def saveSnapshot (store : SnapshotStore) (tracked : TrackedLevels) (timestamp : String)
    (written : Bool) : SnapshotStore :=
  let entry := entryOf tracked timestamp
  { snapshot := some entry
    lines := if written then store.lines ++ [entry] else store.lines }

/-- Every read entry spells an entry of the file. -/
theorem exists_of_mem_mapM {entries : List (String × ℚ)} {read : List (Int × ℚ)}
    (converted : (entries.mapM fun entry =>
      (Text.toInt? entry.1).map fun key => (key, entry.2)) = some read)
    {entry : Int × ℚ} (member : entry ∈ read) :
    ∃ source ∈ entries, Text.toInt? source.1 = some entry.1 := by
  induction entries generalizing read with
  | nil =>
      cases converted
      cases member
  | cons source rest ih =>
      rw [List.mapM_cons] at converted
      rcases Option.bind_eq_some_iff.mp converted with ⟨first, spelt, converted⟩
      rcases Option.bind_eq_some_iff.mp converted with ⟨others, onwards, same⟩
      cases same
      rcases List.mem_cons.mp member with rfl | later
      · rcases Option.map_eq_some_iff.mp spelt with ⟨key, integer, rfl⟩
        exact ⟨source, List.mem_cons_self, integer⟩
      · rcases ih onwards later with ⟨found, listed, integer⟩
        exact ⟨found, .tail _ listed, integer⟩

theorem intKeys_nonzero {levels : Dict String ℚ} {read : Dict Int ℚ}
    (untracked : ∀ name ∈ levels.keys, Text.toInt? name ≠ some 0)
    (converted : intKeys levels = some read) : read.get 0 = none := by
  rcases Option.map_eq_some_iff.mp converted with ⟨entries, listed, rfl⟩
  rw [Dict.get_update_of_notMem, Dict.get_empty]
  intro zero
  rcases List.mem_map.mp zero with ⟨entry, member, isZero⟩
  rcases exists_of_mem_mapM listed member with ⟨source, held, integer⟩
  rw [isZero] at integer
  exact untracked source.1 (List.mem_map.mpr ⟨source, held, rfl⟩) integer

/-- The levels of an entry, unless a key is no integer. -/
def levelsOf (entry : SnapshotEntry) : Option TrackedLevels :=
  match converted : intKeys entry.lastSl, intKeys entry.lastTp, intKeys entry.lastVolume with
  | some lastSl, some lastTp, some lastVolume =>
      some ⟨lastSl, lastTp, lastVolume, intKeys_nonzero entry.untracked converted⟩
  | _, _, _ => none

/-- The levels that were saved last.  A monitor starts without any where none were saved or a
key is no integer. -/
def loadSnapshot (store : SnapshotStore) : Option TrackedLevels :=
  store.snapshot.bind levelsOf

/-- What a monitor knows of the store. -/
def abstract (store : SnapshotStore) : PositionReconciliationStore :=
  ⟨store.loadSnapshot⟩

/-- Levels that were saved are loaded. -/
theorem levelsOf_entryOf (tracked : TrackedLevels) (timestamp : String) :
    levelsOf (entryOf tracked timestamp) = some tracked := by
  unfold levelsOf
  split
  case h_1 lastSl lastTp lastVolume sl tp volume =>
      cases (intKeys_textKeys tracked.lastSl).symm.trans sl
      cases (intKeys_textKeys tracked.lastTp).symm.trans tp
      cases (intKeys_textKeys tracked.lastVolume).symm.trans volume
      rfl
  case h_2 unread =>
      exact (unread _ _ _ (intKeys_textKeys tracked.lastSl) (intKeys_textKeys tracked.lastTp)
        (intKeys_textKeys tracked.lastVolume)).elim

/-- A saved copy is what the monitor believes to have saved. -/
theorem abstract_saveSnapshot (store : SnapshotStore) (tracked : TrackedLevels)
    (timestamp : String) (written : Bool) :
    (store.saveSnapshot tracked timestamp written).abstract = ⟨some tracked⟩ :=
  congrArg PositionReconciliationStore.mk (levelsOf_entryOf tracked timestamp)

/-- A store on the file of another one knows what the other one knows, when the last save has
reached the file. -/
theorem abstract_reload {store : SnapshotStore} (saved : store.lines.getLast? = store.snapshot) :
    store.reload.abstract = store.abstract := by
  unfold abstract loadSnapshot reload
  rw [saved]

end SnapshotStore

end EaBot.Persistence
