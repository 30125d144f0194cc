import EaBot.Foundation.Recency
import EaBot.Persistence.OrderJournal

/-!
# Record logs with a bounded cache

A store that appends its records to a file and keeps the newest ones in a cache.  A field of a
record names the key under which it is cached.  Opening the store reads the records of the
file one by one, skips what is none, and drops the oldest keys at the end.

As long as appends succeed the cache is what a new store on the same file would hold.
-/

namespace EaBot.Persistence

open EaBot.Foundation

/-- A bounded cache of records beside their file. -/
structure RecordLog where
  limit : Nat
  positive : 0 < limit
  records : Dict String OrderEntry
  file : TextFile

namespace RecordLog

/-- The limit of a cache, at least one record. -/
def limitOf (maxEntries : Int) : Nat :=
  (max 1 maxEntries).toNat

theorem limitOf_pos (maxEntries : Int) : 0 < limitOf maxEntries := by
  unfold limitOf
  omega

section Reading

variable (render : Json → String) (field : String)

/-- The record on a line and its key.  A line without an object or without a key holds
none. -/
def recordOf (line : List Char) : Option (String × OrderEntry) :=
  match Json.readObject line with
  | none => none
  | some fields =>
      let entry : OrderEntry := Dict.empty.update fields
      match entry.get field with
      | none => none
      | some value =>
          if value.isNull then none else some (OrderJournal.textOf render value, entry)

/-- The records of a file with their keys, in order. -/
def recordsOf (file : TextFile) : List (String × OrderEntry) :=
  (TextFile.linesOf file.chars).filterMap (recordOf render field)

/-- The record of a key that was written last. -/
def lastWritten (file : TextFile) (key : String) : Option OrderEntry :=
  lastAssigned key (recordsOf render field file)

/-- Open a store.  A file that cannot be decoded raises. -/
def open? (maxEntries : Int) (file : TextFile) : Option RecordLog :=
  if file.torn then none
  else
    some ⟨limitOf maxEntries, limitOf_pos maxEntries,
      (recency (recordsOf render field file)).trim (limitOf maxEntries), file⟩

/-- The cache holds what a new store on the file would hold. -/
def Follows (log : RecordLog) : Prop :=
  log.records = (recency (recordsOf render field log.file)).trim log.limit

end Reading

/-- Cache a record as the newest one and append it to the file, unless the append fails. -/
def put (log : RecordLog) (key : String) (entry : OrderEntry) (saved : Bool) : RecordLog :=
  { log with
    records := log.records.remember log.limit (key, entry)
    file := if saved then log.file.append (Json.objectLines.line entry.entries) none
      else log.file }

/-! ## One record -/

section Record

variable (render : Json → String) {field : String} {log : RecordLog} {entry : OrderEntry}
  {value : Json}

/-- A record that is written to an ended file is read back as the last one. -/
theorem recordsOf_append {file : TextFile} (ended : file.Ended)
    (carried : entry.get field = some value) (solid : value.isNull = false) :
    recordsOf render field (file.append (Json.objectLines.line entry.entries) none) =
      recordsOf render field file ++ [(OrderJournal.textOf render value, entry)] := by
  have written : Json.readObject (Json.objectLines.write entry.entries) = some entry.entries :=
    Json.objectLines.read_write entry.entries
  have read : recordOf render field (Json.objectLines.write entry.entries) =
      some (OrderJournal.textOf render value, entry) := by
    rw [recordOf, written]
    dsimp only
    rw [Dict.update_empty_entries, carried]
    simp [solid]
  rw [recordsOf, Json.objectLines.linesOf_append_line ended, List.filterMap_append]
  simp [recordsOf, read]

theorem ended_put (ended : log.file.Ended) (key : String) (entry : OrderEntry) (saved : Bool) :
    (log.put key entry saved).file.Ended := by
  cases saved with
  | false => exact ended
  | true => exact ended.append (Json.objectLines.write entry.entries)

/-- A record that reaches the file leaves the cache in line with it. -/
theorem Follows.put (follows : log.Follows render field) (ended : log.file.Ended)
    (carried : entry.get field = some value) (solid : value.isNull = false) :
    (log.put (OrderJournal.textOf render value) entry true).Follows render field := by
  change log.records.remember log.limit _ = _
  rw [follows, ← trim_recency_concat log.positive,
    ← recordsOf_append render ended carried solid]
  rfl

/-- A new store on the file of a cache in line with it holds the same. -/
theorem open?_of_follows (follows : log.Follows render field) (ended : log.file.Ended)
    {maxEntries : Int} (same : limitOf maxEntries = log.limit) :
    open? render field maxEntries log.file = some log := by
  have whole : log.file.torn = false := ended.1
  rcases log with ⟨limit, positive, records, file⟩
  rw [Follows] at follows
  dsimp only at follows whole same
  subst follows
  subst same
  simp [open?, whole]

theorem follows_of_open? {maxEntries : Int} {file : TextFile}
    (opened : open? render field maxEntries file = some log) :
    log.Follows render field ∧ log.file = file ∧ log.limit = limitOf maxEntries := by
  unfold open? at opened
  split at opened
  · cases opened
  · cases opened
    exact ⟨rfl, rfl, rfl⟩

end Record

end RecordLog

end EaBot.Persistence
