import EaBot.Persistence.RecordLog

/-!
# The entry-context store

The store keeps the small fields of an entry's context under the ticket of its position.  Every
context is appended to a file, and the newest ones are cached.  A context that is taken out
leaves the cache; its line stays in the file, and opening the file again brings it back.
-/

namespace EaBot.Persistence

open EaBot.Foundation

namespace EntryContextStore

/-! ## Contexts -/

/-- The fields of a context that are persisted. -/
def persistedFields : List String :=
  ["symbol", "direction", "entry_price", "stop_loss", "take_profit", "risk_distance",
    "reward_distance", "planned_rr", "regime", "ts"]

/-- The persisted fields of a context. -/
def slim (context : OrderEntry) : OrderEntry :=
  Dict.empty.update (persistedFields.filterMap fun name =>
    (context.get name).map fun value => (name, value))

/-- The record of a context. -/
def recordFor (key : String) (context : OrderEntry) : OrderEntry :=
  (Dict.empty.set "ticket" (.str key)).update (slim context).entries

/-- The most contexts that the cache holds. -/
def maxEntries : Int :=
  1000

section Calls

variable (render : Json → String)

/-- The key of a ticket; one that is missing or empty has none. -/
def keyOf (ticket : Json) : Option String :=
  if ticket.isNull then none
  else
    let key := OrderJournal.textOf render ticket
    if key = "" then none else some key

/-- Open the store on a file.  A file that cannot be decoded raises. -/
def open? (file : TextFile) : Option RecordLog :=
  RecordLog.open? render "ticket" maxEntries file

/-- Store the context of a ticket and append it to the file, unless that fails. -/
def remember (store : RecordLog) (ticket : Json) (context : OrderEntry) (saved : Bool) :
    RecordLog :=
  match keyOf render ticket with
  | none => store
  | some key => store.put key (recordFor key context) saved

/-- The context of a ticket, empty when there is none. -/
def get (store : RecordLog) (ticket : Json) : OrderEntry :=
  if ticket.isNull then Dict.empty
  else
    match store.records.get (OrderJournal.textOf render ticket) with
    | none => Dict.empty
    | some raw => raw.erase "ticket"

/-- Take the context of a ticket out of the cache. -/
def pop (store : RecordLog) (ticket : Json) : RecordLog :=
  if ticket.isNull then store
  else { store with records := store.records.erase (OrderJournal.textOf render ticket) }

/-- The contexts of a file with their tickets, in order. -/
def recordsOf (file : TextFile) : List (String × OrderEntry) :=
  RecordLog.recordsOf render "ticket" file

end Calls

/-! ## The fields of a record -/

theorem mem_slimmed (context : OrderEntry) (name : String) (value : Json) :
    (name, value) ∈ persistedFields.filterMap (fun name =>
        (context.get name).map fun value => (name, value)) ↔
      name ∈ persistedFields ∧ context.get name = some value := by
  rw [List.mem_filterMap]
  constructor
  · rintro ⟨field, listed, found⟩
    obtain ⟨held, present, same⟩ := Option.map_eq_some_iff.mp found
    obtain ⟨rfl, rfl⟩ := Prod.mk.inj same
    exact ⟨listed, present⟩
  · rintro ⟨listed, present⟩
    exact ⟨name, listed, by rw [present, Option.map_some]⟩

theorem get_slim (context : OrderEntry) (name : String) :
    (slim context).get name = if name ∈ persistedFields then context.get name else none := by
  have absent (missing : ∀ value, ¬ (name ∈ persistedFields ∧ context.get name = some value)) :
      (slim context).get name = none := by
    refine (Dict.get_update_of_notMem _ _ _ fun member => ?_).trans (Dict.get_empty _)
    obtain ⟨⟨_, value⟩, listed, rfl⟩ := List.mem_map.mp member
    exact missing value ((mem_slimmed context _ value).mp listed)
  split
  · rename_i persisted
    cases held : context.get name with
    | none =>
        apply absent
        rintro value ⟨-, present⟩
        cases held.symm.trans present
    | some value =>
        refine Dict.get_update_of_mem _ ((mem_slimmed context name value).mpr ⟨persisted, held⟩) ?_
        intro other member
        have present := ((mem_slimmed context name other).mp member).2
        exact Option.some.inj (present.symm.trans held)
  · rename_i transient
    exact absent fun _ both => transient both.1

theorem ticket_recordFor (key : String) (context : OrderEntry) :
    (recordFor key context).get "ticket" = some (.str key) := by
  have transient : "ticket" ∉ persistedFields := by decide
  rw [recordFor, Dict.get_update_entries, get_slim, if_neg transient, Dict.get_set_self]
  rfl

/-- A record has the persisted fields of its context. -/
theorem get_recordFor (key : String) (context : OrderEntry) {name : String}
    (persisted : name ∈ persistedFields) :
    ((recordFor key context).erase "ticket").get name = context.get name := by
  have apart : name ≠ "ticket" := by
    rintro rfl
    revert persisted
    decide
  have absent : (Dict.empty.set "ticket" (Json.str key)).get name = none := by
    rw [Dict.get_set_of_ne _ apart, Dict.get_empty]
  rw [Dict.get_erase, if_neg apart, recordFor, Dict.get_update_entries, get_slim, if_pos persisted,
    absent, Option.or_none]

end EntryContextStore

end EaBot.Persistence
