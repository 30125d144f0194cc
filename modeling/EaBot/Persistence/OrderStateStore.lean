import EaBot.Execution.Lifecycle

/-!
# The order state store

An append-only file of records with an in-memory cache.  Every record is written
to the cache first and appended to the file afterwards, so the cache may run ahead
of the file once an append has failed; the store is then unhealthy for good and
reports that nothing further is durable.

The host decides which appends fail and which instants records are stamped with.
Both are read off the number of records written so far.
-/

namespace EaBot.Persistence

open EaBot.Foundation EaBot.Execution

/-- A line of the file as a reader finds it. -/
inductive Line
  | entry (record : Record)
  | blank
  | corrupt

/-- The file of a store together with the behaviour of its host. -/
structure OrderFile where
  lines : List Line
  writes : Nat
  appendFails : Nat → Bool
  isoNow : Nat → String

/-- A store: the cached orders, whether durability still holds, and the file. -/
structure OrderStateStore where
  orders : Dict String Record
  healthy : Bool
  file : OrderFile

namespace OrderStateStore

/-- The order a record belongs to.  A record that names none is never found by a
key. -/
def identityOf (record : Record) : Option String :=
  match record.get "intent_id" with
  | some (.str intentId) => some intentId
  | _ => none

/-- Take one line of the file into the cache. -/
def loadLine (store : OrderStateStore) : Line → OrderStateStore
  | .entry record =>
      match identityOf record with
      | some intentId => { store with orders := store.orders.set intentId record }
      | none => store
  | .blank => store
  | .corrupt => { store with healthy := false }

/-- Read the file.  `interrupted` is the number of lines after which reading
fails, when it does. -/
def load (file : OrderFile) (interrupted : Option Nat) : OrderStateStore :=
  match interrupted with
  | none => file.lines.foldl loadLine ⟨Dict.empty, true, file⟩
  | some count =>
      { (file.lines.take count).foldl loadLine ⟨Dict.empty, true, file⟩ with healthy := false }

/-- Persist one record and report whether it is durable. -/
def appendLine (store : OrderStateStore) (entry : Record) : Bool × OrderStateStore :=
  let counted := { store.file with writes := store.file.writes + 1 }
  if !store.healthy then
    (false, { store with file := counted })
  else if store.file.appendFails store.file.writes then
    (false, { store with healthy := false, file := counted })
  else
    (true, { store with file := { counted with lines := counted.lines ++ [.entry entry] } })

/-- Create or update the record of an order and persist it. -/
def setOrder (store : OrderStateStore) (intentId state : String)
    (extra : List (String × Val)) : Bool × OrderStateStore :=
  let entry := updatedRecord (store.orders.get intentId) intentId state
    [("timestamp", .str (store.file.isoNow store.file.writes))] extra
  { store with orders := store.orders.set intentId entry }.appendLine entry

/-- The record of an order. -/
def getOrder (store : OrderStateStore) (intentId : String) : Option Record :=
  store.orders.get intentId

/-- The last record that carries a ticket, with its identity. -/
def latestFor (ticket : Val) : List (String × Record) → Option (String × Record)
  | [] => none
  | (intentId, record) :: rest =>
      match latestFor ticket rest with
      | some found => some found
      | none =>
          if ((record.get "ticket").getD .none).text = ticket.text then
            some (intentId, record)
          else
            none

/-- Append a closed record for the latest record of a ticket.  Nothing happens
without a matching record, when it is closed already, or when its state does not
allow the close. -/
def markClosed (store : OrderStateStore) (ticket : Val) (reason : String)
    (closedAt : Option String) : Bool × OrderStateStore :=
  if ticket = .none then (false, store)
  else
    match latestFor ticket store.orders.entries with
    | none => (false, store)
    | some (intentId, record) =>
        match OrderState.ofValue? (recordState record) with
        | none => (false, store)
        | some current =>
            if current = .closed then (false, store)
            else if .closed ∉ nextAllowed current then (false, store)
            else
              let now := store.file.isoNow store.file.writes
              let stamp :=
                match closedAt with
                | some instant => if instant = "" then now else instant
                | none => now
              let entry : Record := Dict.empty.update
                [("intent_id", .str intentId), ("state", .str OrderState.closed.value),
                  ("ticket", (record.get "ticket").getD ticket),
                  ("timestamp", .str stamp), ("reason", .str reason)]
              (true, ({ store with orders := store.orders.set intentId entry }.appendLine
                entry).2)

/-! ## What a store knows about an order -/

/-- Whether the cache holds a record of the order beyond the intent marker. -/
def cachedBeyond (store : OrderStateStore) (intentId : String) : Bool :=
  (store.orders.get intentId).any beyondIntent

/-- The record that a restart would load from the file. -/
def durableRecord (file : OrderFile) (intentId : String) : Option Record :=
  (load file none).orders.get intentId

/-- Whether the file's latest record of the order is beyond the intent marker. -/
def durableBeyond (file : OrderFile) (intentId : String) : Bool :=
  (durableRecord file intentId).any beyondIntent

/-- Every cached record carries the identity it is cached under. -/
def Keyed (store : OrderStateStore) : Prop :=
  ∀ intentId record, store.orders.get intentId = some record →
    record.get "intent_id" = some (.str intentId)

/-- A close that is not written leaves the store as it was. -/
theorem markClosed_of_not {store : OrderStateStore} {ticket : Val} {reason : String}
    {closedAt : Option String} (unwritten : (store.markClosed ticket reason closedAt).1 = false) :
    (store.markClosed ticket reason closedAt).2 = store := by
  unfold markClosed at unwritten ⊢
  split
  · rfl
  · rename_i given
    rw [if_neg given] at unwritten
    split
    · rfl
    · rename_i found
      rw [found] at unwritten
      dsimp only at unwritten
      split
      · rfl
      · rename_i known
        rw [known] at unwritten
        dsimp only at unwritten
        split
        · rfl
        · rename_i opened
          rw [if_neg opened] at unwritten
          split
          · rfl
          · rename_i allowed
            rw [if_neg allowed] at unwritten
            cases unwritten

theorem identityOf_eq_some_iff {record : Record} {intentId : String} :
    identityOf record = some intentId ↔ record.get "intent_id" = some (.str intentId) := by
  unfold identityOf
  split
  · rename_i found identity
    simp [identity]
  · rename_i absent
    simpa using absent intentId

theorem Keyed.loadLine {store : OrderStateStore} (keyed : store.Keyed) (line : Line) :
    (store.loadLine line).Keyed := by
  cases line with
  | blank => exact keyed
  | corrupt => exact keyed
  | entry record =>
      cases identity : identityOf record with
      | none => simpa [OrderStateStore.loadLine, identity] using keyed
      | some intentId =>
          intro other found present
          simp only [OrderStateStore.loadLine, identity, Dict.get_set] at present
          by_cases same : other = intentId
          · rw [if_pos same] at present
            cases present
            rw [same, identityOf_eq_some_iff.mp identity]
          · rw [if_neg same] at present
            exact keyed other found present

theorem Keyed.foldl {store : OrderStateStore} (keyed : store.Keyed) (lines : List Line) :
    (lines.foldl OrderStateStore.loadLine store).Keyed := by
  induction lines generalizing store with
  | nil => exact keyed
  | cons line rest ih => exact ih (keyed.loadLine line)

/-- Loading caches every record under its own identity. -/
theorem keyed_load (file : OrderFile) (interrupted : Option Nat) :
    (load file interrupted).Keyed := by
  have start : Keyed ⟨Dict.empty, true, file⟩ := by
    intro intentId record present
    cases present
  cases interrupted with
  | none => exact start.foldl _
  | some count => exact start.foldl (file.lines.take count)

theorem foldl_loadLine_file (lines : List Line) (store : OrderStateStore) :
    (lines.foldl loadLine store).file = store.file := by
  induction lines generalizing store with
  | nil => rfl
  | cons line rest ih =>
      rw [List.foldl_cons, ih]
      cases line with
      | entry record => cases identity : identityOf record <;> simp [loadLine, identity]
      | blank => rfl
      | corrupt => rfl

@[simp]
theorem load_file (file : OrderFile) (interrupted : Option Nat) :
    (load file interrupted).file = file := by
  cases interrupted with
  | none => exact foldl_loadLine_file _ _
  | some count => exact foldl_loadLine_file (file.lines.take count) _

theorem foldl_loadLine_orders (lines : List Line) {first second : OrderStateStore}
    (same : first.orders = second.orders) :
    (lines.foldl loadLine first).orders = (lines.foldl loadLine second).orders := by
  induction lines generalizing first second with
  | nil => exact same
  | cons line rest ih =>
      refine ih ?_
      cases line with
      | entry record => cases identity : identityOf record <;> simp [loadLine, identity, same]
      | blank => exact same
      | corrupt => exact same

/-- What a restart loads depends on the lines alone. -/
theorem durableRecord_congr {first second : OrderFile} (same : first.lines = second.lines)
    (intentId : String) : durableRecord first intentId = durableRecord second intentId := by
  unfold durableRecord load
  rw [same]
  exact congrArg (Dict.get · intentId) (foldl_loadLine_orders second.lines rfl)

/-- An appended record is what a restart loads for its order, and nothing changes
for the other orders. -/
theorem durableRecord_append {file after : OrderFile} {entry : Record} {intentId : String}
    (identity : identityOf entry = some intentId)
    (appended : after.lines = file.lines ++ [.entry entry]) (other : String) :
    durableRecord after other =
      if other = intentId then some entry else durableRecord file other := by
  have earlier : (file.lines.foldl loadLine ⟨Dict.empty, true, after⟩).orders =
      (load file none).orders := foldl_loadLine_orders file.lines rfl
  simp only [durableRecord, load, appended, List.foldl_append, List.foldl_cons, List.foldl_nil]
  simp only [loadLine, identity, Dict.get_set, earlier]
  rfl

/-! ## What a state write does -/

section SetOrder

variable (store : OrderStateStore) (intentId : String) (extra : List (String × Val))

/-- The record that a state write caches. -/
def entryFor (state : String) : Record :=
  updatedRecord (store.orders.get intentId) intentId state
    [("timestamp", .str (store.file.isoNow store.file.writes))] extra

theorem appendLine_orders (entry : Record) : (store.appendLine entry).2.orders = store.orders := by
  unfold appendLine
  split
  · rfl
  · split <;> rfl

/-- A state write caches the new record and keeps those of other orders. -/
theorem setOrder_orders_get (state other : String) :
    (store.setOrder intentId state extra).2.orders.get other =
      if other = intentId then some (store.entryFor intentId extra state)
      else store.orders.get other := by
  rw [setOrder, appendLine_orders, Dict.get_set]
  rfl

variable {store intentId extra}

theorem entryFor_state (keeps : Keeps intentId extra) (state : String) :
    (store.entryFor intentId extra state).get "state" = some (.str state) :=
  updatedRecord_state (by simp) keeps

theorem entryFor_identity (keyed : store.Keyed) (keeps : Keeps intentId extra)
    (state : String) :
    identityOf (store.entryFor intentId extra state) = some intentId :=
  identityOf_eq_some_iff.mpr
    (updatedRecord_identity (fun record present => keyed intentId record present) (by simp) keeps)

theorem Keyed.setOrder (keyed : store.Keyed) (keeps : Keeps intentId extra)
    (state : String) : (store.setOrder intentId state extra).2.Keyed := by
  intro other record present
  rw [setOrder_orders_get] at present
  by_cases same : other = intentId
  · rw [if_pos same] at present
    cases present
    rw [same]
    exact identityOf_eq_some_iff.mp (entryFor_identity keyed keeps state)
  · rw [if_neg same] at present
    exact keyed other record present

/-- A state write that reports durability is what a restart loads for its order; any
other write leaves what a restart loads as it was. -/
theorem durableRecord_setOrder (keyed : store.Keyed) (keeps : Keeps intentId extra)
    (state other : String) :
    durableRecord (store.setOrder intentId state extra).2.file other =
      if (store.setOrder intentId state extra).1 = true ∧ other = intentId then
        some (store.entryFor intentId extra state)
      else durableRecord store.file other := by
  have identity := entryFor_identity keyed keeps state
  unfold entryFor at identity ⊢
  unfold setOrder appendLine
  by_cases sound : store.healthy = true
  · by_cases fails : store.file.appendFails store.file.writes = true
    · simp only [sound, fails, Bool.not_true, Bool.false_eq_true, if_true, if_false, false_and]
      apply durableRecord_congr
      rfl
    · simp only [sound, fails, Bool.not_true, Bool.false_eq_true, if_false, true_and]
      exact durableRecord_append identity rfl other
  · simp only [sound, Bool.not_false, if_true, Bool.false_eq_true, false_and, if_false]
    apply durableRecord_congr
    rfl

/-- A write that is not durable leaves the store unhealthy. -/
theorem unhealthy_of_setOrder (state : String)
    (lost : (store.setOrder intentId state extra).1 = false) :
    (store.setOrder intentId state extra).2.healthy = false := by
  unfold setOrder appendLine at lost ⊢
  by_cases sound : store.healthy = true
  · by_cases fails : store.file.appendFails store.file.writes = true
    · simp [sound, fails]
    · simp [sound, fails] at lost
  · simp [sound]

/-- Health is never regained by a write. -/
theorem healthy_of_setOrder (state : String)
    (after : (store.setOrder intentId state extra).2.healthy = true) :
    store.healthy = true := by
  by_contra sick
  have unhealthy : store.healthy = false := Bool.eq_false_iff.mpr sick
  simp [setOrder, appendLine, unhealthy] at after

end SetOrder

end OrderStateStore

end EaBot.Persistence
