import EaBot.Persistence.OrderStateStore

/-!
# The order ledger

The ledger is the in-memory map of order records together with the durable store
that may be attached to it.  A state write goes to the map first and to the store
second; its answer says whether the store reported the write durable.  Nothing
here enforces the lifecycle table.
-/

namespace EaBot.Execution

open EaBot.Foundation EaBot.Persistence

/-- The in-memory orders and the attached store. -/
structure Ledger where
  orderStore : Dict String Record
  store : Option OrderStateStore

namespace Ledger

/-- The ledger of a process that has just started. -/
def initial : Ledger :=
  ⟨Dict.empty, none⟩

/-- Attach a store, or detach it, and take over the orders it has loaded. -/
def setStore (ledger : Ledger) : Option OrderStateStore → Ledger
  | none => { ledger with store := none }
  | some store => ⟨ledger.orderStore.update store.orders.entries, some store⟩

/-- The record of an order; a missing one is an error. -/
def getOrder (ledger : Ledger) (intentId : String) : Option Record :=
  ledger.orderStore.get intentId

/-- Create or update the record of an order. -/
def setOrder (ledger : Ledger) (intentId state : String) (extra : List (String × Val)) :
    Bool × Ledger :=
  let record := updatedRecord (ledger.orderStore.get intentId) intentId state [] extra
  let orderStore := ledger.orderStore.set intentId record
  match ledger.store with
  | none => (false, ⟨orderStore, none⟩)
  | some store =>
      let stored := store.setOrder intentId state extra
      (stored.1, ⟨orderStore, some stored.2⟩)

/-- Whether the in-memory record of an order is beyond the intent marker. -/
def memoryBeyond (ledger : Ledger) (intentId : String) : Bool :=
  (ledger.orderStore.get intentId).any beyondIntent

/-- Whether the attached store's cached record of an order is beyond the intent
marker. -/
def storeBeyond (ledger : Ledger) (intentId : String) : Bool :=
  ledger.store.any fun store => store.cachedBeyond intentId

/-- Whether a restart would find the order beyond the intent marker. -/
def durableBeyond (ledger : Ledger) (intentId : String) : Bool :=
  ledger.store.any fun store => OrderStateStore.durableBeyond store.file intentId

/-- Whether the attached store carries every record under its own identity. -/
def Keyed (ledger : Ledger) : Prop :=
  ∀ store, ledger.store = some store → store.Keyed

/-- Whether a store is attached and still durable. -/
def healthy (ledger : Ledger) : Bool :=
  ledger.store.any OrderStateStore.healthy

section SetOrder

variable (ledger : Ledger) (intentId state : String) (extra : List (String × Val))

/-- A state write keeps the in-memory records of other orders. -/
theorem setOrder_orderStore_get (other : String) :
    (ledger.setOrder intentId state extra).2.orderStore.get other =
      if other = intentId then
        some (updatedRecord (ledger.orderStore.get intentId) intentId state [] extra)
      else ledger.orderStore.get other := by
  unfold setOrder
  cases ledger.store with
  | none => exact Dict.get_set _ _ _ _
  | some store => exact Dict.get_set _ _ _ _

theorem setOrder_store :
    (ledger.setOrder intentId state extra).2.store =
      ledger.store.map fun store => (store.setOrder intentId state extra).2 := by
  unfold setOrder
  cases ledger.store <;> rfl

theorem setOrder_persisted :
    (ledger.setOrder intentId state extra).1 =
      ledger.store.any fun store => (store.setOrder intentId state extra).1 := by
  unfold setOrder
  cases ledger.store <;> rfl

variable {ledger intentId extra} {state : OrderState}

theorem Keyed.setOrder (keyed : ledger.Keyed) (keeps : Keeps intentId extra)
    (state : String) : (ledger.setOrder intentId state extra).2.Keyed := by
  intro store attached
  rw [setOrder_store] at attached
  cases before : ledger.store with
  | none => simp [before] at attached
  | some previous =>
      simp only [before, Option.map_some, Option.some.injEq] at attached
      rw [← attached]
      exact (keyed previous before).setOrder keeps state

/-- A state write decides its own order in memory and no other one. -/
theorem setOrder_memoryBeyond (keeps : Keeps intentId extra) (other : String) :
    (ledger.setOrder intentId state.value extra).2.memoryBeyond other =
      if other = intentId then decide (state ≠ .intentCreated)
      else ledger.memoryBeyond other := by
  unfold memoryBeyond
  rw [setOrder_orderStore_get]
  by_cases same : other = intentId
  · rw [if_pos same, if_pos same, Option.any_some, Bool.eq_iff_iff, decide_eq_true_iff]
    exact beyondIntent_iff (updatedRecord_state (by simp) keeps)
  · rw [if_neg same, if_neg same]

/-- Only a write that reports durability changes what a restart would find. -/
theorem setOrder_durableBeyond (keyed : ledger.Keyed) (keeps : Keeps intentId extra)
    (other : String) :
    (ledger.setOrder intentId state.value extra).2.durableBeyond other =
      if (ledger.setOrder intentId state.value extra).1 = true ∧ other = intentId then
        decide (state ≠ .intentCreated)
      else ledger.durableBeyond other := by
  unfold durableBeyond
  rw [setOrder_store, setOrder_persisted]
  cases attached : ledger.store with
  | none => simp
  | some store =>
      simp only [Option.map_some, Option.any_some, OrderStateStore.durableBeyond,
        OrderStateStore.durableRecord_setOrder (keyed store attached) keeps]
      by_cases stored : (store.setOrder intentId state.value extra).1 = true ∧ other = intentId
      · rw [if_pos stored, if_pos stored, Option.any_some, Bool.eq_iff_iff, decide_eq_true_iff]
        exact beyondIntent_iff (OrderStateStore.entryFor_state keeps _)
      · rw [if_neg stored, if_neg stored]

/-- With a store attached, a write that is not durable ends durability. -/
theorem unhealthy_of_setOrder (state : String)
    (lost : (ledger.setOrder intentId state extra).1 = false) :
    (ledger.setOrder intentId state extra).2.healthy = false := by
  unfold healthy
  rw [setOrder_store]
  rw [setOrder_persisted] at lost
  cases attached : ledger.store with
  | none => rfl
  | some store =>
      rw [attached] at lost
      exact OrderStateStore.unhealthy_of_setOrder _ lost

/-- Health is never regained by a write. -/
theorem healthy_of_setOrder (state : String)
    (after : (ledger.setOrder intentId state extra).2.healthy = true) :
    ledger.healthy = true := by
  unfold healthy at after ⊢
  rw [setOrder_store] at after
  cases attached : ledger.store with
  | none => simp [attached] at after
  | some store =>
      rw [attached] at after
      exact OrderStateStore.healthy_of_setOrder _ after

end SetOrder

section Restart

variable (file : OrderFile) (interrupted : Option Nat)

/-- The ledger of a process that starts on a file. -/
def boot : Ledger :=
  initial.setStore (some (OrderStateStore.load file interrupted))

theorem keyed_boot : (boot file interrupted).Keyed := by
  intro store attached
  cases attached
  exact OrderStateStore.keyed_load file interrupted

theorem boot_durableBeyond (intentId : String) :
    (boot file interrupted).durableBeyond intentId =
      OrderStateStore.durableBeyond file intentId := by
  simp [boot, setStore, durableBeyond]

/-- A complete start takes every durable record into memory. -/
theorem boot_orderStore_get (intentId : String) :
    (boot file interrupted).orderStore.get intentId =
      (OrderStateStore.load file interrupted).orders.get intentId := by
  simp [boot, setStore, initial, Dict.get_update_entries]

/-- A start that reads the whole file knows in memory what is durable. -/
theorem boot_memoryBeyond (intentId : String) :
    (boot file none).memoryBeyond intentId = OrderStateStore.durableBeyond file intentId := by
  rw [memoryBeyond, boot_orderStore_get]
  rfl

end Restart

end Ledger

end EaBot.Execution
