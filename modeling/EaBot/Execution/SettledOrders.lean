import EaBot.Execution.AtMostOnce

/-!
# Settled orders

An order whose record is beyond the intent marker is settled for the duplicate
check.  The checks before it decide whether a call can still touch the record: a
call without approval is refused before the duplicate check and writes the unknown
state, whatever the record said.
-/

namespace EaBot.Execution

open EaBot.Foundation EaBot.Persistence Program

namespace Ledger

/-- The state that the in-memory record of an order holds. -/
def memoryState (ledger : Ledger) (key : String) : Option Val :=
  (ledger.orderStore.get key).bind fun record => record.get "state"

/-- The state that the attached store's record of an order holds. -/
def storeState (ledger : Ledger) (key : String) : Option Val :=
  ledger.store.bind fun store => (store.orders.get key).bind fun record => record.get "state"

theorem setOrder_memoryState (ledger : Ledger) (key : String) (state : OrderState)
    {extra : List (String × Val)} (keeps : Keeps key extra) :
    (ledger.setOrder key state.value extra).2.memoryState key = some (.str state.value) := by
  rw [memoryState, setOrder_orderStore_get, if_pos rfl, Option.bind_some]
  exact updatedRecord_state (by simp) keeps

theorem setOrder_storeState (ledger : Ledger) (key : String) (state : OrderState)
    {extra : List (String × Val)} (keeps : Keeps key extra) :
    (ledger.setOrder key state.value extra).2.storeState key =
      ledger.store.map fun _ => .str state.value := by
  rw [storeState, setOrder_store]
  cases ledger.store with
  | none => rfl
  | some store =>
      rw [Option.map_some, Option.bind_some, OrderStateStore.setOrder_orders_get, if_pos rfl,
        Option.bind_some, Option.map_some]
      exact OrderStateStore.entryFor_state keeps _

end Ledger

/-- Whether the ledger holds a record of the order beyond the intent marker. -/
def Settled (ledger : Ledger) (key : String) : Prop :=
  ledger.memoryBeyond key = true ∨ ledger.storeBeyond key = true

/-- Whether the record of an order holds the same state before and after. -/
def StateKept (key : String) (before after : World) : Prop :=
  after.ledger.memoryState key = before.ledger.memoryState key ∧
    after.ledger.storeState key = before.ledger.storeState key

/-- Whether nothing has been dispatched between two states. -/
def SendsNothing (before after : World) : Prop :=
  ∀ caller key, DispatchedBy after.log caller key ↔ DispatchedBy before.log caller key

/-- Whether a call is refused for its missing approval.  Only a missing durable store
comes first. -/
def RefusesApproval (config : EngineConfig) (request : OrderRequest) (ledger : Ledger) :
    Prop :=
  (config.requireDurableState = true → ledger.healthy = true) ∧
    config.requireApproval = true ∧ request.approved = false

/-- Whether the record of an order is unknown in every ledger that is attached. -/
def AlreadyUnknown (key : String) (ledger : Ledger) : Prop :=
  ledger.memoryState key = some (.str OrderState.unknown.value) ∧
    ledger.storeState key = ledger.store.map fun _ => .str OrderState.unknown.value

section Call

variable (config : EngineConfig) (surroundings : Surroundings) (caller : Nat)
variable (request : OrderRequest) (world : World)

/-- The state after a call. -/
def afterCall : World :=
  ((executeOrder config surroundings caller request).run world).2

variable {config request}

theorem afterCall_blocked
    (blocked : config.requireDurableState = true ∧ world.ledger.healthy = false) :
    afterCall config surroundings caller request world = world := by
  have stops : (config.requireDurableState && !world.ledger.healthy) = true := by
    simp [blocked]
  rw [afterCall, executeOrder, executeIdentified, durableReady, Program.read, run_perform_bind,
    if_pos stops]
  rfl

theorem afterCall_refused (refuses : RefusesApproval config request world.ledger) :
    afterCall config surroundings caller request world =
      (world.setOrder caller (callKey surroundings request) .unknown []).2 := by
  obtain ⟨ready, required, unapproved⟩ := refuses
  have passes : ¬ (config.requireDurableState && !world.ledger.healthy) = true := by
    simpa using ready
  have stops : (config.requireApproval && !(request.withIdentity surroundings.freshKey
      surroundings.freshExecution).approved) = true := by
    simpa [required] using unapproved
  rw [afterCall, executeOrder, executeIdentified, durableReady, Program.read, run_perform_bind,
    if_neg passes, if_pos stops]
  rfl

theorem afterCall_duplicate
    (ready : config.requireDurableState = true → world.ledger.healthy = true)
    (approved : config.requireApproval = true → request.approved = true)
    (duplicate : world.isDuplicate (callKey surroundings request) = true) :
    afterCall config surroundings caller request world =
      world.record (.checked caller (callKey surroundings request) true) := by
  have passes : ¬ (config.requireDurableState && !world.ledger.healthy) = true := by
    simpa using ready
  have accepted : ¬ (config.requireApproval && !(request.withIdentity surroundings.freshKey
      surroundings.freshExecution).approved) = true := by
    simpa using approved
  have hit : world.isDuplicate (request.withIdentity surroundings.freshKey
      surroundings.freshExecution).idempotencyKey = true := duplicate
  rw [afterCall, executeOrder, executeIdentified, durableReady, Program.read, run_perform_bind,
    if_neg passes, if_neg accepted, isDuplicate, run_perform_bind]
  dsimp only
  rw [if_pos hit, hit]
  rfl

/-- A call that passes the checks is the lifecycle of its request. -/
theorem afterCall_passed
    (ready : config.requireDurableState = true → world.ledger.healthy = true)
    (approved : config.requireApproval = true → request.approved = true)
    (fresh : world.isDuplicate (callKey surroundings request) = false) :
    afterCall config surroundings caller request world =
      ((submitOrder config surroundings caller
        (request.withIdentity surroundings.freshKey surroundings.freshExecution)).run
          (world.record (.checked caller (callKey surroundings request) false))).2.record
            (.returned caller) := by
  have passes : ¬ (config.requireDurableState && !world.ledger.healthy) = true := by
    simpa using ready
  have accepted : ¬ (config.requireApproval && !(request.withIdentity surroundings.freshKey
      surroundings.freshExecution).approved) = true := by
    simpa using approved
  have missed : world.isDuplicate (request.withIdentity surroundings.freshKey
      surroundings.freshExecution).idempotencyKey = false := fresh
  rw [afterCall, executeOrder, executeIdentified, durableReady, Program.read, run_perform_bind,
    if_neg passes, if_neg accepted, isDuplicate, run_perform_bind]
  dsimp only
  rw [missed, if_neg Bool.false_ne_true, run_bind]
  rfl

variable {world}

/-- A settled order is a duplicate. -/
theorem isDuplicate_of_settled {key : String} (nonempty : key ≠ "")
    (settled : Settled world.ledger key) : world.isDuplicate key = true := by
  rcases settled with remembered | stored
  · simp [World.isDuplicate, nonempty, remembered]
  · simp [World.isDuplicate, nonempty, stored]

/-- A call with the key of a settled order dispatches nothing and leaves the state of
its record alone, unless it is refused for its missing approval while the record is
not unknown already. -/
theorem settled_order_kept_iff
    (settled : Settled world.ledger (callKey surroundings request)) :
    (StateKept (callKey surroundings request) world
        (afterCall config surroundings caller request world) ∧
      SendsNothing world (afterCall config surroundings caller request world)) ↔
    (RefusesApproval config request world.ledger →
      AlreadyUnknown (callKey surroundings request) world.ledger) := by
  by_cases refuses : RefusesApproval config request world.ledger
  · have memory := world.ledger.setOrder_memoryState (callKey surroundings request) .unknown
      (keeps_nil _)
    have store := world.ledger.setOrder_storeState (callKey surroundings request) .unknown
      (keeps_nil _)
    have silent : SendsNothing world (afterCall config surroundings caller request world) := by
      intro other key
      rw [afterCall_refused surroundings caller world refuses]
      exact dispatchedBy_wrote
    rw [afterCall_refused surroundings caller world refuses] at silent ⊢
    constructor
    · rintro ⟨⟨keptMemory, keptStore⟩, -⟩ -
      exact ⟨keptMemory.symm.trans memory, keptStore.symm.trans store⟩
    · intro unknown
      exact ⟨⟨memory.trans (unknown refuses).1.symm, store.trans (unknown refuses).2.symm⟩,
        silent⟩
  · refine iff_of_true ?_ fun refused => absurd refused refuses
    by_cases ready : config.requireDurableState = true → world.ledger.healthy = true
    · have approved : config.requireApproval = true → request.approved = true := by
        intro required
        by_contra unapproved
        exact refuses ⟨ready, required, Bool.eq_false_iff.mpr unapproved⟩
      rw [afterCall_duplicate surroundings caller world ready approved
        (isDuplicate_of_settled (callKey_nonempty _ _) settled)]
      exact ⟨⟨rfl, rfl⟩, fun _ _ => dispatchedBy_checked⟩
    · rw [Classical.not_imp, Bool.not_eq_true] at ready
      rw [afterCall_blocked surroundings caller world ready]
      exact ⟨⟨rfl, rfl⟩, fun _ _ => Iff.rfl⟩

end Call

/-- An engine that requires approval, and a ledger on which it has filled an order. -/
def guardedConfig : EngineConfig :=
  { Sample.config with requireApproval := true }

/-- The state after an approved order has been filled and confirmed. -/
def confirmedWorld : World :=
  afterCall guardedConfig Sample.surroundings 0
    { Sample.request with approvalToken := some "risk-gate" }
    (World.start (Ledger.boot Sample.file none))

/-- A call without approval takes a confirmed position back to the unknown state. -/
theorem unapproved_call_overwrites :
    confirmedWorld.ledger.memoryState "order-1" =
        some (.str OrderState.positionConfirmed.value) ∧
      Settled confirmedWorld.ledger (callKey Sample.surroundings Sample.request) ∧
      (afterCall guardedConfig Sample.surroundings 1 Sample.request
        confirmedWorld).ledger.memoryState "order-1" = some (.str OrderState.unknown.value) ∧
      ¬ StateKept "order-1" confirmedWorld
        (afterCall guardedConfig Sample.surroundings 1 Sample.request confirmedWorld) := by
  have settled : confirmedWorld.ledger.memoryBeyond "order-1" = true := by decide +kernel
  have before : confirmedWorld.ledger.memoryState "order-1" =
      some (.str OrderState.positionConfirmed.value) := by decide +kernel
  have after : (afterCall guardedConfig Sample.surroundings 1 Sample.request
      confirmedWorld).ledger.memoryState "order-1" =
        some (.str OrderState.unknown.value) := by decide +kernel
  refine ⟨before, .inl settled, after, fun kept => ?_⟩
  have same := kept.1
  rw [before, after] at same
  exact absurd same (by decide)

/-- An approved call with the key of the confirmed position leaves it alone. -/
theorem settled_order_kept_iff_sample :
    StateKept (callKey Sample.surroundings Sample.request) confirmedWorld
        (afterCall Sample.config Sample.surroundings 1 Sample.request confirmedWorld) ∧
      SendsNothing confirmedWorld
        (afterCall Sample.config Sample.surroundings 1 Sample.request confirmedWorld) :=
  (settled_order_kept_iff Sample.surroundings 1 (.inl (by decide +kernel))).mpr
    fun refuses => absurd refuses.2.1 (by decide)

end EaBot.Execution
