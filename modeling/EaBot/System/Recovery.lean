import EaBot.Foundation.Answer
import EaBot.Foundation.Dict
import EaBot.Foundation.Json

/-!
# Checkpoints and recovery

The state of the system is saved to one file, domain by domain, and a restart reads it back,
asks the broker and decides whether the system is ready.  A file that cannot be read counts as
an empty state.

The file stands here for the value that it holds.  The calls into the broker and the other
parts are given, and the reconciliation may change the state that it is handed.
-/

namespace EaBot.System

open EaBot.Foundation

/-- The latched fields of the risk state. -/
def latchedRiskFields : List String :=
  ["daily_loss", "drawdown", "consecutive_losses", "halted", "halt_reason"]

/-- The persisted domains. -/
def stateDomains : List String :=
  ["system_state", "market_state", "decision_state", "order_state", "position_state",
    "risk_state", "circuit_breaker_state", "strategy_state", "scheduler_state"]

/-- The state of one domain. -/
abbrev DomainState : Type :=
  Dict String Json

/-- The state of the domains. -/
abbrev Checkpoint : Type :=
  Dict String DomainState

namespace Checkpoint

/-- The state of a domain, empty when it is missing. -/
def domain (checkpoint : Checkpoint) (name : String) : DomainState :=
  (checkpoint.get name).getD Dict.empty

/-- The domains, each with a state. -/
def build (state : String → DomainState) : Checkpoint :=
  Dict.empty.update (stateDomains.map fun name => (name, state name))

end Checkpoint

/-- What a file holds.  Reading one that is nested too deep raises an error that is not one of
the file or of its text. -/
inductive CheckpointFile
  | missing
  | holds (value : Json)
  | unreadable
  | tooDeep

/-- The store of the checkpoints. -/
structure CheckpointStore where
  state : Checkpoint
  file : CheckpointFile

namespace CheckpointStore

/-- A store whose file does not exist. -/
def initial : CheckpointStore :=
  ⟨Dict.empty, .missing⟩

/-- The state of a domain in an object that was read. -/
def domainRead (raw : List (String × Json)) (name : String) : DomainState :=
  match Json.get raw name with
  | some (.obj value) => Dict.empty.update value
  | _ => Dict.empty

/-- Read the checkpoint back. -/
def load (store : CheckpointStore) : Answer Checkpoint :=
  let empty := Checkpoint.build fun _ => Dict.empty
  match store.file with
  | .missing | .unreadable => .value empty
  | .tooDeep => .raised "maximum recursion depth exceeded while decoding a JSON array"
  | .holds (.obj raw) => .value (Checkpoint.build (domainRead raw))
  | .holds _ => .value empty

/-- What is written of a checkpoint. -/
def written (state : Checkpoint) : Json :=
  .obj (stateDomains.map fun name => (name, .obj (Checkpoint.domain state name).entries))

/-- Save a checkpoint.  A file that cannot be written stays as it is. -/
def save (store : CheckpointStore) (state : Checkpoint) (writes : Bool) : CheckpointStore :=
  ⟨Checkpoint.build (Checkpoint.domain state),
    if writes then .holds (written state) else store.file⟩

/-- Take over one incoming field.  A latched field stays as it was restored. -/
def mergeField (restored merged : DomainState) (entry : String × Json) : DomainState :=
  if entry.1 ∈ latchedRiskFields then
    if restored.contains entry.1 then merged else merged.set entry.1 entry.2
  else merged.set entry.1 entry.2

/-- Merge an incoming risk state onto a restored one. -/
def mergeRiskState (restored incoming : DomainState) : DomainState :=
  incoming.entries.foldl (mergeField restored) restored

end CheckpointStore

/-- The outcome of a recovery. -/
inductive RecoveryStatus
  | ready | degraded | halted
deriving DecidableEq

namespace RecoveryStatus

/-- The name of an outcome. -/
def value : RecoveryStatus → String
  | ready => "ready"
  | degraded => "degraded"
  | halted => "halted"

end RecoveryStatus

/-- What a recovery reports. -/
structure RecoveryResult where
  status : RecoveryStatus
  steps : List String
  halted : Bool
  degraded : Bool
  reason : Json
  riskState : DomainState
  openPositions : Int
  reconciliationOk : Bool
  mt5Connected : Bool

/-- The calls that a recovery makes.  Each answers with what its result counts as. -/
structure RecoveryCoordinator where
  checkMt5 : Answer Bool
  queryBrokerPositions : Answer Int
  reconcile : Checkpoint → Int → Answer Bool × Checkpoint
  restoreStrategyVersion : Option (DomainState → Answer Unit)
  restoreCircuitBreaker : Option (DomainState → Answer Bool)

namespace RecoveryCoordinator

/-- The open positions, a negative number when the broker cannot be asked. -/
def openPositions (coordinator : RecoveryCoordinator) : Answer Int :=
  match coordinator.queryBrokerPositions with
  | .value count => .value count
  | .raised _ => .value (-1)
  | .interrupted => .interrupted

/-- Compare the state with the broker.  What the reconciliation does to the state stays. -/
def reconciled (coordinator : RecoveryCoordinator) (mt5Connected : Bool) (openPositions : Int)
    (state : Checkpoint) : Answer (Bool × Checkpoint) :=
  if mt5Connected ∧ 0 ≤ openPositions then
    match coordinator.reconcile state openPositions with
    | (.value ok, state) => .value (ok, state)
    | (.raised _, state) => .value (false, state)
    | (.interrupted, _) => .interrupted
  else .value (false, state)

/-- The risk state with a value for every latched field. -/
def restoredRisk (state : Checkpoint) : DomainState :=
  latchedRiskFields.foldl (fun risk name =>
    if risk.contains name then risk
    else risk.set name (if name ≠ "halted" then .number (.ofNat 0) else .bool false))
    (Checkpoint.domain state "risk_state")

/-- Restore the version of the strategy. -/
def strategyRestored (coordinator : RecoveryCoordinator) (state : Checkpoint) : Answer Unit :=
  match coordinator.restoreStrategyVersion with
  | none => .value ()
  | some restore =>
      match restore (Checkpoint.domain state "strategy_state") with
      | .value _ | .raised _ => .value ()
      | .interrupted => .interrupted

/-- Restore the circuit breaker. -/
def breakerRestored (coordinator : RecoveryCoordinator) (state : Checkpoint) : Answer Bool :=
  match coordinator.restoreCircuitBreaker with
  | none => .value true
  | some restore =>
      match restore (Checkpoint.domain state "circuit_breaker_state") with
      | .value ok => .value ok
      | .raised _ => .value false
      | .interrupted => .interrupted

/-- The value of a field, null when it is missing. -/
def fieldOf (risk : DomainState) (name : String) : Json :=
  (risk.get name).getD .null

/-- Decide on the outcome. -/
def decided (risk : DomainState) (openPositions : Int)
    (mt5Connected reconciliationOk breakerOk : Bool) : RecoveryResult :=
  let halted := (fieldOf risk "halted").truthy || !breakerOk
  let degraded := !mt5Connected || !reconciliationOk
  let status : RecoveryStatus := if halted then .halted else if degraded then .degraded else .ready
  let reason : Json :=
    if halted then
      if (fieldOf risk "halt_reason").truthy then fieldOf risk "halt_reason"
      else .str "halted state carried across restart"
    else if degraded then
      if !mt5Connected then .str "MT5 not connected after restart"
      else .str "reconciliation mismatch after restart"
    else .str "recovered cleanly"
  { status := status
    steps := ["start", "load_checkpoint", "check_mt5", "query_broker", "reconcile",
      "restore_risk_state", "restore_strategy_version", "restore_circuit_breaker", status.value]
    halted := halted
    degraded := degraded
    reason := reason
    riskState := risk
    openPositions := max openPositions 0
    reconciliationOk := reconciliationOk
    mt5Connected := mt5Connected }

/-- Run the recovery. -/
def recover (coordinator : RecoveryCoordinator) (store : CheckpointStore) :
    Answer RecoveryResult := do
  let loaded ← store.load
  let mt5Connected ← coordinator.checkMt5
  let openPositions ← coordinator.openPositions
  let (reconciliationOk, state) ← coordinator.reconciled mt5Connected openPositions loaded
  let risk := restoredRisk state
  coordinator.strategyRestored state
  let breakerOk ← coordinator.breakerRestored state
  pure (decided risk openPositions mt5Connected reconciliationOk breakerOk)

end RecoveryCoordinator

end EaBot.System
