import EaBot.Execution.Fanout
import EaBot.Orchestration.Proposal
import EaBot.Orchestration.SignalRegistry
import EaBot.Risk.Gate

/-!
# What a decision cycle works on

The parts that are injected into the pipeline are fields of the cycle's inputs: a
supervisor, a risk gate, guards, an order builder and an execution path, each of which
may answer anything or raise.  A cycle under way carries its result, what the pipeline
remembers, and what it has dispatched.  A cycle that an exception breaks off ends with
its text.
-/

namespace EaBot.Orchestration

open EaBot.Execution EaBot.Foundation

/-! ## What a cycle says -/

/-- How a cycle came out. -/
inductive PipelineStatus
  | executed
  | blocked
  | noTrade
  | wait
  | error
  | signalPending
  | staleMarketData
deriving DecidableEq

/-- How a stage came out. -/
inductive StageStatus
  | ok
  | skipped
  | blocked
  | error
deriving DecidableEq

/-- An entry of the trace. -/
structure PipelineStage where
  stage : String
  status : StageStatus
  detail : String

/-- The decision of the risk gate. -/
structure GateDecision where
  approved : Bool
  reason : String

/-- The decision that the checks of the gate come to. -/
def GateDecision.ofChecks (checks : Risk.GateChecks) : GateDecision :=
  ⟨checks.approved, checks.reason⟩

/-- The order that was sent, with the gate's word on it when it was asked again. -/
structure FinalOrder where
  symbol : String
  direction : String
  volume : ℚ
  price : ℚ
  stopLoss : ℚ
  takeProfit : ℚ
  idempotencyKey : String
  verdict : Option GateDecision

/-- What an execution path answers. -/
structure ExecutionReply where
  success : Bool
  ticket : Val
  errorCode : Val
  errorMessage : Val

/-- The risk policy that a signal is issued under. -/
structure RiskPolicy where
  riskPct : ℚ
  maxLotPerTrade : ℚ
  singleEntryPolicy : Bool

/-- What a signal says. -/
structure SignalTerms where
  opportunityId : String
  symbol : String
  direction : String
  entryReference : ℚ
  initialSL : ℚ
  initialTP : ℚ
  plannedRR : ℚ
  riskPolicy : RiskPolicy
  strategyVersion : String

/-- The time, the evidence hash and the derived identifier of a signal. -/
structure SignalStamp where
  createdAt : String
  evidenceHash : String
  derivedId : String

/-- A signal that every account receives alike. -/
structure CanonicalSignal where
  signalId : String
  terms : SignalTerms
  createdAt : String
  evidenceHash : String

/-- The proposal that goes to the accounts together with a signal. -/
structure RawProposal where
  volume : ℚ
  magic : Int
  comment : String
  marketQuote : Record

/-- An order on its way to the broker. -/
inductive Dispatch
  | single (order : OrderRequest)
  | terminals (order : OrderRequest) (riskPrice tpPrice : ℚ)
  | accounts (signal : CanonicalSignal) (raw : RawProposal)

/-- The magic number that a dispatched order carries. -/
def Dispatch.magic : Dispatch → Int
  | single order => order.magic
  | terminals order _ _ => order.magic
  | accounts _ raw => raw.magic

/-- The result of a cycle. -/
structure PipelineResult where
  eventId : String
  decision : String
  status : PipelineStatus
  decisionId : String
  proposalId : String
  executionId : String
  clientOrderId : String
  riskApproved : Bool
  riskReason : String
  executed : Bool
  executionResult : Option ExecutionReply
  stages : List PipelineStage
  error : Option String
  confidence : ℚ
  summary : String
  symbol : String
  canonicalSignal : Option CanonicalSignal
  signalId : String
  fanout : Option Record
  finalOrder : Option FinalOrder

/-! ## What a cycle meets -/

/-- The settings of the pipeline. -/
structure PipelineConfig where
  pendingSignalGuard : Bool
  freshnessGateEnabled : Bool
  singleEntryPolicy : Bool
  entryMagic : Int
  entryCooldownS : ℚ
  entryMinDistanceAtr : Number
  htfFilterEnabled : Bool
  htfMinStrength : Number
  maxLotPerTrade : ℚ

/-- The last entry of a symbol that was executed. -/
structure LastEntry where
  price : ℚ
  ts : ℚ

/-- What the pipeline remembers between two cycles. -/
structure PipelineState where
  registry : SignalRegistry
  lastEntries : Dict String LastEntry

/-- What is read of the canonical decision chain. -/
structure CanonicalDecision where
  hasCriticalConflicts : Bool
  currentState : Val
  rationale : Val

/-- The parameters of the active strategy. -/
structure Strategy where
  version : String
  minConfidence : ℚ

/-- A guard lets orders through, if there is one. -/
def Allows (guard : Option (Except String (Bool × String))) : Prop :=
  ∀ answer, guard = some answer → ∃ reason, answer = .ok (true, reason)

/-- On what the risk gate is asked. -/
inductive GateReview
  | proposal
  | finalOrder

/-- The levels of an entry at a zone. -/
structure ZonePlan where
  entry : Val
  stopLoss : Val
  takeProfit : Val

/-- An execution engine.  Not every one of them can fan out. -/
structure Engine where
  executeOrder : OrderRequest → Except String ExecutionReply
  executeOrderFanout : Option (OrderRequest → ℚ → ℚ → Except String FanoutResult)

/-- The way an order is executed. -/
inductive ExecutionRoute
  | coordinator (fanOut : CanonicalSignal → RawProposal → Except String Record)
  | engine (engine : Engine)

/-- Identifiers that are generated during a cycle. -/
structure FreshIds where
  event : String
  decision : String
  proposal : String
  clientOrder : String
  execution : String

/-- The instants at which a cycle reads a clock. -/
structure CycleClock where
  convened : ℚ
  opened : ℚ
  guarded : ℚ
  entered : ℚ
  marked : ℚ

/-- What one cycle meets. -/
structure CycleInputs where
  eventId : Val
  eventSymbol : Val
  contextSymbol : Val
  staleReason : Except String String
  context : AnalysisContext
  supervisor : AnalysisContext → Except String Analysis
  decisionChain : Analysis → Option CanonicalDecision
  strategy : Strategy
  complete : ValidationInputs → GateProposal
  riskGate : GateReview → ValidationInputs → Except String GateDecision
  dependencyGuard : Option (Except String (Bool × String))
  reconciliationGuard : Option (Except String (Bool × String))
  readinessGuard : Option (Except String (Bool × String))
  zoneEntryEnabled : Bool
  zoneEntryGate : Option (Record → ValidationInputs → Option ZonePlan × String)
  orderBuilder : Record → Record → Except String OrderRequest
  executionEngine : Option Engine
  fanoutEnabled : Bool
  armedTerminals : Nat
  fanoutCoordinator : Option (CanonicalSignal → RawProposal → Except String Record)
  stamp : SignalTerms → SignalStamp
  ids : FreshIds
  clock : CycleClock
  render : ℚ → String

namespace CycleInputs

/-- The identifier of the event. -/
def event (inputs : CycleInputs) : String :=
  (inputs.eventId.orElse (.str inputs.ids.event)).text

/-- The traded symbol. -/
def symbol (inputs : CycleInputs) : String :=
  let found := inputs.eventSymbol.orElse inputs.contextSymbol
  if found.truthy then found.text else ""

/-- The configured way; a fan-out coordinator comes before an engine. -/
def route (inputs : CycleInputs) : Option ExecutionRoute :=
  match inputs.fanoutCoordinator, inputs.executionEngine with
  | some fanOut, _ => some (.coordinator fanOut)
  | none, some engine => some (.engine engine)
  | none, none => none

end CycleInputs

/-! ## The course of a cycle -/

/-- A cycle under way: its result so far, what the pipeline remembers, whether a signal
has been opened, and what has been dispatched. -/
structure DecisionCycle where
  result : PipelineResult
  state : PipelineState
  signalOpened : Bool
  dispatches : List Dispatch

/-- A cycle that is over.  An exception that nothing has caught ends it with its
text. -/
structure PipelineOutcome where
  cycle : DecisionCycle
  raised : Option String

/-- What becomes of a signal. -/
inductive SignalAction
  | opened (ticket : Val)
  | executing
  | failed
  | skipped
  | closed

/-- Whether a cycle of a symbol writes to the signal registry. -/
def TradingPipeline.guarded (config : PipelineConfig) (inputs : CycleInputs) : Bool :=
  config.pendingSignalGuard && inputs.symbol ≠ ""

namespace DecisionCycle

/-- Add an entry to the trace. -/
def addStage (cycle : DecisionCycle) (stage : String) (status : StageStatus)
    (detail : String) : DecisionCycle :=
  { cycle with
    result := { cycle.result with stages := cycle.result.stages ++ [⟨stage, status, detail⟩] } }

/-- The cycle returns its result. -/
def returned (cycle : DecisionCycle) : PipelineOutcome :=
  ⟨cycle, none⟩

/-- An exception breaks the cycle off. -/
def brokenOff (cycle : DecisionCycle) (raised : String) : PipelineOutcome :=
  ⟨cycle, some raised⟩

/-- Say in the registry what became of the signal. -/
def markSignal (config : PipelineConfig) (inputs : CycleInputs) (cycle : DecisionCycle)
    (action : SignalAction) (reason : String) : DecisionCycle :=
  if TradingPipeline.guarded config inputs then
    let registry := cycle.state.registry
    let now := inputs.clock.marked
    let marked :=
      match action with
      | .opened ticket => registry.markOpen inputs.symbol ticket reason now
      | .executing => registry.markExecuting inputs.symbol reason now
      | .failed => registry.markFailed inputs.symbol reason now
      | .skipped => registry.markSkipped inputs.symbol reason now
      | .closed => registry.markClosed inputs.symbol reason now
    { cycle with state := { cycle.state with registry := marked } }
  else cycle

/-- The result while an error is recorded. -/
def fail (cycle : DecisionCycle) (error stage detail : String) : DecisionCycle :=
  { cycle with result := { cycle.result with status := .error, error := some error } }.addStage
    stage .error detail

end DecisionCycle

/-- The cycle at its start. -/
def startCycle (inputs : CycleInputs) (state : PipelineState) : DecisionCycle where
  result :=
    { eventId := inputs.event, decision := "NO_TRADE", status := .noTrade,
      decisionId := inputs.ids.decision, proposalId := "", executionId := "",
      clientOrderId := "", riskApproved := false, riskReason := "", executed := false,
      executionResult := none, stages := [], error := none, confidence := 0, summary := "",
      symbol := inputs.symbol, canonicalSignal := none, signalId := "", fanout := none,
      finalOrder := none }
  state := state
  signalOpened := false
  dispatches := []

end EaBot.Orchestration
