import EaBot.Foundation.Stage
import EaBot.Orchestration.DecisionCycle

/-!
# The decision cycle

One cycle takes an event through the pending-signal gate, the supervisor, the risk
gate, the guards and the execution.  A proposal that is to be acted upon opens the
signal of its symbol; from there on every way out of the cycle has to say what became
of the signal.
-/

namespace EaBot.Orchestration

open EaBot.Execution EaBot.Foundation

namespace TradingPipeline

/-! ## Before a signal is opened -/

/-- A symbol whose signal is live, or has just failed, is not analysed again. -/
def pendingGate (config : PipelineConfig) (inputs : CycleInputs) (cycle : DecisionCycle) :
    Stage PipelineOutcome DecisionCycle :=
  if guarded config inputs then
    let registry := cycle.state.registry
    let verdict := registry.shouldConvene inputs.symbol inputs.clock.convened
    if verdict.1 then .proceed cycle
    else
      let decision :=
        match registry.get inputs.symbol with
        | none => "WAIT"
        | some existing =>
            Text.upper (if existing.direction = "" then "WAIT" else existing.direction)
      let result :=
        { cycle.result with
          decision := decision, status := .signalPending, riskReason := verdict.2,
          summary := verdict.2 }
      .leave ((({ cycle with result := result }.addStage "supervisor" .skipped verdict.2).addStage
        "risk" .skipped "signal sudah aktif").addStage
        "execution" .skipped "signal sudah aktif").returned
  else .proceed cycle

/-- The reason to reject the market data; a check that raises rejects it. -/
def freshnessReason (config : PipelineConfig) (inputs : CycleInputs) : String :=
  if config.freshnessGateEnabled then
    match inputs.staleReason with
    | .ok reason => reason
    | .error raised => "freshness_gate_error:" ++ raised
  else ""

/-- Stale market data never reaches the supervisor. -/
def freshnessGate (config : PipelineConfig) (inputs : CycleInputs) (cycle : DecisionCycle) :
    Stage PipelineOutcome DecisionCycle :=
  if freshnessReason config inputs = "" then .proceed cycle
  else
    let reason := freshnessReason config inputs
    let result :=
      { cycle.result with
        decision := "WAIT", status := .staleMarketData, riskReason := reason,
        summary := reason }
    .leave (((({ cycle with result := result }.addStage "freshness" .blocked reason).addStage
      "supervisor" .skipped "data pasar basi").addStage "risk" .skipped
      "data pasar basi").addStage "execution" .skipped "data pasar basi").returned

/-- Ask the supervisor. -/
def analyse (inputs : CycleInputs) (cycle : DecisionCycle) :
    Stage PipelineOutcome (Analysis × DecisionCycle) :=
  match inputs.supervisor inputs.context with
  | .error raised =>
      let result :=
        { cycle.result with
          decision := "WAIT", status := .wait, error := some ("supervisor error: " ++ raised) }
      .leave ({ cycle with result := result }.addStage "supervisor" .error raised).returned
  | .ok analysis =>
      let heard := cycle.addStage "supervisor" .ok "analysis complete"
      let result :=
        { heard.result with
          confidence := analysis.overallConfidence.toFloat.toOption.getD 0
          summary := (analysis.summary.orElse (.str "")).text }
      .proceed (analysis, { heard with result := result })

/-- The reason for which the canonical decision blocks a trade. -/
def canonicalBlockReason : Option CanonicalDecision → String
  | none => ""
  | some canonical =>
      let state := Text.upper (canonical.currentState.orElse (.str "")).text
      let detail := Text.strip (canonical.rationale.orElse (.str "")).text
      if canonical.hasCriticalConflicts then
        "canonical: unresolved HIGH/CRITICAL conflict — WAIT (no automatic trade)"
      else if state = "REJECTED" ∨ state = "EXPIRED" then
        "canonical: state " ++ state ++ (if detail = "" then "" else " (" ++ detail ++ ")")
      else ""

/-- The way out of a cycle without a proposal to act upon. -/
def noTrade (analysis : Analysis) (cycle : DecisionCycle) : PipelineOutcome :=
  let decision := noTradeDecision analysis
  let result :=
    { cycle.result with
      decision := decision, status := if decision = "WAIT" then .wait else .noTrade,
      riskReason := "no actionable proposal" }
  (({ cycle with result := result }.addStage "risk" .skipped "no proposal to validate").addStage
    "execution" .skipped "no approved order").returned

/-- Find the proposal to act upon. -/
def propose (inputs : CycleInputs) (analysis : Analysis) (cycle : DecisionCycle) :
    Stage PipelineOutcome (Record × DecisionCycle) :=
  match extractProposal analysis with
  | none => .leave (noTrade analysis cycle)
  | some proposal =>
      match isActionable inputs.strategy.minConfidence proposal with
      | .error raised => .leave (cycle.brokenOff raised)
      | .ok false => .leave (noTrade analysis cycle)
      | .ok true =>
          let block := canonicalBlockReason (inputs.decisionChain analysis)
          if block = "" then
            let proposalId :=
              ((proposal.get "proposal_id").getD .none).orElse (.str inputs.ids.proposal)
            let result :=
              { cycle.result with
                decision := directionOf proposal, proposalId := proposalId.text }
            .proceed (proposal, { cycle with result := result })
          else
            let result :=
              { cycle.result with
                decision := "WAIT", status := .wait, riskReason := block, summary := block }
            .leave ((({ cycle with result := result }.addStage "canonical" .blocked block).addStage
              "risk" .skipped "canonical decision not validated").addStage
              "execution" .skipped "canonical decision not validated").returned

/-- The price levels that a proposal names. -/
def levelsOf (proposal : Record) : Levels :=
  let level (name : String) := ((proposal.get name).getD .none).toFloat.toOption
  ⟨level "entry", level "sl", level "tp1", level "tp2", level "tpmax"⟩

/-- Open the signal of the symbol. -/
def openSignal (config : PipelineConfig) (inputs : CycleInputs) (proposal : Record)
    (cycle : DecisionCycle) : DecisionCycle :=
  if guarded config inputs then
    let opened := cycle.state.registry.openSignal inputs.symbol cycle.result.decision
      cycle.result.confidence (levelsOf proposal) cycle.result.proposalId inputs.clock.opened
    { cycle with state := { cycle.state with registry := opened }, signalOpened := true }
  else cycle

/-! ## Vetoes and gates -/

/-- An entry that fights the bias of a higher timeframe is vetoed. -/
def htfFilter (config : PipelineConfig) (inputs : CycleInputs) (proposal : Record)
    (cycle : DecisionCycle) : Stage PipelineOutcome DecisionCycle :=
  match htfBiasVeto config.htfFilterEnabled config.htfMinStrength proposal inputs.context with
  | none => .proceed cycle
  | some veto =>
      let result :=
        { cycle.result with decision := "WAIT", status := .noTrade, riskReason := veto }
      .leave (((({ cycle with result := result }.addStage "risk" .skipped
        "HTF bias veto (multi-timeframe)").addStage "execution" .skipped
        "no approved order").markSignal config inputs .skipped ("HTF veto: " ++ veto)).returned)

/-- Read the proposal into the inputs of the risk gate. -/
def readInputs (inputs : CycleInputs) (proposal : Record) (cycle : DecisionCycle) :
    Stage PipelineOutcome ValidationInputs :=
  match buildValidationInputs inputs.complete proposal inputs.context with
  | .error raised => .leave (cycle.brokenOff raised)
  | .ok validation => .proceed validation

/-- Ask the risk gate. -/
def passRiskGate (config : PipelineConfig) (inputs : CycleInputs) (validation : ValidationInputs)
    (cycle : DecisionCycle) : Stage PipelineOutcome DecisionCycle :=
  match inputs.riskGate .proposal validation with
  | .error raised =>
      let reason := "risk error: " ++ raised
      let result :=
        { cycle.result with
          riskApproved := false, status := .blocked, riskReason := reason,
          error := some reason }
      .leave (({ cycle with result := result }.addStage "risk" .error raised).addStage
        "execution" .skipped "risk did not approve").returned
  | .ok decision =>
      let result :=
        { cycle.result with riskApproved := decision.approved, riskReason := decision.reason }
      if decision.approved then
        .proceed ({ cycle with result := result }.addStage "risk" .ok decision.reason)
      else
        .leave (((({ cycle with result := { result with status := .blocked } }.addStage
          "risk" .blocked decision.reason).addStage "execution" .skipped
          "risk did not approve").markSignal config inputs .skipped
          ("ditolak risk gate: " ++ decision.reason)).returned)

/-- The words of a guard. -/
structure GuardTexts where
  stage : String
  raised : String
  blocked : String
  healthy : String
  execution : String
  label : String

/-- The answer of a guard; a guard that raises blocks. -/
def guardAnswer (texts : GuardTexts) : Except String (Bool × String) → Bool × String
  | .ok answer => answer
  | .error raised => (false, texts.raised ++ raised)

/-- Ask a guard whether an order may be executed. -/
def passGuard (texts : GuardTexts) (guard : Option (Except String (Bool × String)))
    (config : PipelineConfig) (inputs : CycleInputs) (cycle : DecisionCycle) :
    Stage PipelineOutcome DecisionCycle :=
  match guard with
  | none => .proceed cycle
  | some answer =>
      let verdict := guardAnswer texts answer
      if verdict.1 then .proceed (cycle.addStage texts.stage .ok texts.healthy)
      else
        let reason := if verdict.2 = "" then texts.blocked else verdict.2
        let result :=
          { cycle.result with status := .blocked, riskReason := reason, error := some reason }
        .leave (((({ cycle with result := result }.addStage texts.stage .blocked reason).addStage
          "execution" .skipped texts.execution).markSignal config inputs .skipped
          (texts.label ++ reason)).returned)

/-- The guard of the dependencies that execution needs. -/
def passDependencyGuard (config : PipelineConfig) (inputs : CycleInputs) (cycle : DecisionCycle) :
    Stage PipelineOutcome DecisionCycle :=
  passGuard ⟨"dependency_guard", "dependency guard error: ",
    "execution blocked by dependency guard", "execution-critical deps healthy",
    "dependency guard blocked", "dependency guard: "⟩ inputs.dependencyGuard config inputs cycle

/-- The guard of the reconciliation. -/
def passReconciliationGuard (config : PipelineConfig) (inputs : CycleInputs)
    (cycle : DecisionCycle) : Stage PipelineOutcome DecisionCycle :=
  passGuard ⟨"reconciliation", "reconciliation guard error: ",
    "execution blocked by reconciliation", "internal state matches MT5",
    "reconciliation blocked", "reconciliation: "⟩ inputs.reconciliationGuard config inputs cycle

/-- The guard of the recovery after a restart. -/
def passReadinessGuard (config : PipelineConfig) (inputs : CycleInputs) (cycle : DecisionCycle) :
    Stage PipelineOutcome DecisionCycle :=
  passGuard ⟨"readiness", "readiness guard error: ",
    "execution blocked — restart recovery pending", "restart recovery reconciled",
    "restart recovery not ready", "readiness: "⟩ inputs.readinessGuard config inputs cycle

/-- The ticket of an own position that the one-entry policy waits for. -/
def blockingTicket (config : PipelineConfig) (validation : ValidationInputs) : Option String :=
  if config.singleEntryPolicy then
    ownPositionTicket config.entryMagic validation.currentPositions
  else none

/-- One position at a time. -/
def singleEntry (config : PipelineConfig) (inputs : CycleInputs) (validation : ValidationInputs)
    (cycle : DecisionCycle) : Stage PipelineOutcome DecisionCycle :=
  match blockingTicket config validation with
  | none => .proceed cycle
  | some ticket =>
      let reason := "kebijakan satu entry: posisi #" ++ ticket ++ " masih terbuka"
      let result := { cycle.result with status := .blocked, riskReason := reason }
      .leave (((({ cycle with result := result }.addStage "single_entry" .blocked reason).addStage
        "execution" .skipped "single entry policy").markSignal config inputs .skipped
        ("single-entry: posisi #" ++ ticket ++ " terbuka")).returned)

/-- The reason to wait after the last entry of the symbol. -/
def entryGuardReason (config : PipelineConfig) (inputs : CycleInputs)
    (lastEntries : Dict String LastEntry) (validation : ValidationInputs) : Option String :=
  let key := Text.upper inputs.symbol
  if key = "" then none
  else
    match lastEntries.get key with
    | none => none
    | some last =>
        let remaining := config.entryCooldownS - (inputs.clock.guarded - last.ts)
        let atr := inputs.context.evidenceAtr
        let newPrice := entryPriceOf validation
        let distance := |newPrice - last.price|
        let minDist := config.entryMinDistanceAtr.value * atr
        if 0 < config.entryCooldownS ∧ 0 < remaining then
          some ("entry cooldown: " ++ toString (Text.roundHalfEven remaining) ++ "s left for " ++
            key)
        else if 0 < config.entryMinDistanceAtr.value ∧ 0 < atr ∧ 0 < last.price ∧
            0 < newPrice ∧ distance < minDist then
          some ("jarak entry terlalu dekat: " ++ Text.fixed 5 distance ++ " < " ++
            Text.fixed 5 minDist ++ " (" ++ config.entryMinDistanceAtr.shown ++ "xATR)")
        else none

/-- Wait after the last entry of the symbol. -/
def entryGuard (config : PipelineConfig) (inputs : CycleInputs) (validation : ValidationInputs)
    (cycle : DecisionCycle) : Stage PipelineOutcome DecisionCycle :=
  match entryGuardReason config inputs cycle.state.lastEntries validation with
  | none => .proceed cycle
  | some reason =>
      let result := { cycle.result with status := .blocked, riskReason := reason }
      .leave (((({ cycle with result := result }.addStage "entry_cooldown" .blocked
        reason).addStage "execution" .skipped "entry cooldown guard").markSignal config inputs
        .skipped reason).returned)

/-- The proposal with the levels of a zone. -/
def atZone (proposal : Record) (plan : ZonePlan) : Record :=
  ((proposal.set "entry_price" plan.entry).set "stop_loss" plan.stopLoss).set "take_profit"
    plan.takeProfit

/-- What the zone gate says to a proposal: the proposal to go on with, or the reason to
wait. -/
def zoneAnswer (inputs : CycleInputs) (proposal : Record) (validation : ValidationInputs) :
    Except String (Record × Bool) :=
  match inputs.zoneEntryGate with
  | none => .ok (proposal, false)
  | some gate =>
      if inputs.zoneEntryEnabled then
        match gate proposal validation with
        | (none, reason) => .error reason
        | (some plan, _) => .ok (atZone proposal plan, true)
      else .ok (proposal, false)

/-- Wait until the price is at its zone. -/
def zoneEntry (config : PipelineConfig) (inputs : CycleInputs) (proposal : Record)
    (validation : ValidationInputs) (cycle : DecisionCycle) :
    Stage PipelineOutcome (Record × DecisionCycle) :=
  match zoneAnswer inputs proposal validation with
  | .ok (proposal, false) => .proceed (proposal, cycle)
  | .ok (proposal, true) =>
      .proceed (proposal, (cycle.addStage "zone_entry" .ok "harga di zona OB/FVG").addStage
        "entry_stage" .ok "ENTRY_ARMED → ENTRY_TRIGGERED (trigger terkonfirmasi)")
  | .error wait =>
      let reason := "entry OB/FVG: " ++ wait
      let result := { cycle.result with status := .blocked, riskReason := reason }
      .leave ((((({ cycle with result := result }.addStage "entry_stage" .blocked
        ("SETUP_VALID → ENTRY_ARMED pending: " ++ wait)).addStage "zone_entry" .blocked
        reason).addStage "execution" .skipped "menunggu zona entry").markSignal config inputs
        .skipped ("menunggu zona OB/FVG: " ++ wait)).returned)

/-! ## Execution -/

/-- Find the way to execute. -/
def findRoute (inputs : CycleInputs) (cycle : DecisionCycle) :
    Stage PipelineOutcome ExecutionRoute :=
  match inputs.route with
  | some route => .proceed route
  | none =>
      .leave (cycle.fail "execution engine not configured" "execution"
        "execution engine not configured").returned

/-- The client order identifier of a proposal. -/
def clientOrderId (inputs : CycleInputs) (proposal : Record) : String :=
  ((firstOf proposal ["client_order_id", "idempotency_key"]).orElse
    (.str inputs.ids.clientOrder)).text

/-- The fields that the order builder is given. -/
def buildProposal (inputs : CycleInputs) (proposal : Record) (validation : ValidationInputs) :
    Record :=
  let number (value : ℚ) : Val := .num ⟨value, inputs.render value⟩
  Dict.empty.update [
    ("symbol", ((proposal.get "symbol").getD .none).orElse validation.proposal.symbol),
    ("order_type", .str (directionOf proposal)),
    ("volume", number validation.proposal.size),
    ("price", number validation.proposal.entryPrice),
    ("stop_loss", number validation.proposal.stopLoss),
    ("take_profit", number validation.proposal.takeProfit),
    ("comment", .str ("EA-Bot-" ++ directionOf proposal)),
    ("client_order_id", .str (clientOrderId inputs proposal))]

/-- Build the order of an approved proposal. -/
def buildOrder (inputs : CycleInputs) (proposal : Record) (validation : ValidationInputs)
    (cycle : DecisionCycle) : Stage PipelineOutcome (OrderRequest × DecisionCycle) :=
  match inputs.orderBuilder (buildProposal inputs proposal validation) validation.marketInfo with
  | .error raised =>
      let result := { cycle.result with clientOrderId := clientOrderId inputs proposal }
      .leave ({ cycle with result := result }.fail ("order build error: " ++ raised) "execution"
        raised).returned
  | .ok order =>
      .proceed (order,
        { cycle with
          result := { cycle.result with clientOrderId := clientOrderId inputs proposal } })

/-- Whether the order is the one that the gate has approved. -/
def unchanged (order : OrderRequest) (approved : GateProposal) : Bool :=
  let close (final given : ℚ) : Bool := |final - given| ≤ 1 / 10 ^ 9
  order.symbol = approved.symbol.text && close order.volume.value approved.size &&
    close order.price.value approved.entryPrice && close order.sl.value approved.stopLoss &&
    close order.tp.value approved.takeProfit

/-- The proposal that the gate is asked on again. -/
def finalProposal (order : OrderRequest) (approved : GateProposal) : GateProposal where
  symbol := (Val.str order.symbol).orElse (.str approved.symbol.text)
  direction := Text.upper (if order.orderType = "" then approved.direction else order.orderType)
  entryPrice := order.price.value
  stopLoss := order.sl.value
  takeProfit := order.tp.value
  size := order.volume.value
  riskPct := approved.riskPct
  details := Dict.empty

/-- What the gate says to the final order: nothing when the order is the approved one,
and otherwise its decision, or the reason for which it fails. -/
def finalVerdict (inputs : CycleInputs) (order : OrderRequest) (validation : ValidationInputs) :
    Except String (Option GateDecision) :=
  if unchanged order validation.proposal then .ok none
  else
    match inputs.riskGate .finalOrder
        { validation with proposal := finalProposal order validation.proposal } with
    | .error raised => .error ("final order risk error: " ++ raised)
    | .ok decision => .ok (some decision)

/-- The inputs with the values of the final order. -/
def adopt (order : OrderRequest) (validation : ValidationInputs) : ValidationInputs :=
  { validation with
    proposal :=
      { validation.proposal with
        size := order.volume.value, entryPrice := order.price.value,
        stopLoss := order.sl.value, takeProfit := order.tp.value } }

/-- The inputs with which an order goes on to execution, or the reason for which it does
not. -/
def revalidated (inputs : CycleInputs) (order : OrderRequest) (validation : ValidationInputs) :
    Except String ValidationInputs :=
  match finalVerdict inputs order validation with
  | .error reason => .error reason
  | .ok none => .ok validation
  | .ok (some decision) =>
      if decision.approved then .ok (adopt order validation)
      else
        .error ("final order ditolak risk gate: " ++
          (if decision.reason = "" then "rejected" else decision.reason))

/-- The order that was sent. -/
def finalOrder (inputs : CycleInputs) (order : OrderRequest) (validation : ValidationInputs) :
    FinalOrder where
  symbol := order.symbol
  direction := order.orderType
  volume := order.volume.value
  price := order.price.value
  stopLoss := order.sl.value
  takeProfit := order.tp.value
  idempotencyKey := order.idempotencyKey
  verdict :=
    match finalVerdict inputs order validation with
    | .ok verdict => verdict
    | .error _ => none

/-- The gate has to approve the very order that is sent. -/
def revalidateFinalOrder (config : PipelineConfig) (inputs : CycleInputs) (order : OrderRequest)
    (validation : ValidationInputs) (cycle : DecisionCycle) :
    Stage PipelineOutcome (ValidationInputs × DecisionCycle) :=
  let result := { cycle.result with finalOrder := some (finalOrder inputs order validation) }
  match revalidated inputs order validation with
  | .ok validation => .proceed (validation, { cycle with result := result })
  | .error reason =>
      let result := { result with status := .blocked, riskReason := reason }
      .leave (((({ cycle with result := result }.addStage "risk" .blocked reason).addStage
        "execution" .skipped "final order risk re-validation failed").markSignal config inputs
        .skipped ("final order ditolak: " ++ reason)).returned)

/-- The order with the gate's approval token. -/
def approve (inputs : CycleInputs) (order : OrderRequest) : OrderRequest :=
  { order with approvalToken := some ("gate:" ++ inputs.ids.decision) }

/-- Remember an executed entry. -/
def recordEntry (inputs : CycleInputs) (proposal : Record) (validation : ValidationInputs)
    (lastEntries : Dict String LastEntry) : Dict String LastEntry :=
  let key := Text.upper inputs.symbol
  let price :=
    if 0 < entryPriceOf validation then entryPriceOf validation
    else (numberOf proposal ["entry_price"]).toOption.getD 0
  if key = "" ∨ price ≤ 0 then lastEntries
  else lastEntries.set key ⟨price, inputs.clock.entered⟩

/-- The cycle after a fill: the entry is remembered and the signal is open. -/
def entered (config : PipelineConfig) (inputs : CycleInputs) (proposal : Record)
    (validation : ValidationInputs) (ticket : Val) (reason : String) (cycle : DecisionCycle) :
    DecisionCycle :=
  let lastEntries := recordEntry inputs proposal validation cycle.state.lastEntries
  { cycle with state := { cycle.state with lastEntries := lastEntries } }.markSignal config inputs
    (.opened ticket) reason

/-! ### Every account -/

/-- The reward of a trade for each unit of its risk. -/
def plannedRR (entry stopLoss takeProfit : ℚ) : ℚ :=
  let risk := if 0 < entry ∧ 0 < stopLoss then |entry - stopLoss| else 0
  let reward := if 0 < entry ∧ 0 < takeProfit then |takeProfit - entry| else 0
  if 0 < risk then reward / risk else 0

/-- The first text that is not empty. -/
def firstText (first second : String) : String :=
  if first = "" then second else first

/-- Build the signal that every account receives. -/
def buildCanonicalSignal (config : PipelineConfig) (inputs : CycleInputs) (analysis : Analysis)
    (decision : String) (validation : ValidationInputs) : CanonicalSignal :=
  let norm := validation.proposal
  let terms : SignalTerms :=
    { opportunityId := firstText inputs.event inputs.ids.decision,
      symbol := Text.upper (norm.symbol.orElse (.str inputs.symbol)).text,
      direction := Text.upper (firstText decision norm.direction),
      entryReference := norm.entryPrice, initialSL := norm.stopLoss,
      initialTP := norm.takeProfit,
      plannedRR := plannedRR norm.entryPrice norm.stopLoss norm.takeProfit,
      riskPolicy := ⟨norm.riskPct, config.maxLotPerTrade, config.singleEntryPolicy⟩,
      strategyVersion := inputs.strategy.version }
  let stamp := inputs.stamp terms
  { signalId := firstText analysis.committeeSignalId stamp.derivedId, terms := terms,
    createdAt := stamp.createdAt, evidenceHash := stamp.evidenceHash }

/-- The proposal that goes to the accounts. -/
def rawProposal (config : PipelineConfig) (signal : CanonicalSignal)
    (validation : ValidationInputs) : RawProposal where
  volume := validation.proposal.size
  magic := config.entryMagic
  comment := "EA-Bot-" ++ signal.terms.direction
  marketQuote := validation.marketInfo

/-- How many accounts a fan-out report names. -/
structure FanoutCounts where
  executed : Int
  rejected : Int
  failed : Int

/-- The number in a field of a fan-out report. -/
def countOf (report : Record) (name : String) : Except String Int :=
  ((firstOf report [name]).orElse (.int 0)).toInt

/-- Read a fan-out report. -/
def readCounts (report : Record) : Except String FanoutCounts := do
  let executed ← countOf report "executed"
  let rejected ← countOf report "rejected"
  let failed ← countOf report "failed"
  return ⟨executed, rejected, failed⟩

/-- The words for a fan-out report. -/
def fanoutDetail (report : Record) (counts : FanoutCounts) : String :=
  "fan-out: " ++ toString counts.executed ++ " executed / " ++ toString counts.rejected ++
    " rejected / " ++ toString counts.failed ++ " failed (signal_status=" ++
    ((report.get "signal_status").getD .none).text ++ ")"

/-- Fan one signal out to the accounts. -/
def dispatchCanonicalFanout (config : PipelineConfig) (inputs : CycleInputs)
    (fanOut : CanonicalSignal → RawProposal → Except String Record) (analysis : Analysis)
    (proposal : Record) (validation : ValidationInputs) (cycle : DecisionCycle) :
    PipelineOutcome :=
  let signal := buildCanonicalSignal config inputs analysis cycle.result.decision validation
  let raw := rawProposal config signal validation
  let result :=
    { cycle.result with canonicalSignal := some signal, signalId := signal.signalId }
  let cycle := { cycle with result := result }.addStage "canonical_signal" .ok
    ("signal_id=" ++ signal.signalId)
  let cycle := { cycle with dispatches := cycle.dispatches ++ [Dispatch.accounts signal raw] }
  match fanOut signal raw with
  | .error raised => (cycle.fail ("fan-out error: " ++ raised) "execution" raised).returned
  | .ok report =>
      let cycle := { cycle with result := { cycle.result with fanout := some report } }
      match readCounts report with
      | .error raised => cycle.brokenOff raised
      | .ok counts =>
          let executed : Bool := 0 < counts.executed
          let result :=
            { cycle.result with
              executed := executed, status := if executed then .executed else .error }
          let cycle := { cycle with result := result }.addStage "execution"
            (if executed then .ok else .error) (fanoutDetail report counts)
          if executed then
            (entered config inputs proposal validation .none "entry terbuka (fan-out)"
              cycle).returned
          else
            (cycle.markSignal config inputs .failed
              "fan-out: tidak ada akun tereksekusi").returned

/-! ### One decision for the engine -/

/-- The distance of a level from the entry, where both are prices. -/
def distanceFrom (entry level : ℚ) : ℚ :=
  if 0 < entry ∧ 0 < level then |entry - level| else 0

/-- The result of a fan-out over terminals as one reply. -/
def fanoutReply (fanout : FanoutResult) : ExecutionReply :=
  let success : Bool := 0 < fanout.succeeded
  let tickets := (fanout.results.filter FanoutRow.success).filterMap FanoutRow.ticket
  let fails := (fanout.results.filter fun row => !row.success).map fun row =>
    row.terminalId.text ++ ": " ++ row.errorMessage
  { success := success, ticket := Val.ofInt? tickets.head?,
    errorCode := .int (if success then 0 else 1),
    errorMessage := .str (if success then
        "Fan-out: " ++ toString fanout.succeeded ++ "/" ++ toString fanout.targetCount ++
          " terminal berhasil."
      else
        Text.strip ("Fan-out gagal di semua terminal (" ++ toString fanout.failed ++ "). " ++
          "; ".intercalate (fails.take 3))) }

/-- The reply to an order that one terminal alone would have received. -/
def blockedReply : ExecutionReply where
  success := false
  ticket := .none
  errorCode := .int 1
  errorMessage := .str ("MULTIPLE TERMINALS ARMED — single-terminal execution disabled. " ++
    "Enable canonical fan-out (canonical_fanout_enabled) or disarm all but one.")

/-- The engine's fan-out, where it is enabled and implemented. -/
def terminalFanout (inputs : CycleInputs) (engine : Engine) :
    Option (OrderRequest → ℚ → ℚ → Except String FanoutResult) :=
  if inputs.fanoutEnabled then engine.executeOrderFanout else none

/-- Dispatch one decision: to every terminal, or to the only armed one. -/
def dispatchExecution (inputs : CycleInputs) (engine : Engine) (order : OrderRequest) :
    List Dispatch × Except String ExecutionReply :=
  match terminalFanout inputs engine with
  | some executeOrderFanout =>
      let riskPrice := distanceFrom order.price.value order.sl.value
      let tpPrice := distanceFrom order.price.value order.tp.value
      ([.terminals order riskPrice tpPrice],
        (executeOrderFanout order riskPrice tpPrice).map fanoutReply)
  | none =>
      if 1 < inputs.armedTerminals then ([], .ok blockedReply)
      else ([.single order], engine.executeOrder order)

/-- Execute one decision and say in the registry how it went. -/
def dispatchSingle (config : PipelineConfig) (inputs : CycleInputs) (engine : Engine)
    (order : OrderRequest) (proposal : Record) (validation : ValidationInputs)
    (cycle : DecisionCycle) : PipelineOutcome :=
  let sent := dispatchExecution inputs engine order
  let cycle := { cycle with dispatches := cycle.dispatches ++ sent.1 }
  match sent.2 with
  | .error raised => (cycle.fail ("execution error: " ++ raised) "execution" raised).returned
  | .ok reply =>
      let result :=
        { cycle.result with
          executionResult := some reply, executed := reply.success,
          status := if reply.success then .executed else .error,
          error := if reply.success then cycle.result.error else some reply.errorMessage.text }
      let cycle := { cycle with result := result }.addStage "execution"
        (if reply.success then .ok else .error)
        (reply.errorMessage.orElse (.str "executed")).text
      if reply.success then
        (entered config inputs proposal validation reply.ticket "entry terbuka" cycle).returned
      else
        (cycle.markSignal config inputs .failed
          (firstText reply.errorMessage.text "eksekusi gagal")).returned

/-- Send an order on its way. -/
def dispatchOrder (config : PipelineConfig) (inputs : CycleInputs) (route : ExecutionRoute)
    (order : OrderRequest) (analysis : Analysis) (proposal : Record)
    (validation : ValidationInputs) (cycle : DecisionCycle) : PipelineOutcome :=
  let order := approve inputs order
  let result :=
    { cycle.result with
      clientOrderId := order.idempotencyKey, executionId := inputs.ids.execution }
  let cycle := { cycle with result := result }
  match route with
  | .coordinator fanOut =>
      dispatchCanonicalFanout config inputs fanOut analysis proposal validation cycle
  | .engine engine => dispatchSingle config inputs engine order proposal validation cycle

/-! ## The cycle -/

/-- From the event to a proposal to act upon. -/
def convene (config : PipelineConfig) (inputs : CycleInputs) (state : PipelineState) :
    Stage PipelineOutcome (Analysis × Record × DecisionCycle) := do
  let cycle ← pendingGate config inputs (startCycle inputs state)
  let cycle ← freshnessGate config inputs cycle
  let (analysis, cycle) ← analyse inputs cycle
  let (proposal, cycle) ← propose inputs analysis cycle
  return (analysis, proposal, cycle)

/-- From an opened signal to an approved order. -/
def clear (config : PipelineConfig) (inputs : CycleInputs) (proposal : Record)
    (validation : ValidationInputs) (cycle : DecisionCycle) :
    Stage PipelineOutcome (Record × DecisionCycle) := do
  let cycle ← passRiskGate config inputs validation cycle
  let cycle ← passDependencyGuard config inputs cycle
  let cycle ← passReconciliationGuard config inputs cycle
  let cycle ← passReadinessGuard config inputs cycle
  let cycle ← singleEntry config inputs validation cycle
  let cycle ← entryGuard config inputs validation cycle
  zoneEntry config inputs proposal validation cycle

/-- From an approved proposal to its execution. -/
def execute (config : PipelineConfig) (inputs : CycleInputs) (analysis : Analysis)
    (proposal : Record) (validation : ValidationInputs) (cycle : DecisionCycle) :
    Stage PipelineOutcome PipelineOutcome := do
  let route ← findRoute inputs cycle
  let (order, cycle) ← buildOrder inputs proposal validation cycle
  let (validation, cycle) ← revalidateFinalOrder config inputs order validation cycle
  return dispatchOrder config inputs route order analysis proposal validation cycle

/-- From a proposal to act upon to the end. -/
def pursue (config : PipelineConfig) (inputs : CycleInputs) (analysis : Analysis)
    (proposal : Record) (cycle : DecisionCycle) : Stage PipelineOutcome PipelineOutcome := do
  let cycle := openSignal config inputs proposal cycle
  let cycle ← htfFilter config inputs proposal cycle
  let validation ← readInputs inputs proposal cycle
  let (proposal, cycle) ← clear config inputs proposal validation cycle
  execute config inputs analysis proposal validation cycle

/-- One decision cycle. -/
def run (config : PipelineConfig) (inputs : CycleInputs) (state : PipelineState) :
    PipelineOutcome :=
  Stage.outcome do
    let (analysis, proposal, cycle) ← convene config inputs state
    pursue config inputs analysis proposal cycle

end TradingPipeline

end EaBot.Orchestration
