import EaBot.Risk.Engine

/-!
# The risk gate

The gate runs ten checks on a proposal and approves it when all of them pass.  What it
reads are loosely typed records: a number that cannot be converted raises, a missing
one mostly counts as zero and fails the check that needs it.
-/

namespace EaBot.Risk

open EaBot.Foundation

/-- What the gate and the fan-out read of a symbol's specification. -/
structure SymbolSpecification where
  source : String
  contractSize : ℚ
  point : ℚ
  spreadLimit : ℚ

/-- The results of the checks. -/
structure GateChecks where
  drawdownLimit : Bool
  dailyLossLimit : Bool
  maxPositions : Bool
  maxExposure : Bool
  marginLevel : Bool
  spread : Bool
  riskReward : Bool
  stopLoss : Bool
  monetaryRisk : Bool
  maxPositionSize : Bool
deriving DecidableEq

namespace GateChecks

/-- The checks under their names. -/
def named (checks : GateChecks) : List (String × Bool) :=
  [("drawdown_limit", checks.drawdownLimit), ("daily_loss_limit", checks.dailyLossLimit),
    ("max_positions", checks.maxPositions), ("max_exposure", checks.maxExposure),
    ("margin_level", checks.marginLevel), ("spread", checks.spread),
    ("risk_reward", checks.riskReward), ("stop_loss", checks.stopLoss),
    ("monetary_risk", checks.monetaryRisk), ("max_position_size", checks.maxPositionSize)]

/-- Whether all checks pass. -/
def approved (checks : GateChecks) : Bool :=
  checks.named.all Prod.snd

/-- The words for the decision. -/
def reason (checks : GateChecks) : String :=
  if checks.approved then "All risk checks passed"
  else
    "REJECTED: failed checks — " ++
      ", ".intercalate ((checks.named.filter fun check => !check.2).map Prod.fst)

end GateChecks

/-- Whether the reward of a trade is large enough for its risk. -/
def validateRRRatio (entry stopLoss takeProfit minRR : ℚ) : Except String Bool :=
  if |entry - stopLoss| ≤ 0 then .error "stop loss cannot equal entry price"
  else .ok (decide (minRR ≤ |takeProfit - entry| / |entry - stopLoss|))

/-! ## Costs -/

/-- The side of the quote at which a direction is entered. -/
def quoteSide (proposal : Record) : String :=
  if Text.upper ((proposal.get "direction").getD (.str "")).text = "BUY" then "ask" else "bid"

/-- The quoted spread; a book that cannot be read has none. -/
def spreadPrice (marketInfo : Record) : Except String ℚ := do
  let quoted ← numberOf marketInfo ["spread_price"]
  if 0 < quoted then return quoted
  return match numberOf marketInfo ["bid"], numberOf marketInfo ["ask"] with
    | .ok bid, .ok ask => if bid ≤ ask then max 0 (ask - bid) else 0
    | _, _ => 0

/-- What a price distance costs for one lot. -/
def distanceCost (marketInfo : Record) (contractSize distance : ℚ) : Except String ℚ := do
  let tickSize ← numberOf marketInfo ["tick_size"]
  let tickValue ← numberOf marketInfo ["tick_value"]
  return if 0 < tickSize ∧ 0 < tickValue then distance / tickSize * tickValue
    else distance * contractSize

/-- What the spread costs for one lot. -/
def spreadCost (marketInfo : Record) (contractSize : ℚ) : Except String ℚ := do
  let spread ← spreadPrice marketInfo
  let quoted ← numberOf marketInfo ["spread_cost_per_lot"]
  let priced ← distanceCost marketInfo contractSize spread
  return if quoted ≠ 0 then quoted else priced

/-- The commission that the market or else the proposal names. -/
def rawCommission (proposal marketInfo : Record) : Val :=
  let quoted := (marketInfo.get "commission_per_lot").getD .none
  if quoted = .none then (proposal.get "commission_per_lot").getD .none else quoted

/-- The commission for one lot; one that cannot be read counts as none. -/
def commissionPerLot (proposal marketInfo : Record) : ℚ :=
  max (((rawCommission proposal marketInfo).orElse (.int 0)).toFloat.toOption.getD 0) 0

/-- Whether the commission is known. -/
def commissionKnown (proposal marketInfo : Record) : Bool :=
  rawCommission proposal marketInfo ≠ .none ∧
    proposal.get "commission_known" ≠ some (.bool false)

/-- The equity of an account, or its balance when no equity is given. -/
def equityOf (account : Record) : Except String ℚ :=
  match account.get "equity" with
  | some equity => equity.toFloat
  | none => floatOr account "balance" 0

/-! ## The gate -/

/-- A risk gate.  `symbolSpecification` is what the broker says about a symbol. -/
structure RiskGate where
  engine : RiskEngine
  maxSpreadPips : ℚ
  minRR : ℚ
  symbolSpreadLimits : Dict String ℚ
  maxRiskPct : Option ℚ
  symbolSpecification : String → Except String SymbolSpecification

namespace RiskGate

/-- The spread limit of the first symbol class that the symbol contains. -/
def maxSpreadForSymbol (gate : RiskGate) (symbol : Val) : ℚ :=
  let name := Text.upper (symbol.orElse (.str "")).text
  match gate.symbolSpreadLimits.entries.find? fun limit =>
      Text.contains name (Text.upper limit.1) with
  | some limit => limit.2
  | none => gate.maxSpreadPips

/-- The contract size that the market or else the broker names; zero when neither does. -/
def brokerContractSize (gate : RiskGate) (symbol : Val) (marketInfo : Record) : ℚ :=
  let quoted := (numberOf marketInfo ["contract_size"]).toOption.getD 0
  let name := ((symbol.orElse ((marketInfo.get "symbol").getD .none)).orElse (.str "")).text
  if 0 < quoted then quoted
  else if name = "" then 0
  else
    match gate.symbolSpecification name with
    | .ok spec => if spec.source = "broker" ∧ 0 < spec.contractSize then spec.contractSize else 0
    | .error _ => 0

/-- The symbol of a proposal, or the one of the market. -/
def symbolOf (proposal marketInfo : Record) : Val :=
  ((proposal.get "symbol").getD .none).orElse ((marketInfo.get "symbol").getD (.str ""))

/-- The contract size of the proposal's symbol. -/
def contractSize (gate : RiskGate) (proposal marketInfo : Record) : ℚ :=
  gate.brokerContractSize (symbolOf proposal marketInfo) marketInfo

/-- The spread in pips, when it is known. -/
def spreadPips (marketInfo : Record) : Option ℚ :=
  let raw := (marketInfo.get "spread_pips").getD .none
  let quoted := if raw = .none then 0 else raw.toFloat.toOption.getD 0
  if 0 < quoted then some quoted
  else
    match numberOf marketInfo ["bid"], numberOf marketInfo ["ask"],
        numberOf marketInfo ["spread_price"], numberOf marketInfo ["point_value"] with
    | .ok bid, .ok ask, .ok price, .ok point =>
        let price :=
          if price ≤ 0 ∧ 0 < bid ∧ 0 < ask ∧ bid ≤ ask then ask - bid else price
        if 0 < price ∧ 0 < point then some (price / (point * 10)) else none
    | _, _, _, _ => none

/-! ### The checks -/

/-- Whether the exposure together with the proposed trade is within its limit. -/
def exposureCheck (gate : RiskGate) (proposal account : Record) (positions : List Record)
    (marketInfo : Record) : Except String Bool := do
  let contractSize := gate.contractSize proposal marketInfo
  let price ← (((firstOf marketInfo [quoteSide proposal]).orElse
    (firstOf proposal ["entry_price"])).orElse (.int 0)).toFloat
  let size ← numberOf proposal ["size"]
  let equity ← equityOf account
  if 0 < size ∧ 0 < price then
    return decide (0 < contractSize) &&
      gate.engine.checkProjectedExposure positions equity (some (size * price * contractSize))
  return gate.engine.checkProjectedExposure positions equity none

/-- Whether the spread is known and within its limit. -/
def spreadCheck (gate : RiskGate) (proposal marketInfo : Record) : Bool :=
  match spreadPips marketInfo with
  | some pips => pips ≤ gate.maxSpreadForSymbol (symbolOf proposal marketInfo)
  | none => false

/-- The entry, the stop loss and the take profit of a proposal. -/
def levels (proposal : Record) : Except String (ℚ × ℚ × ℚ) := do
  let entry ← floatOr proposal "entry_price" 0
  let stopLoss ← floatOr proposal "stop_loss" 0
  let takeProfit ← floatOr proposal "take_profit" 0
  return (entry, stopLoss, takeProfit)

/-- Whether the reward is large enough for the risk. -/
def riskRewardCheck (gate : RiskGate) (proposal : Record) : Except String Bool := do
  let (entry, stopLoss, takeProfit) ← levels proposal
  if 0 < entry ∧ 0 < stopLoss ∧ 0 < takeProfit ∧ stopLoss ≠ entry then
    validateRRRatio entry stopLoss takeProfit gate.minRR
  else return false

/-- Whether there is a stop loss apart from the entry. -/
def stopLossCheck (proposal : Record) : Except String Bool := do
  let (entry, stopLoss, _) ← levels proposal
  return decide (0 < stopLoss ∧ stopLoss ≠ entry)

/-- The fraction of the equity that a trade may risk: the configured one or, without
one, that of a proposal which was sized for it. -/
def riskBudgetPct (gate : RiskGate) (proposal : Record) : ℚ :=
  let configured := gate.maxRiskPct.getD 0
  if configured ≤ 0 ∧ proposal.get "risk_sizing_verified" = some (.bool true) then
    (numberOf proposal ["risk_pct"]).toOption.getD 0
  else configured

/-- What the stop loss, the spread and the commission of one lot cost. -/
def riskPerLot (gate : RiskGate) (proposal marketInfo : Record) (distance : ℚ) :
    Except String ℚ := do
  let contractSize := gate.contractSize proposal marketInfo
  let stopLossCost ← distanceCost marketInfo contractSize distance
  let spreadCost ← spreadCost marketInfo contractSize
  return stopLossCost + spreadCost + commissionPerLot proposal marketInfo

/-- Whether the trade risks no more than its budget; without a budget every trade
passes. -/
def monetaryRiskCheck (gate : RiskGate) (proposal account marketInfo : Record) :
    Except String Bool := do
  let (entry, stopLoss, _) ← levels proposal
  let volume ← numberOf proposal ["size", "volume"]
  let distance := if 0 < entry ∧ 0 < stopLoss then |entry - stopLoss| else 0
  let perLot ← gate.riskPerLot proposal marketInfo distance
  let equity ← equityOf account
  let budgetPct := gate.riskBudgetPct proposal
  return if 0 < budgetPct then
      decide (0 < gate.contractSize proposal marketInfo ∧ 0 < distance ∧ 0 < volume ∧
        0 < equity ∧ perLot * volume ≤ equity * budgetPct) &&
        commissionKnown proposal marketInfo
    else true

/-- Whether the position is within the size limit of one trade. -/
def positionSizeCheck (gate : RiskGate) (proposal account marketInfo : Record) :
    Except String Bool := do
  let contractSize := gate.contractSize proposal marketInfo
  let size ← numberOf proposal ["size"]
  let price ← (((firstOf proposal ["entry_price"]).orElse (firstOf marketInfo ["price"])).orElse
    (.int 0)).toFloat
  let equity ← equityOf account
  return decide (0 < equity ∧ 0 < price ∧ 0 < size ∧ 0 < contractSize ∧
    size * price * contractSize / equity ≤ gate.engine.maxPositionSize)

/-- Run all checks on a proposal. -/
def validateProposal (gate : RiskGate) (proposal account : Record) (positions : List Record)
    (marketInfo : Record) : Except String GateChecks := do
  let drawdown ← gate.engine.checkDrawdown account
  let dailyLoss ← gate.engine.checkDailyLoss account
  let exposure ← gate.exposureCheck proposal account positions marketInfo
  let margin ← gate.engine.checkMargin account
  let riskReward ← gate.riskRewardCheck proposal
  let stopLoss ← stopLossCheck proposal
  let monetaryRisk ← gate.monetaryRiskCheck proposal account marketInfo
  let positionSize ← gate.positionSizeCheck proposal account marketInfo
  return {
    drawdownLimit := drawdown
    dailyLossLimit := dailyLoss
    maxPositions := decide (positions.length < gate.engine.maxPositions)
    maxExposure := exposure
    marginLevel := margin
    spread := gate.spreadCheck proposal marketInfo
    riskReward := riskReward
    stopLoss := stopLoss
    monetaryRisk := monetaryRisk
    maxPositionSize := positionSize }

/-! ### What the checks say -/

/-- Each result is the answer of its check. -/
structure Answers (gate : RiskGate) (proposal account : Record) (positions : List Record)
    (marketInfo : Record) (checks : GateChecks) : Prop where
  drawdownLimit : gate.engine.checkDrawdown account = .ok checks.drawdownLimit
  dailyLossLimit : gate.engine.checkDailyLoss account = .ok checks.dailyLossLimit
  maxPositions : checks.maxPositions = decide (positions.length < gate.engine.maxPositions)
  maxExposure : gate.exposureCheck proposal account positions marketInfo = .ok checks.maxExposure
  marginLevel : gate.engine.checkMargin account = .ok checks.marginLevel
  spread : checks.spread = gate.spreadCheck proposal marketInfo
  riskReward : gate.riskRewardCheck proposal = .ok checks.riskReward
  stopLoss : stopLossCheck proposal = .ok checks.stopLoss
  monetaryRisk : gate.monetaryRiskCheck proposal account marketInfo = .ok checks.monetaryRisk
  maxPositionSize : gate.positionSizeCheck proposal account marketInfo =
    .ok checks.maxPositionSize

theorem validateProposal_eq_ok_iff {gate : RiskGate} {proposal account marketInfo : Record}
    {positions : List Record} {checks : GateChecks} :
    gate.validateProposal proposal account positions marketInfo = .ok checks ↔
      gate.Answers proposal account positions marketInfo checks := by
  constructor
  · intro validated
    unfold validateProposal at validated
    obtain ⟨drawdown, drawdownIs, validated⟩ := of_bind_eq_ok validated
    obtain ⟨dailyLoss, dailyLossIs, validated⟩ := of_bind_eq_ok validated
    obtain ⟨exposure, exposureIs, validated⟩ := of_bind_eq_ok validated
    obtain ⟨margin, marginIs, validated⟩ := of_bind_eq_ok validated
    obtain ⟨riskReward, riskRewardIs, validated⟩ := of_bind_eq_ok validated
    obtain ⟨stopLoss, stopLossIs, validated⟩ := of_bind_eq_ok validated
    obtain ⟨monetaryRisk, monetaryRiskIs, validated⟩ := of_bind_eq_ok validated
    obtain ⟨positionSize, positionSizeIs, validated⟩ := of_bind_eq_ok validated
    cases validated
    exact ⟨drawdownIs, dailyLossIs, rfl, exposureIs, marginIs, rfl, riskRewardIs, stopLossIs,
      monetaryRiskIs, positionSizeIs⟩
  · intro answers
    unfold validateProposal
    rw [answers.drawdownLimit, answers.dailyLossLimit, answers.maxExposure, answers.marginLevel,
      answers.riskReward, answers.stopLoss, answers.monetaryRisk, answers.maxPositionSize,
      ← answers.spread, ← answers.maxPositions]
    rfl

/-- The gate approves the proposal. -/
def Approves (gate : RiskGate) (proposal account : Record) (positions : List Record)
    (marketInfo : Record) : Prop :=
  ∃ checks, gate.validateProposal proposal account positions marketInfo = .ok checks ∧
    checks.approved = true

/-- A proposal without an entry price is never approved: its reward cannot be compared
with its risk. -/
theorem not_approves_of_no_entry {gate : RiskGate} {proposal account marketInfo : Record}
    {positions : List Record} (missing : proposal.get "entry_price" = none) :
    ¬ gate.Approves proposal account positions marketInfo := by
  rintro ⟨checks, validated, approved⟩
  have answer := (validateProposal_eq_ok_iff.mp validated).riskReward
  have passed : checks.riskReward = true := by
    simp only [GateChecks.approved, GateChecks.named, List.all_cons, Bool.and_eq_true] at approved
    exact approved.2.2.2.2.2.2.1
  rw [passed] at answer
  unfold riskRewardCheck at answer
  obtain ⟨⟨entry, stopLoss, takeProfit⟩, read, answer⟩ := of_bind_eq_ok answer
  have zero : entry = 0 := by
    unfold levels at read
    obtain ⟨price, found, read⟩ := of_bind_eq_ok read
    obtain ⟨_, -, read⟩ := of_bind_eq_ok read
    obtain ⟨_, -, read⟩ := of_bind_eq_ok read
    rw [floatOr, missing] at found
    cases found
    cases read
    rfl
  simp [zero, pure, Except.pure] at answer

end RiskGate

namespace Sample

/-- The gate with its default limits. -/
def riskGate : RiskGate where
  engine := ⟨15 / 100, 5 / 100, 30 / 100, 20 / 100, 5, 10 / 100⟩
  maxSpreadPips := 5
  minRR := 3 / 2
  symbolSpreadLimits := Dict.empty
  maxRiskPct := none
  symbolSpecification := fun _ => .error "no broker"

end Sample

end EaBot.Risk
