import EaBot.Orchestration.GatedCycle
import EaBot.Orchestration.SentOrder
import EaBot.Risk.GateMonotone

/-!
# The risk budget of a dispatched order

The deterministic sizer marks a proposal as sized for a fraction of the equity, and the
gate then holds the proposal to that fraction, costs included.  The question on a changed
final order is put without the sizer's fields.  Where the gate has no budget of its own,
its monetary check lets every such order pass.
-/

namespace EaBot.Orchestration

open EaBot.Execution EaBot.Foundation EaBot.Risk TradingPipeline

/-- The sizer has marked the proposal as sized for its fraction of the equity. -/
def SizingVerified (proposal : GateProposal) : Prop :=
  proposal.details.get "risk_sizing_verified" = some (.bool true)

/-- The approved proposal with the values of an order. -/
def sentProposal (order : OrderRequest) (approved : GateProposal) : GateProposal :=
  { finalProposal order approved with details := approved.details }

/-- The distance from the entry to the stop loss, where both are prices. -/
def riskDistance (proposal : GateProposal) : ℚ :=
  if 0 < proposal.entryPrice ∧ 0 < proposal.stopLoss then
    |proposal.entryPrice - proposal.stopLoss|
  else 0

/-- The order that a dispatch carries, when it carries one. -/
def Dispatch.order : Dispatch → Option OrderRequest
  | single order => some order
  | terminals order _ _ => some order
  | accounts _ _ => none

/-- What the stop loss, the spread and the commission of an order cost is within the
fraction of the equity that the proposal was sized for. -/
def WithinBudget (gate : RiskGate) (render : ℚ → String) (validation : ValidationInputs)
    (order : OrderRequest) : Prop :=
  ∀ perLot equity,
    gate.riskPerLot ((sentProposal order validation.proposal).record render)
      validation.marketInfo (riskDistance (finalProposal order validation.proposal)) =
        .ok perLot →
    equityOf validation.accountState = .ok equity →
    perLot * order.volume.value ≤ validation.proposal.riskPct * equity

/-- Every order that a cycle dispatches for a proposal of the deterministic sizer is within
its budget. -/
def OrdersWithinBudget (config : PipelineConfig) (inputs : CycleInputs) (gate : RiskGate)
    (state : PipelineState) : Prop :=
  ∀ b, built config (inputs.withGate gate) state = .proceed b →
    SizingVerified b.validation.proposal →
    ∀ dispatch ∈ (run config (inputs.withGate gate) state).cycle.dispatches, ∀ order,
      dispatch.order = some order → WithinBudget gate inputs.render b.validation order

/-- The order risks no more than the approved proposal: it is no larger, and its stop loss
is no further from its entry. -/
structure NoRiskier (order : OrderRequest) (approved : GateProposal) : Prop where
  symbol : (finalProposal order approved).symbol = approved.symbol
  nonneg : 0 ≤ order.volume.value
  volume : order.volume.value ≤ approved.size
  distance : riskDistance (finalProposal order approved) ≤ riskDistance approved

/-- The gate's own budget, if it has one, is within the sized one, and the final order
risks no more than the approved proposal or is held to the gate's own budget. -/
structure BudgetKept (gate : RiskGate) (order : OrderRequest) (approved : GateProposal) :
    Prop where
  sized : 0 < approved.riskPct
  configured : gate.maxRiskPct.getD 0 ≤ approved.riskPct
  final : NoRiskier order approved ∨
    (unchanged order approved = false ∧ 0 < gate.maxRiskPct.getD 0)

/-! ## What the monetary check says -/

/-- What an approved monetary risk comes to: the costs of one lot, the traded volume and
the equity. -/
structure Affordable (gate : RiskGate) (render : ℚ → String) (proposal : GateProposal)
    (account marketInfo : Record) (perLot volume equity : ℚ) : Prop where
  costs : gate.riskPerLot (proposal.record render) marketInfo (riskDistance proposal) =
    .ok perLot
  volumeIs : numberOf (proposal.record render) ["size", "volume"] = .ok volume
  equityIs : equityOf account = .ok equity
  contract : 0 < gate.contractSize (proposal.record render) marketInfo
  volume_pos : 0 < volume
  equity_pos : 0 < equity
  bound : perLot * volume ≤ equity * gate.riskBudgetPct (proposal.record render)
  known : commissionKnown (proposal.record render) marketInfo = true

/-- A proposal that passes the monetary check of a gate with a budget is affordable. -/
theorem affordable_of_passed {gate : RiskGate} {render : ℚ → String} {proposal : GateProposal}
    {account marketInfo : Record}
    (passed : gate.monetaryRiskCheck (proposal.record render) account marketInfo = .ok true)
    (budget : 0 < gate.riskBudgetPct (proposal.record render)) :
    ∃ perLot volume equity,
      Affordable gate render proposal account marketInfo perLot volume equity := by
  unfold RiskGate.monetaryRiskCheck at passed
  obtain ⟨levels, levelsIs, passed⟩ := of_bind_eq_ok passed
  rw [levels_record] at levelsIs
  cases levelsIs
  obtain ⟨volume, volumeIs, passed⟩ := of_bind_eq_ok passed
  obtain ⟨perLot, costs, passed⟩ := of_bind_eq_ok passed
  obtain ⟨equity, equityIs, passed⟩ := of_bind_eq_ok passed
  dsimp only at passed
  rw [if_pos budget] at passed
  have holds := Except.ok.inj passed
  rw [Bool.and_eq_true, decide_eq_true_eq] at holds
  obtain ⟨⟨contract, -, volume_pos, equity_pos, bound⟩, known⟩ := holds
  exact ⟨perLot, volume, equity, costs, volumeIs, equityIs, contract, volume_pos, equity_pos,
    bound, known⟩

/-- Without a budget of its own the gate lets every final order pass its monetary check. -/
theorem monetaryRisk_unchecked {gate : RiskGate} {render : ℚ → String} {order : OrderRequest}
    {approved : GateProposal} {account marketInfo : Record} {passed : Bool}
    (unbudgeted : gate.maxRiskPct.getD 0 ≤ 0)
    (answered : gate.monetaryRiskCheck ((finalProposal order approved).record render) account
      marketInfo = .ok passed) : passed = true := by
  have none : ¬ 0 < gate.riskBudgetPct ((finalProposal order approved).record render) := by
    simp [RiskGate.riskBudgetPct, risk_sizing_verified_record, finalProposal, unbudgeted]
  unfold RiskGate.monetaryRiskCheck at answered
  obtain ⟨levels, -, answered⟩ := of_bind_eq_ok answered
  obtain ⟨volume, -, answered⟩ := of_bind_eq_ok answered
  obtain ⟨perLot, -, answered⟩ := of_bind_eq_ok answered
  obtain ⟨equity, -, answered⟩ := of_bind_eq_ok answered
  dsimp only at answered
  rw [if_neg none] at answered
  exact (Except.ok.inj answered).symm

/-! ## What an order costs -/

section Costs

variable {gate : RiskGate} {first second marketInfo : Record}

/-- Beside the distance, the costs depend on the symbol and the commission only. -/
theorem riskPerLot_congr (distance : ℚ) (symbol : first.get "symbol" = second.get "symbol")
    (commission : commissionPerLot first marketInfo = commissionPerLot second marketInfo) :
    gate.riskPerLot first marketInfo distance = gate.riskPerLot second marketInfo distance := by
  unfold RiskGate.riskPerLot
  rw [RiskGate.contractSize_congr symbol, commission]

/-- A smaller distance costs no more. -/
theorem distanceCost_mono {contractSize smaller larger cost bound : ℚ} (contract : 0 < contractSize)
    (le : smaller ≤ larger) (costIs : distanceCost marketInfo contractSize smaller = .ok cost)
    (boundIs : distanceCost marketInfo contractSize larger = .ok bound) : cost ≤ bound := by
  unfold distanceCost at costIs boundIs
  obtain ⟨tickSize, sizeIs, costIs⟩ := of_bind_eq_ok costIs
  obtain ⟨tickValue, valueIs, costIs⟩ := of_bind_eq_ok costIs
  rw [sizeIs, ok_bind, valueIs, ok_bind] at boundIs
  cases costIs
  cases boundIs
  split
  · rename_i quoted
    obtain ⟨size_pos, value_pos⟩ := quoted
    gcongr
  · gcongr

theorem riskPerLot_mono {smaller larger cost bound : ℚ}
    (contract : 0 < gate.contractSize first marketInfo) (le : smaller ≤ larger)
    (costIs : gate.riskPerLot first marketInfo smaller = .ok cost)
    (boundIs : gate.riskPerLot first marketInfo larger = .ok bound) : cost ≤ bound := by
  unfold RiskGate.riskPerLot at costIs boundIs
  obtain ⟨stopCost, stopIs, costIs⟩ := of_bind_eq_ok costIs
  obtain ⟨spreadCost, spreadIs, costIs⟩ := of_bind_eq_ok costIs
  obtain ⟨stopBound, stopBoundIs, boundIs⟩ := of_bind_eq_ok boundIs
  rw [spreadIs, ok_bind] at boundIs
  cases costIs
  cases boundIs
  have stop := distanceCost_mono contract le stopIs stopBoundIs
  linarith

end Costs

/-! ## What the gate has approved -/

section Approved

variable {config : PipelineConfig} {inputs : CycleInputs} {gate : RiskGate}
  {proposal : GateProposal}

/-- A decision to approve comes from checks that have all passed. -/
theorem monetaryRisk_of_approved {review : GateReview} {validation : ValidationInputs}
    {decision : GateDecision}
    (answered : (inputs.withGate gate).riskGate review validation = .ok decision)
    (approved : decision.approved = true) :
    gate.monetaryRiskCheck (validation.proposal.record inputs.render) validation.accountState
      validation.marketInfo = .ok true := by
  rw [withGate_riskGate] at answered
  cases validated : gate.validateProposal (validation.proposal.record inputs.render)
      validation.accountState validation.currentPositions validation.marketInfo with
  | error raised =>
      rw [validated] at answered
      cases answered
  | ok checks =>
      rw [validated] at answered
      cases answered
      have passed : checks.monetaryRisk = true := by
        simp only [GateDecision.ofChecks, GateChecks.approved, GateChecks.named, List.all_cons,
          Bool.and_eq_true] at approved
        exact approved.2.2.2.2.2.2.2.2.1
      rw [← passed]
      exact (RiskGate.validateProposal_eq_ok_iff.mp validated).monetaryRisk

/-- The budget for a proposal that the sizer has marked. -/
theorem riskBudgetPct_of_verified (render : ℚ → String) (verified : SizingVerified proposal)
    (sized : 0 < proposal.riskPct) (configured : gate.maxRiskPct.getD 0 ≤ proposal.riskPct) :
    0 < gate.riskBudgetPct (proposal.record render) ∧
      gate.riskBudgetPct (proposal.record render) ≤ proposal.riskPct := by
  have read : numberOf (proposal.record render) ["risk_pct"] = .ok proposal.riskPct :=
    numberOf_of_nonzero (record_riskPct render proposal) sized.ne'
  unfold RiskGate.riskBudgetPct
  rw [risk_sizing_verified_record, verified, read]
  dsimp only
  split
  · exact ⟨sized, le_refl _⟩
  · rename_i budgeted
    have positive : 0 < gate.maxRiskPct.getD 0 := by
      by_contra absent
      exact budgeted ⟨not_lt.mp absent, rfl⟩
    exact ⟨positive, configured⟩

/-- The budget for a final order is the gate's own. -/
theorem riskBudgetPct_final (render : ℚ → String) (order : OrderRequest) :
    gate.riskBudgetPct ((finalProposal order proposal).record render) = gate.maxRiskPct.getD 0 := by
  unfold RiskGate.riskBudgetPct
  rw [risk_sizing_verified_record]
  simp [finalProposal]

/-- A known commission of an order without further fields is the market's. -/
theorem commission_of_final (render : ℚ → String) (order : OrderRequest) {marketInfo : Record}
    (known : commissionKnown ((finalProposal order proposal).record render) marketInfo = true) :
    commissionPerLot ((sentProposal order proposal).record render) marketInfo =
      commissionPerLot ((finalProposal order proposal).record render) marketInfo := by
  have absent : ((finalProposal order proposal).record render).get "commission_per_lot" = none := by
    rw [commission_per_lot_record]
    simp [finalProposal]
  have quoted : (marketInfo.get "commission_per_lot").getD .none ≠ .none := by
    intro unquoted
    simp [commissionKnown, rawCommission, unquoted, absent] at known
  simp only [commissionPerLot, rawCommission, if_neg quoted]

end Approved

/-! ## The claim of the budget -/

section Budget

variable {config : PipelineConfig} {inputs : CycleInputs} {gate : RiskGate} {state : PipelineState}

/-- An order that risks no more than an affordable proposal is within its budget. -/
theorem withinBudget_of_noRiskier {order : OrderRequest} {validation : ValidationInputs}
    (render : ℚ → String) (verified : SizingVerified validation.proposal)
    (sized : 0 < validation.proposal.riskPct)
    (configured : gate.maxRiskPct.getD 0 ≤ validation.proposal.riskPct)
    (passed : gate.monetaryRiskCheck (validation.proposal.record render) validation.accountState
      validation.marketInfo = .ok true)
    (safer : NoRiskier order validation.proposal) : WithinBudget gate render validation order := by
  intro perLot equity costs equityIs
  obtain ⟨positive, budget⟩ := riskBudgetPct_of_verified render verified sized configured
  obtain ⟨bound, volume, _, approved⟩ := affordable_of_passed passed positive
  cases equityIs.symm.trans approved.equityIs
  have symbol : ((sentProposal order validation.proposal).record render).get "symbol" =
      (validation.proposal.record render).get "symbol" := by
    rw [record_symbol, record_symbol]
    exact congrArg some safer.symbol
  have commission : commissionPerLot ((sentProposal order validation.proposal).record render)
      validation.marketInfo =
        commissionPerLot (validation.proposal.record render) validation.marketInfo := by
    simp only [commissionPerLot, rawCommission, commission_per_lot_record, sentProposal]
  rw [riskPerLot_congr _ symbol commission] at costs
  have cheaper := riskPerLot_mono approved.contract safer.distance costs approved.costs
  have equity_nonneg := approved.equity_pos.le
  have kept : bound * volume ≤ validation.proposal.riskPct * equity := by
    calc bound * volume ≤ equity * gate.riskBudgetPct (validation.proposal.record render) :=
          approved.bound
      _ ≤ equity * validation.proposal.riskPct := by gcongr
      _ = validation.proposal.riskPct * equity := mul_comm _ _
  have smaller : order.volume.value ≤ volume := by
    by_cases empty : validation.proposal.size = 0
    · have none := safer.volume
      rw [empty] at none
      exact none.trans approved.volume_pos.le
    · have read := approved.volumeIs
      rw [numberOf_of_nonzero (record_size render _) empty] at read
      cases read
      exact safer.volume
  exact mul_le_budget cheaper safer.nonneg smaller kept (mul_nonneg sized.le equity_nonneg)

/-- An order that is held to the gate's own budget is within it. -/
theorem withinBudget_of_final {order : OrderRequest} {validation : ValidationInputs}
    (render : ℚ → String) (sized : 0 < validation.proposal.riskPct)
    (configured : gate.maxRiskPct.getD 0 ≤ validation.proposal.riskPct)
    (budgeted : 0 < gate.maxRiskPct.getD 0)
    (passed : gate.monetaryRiskCheck
      ((finalProposal order validation.proposal).record render) validation.accountState
        validation.marketInfo = .ok true) : WithinBudget gate render validation order := by
  intro perLot equity costs equityIs
  have budget : gate.riskBudgetPct ((finalProposal order validation.proposal).record render) =
      gate.maxRiskPct.getD 0 := riskBudgetPct_final render order
  obtain ⟨bound, volume, _, approved⟩ := affordable_of_passed passed (budget ▸ budgeted)
  cases equityIs.symm.trans approved.equityIs
  have commission := commission_of_final render order approved.known
  have symbol : ((sentProposal order validation.proposal).record render).get "symbol" =
      ((finalProposal order validation.proposal).record render).get "symbol" := by
    rw [record_symbol, record_symbol]
    rfl
  rw [riskPerLot_congr _ symbol commission] at costs
  cases costs.symm.trans approved.costs
  have equity_nonneg := approved.equity_pos.le
  by_cases empty : order.volume.value = 0
  · rw [empty, mul_zero]
    exact mul_nonneg sized.le equity_nonneg
  · have read := approved.volumeIs
    rw [numberOf_of_nonzero (record_size render _) empty] at read
    cases read
    calc perLot * order.volume.value ≤ equity * gate.riskBudgetPct
          ((finalProposal order validation.proposal).record render) := approved.bound
      _ = equity * gate.maxRiskPct.getD 0 := by rw [budget]
      _ ≤ equity * validation.proposal.riskPct := by gcongr
      _ = validation.proposal.riskPct * equity := mul_comm _ _

/-- What is sent for an order is the order with its token. -/
theorem order_of_sent {b : BuiltOrder} {validation : ValidationInputs} {dispatch : Dispatch}
    {order : OrderRequest} (sent : dispatch ∈ sendsFor config inputs b validation)
    (carries : dispatch.order = some order) : order = approve inputs b.order := by
  unfold sendsFor sendsOn at sent
  split at sent
  · cases List.mem_singleton.mp sent
    cases carries
  · unfold dispatchExecution at sent
    split at sent
    · cases List.mem_singleton.mp sent
      exact (Option.some.inj carries).symm
    · split at sent
      · cases sent
      · cases List.mem_singleton.mp sent
        exact (Option.some.inj carries).symm

/-- The token does not change what an order costs. -/
theorem withinBudget_approve (render : ℚ → String) (validation : ValidationInputs)
    (order : OrderRequest) :
    WithinBudget gate render validation (approve inputs order) ↔
      WithinBudget gate render validation order := Iff.rfl

end Budget

namespace Sample

/-- A quote with the contract size of the broker and its commission. -/
def sizedMarket : Record :=
  Dict.empty.update [("spread_pips", .num ⟨1, "1.0"⟩), ("contract_size", .int 100000),
    ("commission_per_lot", .int 0)]

/-- An order to buy a volume at the levels of the proposed entry. -/
def buyOrder (volume : Number) : OrderRequest :=
  { sellOrder with orderType := "BUY", volume := volume }

/-- An event whose proposal is sized for a thousandth of the equity, and whose builder
trades its own volume. -/
def sizedInputs (volume : Number) : CycleInputs :=
  { reversingBuilder with
    context :=
      { reversingBuilder.context with
        accountState := some
          (Dict.empty.update [("balance", .int 100000), ("equity", .int 100000)]),
        marketInfo := some sizedMarket }
    complete := fun validation =>
      { validation.proposal with
        riskPct := 1 / 1000,
        details := validation.proposal.details.set "risk_sizing_verified" (.bool true) }
    orderBuilder := fun _ _ => .ok (buyOrder volume) }

end Sample

end EaBot.Orchestration
