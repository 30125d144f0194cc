import EaBot.Orchestration.Dispatches

/-!
# A cycle with the deterministic risk gate

The pipeline leaves open who answers as its risk gate.  With the gate of the risk engine,
the answer is the decision that its checks come to on the record of the proposal.
-/

namespace EaBot.Orchestration

open EaBot.Execution EaBot.Foundation EaBot.Risk TradingPipeline

/-- The proposal as the record that the gate reads. -/
def GateProposal.record (render : ℚ → String) (proposal : GateProposal) : Record :=
  let number (value : ℚ) : Val := .num ⟨value, render value⟩
  proposal.details.update [
    ("symbol", proposal.symbol),
    ("direction", .str proposal.direction),
    ("entry_price", number proposal.entryPrice),
    ("stop_loss", number proposal.stopLoss),
    ("take_profit", number proposal.takeProfit),
    ("size", number proposal.size),
    ("risk_pct", number proposal.riskPct)]

/-- The inputs of a cycle with a deterministic risk gate. -/
def CycleInputs.withGate (inputs : CycleInputs) (gate : RiskGate) : CycleInputs :=
  { inputs with
    riskGate := fun _ validation =>
      (gate.validateProposal (validation.proposal.record inputs.render) validation.accountState
        validation.currentPositions validation.marketInfo).map GateDecision.ofChecks }

@[simp]
theorem withGate_riskGate (inputs : CycleInputs) (gate : RiskGate) (review : GateReview)
    (validation : ValidationInputs) :
    (inputs.withGate gate).riskGate review validation =
      (gate.validateProposal (validation.proposal.record inputs.render) validation.accountState
        validation.currentPositions validation.marketInfo).map GateDecision.ofChecks := rfl

/-! ## What the gate reads -/

section Reading

variable (render : ℚ → String) (proposal : GateProposal)

@[simp]
theorem record_symbol : (proposal.record render).get "symbol" = some proposal.symbol := by
  simp [GateProposal.record]

@[simp]
theorem record_entryPrice : (proposal.record render).get "entry_price" =
    some (.num ⟨proposal.entryPrice, render proposal.entryPrice⟩) := by
  simp [GateProposal.record]

@[simp]
theorem record_stopLoss : (proposal.record render).get "stop_loss" =
    some (.num ⟨proposal.stopLoss, render proposal.stopLoss⟩) := by
  simp [GateProposal.record]

@[simp]
theorem record_takeProfit : (proposal.record render).get "take_profit" =
    some (.num ⟨proposal.takeProfit, render proposal.takeProfit⟩) := by
  simp [GateProposal.record]

@[simp]
theorem record_size : (proposal.record render).get "size" =
    some (.num ⟨proposal.size, render proposal.size⟩) := by
  simp [GateProposal.record]

@[simp]
theorem record_riskPct : (proposal.record render).get "risk_pct" =
    some (.num ⟨proposal.riskPct, render proposal.riskPct⟩) := by
  simp [GateProposal.record]

/-- A field that completion adds is read as it is. -/
theorem record_detail {name : String}
    (added : name ∉ ["symbol", "direction", "entry_price", "stop_loss", "take_profit", "size",
      "risk_pct"]) : (proposal.record render).get name = proposal.details.get name :=
  Dict.get_update_of_notMem _ _ _ added

theorem levels_record : RiskGate.levels (proposal.record render) =
    .ok (proposal.entryPrice, proposal.stopLoss, proposal.takeProfit) := by
  simp [RiskGate.levels, floatOr, Val.toFloat, bind, Except.bind, pure, Except.pure]

theorem commission_per_lot_record : (proposal.record render).get "commission_per_lot" =
    proposal.details.get "commission_per_lot" :=
  record_detail render proposal (by decide)

theorem risk_sizing_verified_record : (proposal.record render).get "risk_sizing_verified" =
    proposal.details.get "risk_sizing_verified" :=
  record_detail render proposal (by decide)

/-- The number in a field, when it is one that counts as true. -/
theorem numberOf_of_nonzero {record : Record} {name : String} {rest : List String}
    {number : Number} (found : record.get name = some (.num number)) (nonzero : number.value ≠ 0) :
    numberOf record (name :: rest) = .ok number.value := by
  simp [numberOf, firstOf, found, Val.orElse, Val.truthy, nonzero, Val.toFloat]

end Reading

end EaBot.Orchestration
