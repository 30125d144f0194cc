import EaBot.Foundation.Value

/-!
# Proposals

The supervisor answers an analysis with a loosely typed proposal.  It is acted upon
when it has a direction and enough confidence, and it is brought into the shape that
the risk gate checks.  A number of the proposal that cannot be read ends the cycle
with an error.
-/

namespace EaBot.Orchestration

open EaBot.Foundation

/-- The higher-timeframe bias of a market. -/
structure HtfBias where
  direction : Val
  strength : Val
  timeframe : Val

/-- What a cycle reads of the analysis context. -/
structure AnalysisContext where
  symbol : Val
  accountState : Option Record
  currentPositions : Option (List Record)
  marketInfo : Option Record
  htfBias : Option HtfBias
  evidenceAtr : ℚ

/-- What a cycle reads of the supervisor's answer. -/
structure Analysis where
  proposal : Option Record
  synthesisProposal : Option Record
  symbol : Val
  proposalId : Val
  setupId : Val
  overallSignal : Val
  overallConfidence : Val
  summary : Val
  committeeSignalId : String

/-- A field that is filled in when it does not count as true and there is a value. -/
def backfill (proposal : Record) (name : String) (value : Val) : Record :=
  if !((proposal.get name).getD .none).truthy ∧ value.truthy then proposal.set name value
  else proposal

/-- A field that takes the value of another one when it is missing itself. -/
def takeOver (proposal : Record) (name other : String) : Record :=
  let value := (proposal.get other).getD .none
  if (proposal.get name).getD .none = .none ∧ value ≠ .none then proposal.set name value
  else proposal

/-- The proposal of an analysis. -/
def extractProposal (analysis : Analysis) : Option Record :=
  (analysis.proposal.or analysis.synthesisProposal).map fun raw =>
    let named := backfill (backfill (backfill raw "symbol" analysis.symbol)
      "proposal_id" analysis.proposalId) "setup_id" analysis.setupId
    takeOver (takeOver named "stop_loss" "target_sl") "take_profit" "target_tp"

/-- The direction of a proposal. -/
def directionOf (proposal : Record) : String :=
  Text.upper ((proposal.get "direction").getD (.str "")).text

/-- The directions that stand for a trade. -/
def actionable : List String :=
  ["BUY", "SELL"]

/-- Whether a proposal is to be acted upon. -/
def isActionable (minConfidence : ℚ) (proposal : Record) : Except String Bool :=
  if directionOf proposal ∉ actionable then .ok false
  else do
    let confidence ← numberOf proposal ["confidence"]
    return decide (minConfidence ≤ confidence)

/-- The decision of a cycle without a proposal. -/
def noTradeDecision (analysis : Analysis) : String :=
  if Text.upper analysis.overallSignal.text = "NEUTRAL" then "WAIT" else "NO_TRADE"

/-- A proposal in the shape that the risk gate checks.  `details` are the fields that
completion adds. -/
structure GateProposal where
  symbol : Val
  direction : String
  entryPrice : ℚ
  stopLoss : ℚ
  takeProfit : ℚ
  size : ℚ
  riskPct : ℚ
  details : Record

/-- The inputs of the risk gate. -/
structure ValidationInputs where
  proposal : GateProposal
  accountState : Record
  currentPositions : List Record
  marketInfo : Record

/-- The account state of a context that has none. -/
def zeroAccount : Record :=
  let zero : Val := .num ⟨0, "0.0"⟩
  Dict.empty.update [("equity", zero), ("balance", zero), ("peak_equity", zero),
    ("daily_pnl", zero), ("used_margin", zero)]

/-- The proposal with every number read. -/
def normaliseProposal (proposal : Record) (context : AnalysisContext) :
    Except String GateProposal := do
  let entryPrice ← numberOf proposal ["entry_price", "price"]
  let stopLoss ← numberOf proposal ["stop_loss", "sl"]
  let takeProfit ← numberOf proposal ["take_profit", "tp"]
  let size ← numberOf proposal ["size", "volume"]
  let riskPct ← numberOf proposal ["risk_pct"]
  return { symbol := (firstOf proposal ["symbol"]).orElse context.symbol,
           direction := directionOf proposal, entryPrice := entryPrice, stopLoss := stopLoss,
           takeProfit := takeProfit, size := size, riskPct := riskPct, details := Dict.empty }

/-- Build the inputs of the risk gate.  `complete` fills in what the proposal leaves
empty. -/
def buildValidationInputs (complete : ValidationInputs → GateProposal) (proposal : Record)
    (context : AnalysisContext) : Except String ValidationInputs := do
  let normalised ← normaliseProposal proposal context
  let inputs : ValidationInputs :=
    { proposal := normalised, accountState := context.accountState.getD zeroAccount,
      currentPositions := context.currentPositions.getD [],
      marketInfo := context.marketInfo.getD Dict.empty }
  return { inputs with proposal := complete inputs }

/-- The reason to veto an entry that fights a strong bias of a higher timeframe. -/
def htfBiasVeto (enabled : Bool) (minStrength : Number) (proposal : Record)
    (context : AnalysisContext) : Option String :=
  if !enabled then none
  else
    match context.htfBias with
    | none => none
    | some bias =>
        let direction := Text.upper bias.direction.text
        let strength := (bias.strength.orElse (.int 0)).toFloat.toOption.getD 0
        let entry := directionOf proposal
        let fights := (entry = "BUY" ∧ direction = "BEARISH") ∨
          (entry = "SELL" ∧ direction = "BULLISH")
        if strength < minStrength.value ∨ ¬ fights then none
        else
          some ("HTF bias veto: " ++ entry ++ " entry fights " ++ direction ++ " bias on " ++
            (bias.timeframe.orElse (.str "")).text ++ " (strength " ++ Text.fixed 2 strength ++
            " >= " ++ Text.fixed 2 minStrength.value ++ ")")

/-- The ticket of one of our own positions, which carry our magic number. -/
def ownPositionTicket (entryMagic : Int) : List Record → Option String
  | [] => none
  | position :: rest =>
      let magic := (position.get "magic").getD .none
      if magic ≠ .none ∧ magic.toInt.toOption = some entryMagic then
        let ticket := (position.get "ticket").getD .none
        some (if ticket = .none then "?" else ticket.text)
      else ownPositionTicket entryMagic rest

/-- The price at which an order would be entered. -/
def entryPriceOf (inputs : ValidationInputs) : ℚ :=
  let quote (name : String) := (numberOf inputs.marketInfo [name]).toOption.getD 0
  if 0 < inputs.proposal.entryPrice then inputs.proposal.entryPrice
  else if 0 < quote "ask" then quote "ask"
  else if 0 < quote "bid" then quote "bid"
  else 0

/-- There is a position of ours exactly when one carries our magic number. -/
theorem ownPositionTicket_isSome_iff (entryMagic : Int) (positions : List Record) :
    (ownPositionTicket entryMagic positions).isSome = true ↔
      ∃ position ∈ positions, (position.get "magic").getD .none ≠ .none ∧
        ((position.get "magic").getD .none).toInt.toOption = some entryMagic := by
  induction positions with
  | nil => exact iff_of_false Bool.false_ne_true fun ⟨_, absent, _⟩ => nomatch absent
  | cons position rest ih =>
      simp only [ownPositionTicket, List.mem_cons, exists_eq_or_imp]
      split
      · rename_i ours
        exact iff_of_true rfl (Or.inl ours)
      · rename_i foreign
        rw [ih]
        exact (or_iff_right foreign).symm

end EaBot.Orchestration
