import EaBot.Orchestration.LotCap
import EaBot.Risk.GateMonotone

/-!
# Sizing a proposal

The pipeline sizes a proposal so that its loss at the stop, costs included, comes to a fraction
of the equity.  It marks the proposal, and the gate then holds the marked proposal to the same
fraction.

The two compute the costs of a lot on their own.  The sizer knows the quoted spread only, while
the gate takes the two sides of the quote or a cost of the spread where they are given.  The
sizer takes the balance for an equity that is zero, the gate only for one that is missing.
-/

namespace EaBot.Risk

open EaBot.Foundation

/-- The size of a position, with the money that it risks. -/
structure PositionSizeResult where
  lotSize : ℚ
  riskAmount : ℚ
  slPips : ℚ

/-- The lot whose loss at the stop, costs included, is a fraction of the equity. -/
def calculateLotSize (render : ℚ → String) (balance riskPct slPips pointValue contractSize : ℚ)
    (equity : Option ℚ) (commissionPerLot spreadCostPerLot : ℚ) :
    Except String PositionSizeResult :=
  if slPips ≤ 0 then .error ("sl_pips must be positive, got " ++ render slPips)
  else
    let riskAmount := equity.getD balance * riskPct
    if riskAmount ≤ 0 then .ok ⟨0, 0, slPips⟩
    else
      let lossPerLot :=
        slPips * pointValue * contractSize + max commissionPerLot 0 + max spreadCostPerLot 0
      if lossPerLot ≤ 0 then .ok ⟨0, 0, slPips⟩
      else .ok ⟨riskAmount / lossPerLot, riskAmount, slPips⟩

end EaBot.Risk

namespace EaBot.Orchestration

open EaBot.Foundation EaBot.Risk

/-- What a lot costs beside its stop loss, and where the commission comes from. -/
structure CostAllowances where
  spreadCost : ℚ
  commission : ℚ
  source : String

namespace CostAllowances

/-- The commission is known. -/
def known (costs : CostAllowances) : Bool :=
  costs.source ∈ ["BROKER", "CONFIG"]

end CostAllowances

/-- The distance of the stop loss in points, with the worth of a point. -/
structure StopTerms where
  slPips : ℚ
  pointValue : ℚ
  contractSize : ℚ

/-- What the stop loss costs for one lot. -/
def StopTerms.cost (terms : StopTerms) : ℚ :=
  terms.slPips * terms.pointValue * terms.contractSize

namespace LotSizing

/-- The fraction of the equity that a trade risks.  From a tenth on the knob is a
percentage. -/
def riskFraction (sizing : LotSizing) : ℚ :=
  if sizing.defaultRiskPct ≤ 0 then 1 / 100
  else if 1 / 10 ≤ sizing.defaultRiskPct then sizing.defaultRiskPct / 100
  else sizing.defaultRiskPct

/-- The point and the contract size that the market or else the broker names; zero when
neither does. -/
def resolvePointContract (sizing : LotSizing) (proposal marketInfo : Record) : ℚ × ℚ :=
  let point := (numberOf marketInfo ["point_value"]).toOption.getD 0
  let contract := (numberOf marketInfo ["contract_size"]).toOption.getD 0
  let (point, contract) :=
    if point ≤ 0 ∨ contract ≤ 0 then
      match sizing.getSymbolSpecification (symbolFor proposal) with
      | .error _ => (point, contract)
      | .ok spec =>
          if spec.source = "broker" then
            (if point ≤ 0 then spec.point else point,
              if contract ≤ 0 then spec.contractSize else contract)
          else (point, contract)
    else (point, contract)
  (max point 0, max contract 0)

/-- The terms of a stop loss.  The broker's tick value is already in the currency of the
account. -/
def stopTerms (sizing : LotSizing) (proposal marketInfo : Record) (distance : ℚ) :
    Except String StopTerms := do
  let (point, contract) := sizing.resolvePointContract proposal marketInfo
  let tickSize ← numberOf marketInfo ["tick_size"]
  let tickValue ← numberOf marketInfo ["tick_value"]
  return if 0 < tickSize ∧ 0 < tickValue then ⟨distance, 1, tickValue / tickSize⟩
    else ⟨if 0 < point then distance / point else 0, point, contract⟩

/-- The commission by its source: the market, the proposal, or the specification. -/
def commissionPolicy (sizing : LotSizing) (proposal marketInfo : Record) : ℚ × String :=
  let given (value : Val) (source : String) : ℚ × String :=
    match value.toFloat with
    | .ok commission => (max commission 0, source)
    | .error _ => (0, "UNKNOWN")
  let quoted := (marketInfo.get "commission_per_lot").getD .none
  let configured := (proposal.get "commission_per_lot").getD .none
  if quoted ≠ .none then given quoted "BROKER"
  else if configured ≠ .none then given configured "CONFIG"
  else
    let symbol := ((firstOf proposal ["symbol"]).orElse (firstOf marketInfo ["symbol"])).orElse
      (.str "")
    match sizing.getSymbolSpecification symbol.text with
    | .error _ => (0, "UNKNOWN")
    | .ok spec =>
        if spec.commissionSource ∈ ["BROKER", "CONFIG"] then
          (max spec.commission 0, spec.commissionSource)
        else (0, "UNKNOWN")

/-- What a lot costs beside its stop loss. -/
def costAllowances (sizing : LotSizing) (proposal marketInfo : Record) (contractSize : ℚ) :
    CostAllowances :=
  let spread := (numberOf marketInfo ["spread_price"]).toOption.getD 0
  let commission := sizing.commissionPolicy proposal marketInfo
  ⟨if 0 < spread ∧ 0 < contractSize then spread * contractSize else 0, commission.1,
    commission.2⟩

/-- Record the allowances in the proposal. -/
def recordAllowances (sizing : LotSizing) (costs : CostAllowances) (proposal : Record) : Record :=
  proposal.update [("commission_source", .str costs.source),
    ("commission_per_lot", sizing.written costs.commission),
    ("commission_known", .bool costs.known),
    ("spread_cost_per_lot", sizing.written costs.spreadCost)]

/-- The size that the proposal gets from the risk fraction; a lot marks it as sized. -/
def sizeByRisk (sizing : LotSizing) (proposal : Record) (equity : ℚ) (terms : StopTerms)
    (costs : CostAllowances) : Record :=
  if 0 < terms.slPips ∧ 0 < equity ∧ 0 < terms.contractSize then
    match calculateLotSize sizing.render equity sizing.riskFraction terms.slPips
        terms.pointValue terms.contractSize (some equity) costs.commission costs.spreadCost with
    | .error _ => proposal.set "size" (sizing.written 0)
    | .ok result =>
        if 0 < result.lotSize then
          proposal.update [("size", sizing.written result.lotSize),
            ("risk_pct", sizing.written sizing.riskFraction),
            ("risk_sizing_verified", .bool true)]
        else proposal.set "size" (sizing.written 0)
  else proposal.set "size" (sizing.written 0)

/-- Size a proposal whose entry and stop loss are given. -/
def sizeProposal (sizing : LotSizing) (proposal : Record) (entry sl : ℚ)
    (accountState marketInfo : Record) : Except String Record := do
  let proposal := proposal.erase "risk_sizing_verified"
  let size ← numberOf proposal ["size"]
  if sizing.forceRiskSizing ∨ size ≤ 0 then
    if sl ≤ 0 ∨ entry ≤ 0 then
      return sizing.capLot (proposal.set "size" (sizing.written 0))
    let equity ← numberOf accountState ["equity", "balance"]
    let terms ← sizing.stopTerms proposal marketInfo |entry - sl|
    let costs := sizing.costAllowances proposal marketInfo terms.contractSize
    return sizing.capLot
      (sizing.sizeByRisk (sizing.recordAllowances costs proposal) equity terms costs)
  return sizing.capLot proposal

/-- A lot within the bounds of the operator and of the broker. -/
def boundedLot (sizing : LotSizing) (symbol : String) (lot : ℚ) : ℚ :=
  sizing.applyBrokerVolumeConstraints (capLotSize lot sizing.maxLotPerTrade 0 5) symbol

/-- The gate asks the same service about a symbol as the sizer. -/
def informs (sizing : LotSizing) (gate : RiskGate) : RiskGate :=
  { gate with
    symbolSpecification := fun symbol =>
      (sizing.getSymbolSpecification symbol).map BrokerSpecification.toSymbolSpecification }

end LotSizing

/-- A number that may count as none is the same number with zero for none. -/
theorem toFloat_orElse_zero {value : Val} {number : ℚ} (read : value.toFloat = .ok number) :
    (value.orElse (.int 0)).toFloat = .ok number := by
  by_cases zero : number = 0
  · unfold Val.orElse
    split
    next => exact read
    next =>
      rw [zero]
      rfl
  · rw [orElse_of_truthy (truthy_of_toFloat read zero), read]

/-! ## A sized proposal -/

section Sized

variable {sizing : LotSizing} {proposal accountState marketInfo sized : Record} {entry sl : ℚ}

theorem riskFraction_pos (sizing : LotSizing) : 0 < sizing.riskFraction := by
  unfold LotSizing.riskFraction
  split
  next => norm_num
  next some =>
    rw [not_le] at some
    split
    next => positivity
    next => exact some

theorem commissionPolicy_nonneg (sizing : LotSizing) (proposal marketInfo : Record) :
    0 ≤ (sizing.commissionPolicy proposal marketInfo).1 := by
  unfold LotSizing.commissionPolicy
  dsimp only
  split
  next =>
    split
    · exact le_max_right _ _
    · exact le_rfl
  next =>
    split
    next =>
      split
      · exact le_max_right _ _
      · exact le_rfl
    next =>
      split
      · exact le_rfl
      · split
        · exact le_max_right _ _
        · exact le_rfl

theorem costAllowances_spreadCost_nonneg (sizing : LotSizing) (proposal marketInfo : Record)
    (contractSize : ℚ) :
    0 ≤ (sizing.costAllowances proposal marketInfo contractSize).spreadCost := by
  unfold LotSizing.costAllowances
  dsimp only
  split
  next priced => exact mul_nonneg priced.1.le priced.2.le
  next => exact le_rfl

/-- What a lot loses at the stop. -/
def lossPerLot (terms : StopTerms) (costs : CostAllowances) : ℚ :=
  terms.cost + costs.commission + costs.spreadCost

/-- A proposal with the marks of the sizer. -/
def marked (sizing : LotSizing) (costs : CostAllowances) (lot : ℚ) (proposal : Record) : Record :=
  (sizing.recordAllowances costs (proposal.erase "risk_sizing_verified")).update
    [("size", sizing.written lot), ("risk_pct", sizing.written sizing.riskFraction),
      ("risk_sizing_verified", .bool true)]

/-- The numbers that a proposal was sized with. -/
structure SizedWith (sizing : LotSizing) (proposal accountState marketInfo : Record)
    (entry sl equity : ℚ) (terms : StopTerms) : Prop where
  entryPos : 0 < entry
  stopPos : 0 < sl
  equityIs : numberOf accountState ["equity", "balance"] = .ok equity
  equityPos : 0 < equity
  termsAre : sizing.stopTerms proposal marketInfo |entry - sl| = .ok terms
  pipsPos : 0 < terms.slPips
  contractPos : 0 < terms.contractSize
  lossPos : 0 < lossPerLot terms (sizing.costAllowances proposal marketInfo terms.contractSize)

theorem symbolFor_erase :
    LotSizing.symbolFor (proposal.erase "risk_sizing_verified") =
      LotSizing.symbolFor proposal := by
  simp [LotSizing.symbolFor, firstOf, Dict.get_erase]

theorem stopTerms_erase (distance : ℚ) :
    sizing.stopTerms (proposal.erase "risk_sizing_verified") marketInfo distance =
      sizing.stopTerms proposal marketInfo distance := by
  unfold LotSizing.stopTerms LotSizing.resolvePointContract
  rw [symbolFor_erase]

theorem costAllowances_erase (contractSize : ℚ) :
    sizing.costAllowances (proposal.erase "risk_sizing_verified") marketInfo contractSize =
      sizing.costAllowances proposal marketInfo contractSize := by
  simp [LotSizing.costAllowances, LotSizing.commissionPolicy, firstOf, Dict.get_erase]

theorem get_capLot (sizing : LotSizing) (proposal : Record) {name : String}
    (other : name ≠ "size") : (sizing.capLot proposal).get name = proposal.get name :=
  Dict.get_set_of_ne _ other _

/-- A size from the risk fraction that is marked is the lot that loses this fraction. -/
theorem sizeByRisk_of_verified {equity : ℚ} {terms : StopTerms} {costs : CostAllowances}
    (commission : 0 ≤ costs.commission) (spread : 0 ≤ costs.spreadCost)
    (before : proposal.get "risk_sizing_verified" = none)
    (verified : (sizing.sizeByRisk proposal equity terms costs).get "risk_sizing_verified" =
      some (.bool true)) :
    (0 < terms.slPips ∧ 0 < equity ∧ 0 < terms.contractSize) ∧ 0 < lossPerLot terms costs ∧
      sizing.sizeByRisk proposal equity terms costs =
        proposal.update
          [("size", sizing.written (equity * sizing.riskFraction / lossPerLot terms costs)),
            ("risk_pct", sizing.written sizing.riskFraction),
            ("risk_sizing_verified", .bool true)] := by
  have unmarked : (proposal.set "size" (sizing.written 0)).get "risk_sizing_verified" = none := by
    rw [Dict.get_set_of_ne _ (by decide), before]
  have lossIs : terms.slPips * terms.pointValue * terms.contractSize + max costs.commission 0 +
      max costs.spreadCost 0 = lossPerLot terms costs := by
    rw [max_eq_left commission, max_eq_left spread]
    rfl
  unfold LotSizing.sizeByRisk calculateLotSize at verified ⊢
  dsimp only at verified ⊢
  rw [lossIs] at verified ⊢
  by_cases usable : 0 < terms.slPips ∧ 0 < equity ∧ 0 < terms.contractSize
  · have money : 0 < equity * sizing.riskFraction :=
      mul_pos usable.2.1 (riskFraction_pos sizing)
    rw [if_pos usable, if_neg (not_le.mpr usable.1), Option.getD_some,
      if_neg (not_le.mpr money)] at verified ⊢
    by_cases loss : 0 < lossPerLot terms costs
    · rw [if_neg (not_le.mpr loss)] at verified ⊢
      dsimp only at verified ⊢
      rw [if_pos (div_pos money loss)]
      exact ⟨usable, loss, rfl⟩
    · rw [if_pos (not_lt.mp loss)] at verified
      dsimp only at verified
      rw [if_neg (lt_irrefl 0), unmarked] at verified
      cases verified
  · rw [if_neg usable, unmarked] at verified
    cases verified

/-- A proposal that is marked as sized has been sized from its numbers. -/
theorem sizedWith_of_verified
    (ran : sizing.sizeProposal proposal entry sl accountState marketInfo = .ok sized)
    (verified : sized.get "risk_sizing_verified" = some (.bool true)) :
    ∃ equity terms, SizedWith sizing proposal accountState marketInfo entry sl equity terms ∧
      sized = sizing.capLot (marked sizing
        (sizing.costAllowances proposal marketInfo terms.contractSize)
        (equity * sizing.riskFraction /
          lossPerLot terms (sizing.costAllowances proposal marketInfo terms.contractSize))
        proposal) := by
  have erased : (proposal.erase "risk_sizing_verified").get "risk_sizing_verified" = none := by
    simp [Dict.get_erase]
  unfold LotSizing.sizeProposal at ran
  rcases of_bind_eq_ok ran with ⟨size, -, ran⟩
  split at ran
  next =>
    split at ran
    next =>
      cases ran
      rw [get_capLot _ _ (by decide), Dict.get_set_of_ne _ (by decide), erased] at verified
      cases verified
    next levels =>
      rw [not_or, not_le, not_le] at levels
      rcases of_bind_eq_ok ran with ⟨equity, equityIs, ran⟩
      rcases of_bind_eq_ok ran with ⟨terms, termsAre, ran⟩
      rw [stopTerms_erase] at termsAre
      rw [costAllowances_erase] at ran
      cases ran
      rw [get_capLot _ _ (by decide)] at verified
      have before : (sizing.recordAllowances
          (sizing.costAllowances proposal marketInfo terms.contractSize)
          (proposal.erase "risk_sizing_verified")).get "risk_sizing_verified" = none := by
        simp [LotSizing.recordAllowances, erased]
      have commission :
          0 ≤ (sizing.costAllowances proposal marketInfo terms.contractSize).commission :=
        commissionPolicy_nonneg sizing proposal marketInfo
      rcases sizeByRisk_of_verified commission
        (costAllowances_spreadCost_nonneg sizing proposal marketInfo terms.contractSize) before
        verified with ⟨⟨pipsPos, equityPos, contractPos⟩, lossPos, sizedIs⟩
      refine ⟨equity, terms, ⟨levels.2, levels.1, equityIs, equityPos, termsAre, pipsPos,
        contractPos, lossPos⟩, ?_⟩
      rw [sizedIs]
      rfl
  next =>
    cases ran
    rw [get_capLot _ _ (by decide), erased] at verified
    cases verified

end Sized

/-! ## What the gate reads of it -/

section Read

variable {sizing : LotSizing} {proposal accountState marketInfo : Record} {costs : CostAllowances}
  {lot : ℚ}

/-- The fields that the sizer writes. -/
def writtenFields : List String :=
  ["commission_source", "commission_per_lot", "commission_known", "spread_cost_per_lot", "size",
    "risk_pct", "risk_sizing_verified"]

/-- The sizer leaves all other fields. -/
theorem get_marked (sizing : LotSizing) (proposal : Record) (costs : CostAllowances) (lot : ℚ)
    {name : String} (other : name ∉ writtenFields) :
    (sizing.capLot (marked sizing costs lot proposal)).get name = proposal.get name := by
  simp only [writtenFields, List.mem_cons, List.not_mem_nil, or_false, not_or] at other
  rcases other with ⟨source, commission, known, spread, size, pct, verified⟩
  simp [get_capLot _ _ size, marked, LotSizing.recordAllowances, Dict.get_erase, source,
    commission, known, spread, size, pct, verified]

theorem get_marked_written (sizing : LotSizing) (proposal : Record) (costs : CostAllowances)
    (lot : ℚ) :
    let sized := sizing.capLot (marked sizing costs lot proposal)
    sized.get "commission_per_lot" = some (sizing.written costs.commission) ∧
      sized.get "commission_known" = some (.bool costs.known) ∧
      sized.get "risk_pct" = some (sizing.written sizing.riskFraction) ∧
      sized.get "risk_sizing_verified" = some (.bool true) := by
  refine ⟨?_, ?_, ?_, ?_⟩ <;>
    simp [get_capLot, marked, LotSizing.recordAllowances]

theorem rawSize_marked (sizing : LotSizing) (proposal : Record) (costs : CostAllowances)
    (positive : 0 < lot) :
    LotSizing.rawSize (sizing.capLot (marked sizing costs lot proposal)) =
      sizing.boundedLot (LotSizing.symbolFor proposal) lot := by
  have held : (marked sizing costs lot proposal).get "size" = some (sizing.written lot) := by
    simp [marked]
  have raw : LotSizing.rawSize (marked sizing costs lot proposal) = lot := by
    rw [LotSizing.rawSize, numberOf_cons held rfl positive.ne' []]
    rfl
  have symbol : LotSizing.symbolFor (marked sizing costs lot proposal) =
      LotSizing.symbolFor proposal := by
    simp [LotSizing.symbolFor, firstOf, marked, LotSizing.recordAllowances, Dict.get_erase]
  rw [rawSize_capLot, LotSizing.finalSize, raw, symbol, if_pos positive]
  rfl

/-- The gate reads a known commission as the sizer does. -/
theorem commission_marked {contractSize : ℚ}
    (costsAre : costs = sizing.costAllowances proposal marketInfo contractSize)
    (known : costs.known = true) :
    let sized := sizing.capLot (marked sizing costs lot proposal)
    commissionPerLot sized marketInfo = costs.commission ∧
      commissionKnown sized marketInfo = true := by
  intro sized
  rcases get_marked_written sizing proposal costs lot with ⟨commissionIs, knownIs, -, -⟩
  have marks : sized.get "commission_known" ≠ some (.bool false) := by
    rw [knownIs, known]
    decide
  have nonneg : max costs.commission 0 = costs.commission := by
    rw [costsAre]
    exact max_eq_left (commissionPolicy_nonneg _ _ _)
  have policy : (costs.commission, costs.source) = sizing.commissionPolicy proposal marketInfo := by
    rw [costsAre]
    rfl
  by_cases quoted : (marketInfo.get "commission_per_lot").getD .none = .none
  · have raw : rawCommission sized marketInfo = sizing.written costs.commission := by
      rw [rawCommission, quoted, if_pos rfl, commissionIs]
      rfl
    constructor
    · rw [commissionPerLot, raw, toFloat_orElse_zero (rfl : (sizing.written _).toFloat = _)]
      exact nonneg
    · rw [commissionKnown, raw]
      exact decide_eq_true ⟨by simp [LotSizing.written], marks⟩
  · have raw : rawCommission sized marketInfo =
        (marketInfo.get "commission_per_lot").getD .none := by
      rw [rawCommission, if_neg quoted]
    constructor
    · unfold LotSizing.commissionPolicy at policy
      dsimp only at policy
      rw [if_pos quoted] at policy
      cases read : ((marketInfo.get "commission_per_lot").getD .none).toFloat with
      | error raised =>
          rw [read] at policy
          have unknown : costs.source = "UNKNOWN" := congrArg Prod.snd policy
          rw [CostAllowances.known, unknown] at known
          simp at known
      | ok commission =>
          rw [read] at policy
          rw [commissionPerLot, raw, toFloat_orElse_zero read]
          exact (congrArg Prod.fst policy).symm
    · rw [commissionKnown, raw]
      exact decide_eq_true ⟨quoted, marks⟩

/-- The gate's budget for a marked proposal is the fraction that it was sized for. -/
theorem riskBudgetPct_marked {gate : RiskGate} (unconfigured : gate.maxRiskPct.getD 0 ≤ 0) :
    gate.riskBudgetPct (sizing.capLot (marked sizing costs lot proposal)) =
      sizing.riskFraction := by
  rcases get_marked_written sizing proposal costs lot with ⟨-, -, pct, verified⟩
  rw [RiskGate.riskBudgetPct, if_pos ⟨unconfigured, verified⟩,
    numberOf_cons pct rfl (riskFraction_pos sizing).ne' []]
  rfl

theorem contractSize_marked (gate : RiskGate) (sizing : LotSizing) (proposal : Record)
    (costs : CostAllowances) (lot : ℚ) (marketInfo : Record) :
    gate.contractSize (sizing.capLot (marked sizing costs lot proposal)) marketInfo =
      gate.contractSize proposal marketInfo :=
  RiskGate.contractSize_congr (get_marked sizing proposal costs lot (by decide))

theorem floatOr_marked {name : String} (other : name ∉ writtenFields) (default : ℚ) :
    floatOr (sizing.capLot (marked sizing costs lot proposal)) name default =
      floatOr proposal name default := by
  rw [floatOr, get_marked _ _ _ _ other, floatOr]

end Read

/-! ## The equity -/

section Equity

variable {accountState : Record} {equity : ℚ}

/-- A positive equity that the gate reads is not in the place of one that counts as none. -/
theorem counts_of_equityOf {found : ℚ} (foundIs : equityOf accountState = .ok found)
    (positive : 0 < found) :
    ∀ value, accountState.get "equity" = some value → value.truthy = true := by
  intro value held
  rw [equityOf, held] at foundIs
  exact truthy_of_toFloat foundIs positive.ne'

/-- Without an equity that counts as none, the gate reads the equity of the sizer. -/
theorem equityOf_of_counts (read : numberOf accountState ["equity", "balance"] = .ok equity)
    (positive : 0 < equity)
    (counts : ∀ value, accountState.get "equity" = some value → value.truthy = true) :
    equityOf accountState = .ok equity := by
  cases held : accountState.get "equity" with
  | some value =>
      have truthy := counts value held
      rw [numberOf, firstOf, held, Option.getD_some, orElse_of_truthy truthy,
        orElse_of_truthy truthy] at read
      rw [equityOf, held]
      exact read
  | none =>
      rw [numberOf, firstOf, held] at read
      change numberOf accountState ["balance"] = .ok equity at read
      rcases of_numberOf read positive.ne' with ⟨value, balance, number⟩
      rw [equityOf, held, floatOr, balance]
      exact number

end Equity

/-! ## The check -/

/-- What the gate's costs of a lot exceed those of the sizer by is, for the final volume, within
the budget that the bounds of the volume have left. -/
def SurplusKept (sizing : LotSizing) (symbol : String) (terms : StopTerms)
    (costs : CostAllowances) (equity stopCost spreadCost : ℚ) : Prop :=
  let lot := equity * sizing.riskFraction / lossPerLot terms costs
  (stopCost - terms.cost + (spreadCost - costs.spreadCost)) * sizing.boundedLot symbol lot ≤
    lossPerLot terms costs * (lot - sizing.boundedLot symbol lot)

/-- The gate passes a sized proposal: it reads the target and the equity of the account, it
knows the contract size and the costs, and the surplus of its costs is within the budget. -/
structure SizedForGate (sizing : LotSizing) (gate : RiskGate)
    (proposal accountState marketInfo : Record) (entry sl : ℚ) : Prop where
  takeProfit : ∃ takeProfit, floatOr proposal "take_profit" 0 = .ok takeProfit
  equity : ∀ value, accountState.get "equity" = some value → value.truthy = true
  contractSize : 0 < gate.contractSize proposal marketInfo
  costs : ∃ stopCost spreadCost equity terms,
    distanceCost marketInfo (gate.contractSize proposal marketInfo) |entry - sl| = .ok stopCost ∧
      Risk.spreadCost marketInfo (gate.contractSize proposal marketInfo) = .ok spreadCost ∧
      numberOf accountState ["equity", "balance"] = .ok equity ∧
      sizing.stopTerms proposal marketInfo |entry - sl| = .ok terms ∧
      SurplusKept sizing (LotSizing.symbolFor proposal) terms
        (sizing.costAllowances proposal marketInfo terms.contractSize) equity stopCost spreadCost

section Check

variable {sizing : LotSizing} {gate : RiskGate} {proposal accountState marketInfo sized : Record}
  {entry sl equity : ℚ} {terms : StopTerms}

theorem distance_pos {distance : ℚ}
    (termsAre : sizing.stopTerms proposal marketInfo distance = .ok terms)
    (pipsPos : 0 < terms.slPips) : 0 < distance := by
  unfold LotSizing.stopTerms at termsAre
  dsimp only at termsAre
  rcases of_bind_eq_ok termsAre with ⟨tickSize, -, termsAre⟩
  rcases of_bind_eq_ok termsAre with ⟨tickValue, -, termsAre⟩
  have terms' := Except.ok.inj termsAre
  split at terms'
  next =>
    rw [← terms'] at pipsPos
    exact pipsPos
  next =>
    rw [← terms'] at pipsPos
    dsimp only at pipsPos
    split at pipsPos
    next point => exact (div_pos_iff_of_pos_right point).mp pipsPos
    next => exact absurd pipsPos (lt_irrefl 0)

/-- With readable costs, the check passes when the surplus of the gate's costs is within the
budget that the bounds have left. -/
theorem monetaryRiskCheck_marked_iff {stopCost spreadCost takeProfit : ℚ}
    (numbers : SizedWith sizing proposal accountState marketInfo entry sl equity terms)
    (entryIs : floatOr proposal "entry_price" 0 = .ok entry)
    (stopIs : floatOr proposal "stop_loss" 0 = .ok sl)
    (takeIs : floatOr proposal "take_profit" 0 = .ok takeProfit)
    (equityIs : equityOf accountState = .ok equity)
    (unconfigured : gate.maxRiskPct.getD 0 ≤ 0)
    (contract : 0 < gate.contractSize proposal marketInfo)
    (stopCostIs : distanceCost marketInfo (gate.contractSize proposal marketInfo) |entry - sl| =
      .ok stopCost)
    (spreadCostIs : Risk.spreadCost marketInfo (gate.contractSize proposal marketInfo) =
      .ok spreadCost)
    {costs : CostAllowances}
    (costsAre : costs = sizing.costAllowances proposal marketInfo terms.contractSize)
    (known : costs.known = true) {lot : ℚ}
    (lotIs : lot = equity * sizing.riskFraction / lossPerLot terms costs)
    (positive : 0 < sizing.boundedLot (LotSizing.symbolFor proposal) lot) :
    gate.monetaryRiskCheck (sizing.capLot (marked sizing costs lot proposal)) accountState
        marketInfo = .ok true ↔
      SurplusKept sizing (LotSizing.symbolFor proposal) terms costs equity stopCost
        spreadCost := by
  have lossPos : 0 < lossPerLot terms costs := costsAre ▸ numbers.lossPos
  have fraction := riskFraction_pos sizing
  have lotPos : 0 < lot := by
    rw [lotIs]
    exact div_pos (mul_pos numbers.equityPos fraction) lossPos
  have budget : lossPerLot terms costs * lot = equity * sizing.riskFraction := by
    rw [lotIs, mul_div_cancel₀ _ lossPos.ne']
  have size := rawSize_marked sizing proposal costs lotPos
  have sizeIs := rawSize_of_pos (size ▸ positive)
  rw [size] at sizeIs
  have levelsAre : RiskGate.levels (sizing.capLot (marked sizing costs lot proposal)) =
      .ok (entry, sl, takeProfit) := by
    rw [RiskGate.levels, floatOr_marked (by decide), floatOr_marked (by decide),
      floatOr_marked (by decide), entryIs, stopIs, takeIs]
    rfl
  have apart : sl ≠ entry := by
    rintro rfl
    have distance := distance_pos numbers.termsAre numbers.pipsPos
    rw [sub_self, abs_zero] at distance
    exact lt_irrefl 0 distance
  have sameContract := contractSize_marked gate sizing proposal costs lot marketInfo
  rw [← sameContract] at contract stopCostIs spreadCostIs
  rw [RiskGate.monetaryRiskCheck_iff equityIs sizeIs levelsAre stopCostIs spreadCostIs
    numbers.equityPos positive contract numbers.entryPos numbers.stopPos apart,
    riskBudgetPct_marked unconfigured, (commission_marked costsAre known).1,
    (commission_marked costsAre known).2]
  rw [SurplusKept, ← lotIs]
  generalize sizing.boundedLot (LotSizing.symbolFor proposal) lot = volume
  have surplus : lossPerLot terms costs * (lot - volume) -
      (stopCost - terms.cost + (spreadCost - costs.spreadCost)) * volume =
        sizing.riskFraction * equity - (stopCost + spreadCost + costs.commission) * volume := by
    rw [mul_sub, budget, lossPerLot]
    ring
  constructor
  · intro within
    have kept := (within fraction).1
    linarith
  · intro within _
    exact ⟨by linarith, rfl⟩

theorem take_of_levels {levels : ℚ × ℚ × ℚ} (levelsAre : RiskGate.levels proposal = .ok levels) :
    ∃ takeProfit, floatOr proposal "take_profit" 0 = .ok takeProfit := by
  rcases of_bind_eq_ok levelsAre with ⟨entry, -, levelsAre⟩
  rcases of_bind_eq_ok levelsAre with ⟨stopLoss, -, levelsAre⟩
  rcases of_bind_eq_ok levelsAre with ⟨takeProfit, takeIs, -⟩
  exact ⟨takeProfit, takeIs⟩

/-- The proposal that the sizer has marked, with a known commission and a positive size, passes
the monetary check of a gate without a budget of its own exactly when it is sized for this
gate. -/
theorem monetaryRisk_sized_iff (sizing : LotSizing) (gate : RiskGate)
    (proposal accountState marketInfo sized : Record) (entry sl : ℚ)
    (entryIs : floatOr proposal "entry_price" 0 = .ok entry)
    (stopIs : floatOr proposal "stop_loss" 0 = .ok sl)
    (unconfigured : gate.maxRiskPct.getD 0 ≤ 0)
    (ran : sizing.sizeProposal proposal entry sl accountState marketInfo = .ok sized)
    (verified : sized.get "risk_sizing_verified" = some (.bool true))
    (known : sized.get "commission_known" = some (.bool true))
    (positive : 0 < LotSizing.rawSize sized) :
    gate.monetaryRiskCheck sized accountState marketInfo = .ok true ↔
      SizedForGate sizing gate proposal accountState marketInfo entry sl := by
  rcases sizedWith_of_verified ran verified with ⟨equity, terms, numbers, rfl⟩
  generalize costsAre : sizing.costAllowances proposal marketInfo terms.contractSize = costs
    at known positive ⊢
  generalize lotIs : equity * sizing.riskFraction / lossPerLot terms costs = lot
    at known positive ⊢
  have lotPos : 0 < lot := by
    rw [← lotIs, ← costsAre]
    exact div_pos (mul_pos numbers.equityPos (riskFraction_pos sizing)) numbers.lossPos
  rw [rawSize_marked sizing proposal costs lotPos] at positive
  rw [(get_marked_written sizing proposal costs lot).2.1, Option.some_inj, Val.bool.injEq] at known
  constructor
  · intro passed
    rcases of_bind_eq_ok passed with ⟨levels, levelsAre, -⟩
    rcases take_of_levels levelsAre with ⟨takeProfit, takeIs⟩
    rw [floatOr_marked (by decide)] at takeIs
    have budget : 0 < gate.riskBudgetPct (sizing.capLot (marked sizing costs lot proposal)) := by
      rw [riskBudgetPct_marked unconfigured]
      exact riskFraction_pos sizing
    rcases RiskGate.of_monetaryRiskCheck passed budget with
      ⟨contract, found, foundIs, foundPos⟩
    have counts := counts_of_equityOf foundIs foundPos
    have sameLevels : RiskGate.levels (sizing.capLot (marked sizing costs lot proposal)) =
        .ok (entry, sl, takeProfit) := by
      rw [RiskGate.levels, floatOr_marked (by decide), floatOr_marked (by decide),
        floatOr_marked (by decide), entryIs, stopIs, takeIs]
      rfl
    rcases RiskGate.costs_of_monetaryRiskCheck passed sameLevels numbers.entryPos
      numbers.stopPos with ⟨stopCost, spreadCost, stopCostIs, spreadCostIs⟩
    rw [contractSize_marked] at contract stopCostIs spreadCostIs
    have surplus := (monetaryRiskCheck_marked_iff numbers entryIs stopIs takeIs
      (equityOf_of_counts numbers.equityIs numbers.equityPos counts) unconfigured contract
      stopCostIs spreadCostIs costsAre.symm known lotIs.symm positive).mp passed
    rw [← costsAre] at surplus
    exact ⟨⟨takeProfit, takeIs⟩, counts, contract, stopCost, spreadCost, equity, terms,
      stopCostIs, spreadCostIs, numbers.equityIs, numbers.termsAre, surplus⟩
  · rintro ⟨⟨takeProfit, takeIs⟩, counts, contract, stopCost, spreadCost, again, againTerms,
      stopCostIs, spreadCostIs, equityIs, termsAre, surplus⟩
    cases numbers.equityIs.symm.trans equityIs
    cases numbers.termsAre.symm.trans termsAre
    rw [costsAre] at surplus
    exact (monetaryRiskCheck_marked_iff numbers entryIs stopIs takeIs
      (equityOf_of_counts numbers.equityIs numbers.equityPos counts) unconfigured contract
      stopCostIs spreadCostIs costsAre.symm known lotIs.symm positive).mpr surplus

end Check

/-! ## The cost of the stop loss -/

section Stop

variable {sizing : LotSizing} {gate : RiskGate} {proposal marketInfo : Record}

/-- The contract size of the sizer is the quoted one or, without one, that of the broker. -/
theorem resolvePointContract_snd :
    (sizing.resolvePointContract proposal marketInfo).2 =
      if 0 < (numberOf marketInfo ["contract_size"]).toOption.getD 0 then
        (numberOf marketInfo ["contract_size"]).toOption.getD 0
      else
        match sizing.getSymbolSpecification (LotSizing.symbolFor proposal) with
        | .ok spec => if spec.source = "broker" then max spec.contractSize 0 else 0
        | .error _ => 0 := by
  unfold LotSizing.resolvePointContract
  generalize (numberOf marketInfo ["contract_size"]).toOption.getD 0 = quoted
  generalize (numberOf marketInfo ["point_value"]).toOption.getD 0 = point
  by_cases given : 0 < quoted
  · have kept : max quoted 0 = quoted := max_eq_left given.le
    rw [if_pos given]
    cases sizing.getSymbolSpecification (LotSizing.symbolFor proposal) with
    | error raised => simp [kept]
    | ok spec =>
        simp only [not_le.mpr given, or_false, if_false]
        split
        next => split <;> exact kept
        next => exact kept
  · have missing : quoted ≤ 0 := not_lt.mp given
    rw [if_neg given]
    cases sizing.getSymbolSpecification (LotSizing.symbolFor proposal) with
    | error raised => simp [missing]
    | ok spec =>
        simp only [missing, or_true, if_true]
        split
        next => rfl
        next => exact max_eq_right missing

/-- For a named symbol the gate takes the contract size of the sizer. -/
theorem contractSize_resolved (named : LotSizing.symbolFor proposal ≠ "") :
    (sizing.informs gate).contractSize proposal marketInfo =
      (sizing.resolvePointContract proposal marketInfo).2 := by
  have truthy : ((proposal.get "symbol").getD .none).truthy = true := by
    by_contra blank
    rw [LotSizing.symbolFor, firstOf, Val.orElse, Val.orElse, if_neg blank] at named
    exact named rfl
  have sameName : (((RiskGate.symbolOf proposal marketInfo).orElse
      ((marketInfo.get "symbol").getD .none)).orElse (.str "")).text =
        LotSizing.symbolFor proposal := by
    rw [LotSizing.symbolFor, RiskGate.symbolOf, firstOf, orElse_of_truthy truthy,
      orElse_of_truthy truthy, orElse_of_truthy truthy, orElse_of_truthy truthy,
      orElse_of_truthy truthy]
  rw [RiskGate.contractSize, RiskGate.brokerContractSize, sameName, if_neg named,
    resolvePointContract_snd, LotSizing.informs]
  dsimp only
  split
  next => rfl
  next =>
    cases sizing.getSymbolSpecification (LotSizing.symbolFor proposal) with
    | error raised => rfl
    | ok spec =>
        simp only [Except.map, ite_and]
        split
        next =>
          split
          next positive => exact (max_eq_left positive.le).symm
          next none => exact (max_eq_right (not_lt.mp none)).symm
        next => rfl

/-- For a named symbol the gate and the sizer take the same cost of the stop loss. -/
theorem distanceCost_eq_cost {distance : ℚ} {terms : StopTerms}
    (named : LotSizing.symbolFor proposal ≠ "")
    (termsAre : sizing.stopTerms proposal marketInfo distance = .ok terms)
    (pipsPos : 0 < terms.slPips) :
    distanceCost marketInfo ((sizing.informs gate).contractSize proposal marketInfo) distance =
      .ok terms.cost := by
  rw [contractSize_resolved named]
  unfold LotSizing.stopTerms at termsAre
  dsimp only at termsAre
  rcases of_bind_eq_ok termsAre with ⟨tickSize, sizeIs, termsAre⟩
  rcases of_bind_eq_ok termsAre with ⟨tickValue, valueIs, termsAre⟩
  rw [distanceCost, sizeIs, ok_bind, valueIs, ok_bind, ← Except.ok.inj termsAre]
  rw [← Except.ok.inj termsAre] at pipsPos
  by_cases ticks : 0 < tickSize ∧ 0 < tickValue
  · rw [if_pos ticks, if_pos ticks, StopTerms.cost]
    simp only [mul_one, div_mul_eq_mul_div, mul_div_assoc']
    rfl
  · rw [if_neg ticks] at pipsPos ⊢
    rw [if_neg ticks, StopTerms.cost]
    dsimp only at pipsPos ⊢
    split at pipsPos
    next point =>
      rw [if_pos point, div_mul_cancel₀ _ point.ne']
      rfl
    next => exact absurd pipsPos (lt_irrefl 0)

/-- For a named symbol only the cost of the spread makes a surplus. -/
theorem surplusKept_iff_of_named {symbol : String} {distance stopCost spreadCost equity : ℚ}
    {terms : StopTerms} {costs : CostAllowances} (named : LotSizing.symbolFor proposal ≠ "")
    (termsAre : sizing.stopTerms proposal marketInfo distance = .ok terms)
    (pipsPos : 0 < terms.slPips)
    (stopCostIs : distanceCost marketInfo
      ((sizing.informs gate).contractSize proposal marketInfo) distance = .ok stopCost) :
    SurplusKept sizing symbol terms costs equity stopCost spreadCost ↔
      (spreadCost - costs.spreadCost) *
          sizing.boundedLot symbol (equity * sizing.riskFraction / lossPerLot terms costs) ≤
        lossPerLot terms costs * (equity * sizing.riskFraction / lossPerLot terms costs -
          sizing.boundedLot symbol (equity * sizing.riskFraction / lossPerLot terms costs)) := by
  rw [distanceCost_eq_cost named termsAre pipsPos, Except.ok.injEq] at stopCostIs
  rw [SurplusKept, ← stopCostIs, sub_self, zero_add]

end Stop

namespace Sample

/-- The knobs of sizing, where the broker says nothing about a symbol. -/
def offlineSizing : LotSizing where
  defaultRiskPct := 1
  forceRiskSizing := true
  maxLotPerTrade := 1
  getSymbolSpecification := fun _ => .error "no terminal"
  render := fun _ => ""

/-- A proposal to buy gold with its levels. -/
def goldPurchase : Record :=
  Dict.empty.update [("symbol", .str "XAUUSD"), ("direction", .str "BUY"),
    ("entry_price", .int 2000), ("stop_loss", .int 1995), ("take_profit", .int 2015)]

/-- An account of ten thousand. -/
def goldAccount : Record :=
  Dict.empty.update [("equity", .int 10000), ("balance", .int 10000)]

/-- A market that gives both sides of the quote, and other fields beside them. -/
def goldMarket (others : List (String × Val)) : Record :=
  Dict.empty.update
    ([("bid", .int 1999), ("ask", .int 2000), ("point_value", .num ⟨1 / 100, "0.01"⟩),
      ("contract_size", .int 100), ("commission_per_lot", .int 7)] ++ others)

/-- The proposal as it is sized in a market. -/
def sizedPurchase (market : Record) : Record :=
  (offlineSizing.sizeProposal goldPurchase 2000 1995 goldAccount market).toOption.getD Dict.empty

end Sample

theorem sizeProposal_sample {market : Record}
    (sized : (Sample.offlineSizing.sizeProposal Sample.goldPurchase 2000 1995 Sample.goldAccount
      market).toOption.isSome = true) :
    Sample.offlineSizing.sizeProposal Sample.goldPurchase 2000 1995 Sample.goldAccount market =
      .ok (Sample.sizedPurchase market) := by
  rcases Option.isSome_iff_exists.mp sized with ⟨result, found⟩
  rw [Sample.sizedPurchase, found]
  exact ok_of_toOption found

theorem monetaryRisk_sized_iff_gold :
    Risk.Sample.riskGate.monetaryRiskCheck
        (Sample.sizedPurchase (Sample.goldMarket [("spread_price", .int 1)])) Sample.goldAccount
        (Sample.goldMarket [("spread_price", .int 1)]) = .ok true ↔
      SizedForGate Sample.offlineSizing Risk.Sample.riskGate Sample.goldPurchase
        Sample.goldAccount (Sample.goldMarket [("spread_price", .int 1)]) 2000 1995 :=
  monetaryRisk_sized_iff _ _ _ _ _ _ 2000 1995 rfl rfl (by decide +kernel)
    (sizeProposal_sample (by decide +kernel)) (by decide +kernel) (by decide +kernel)
    (by decide +kernel)

/-- In a market without a quoted spread the proposal is sized without a cost of the spread, and
the gate, which takes it from the two sides of the quote, rejects the sized proposal. -/
theorem sized_fails_without_spread_price :
    Sample.offlineSizing.sizeProposal Sample.goldPurchase 2000 1995 Sample.goldAccount
        (Sample.goldMarket []) = .ok (Sample.sizedPurchase (Sample.goldMarket [])) ∧
      (Sample.sizedPurchase (Sample.goldMarket [])).get "risk_sizing_verified" =
        some (.bool true) ∧
      (Sample.sizedPurchase (Sample.goldMarket [])).get "commission_known" = some (.bool true) ∧
      0 < LotSizing.rawSize (Sample.sizedPurchase (Sample.goldMarket [])) ∧
      Risk.Sample.riskGate.maxRiskPct = none ∧
      (Risk.Sample.riskGate.monetaryRiskCheck (Sample.sizedPurchase (Sample.goldMarket []))
        Sample.goldAccount (Sample.goldMarket [])).toOption = some false := by
  refine ⟨sizeProposal_sample ?_, ?_, ?_, ?_, rfl, ?_⟩ <;> decide +kernel

end EaBot.Orchestration
