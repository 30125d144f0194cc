import EaBot.Risk.Gate
import Mathlib.Algebra.Order.Field.Basic
import Mathlib.Algebra.Order.Field.Rat

/-!
# What an approval of the risk gate means

The numbers that the gate reads for a proposal, and the limits on them.  The gate approves
a proposal exactly when all of its numbers can be read and are within their limits.

The exposure is projected with the quote of the side at which the proposal is entered; a
quote that is not positive leaves the proposed trade out.
-/

namespace EaBot.Risk

open EaBot.Foundation

/-! ## Numbers in records -/

/-- A value that is read as a number other than zero counts as true. -/
theorem truthy_of_toFloat {value : Val} {number : ℚ} (read : value.toFloat = .ok number)
    (nonzero : number ≠ 0) : value.truthy = true := by
  cases value with
  | none => cases read
  | bool value =>
      cases value with
      | true => rfl
      | false =>
          cases read
          exact absurd rfl nonzero
  | int value =>
      cases read
      simpa [Val.truthy] using nonzero
  | num value =>
      cases read
      simpa [Val.truthy] using nonzero
  | str value =>
      by_contra empty
      have blank : value = "" := by simpa [Val.truthy] using empty
      subst blank
      have unread : Text.toRat? "" = none := by decide
      rw [Val.toFloat, unread] at read
      cases read

theorem orElse_of_truthy {value : Val} (counts : value.truthy = true) (other : Val) :
    value.orElse other = value := by
  rw [Val.orElse, if_pos counts]

/-- The number in the first of several fields, when the field has one other than zero. -/
theorem numberOf_cons {record : Record} {name : String} {value : Val} {number : ℚ}
    (held : record.get name = some value) (read : value.toFloat = .ok number)
    (nonzero : number ≠ 0) (others : List String) :
    numberOf record (name :: others) = .ok number := by
  have counts := truthy_of_toFloat read nonzero
  rw [numberOf, firstOf, held, Option.getD_some, orElse_of_truthy counts, orElse_of_truthy counts,
    read]

/-- A number other than zero in a field is in the record. -/
theorem of_numberOf {record : Record} {name : String} {number : ℚ}
    (read : numberOf record [name] = .ok number) (nonzero : number ≠ 0) :
    ∃ value, record.get name = some value ∧ value.toFloat = .ok number := by
  cases held : record.get name with
  | none =>
      rw [numberOf, firstOf, held] at read
      cases read
      exact absurd rfl nonzero
  | some value =>
      refine ⟨value, rfl, ?_⟩
      rw [numberOf, firstOf, held] at read
      by_cases counts : value.truthy = true
      · rwa [Option.getD_some, orElse_of_truthy counts, orElse_of_truthy counts] at read
      · have absent : value.orElse .none = .none := if_neg counts
        rw [Option.getD_some, firstOf, absent] at read
        cases read
        exact absurd rfl nonzero

/-- The number in a field with a default of zero, when it is another one. -/
theorem of_floatOr {record : Record} {name : String} {number : ℚ}
    (read : floatOr record name 0 = .ok number) (nonzero : number ≠ 0) :
    ∃ value, record.get name = some value ∧ value.toFloat = .ok number := by
  rw [floatOr] at read
  split at read
  · rename_i value held
    exact ⟨value, held, read⟩
  · cases read
    exact absurd rfl nonzero

/-! ## The numbers that the gate reads -/

namespace RiskGate

/-- The numbers that the gate reads of a proposal, an account and a market. -/
structure Reading (gate : RiskGate) (proposal account : Record) (positions : List Record)
    (marketInfo : Record) where
  equity : ℚ
  equityIs : floatOr account "equity" 0 = .ok equity
  peakEquity : ℚ
  peakEquityIs : floatOr account "peak_equity" equity = .ok peakEquity
  balance : ℚ
  balanceIs : floatOr account "balance" 0 = .ok balance
  dailyPnl : ℚ
  dailyPnlIs : floatOr account "daily_pnl" 0 = .ok dailyPnl
  usedMargin : ℚ
  usedMarginIs : floatOr account "used_margin" 0 = .ok usedMargin
  marginCallLevel : ℚ
  marginCallLevelIs : floatOr account "margin_call_level" 0 = .ok marginCallLevel
  notionals : List ℚ
  notionalsAre : positions.map positionNotional = notionals.map some
  size : ℚ
  sizeIs : numberOf proposal ["size"] = .ok size
  entry : ℚ
  stopLoss : ℚ
  takeProfit : ℚ
  levelsAre : levels proposal = .ok (entry, stopLoss, takeProfit)
  quote : ℚ
  quoteIs : (((firstOf marketInfo [quoteSide proposal]).orElse
    (firstOf proposal ["entry_price"])).orElse (.int 0)).toFloat = .ok quote
  spreadPips : ℚ
  spreadPipsIs : RiskGate.spreadPips marketInfo = some spreadPips
  stopLossCost : ℚ
  stopLossCostIs : distanceCost marketInfo (gate.contractSize proposal marketInfo)
    |entry - stopLoss| = .ok stopLossCost
  spreadCost : ℚ
  spreadCostIs : Risk.spreadCost marketInfo (gate.contractSize proposal marketInfo) =
    .ok spreadCost

namespace Reading

variable {gate : RiskGate} {proposal account marketInfo : Record} {positions : List Record}

/-- The limits of an account by itself. -/
structure AccountWithin (reading : gate.Reading proposal account positions marketInfo) :
    Prop where
  equity : 0 < reading.equity
  peakEquity : 0 < reading.peakEquity
  drawdown : (reading.peakEquity - reading.equity) / reading.peakEquity ≤ gate.engine.maxDrawdown
  balance : 0 < reading.balance
  dailyLoss : |min reading.dailyPnl 0| / reading.balance ≤ gate.engine.dailyLossLimit
  aboveMarginCall : reading.marginCallLevel < reading.equity
  margin : reading.usedMargin / reading.equity ≤ gate.engine.marginThreshold

/-- The limits of a trade that do not depend on the account. -/
structure TradeWithin (reading : gate.Reading proposal account positions marketInfo) :
    Prop where
  size : 0 < reading.size
  contractSize : 0 < gate.contractSize proposal marketInfo
  entry : 0 < reading.entry
  stopLoss : 0 < reading.stopLoss
  takeProfit : 0 < reading.takeProfit
  apart : reading.stopLoss ≠ reading.entry
  reward : gate.minRR ≤
    |reading.takeProfit - reading.entry| / |reading.entry - reading.stopLoss|
  spread : reading.spreadPips ≤ gate.maxSpreadForSymbol (symbolOf proposal marketInfo)

/-- What the open positions and the proposed trade come to together. -/
def totalNotional (reading : gate.Reading proposal account positions marketInfo) : ℚ :=
  reading.notionals.sum + reading.size * reading.quote * gate.contractSize proposal marketInfo

/-- What the stop loss, the spread and the commission cost for the whole trade. -/
def riskMoney (reading : gate.Reading proposal account positions marketInfo) : ℚ :=
  (reading.stopLossCost + reading.spreadCost + commissionPerLot proposal marketInfo) *
    reading.size

/-- The limits of a trade in proportion to the equity. -/
structure ShareWithin (reading : gate.Reading proposal account positions marketInfo) :
    Prop where
  positionSize : reading.size * reading.entry * gate.contractSize proposal marketInfo /
    reading.equity ≤ gate.engine.maxPositionSize
  monetaryRisk : 0 < gate.riskBudgetPct proposal →
    reading.riskMoney ≤ gate.riskBudgetPct proposal * reading.equity ∧
      commissionKnown proposal marketInfo = true

/-- All limits as the gate checks them. -/
structure Passes (reading : gate.Reading proposal account positions marketInfo) : Prop where
  account : reading.AccountWithin
  trade : reading.TradeWithin
  share : reading.ShareWithin
  maxPositions : (positions.length : Int) + 1 ≤ gate.engine.maxPositions
  exposure : (if 0 < reading.quote then reading.totalNotional else reading.notionals.sum) /
    reading.equity ≤ gate.engine.maxExposure

/-- All limits after the trade. -/
structure WithinLimits (reading : gate.Reading proposal account positions marketInfo) :
    Prop where
  account : reading.AccountWithin
  trade : reading.TradeWithin
  share : reading.ShareWithin
  maxPositions : (positions.length : Int) + 1 ≤ gate.engine.maxPositions
  exposure : reading.totalNotional / reading.equity ≤ gate.engine.maxExposure

end Reading

/-! ## The checks -/

section Checks

variable {gate : RiskGate} {engine : RiskEngine} {proposal account marketInfo : Record}
  {positions : List Record}

theorem checkDrawdown_iff :
    engine.checkDrawdown account = .ok true ↔
      ∃ equity peakEquity, floatOr account "equity" 0 = .ok equity ∧
        floatOr account "peak_equity" equity = .ok peakEquity ∧ 0 < peakEquity ∧
        (peakEquity - equity) / peakEquity ≤ engine.maxDrawdown := by
  constructor
  · intro passed
    rcases of_bind_eq_ok passed with ⟨equity, equityIs, passed⟩
    rcases of_bind_eq_ok passed with ⟨peakEquity, peakEquityIs, passed⟩
    exact ⟨equity, peakEquity, equityIs, peakEquityIs, of_decide_eq_true (Except.ok.inj passed)⟩
  · rintro ⟨equity, peakEquity, equityIs, peakEquityIs, within⟩
    rw [RiskEngine.checkDrawdown, equityIs, ok_bind, peakEquityIs, ok_bind, decide_eq_true within]
    rfl

theorem checkDailyLoss_iff :
    engine.checkDailyLoss account = .ok true ↔
      ∃ balance dailyPnl, floatOr account "balance" 0 = .ok balance ∧
        floatOr account "daily_pnl" 0 = .ok dailyPnl ∧ 0 < balance ∧
        |min dailyPnl 0| / balance ≤ engine.dailyLossLimit := by
  constructor
  · intro passed
    rcases of_bind_eq_ok passed with ⟨balance, balanceIs, passed⟩
    rcases of_bind_eq_ok passed with ⟨dailyPnl, dailyPnlIs, passed⟩
    exact ⟨balance, dailyPnl, balanceIs, dailyPnlIs, of_decide_eq_true (Except.ok.inj passed)⟩
  · rintro ⟨balance, dailyPnl, balanceIs, dailyPnlIs, within⟩
    rw [RiskEngine.checkDailyLoss, balanceIs, ok_bind, dailyPnlIs, ok_bind, decide_eq_true within]
    rfl

theorem checkMargin_iff :
    engine.checkMargin account = .ok true ↔
      ∃ equity usedMargin marginCallLevel, floatOr account "equity" 0 = .ok equity ∧
        floatOr account "used_margin" 0 = .ok usedMargin ∧
        floatOr account "margin_call_level" 0 = .ok marginCallLevel ∧ 0 < equity ∧
        marginCallLevel < equity ∧ usedMargin / equity ≤ engine.marginThreshold := by
  constructor
  · intro passed
    rcases of_bind_eq_ok passed with ⟨equity, equityIs, passed⟩
    rcases of_bind_eq_ok passed with ⟨usedMargin, usedMarginIs, passed⟩
    rcases of_bind_eq_ok passed with ⟨marginCallLevel, marginCallLevelIs, passed⟩
    rcases of_decide_eq_true (Except.ok.inj passed) with ⟨positive, above, within⟩
    refine ⟨equity, usedMargin, marginCallLevel, equityIs, usedMarginIs, marginCallLevelIs,
      positive, ?_, within⟩
    by_contra reached
    exact above ⟨positive.trans_le (not_lt.mp reached), not_lt.mp reached⟩
  · rintro ⟨equity, usedMargin, marginCallLevel, equityIs, usedMarginIs, marginCallLevelIs,
      positive, above, within⟩
    have holds : 0 < equity ∧ ¬(0 < marginCallLevel ∧ equity ≤ marginCallLevel) ∧
        usedMargin / equity ≤ engine.marginThreshold :=
      ⟨positive, fun reached => absurd above (not_lt.mpr reached.2), within⟩
    rw [RiskEngine.checkMargin, equityIs, ok_bind, usedMarginIs, ok_bind, marginCallLevelIs,
      ok_bind, decide_eq_true holds]
    rfl

/-- The levels of a proposal pass both checks of them when they are positive, apart and
worth their risk. -/
theorem levelChecks_iff :
    (gate.riskRewardCheck proposal = .ok true ∧ stopLossCheck proposal = .ok true) ↔
      ∃ entry stopLoss takeProfit, levels proposal = .ok (entry, stopLoss, takeProfit) ∧
        0 < entry ∧ 0 < stopLoss ∧ 0 < takeProfit ∧ stopLoss ≠ entry ∧
        gate.minRR ≤ |takeProfit - entry| / |entry - stopLoss| := by
  constructor
  · rintro ⟨passed, -⟩
    rcases of_bind_eq_ok passed with ⟨⟨entry, stopLoss, takeProfit⟩, levelsAre, passed⟩
    dsimp only at passed
    split at passed
    · rename_i given
      refine ⟨entry, stopLoss, takeProfit, levelsAre, given.1, given.2.1, given.2.2.1,
        given.2.2.2, ?_⟩
      unfold validateRRRatio at passed
      split at passed
      · cases passed
      · exact of_decide_eq_true (Except.ok.inj passed)
    · cases passed
  · rintro ⟨entry, stopLoss, takeProfit, levelsAre, entryPos, stopPos, takePos, apart, reward⟩
    have risk : ¬|entry - stopLoss| ≤ 0 :=
      not_le.mpr (abs_pos.mpr (sub_ne_zero.mpr apart.symm))
    constructor
    · rw [riskRewardCheck, levelsAre, ok_bind]
      dsimp only
      rw [if_pos ⟨entryPos, stopPos, takePos, apart⟩, validateRRRatio, if_neg risk,
        decide_eq_true reward]
    · rw [stopLossCheck, levelsAre, ok_bind]
      dsimp only
      rw [decide_eq_true ⟨stopPos, apart⟩]
      rfl

/-- The exposure of a book whose notional values are known. -/
theorem calculatePortfolioRisk_of_known {equity : ℚ} {notionals : List ℚ} (positive : 0 < equity)
    (known : positions.map positionNotional = notionals.map some) :
    calculatePortfolioRisk positions equity =
      ⟨notionals.sum, notionals.sum / equity, true⟩ := by
  cases positions with
  | nil =>
      cases notionals with
      | nil => simp [calculatePortfolioRisk, positive]
      | cons first rest => cases known
  | cons position rest =>
      have held : ¬((position :: rest).isEmpty = true ∨ equity ≤ 0) := by simp [positive]
      rw [calculatePortfolioRisk, if_neg held, known]
      simp [Function.comp_def]

theorem known_of_exposureValid {equity : ℚ} (positive : 0 < equity)
    (valid : (calculatePortfolioRisk positions equity).exposureValid = true) :
    ∃ notionals : List ℚ, positions.map positionNotional = notionals.map some := by
  have known : ∀ notional ∈ positions.map positionNotional, some (notional.getD 0) = notional := by
    intro notional member
    cases positions with
    | nil => cases member
    | cons position rest =>
        have held : ¬((position :: rest).isEmpty = true ∨ equity ≤ 0) := by simp [positive]
        rw [calculatePortfolioRisk, if_neg held] at valid
        rcases Option.isSome_iff_exists.mp (List.all_eq_true.mp valid notional member) with
          ⟨value, rfl⟩
        rfl
  refine ⟨(positions.map positionNotional).map fun notional => notional.getD 0, ?_⟩
  calc positions.map positionNotional = (positions.map positionNotional).map id :=
        (List.map_id _).symm
    _ = (positions.map positionNotional).map (fun notional => some (notional.getD 0)) :=
        (List.map_congr_left known).symm
    _ = _ := by simp only [List.map_map]; rfl

/-- The equity that the other checks read is the one of the account. -/
theorem equityOf_of_pos {equity : ℚ} (equityIs : floatOr account "equity" 0 = .ok equity)
    (positive : 0 < equity) : equityOf account = .ok equity := by
  rcases of_floatOr equityIs positive.ne' with ⟨value, held, read⟩
  rw [equityOf, held]
  exact read

/-- With the numbers of a trade that has a size and a contract size, the exposure passes
when it is within its limit together with the trade, provided that the quote is positive. -/
theorem exposureCheck_iff {equity size quote : ℚ} (equityIs : equityOf account = .ok equity)
    (sizeIs : numberOf proposal ["size"] = .ok size)
    (quoteIs : (((firstOf marketInfo [quoteSide proposal]).orElse
      (firstOf proposal ["entry_price"])).orElse (.int 0)).toFloat = .ok quote)
    (equityPos : 0 < equity) (sizePos : 0 < size)
    (contract : 0 < gate.contractSize proposal marketInfo) :
    gate.exposureCheck proposal account positions marketInfo = .ok true ↔
      ∃ notionals : List ℚ, positions.map positionNotional = notionals.map some ∧
        (if 0 < quote then
            notionals.sum + size * quote * gate.contractSize proposal marketInfo
          else notionals.sum) / equity ≤ gate.engine.maxExposure := by
  have read : gate.exposureCheck proposal account positions marketInfo =
      .ok (if 0 < size ∧ 0 < quote then
          decide (0 < gate.contractSize proposal marketInfo) &&
            gate.engine.checkProjectedExposure positions equity
              (some (size * quote * gate.contractSize proposal marketInfo))
        else gate.engine.checkProjectedExposure positions equity none) := by
    rw [exposureCheck, quoteIs, ok_bind, sizeIs, ok_bind, equityIs, ok_bind]
    split <;> rfl
  have unpaid : ¬equity ≤ 0 := not_le.mpr equityPos
  rw [read, Except.ok.injEq]
  by_cases quotePos : 0 < quote
  · have notionalPos : 0 < size * quote * gate.contractSize proposal marketInfo := by positivity
    rw [if_pos ⟨sizePos, quotePos⟩, decide_eq_true contract, Bool.true_and,
      RiskEngine.checkProjectedExposure]
    simp only [if_neg unpaid, if_pos quotePos]
    constructor
    · intro passed
      cases valid : (calculatePortfolioRisk positions equity).exposureValid with
      | false => simp [valid] at passed
      | true =>
          rcases known_of_exposureValid equityPos valid with ⟨notionals, known⟩
          rw [calculatePortfolioRisk_of_known equityPos known] at passed
          simp only [Bool.not_true, Bool.false_eq_true, if_false, Bool.and_eq_true,
            decide_eq_true_eq] at passed
          exact ⟨notionals, known, passed.2⟩
    · rintro ⟨notionals, known, within⟩
      rw [calculatePortfolioRisk_of_known equityPos known]
      simp [notionalPos, within]
  · rw [if_neg fun both => quotePos both.2, RiskEngine.checkProjectedExposure]
    simp only [if_neg unpaid, if_neg quotePos]
    constructor
    · intro passed
      cases valid : (calculatePortfolioRisk positions equity).exposureValid with
      | false => simp [valid] at passed
      | true =>
          rcases known_of_exposureValid equityPos valid with ⟨notionals, known⟩
          rw [calculatePortfolioRisk_of_known equityPos known] at passed
          simp only [Bool.not_true, Bool.false_eq_true, if_false, decide_eq_true_eq] at passed
          exact ⟨notionals, known, passed⟩
    · rintro ⟨notionals, known, within⟩
      rw [calculatePortfolioRisk_of_known equityPos known]
      simp [within]

/-- The entry of a proposal is in its field. -/
theorem entry_of_levels {entry stopLoss takeProfit : ℚ}
    (levelsAre : levels proposal = .ok (entry, stopLoss, takeProfit)) (positive : 0 < entry) :
    ∃ value, proposal.get "entry_price" = some value ∧ value.toFloat = .ok entry := by
  rcases of_bind_eq_ok levelsAre with ⟨price, entryIs, rest⟩
  rcases of_bind_eq_ok rest with ⟨stop, -, rest⟩
  rcases of_bind_eq_ok rest with ⟨take, -, rest⟩
  cases rest
  exact of_floatOr entryIs positive.ne'

/-- The entry of a proposal is the price that its size is measured with. -/
theorem entryPrice_of_levels {entry stopLoss takeProfit : ℚ}
    (levelsAre : levels proposal = .ok (entry, stopLoss, takeProfit)) (positive : 0 < entry) :
    (((firstOf proposal ["entry_price"]).orElse (firstOf marketInfo ["price"])).orElse
      (.int 0)).toFloat = .ok entry := by
  rcases entry_of_levels levelsAre positive with ⟨value, held, read⟩
  have counts := truthy_of_toFloat read positive.ne'
  rw [firstOf, held, Option.getD_some, orElse_of_truthy counts, orElse_of_truthy counts,
    orElse_of_truthy counts, read]

/-- The symbol of a proposal is all that its contract size depends on. -/
theorem contractSize_congr {first second : Record}
    (symbol : first.get "symbol" = second.get "symbol") :
    gate.contractSize first marketInfo = gate.contractSize second marketInfo := by
  simp only [contractSize, symbolOf, symbol]

theorem positionSizeCheck_iff {equity size entry : ℚ}
    (equityIs : equityOf account = .ok equity) (sizeIs : numberOf proposal ["size"] = .ok size)
    (priceIs : (((firstOf proposal ["entry_price"]).orElse (firstOf marketInfo ["price"])).orElse
      (.int 0)).toFloat = .ok entry) :
    gate.positionSizeCheck proposal account marketInfo = .ok true ↔
      0 < equity ∧ 0 < entry ∧ 0 < size ∧ 0 < gate.contractSize proposal marketInfo ∧
        size * entry * gate.contractSize proposal marketInfo / equity ≤
          gate.engine.maxPositionSize := by
  rw [positionSizeCheck, sizeIs, ok_bind, priceIs, ok_bind, equityIs, ok_bind]
  change Except.ok _ = Except.ok true ↔ _
  rw [Except.ok.injEq, decide_eq_true_eq]

/-- With the numbers of a trade whose levels and size are positive, the monetary risk
passes when there is no budget, or when the commission is known and the costs are within the
budget. -/
theorem monetaryRiskCheck_iff {equity size entry stopLoss takeProfit stopLossCost spreadCost : ℚ}
    (equityIs : equityOf account = .ok equity) (sizeIs : numberOf proposal ["size"] = .ok size)
    (levelsAre : levels proposal = .ok (entry, stopLoss, takeProfit))
    (stopLossCostIs : distanceCost marketInfo (gate.contractSize proposal marketInfo)
      |entry - stopLoss| = .ok stopLossCost)
    (spreadCostIs : Risk.spreadCost marketInfo (gate.contractSize proposal marketInfo) =
      .ok spreadCost)
    (equityPos : 0 < equity) (sizePos : 0 < size)
    (contract : 0 < gate.contractSize proposal marketInfo) (entryPos : 0 < entry)
    (stopPos : 0 < stopLoss) (apart : stopLoss ≠ entry) :
    gate.monetaryRiskCheck proposal account marketInfo = .ok true ↔
      (0 < gate.riskBudgetPct proposal →
        (stopLossCost + spreadCost + commissionPerLot proposal marketInfo) * size ≤
            gate.riskBudgetPct proposal * equity ∧
          commissionKnown proposal marketInfo = true) := by
  have volumeIs : numberOf proposal ["size", "volume"] = .ok size := by
    rcases of_numberOf sizeIs sizePos.ne' with ⟨value, held, read⟩
    exact numberOf_cons held read sizePos.ne' _
  have distancePos : 0 < |entry - stopLoss| := abs_pos.mpr (sub_ne_zero.mpr apart.symm)
  rw [monetaryRiskCheck, levelsAre, ok_bind]
  dsimp only
  rw [volumeIs, ok_bind, if_pos ⟨entryPos, stopPos⟩, riskPerLot,
    stopLossCostIs, ok_bind, spreadCostIs, ok_bind]
  change (equityOf account >>= _) = _ ↔ _
  rw [equityIs, ok_bind]
  change Except.ok _ = Except.ok true ↔ _
  rw [Except.ok.injEq]
  by_cases budget : 0 < gate.riskBudgetPct proposal
  · rw [if_pos budget, Bool.and_eq_true, decide_eq_true_eq, mul_comm equity]
    constructor
    · rintro ⟨⟨-, -, -, -, within⟩, known⟩ _
      exact ⟨within, known⟩
    · intro within
      exact ⟨⟨contract, distancePos, sizePos, equityPos, (within budget).1⟩, (within budget).2⟩
  · rw [if_neg budget]
    simp [budget]

/-- A monetary check that passes with a budget knows the contract size and an equity. -/
theorem of_monetaryRiskCheck
    (passed : gate.monetaryRiskCheck proposal account marketInfo = .ok true)
    (budget : 0 < gate.riskBudgetPct proposal) :
    0 < gate.contractSize proposal marketInfo ∧
      ∃ equity, equityOf account = .ok equity ∧ 0 < equity := by
  rcases of_bind_eq_ok passed with ⟨levels, -, passed⟩
  rcases of_bind_eq_ok passed with ⟨volume, -, passed⟩
  rcases of_bind_eq_ok passed with ⟨perLot, -, passed⟩
  rcases of_bind_eq_ok passed with ⟨equity, equityIs, passed⟩
  dsimp only at passed
  rw [if_pos budget] at passed
  have holds := Except.ok.inj passed
  rw [Bool.and_eq_true, decide_eq_true_eq] at holds
  rcases holds with ⟨⟨contract, -, -, equityPos, -⟩, -⟩
  exact ⟨contract, equity, equityIs, equityPos⟩

/-- A monetary check that returns has read what the stop loss and the spread cost. -/
theorem costs_of_monetaryRiskCheck {entry stopLoss takeProfit : ℚ} {passed : Bool}
    (answered : gate.monetaryRiskCheck proposal account marketInfo = .ok passed)
    (levelsAre : levels proposal = .ok (entry, stopLoss, takeProfit)) (entryPos : 0 < entry)
    (stopPos : 0 < stopLoss) :
    ∃ stopLossCost spreadCost, distanceCost marketInfo (gate.contractSize proposal marketInfo)
        |entry - stopLoss| = .ok stopLossCost ∧
      Risk.spreadCost marketInfo (gate.contractSize proposal marketInfo) = .ok spreadCost := by
  rw [monetaryRiskCheck, levelsAre, ok_bind] at answered
  dsimp only at answered
  rw [if_pos ⟨entryPos, stopPos⟩] at answered
  rcases of_bind_eq_ok answered with ⟨volume, -, answered⟩
  rcases of_bind_eq_ok answered with ⟨perLot, costs, -⟩
  rcases of_bind_eq_ok costs with ⟨stopLossCost, stopLossCostIs, costs⟩
  rcases of_bind_eq_ok costs with ⟨spreadCost, spreadCostIs, -⟩
  exact ⟨stopLossCost, spreadCost, stopLossCostIs, spreadCostIs⟩

theorem spreadCheck_iff :
    gate.spreadCheck proposal marketInfo = true ↔
      ∃ pips, spreadPips marketInfo = some pips ∧
        pips ≤ gate.maxSpreadForSymbol (symbolOf proposal marketInfo) := by
  unfold spreadCheck
  cases spreadPips marketInfo with
  | none => simp
  | some pips => simp

end Checks

/-! ## The whole gate -/

section Gate

variable {gate : RiskGate} {proposal account marketInfo : Record} {positions : List Record}

/-- The gate approves a proposal when each of its checks passes. -/
theorem approves_iff_checks :
    gate.Approves proposal account positions marketInfo ↔
      gate.engine.checkDrawdown account = .ok true ∧ gate.engine.checkDailyLoss account = .ok true ∧
        positions.length < gate.engine.maxPositions ∧
        gate.exposureCheck proposal account positions marketInfo = .ok true ∧
        gate.engine.checkMargin account = .ok true ∧
        gate.spreadCheck proposal marketInfo = true ∧
        (gate.riskRewardCheck proposal = .ok true ∧ stopLossCheck proposal = .ok true) ∧
        gate.monetaryRiskCheck proposal account marketInfo = .ok true ∧
        gate.positionSizeCheck proposal account marketInfo = .ok true := by
  constructor
  · rintro ⟨checks, validated, approved⟩
    have answers := validateProposal_eq_ok_iff.mp validated
    simp only [GateChecks.approved, GateChecks.named, List.all_cons, List.all_nil,
      Bool.and_eq_true] at approved
    rcases approved with ⟨drawdown, dailyLoss, count, exposure, margin, spread, reward, stop,
      monetary, size, -⟩
    refine ⟨drawdown ▸ answers.drawdownLimit, dailyLoss ▸ answers.dailyLossLimit, ?_,
      exposure ▸ answers.maxExposure, margin ▸ answers.marginLevel, answers.spread ▸ spread,
      ⟨reward ▸ answers.riskReward, stop ▸ answers.stopLoss⟩, monetary ▸ answers.monetaryRisk,
      size ▸ answers.maxPositionSize⟩
    rw [answers.maxPositions] at count
    exact of_decide_eq_true count
  · rintro ⟨drawdown, dailyLoss, count, exposure, margin, spread, ⟨reward, stop⟩, monetary, size⟩
    refine ⟨⟨true, true, true, true, true, true, true, true, true, true⟩, ?_, rfl⟩
    exact validateProposal_eq_ok_iff.mpr
      ⟨drawdown, dailyLoss, (decide_eq_true count).symm, exposure, margin, spread.symm, reward,
        stop, monetary, size⟩

/-- The gate approves a proposal exactly when its numbers can be read and pass. -/
theorem approves_iff :
    gate.Approves proposal account positions marketInfo ↔
      ∃ reading : gate.Reading proposal account positions marketInfo, reading.Passes := by
  rw [approves_iff_checks]
  constructor
  · rintro ⟨drawdown, dailyLoss, count, exposure, margin, spread, leveled, monetary, sized⟩
    rcases checkDrawdown_iff.mp drawdown with
      ⟨equity, peakEquity, equityIs, peakEquityIs, peakPos, drawdownWithin⟩
    rcases checkDailyLoss_iff.mp dailyLoss with
      ⟨balance, dailyPnl, balanceIs, dailyPnlIs, balancePos, lossWithin⟩
    rcases checkMargin_iff.mp margin with
      ⟨_, usedMargin, marginCallLevel, again, usedMarginIs, marginCallLevelIs, equityPos,
        aboveMarginCall, marginWithin⟩
    cases equityIs.symm.trans again
    rcases levelChecks_iff.mp leveled with
      ⟨entry, stopLoss, takeProfit, levelsAre, entryPos, stopPos, takePos, apart, reward⟩
    rcases spreadCheck_iff.mp spread with ⟨pips, pipsIs, spreadWithin⟩
    rcases costs_of_monetaryRiskCheck monetary levelsAre entryPos stopPos with
      ⟨stopLossCost, spreadCost, stopLossCostIs, spreadCostIs⟩
    rcases of_bind_eq_ok exposure with ⟨quote, quoteIs, -⟩
    rcases of_bind_eq_ok sized with ⟨size, sizeIs, -⟩
    have known := equityOf_of_pos equityIs equityPos
    rcases (positionSizeCheck_iff known sizeIs (entryPrice_of_levels levelsAre entryPos)).mp
      sized with ⟨-, -, sizePos, contract, sizeWithin⟩
    rcases (exposureCheck_iff known sizeIs quoteIs equityPos sizePos contract).mp exposure with
      ⟨notionals, notionalsAre, exposureWithin⟩
    have riskWithin := (monetaryRiskCheck_iff known sizeIs levelsAre stopLossCostIs spreadCostIs
      equityPos sizePos contract entryPos stopPos apart).mp monetary
    let reading : gate.Reading proposal account positions marketInfo :=
      ⟨equity, equityIs, peakEquity, peakEquityIs, balance, balanceIs, dailyPnl, dailyPnlIs,
        usedMargin, usedMarginIs, marginCallLevel, marginCallLevelIs, notionals, notionalsAre,
        size, sizeIs, entry, stopLoss, takeProfit, levelsAre, quote, quoteIs, pips, pipsIs,
        stopLossCost, stopLossCostIs, spreadCost, spreadCostIs⟩
    exact ⟨reading, ⟨equityPos, peakPos, drawdownWithin, balancePos, lossWithin, aboveMarginCall,
        marginWithin⟩, ⟨sizePos, contract, entryPos, stopPos, takePos, apart, reward,
        spreadWithin⟩, ⟨sizeWithin, riskWithin⟩, count, exposureWithin⟩
  · rintro ⟨reading, accountWithin, tradeWithin, shareWithin, count, exposureWithin⟩
    have known := equityOf_of_pos reading.equityIs accountWithin.equity
    refine ⟨?_, ?_, ?_, ?_, ?_, ?_, ?_, ?_, ?_⟩
    · exact checkDrawdown_iff.mpr ⟨_, _, reading.equityIs, reading.peakEquityIs,
        accountWithin.peakEquity, accountWithin.drawdown⟩
    · exact checkDailyLoss_iff.mpr ⟨_, _, reading.balanceIs, reading.dailyPnlIs,
        accountWithin.balance, accountWithin.dailyLoss⟩
    · exact count
    · exact (exposureCheck_iff known reading.sizeIs reading.quoteIs accountWithin.equity
        tradeWithin.size tradeWithin.contractSize).mpr
          ⟨reading.notionals, reading.notionalsAre, exposureWithin⟩
    · exact checkMargin_iff.mpr ⟨_, _, _, reading.equityIs, reading.usedMarginIs,
        reading.marginCallLevelIs, accountWithin.equity, accountWithin.aboveMarginCall,
        accountWithin.margin⟩
    · exact spreadCheck_iff.mpr ⟨_, reading.spreadPipsIs, tradeWithin.spread⟩
    · exact levelChecks_iff.mpr ⟨_, _, _, reading.levelsAre, tradeWithin.entry,
        tradeWithin.stopLoss, tradeWithin.takeProfit, tradeWithin.apart, tradeWithin.reward⟩
    · exact (monetaryRiskCheck_iff known reading.sizeIs reading.levelsAre reading.stopLossCostIs
        reading.spreadCostIs accountWithin.equity tradeWithin.size tradeWithin.contractSize
        tradeWithin.entry tradeWithin.stopLoss tradeWithin.apart).mpr shareWithin.monetaryRisk
    · exact (positionSizeCheck_iff known reading.sizeIs
        (entryPrice_of_levels reading.levelsAre tradeWithin.entry)).mpr
          ⟨accountWithin.equity, tradeWithin.entry, tradeWithin.size, tradeWithin.contractSize,
            shareWithin.positionSize⟩

/-- The quotes that the market gives are positive. -/
def PositiveQuotes (marketInfo : Record) : Prop :=
  ∀ name ∈ ["ask", "bid"], ∀ value, marketInfo.get name = some value → value.truthy = true →
    ∀ quote, value.toFloat = .ok quote → 0 < quote

/-- With positive quotes the exposure is projected with a positive price. -/
theorem Reading.quote_pos (reading : gate.Reading proposal account positions marketInfo)
    (quotes : PositiveQuotes marketInfo) (entryPos : 0 < reading.entry) : 0 < reading.quote := by
  have quoteIs := reading.quoteIs
  have side : quoteSide proposal ∈ ["ask", "bid"] := by
    unfold quoteSide
    split <;> simp
  by_cases counts : ((marketInfo.get (quoteSide proposal)).getD .none).truthy = true
  · cases held : marketInfo.get (quoteSide proposal) with
    | none =>
        rw [held] at counts
        cases counts
    | some value =>
        rw [held, Option.getD_some] at counts
        rw [firstOf, held, Option.getD_some, orElse_of_truthy counts, orElse_of_truthy counts,
          orElse_of_truthy counts] at quoteIs
        exact quotes _ side value held counts _ quoteIs
  · have absent : firstOf marketInfo [quoteSide proposal] = .none := by
      rw [firstOf, Val.orElse, if_neg counts]
      rfl
    rcases entry_of_levels reading.levelsAre entryPos with ⟨value, held, read⟩
    have positive := truthy_of_toFloat read entryPos.ne'
    have entered : Val.none.orElse (firstOf proposal ["entry_price"]) =
        firstOf proposal ["entry_price"] := rfl
    rw [absent, entered, firstOf, held, Option.getD_some, orElse_of_truthy positive,
      orElse_of_truthy positive] at quoteIs
    have same : reading.quote = reading.entry := Except.ok.inj (quoteIs.symm.trans read)
    rwa [same]

/-- A proposal that the gate approves is within all limits after the trade. -/
theorem approved_within_limits (approved : gate.Approves proposal account positions marketInfo)
    (quotes : PositiveQuotes marketInfo) :
    ∃ reading : gate.Reading proposal account positions marketInfo, reading.WithinLimits := by
  rcases approves_iff.mp approved with ⟨reading, passes⟩
  refine ⟨reading, passes.account, passes.trade, passes.share, passes.maxPositions, ?_⟩
  have exposure := passes.exposure
  rwa [if_pos (reading.quote_pos quotes passes.trade.entry)] at exposure

theorem approves_of_toOption
    (checked : (gate.validateProposal proposal account positions marketInfo).toOption.map
      GateChecks.approved = some true) : gate.Approves proposal account positions marketInfo := by
  rcases Option.map_eq_some_iff.mp checked with ⟨checks, found, approved⟩
  exact ⟨checks, ok_of_toOption found, approved⟩

end Gate

end RiskGate

namespace Sample

/-- A proposal to buy a hundredth of a lot. -/
def longProposal : Record :=
  Dict.empty.update [("symbol", .str "EURUSD"), ("direction", .str "BUY"),
    ("entry_price", .num ⟨11 / 10, "1.1"⟩), ("stop_loss", .int 1),
    ("take_profit", .num ⟨13 / 10, "1.3"⟩), ("size", .num ⟨1 / 100, "0.01"⟩)]

/-- An account without losses. -/
def soundAccount : Record :=
  Dict.empty.update [("equity", .int 100000), ("balance", .int 100000)]

/-- A quote with a narrow spread and the contract size of the broker. -/
def quotedMarket : Record :=
  Dict.empty.update [("bid", .num ⟨109 / 100, "1.09"⟩), ("ask", .num ⟨11 / 10, "1.1"⟩),
    ("spread_pips", .int 1), ("contract_size", .int 100000)]

end Sample

theorem approved_within_limits_long :
    ∃ reading : Sample.riskGate.Reading Sample.longProposal Sample.soundAccount []
      Sample.quotedMarket, reading.WithinLimits := by
  apply RiskGate.approved_within_limits
  · exact RiskGate.approves_of_toOption (by decide +kernel)
  · intro name side value held _ quote read
    rcases List.mem_pair.mp side with rfl | rfl
    · cases held
      cases read
      norm_num
    · cases held
      cases read
      norm_num

end EaBot.Risk
