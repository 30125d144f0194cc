import EaBot.Risk.GateLimits
import Mathlib.Algebra.Order.BigOperators.Group.List
import Mathlib.Tactic.GCongr
import Mathlib.Tactic.Linarith

/-!
# What the risk gate keeps approving

A proposal that the gate approves stays approved with a smaller size, with a larger equity
whose peak follows it, and with fewer open positions.

Each change gives the gate other numbers to read, and those are within the limits that the
numbers before the change were within.
-/

namespace EaBot.Risk

open EaBot.Foundation

/-- A smaller volume at smaller costs stays within a budget that a larger one keeps. -/
theorem mul_le_budget {cost bound volume size budget : ℚ} (costs : cost ≤ bound)
    (nonneg : 0 ≤ volume) (smaller : volume ≤ size) (kept : bound * size ≤ budget)
    (positive : 0 ≤ budget) : cost * volume ≤ budget := by
  rcases le_total cost 0 with gain | loss
  · exact (mul_nonpos_of_nonpos_of_nonneg gain nonneg).trans positive
  · calc cost * volume ≤ bound * size := mul_le_mul costs smaller nonneg (loss.trans costs)
      _ ≤ budget := kept

/-! ## Notional values -/

theorem sizedNotional_nonneg {position : Record} {size : Val} {broker : Bool} {notional : ℚ}
    (known : (sizedNotional position size broker).toOption.join = some notional) :
    0 ≤ notional := by
  have computed := ok_of_toOption (Option.join_eq_some_iff.mp known)
  rcases of_bind_eq_ok computed with ⟨units, -, computed⟩
  rcases of_bind_eq_ok computed with ⟨price, -, computed⟩
  rcases of_bind_eq_ok computed with ⟨contractSize, -, computed⟩
  split_ifs at computed with negative unitless single
  · cases computed
  · cases computed
  · cases computed
    rw [not_or, not_lt, not_lt] at negative
    exact mul_nonneg (mul_nonneg negative.1 negative.2) zero_le_one
  · cases computed
    rw [not_or, not_lt, not_lt] at negative
    exact mul_nonneg (mul_nonneg negative.1 negative.2) (not_le.mp single).le

/-- A notional value that is known is not negative. -/
theorem positionNotional_nonneg {position : Record} {notional : ℚ}
    (known : positionNotional position = some notional) : 0 ≤ notional := by
  unfold positionNotional at known
  dsimp only at known
  split_ifs at known
  · exact of_decide_eq_true (Option.filter_eq_some_iff.mp known).2
  · exact sizedNotional_nonneg known
  · exact sizedNotional_nonneg known

theorem notionals_nonneg {positions : List Record} {notionals : List ℚ}
    (known : positions.map positionNotional = notionals.map some) :
    ∀ notional ∈ notionals, 0 ≤ notional := by
  intro notional member
  have listed : some notional ∈ positions.map positionNotional := by
    rw [known]
    exact List.mem_map_of_mem member
  rcases List.mem_map.mp listed with ⟨position, -, same⟩
  exact positionNotional_nonneg same

/-- Fewer positions have notional values that come to no more. -/
theorem notionals_of_sublist {fewer positions : List Record} (sub : fewer.Sublist positions)
    {notionals : List ℚ} (known : positions.map positionNotional = notionals.map some) :
    ∃ left : List ℚ, fewer.map positionNotional = left.map some ∧ left.sum ≤ notionals.sum := by
  induction sub generalizing notionals with
  | slnil => exact ⟨[], rfl, by cases notionals <;> simp_all⟩
  | cons position _ ih =>
      cases notionals with
      | nil => cases known
      | cons notional rest =>
          rw [List.map_cons, List.map_cons, List.cons.injEq] at known
          rcases ih known.2 with ⟨left, leftAre, le⟩
          refine ⟨left, leftAre, ?_⟩
          rw [List.sum_cons]
          linarith [positionNotional_nonneg known.1]
  | cons_cons position _ ih =>
      cases notionals with
      | nil => cases known
      | cons notional rest =>
          rw [List.map_cons, List.map_cons, List.cons.injEq] at known
          rcases ih known.2 with ⟨left, leftAre, le⟩
          refine ⟨notional :: left, ?_, ?_⟩
          · rw [List.map_cons, List.map_cons, leftAre, known.1]
          · rw [List.sum_cons, List.sum_cons]
            linarith

namespace RiskGate

variable {gate : RiskGate} {proposal account marketInfo : Record} {positions : List Record}

/-! ## A smaller size -/

section Size

variable {other : Record}

/-- Two proposals agree on everything but the size. -/
def AgreeButSize (proposal other : Record) : Prop :=
  ∀ name, name ≠ "size" → other.get name = proposal.get name

theorem agreeButSize_set (proposal : Record) (value : Val) :
    AgreeButSize proposal (proposal.set "size" value) :=
  fun _ different => Dict.get_set_of_ne _ different _

theorem AgreeButSize.levels (agree : AgreeButSize proposal other) :
    levels other = levels proposal := by
  unfold RiskGate.levels floatOr
  rw [agree _ (by decide), agree _ (by decide), agree _ (by decide)]

theorem AgreeButSize.symbolOf (agree : AgreeButSize proposal other) :
    symbolOf other marketInfo = symbolOf proposal marketInfo := by
  unfold RiskGate.symbolOf
  rw [agree _ (by decide)]

theorem AgreeButSize.contractSize (agree : AgreeButSize proposal other) :
    gate.contractSize other marketInfo = gate.contractSize proposal marketInfo :=
  contractSize_congr (agree _ (by decide))

theorem AgreeButSize.quoteSide (agree : AgreeButSize proposal other) :
    quoteSide other = quoteSide proposal := by
  unfold Risk.quoteSide
  rw [agree _ (by decide)]

theorem AgreeButSize.entryPrice (agree : AgreeButSize proposal other) :
    firstOf other ["entry_price"] = firstOf proposal ["entry_price"] := by
  rw [firstOf, firstOf, agree _ (by decide)]
  rfl

theorem AgreeButSize.rawCommission (agree : AgreeButSize proposal other) :
    rawCommission other marketInfo = rawCommission proposal marketInfo := by
  unfold Risk.rawCommission
  rw [agree _ (by decide)]

theorem AgreeButSize.riskBudgetPct (agree : AgreeButSize proposal other) :
    gate.riskBudgetPct other = gate.riskBudgetPct proposal := by
  unfold RiskGate.riskBudgetPct numberOf firstOf
  rw [agree _ (by decide), agree _ (by decide)]
  rfl

/-- The numbers of a proposal of another size. -/
def Reading.resized (reading : gate.Reading proposal account positions marketInfo)
    (agree : AgreeButSize proposal other) (size : ℚ)
    (sizeIs : numberOf other ["size"] = .ok size) :
    gate.Reading other account positions marketInfo :=
  { equity := reading.equity
    equityIs := reading.equityIs
    peakEquity := reading.peakEquity
    peakEquityIs := reading.peakEquityIs
    balance := reading.balance
    balanceIs := reading.balanceIs
    dailyPnl := reading.dailyPnl
    dailyPnlIs := reading.dailyPnlIs
    usedMargin := reading.usedMargin
    usedMarginIs := reading.usedMarginIs
    marginCallLevel := reading.marginCallLevel
    marginCallLevelIs := reading.marginCallLevelIs
    notionals := reading.notionals
    notionalsAre := reading.notionalsAre
    size := size
    sizeIs := sizeIs
    entry := reading.entry
    stopLoss := reading.stopLoss
    takeProfit := reading.takeProfit
    levelsAre := agree.levels.trans reading.levelsAre
    quote := reading.quote
    quoteIs := by rw [agree.quoteSide, agree.entryPrice, reading.quoteIs]
    spreadPips := reading.spreadPips
    spreadPipsIs := reading.spreadPipsIs
    stopLossCost := reading.stopLossCost
    stopLossCostIs := by rw [agree.contractSize, reading.stopLossCostIs]
    spreadCost := reading.spreadCost
    spreadCostIs := by rw [agree.contractSize, reading.spreadCostIs] }

/-- A smaller positive size stays within the limits. -/
theorem Reading.Passes.resized {reading : gate.Reading proposal account positions marketInfo}
    (passes : reading.Passes) (agree : AgreeButSize proposal other) {size : ℚ}
    (sizeIs : numberOf other ["size"] = .ok size) (positive : 0 < size)
    (smaller : size ≤ reading.size) : (reading.resized agree size sizeIs).Passes := by
  rcases passes with ⟨accountWithin, tradeWithin, shareWithin, count, exposure⟩
  have contract := tradeWithin.contractSize
  have equityPos := accountWithin.equity
  have entryPos := tradeWithin.entry
  refine ⟨⟨accountWithin.equity, accountWithin.peakEquity, accountWithin.drawdown,
    accountWithin.balance, accountWithin.dailyLoss, accountWithin.aboveMarginCall,
    accountWithin.margin⟩, ⟨positive, ?_, tradeWithin.entry, tradeWithin.stopLoss,
    tradeWithin.takeProfit, tradeWithin.apart, tradeWithin.reward, ?_⟩, ⟨?_, ?_⟩, count, ?_⟩
  · rwa [agree.contractSize]
  · rw [agree.symbolOf]
    exact tradeWithin.spread
  · rw [agree.contractSize]
    refine le_trans ?_ shareWithin.positionSize
    change size * reading.entry * _ / reading.equity ≤ _
    gcongr
  · rw [agree.riskBudgetPct]
    intro budget
    rcases shareWithin.monetaryRisk budget with ⟨within, known⟩
    refine ⟨?_, ?_⟩
    · change (reading.stopLossCost + reading.spreadCost + commissionPerLot other marketInfo) *
        size ≤ gate.riskBudgetPct proposal * reading.equity
      rw [commissionPerLot, agree.rawCommission]
      exact mul_le_budget le_rfl positive.le smaller within (by positivity)
    · rw [commissionKnown, agree.rawCommission, agree _ (by decide)]
      exact known
  · change (if 0 < reading.quote then reading.notionals.sum + size * reading.quote *
      gate.contractSize other marketInfo else reading.notionals.sum) / reading.equity ≤ _
    refine le_trans ?_ exposure
    rw [agree.contractSize]
    split
    · rw [Reading.totalNotional]
      gcongr
    · exact le_rfl

end Size

/-! ## A larger equity -/

section Equity

variable {other : Record}

/-- Two accounts agree on everything but the equity and its peak. -/
def AgreeButEquity (account other : Record) : Prop :=
  ∀ name, name ≠ "equity" → name ≠ "peak_equity" → other.get name = account.get name

theorem agreeButEquity_set (account : Record) (equity peakEquity : Val) :
    AgreeButEquity account ((account.set "equity" equity).set "peak_equity" peakEquity) := by
  intro name notEquity notPeak
  rw [Dict.get_set_of_ne _ notPeak, Dict.get_set_of_ne _ notEquity]

theorem AgreeButEquity.floatOr (agree : AgreeButEquity account other) {name : String}
    (notEquity : name ≠ "equity") (notPeak : name ≠ "peak_equity") (default : ℚ) :
    floatOr other name default = floatOr account name default := by
  unfold Foundation.floatOr
  rw [agree name notEquity notPeak]

/-- The numbers of an account with another equity. -/
def Reading.funded (reading : gate.Reading proposal account positions marketInfo)
    (agree : AgreeButEquity account other) (equity peakEquity : ℚ)
    (equityIs : floatOr other "equity" 0 = .ok equity)
    (peakEquityIs : floatOr other "peak_equity" equity = .ok peakEquity) :
    gate.Reading proposal other positions marketInfo :=
  { reading with
    equity := equity
    equityIs := equityIs
    peakEquity := peakEquity
    peakEquityIs := peakEquityIs
    balanceIs := (agree.floatOr (by decide) (by decide) _).trans reading.balanceIs
    dailyPnlIs := (agree.floatOr (by decide) (by decide) _).trans reading.dailyPnlIs
    usedMarginIs := (agree.floatOr (by decide) (by decide) _).trans reading.usedMarginIs
    marginCallLevelIs :=
      (agree.floatOr (by decide) (by decide) _).trans reading.marginCallLevelIs }

/-- A share of an equity, where the share is not negative, is no more of a larger one. -/
theorem div_le_of_larger {amount equity larger limit : ℚ} (nonneg : 0 ≤ amount)
    (positive : 0 < equity) (le : equity ≤ larger) (within : amount / equity ≤ limit) :
    amount / larger ≤ limit :=
  (div_le_div_of_nonneg_left nonneg positive le).trans within

/-- A larger equity with the peak that follows it stays within the limits. -/
theorem Reading.Passes.funded {reading : gate.Reading proposal account positions marketInfo}
    (passes : reading.Passes) (agree : AgreeButEquity account other) {equity : ℚ}
    (equityIs : floatOr other "equity" 0 = .ok equity)
    (peakEquityIs : floatOr other "peak_equity" equity = .ok (max reading.peakEquity equity))
    (larger : reading.equity ≤ equity) (drawdown : 0 ≤ gate.engine.maxDrawdown)
    (margin : 0 ≤ gate.engine.marginThreshold) :
    (reading.funded agree equity (max reading.peakEquity equity) equityIs peakEquityIs).Passes := by
  rcases passes with ⟨accountWithin, tradeWithin, shareWithin, count, exposure⟩
  have before := accountWithin.equity
  have positive : 0 < equity := before.trans_le larger
  have booked : 0 ≤ reading.notionals.sum :=
    List.sum_nonneg (notionals_nonneg reading.notionalsAre)
  refine ⟨⟨positive, lt_max_of_lt_right positive, ?_, accountWithin.balance,
    accountWithin.dailyLoss, accountWithin.aboveMarginCall.trans_le larger, ?_⟩,
    ⟨tradeWithin.size, tradeWithin.contractSize, tradeWithin.entry, tradeWithin.stopLoss,
      tradeWithin.takeProfit, tradeWithin.apart, tradeWithin.reward, tradeWithin.spread⟩,
    ⟨?_, ?_⟩, count, ?_⟩
  · change (max reading.peakEquity equity - equity) / max reading.peakEquity equity ≤ _
    rcases le_total reading.peakEquity equity with follows | leads
    · rw [max_eq_right follows, sub_self, zero_div]
      exact drawdown
    · rw [max_eq_left leads]
      refine le_trans ?_ accountWithin.drawdown
      have peakPos := accountWithin.peakEquity
      gcongr
  · change reading.usedMargin / equity ≤ _
    rcases le_total 0 reading.usedMargin with used | free
    · exact div_le_of_larger used before larger accountWithin.margin
    · exact (div_nonpos_of_nonpos_of_nonneg free positive.le).trans margin
  · have sized : 0 ≤ reading.size * reading.entry * gate.contractSize proposal marketInfo :=
      mul_nonneg (mul_nonneg tradeWithin.size.le tradeWithin.entry.le) tradeWithin.contractSize.le
    exact div_le_of_larger sized before larger shareWithin.positionSize
  · intro budget
    rcases shareWithin.monetaryRisk budget with ⟨within, known⟩
    refine ⟨within.trans ?_, known⟩
    change _ ≤ gate.riskBudgetPct proposal * equity
    gcongr
  · refine div_le_of_larger ?_ before larger exposure
    split
    · rename_i quotePos
      change 0 ≤ reading.notionals.sum + _
      exact add_nonneg booked (mul_nonneg (mul_nonneg tradeWithin.size.le (le_of_lt quotePos))
        tradeWithin.contractSize.le)
    · exact booked

end Equity

/-! ## Fewer positions -/

/-- Fewer open positions stay within the limits. -/
theorem Reading.Passes.fewer {reading : gate.Reading proposal account positions marketInfo}
    (passes : reading.Passes) {fewer : List Record} (sub : fewer.Sublist positions) :
    ∃ left : gate.Reading proposal account fewer marketInfo, left.Passes := by
  rcases passes with ⟨accountWithin, tradeWithin, shareWithin, count, exposure⟩
  rcases notionals_of_sublist sub reading.notionalsAre with ⟨notionals, notionalsAre, le⟩
  have equityPos := accountWithin.equity
  refine ⟨{ reading with notionals := notionals, notionalsAre := notionalsAre },
    ⟨accountWithin.equity, accountWithin.peakEquity, accountWithin.drawdown,
      accountWithin.balance, accountWithin.dailyLoss, accountWithin.aboveMarginCall,
      accountWithin.margin⟩,
    ⟨tradeWithin.size, tradeWithin.contractSize, tradeWithin.entry, tradeWithin.stopLoss,
      tradeWithin.takeProfit, tradeWithin.apart, tradeWithin.reward, tradeWithin.spread⟩,
    ⟨shareWithin.positionSize, shareWithin.monetaryRisk⟩, ?_, ?_⟩
  · have shorter := sub.length_le
    omega
  · refine le_trans ?_ exposure
    change (if 0 < reading.quote then notionals.sum + _ else notionals.sum) / reading.equity ≤ _
    split
    · rw [Reading.totalNotional]
      gcongr
    · gcongr

/-! ## The gate -/

/-- What the gate has approved it approves with any smaller positive size, with any larger
equity whose peak follows it, and with any of the open positions left out.  The limits on the
drawdown and on the margin are fractions, so that they are not negative. -/
theorem approves_mono (approved : gate.Approves proposal account positions marketInfo)
    (drawdown : 0 ≤ gate.engine.maxDrawdown) (margin : 0 ≤ gate.engine.marginThreshold) :
    (∀ value size smaller, numberOf proposal ["size"] = .ok size →
        value.toFloat = .ok smaller → 0 < smaller → smaller ≤ size →
        gate.Approves (proposal.set "size" value) account positions marketInfo) ∧
      (∀ equityValue peakValue equity peakEquity larger,
        floatOr account "equity" 0 = .ok equity →
        floatOr account "peak_equity" equity = .ok peakEquity →
        equityValue.toFloat = .ok larger → equity ≤ larger →
        peakValue.toFloat = .ok (max peakEquity larger) →
        gate.Approves proposal
          ((account.set "equity" equityValue).set "peak_equity" peakValue) positions
          marketInfo) ∧
      ∀ fewer : List Record, fewer.Sublist positions →
        gate.Approves proposal account fewer marketInfo := by
  rcases approves_iff.mp approved with ⟨reading, passes⟩
  refine ⟨?_, ?_, ?_⟩
  · intro value size smaller sizeIs read positive le
    have same : reading.size = size := Except.ok.inj (reading.sizeIs.symm.trans sizeIs)
    have sized := numberOf_cons (Dict.get_set_self proposal "size" value) read positive.ne' []
    exact approves_iff.mpr
      ⟨_, passes.resized (agreeButSize_set proposal value) sized positive (same ▸ le)⟩
  · intro equityValue peakValue equity peakEquity larger equityIs peakEquityIs read le peakRead
    have sameEquity : reading.equity = equity :=
      Except.ok.inj (reading.equityIs.symm.trans equityIs)
    subst sameEquity
    have samePeak : reading.peakEquity = peakEquity :=
      Except.ok.inj (reading.peakEquityIs.symm.trans peakEquityIs)
    subst samePeak
    have agree := agreeButEquity_set account equityValue peakValue
    have funded : floatOr ((account.set "equity" equityValue).set "peak_equity" peakValue)
        "equity" 0 = .ok larger := by
      rw [floatOr, Dict.get_set_of_ne _ (by decide), Dict.get_set_self]
      exact read
    have peaked : floatOr ((account.set "equity" equityValue).set "peak_equity" peakValue)
        "peak_equity" larger = .ok (max reading.peakEquity larger) := by
      rw [floatOr, Dict.get_set_self]
      exact peakRead
    exact approves_iff.mpr ⟨_, passes.funded agree funded peaked le drawdown margin⟩
  · intro fewer sub
    exact approves_iff.mpr (passes.fewer sub)

end RiskGate

theorem approves_mono_half :
    Sample.riskGate.Approves (Sample.longProposal.set "size" (.num ⟨1 / 200, "0.005"⟩))
      Sample.soundAccount [] Sample.quotedMarket :=
  (RiskGate.approves_mono (RiskGate.approves_of_toOption (by decide +kernel)) (by decide +kernel)
    (by decide +kernel)).1 _ (1 / 100) (1 / 200) (by decide +kernel) rfl (by norm_num)
      (by norm_num)

end EaBot.Risk
