import EaBot.Research.BacktestBook
import Mathlib.Tactic.LinearCombination

/-!
# What a stop costs and a target earns

The lot of a position risks a part of the balance over the distance that its size is
computed from.  Its stop is `stopMultiplier` halves of that distance away, and the risk that
its result is compared with is one half of it.  A trade that loses the risked part at its
stop would therefore need a stop at the whole distance, and one whose result is once its
risk a stop at half of it: no stop does both.
-/

namespace EaBot.Research

open EaBot.Foundation Backtest

/-- A broker who charges nothing. -/
structure CostModel.Free (costs : CostModel) : Prop where
  spread : costs.spreadPoints = 0
  slippage : costs.slippagePoints = 0
  commission : costs.commissionPerLot = 0
  swap : costs.swapPerNightPerLot = 0

/-- The broker took the lot that the risk asks for. -/
def Unaltered (config : BacktestConfig) (balance : ℚ) (position : Position) : Prop :=
  lotFor.sized config balance position.riskPerUnit = .ok position.lot

instance (config : BacktestConfig) (balance : ℚ) (position : Position) :
    Decidable (Unaltered config balance position) :=
  inferInstanceAs (Decidable (_ = _))

/-- A trade loses the risked part of the balance at its stop, which is once its risk, and
earns the reward at its target. -/
structure KeepsRisk (config : BacktestConfig) (balance : ℚ) (trade : SimTrade) : Prop where
  stop : trade.exitReason = .stopLoss →
    trade.netPnl = -(config.risk.riskPerTrade * balance) ∧ trade.rMultiple = -1
  target : trade.exitReason = .takeProfit → trade.rMultiple = config.rewardRisk

/-- A position may be closed for the reason.  A target has to be the reward away from the
entry, measured in halves of the distance.  At a stop the distance and the size of the
contract have to be negative, and the risk of a hundredth of a lot the risked part of the
balance. -/
def MayClose (config : BacktestConfig) (balance : ℚ) (position : Position) :
    ExitReason → Prop
  | .stopLoss =>
      config.spec.contractSize < 0 ∧ position.riskPerUnit < 0 ∧
        position.moved config position.stopPrice = -(position.riskPerUnit / 2) ∧
        config.spec.contractSize * position.riskPerUnit / 200 =
          config.risk.riskPerTrade * balance
  | .takeProfit =>
      0 < position.size config * position.riskPerUnit ∧
        position.moved config position.targetPrice =
          config.rewardRisk * position.riskPerUnit / 2
  | .signalReversal => True
  | .endOfData => True

/-! ## One trade -/

section Trade

variable {config : BacktestConfig} {balance : ℚ} {position : Position}

theorem lot_of_unaltered (unaltered : Unaltered config balance position) :
    if 0 < position.riskPerUnit then
      position.size config * position.riskPerUnit = config.risk.riskPerTrade * balance
    else position.lot = 1 / 100 := by
  unfold Unaltered lotFor.sized divide at unaltered
  by_cases far : 0 < position.riskPerUnit
  · rw [if_pos far] at unaltered ⊢
    split_ifs at unaltered with zero
    have lot : balance * config.risk.riskPerTrade /
        (position.riskPerUnit * config.spec.contractSize) = position.lot :=
      Except.ok.inj unaltered
    rw [div_eq_iff zero] at lot
    rw [Position.size]
    linarith
  · rw [if_neg far] at unaltered ⊢
    exact (Except.ok.inj unaltered).symm

/-- A ratio to the risk, which is nothing without a risk. -/
theorem ratio_eq_iff {net risk ratio : ℚ} (some_ : ratio ≠ 0) :
    (if 0 < risk then net / risk else 0) = ratio ↔ 0 < risk ∧ net = ratio * risk := by
  split_ifs with positive
  · rw [div_eq_iff positive.ne']
    exact ⟨fun same => ⟨positive, same⟩, And.right⟩
  · exact ⟨fun none_ => absurd none_.symm some_, fun both => absurd both.1 positive⟩

theorem stop_keeps_iff (unaltered : Unaltered config balance position) (moved : ℚ) :
    (moved * position.size config = -(config.risk.riskPerTrade * balance) ∧
        (if 0 < position.size config * position.riskPerUnit / 2 then
          moved * position.size config / (position.size config * position.riskPerUnit / 2)
        else 0) = -1) ↔
      config.spec.contractSize < 0 ∧ position.riskPerUnit < 0 ∧
        moved = -(position.riskPerUnit / 2) ∧
        config.spec.contractSize * position.riskPerUnit / 200 =
          config.risk.riskPerTrade * balance := by
  have lot := lot_of_unaltered unaltered
  rw [ratio_eq_iff (by norm_num)]
  constructor
  · rintro ⟨loses, positive, once⟩
    have sized : position.size config ≠ 0 := by
      intro none_
      simp [none_] at positive
    have half : moved = -(position.riskPerUnit / 2) := by
      apply mul_right_cancel₀ sized
      linarith
    have whole : position.size config * position.riskPerUnit / 2 =
        config.risk.riskPerTrade * balance := by
      linarith
    split_ifs at lot with far
    · -- The lot risks the part of the balance over the whole distance.
      linarith
    · have size : position.size config = config.spec.contractSize / 100 := by
        rw [Position.size, lot]
        ring
      rw [size] at positive whole
      have near : position.riskPerUnit ≠ 0 := by
        intro none_
        simp [none_] at positive
      have negative : position.riskPerUnit < 0 := lt_of_le_of_ne (not_lt.mp far) near
      refine ⟨?_, negative, half, by linarith⟩
      by_contra other
      have product := mul_nonpos_of_nonneg_of_nonpos (not_lt.mp other) negative.le
      linarith
  · rintro ⟨turned, negative, half, whole⟩
    rw [if_neg (not_lt.mpr negative.le)] at lot
    have size : position.size config = config.spec.contractSize / 100 := by
      rw [Position.size, lot]
      ring
    have product := mul_pos_of_neg_of_neg turned negative
    rw [size, half]
    refine ⟨by linarith, by linarith, by ring⟩

theorem target_keeps_iff (rewards : 0 < config.rewardRisk) (moved : ℚ) :
    (if 0 < position.size config * position.riskPerUnit / 2 then
        moved * position.size config / (position.size config * position.riskPerUnit / 2)
      else 0) = config.rewardRisk ↔
      0 < position.size config * position.riskPerUnit ∧
        moved = config.rewardRisk * position.riskPerUnit / 2 := by
  rw [ratio_eq_iff rewards.ne']
  constructor
  · rintro ⟨positive, earns⟩
    have sized : position.size config ≠ 0 := by
      intro none_
      simp [none_] at positive
    refine ⟨by linarith, ?_⟩
    apply mul_right_cancel₀ sized
    linarith
  · rintro ⟨positive, earns⟩
    rw [earns]
    exact ⟨by linarith, by ring⟩

/-- A position that is closed at its stop or at its target is closed at that price. -/
theorem price_of_closes {signal : SignalFn} {bars : List Bar} {index : Nat} {bar : Bar}
    {price : ℚ} {reason : ExitReason}
    (closing : Closes config signal bars index bar position price reason) :
    (reason = .stopLoss → price = position.stopPrice) ∧
      (reason = .takeProfit → price = position.targetPrice) := by
  cases closing with
  | exit found held reached =>
      unfold exitAt at reached
      split_ifs at reached <;> cases reached <;> simp
  | last found held => simp

/-- Without costs a trade keeps the risk exactly when its position may be closed. -/
theorem keepsRisk_iff {signal : SignalFn} {bars : List Bar} {index : Nat} {bar : Bar}
    {price : ℚ} {reason : ExitReason} {trade : SimTrade} (free : config.costs.Free)
    (rewards : 0 < config.rewardRisk) (unaltered : Unaltered config balance position)
    (closing : Closes config signal bars index bar position price reason)
    (closes : closePosition config bars position bar price reason = .ok trade) :
    KeepsRisk config balance trade ↔ MayClose config balance position reason := by
  have net : trade.netPnl = position.moved config price * position.size config := by
    rw [netPnl_of_closePosition closes, free.commission, free.swap]
    ring
  have ratio := rMultiple_of_closePosition closes
  rw [net] at ratio
  rcases fields_of_closePosition closes with ⟨-, -, -, -, because⟩
  rcases price_of_closes closing with ⟨stop, target⟩
  have split : KeepsRisk config balance trade ↔
      (reason = .stopLoss → trade.netPnl = -(config.risk.riskPerTrade * balance) ∧
          trade.rMultiple = -1) ∧
        (reason = .takeProfit → trade.rMultiple = config.rewardRisk) := by
    rw [← because]
    exact ⟨fun keeps => ⟨keeps.stop, keeps.target⟩, fun both => ⟨both.1, both.2⟩⟩
  rw [split, net, ratio]
  cases reason with
  | stopLoss =>
      rw [stop rfl] at *
      simpa [MayClose] using stop_keeps_iff unaltered (position.moved config position.stopPrice)
  | takeProfit =>
      rw [target rfl]
      simpa [MayClose] using target_keeps_iff rewards (position.moved config position.targetPrice)
  | signalReversal => simp [MayClose]
  | endOfData => simp [MayClose]

/-- How far the prices move to a level that needs no rounding. -/
theorem moved_levels {direction : Int} {index : Nat} {bar : Bar}
    (directed : direction = 1 ∨ direction = -1)
    (opens : openPosition config balance direction index bar = .ok position) :
    (config.spec.roundPrice position.stopPrice = position.stopPrice →
        position.moved config position.stopPrice =
          -(config.stopMultiplier * position.riskPerUnit / 2)) ∧
      (config.spec.roundPrice position.targetPrice = position.targetPrice →
        position.moved config position.targetPrice =
          config.stopMultiplier * config.rewardRisk * position.riskPerUnit / 2) := by
  rcases openPosition_eq_ok opens with ⟨lot, -, rfl⟩
  have square : (direction : ℚ) * direction = 1 := by
    rcases directed with rfl | rfl <;> norm_num
  unfold Position.moved
  constructor
  · intro unrounded
    rw [unrounded]
    dsimp only
    linear_combination -(config.stopMultiplier * (config.stopMultiplier * barRange config bar) / 2)
      * square
  · intro unrounded
    rw [unrounded]
    dsimp only
    linear_combination config.stopMultiplier * config.rewardRisk *
      (config.stopMultiplier * barRange config bar) / 2 * square

end Trade

/-! ## A backtest -/

/-- Without costs, and with the lots that the risk asks for, the trades of a backtest keep
the risk exactly when no position is closed that may not be. -/
theorem run_keepsRisk_iff {config : BacktestConfig} {signal : SignalFn} {bars : List Bar}
    (free : config.costs.Free) (rewards : 0 < config.rewardRisk)
    (returned : (run config signal bars).raised = none)
    (unaltered : ∀ position ∈ (run config signal bars).opened,
      Unaltered config (before config signal bars position.entryIndex).balance position) :
    (∀ position exit, (position, exit) ∈ (run config signal bars).book.deals →
        KeepsRisk config (before config signal bars position.entryIndex).balance exit.2) ↔
      ∀ index bar position price reason,
        Closes config signal bars index bar position price reason →
        MayClose config (before config signal bars position.entryIndex).balance position
          reason := by
  rw [deals_iff returned fun position trade =>
    KeepsRisk config (before config signal bars position.entryIndex).balance trade]
  have lots : ∀ {index bar position price reason},
      Closes config signal bars index bar position price reason →
      Unaltered config (before config signal bars position.entryIndex).balance position := by
    intro index bar position price reason closing
    rcases deal_of_closes returned closing with ⟨trade, -, dealt⟩
    exact unaltered position (List.of_mem_zip dealt).1
  constructor
  · intro keeps index bar position price reason closing
    rcases deal_of_closes returned closing with ⟨trade, closes, -⟩
    exact (keepsRisk_iff free rewards (lots closing) closing closes).mp
      (keeps index bar position price reason trade closing closes)
  · intro may index bar position price reason trade closing closes
    exact (keepsRisk_iff free rewards (lots closing) closing closes).mpr
      (may index bar position price reason closing)

namespace Sample

/-- The default configuration with a broker who charges nothing. -/
def freeConfig : BacktestConfig :=
  { backtestConfig with costs := ⟨0, 0, 0, 0, 1⟩ }

theorem freeConfig_free : freeConfig.costs.Free :=
  ⟨rfl, rfl, rfl, rfl⟩

theorem unaltered_freeConfig :
    ∀ position ∈ (run freeConfig buyFirst fallingHours).opened,
      Unaltered freeConfig (before freeConfig buyFirst fallingHours position.entryIndex).balance
        position := by
  decide +kernel

end Sample

/-- The position that is bought in the first hour keeps its risk exactly when it may be
closed in the third. -/
theorem run_keepsRisk_fallingHours :
    (∀ position exit,
        (position, exit) ∈
          (run Sample.freeConfig Sample.buyFirst Sample.fallingHours).book.deals →
        KeepsRisk Sample.freeConfig
          (before Sample.freeConfig Sample.buyFirst Sample.fallingHours
            position.entryIndex).balance exit.2) ↔
      ∀ index bar position price reason,
        Closes Sample.freeConfig Sample.buyFirst Sample.fallingHours index bar position price
          reason →
        MayClose Sample.freeConfig
          (before Sample.freeConfig Sample.buyFirst Sample.fallingHours
            position.entryIndex).balance position reason :=
  run_keepsRisk_iff Sample.freeConfig_free (by decide +kernel) (by decide +kernel)
    Sample.unaltered_freeConfig

/-- By default a trade that is stopped out loses the risked part of the balance, and twice
its risk. -/
theorem stopped_trade_loses_twice_its_risk :
    Sample.freeConfig.costs.Free ∧ 0 < Sample.freeConfig.stopMultiplier ∧
      0 < Sample.freeConfig.rewardRisk ∧
      (run Sample.freeConfig Sample.buyFirst Sample.fallingHours).raised = none ∧
      (∀ position ∈ (run Sample.freeConfig Sample.buyFirst Sample.fallingHours).opened,
        Unaltered Sample.freeConfig
          (before Sample.freeConfig Sample.buyFirst Sample.fallingHours
            position.entryIndex).balance position) ∧
      ¬ ∀ position exit,
        (position, exit) ∈
          (run Sample.freeConfig Sample.buyFirst Sample.fallingHours).book.deals →
        KeepsRisk Sample.freeConfig
          (before Sample.freeConfig Sample.buyFirst Sample.fallingHours
            position.entryIndex).balance exit.2 := by
  refine ⟨Sample.freeConfig_free, by decide +kernel, by decide +kernel, by decide +kernel,
    Sample.unaltered_freeConfig, ?_⟩
  intro keeps
  have once : ∀ deal ∈ (run Sample.freeConfig Sample.buyFirst Sample.fallingHours).book.deals,
      deal.2.2.exitReason = .stopLoss → deal.2.2.rMultiple = -1 := by
    rintro ⟨position, exit⟩ dealt stopped
    exact ((keeps position exit dealt).stop stopped).2
  revert once
  decide +kernel

end EaBot.Research
