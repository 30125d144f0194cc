import EaBot.Research.BacktestBook
import Mathlib.Tactic.LinearCombination

/-!
# What a trade is charged

The costs of a trade are documented as the spread, one half of it on entry and one on exit,
the slippage of the entry, a commission for the round turn and a swap for every night.  The
half of the spread on entry and the slippage are part of the fill.  The half on exit is
noted with the trade and not charged, and the commission is charged twice.
-/

namespace EaBot.Research

open EaBot.Foundation Backtest

/-- The price between bid and ask at which a position is closed. -/
def midExit (position : Position) (reason : ExitReason) (bar : Bar) : ℚ :=
  match reason with
  | .stopLoss => position.stopPrice
  | .takeProfit => position.targetPrice
  | .signalReversal => bar.close
  | .endOfData => bar.close

/-- Neither the fill nor the price of the exit needs to be rounded. -/
structure Unrounded (config : BacktestConfig) (position : Position) (first : Bar)
    (price : ℚ) : Prop where
  fill : fillPrice config position.direction first =
    first.open + position.direction * (halfSpread config + slippage config)
  exit : config.spec.roundPrice price = price

/-- The result of a trade with the costs that are documented. -/
def documentedNet (config : BacktestConfig) (trade : SimTrade) (entered exited : ℚ) : ℚ :=
  trade.direction * (exited - entered) * trade.lot * config.spec.contractSize -
    config.costs.spreadPoints * config.spec.point * trade.lot * config.spec.contractSize -
    slippage config * trade.lot * config.spec.contractSize -
    config.costs.commissionPerLot * trade.lot +
    config.costs.swapPerNightPerLot * trade.lot * trade.nights

/-- Every trade whose prices need no rounding is charged as documented. -/
def ChargedAsDocumented (config : BacktestConfig) (signal : SignalFn) (bars : List Bar) : Prop :=
  ∀ position exit first last, (position, exit) ∈ (run config signal bars).book.deals →
    bars[position.entryIndex]? = some first → bars[exit.1]? = some last →
    Unrounded config position first (midExit position exit.2.exitReason last) →
    exit.2.netPnl = documentedNet config exit.2 first.open
      (midExit position exit.2.exitReason last)

section Trade

variable {config : BacktestConfig} {signal : SignalFn} {bars : List Bar} {index : Nat}
  {position : Position} {first bar : Bar} {price : ℚ} {reason : ExitReason} {trade : SimTrade}

theorem midExit_of_closes
    (closing : Closes config signal bars index bar position price reason) :
    price = midExit position reason bar := by
  cases closing with
  | exit found held reached =>
      unfold exitAt at reached
      split_ifs at reached <;> cases reached <;> rfl
  | last found held => rfl

/-- A fill that is not rounded is the open of its bar with the costs of the entry. -/
theorem entryPrice_of_openedAt (opened : OpenedAt config signal bars position)
    (found : bars[position.entryIndex]? = some first)
    (unrounded : Unrounded config position first price) :
    (position.direction : ℚ) * position.direction = 1 ∧
      position.entryPrice =
        first.open + position.direction * (halfSpread config + slippage config) := by
  rcases opened with ⟨other, direction, same, directed, opens⟩
  rw [found] at same
  cases same
  rcases openPosition_eq_ok opens with ⟨lot, -, built⟩
  have turned : position.direction = direction := by rw [built]
  have filled : position.entryPrice = fillPrice config direction first := by rw [built]
  rw [filled, ← turned, unrounded.fill]
  refine ⟨?_, rfl⟩
  rw [turned]
  rcases directed with rfl | rfl <;> norm_num

/-- What a trade is charged differs from what is documented by one commission and by half of
the spread. -/
theorem netPnl_sub_documentedNet
    (closes : closePosition config bars position bar price reason = .ok trade)
    (opened : OpenedAt config signal bars position)
    (found : bars[position.entryIndex]? = some first)
    (unrounded : Unrounded config position first price) :
    trade.netPnl - documentedNet config trade first.open price =
      position.lot * (halfSpread config * config.spec.contractSize -
        config.costs.commissionPerLot) := by
  rcases entryPrice_of_openedAt opened found unrounded with ⟨square, entered⟩
  rcases fields_of_closePosition closes with ⟨-, -, turned, lot, -⟩
  have net := netPnl_of_closePosition closes
  rw [Position.moved, Position.size, unrounded.exit, entered] at net
  have spread : config.costs.spreadPoints * config.spec.point = 2 * halfSpread config := by
    rw [halfSpread]
    ring
  rw [net, documentedNet, lot, turned]
  linear_combination -(halfSpread config + slippage config) * position.lot *
    config.spec.contractSize * square + position.lot * config.spec.contractSize * spread

/-- A trade is charged as documented when it has no lot, or when the commission is worth
half of the spread, and only then. -/
theorem charged_iff
    (closes : closePosition config bars position bar price reason = .ok trade)
    (opened : OpenedAt config signal bars position)
    (found : bars[position.entryIndex]? = some first)
    (unrounded : Unrounded config position first price) :
    trade.netPnl = documentedNet config trade first.open price ↔
      position.lot = 0 ∨
        config.costs.commissionPerLot = halfSpread config * config.spec.contractSize := by
  rw [← sub_eq_zero, netPnl_sub_documentedNet closes opened found unrounded, mul_eq_zero,
    sub_eq_zero]
  exact or_congr_right eq_comm

end Trade

/-- A backtest charges its trades as documented exactly when the commission for a lot is
worth half of the spread, or no position with a lot is closed at prices that need no
rounding. -/
theorem run_charged_iff {config : BacktestConfig} {signal : SignalFn} {bars : List Bar}
    (returned : (run config signal bars).raised = none) :
    ChargedAsDocumented config signal bars ↔
      config.costs.commissionPerLot = halfSpread config * config.spec.contractSize ∨
        ∀ index bar position price reason first,
          Closes config signal bars index bar position price reason →
          bars[position.entryIndex]? = some first → Unrounded config position first price →
          position.lot = 0 := by
  constructor
  · intro charged
    by_cases worth : config.costs.commissionPerLot = halfSpread config * config.spec.contractSize
    · exact Or.inl worth
    · right
      intro index bar position price reason first closing found unrounded
      rcases deal_of_closes returned closing with ⟨trade, closes, dealt⟩
      have last := found_of_closes closing
      have mid := midExit_of_closes closing
      rcases fields_of_closePosition closes with ⟨-, -, -, -, because⟩
      rw [mid, ← because] at unrounded
      have net := charged position (index, trade) first bar dealt found last unrounded
      rw [because] at net unrounded
      rw [← mid] at net unrounded
      have cases_ := (charged_iff closes (openedAt_of_closes closing) found unrounded).mp net
      exact cases_.resolve_right worth
  · intro condition position exit first last dealt found lastFound unrounded
    rcases closes_of_deal returned dealt with ⟨bar, price, reason, closing, closes⟩
    have same := found_of_closes closing
    have mid := midExit_of_closes closing
    rcases fields_of_closePosition closes with ⟨-, -, -, -, because⟩
    rw [lastFound] at same
    cases same
    rw [because] at unrounded ⊢
    rw [← mid] at unrounded ⊢
    rw [charged_iff closes (openedAt_of_closes closing) found unrounded]
    rcases condition with worth | empty
    · exact Or.inr worth
    · exact Or.inl (empty exit.1 last position price reason first closing found unrounded)

theorem run_charged_fallingHours :
    ChargedAsDocumented Sample.backtestConfig Sample.buyFirst Sample.fallingHours ↔
      Sample.backtestConfig.costs.commissionPerLot =
          halfSpread Sample.backtestConfig * Sample.backtestConfig.spec.contractSize ∨
        ∀ index bar position price reason first,
          Closes Sample.backtestConfig Sample.buyFirst Sample.fallingHours index bar position
            price reason →
          Sample.fallingHours[position.entryIndex]? = some first →
          Unrounded Sample.backtestConfig position first price → position.lot = 0 :=
  run_charged_iff (by decide +kernel)

/-- A trade with the default costs pays another commission and saves the spread of its
exit. -/
theorem default_trade_charged_otherwise :
    (run Sample.backtestConfig Sample.buyFirst Sample.fallingHours).raised = none ∧
      ¬ ChargedAsDocumented Sample.backtestConfig Sample.buyFirst Sample.fallingHours := by
  refine ⟨by decide +kernel, ?_⟩
  intro charged
  have net : ∀ deal ∈
      (run Sample.backtestConfig Sample.buyFirst Sample.fallingHours).book.deals,
      deal.2.2.netPnl = documentedNet Sample.backtestConfig deal.2.2 (11 / 10)
        deal.1.stopPrice := by
    rintro ⟨position, exit⟩ dealt
    have known : ∀ deal ∈
        (run Sample.backtestConfig Sample.buyFirst Sample.fallingHours).book.deals,
        deal.1.entryIndex = 1 ∧ deal.2.1 = 2 ∧ deal.2.2.exitReason = .stopLoss ∧
          fillPrice Sample.backtestConfig deal.1.direction (Sample.hourBar 1 (1 / 1000)) =
            (Sample.hourBar 1 (1 / 1000)).open +
              deal.1.direction * (halfSpread Sample.backtestConfig +
                slippage Sample.backtestConfig) ∧
          Sample.backtestConfig.spec.roundPrice deal.1.stopPrice = deal.1.stopPrice := by
      decide +kernel
    rcases known ⟨position, exit⟩ dealt with ⟨first, last, stopped, fill, level⟩
    dsimp only at first last stopped fill level
    have net := charged position exit (Sample.hourBar 1 (1 / 1000)) (Sample.hourBar 2 (1 / 100))
      dealt (by rw [first]; rfl) (by rw [last]; rfl)
    rw [stopped] at net
    exact net ⟨fill, level⟩
  revert net
  decide +kernel

end EaBot.Research
