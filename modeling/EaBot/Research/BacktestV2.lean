import EaBot.Foundation.Causal
import EaBot.Foundation.Datetime
import EaBot.Foundation.Rounding

/-!
# The realistic backtester

A strategy is a signal for every bar.  The backtester opens a position some bars after its
signal, at the open of the bar and with the costs of a fill, and closes it at its stop, at
its target, at an opposite signal or with the last bar.

A division by zero breaks the backtest off, as does the time between two bars of which one
has a time zone and the other has none.  The trades up to then and the positions that were
opened are kept with the state.
-/

namespace EaBot.Research

open EaBot.Foundation

/-! ## Configuration -/

/-- The specification of a symbol. -/
structure SymbolSpec where
  digits : Int
  point : ℚ
  contractSize : ℚ
  minLot : ℚ
  lotStep : ℚ

/-- The costs of an execution. -/
structure CostModel where
  spreadPoints : ℚ
  slippagePoints : ℚ
  commissionPerLot : ℚ
  swapPerNightPerLot : ℚ
  executionDelayBars : Int

/-- How much a position may risk, and in which hours it may be opened. -/
structure RiskConfig where
  startingBalance : ℚ
  riskPerTrade : ℚ
  maxLot : ℚ
  sessionHoursUtc : Option (Int × Int)

/-- The configuration of a backtest. -/
structure BacktestConfig where
  spec : SymbolSpec
  costs : CostModel
  risk : RiskConfig
  stopMultiplier : ℚ
  rewardRisk : ℚ

/-- The prices of a period. -/
structure Bar where
  time : Datetime
  «open» : ℚ
  high : ℚ
  low : ℚ
  close : ℚ

/-- The signal of a strategy at a bar. -/
abbrev SignalFn := List Bar → Nat → Int

/-- A quotient, or the exception that a division by zero raises. -/
def divide (dividend divisor : ℚ) : Except String ℚ :=
  if divisor = 0 then .error "division by zero" else .ok (dividend / divisor)

/-- A value rounded to decimal places, or to a power of ten. -/
def roundDigits (value : ℚ) (digits : Int) : ℚ :=
  if 0 ≤ digits then Text.roundTo digits.toNat value
  else Text.roundHalfEven (value / 10 ^ (-digits).toNat) * 10 ^ (-digits).toNat

namespace SymbolSpec

/-- The price as the broker quotes it. -/
def roundPrice (spec : SymbolSpec) (price : ℚ) : ℚ :=
  roundDigits price spec.digits

/-- The lot as the broker takes it. -/
def normalizeLot (spec : SymbolSpec) (lot : ℚ) : Except String ℚ := do
  let steps := Text.roundHalfEven (← divide lot spec.lotStep)
  let lot := steps * spec.lotStep
  let lot := if lot < spec.minLot then spec.minLot else lot
  return roundDigits lot 2

end SymbolSpec

/-! ## Trades -/

/-- Why a position was closed. -/
inductive ExitReason
  | stopLoss
  | takeProfit
  | signalReversal
  | endOfData
deriving DecidableEq

/-- A simulated trade. -/
structure SimTrade where
  entryTime : Datetime
  exitTime : Datetime
  direction : Int
  entryPrice : ℚ
  exitPrice : ℚ
  lot : ℚ
  grossPnl : ℚ
  commission : ℚ
  swap : ℚ
  spreadCost : ℚ
  slippageCost : ℚ
  netPnl : ℚ
  rMultiple : ℚ
  holdHours : ℚ
  exitReason : ExitReason
  regime : String

/-- An open position. -/
structure Position where
  direction : Int
  entryPrice : ℚ
  entryTime : Datetime
  entryIndex : Nat
  lot : ℚ
  stopPrice : ℚ
  targetPrice : ℚ
  riskPerUnit : ℚ

/-- What an order for the position names. -/
structure PositionTerms where
  direction : Int
  entryPrice : ℚ
  lot : ℚ
  stopPrice : ℚ
  targetPrice : ℚ

/-- The terms of a position. -/
def Position.terms (position : Position) : PositionTerms :=
  ⟨position.direction, position.entryPrice, position.lot, position.stopPrice,
    position.targetPrice⟩

/-- The trend of the closes up to an index. -/
def regimeForSeries (closes : List ℚ) (index : Nat) : String :=
  let start := index - 20
  let window := (closes.drop start).take (index + 1 - start)
  if window.length < 3 then "unknown"
  else if window.headD 0 ≤ window.getLastD 0 then "uptrend"
  else "downtrend"

/-- The hours from one time to another. -/
def hoursBetween (first second : Datetime) : Except String ℚ :=
  if first.offset.isSome = second.offset.isSome then
    .ok ((second.instant - first.instant : Int) / 1000000 / 3600)
  else .error "can't subtract offset-naive and offset-aware datetimes"

/-- Half of the spread as a distance of prices. -/
def halfSpread (config : BacktestConfig) : ℚ :=
  config.costs.spreadPoints * config.spec.point / 2

/-- The slippage as a distance of prices. -/
def slippage (config : BacktestConfig) : ℚ :=
  config.costs.slippagePoints * config.spec.point

/-- The trade of a position that is closed at a bar.  What the market costs is not charged
with the last bar. -/
def closePosition (config : BacktestConfig) (bars : List Bar) (position : Position) (bar : Bar)
    (price : ℚ) (reason : ExitReason) : Except String SimTrade := do
  let exitPrice := config.spec.roundPrice price
  let size := position.lot * config.spec.contractSize
  let gross := (exitPrice - position.entryPrice) * position.direction * size
  let commission := config.costs.commissionPerLot * position.lot * 2
  let holdHours ← hoursBetween position.entryTime bar.time
  let nights : Int := max (holdHours / 24).floor 0
  let swap := config.costs.swapPerNightPerLot * position.lot * nights
  let net := gross - commission + swap
  let riskCash := size * position.riskPerUnit / 2
  let market : Bool := reason ≠ .endOfData
  return {
    entryTime := position.entryTime
    exitTime := bar.time
    direction := position.direction
    entryPrice := position.entryPrice
    exitPrice := exitPrice
    lot := position.lot
    grossPnl := gross
    commission := commission
    swap := swap
    spreadCost := if market then halfSpread config * 2 * size else 0
    slippageCost := if market then slippage config * size else 0
    netPnl := net
    rMultiple := if 0 < riskCash then net / riskCash else 0
    holdHours := holdHours
    exitReason := reason
    regime := regimeForSeries (bars.map Bar.close) position.entryIndex }

/-! ## The loop -/

/-- A backtest under way: the trades with the indices of the bars that ended them, and the
positions that were opened. -/
structure Backtest where
  balance : ℚ
  position : Option Position
  pending : Option (Int × Nat)
  trades : List (Nat × SimTrade)
  opened : List Position
  raised : Option String

/-- Whether new positions may be opened at a bar. -/
def sessionOk (config : BacktestConfig) (bar : Bar) : Bool :=
  match config.risk.sessionHoursUtc with
  | none => true
  | some (first, last) => first ≤ bar.time.time.hour ∧ bar.time.time.hour < last

/-- The range of a bar, or a point where there is none. -/
def barRange (config : BacktestConfig) (bar : Bar) : ℚ :=
  if bar.high - bar.low = 0 then config.spec.point else bar.high - bar.low

/-- The lot that loses the risked part of the balance over a distance of prices. -/
def lotFor (config : BacktestConfig) (balance distance : ℚ) : Except String ℚ := do
  let lot ← sized
  config.spec.normalizeLot (min lot config.risk.maxLot)
where
  /-- The lot before the broker's steps. -/
  sized : Except String ℚ :=
    if 0 < distance then
      divide (balance * config.risk.riskPerTrade) (distance * config.spec.contractSize)
    else .ok (1 / 100)

/-- The price at which a position is opened. -/
def fillPrice (config : BacktestConfig) (direction : Int) (bar : Bar) : ℚ :=
  config.spec.roundPrice (bar.open + direction * (halfSpread config + slippage config))

/-- Open a position at the open of a bar. -/
def openPosition (config : BacktestConfig) (balance : ℚ) (direction : Int) (index : Nat)
    (bar : Bar) : Except String Position := do
  let fill := fillPrice config direction bar
  let distance := config.stopMultiplier * barRange config bar
  let lot ← lotFor config balance distance
  return {
    direction := direction
    entryPrice := fill
    entryTime := bar.time
    entryIndex := index
    lot := lot
    stopPrice := fill - direction * config.stopMultiplier * distance / 2
    targetPrice := fill + direction * config.stopMultiplier * config.rewardRisk * distance / 2
    riskPerUnit := distance }

/-- Where and why a position is closed at a bar.  The stop is reached before the target. -/
def exitAt (signal : SignalFn) (bars : List Bar) (index : Nat) (bar : Bar)
    (position : Position) : Option (ℚ × ExitReason) :=
  let level : Option (ℚ × ExitReason) :=
    if position.direction = 1 then
      if bar.low ≤ position.stopPrice then some (position.stopPrice, .stopLoss)
      else if position.targetPrice ≤ bar.high then some (position.targetPrice, .takeProfit)
      else none
    else
      if position.stopPrice ≤ bar.high then some (position.stopPrice, .stopLoss)
      else if bar.low ≤ position.targetPrice then some (position.targetPrice, .takeProfit)
      else none
  match level with
  | some reached => some reached
  | none =>
      if signal bars index = -position.direction then some (bar.close, .signalReversal)
      else none

namespace Backtest

/-- Ask for a signal when nothing is open or pending. -/
def awaitSignal (config : BacktestConfig) (signal : SignalFn) (bars : List Bar) (index : Nat)
    (bar : Bar) (state : Backtest) : Backtest :=
  if state.position.isNone ∧ state.pending.isNone ∧ sessionOk config bar then
    if signal bars index = 1 ∨ signal bars index = -1 then
      { state with pending := some (signal bars index, index) }
    else state
  else state

/-- The direction of the pending signal, when its position is to be opened. -/
def due (config : BacktestConfig) (index : Nat) (state : Backtest) : Option Int :=
  match state.position, state.pending with
  | none, some (direction, since) =>
      if since + config.costs.executionDelayBars ≤ index then some direction else none
  | _, _ => none

/-- Open the position of the pending signal. -/
def enter (config : BacktestConfig) (index : Nat) (bar : Bar) (state : Backtest) : Backtest :=
  match state.due config index with
  | none => state
  | some direction =>
      match openPosition config state.balance direction index bar with
      | .error raised => { state with raised := some raised }
      | .ok position =>
          { state with
            position := some position, pending := none, opened := state.opened ++ [position] }

/-- Close the open position, when it is to be closed. -/
def manage (config : BacktestConfig) (signal : SignalFn) (bars : List Bar) (index : Nat)
    (bar : Bar) (state : Backtest) : Backtest :=
  match state.position with
  | none => state
  | some position =>
      match exitAt signal bars index bar position with
      | none => state
      | some (price, reason) =>
          match closePosition config bars position bar price reason with
          | .error raised => { state with raised := some raised }
          | .ok trade =>
              { state with
                trades := state.trades ++ [(index, trade)],
                balance := state.balance + trade.netPnl, position := none }

/-- Go on unless an exception has broken the backtest off. -/
def andThen (state : Backtest) (next : Backtest → Backtest) : Backtest :=
  if state.raised.isSome then state else next state

/-- One bar.  The loop meets a bar again after a fill, when neither a signal is asked for
nor a position opened. -/
def step (config : BacktestConfig) (signal : SignalFn) (bars : List Bar) (index : Nat)
    (bar : Bar) (state : Backtest) : Backtest :=
  ((state.andThen (awaitSignal config signal bars index bar)).andThen
    (enter config index bar)).andThen (manage config signal bars index bar)

/-- The start of a backtest. -/
def start (config : BacktestConfig) : Backtest :=
  ⟨config.risk.startingBalance, none, none, [], [], none⟩

/-- Close an open position with the last bar. -/
def finish (config : BacktestConfig) (bars : List Bar) (state : Backtest) : Backtest :=
  match state.position, bars.getLast? with
  | some position, some last =>
      match closePosition config bars position last last.close .endOfData with
      | .error raised => { state with raised := some raised }
      | .ok trade => { state with trades := state.trades ++ [(bars.length - 1, trade)] }
  | _, _ => state

/-- The backtest before the bar of an index. -/
def before (config : BacktestConfig) (signal : SignalFn) (bars : List Bar) (index : Nat) :
    Backtest :=
  loop (step config signal bars) 0 (bars.take index) (start config)

/-- The whole backtest. -/
def run (config : BacktestConfig) (signal : SignalFn) (bars : List Bar) : Backtest :=
  (loop (step config signal bars) 0 bars (start config)).andThen (finish config bars)

/-- The trades that ended before the bar of an index. -/
def tradesBefore (state : Backtest) (index : Nat) : List SimTrade :=
  (state.trades.filter fun trade => trade.1 < index).map Prod.snd

/-- The terms of the positions that were opened at the bar of an index. -/
def openedAt (state : Backtest) (index : Nat) : List PositionTerms :=
  (state.opened.filter fun position => position.entryIndex = index).map Position.terms

end Backtest

end EaBot.Research
