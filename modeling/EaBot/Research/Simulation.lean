import EaBot.Foundation.Value
import EaBot.Research.BacktestV2
import EaBot.Trading.Indicators

/-!
# The simulation of an experiment

A strategy reads one or two indicators at every bar and opens a position at the close.  An
open position is closed at its stop, at its target, at a signal of the strategy or with the
last bar.  Stops and targets are distances in the average true range of the bar at which
the position is opened, and there are none without highs and lows for every price.

The parameters of an experiment are values of any kind; one that is no number breaks the
simulation off.
-/

namespace EaBot.Research

open EaBot.Foundation EaBot.Trading

/-! ## Parameters -/

/-- An integer parameter. -/
def intParam (params : Record) (name : String) (default : Int) : Except String Int :=
  match params.get name with
  | none => .ok default
  | some value => value.toInt

/-- A numeric parameter. -/
def floatParam (params : Record) (name : String) (default : ℚ) : Except String ℚ :=
  match params.get name with
  | none => .ok default
  | some value => value.toFloat

/-- A strategy with its parameters.  A strategy of another name has those of the crossing
averages, but no signals. -/
inductive Strategy
  | rsiReversal (period : Int) (overbought oversold : ℚ)
  | macdCrossover (fast slow signal : Int)
  | emaCrossover (fast slow : Int)
  | other (fast slow : Int)

namespace Strategy

/-- The periods of two crossing averages. -/
def emaPeriods (params : Record) : Except String (Int × Int) := do
  let fast ← intParam params "fast_ema_period" 3
  let slow ← intParam params "slow_ema_period" 8
  let fast := if fast < 1 then 1 else fast
  return (fast, if slow ≤ fast then fast + 1 else slow)

/-- The strategy that a name and parameters stand for. -/
def parse (strategyType : String) (params : Record) : Except String Strategy :=
  if strategyType = "rsi_reversal" then do
    let period ← intParam params "rsi_period" 14
    let overbought ← floatParam params "rsi_overbought" 70
    let oversold ← floatParam params "rsi_oversold" 30
    return .rsiReversal (if period < 1 then 14 else period) overbought oversold
  else if strategyType = "macd_crossover" then do
    let fast ← intParam params "macd_fast_period" 12
    let slow ← intParam params "macd_slow_period" 26
    let signal ← intParam params "macd_signal_period" 9
    let fast := if fast < 1 then 12 else fast
    return .macdCrossover fast (if slow ≤ fast then 26 else slow)
      (if signal < 1 then 9 else signal)
  else if strategyType = "ema_crossover" then do
    let periods ← emaPeriods params
    return .emaCrossover periods.1 periods.2
  else do
    let periods ← emaPeriods params
    return .other periods.1 periods.2

/-- The bars before the first signal. -/
def minBars : Strategy → Int
  | rsiReversal period _ _ => period + 1
  | macdCrossover _ slow _ => slow
  | emaCrossover _ slow | other _ slow => slow

end Strategy

/-! ## Bars -/

/-- What a strategy reads at a bar. -/
inductive Reading
  | averages (fast slow : ℚ)
  | strength (value : Option ℚ)
  | histogram (value : Option ℚ)
  | nothing

/-- What a strategy reads at every price. -/
def readings (strategy : Strategy) (prices : List ℚ) : Except String (List Reading) :=
  match strategy with
  | .rsiReversal period _ _ => (rsiSeries prices period).map (List.map Reading.strength)
  | .macdCrossover fast slow signal =>
      (macdSeries prices fast slow signal).map fun values =>
        values.histogram.map Reading.histogram
  | .emaCrossover fast slow => do
      let fastValues ← emaSeries prices fast
      let slowValues ← emaSeries prices slow
      return List.zipWith Reading.averages fastValues slowValues
  | .other fast slow => do
      let _ ← emaSeries prices fast
      let _ ← emaSeries prices slow
      return prices.map fun _ => Reading.nothing

/-- A bar of the simulation. -/
structure SimBar where
  close : ℚ
  high : ℚ
  low : ℚ
  atr : Option ℚ
  reading : Reading

/-- The parameters of a simulation. -/
structure SimConfig where
  strategy : Strategy
  stopMultiplier : ℚ
  rewardRisk : ℚ

/-- Whether there are a high and a low for every price. -/
def usesAtr (prices : List ℚ) (highs lows : Option (List ℚ)) : Bool :=
  match highs, lows with
  | some highs, some lows => highs.length = prices.length ∧ lows.length = prices.length
  | _, _ => false

/-- The value, or another one where it is not positive. -/
def positiveOr (value fallback : ℚ) : ℚ :=
  if value ≤ 0 then fallback else value

/-- Read the parameters and compute every series.  Without highs and lows a close stands for
both. -/
def prepare (useAtr : Bool) (params : Record) (strategyType : String)
    (prices highs lows : List ℚ) : Except String (SimConfig × List SimBar) := do
  let strategy ← Strategy.parse strategyType params
  let atr ← atrValues
  let stopMultiplier ← floatParam params "atr_stop_multiplier" 2
  let rewardRisk ← floatParam params "reward_risk_ratio" 2
  let read ← readings strategy prices
  let levels := (if useAtr then highs else prices).zip ((if useAtr then lows else prices).zip atr)
  let bars := List.zipWith
    (fun price rest => (⟨price, rest.1.1, rest.1.2.1, rest.1.2.2, rest.2⟩ : SimBar)) prices
    (levels.zip read)
  return (⟨strategy, positiveOr stopMultiplier 2, positiveOr rewardRisk 2⟩, bars)
where
  /-- The average true range at every price. -/
  atrValues : Except String (List (Option ℚ)) :=
    if useAtr then (intParam params "atr_period" 14).bind (atrSeries highs lows prices)
    else .ok (List.replicate prices.length none)

/-! ## The loop -/

/-- A trade of the simulation. -/
structure SimulatedTrade where
  «entry» : ℚ
  «exit» : ℚ
  direction : Int
  pnl : ℚ
  exitReason : ExitReason
  stopLoss : Option ℚ
  takeProfit : Option ℚ
  atrAtEntry : Option ℚ
  entryBar : Nat
  exitBar : Nat
deriving DecidableEq

/-- An open position of the simulation. -/
structure SimPosition where
  entryPrice : ℚ
  direction : Int
  stopLoss : Option ℚ
  takeProfit : Option ℚ
  entryAtr : Option ℚ
  entryBar : Nat

/-- The trade of a position. -/
def SimPosition.trade (position : SimPosition) (price : ℚ) (reason : ExitReason) (bar : Nat) :
    SimulatedTrade where
  «entry» := position.entryPrice
  «exit» := price
  direction := position.direction
  pnl := (price - position.entryPrice) * position.direction
  exitReason := reason
  stopLoss := position.stopLoss
  takeProfit := position.takeProfit
  atrAtEntry := position.entryAtr
  entryBar := position.entryBar
  exitBar := bar

/-- A simulation under way, with the last reading that had a value. -/
structure Simulation where
  position : Option SimPosition
  previous : Option ℚ
  trades : List SimulatedTrade

/-- A signal to open in a direction, or to close; none is zero and false. -/
structure StrategySignal where
  «entry» : Int
  «exit» : Bool

namespace Simulation

/-- A signal to open, where nothing is open, or to close. -/
def choose (state : Simulation) («entry» : Int) («exit» : Int → Bool) : StrategySignal :=
  match state.position with
  | none => ⟨«entry», false⟩
  | some position => ⟨0, «exit» position.direction⟩

/-- The direction of a crossing, if there is one. -/
def crossing (up down : Prop) [Decidable up] [Decidable down] : Int :=
  if up then 1 else if down then -1 else 0

/-- The signal of a strategy at a bar and the reading that it remembers.  At a bar without
one the loop goes on at once. -/
def signalAt (strategy : Strategy) (index : Nat) (bar : SimBar) (state : Simulation) :
    Option (StrategySignal × Option ℚ) :=
  match strategy, bar.reading with
  | .emaCrossover _ _, .averages fast slow =>
      if (index : Int) < strategy.minBars then none
      else if fast = 0 ∨ slow = 0 then none
      else
        some (state.choose (crossing (slow < fast) (fast < slow)) fun direction =>
          (direction = 1 ∧ fast < slow) ∨ (direction = -1 ∧ slow < fast), state.previous)
  | .rsiReversal _ overbought oversold, .strength (some value) =>
      if (index : Int) < strategy.minBars then none
      else
        some (state.choose
          (crossing (∃ last ∈ state.previous, last < oversold ∧ oversold ≤ value)
            (∃ last ∈ state.previous, overbought < last ∧ value ≤ overbought)) fun direction =>
          (direction = 1 ∧ overbought < value) ∨ (direction = -1 ∧ value < oversold),
          some value)
  | .macdCrossover _ _ _, .histogram (some value) =>
      if (index : Int) < strategy.minBars then none
      else
        some (state.choose
          (crossing (∃ last ∈ state.previous, last ≤ 0 ∧ 0 < value)
            (∃ last ∈ state.previous, 0 ≤ last ∧ value < 0)) fun direction =>
          (direction = 1 ∧ value < 0) ∨ (direction = -1 ∧ 0 < value), some value)
  | .other _ _, _ => some (⟨0, false⟩, state.previous)
  | _, _ => none

/-- Open a position at the close of a bar. -/
def openAt (config : SimConfig) (index : Nat) (bar : SimBar) (direction : Int) : SimPosition :=
  let atr := bar.atr.filter fun atr => 0 < atr
  { entryPrice := bar.close
    direction := direction
    stopLoss := atr.map fun atr => bar.close - direction * config.stopMultiplier * atr
    takeProfit := atr.map fun atr =>
      bar.close + direction * config.stopMultiplier * config.rewardRisk * atr
    entryAtr := bar.atr
    entryBar := index }

/-- Where a bar reaches the stop or the target of a position. -/
def levelReached (bar : SimBar) (position : SimPosition) : Option (ℚ × ExitReason) :=
  match position.stopLoss, position.takeProfit with
  | some stop, some target =>
      if position.direction = 1 then
        if bar.low ≤ stop then some (stop, .stopLoss)
        else if target ≤ bar.high then some (target, .takeProfit)
        else none
      else
        if stop ≤ bar.high then some (stop, .stopLoss)
        else if bar.low ≤ target then some (target, .takeProfit)
        else none
  | _, _ => none

/-- Where and why a position is closed at a bar. -/
def exitOf (bar : SimBar) (signal : StrategySignal) (position : SimPosition) :
    Option (ℚ × ExitReason) :=
  (levelReached bar position).or
    (if signal.exit then some (bar.close, .signalReversal) else none)

/-- One bar. -/
def step (config : SimConfig) (index : Nat) (bar : SimBar) (state : Simulation) : Simulation :=
  match signalAt config.strategy index bar state with
  | none => state
  | some (signal, remembered) =>
      let state := { state with previous := remembered }
      match state.position with
      | none =>
          if signal.entry = 0 then state
          else { state with position := some (openAt config index bar signal.entry) }
      | some position =>
          match exitOf bar signal position with
          | none => state
          | some (price, reason) =>
              { state with
                position := none, trades := state.trades ++ [position.trade price reason index] }

/-- Close the last position with the last bar. -/
def finish (bars : List SimBar) (state : Simulation) : List SimulatedTrade :=
  match state.position, bars.getLast? with
  | some position, some last =>
      state.trades ++ [position.trade last.close .endOfData (bars.length - 1)]
  | _, _ => state.trades

/-- Simulate the bars. -/
def run (config : SimConfig) (bars : List SimBar) : List SimulatedTrade :=
  finish bars (loop (step config) 0 bars ⟨none, none, []⟩)

end Simulation

/-- Simulate the trades of a strategy over a series of prices. -/
def simulate (prices : List ℚ) (params : Record) (highs lows : Option (List ℚ))
    (strategyType : String) : Except String (List SimulatedTrade) :=
  (prepare (usesAtr prices highs lows) params strategyType prices (highs.getD [])
    (lows.getD [])).map fun prepared => Simulation.run prepared.1 prepared.2

end EaBot.Research
