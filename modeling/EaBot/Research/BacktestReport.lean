import EaBot.Foundation.Tally
import EaBot.Research.BacktestV2

/-!
# The report of the realistic backtester

The trades of a backtest are summed up in metrics, and their results by the session and the
hour of the entry and by the regime.  The square root of the floating point numbers is a
parameter.
-/

namespace EaBot.Research

open EaBot.Foundation

/-- A quotient that may have nothing to be divided by. -/
inductive Ratio
  | finite (value : ℚ)
  | infinite
deriving DecidableEq

/-- The metrics of a backtest. -/
structure BacktestMetrics where
  totalReturn : ℚ
  netProfit : ℚ
  profitFactor : Ratio
  expectancy : ℚ
  winRate : ℚ
  lossRate : ℚ
  averageR : ℚ
  maxDrawdown : ℚ
  /-- This one is left out without trades. -/
  maxDrawdownAbs : Option ℚ
  maxConsecutiveLosses : Nat
  recoveryFactor : ℚ
  sharpe : ℚ
  sortino : Ratio
  tradeFrequency : ℚ
  averageHoldTime : ℚ

/-- The result of a backtest. -/
structure BacktestReport where
  metrics : BacktestMetrics
  profitBySession : Dict String ℚ
  profitByHour : Dict String ℚ
  profitByRegime : Dict String ℚ
  trades : List SimTrade

/-- The session of an hour. -/
def sessionForHour (hour : Nat) : String :=
  if hour < 7 then "asia"
  else if hour < 12 then "london"
  else if hour < 17 then "london_ny_overlap"
  else if hour < 22 then "new_york"
  else "other"

/-- The highest value so far and the deepest falls below it. -/
structure Drawdown where
  peak : ℚ
  absolute : ℚ
  percent : ℚ

/-- The next value of the equity. -/
def Drawdown.next (drawdown : Drawdown) (value : ℚ) : Drawdown :=
  let peak := max drawdown.peak value
  let fall := peak - value
  { peak := peak
    absolute := max drawdown.absolute fall
    percent := if 0 < peak then max drawdown.percent (fall / peak * 100) else drawdown.percent }

/-- The equity after every trade. -/
def equityCurve (starting : ℚ) (pnls : List ℚ) : List ℚ :=
  pnls.scanl (· + ·) starting

/-- The falls of the equity of a sequence of results. -/
def drawdownOf (starting : ℚ) (pnls : List ℚ) : Drawdown :=
  (equityCurve starting pnls).foldl Drawdown.next ⟨starting, 0, 0⟩

/-- The losses in a row up to now, and the most there were. -/
structure LossStreak where
  streak : Nat
  longest : Nat

/-- The next result. -/
def LossStreak.next (losses : LossStreak) (pnl : ℚ) : LossStreak :=
  if pnl < 0 then ⟨losses.streak + 1, max losses.longest (losses.streak + 1)⟩
  else ⟨0, losses.longest⟩

/-- The most losses in a row. -/
def lossStreak (pnls : List ℚ) : Nat :=
  (pnls.foldl LossStreak.next ⟨0, 0⟩).longest

/-- The metrics without trades. -/
def BacktestMetrics.none_ : BacktestMetrics where
  totalReturn := 0
  netProfit := 0
  profitFactor := .finite 0
  expectancy := 0
  winRate := 0
  lossRate := 0
  averageR := 0
  maxDrawdown := 0
  maxDrawdownAbs := none
  maxConsecutiveLosses := 0
  recoveryFactor := 0
  sharpe := 0
  sortino := .finite 0
  tradeFrequency := 0
  averageHoldTime := 0

section Aggregate

variable (root : ℚ → ℚ)

/-- The mean of the results over their deviation. -/
def sharpeOf (pnls : List ℚ) : ℚ :=
  let mean := pnls.sum / pnls.length
  if 1 < pnls.length then
    let deviation := root ((pnls.map fun pnl => (pnl - mean) ^ 2).sum / (pnls.length - 1 : Nat))
    if 0 < deviation then mean / deviation else 0
  else 0

/-- The mean of the results over the deviation of the losses. -/
def sortinoOf (pnls : List ℚ) : Ratio :=
  let mean := pnls.sum / pnls.length
  let downside := pnls.filter (· < 0)
  if 1 < pnls.length then
    if downside = [] then .infinite
    else
      let deviation := root ((downside.map fun pnl => pnl ^ 2).sum / downside.length)
      .finite (if 0 < deviation then mean / deviation else 0)
  else .finite 0

/-- The hours from the first entry to the last exit. -/
def totalHours (trades : List SimTrade) : Except String ℚ :=
  match trades.head?, trades.getLast? with
  | some first, some last =>
      if 2 ≤ trades.length then hoursBetween first.entryTime last.exitTime
      else .ok first.holdHours
  | _, _ => .ok 0

/-- The report on the trades of a backtest. -/
def aggregate (config : BacktestConfig) (trades : List SimTrade) :
    Except String BacktestReport := do
  if trades = [] then return ⟨.none_, .empty, .empty, .empty, []⟩
  let starting := config.risk.startingBalance
  let pnls := trades.map SimTrade.netPnl
  let count : ℚ := pnls.length
  let wins := pnls.filter (0 < ·)
  let losses := pnls.filter (· < 0)
  let netProfit := pnls.sum
  let grossLoss := |losses.sum|
  let drawdown := drawdownOf starting pnls
  let hours ← totalHours trades
  let totalReturn ← divide netProfit starting
  let metrics : BacktestMetrics := {
    totalReturn := totalReturn * 100
    netProfit := netProfit
    profitFactor := if 0 < grossLoss then .finite (wins.sum / grossLoss) else .infinite
    expectancy := netProfit / count
    winRate := wins.length / count * 100
    lossRate := losses.length / count * 100
    averageR := (trades.map SimTrade.rMultiple).sum / count
    maxDrawdown := drawdown.percent
    maxDrawdownAbs := some drawdown.absolute
    maxConsecutiveLosses := lossStreak pnls
    recoveryFactor := if 0 < drawdown.absolute then netProfit / drawdown.absolute else 0
    sharpe := sharpeOf root pnls
    sortino := sortinoOf root pnls
    tradeFrequency := if 0 < hours then count / hours * 24 else 0
    averageHoldTime := (trades.map SimTrade.holdHours).sum / count }
  return {
    metrics := metrics
    profitBySession :=
      Dict.tally (fun trade => sessionForHour trade.entryTime.time.hour) SimTrade.netPnl trades
    profitByHour := Dict.tally (fun trade => toString trade.entryTime.time.hour) SimTrade.netPnl
      trades
    profitByRegime := Dict.tally SimTrade.regime SimTrade.netPnl trades
    trades := trades }

/-- The report on a backtest, or the exception that broke it off. -/
def backtest (config : BacktestConfig) (signal : SignalFn) (bars : List Bar) :
    Except String BacktestReport :=
  match (Backtest.run config signal bars).raised with
  | some raised => .error raised
  | none => aggregate root config ((Backtest.run config signal bars).trades.map Prod.snd)

end Aggregate

end EaBot.Research
