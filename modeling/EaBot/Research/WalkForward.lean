import EaBot.Research.BacktestReport
import Mathlib.Data.Rat.Floor

/-!
# Walk-forward validation

The bars are divided into windows, each with bars to train on and the bars after them to
test on.  A backtest of every test segment passes its window, fails it, or has too few
trades to say.
-/

namespace EaBot.Research

open EaBot.Foundation

/-- What a window says of the strategy. -/
inductive WindowStatus
  | insufficient
  | pass
  | fail
deriving DecidableEq

/-- The result of one window. -/
structure WindowResult where
  period : String
  trades : Nat
  expectancyR : ℚ
  maxDdPct : ℚ
  profitFactor : Ratio
  status : WindowStatus
  trainStart : Datetime
  trainEnd : Datetime
  testStart : Datetime
  testEnd : Datetime

/-- The windows and how many of them passed and failed. -/
structure WalkForwardReport where
  windows : List WindowResult
  passCount : Nat
  failCount : Nat
  robust : Bool

/-- The bars of a window: the first to train on, the first to test on, and the one after the
last. -/
structure Segment where
  trainStart : Nat
  trainEnd : Nat
  testEnd : Nat
deriving DecidableEq

/-- A fit of the strategy to the bars to train on, which may raise an exception or come to
nothing. -/
abbrev ParamSearch := List Bar → Except String (Option SignalFn)

/-- A validator, with at least one window and a ratio away from zero and one. -/
structure WalkForwardValidator where
  backtester : BacktestConfig
  nWindows : Nat
  trainRatio : ℚ
  minTrades : Int
  minProfitFactor : ℚ
  minExpectancyR : ℚ
  maxDdPct : ℚ
  positive : 1 ≤ nWindows
  low : 1 / 10 ≤ trainRatio
  high : trainRatio ≤ 9 / 10

/-- The label of a quarter. -/
def quarterLabel (time : Datetime) : String :=
  toString time.year ++ "-Q" ++ toString ((time.month - 1) / 3 + 1)

/-- The item of a list at an index. -/
def itemAt {α : Type} (items : List α) (index : Nat) : Except String α :=
  match items[index]? with
  | some item => .ok item
  | none => .error "list index out of range"

namespace WalkForwardValidator

/-- A validator with the given options, of which the backtester uses its defaults for the
stops. -/
def init (backtester : BacktestConfig) (nWindows : Int) (trainRatio : ℚ) (minTrades : Int)
    (minProfitFactor minExpectancyR maxDdPct : ℚ) : WalkForwardValidator where
  backtester := { backtester with stopMultiplier := 2, rewardRisk := 2 }
  nWindows := (max 1 nWindows).toNat
  trainRatio := min (max trainRatio (1 / 10)) (9 / 10)
  minTrades := minTrades
  minProfitFactor := minProfitFactor
  minExpectancyR := minExpectancyR
  maxDdPct := maxDdPct
  positive := by omega
  low := le_min (le_max_right _ _) (by norm_num)
  high := min_le_right _ _

variable (validator : WalkForwardValidator)

/-- The bars of a window. -/
def windowSize (bars : Nat) : Nat :=
  max 2 (bars / validator.nWindows)

/-- The bars of a window to train on. -/
def trainLen (bars : Nat) : Nat :=
  max 1 ⌊(validator.windowSize bars : ℚ) * validator.trainRatio⌋.toNat

/-- Where a window starts. -/
def startOf (bars window : Nat) : Nat :=
  if 1 < validator.nWindows then
    window * (bars - validator.windowSize bars) / max 1 (validator.nWindows - 1)
  else 0

/-- The segments of a window, unless there are no bars to test on. -/
def segment? (bars window : Nat) : Option Segment :=
  let start := validator.startOf bars window
  let trainEnd := min (start + validator.trainLen bars) (bars - 1)
  let testEnd := min (trainEnd + (validator.windowSize bars - validator.trainLen bars)) bars
  if bars ≤ trainEnd ∨ testEnd ≤ trainEnd then none else some ⟨start, trainEnd, testEnd⟩

/-- The segments of the windows. -/
def splitBounds (bars : Nat) : List Segment :=
  if bars < validator.nWindows + 1 then []
  else (List.range validator.nWindows).filterMap (validator.segment? bars)

/-- The segments of the windows, or one window with half of the bars. -/
def bounds (bars : Nat) : List Segment :=
  if validator.splitBounds bars = [] then [⟨0, bars / 2, bars⟩] else validator.splitBounds bars

/-- The signal for a window: the fitted one, where there is one. -/
def fitted (signal : SignalFn) (search : Option ParamSearch) (train : List Bar) : SignalFn :=
  match search with
  | none => signal
  | some search =>
      match search train with
      | .ok (some fitted) => fitted
      | .ok none => signal
      | .error _ => signal

/-- What a report says of the strategy. -/
def statusOf (report : BacktestReport) : WindowStatus :=
  if (report.trades.length : Int) < validator.minTrades then .insufficient
  else if enough report.metrics.profitFactor ∧
      validator.minExpectancyR ≤ report.metrics.averageR ∧
      report.metrics.maxDrawdown ≤ validator.maxDdPct then .pass
  else .fail
where
  /-- The profit factor is large enough. -/
  enough : Ratio → Bool
    | .finite factor => validator.minProfitFactor ≤ factor
    | .infinite => true

/-- The profit factor as it is reported. -/
def roundedFactor : Ratio → Ratio
  | .finite factor => .finite (roundDigits factor 4)
  | .infinite => .infinite

variable (root : ℚ → ℚ)

/-- The result of a window, unless it has less than two bars to test on. -/
def window (bars : List Bar) (signal : SignalFn) (search : Option ParamSearch)
    (segment : Segment) : Except String (Option WindowResult) := do
  let train := (bars.take segment.trainEnd).drop segment.trainStart
  let test := (bars.take segment.testEnd).drop segment.trainEnd
  if test.length < 2 then return none
  let report ← backtest root validator.backtester (fitted signal search train) test
  let first ← itemAt test 0
  let last ← itemAt test (test.length - 1)
  let trainFirst ← itemAt bars segment.trainStart
  let trainLast ← itemAt bars segment.trainEnd
  return some {
    period := quarterLabel first.time
    trades := report.trades.length
    expectancyR := roundDigits report.metrics.averageR 4
    maxDdPct := roundDigits report.metrics.maxDrawdown 4
    profitFactor := roundedFactor report.metrics.profitFactor
    status := validator.statusOf report
    trainStart := trainFirst.time
    trainEnd := trainLast.time
    testStart := first.time
    testEnd := last.time }

/-- The windows with a status. -/
def withStatus (status : WindowStatus) (windows : List WindowResult) : Nat :=
  (windows.filter fun window => window.status = status).length

/-- The report on windows. -/
def reportOf (windows : List WindowResult) : WalkForwardReport where
  windows := windows
  passCount := withStatus .pass windows
  failCount := withStatus .fail windows
  robust := 0 < withStatus .pass windows ∧ withStatus .fail windows = 0 ∧
    windows.length = validator.nWindows

/-- The validation of a strategy. -/
def validate (bars : List Bar) (signal : SignalFn) (search : Option ParamSearch) :
    Except String WalkForwardReport := do
  let windows ← (validator.bounds bars.length).mapM (validator.window root bars signal search)
  return validator.reportOf windows.reduceOption

end WalkForwardValidator

end EaBot.Research
