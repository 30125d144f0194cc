import EaBot.Research.BacktestReport

/-!
# The Monte Carlo runner

A strategy is tested again and again with other costs, and the trades of one test with the
given costs are put in another order as often.  Every simulation adds the return and the
drawdown of both to the samples, of which the runner takes the median, the percentiles and
the share of severe drawdowns.

What is drawn at random is an input of the model.  With every sample the results that it was
computed from are kept.
-/

namespace EaBot.Research

open EaBot.Foundation

/-- What a simulation draws: the costs with noise, and an order of the trades. -/
structure Draw where
  spread : ℚ
  slippage : ℚ
  delay : ℚ
  shuffle : List ℚ → List ℚ
  shuffled : ∀ pnls, (shuffle pnls).Perm pnls

/-- What a result says of the strategy. -/
inductive MonteCarloStatus
  | failed
  | insufficientData
  | robust
  | fragile
deriving DecidableEq

/-- The statistics over all simulations. -/
structure MonteCarloResult where
  medianReturn : ℚ
  perc5Return : ℚ
  perc95Drawdown : ℚ
  worstDrawdown : ℚ
  maxLossStreak : Nat
  probSevereDd : ℚ
  status : MonteCarloStatus
  rawReturns : List ℚ
  rawDrawdowns : List ℚ

/-- A result without statistics. -/
def MonteCarloResult.ofStatus (status : MonteCarloStatus) : MonteCarloResult :=
  ⟨0, 0, 0, 0, 0, 0, status, [], []⟩

/-- A return and a drawdown, with the results that they were computed from. -/
structure Sampled where
  ret : ℚ
  drawdown : ℚ
  pnls : List ℚ

/-- The equity of a sequence of results, from zero on. -/
structure EquityStats where
  equity : ℚ
  peak : ℚ
  maxDd : ℚ
  streak : Nat
  maxStreak : Nat

/-- The next result. -/
def EquityStats.next (stats : EquityStats) (pnl : ℚ) : EquityStats :=
  let equity := stats.equity + pnl
  let streak := if pnl < 0 then stats.streak + 1 else 0
  { equity := equity
    peak := if stats.peak < equity then equity else stats.peak
    maxDd := if stats.peak < equity then stats.maxDd else max stats.maxDd (stats.peak - equity)
    streak := streak
    maxStreak := if pnl < 0 then max stats.maxStreak streak else stats.maxStreak }

/-- The total, the deepest fall and the longest streak of losses of a sequence of results. -/
def equityStats (pnls : List ℚ) : EquityStats :=
  pnls.foldl EquityStats.next ⟨0, 0, 0, 0, 0⟩

/-- The sample of a sequence of results. -/
def resampled (pnls : List ℚ) : Sampled :=
  ⟨(equityStats pnls).equity, (equityStats pnls).maxDd, pnls⟩

/-- The simulations so far. -/
structure Simulations where
  samples : List Sampled
  maxLossStreak : Nat
  failed : Bool

/-- The values in ascending order. -/
def ascending (values : List ℚ) : List ℚ :=
  values.mergeSort fun first second => first ≤ second

/-- The median of values. -/
def median (values : List ℚ) : ℚ :=
  let sorted := ascending values
  let half := sorted.length / 2
  if sorted.length % 2 = 1 then sorted.getD half 0
  else (sorted.getD (half - 1) 0 + sorted.getD half 0) / 2

/-- A percentile of at least two values. -/
def percentile (values : List ℚ) (percent : Nat) : ℚ :=
  let sorted := ascending values
  let count := sorted.length + 1
  let place := min (max (percent * count / 100) 1) (sorted.length - 1)
  let delta : ℚ := percent * count - place * 100
  (sorted.getD (place - 1) 0 * (100 - delta) + sorted.getD place 0 * delta) / 100

/-- A runner, with at least one simulation. -/
structure MonteCarloRunner where
  nSims : Nat
  baseCosts : CostModel
  slippageStd : ℚ
  spreadStd : ℚ
  execDelayStd : ℚ
  positive : 0 < nSims

/-- A cost with noise that is not negative, where there is any noise. -/
def perturbed (base deviation noisy : ℚ) : ℚ :=
  if deviation ≤ 0 then base else max noisy 0

/-- The configuration of a backtest with costs and defaults. -/
def configWith (costs : CostModel) : BacktestConfig where
  spec := ⟨5, 1 / 100000, 100000, 1 / 100, 1 / 100⟩
  costs := costs
  risk := ⟨10000, 1 / 100, 10, none⟩
  stopMultiplier := 2
  rewardRisk := 2

namespace MonteCarloRunner

/-- A runner with the given options. -/
def init (nSims : Int) (baseCosts : CostModel) (slippageStd spreadStd execDelayStd : ℚ) :
    MonteCarloRunner where
  nSims := (max 1 nSims).toNat
  baseCosts := baseCosts
  slippageStd := slippageStd
  spreadStd := spreadStd
  execDelayStd := execDelayStd
  positive := by omega

variable (runner : MonteCarloRunner)

/-- The costs of a simulation. -/
def perturbCosts (draw : Draw) : CostModel where
  spreadPoints := perturbed runner.baseCosts.spreadPoints runner.spreadStd draw.spread
  slippagePoints := perturbed runner.baseCosts.slippagePoints runner.slippageStd draw.slippage
  commissionPerLot := runner.baseCosts.commissionPerLot
  swapPerNightPerLot := runner.baseCosts.swapPerNightPerLot
  executionDelayBars := max 0 (Text.roundHalfEven
    (perturbed runner.baseCosts.executionDelayBars runner.execDelayStd draw.delay))

variable (root : ℚ → ℚ) (bars : List Bar) (signal : SignalFn)

/-- A backtest with the costs of a simulation, unless it raises an exception. -/
def runOne (draw : Draw) : Option BacktestReport :=
  (backtest root (configWith (runner.perturbCosts draw)) signal bars).toOption

/-- The sample of a backtest. -/
def sampleOf (report : BacktestReport) : Sampled :=
  ⟨report.metrics.totalReturn, report.metrics.maxDrawdown,
    report.trades.map SimTrade.netPnl⟩

/-- The sample of the trades in another order, where there are any. -/
def reordered (basePnls : List ℚ) (draw : Draw) : List Sampled :=
  if basePnls = [] then [] else [resampled (draw.shuffle basePnls)]

/-- One simulation.  The losing streak of the other order counts even if its backtest raised
an exception. -/
def simulate (basePnls : List ℚ) (state : Simulations) (draw : Draw) : Simulations :=
  let longest :=
    if basePnls = [] then state.maxLossStreak
    else max state.maxLossStreak (equityStats (draw.shuffle basePnls)).maxStreak
  match runner.runOne root bars signal draw with
  | none => ⟨state.samples, longest, true⟩
  | some report =>
      ⟨state.samples ++ sampleOf report :: reordered basePnls draw,
        max longest (lossStreak (report.trades.map SimTrade.netPnl)), state.failed⟩

/-- All simulations. -/
def simulations (basePnls : List ℚ) (draws : Nat → Draw) : Simulations :=
  ((List.range runner.nSims).map draws).foldl (runner.simulate root bars signal basePnls)
    ⟨[], 0, false⟩

/-- The statistics over the samples. -/
def classify (simulations : Simulations) : MonteCarloResult :=
  let returns := simulations.samples.map Sampled.ret
  let drawdowns := simulations.samples.map Sampled.drawdown
  if simulations.failed ∧ returns = [] then .ofStatus .failed
  else if returns.length < 10 then .ofStatus .insufficientData
  else
    let severe := (drawdowns.filter fun drawdown => (20 : ℚ) < drawdown).length
    { medianReturn := median returns
      perc5Return := percentile returns 5
      perc95Drawdown := percentile drawdowns 95
      worstDrawdown := drawdowns.foldl max (drawdowns.headD 0)
      maxLossStreak := simulations.maxLossStreak
      probSevereDd := severe / drawdowns.length
      status := if 0 < median returns ∧ -5 < percentile returns 5 then .robust else .fragile
      rawReturns := returns
      rawDrawdowns := drawdowns }

/-- The simulations of a strategy, of which there are none over few bars. -/
def aggregated (draws : Nat → Draw) : Except String Simulations := do
  if bars.length < 10 then return ⟨[], 0, false⟩
  let baseline ← backtest root (configWith runner.baseCosts) signal bars
  return runner.simulations root bars signal (baseline.trades.map SimTrade.netPnl) draws

/-- The statistics of a strategy. -/
def run (draws : Nat → Draw) : Except String MonteCarloResult := do
  if bars = [] then return .ofStatus .insufficientData
  if bars.length < 10 then return .ofStatus .insufficientData
  let simulations ← runner.aggregated root bars signal draws
  return classify simulations

end MonteCarloRunner

end EaBot.Research
