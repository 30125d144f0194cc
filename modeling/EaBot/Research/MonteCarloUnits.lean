import EaBot.Foundation.Drawdown
import EaBot.Research.LookAhead
import EaBot.Research.MonteCarlo
import Mathlib.Algebra.Order.BigOperators.Group.List

/-!
# The units of the Monte Carlo samples

The backtester reports its return and its drawdown as percentages.  The trades in another
order are summed up in cash, and both are put into one list.  With a balance of ten thousand
a percentage is a hundredth of the cash or less, so the two are the same only when there is
no cash to speak of.
-/

namespace EaBot.Research

open EaBot.Foundation

/-- The return of a sequence of results as a percentage of a balance. -/
def percentReturn (starting : ℚ) (pnls : List ℚ) : ℚ :=
  pnls.sum / starting * 100

/-- The drawdown of a sequence of results as a percentage of the peaks. -/
def percentDrawdown (starting : ℚ) (pnls : List ℚ) : ℚ :=
  (drawdownOf starting pnls).percent

/-- The sample has the percentages of the results that it was computed from. -/
structure Sampled.InPercent (starting : ℚ) (sample : Sampled) : Prop where
  ret : sample.ret = percentReturn starting sample.pnls
  drawdown : sample.drawdown = percentDrawdown starting sample.pnls

/-! ## Drawdowns -/

/-- The percentage of a fall, where there is a peak. -/
def percentFall (peak value : ℚ) : ℚ :=
  if 0 < peak then (peak - value) / peak * 100 else 0

theorem percentDrawdown_le_iff (starting : ℚ) (pnls : List ℚ) (bound : ℚ) :
    percentDrawdown starting pnls ≤ bound ↔
      0 ≤ bound ∧ ∀ point ∈ (Summit.mk starting starting).points pnls,
        percentFall point.peak point.value ≤ bound := by
  have loop : ∀ (values : List ℚ) (drawdown : Drawdown), 0 ≤ drawdown.percent →
      (values.foldl Drawdown.next drawdown).percent =
        (values.foldl (Deepest.next percentFall) ⟨drawdown.peak, drawdown.percent⟩).depth := by
    intro values
    induction values with
    | nil => exact fun drawdown _ => rfl
    | cons value rest ih =>
        intro drawdown deep
        have step : (⟨(drawdown.next value).peak, (drawdown.next value).percent⟩ :
            Deepest ℚ ℚ) =
              Deepest.next percentFall ⟨drawdown.peak, drawdown.percent⟩ value := by
          unfold Drawdown.next Deepest.next percentFall
          dsimp only
          split_ifs
          · rfl
          · rw [max_eq_left deep]
        have deeper : 0 ≤ (drawdown.next value).percent := by
          unfold Drawdown.next
          dsimp only
          split_ifs
          · exact deep.trans (le_max_left _ _)
          · exact deep
        rw [List.foldl_cons, List.foldl_cons, ih _ deeper, step]
  rw [percentDrawdown, drawdownOf, loop _ _ le_rfl, equityCurve, Deepest.depth_foldl_le_iff,
    max_self]

/-- What a sequence of results comes to in cash. -/
theorem equity_equityStats (pnls : List ℚ) : (equityStats pnls).equity = pnls.sum := by
  have grows : ∀ stats : EquityStats,
      (pnls.foldl EquityStats.next stats).equity = stats.equity + pnls.sum := by
    induction pnls with
    | nil => simp
    | cons pnl rest ih =>
        intro stats
        rw [List.foldl_cons, ih, List.sum_cons, ← add_assoc]
        rfl
  rw [equityStats, grows, zero_add]

/-- The largest of the falls of all points. -/
theorem maxDd_equityStats_le_iff (pnls : List ℚ) (bound : ℚ) :
    (equityStats pnls).maxDd ≤ bound ↔
      ∀ point ∈ (Summit.mk (0 : ℚ) 0).points pnls, point.peak - point.value ≤ bound := by
  -- The deepest fall is no less than the fall at the current point.
  have loop : ∀ stats : EquityStats, stats.equity ≤ stats.peak →
      stats.peak - stats.equity ≤ stats.maxDd →
      ((pnls.foldl EquityStats.next stats).maxDd ≤ bound ↔
        stats.maxDd ≤ bound ∧ ∀ point ∈ (Summit.mk stats.peak stats.equity).points pnls,
          point.peak - point.value ≤ bound) := by
    induction pnls with
    | nil =>
        intro stats below deep
        simp only [List.foldl_nil, Summit.points, List.forall_mem_singleton]
        exact ⟨fun shallow => ⟨shallow, deep.trans shallow⟩, And.left⟩
    | cons pnl rest ih =>
        intro stats below deep
        have peak : (stats.next pnl).peak = max stats.peak (stats.equity + pnl) := by
          unfold EquityStats.next
          dsimp only
          split_ifs with higher
          · exact (max_eq_right higher.le).symm
          · exact (max_eq_left (not_lt.mp higher)).symm
        have depth : (stats.next pnl).maxDd =
            max stats.maxDd ((stats.next pnl).peak - (stats.next pnl).equity) := by
          unfold EquityStats.next
          dsimp only
          split_ifs with higher
          · rw [sub_self, max_eq_left]
            linarith
          · rfl
        have onwards := ih (stats.next pnl) (by rw [peak]; exact le_max_right _ _)
          (by rw [depth]; exact le_max_right _ _)
        have here : Summit.mk (stats.next pnl).peak (stats.next pnl).equity =
            (Summit.mk stats.peak stats.equity).after pnl := by
          rw [peak]
          rfl
        rw [List.foldl_cons, onwards, depth, max_le_iff, Summit.points, List.forall_mem_cons,
          here]
        constructor
        · rintro ⟨⟨before, -⟩, later⟩
          exact ⟨before, deep.trans before, later⟩
        · rintro ⟨before, -, later⟩
          have first := later _ (Summit.mem_points_self _ rest)
          rw [← here] at first
          exact ⟨⟨before, first⟩, later⟩
  rw [equityStats, loop ⟨0, 0, 0, 0, 0⟩ le_rfl (by simp)]
  constructor
  · exact And.right
  · intro shallow
    have first := shallow _ (Summit.mem_points_self _ pnls)
    exact ⟨by simpa using first, shallow⟩

/-! ## One sample -/

/-- The metrics of a backtest are percentages of its trades. -/
theorem inPercent_sampleOf {root : ℚ → ℚ} {config : BacktestConfig} {trades : List SimTrade}
    {report : BacktestReport} (summed : aggregate root config trades = .ok report) :
    (MonteCarloRunner.sampleOf report).InPercent config.risk.startingBalance := by
  unfold aggregate at summed
  split_ifs at summed with empty
  · cases summed
    constructor
    · simp [MonteCarloRunner.sampleOf, BacktestMetrics.none_, percentReturn]
    · simp [MonteCarloRunner.sampleOf, BacktestMetrics.none_, percentDrawdown, drawdownOf,
        equityCurve, Drawdown.next]
  · rcases of_bind_eq_ok summed with ⟨hours, -, summed⟩
    rcases of_bind_eq_ok summed with ⟨total, divided, summed⟩
    cases summed
    unfold divide at divided
    split_ifs at divided
    cases divided
    exact ⟨rfl, rfl⟩

theorem inPercent_of_runOne {runner : MonteCarloRunner} {root : ℚ → ℚ} {bars : List Bar}
    {signal : SignalFn} {draw : Draw} {report : BacktestReport}
    (found : runner.runOne root bars signal draw = some report) :
    (MonteCarloRunner.sampleOf report).InPercent 10000 := by
  have reported := ok_of_toOption found
  unfold backtest at reported
  split at reported
  · cases reported
  · exact inPercent_sampleOf reported

/-- The trades of a backtest in another order come to its own return when they come to
nothing, and only then. -/
theorem ret_resampled_iff {root : ℚ → ℚ} {costs : CostModel} {bars : List Bar}
    {signal : SignalFn} {report : BacktestReport}
    (reported : backtest root (configWith costs) signal bars = .ok report) {pnls : List ℚ}
    (order : pnls.Perm (report.trades.map SimTrade.netPnl)) :
    (resampled pnls).ret = report.metrics.totalReturn ↔ pnls.sum = 0 := by
  have unit : report.metrics.totalReturn = percentReturn 10000 pnls := by
    unfold backtest at reported
    split at reported
    · cases reported
    · rw [percentReturn, order.sum_eq]
      exact (inPercent_sampleOf reported).ret
  rw [unit, resampled, equity_equityStats, percentReturn]
  constructor
  · intro same
    linarith
  · intro nothing
    simp [nothing]

/-- From a balance of ten thousand a percentage is a hundredth of the cash at most. -/
theorem percentDrawdown_le (pnls : List ℚ) :
    percentDrawdown 10000 pnls ≤ (equityStats pnls).maxDd / 100 := by
  have falls := (maxDd_equityStats_le_iff pnls _).mp le_rfl
  have least := falls _ (Summit.mem_points_self _ pnls)
  rw [percentDrawdown_le_iff]
  refine ⟨by linarith, ?_⟩
  have start : Summit.mk (10000 : ℚ) 10000 = (Summit.mk (0 : ℚ) 0).shift 10000 := by
    simp [Summit.shift]
  rw [start, Summit.points_shift]
  intro point member
  rcases List.mem_map.mp member with ⟨cash, walked, rfl⟩
  have bounds := Summit.bounds_of_mem_points le_rfl walked
  have fall := falls cash walked
  have high : (0 : ℚ) < 10000 + cash.peak := by linarith [bounds.1]
  unfold percentFall Summit.shift
  rw [if_pos high, add_sub_add_left_eq_sub, div_mul_eq_mul_div, div_le_div_iff₀ high (by norm_num)]
  have product := mul_le_mul fall (by linarith [bounds.1] : (10000 : ℚ) ≤ 10000 + cash.peak)
    (by norm_num) (by linarith)
  linarith

theorem percentDrawdown_nonneg (starting : ℚ) (pnls : List ℚ) :
    0 ≤ percentDrawdown starting pnls :=
  ((percentDrawdown_le_iff starting pnls _).mp le_rfl).1

/-- Cash is a percentage of ten thousand when it is nothing, and only then. -/
theorem inPercent_resampled_iff (pnls : List ℚ) :
    (resampled pnls).InPercent 10000 ↔ ∀ pnl ∈ pnls, pnl = 0 := by
  have falls := maxDd_equityStats_le_iff pnls 0
  have steps : (∀ point ∈ (Summit.mk (0 : ℚ) 0).points pnls, point.peak - point.value ≤ 0) ↔
      ∀ pnl ∈ pnls, 0 ≤ pnl := by
    simp only [sub_nonpos]
    exact Summit.forall_peak_le_iff rfl pnls
  rw [steps] at falls
  have small := percentDrawdown_le pnls
  have least := percentDrawdown_nonneg 10000 pnls
  constructor
  · intro units
    have total := units.ret
    have depth := units.drawdown
    simp only [resampled, equity_equityStats, percentReturn] at total depth
    have gains := falls.mp (by linarith)
    have nothing : pnls.sum = 0 := by linarith
    exact fun pnl member => List.all_zero_of_le_zero_le_of_sum_eq_zero gains nothing member
  · intro zero
    have nothing : pnls.sum = 0 := List.sum_eq_zero zero
    have shallow := falls.mpr fun pnl member => (zero pnl member).ge
    constructor
    · simp [resampled, equity_equityStats, percentReturn, nothing]
    · simp only [resampled]
      linarith

/-! ## All samples -/

namespace MonteCarloRunner

theorem mem_reordered_iff {basePnls : List ℚ} {draw : Draw} {sample : Sampled} :
    sample ∈ reordered basePnls draw ↔
      basePnls ≠ [] ∧ sample = resampled (draw.shuffle basePnls) := by
  unfold reordered
  split_ifs with empty
  · simp [empty]
  · simp [empty]

/-- Whether the results of a backtest are in percent does not depend on their order. -/
theorem inPercent_reordered_iff (basePnls : List ℚ) (draw : Draw) :
    (∀ sample ∈ reordered basePnls draw, sample.InPercent 10000) ↔ ∀ pnl ∈ basePnls, pnl = 0 := by
  have order := draw.shuffled basePnls
  have zero : (∀ pnl ∈ draw.shuffle basePnls, pnl = 0) ↔ ∀ pnl ∈ basePnls, pnl = 0 :=
    forall_congr' fun pnl => by rw [order.mem_iff]
  constructor
  · intro units pnl member
    have unit : (resampled (draw.shuffle basePnls)).InPercent 10000 :=
      units _ (mem_reordered_iff.mpr ⟨List.ne_nil_of_mem member, rfl⟩)
    exact zero.mp ((inPercent_resampled_iff _).mp unit) pnl member
  · intro nothing sample listed
    rw [(mem_reordered_iff.mp listed).2, inPercent_resampled_iff]
    exact zero.mpr nothing

variable (runner : MonteCarloRunner) (root : ℚ → ℚ) (bars : List Bar) (signal : SignalFn)

/-- The samples are those of the simulations whose backtest has returned. -/
theorem mem_samples_iff (basePnls : List ℚ) (draws : Nat → Draw) (sample : Sampled) :
    sample ∈ (runner.simulations root bars signal basePnls draws).samples ↔
      ∃ count < runner.nSims, ∃ report,
        runner.runOne root bars signal (draws count) = some report ∧
          (sample = sampleOf report ∨ sample ∈ reordered basePnls (draws count)) := by
  have grows : ∀ (drawn : List Draw) (state : Simulations),
      sample ∈ (drawn.foldl (runner.simulate root bars signal basePnls) state).samples ↔
        sample ∈ state.samples ∨ ∃ draw ∈ drawn, ∃ report,
          runner.runOne root bars signal draw = some report ∧
            (sample = sampleOf report ∨ sample ∈ reordered basePnls draw) := by
    intro drawn
    induction drawn with
    | nil => simp
    | cons draw rest ih =>
        intro state
        rw [List.foldl_cons, ih]
        simp only [List.mem_cons, exists_eq_or_imp]
        rw [← or_assoc]
        apply or_congr_left
        unfold simulate
        cases runner.runOne root bars signal draw with
        | none => simp
        | some report => simp
  rw [simulations, grows]
  simp

/-- What the runner reports as raw samples are the samples of its simulations. -/
theorem raw_of_run {draws : Nat → Draw} {result : MonteCarloResult}
    (returned : runner.run root bars signal draws = .ok result)
    (reported : result.rawReturns ≠ []) :
    ∃ simulations, runner.aggregated root bars signal draws = .ok simulations ∧
      result.rawReturns = simulations.samples.map Sampled.ret ∧
      result.rawDrawdowns = simulations.samples.map Sampled.drawdown := by
  unfold run at returned
  split_ifs at returned with empty short
  · cases returned
    exact absurd rfl reported
  · cases returned
    exact absurd rfl reported
  · rcases of_bind_eq_ok returned with ⟨simulations, aggregates, classified⟩
    cases classified
    refine ⟨simulations, aggregates, ?_⟩
    unfold classify at reported ⊢
    dsimp only at reported ⊢
    split_ifs at reported ⊢ with failed few
    · exact absurd rfl reported
    · exact absurd rfl reported
    · exact ⟨rfl, rfl⟩
    · exact ⟨rfl, rfl⟩

end MonteCarloRunner

open MonteCarloRunner

/-- All samples of a runner are percentages of ten thousand exactly when there are too few
bars, no trade of the given costs has a result, or no simulation returns. -/
theorem samples_inPercent_iff {runner : MonteCarloRunner} {root : ℚ → ℚ} {bars : List Bar}
    {signal : SignalFn} {draws : Nat → Draw} {simulations : Simulations}
    (returned : runner.aggregated root bars signal draws = .ok simulations) :
    (∀ sample ∈ simulations.samples, sample.InPercent 10000) ↔
      bars.length < 10 ∨
        (∀ report, backtest root (configWith runner.baseCosts) signal bars = .ok report →
          ∀ trade ∈ report.trades, trade.netPnl = 0) ∨
        ∀ count < runner.nSims, runner.runOne root bars signal (draws count) = none := by
  unfold aggregated at returned
  split_ifs at returned with short
  · cases returned
    simp [short]
  · rcases of_bind_eq_ok returned with ⟨baseline, tested, simulated⟩
    cases simulated
    have base : (∀ report, backtest root (configWith runner.baseCosts) signal bars = .ok report →
        ∀ trade ∈ report.trades, trade.netPnl = 0) ↔
          ∀ pnl ∈ baseline.trades.map SimTrade.netPnl, pnl = 0 := by
      rw [tested]
      simp
    simp only [runner.mem_samples_iff, base, short, false_or]
    constructor
    · intro units
      by_cases none_ : ∀ count < runner.nSims,
          runner.runOne root bars signal (draws count) = none
      · exact Or.inr none_
      · left
        push Not at none_
        rcases none_ with ⟨count, within, some_⟩
        rcases Option.ne_none_iff_exists'.mp some_ with ⟨report, found⟩
        apply (inPercent_reordered_iff _ (draws count)).mp
        exact fun sample listed => units sample ⟨count, within, report, found, Or.inr listed⟩
    · rintro condition sample ⟨count, within, report, found, here | other⟩
      · rw [here]
        exact inPercent_of_runOne found
      · rcases condition with zero | none_
        · exact (inPercent_reordered_iff _ (draws count)).mpr zero sample other
        · rw [none_ count within] at found
          cases found

namespace Sample

/-- Ten hours, of which the last one closes higher. -/
def tenHours : List Bar :=
  hoursClosing (List.replicate 9 (11 / 10) ++ [1101 / 1000])

/-- A runner of five simulations with the default costs and no noise. -/
def runner : MonteCarloRunner :=
  .init 5 backtestConfig.costs 0 0 0

/-- Draws that leave the order of the trades. -/
def draws (_ : Nat) : Draw :=
  ⟨0, 0, 0, id, fun _ => List.Perm.refl _⟩

theorem tenHours_aggregated :
    ((runner.aggregated id tenHours buyFirst draws).toOption.map fun simulations =>
      simulations.samples.all fun sample => sample.ret = percentReturn 10000 sample.pnls) =
        some false := by
  decide +kernel

end Sample

theorem samples_inPercent_tenHours :
    ∃ simulations, Sample.runner.aggregated id Sample.tenHours Sample.buyFirst Sample.draws =
        .ok simulations ∧
      ((∀ sample ∈ simulations.samples, sample.InPercent 10000) ↔
        Sample.tenHours.length < 10 ∨
          (∀ report, backtest id (configWith Sample.runner.baseCosts) Sample.buyFirst
              Sample.tenHours = .ok report → ∀ trade ∈ report.trades, trade.netPnl = 0) ∨
          ∀ count < Sample.runner.nSims,
            Sample.runner.runOne id Sample.tenHours Sample.buyFirst (Sample.draws count) =
              none) := by
  rcases Option.map_eq_some_iff.mp Sample.tenHours_aggregated with ⟨simulations, found, -⟩
  have returned := ok_of_toOption found
  exact ⟨simulations, returned, samples_inPercent_iff returned⟩

/-- The trades in another order are summed up in cash, even if the order is the same. -/
theorem resampled_in_cash :
    ∃ simulations, Sample.runner.aggregated id Sample.tenHours Sample.buyFirst Sample.draws =
        .ok simulations ∧ ¬ ∀ sample ∈ simulations.samples, sample.InPercent 10000 := by
  rcases Option.map_eq_some_iff.mp Sample.tenHours_aggregated with ⟨simulations, found, cash⟩
  refine ⟨simulations, ok_of_toOption found, ?_⟩
  intro units
  have percent : (simulations.samples.all fun sample =>
      sample.ret = percentReturn 10000 sample.pnls) = true := by
    rw [List.all_eq_true]
    intro sample member
    exact decide_eq_true (units sample member).ret
  rw [percent] at cash
  cases cash

end EaBot.Research
