import EaBot.Foundation.Drawdown
import EaBot.Research.BacktestReport

/-!
# The metrics of a list of trades

The research engine sums up the results of trades.  It takes a fall as a percentage of the
highest result so far, which starts at zero: while nothing was won there is nothing to take
it of, and the fall is not seen.
-/

namespace EaBot.Research

open EaBot.Foundation

/-- The metrics of a list of trades. -/
structure TradeMetrics where
  totalTrades : Nat
  winRate : ℚ
  profitFactor : Ratio
  sharpeRatio : ℚ
  maxDrawdown : ℚ
  expectation : ℚ
  netPnl : ℚ

/-- The results of the trades that have one. -/
def pnlsOf (trades : List (Option ℚ)) : List ℚ :=
  trades.filterMap id

/-- The next equity of the curve.  Without a peak a fall is nothing. -/
def drawdownStep (deepest : Deepest ℚ ℚ) (equity : ℚ) : Deepest ℚ ℚ :=
  let peak := max deepest.peak equity
  if peak ≠ 0 then ⟨peak, max deepest.depth (|peak - equity| / |peak| * 100)⟩
  else ⟨peak, deepest.depth⟩

/-- The metrics of results. -/
def metricsOf (root : ℚ → ℚ) (pnls : List ℚ) : TradeMetrics :=
  let wins := (pnls.filter (0 < ·)).length
  let grossProfit := (pnls.filter (0 < ·)).sum
  let grossLoss := |(pnls.filter (· < 0)).sum|
  { totalTrades := pnls.length
    winRate := if 0 < pnls.length then wins / pnls.length * 100 else 0
    profitFactor :=
      if 0 < grossLoss then .finite (grossProfit / grossLoss)
      else if 0 < grossProfit then .infinite
      else .finite 0
    sharpeRatio := sharpeOf root pnls
    maxDrawdown := ((equityCurve 0 pnls).foldl drawdownStep ⟨0, 0⟩).depth
    expectation := if 0 < pnls.length then pnls.sum / pnls.length else 0
    netPnl := pnls.sum }

/-- The metrics of trades, of which some have no result. -/
def computeMetrics (root : ℚ → ℚ) (trades : List (Option ℚ)) : TradeMetrics :=
  if trades = [] then ⟨0, 0, .finite 0, 0, 0, 0, 0⟩
  else metricsOf root (pnlsOf trades)

/-- Without trades the metrics are those of no results. -/
theorem computeMetrics_eq (root : ℚ → ℚ) (trades : List (Option ℚ)) :
    computeMetrics root trades = metricsOf root (pnlsOf trades) := by
  unfold computeMetrics
  split_ifs with empty
  · subst empty
    simp [metricsOf, pnlsOf, equityCurve, drawdownStep, sharpeOf]
  · rfl

/-! ## What the drawdown sees -/

/-- The points that the cumulative result leads through, with the highest result so far,
both from zero on. -/
def cumulative (pnls : List ℚ) : List (Summit ℚ) :=
  (Summit.mk 0 0).points pnls

/-- The cumulative result never falls below its running maximum. -/
def NeverFalls (pnls : List ℚ) : Prop :=
  ∀ point ∈ cumulative pnls, point.peak ≤ point.value

/-- A fall as a percentage of the peak. -/
def percentOfPeak (peak equity : ℚ) : ℚ :=
  if peak ≠ 0 then |peak - equity| / |peak| * 100 else 0

theorem percentOfPeak_le_zero_iff {peak equity : ℚ} (risen : 0 ≤ peak) (below : equity ≤ peak) :
    percentOfPeak peak equity ≤ 0 ↔ (0 < peak → peak ≤ equity) := by
  unfold percentOfPeak
  split_ifs with some_
  · have positive : 0 < peak := lt_of_le_of_ne risen (Ne.symm some_)
    rw [abs_of_nonneg (sub_nonneg.mpr below), abs_of_pos positive]
    constructor
    · intro nothing _
      have scaled : (peak - equity) / peak * 100 * peak ≤ 0 :=
        mul_nonpos_of_nonpos_of_nonneg nothing risen
      rw [show (peak - equity) / peak * 100 * peak = (peak - equity) * 100 by field_simp]
        at scaled
      linarith
    · intro high
      have same : equity = peak := le_antisymm below (high positive)
      simp [same]
  · have zero : peak = 0 := by simpa using some_
    simp [zero]

/-- The largest of the percentages of all points. -/
theorem maxDrawdown_le_iff (root : ℚ → ℚ) (pnls : List ℚ) (bound : ℚ) :
    (metricsOf root pnls).maxDrawdown ≤ bound ↔
      0 ≤ bound ∧ ∀ point ∈ cumulative pnls, percentOfPeak point.peak point.value ≤ bound := by
  have steps : ∀ (deepest : Deepest ℚ ℚ) (equity : ℚ), 0 ≤ deepest.depth →
      drawdownStep deepest equity = deepest.next percentOfPeak equity := by
    intro deepest equity deep
    unfold drawdownStep Deepest.next percentOfPeak
    dsimp only
    split_ifs
    · rfl
    · rw [max_eq_left deep]
  have deepest : (metricsOf root pnls).maxDrawdown =
      ((pnls.scanl (· + ·) 0).foldl (Deepest.next percentOfPeak) ⟨0, 0⟩).depth :=
    congrArg Deepest.depth (Deepest.foldl_congr steps _ le_rfl)
  rw [deepest, Deepest.depth_foldl_le_iff, max_self]
  rfl

/-- The drawdown is zero when no result falls below a peak above zero. -/
theorem maxDrawdown_eq_zero_iff (root : ℚ → ℚ) (pnls : List ℚ) :
    (metricsOf root pnls).maxDrawdown = 0 ↔
      ∀ point ∈ cumulative pnls, 0 < point.peak → point.peak ≤ point.value := by
  have least : 0 ≤ (metricsOf root pnls).maxDrawdown :=
    ((maxDrawdown_le_iff root pnls _).mp le_rfl).1
  have zero : (metricsOf root pnls).maxDrawdown = 0 ↔
      (metricsOf root pnls).maxDrawdown ≤ 0 :=
    ⟨fun same => same.le, fun nothing => le_antisymm nothing least⟩
  rw [zero, maxDrawdown_le_iff]
  constructor
  · rintro ⟨-, shallow⟩ point member
    have bounds := Summit.bounds_of_mem_points le_rfl member
    exact (percentOfPeak_le_zero_iff bounds.1 bounds.2).mp (shallow point member)
  · intro high
    refine ⟨le_rfl, fun point member => ?_⟩
    have bounds := Summit.bounds_of_mem_points le_rfl member
    exact (percentOfPeak_le_zero_iff bounds.1 bounds.2).mpr (high point member)

/-! ## Trades without a result -/

/-- The results that are not zero. -/
def nonzero (trades : List (Option ℚ)) : List ℚ :=
  (pnlsOf trades).filter (· ≠ 0)

/-- Metrics that differ by the number of trades alone: what is not divided by it is the
same, and what is divided by it is the same share. -/
structure SameButForCount (first second : TradeMetrics) : Prop where
  netPnl : first.netPnl = second.netPnl
  profitFactor : first.profitFactor = second.profitFactor
  maxDrawdown : first.maxDrawdown = second.maxDrawdown
  wins : first.winRate * first.totalTrades = second.winRate * second.totalTrades
  expectation : first.expectation * first.totalTrades = second.expectation * second.totalTrades
  counted : first.totalTrades = second.totalTrades → first = second

theorem sum_map_nonzero (weight : ℚ → ℚ) (pnls : List ℚ) :
    (pnls.map weight).sum = ((pnls.filter (· ≠ 0)).map weight).sum +
      (pnls.length - (pnls.filter (· ≠ 0)).length : ℚ) * weight 0 := by
  induction pnls with
  | nil => simp
  | cons pnl rest ih =>
      by_cases zero : pnl = 0
      · rw [List.filter_cons_of_neg (by simp [zero]), List.map_cons, List.sum_cons, ih, zero,
          List.length_cons]
        push_cast
        ring
      · rw [List.filter_cons_of_pos (by simp [zero]), List.map_cons, List.map_cons,
          List.sum_cons, List.sum_cons, ih, List.length_cons, List.length_cons]
        push_cast
        ring

theorem sum_nonzero (pnls : List ℚ) : pnls.sum = (pnls.filter (· ≠ 0)).sum := by
  have whole := sum_map_nonzero id pnls
  simpa using whole

theorem filter_nonzero {keep : ℚ → Bool} (drops : keep 0 = false) (pnls : List ℚ) :
    (pnls.filter (· ≠ 0)).filter keep = pnls.filter keep := by
  rw [List.filter_filter]
  apply List.filter_congr
  intro pnl _
  by_cases zero : pnl = 0
  · simp [zero, drops]
  · simp [zero]

/-- Results of zero change the drawdown as little as the curve. -/
theorem maxDrawdown_nonzero (root : ℚ → ℚ) (pnls : List ℚ) :
    (metricsOf root (pnls.filter (· ≠ 0))).maxDrawdown = (metricsOf root pnls).maxDrawdown := by
  apply eq_of_forall_ge_iff
  intro bound
  rw [maxDrawdown_le_iff, maxDrawdown_le_iff]
  have points : ∀ point, point ∈ cumulative (pnls.filter (· ≠ 0)) ↔ point ∈ cumulative pnls :=
    fun point => Summit.mem_points_filter le_rfl pnls point
  simp only [points]

theorem sharpeOf_congr (root : ℚ → ℚ) {first second : List ℚ}
    (same : first.filter (· ≠ 0) = second.filter (· ≠ 0))
    (counted : first.length = second.length) : sharpeOf root first = sharpeOf root second := by
  have sums : first.sum = second.sum := by
    rw [sum_nonzero first, same, ← sum_nonzero second]
  have squares : ∀ mean : ℚ, (first.map fun pnl => (pnl - mean) ^ 2).sum =
      (second.map fun pnl => (pnl - mean) ^ 2).sum := by
    intro mean
    rw [sum_map_nonzero _ first, sum_map_nonzero _ second, same, counted]
  unfold sharpeOf
  rw [sums, counted]
  simp only [squares]

theorem sameButForCount (root : ℚ → ℚ) {first second : List ℚ}
    (same : first.filter (· ≠ 0) = second.filter (· ≠ 0)) :
    SameButForCount (metricsOf root first) (metricsOf root second) := by
  have wins : first.filter (0 < ·) = second.filter (0 < ·) := by
    rw [← filter_nonzero (by simp) first, same, filter_nonzero (by simp) second]
  have losses : first.filter (· < 0) = second.filter (· < 0) := by
    rw [← filter_nonzero (by simp) first, same, filter_nonzero (by simp) second]
  have sums : first.sum = second.sum := by
    rw [sum_nonzero first, same, ← sum_nonzero second]
  have falls : (metricsOf root first).maxDrawdown = (metricsOf root second).maxDrawdown := by
    rw [← maxDrawdown_nonzero root first, same, maxDrawdown_nonzero root second]
  have shares : ∀ (pnls : List ℚ) (part scale : ℚ), (pnls = [] → part = 0) →
      (if 0 < pnls.length then part / pnls.length * scale else 0) * pnls.length =
        part * scale := by
    intro pnls part scale nothing
    split_ifs with some_
    · have counted : (pnls.length : ℚ) ≠ 0 := by positivity
      field_simp
    · rw [nothing (by simpa using some_), zero_mul, zero_mul]
  have won : ∀ pnls : List ℚ, (metricsOf root pnls).winRate * (metricsOf root pnls).totalTrades =
      (pnls.filter (0 < ·)).length * 100 := by
    intro pnls
    exact shares pnls _ 100 (by rintro rfl; simp)
  have expected : ∀ pnls : List ℚ,
      (metricsOf root pnls).expectation * (metricsOf root pnls).totalTrades = pnls.sum := by
    intro pnls
    have share := shares pnls pnls.sum 1 (by rintro rfl; simp)
    simpa [metricsOf] using share
  constructor
  · exact sums
  · simp only [metricsOf, wins, losses]
  · exact falls
  · rw [won, won, wins]
  · rw [expected, expected, sums]
  · intro counted
    have lengths : first.length = second.length := counted
    have sharpe := sharpeOf_congr root same lengths
    have deepest : ((equityCurve 0 first).foldl drawdownStep ⟨0, 0⟩).depth =
        ((equityCurve 0 second).foldl drawdownStep ⟨0, 0⟩).depth := falls
    simp only [metricsOf, wins, losses, sums, lengths, sharpe, deepest]

/-! ## The metrics of a list of trades -/

/-- Trades with a result of zero change the metrics through the number of trades alone. -/
def BlindToZeros (root : ℚ → ℚ) (trades : List (Option ℚ)) : Prop :=
  ∀ others, nonzero others = nonzero trades →
    SameButForCount (computeMetrics root others) (computeMetrics root trades)

theorem blindToZeros (root : ℚ → ℚ) (trades : List (Option ℚ)) : BlindToZeros root trades := by
  intro others same
  rw [computeMetrics_eq, computeMetrics_eq]
  exact sameButForCount root same

end EaBot.Research
