import EaBot.Research.BacktestBook
import EaBot.Research.BacktestReport

/-!
# What the books of a backtest agree on

Over bars in the order of time no position is opened before the one before it is closed,
and the breakdowns of the report add up to the net profit.  The balance takes up every trade
but the one that is closed with the last bar.
-/

namespace EaBot.Research

open EaBot.Foundation Backtest

/-- The bars are in the order of time. -/
def InOrderOfTime (bars : List Bar) : Prop :=
  bars.Pairwise fun first second => first.time.instant < second.time.instant

/-- No trade ends before its entry, and none is entered before those before it have
ended. -/
structure OneAfterAnother (trades : List SimTrade) : Prop where
  spans : ∀ trade ∈ trades, trade.entryTime.instant ≤ trade.exitTime.instant
  apart : trades.Pairwise fun first second =>
    first.exitTime.instant ≤ second.entryTime.instant

/-- The breakdowns of a report add up to its net profit. -/
structure AddsUp (report : BacktestReport) : Prop where
  sessions : report.profitBySession.values.sum = report.metrics.netProfit
  hours : report.profitByHour.values.sum = report.metrics.netProfit
  regimes : report.profitByRegime.values.sum = report.metrics.netProfit

/-- The trades of a backtest are one after another, its final balance is the starting one
with their results, and its report adds up. -/
structure InBalance (config : BacktestConfig) (final : ℚ) (report : BacktestReport) : Prop where
  ordered : OneAfterAnother report.trades
  balance : final = config.risk.startingBalance + (report.trades.map SimTrade.netPnl).sum
  breakdowns : AddsUp report

/-! ## The report -/

/-- A report adds up and keeps the trades that it is made of. -/
theorem addsUp_aggregate {root : ℚ → ℚ} {config : BacktestConfig} {trades : List SimTrade}
    {report : BacktestReport} (summed : aggregate root config trades = .ok report) :
    AddsUp report ∧ report.trades = trades := by
  unfold aggregate at summed
  split_ifs at summed with empty
  · cases summed
    exact ⟨⟨rfl, rfl, rfl⟩, empty.symm⟩
  · rcases of_bind_eq_ok summed with ⟨hours, -, summed⟩
    rcases of_bind_eq_ok summed with ⟨total, -, summed⟩
    cases summed
    exact ⟨⟨Dict.sum_values_tally _ _ _, Dict.sum_values_tally _ _ _,
      Dict.sum_values_tally _ _ _⟩, rfl⟩

theorem returned_of_backtest {root : ℚ → ℚ} {config : BacktestConfig} {signal : SignalFn}
    {bars : List Bar} {report : BacktestReport}
    (reported : backtest root config signal bars = .ok report) :
    (run config signal bars).raised = none ∧
      aggregate root config ((run config signal bars).trades.map Prod.snd) = .ok report := by
  unfold backtest at reported
  split at reported
  · cases reported
  · rename_i returned
    exact ⟨returned, reported⟩

/-! ## The trades -/

section Times

variable {config : BacktestConfig} {signal : SignalFn} {bars : List Bar}

theorem instant_le (ordered : InOrderOfTime bars) {first second : Nat} (within : first ≤ second)
    {left right : Bar} (found : bars[first]? = some left) (other : bars[second]? = some right) :
    left.time.instant ≤ right.time.instant := by
  rcases List.getElem?_eq_some_iff.mp found with ⟨inside, rfl⟩
  rcases List.getElem?_eq_some_iff.mp other with ⟨beyond, rfl⟩
  rcases Nat.eq_or_lt_of_le within with rfl | earlier
  · exact le_rfl
  · exact (List.pairwise_iff_getElem.mp ordered first second inside beyond earlier).le

/-- A deal is entered and left at the times of its bars. -/
theorem times_of_deal (returned : (run config signal bars).raised = none) {position : Position}
    {exit : Nat × SimTrade} (dealt : (position, exit) ∈ (run config signal bars).book.deals) :
    ∃ first last, bars[position.entryIndex]? = some first ∧ bars[exit.1]? = some last ∧
      exit.2.entryTime = first.time ∧ exit.2.exitTime = last.time := by
  rcases closes_of_deal returned dealt with ⟨last, price, reason, closing, closes⟩
  rcases openedAt_of_closes closing with ⟨first, direction, found, -, opens⟩
  rcases openPosition_eq_ok opens with ⟨lot, -, built⟩
  rcases fields_of_closePosition closes with ⟨entered, left_, -⟩
  refine ⟨first, last, found, found_of_closes closing, ?_, left_⟩
  rw [entered, built]

/-- The deals of a backtest are its trades, one after another in the order of the bars. -/
theorem kept_run (returned : (run config signal bars).raised = none) :
    ((run config signal bars).book.deals.map Prod.snd = (run config signal bars).trades) ∧
      (∀ deal ∈ (run config signal bars).book.deals, deal.1.entryIndex ≤ deal.2.1) ∧
      (run config signal bars).book.deals.Pairwise
        fun first second => first.2.1 < second.1.entryIndex := by
  have kept : (before config signal bars bars.length).book.Kept config.risk.startingBalance
      bars.length := kept_before bars bars.length
  cases held : (before config signal bars bars.length).position with
  | none =>
      rw [run_of_free held]
      exact ⟨kept.paired.map_deals held, kept.spans, kept.apart⟩
  | some position =>
      rcases run_of_held returned held with ⟨last, trade, found, -, same⟩
      have length : bars.length - 1 + 1 = bars.length := by
        have within : bars ≠ [] := by
          rintro rfl
          cases found
        have positive := List.length_pos_iff.mpr within
        omega
      have later : (before config signal bars bars.length).book.Kept
          config.risk.startingBalance (bars.length - 1 + 1) := by
        rw [length]
        exact kept
      have closed := later.close held trade
      have deals : (run config signal bars).book.deals =
          ((before config signal bars bars.length).book.close (bars.length - 1) trade).deals := by
        rw [same]
        rfl
      rw [deals]
      refine ⟨?_, closed.spans, closed.apart⟩
      rw [closed.paired.map_deals rfl, same]
      rfl

theorem oneAfterAnother_run (ordered : InOrderOfTime bars)
    (returned : (run config signal bars).raised = none) :
    OneAfterAnother ((run config signal bars).trades.map Prod.snd) := by
  rcases kept_run returned with ⟨same, spans, apart⟩
  rw [← same, List.map_map]
  constructor
  · intro trade member
    rcases List.mem_map.mp member with ⟨⟨position, exit⟩, dealt, rfl⟩
    rcases times_of_deal returned dealt with ⟨first, last, found, other, entered, ended⟩
    have before_ := instant_le ordered (spans _ dealt) found other
    rwa [← entered, ← ended] at before_
  · rw [List.pairwise_map]
    apply apart.imp_of_mem
    rintro ⟨position, exit⟩ ⟨next, later⟩ dealt nextDealt earlier
    rcases times_of_deal returned dealt with ⟨-, last, -, other, -, ended⟩
    rcases times_of_deal returned nextDealt with ⟨first, -, found, -, entered, -⟩
    have before_ := instant_le ordered earlier.le other found
    rwa [← entered, ← ended] at before_

/-- The result of the position that is closed with the last bar. -/
def openResult (config : BacktestConfig) (signal : SignalFn) (bars : List Bar) : ℚ :=
  match (before config signal bars bars.length).position, bars.getLast? with
  | some position, some last =>
      match closePosition config bars position last last.close .endOfData with
      | .ok trade => trade.netPnl
      | .error _ => 0
  | _, _ => 0

/-- The final balance lacks what the last bar has closed. -/
theorem balance_run (returned : (run config signal bars).raised = none) :
    (run config signal bars).balance + openResult config signal bars =
      config.risk.startingBalance +
        (((run config signal bars).trades.map Prod.snd).map SimTrade.netPnl).sum := by
  have kept : (before config signal bars bars.length).book.Kept config.risk.startingBalance
      bars.length := kept_before bars bars.length
  have balance := kept.balance
  rw [List.map_map]
  cases held : (before config signal bars bars.length).position with
  | none =>
      rw [run_of_free held, openResult, held, add_zero]
      exact balance
  | some position =>
      rcases run_of_held returned held with ⟨last, trade, found, closes, same⟩
      have left_ : openResult config signal bars = trade.netPnl := by
        rw [openResult, held, found]
        dsimp only
        rw [closes]
      rw [left_, same]
      dsimp only
      have total := congrArg (· + trade.netPnl) balance
      simpa [book, Function.comp_def, add_assoc] using total

end Times

/-! ## The books -/

namespace Sample

/-- A rise of the prices in the hour after the buying. -/
def risingHours : List Bar :=
  hoursClosing [11 / 10, 1101 / 1000]

theorem fallingHours_inOrder : InOrderOfTime fallingHours := by
  unfold InOrderOfTime
  decide +kernel

theorem risingHours_inOrder : InOrderOfTime risingHours := by
  unfold InOrderOfTime
  decide +kernel

end Sample

end EaBot.Research
