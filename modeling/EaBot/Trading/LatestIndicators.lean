import EaBot.Foundation.Smoothing
import EaBot.Trading.Indicators

/-!
# The latest values of the indicators

The engine asks for the latest value of an indicator, and charts and research for its series.
Both are written separately.  The last value of a series is the latest value, but for the
lengths at which the one asks for another bar more than the other.
-/

namespace EaBot.Trading

open EaBot.Foundation

/-! ## Latest values -/

/-- The latest exponential moving average. -/
def ema (prices : List ℚ) (period : Int) : Except String (Option ℚ) :=
  if period < 1 then .error periodError
  else if (prices.length : Int) < period then .ok none
  else
    let count := period.toNat
    let alpha : ℚ := 2 / (count + 1)
    .ok (some ((prices.drop count).foldl (fun result price => alpha * price + (1 - alpha) * result)
      (average count (prices.take count))))

/-- Wilder's average after another value. -/
def wilderStep (period : Nat) (last value : ℚ) : ℚ :=
  (last * (period - 1) + value) / period

/-- Wilder's average after all values, which are as many as the period at least. -/
def wilderAverage (period : Nat) (values : List ℚ) : ℚ :=
  (values.drop period).foldl (wilderStep period) (average period (values.take period))

/-- The latest relative strength index. -/
def rsi (prices : List ℚ) (period : Int) : Except String (Option ℚ) :=
  if period < 1 then .error periodError
  else if (prices.length : Int) < period + 1 then .ok none
  else
    let deltas := deltasOf prices
    .ok (some (rsiValue (wilderAverage period.toNat (deltas.map gainOf))
      (wilderAverage period.toNat (deltas.map lossOf))))

/-- The latest line, signal and histogram. -/
structure MacdResult where
  line : ℚ
  signal : ℚ
  histogram : ℚ
deriving DecidableEq

/-- The latest moving average convergence and divergence. -/
def macd (prices : List ℚ) (fast slow signal : Int) : Except String (Option MacdResult) :=
  if fast < 1 ∨ slow < 1 ∨ signal < 1 then .error "periods must be >= 1"
  else if slow ≤ fast then .error "fast_period must be < slow_period"
  else if (prices.length : Int) < slow + signal then .ok none
  else
    let values := (macdDifferences fast.toNat slow.toNat prices).drop (slow.toNat - 1)
    if values.length < signal.toNat then .ok none
    else
      -- neither list is empty here
      let line := values.getLastD 0
      let smoothed := (emaValues signal.toNat values).getLastD 0
      .ok (some ⟨line, smoothed, line - smoothed⟩)

/-- The last value that is defined. -/
def lastNonNone (values : List (Option ℚ)) : Option ℚ :=
  values.reverse.findSome? id

/-- The latest average true range. -/
def atr (highs lows closes : List ℚ) (period : Int) : Except String (Option ℚ) :=
  if period < 1 then .error periodError
  else if (highs.length : Int) < period + 1 ∨ (lows.length : Int) < period + 1 ∨
      (closes.length : Int) < period + 1 then .ok none
  else if highs.length ≠ lows.length ∨ lows.length ≠ closes.length then .ok none
  else .ok (lastNonNone (wilderSmooth (trueRange highs lows closes) period.toNat))

/-! ## Bollinger bands -/

/-- The bands at one bar. -/
structure BollingerResult where
  upper : ℚ
  middle : ℚ
  lower : ℚ
deriving DecidableEq

/-- The bands at every bar. -/
structure BollingerValues where
  upper : List (Option ℚ)
  middle : List (Option ℚ)
  lower : List (Option ℚ)

/-- The bands of the prices of a period, for a square root. -/
def bandsOf (root : ℚ → ℚ) (period : Nat) (numStd : ℚ) (window : List ℚ) : BollingerResult :=
  let middle := window.sum / period
  let squares : List ℚ := window.map fun price => (price - middle) ^ 2
  let variance := squares.sum / period
  let std := root variance
  ⟨middle + numStd * std, middle, middle - numStd * std⟩

/-- The latest bands. -/
def bollingerBands (root : ℚ → ℚ) (prices : List ℚ) (period : Int) (numStd : ℚ) :
    Except String (Option BollingerResult) :=
  if period < 1 then .error periodError
  else if (prices.length : Int) < period then .ok none
  else
    let window := prices.drop (prices.length - period.toNat)
    .ok (some (bandsOf root period.toNat numStd window))

/-- The series of the bands of a period that the prices have. -/
def bollingerValues (root : ℚ → ℚ) (period : Nat) (numStd : ℚ) (prices : List ℚ) :
    BollingerValues :=
  let early := List.replicate (period - 1) none
  let bands := (List.range (prices.length - (period - 1))).map fun start =>
    bandsOf root period numStd ((prices.drop start).take period)
  ⟨early ++ bands.map fun band => some band.upper, early ++ bands.map fun band => some band.middle,
    early ++ bands.map fun band => some band.lower⟩

/-- The series of the bands. -/
def bollingerSeries (root : ℚ → ℚ) (prices : List ℚ) (period : Int) (numStd : ℚ) :
    Except String BollingerValues :=
  if period < 1 then .error periodError
  else if (prices.length : Int) < period then
    let undefined := List.replicate prices.length none
    .ok ⟨undefined, undefined, undefined⟩
  else .ok (bollingerValues root period.toNat numStd prices)

/-! ## Last values of series -/

/-- The last value of a series, when there is one and it is defined. -/
def lastValue (values : List (Option ℚ)) : Option ℚ :=
  values.getLast?.join

/-- The last values of the three series, when all are defined. -/
def MacdValues.last (values : MacdValues) : Option MacdResult :=
  match lastValue values.line, lastValue values.signal, lastValue values.histogram with
  | some line, some signal, some histogram => some ⟨line, signal, histogram⟩
  | _, _, _ => none

/-- The last values of the three series, when all are defined. -/
def BollingerValues.last (values : BollingerValues) : Option BollingerResult :=
  match lastValue values.upper, lastValue values.middle, lastValue values.lower with
  | some upper, some middle, some lower => some ⟨upper, middle, lower⟩
  | _, _, _ => none

theorem lastValue_replicate (count : Nat) : lastValue (List.replicate count none) = none := by
  unfold lastValue
  rw [List.getLast?_replicate]
  split <;> rfl

theorem lastValue_append {values : List (Option ℚ)} (early : List (Option ℚ))
    (some_ : values ≠ []) :
    lastValue (early ++ values) = lastValue values := by
  unfold lastValue
  rw [List.getLast?_append_of_ne_nil _ some_]

theorem lastValue_map_some (values : List ℚ) : lastValue (values.map some) = values.getLast? := by
  unfold lastValue
  rw [List.getLast?_map]
  cases values.getLast? <;> rfl

theorem lastNonNone_of_lastValue {values : List (Option ℚ)} {value : ℚ}
    (last : lastValue values = some value) : lastNonNone values = some value := by
  have found : values.getLast? = some (some value) := Option.join_eq_some_iff.mp last
  obtain ⟨before, rfl⟩ := List.getLast?_eq_some_iff.mp found
  unfold lastNonNone
  rw [List.reverse_append]
  rfl

/-- The last value of a recurrence is missing before it starts, and its state afterwards. -/
theorem lastValue_seeded {σ α : Type} (period : Nat) (seed : List α → σ) (next : σ → α → σ)
    (value : σ → ℚ) (items : List α) :
    lastValue (seeded period none seed next (fun state => some (value state)) items) =
      if items.length < period then none
      else some (value ((items.drop period).foldl next (seed (items.take period)))) := by
  by_cases short : items.length < period
  · rw [if_pos short, seeded, if_pos short, lastValue_replicate]
  · rw [if_neg short]
    unfold lastValue
    rw [getLast?_seeded _ _ _ _ (not_lt.mp short)]
    rfl

theorem lastValue_wilderSmooth (period : Nat) (data : List ℚ) :
    lastValue (wilderSmooth data period) =
      if data.length < period then none else some (wilderAverage period data) :=
  lastValue_seeded period _ _ _ data

/-! ## The agreement -/

theorem length_deltasOf (prices : List ℚ) : (deltasOf prices).length = prices.length - 1 := by
  unfold deltasOf
  rw [List.length_zipWith, List.length_tail]
  omega

theorem length_trueRange {highs lows closes : List ℚ} (aligned : lows.length = highs.length)
    (closed : closes.length = highs.length) :
    (trueRange highs lows closes).length = highs.length := by
  cases highs with
  | nil => rfl
  | cons high later =>
      simp only [trueRange, List.length_cons, List.length_zipWith, List.length_zip,
        List.length_tail, aligned, closed]
      omega

/-- The averages of the gains and of the losses are smoothed side by side. -/
theorem foldl_averages (period : Nat) (averages : ℚ × ℚ) (deltas : List ℚ) :
    deltas.foldl (fun last delta =>
        (wilderStep period last.1 (gainOf delta), wilderStep period last.2 (lossOf delta)))
        averages =
      ((deltas.map gainOf).foldl (wilderStep period) averages.1,
        (deltas.map lossOf).foldl (wilderStep period) averages.2) := by
  induction deltas generalizing averages with
  | nil => rfl
  | cons delta rest ih => exact ih _

theorem lastValue_rsiOfDeltas (period : Nat) (deltas : List ℚ) :
    lastValue (rsiOfDeltas period deltas) =
      if deltas.length < period then none
      else some (rsiValue (wilderAverage period (deltas.map gainOf))
        (wilderAverage period (deltas.map lossOf))) := by
  have folded := foldl_averages period (average period ((deltas.take period).map gainOf),
    average period ((deltas.take period).map lossOf)) (deltas.drop period)
  have last := lastValue_seeded period
    (fun deltas => (average period (deltas.map gainOf), average period (deltas.map lossOf)))
    (fun last delta =>
      (wilderStep period last.1 (gainOf delta), wilderStep period last.2 (lossOf delta)))
    (fun averages => rsiValue averages.1 averages.2) deltas
  rw [folded, List.map_drop, List.map_drop, List.map_take, List.map_take] at last
  exact last

theorem lastValue_rsiValues {period : Nat} (positive : 1 ≤ period) (prices : List ℚ) :
    lastValue (rsiValues period prices) =
      if prices.length < period + 1 then none
      else some (rsiValue (wilderAverage period ((deltasOf prices).map gainOf))
        (wilderAverage period ((deltasOf prices).map lossOf))) := by
  cases prices with
  | nil => exact (if_pos (Nat.succ_pos _)).symm
  | cons price rest =>
      have count := length_deltasOf (price :: rest)
      have same : lastValue (rsiValues period (price :: rest)) =
          lastValue (rsiOfDeltas period (deltasOf (price :: rest))) := by
        have length : (rsiOfDeltas period (deltasOf (price :: rest))).length = _ :=
          length_seeded positive _ _ _ _ _
        cases series : rsiOfDeltas period (deltasOf (price :: rest)) with
        | nil =>
            rw [rsiValues, series]
            rfl
        | cons first later =>
            rw [rsiValues, series]
            exact lastValue_append [none] (List.cons_ne_nil _ _)
      rw [same, lastValue_rsiOfDeltas, count, List.length_cons]
      congr 1
      exact propext (by omega)

/-- The latest relative strength index is the last one of the series. -/
theorem rsi_eq_last (prices : List ℚ) (period : Int) :
    rsi prices period = (rsiSeries prices period).map lastValue := by
  unfold rsi rsiSeries
  by_cases none_ : period < 1
  · rw [if_pos none_, if_pos none_]
    rfl
  · rw [if_neg none_, if_neg none_, Except.map, lastValue_rsiValues (by omega)]
    by_cases few : (prices.length : Int) < period + 1
    · rw [if_pos few, if_pos (by omega)]
    · rw [if_neg few, if_neg (by omega)]

/-- The latest moving average, when it is defined, is the last one of the series. -/
theorem ema_eq_last {prices : List ℚ} {period : Int} {value : ℚ}
    (defined : ema prices period = .ok (some value)) :
    (emaSeries prices period).map List.getLast? = .ok (some value) := by
  unfold ema at defined
  unfold emaSeries
  split at defined
  · cases defined
  · split at defined
    · cases defined
    case isFalse valid enough =>
        rw [if_neg valid, Except.map, emaValues, getLast?_seeded _ _ _ _ (by omega)]
        exact defined

/-- The latest average true range is the last one of the series, unless there are as many bars
as the period has. -/
theorem atr_eq_last_iff (highs lows closes : List ℚ) (period : Int) :
    atr highs lows closes period = (atrSeries highs lows closes period).map lastValue ↔
      ¬ (1 ≤ period ∧ (highs.length : Int) = period ∧ (lows.length : Int) = period ∧
        (closes.length : Int) = period) := by
  unfold atr atrSeries
  by_cases none_ : period < 1
  · rw [if_pos none_, if_pos none_]
    exact iff_of_true rfl (by omega)
  rw [if_neg none_, if_neg none_]
  by_cases aligned : lows.length = highs.length ∧ closes.length = highs.length
  · have count := length_trueRange aligned.1 aligned.2
    have last := lastValue_wilderSmooth period.toNat (trueRange highs lows closes)
    rw [count] at last
    by_cases few : (highs.length : Int) < period + 1
    · rw [if_pos (.inl few)]
      by_cases empty : highs.length = 0
      · rw [if_pos (.inl empty)]
        refine iff_of_true ?_ (by omega)
        rw [Except.map, lastValue_replicate]
      · rw [if_neg (by omega), Except.map, last]
        by_cases short : highs.length < period.toNat
        · rw [if_pos short]
          exact iff_of_true rfl (by omega)
        · rw [if_neg short]
          exact iff_of_false (by simp) (by omega)
    · rw [if_neg (by omega), if_neg (by omega), if_neg (by omega), Except.map, last,
        if_neg (by omega)]
      rw [if_neg (by omega)] at last
      rw [lastNonNone_of_lastValue last]
      exact iff_of_true rfl (by omega)
  · rw [if_pos (show highs.length = 0 ∨ lows.length ≠ highs.length ∨
      closes.length ≠ highs.length by omega), Except.map, lastValue_replicate]
    split_ifs
    · exact iff_of_true rfl (by omega)
    · exact iff_of_true rfl (by omega)
    · omega

theorem getLast?_eq_some_getLastD {values : List ℚ} (nonempty : values ≠ []) :
    values.getLast? = some (values.getLastD 0) := by
  rw [List.getLastD_eq_getLast?, List.getLast?_eq_some_getLast nonempty, Option.getD_some]

theorem getLastD_drop {values : List ℚ} {count : Nat} (within : count < values.length) :
    (values.drop count).getLastD 0 = values.getLastD 0 := by
  rw [List.getLastD_eq_getLast?, List.getLastD_eq_getLast?, List.getLast?_drop,
    if_neg (not_le.mpr within)]

/-- The last value of a series that follows some missing values. -/
theorem lastValue_padded (early : Nat) {values : List ℚ} (nonempty : values ≠ []) :
    lastValue (List.replicate early none ++ values.map some) = some (values.getLastD 0) := by
  rw [lastValue_append _ (by simpa using nonempty), lastValue_map_some,
    getLast?_eq_some_getLastD nonempty]

/-- The last value of a series without its first values. -/
theorem lastValue_padded_drop (early : Nat) {values : List ℚ} {count : Nat}
    (within : count < values.length) :
    lastValue (List.replicate early none ++ (values.drop count).map some) =
      some (values.getLastD 0) := by
  have left : values.drop count ≠ [] := by
    rw [ne_eq, List.drop_eq_nil_iff]
    omega
  rw [lastValue_padded early left, getLastD_drop within]

theorem getLastD_zipWith_sub {first second : List ℚ} (same : first.length = second.length)
    (nonempty : first ≠ []) :
    (List.zipWith (fun value smoothed => value - smoothed) first second).getLastD 0 =
      first.getLastD 0 - second.getLastD 0 := by
  have positive := List.length_pos_of_ne_nil nonempty
  simp only [List.getLastD_eq_getLast?, List.getLast?_eq_getElem?, List.length_zipWith,
    List.getElem?_zipWith, ← same, Nat.min_self]
  rw [List.getElem?_eq_getElem (by omega), List.getElem?_eq_getElem (by omega)]
  rfl

/-- The last values of the three series are defined together from the bar on at which the
signal is. -/
theorem last_macdValues {fast slow signal : Nat} (fastPositive : 1 ≤ fast)
    (slowPositive : 1 ≤ slow) (signalPositive : 1 ≤ signal) (prices : List ℚ) :
    (macdValues fast slow signal prices).last =
      if prices.length < slow + signal - 1 then none
      else
        let values := (macdDifferences fast slow prices).drop (slow - 1)
        let smoothed := (emaValues signal values).getLastD 0
        some ⟨values.getLastD 0, smoothed, values.getLastD 0 - smoothed⟩ := by
  have differences := length_macdDifferences fastPositive slowPositive prices
  unfold macdValues
  dsimp only
  by_cases few : prices.length < slow
  · rw [if_pos few, if_pos (by omega), MacdValues.last, lastValue_replicate]
  rw [if_neg few]
  have length : ((macdDifferences fast slow prices).drop (slow - 1)).length =
      prices.length - (slow - 1) := by
    rw [List.length_drop, differences]
  generalize (macdDifferences fast slow prices).drop (slow - 1) = values at length ⊢
  have nonempty : values ≠ [] := List.ne_nil_of_length_pos (by omega)
  by_cases fewer : values.length < signal
  · rw [if_pos fewer, if_pos (by omega), MacdValues.last, lastValue_padded _ nonempty,
      lastValue_replicate]
  have smoothed := length_emaValues signalPositive values
  have distances : (List.zipWith (fun value smoothed => value - smoothed) values
      (emaValues signal values)).length = values.length := by
    rw [List.length_zipWith, smoothed, Nat.min_self]
  rw [if_neg fewer, if_neg (by omega), MacdValues.last, lastValue_padded _ nonempty,
    lastValue_padded_drop _ (by omega), lastValue_padded_drop _ (by omega),
    getLastD_zipWith_sub smoothed.symm nonempty]

/-- The latest convergence and divergence are the last ones of the series, unless there is one
bar less than the two periods have. -/
theorem macd_eq_last_iff (prices : List ℚ) (fast slow signal : Int) :
    macd prices fast slow signal = (macdSeries prices fast slow signal).map MacdValues.last ↔
      ¬ (1 ≤ fast ∧ fast < slow ∧ 1 ≤ signal ∧ (prices.length : Int) = slow + signal - 1) := by
  unfold macd macdSeries
  by_cases invalid : fast < 1 ∨ slow < 1 ∨ signal < 1
  · rw [if_pos invalid, if_pos invalid]
    exact iff_of_true rfl (by omega)
  rw [if_neg invalid, if_neg invalid]
  by_cases crossed : slow ≤ fast
  · rw [if_pos crossed, if_pos crossed]
    exact iff_of_true rfl (by omega)
  have differences := length_macdDifferences (show 1 ≤ fast.toNat by omega)
    (show 1 ≤ slow.toNat by omega) prices
  rw [if_neg crossed, if_neg crossed, Except.map,
    last_macdValues (by omega) (by omega) (by omega)]
  by_cases few : (prices.length : Int) < slow + signal
  · rw [if_pos few]
    by_cases fewer : prices.length < slow.toNat + signal.toNat - 1
    · rw [if_pos fewer]
      exact iff_of_true rfl (by omega)
    · rw [if_neg fewer]
      exact iff_of_false (by simp) (by omega)
  · have length : ((macdDifferences fast.toNat slow.toNat prices).drop (slow.toNat - 1)).length =
        prices.length - (slow.toNat - 1) := by
      rw [List.length_drop, differences]
    rw [if_neg few, if_neg (by omega), if_neg (by omega)]
    exact iff_of_true rfl (by omega)

theorem lastValue_bollinger (root : ℚ → ℚ) {period : Nat} (numStd : ℚ) {prices : List ℚ}
    (positive : 1 ≤ period) (enough : period ≤ prices.length) (field : BollingerResult → ℚ) :
    lastValue (List.replicate (period - 1) none ++
        ((List.range (prices.length - (period - 1))).map fun start =>
          bandsOf root period numStd ((prices.drop start).take period)).map
            fun band => some (field band)) =
      some (field (bandsOf root period numStd (prices.drop (prices.length - period)))) := by
  have window : (prices.drop (prices.length - period)).take period =
      prices.drop (prices.length - period) := by
    apply List.take_of_length_le
    rw [List.length_drop]
    omega
  have start : prices.length - (period - 1) - 1 = prices.length - period := by omega
  rw [lastValue_append, lastValue, List.map_map, List.getLast?_map, List.getLast?_range,
    if_neg (by omega), start]
  · rw [Option.map_some, Function.comp, window]
    rfl
  · rw [ne_eq, List.map_eq_nil_iff, List.map_eq_nil_iff, List.range_eq_nil]
    omega

/-- The latest bands are the last ones of the series. -/
theorem bollinger_eq_last (root : ℚ → ℚ) (prices : List ℚ) (period : Int) (numStd : ℚ) :
    bollingerBands root prices period numStd =
      (bollingerSeries root prices period numStd).map BollingerValues.last := by
  unfold bollingerBands bollingerSeries
  by_cases none_ : period < 1
  · rw [if_pos none_, if_pos none_]
    rfl
  rw [if_neg none_, if_neg none_]
  by_cases few : (prices.length : Int) < period
  · rw [if_pos few, if_pos few, Except.map, BollingerValues.last, lastValue_replicate]
  · rw [if_neg few, if_neg few, Except.map, BollingerValues.last, bollingerValues]
    dsimp only
    rw [lastValue_bollinger root numStd (by omega) (by omega) BollingerResult.upper,
      lastValue_bollinger root numStd (by omega) (by omega) BollingerResult.middle,
      lastValue_bollinger root numStd (by omega) (by omega) BollingerResult.lower]

/-- The latest values are the last values of the series, but for the average true range of as
many bars as its period and the convergence and divergence of one bar less than its periods. -/
theorem latest_agree_iff (root : ℚ → ℚ) (highs lows closes prices : List ℚ)
    (period fast slow signal : Int) (numStd : ℚ) :
    (atr highs lows closes period = (atrSeries highs lows closes period).map lastValue ↔
      ¬ (1 ≤ period ∧ (highs.length : Int) = period ∧ (lows.length : Int) = period ∧
        (closes.length : Int) = period)) ∧
    rsi prices period = (rsiSeries prices period).map lastValue ∧
    (∀ value, ema prices period = .ok (some value) →
      (emaSeries prices period).map List.getLast? = .ok (some value)) ∧
    (macd prices fast slow signal = (macdSeries prices fast slow signal).map MacdValues.last ↔
      ¬ (1 ≤ fast ∧ fast < slow ∧ 1 ≤ signal ∧ (prices.length : Int) = slow + signal - 1)) ∧
    bollingerBands root prices period numStd =
      (bollingerSeries root prices period numStd).map BollingerValues.last :=
  ⟨atr_eq_last_iff highs lows closes period, rsi_eq_last prices period,
    fun _ defined => ema_eq_last defined, macd_eq_last_iff prices fast slow signal,
    bollinger_eq_last root prices period numStd⟩

/-- Two bars have no latest average true range with a period of two, and their series has one;
three bars have no latest convergence and divergence with periods of one, two and two, and their
series have them. -/
theorem latest_disagree :
    atr [2, 3] [1, 2] [2, 3] 2 = .ok none ∧
      (atrSeries [2, 3] [1, 2] [2, 3] 2).map lastValue = .ok (some (1 / 2)) ∧
      macd [1, 2, 4] 1 2 2 = .ok none ∧
      (macdSeries [1, 2, 4] 1 2 2).map MacdValues.last =
        .ok (some ⟨5 / 6, 2 / 3, 1 / 6⟩) := by
  refine ⟨by decide +kernel, by decide +kernel, by decide +kernel, by decide +kernel⟩

end EaBot.Trading
