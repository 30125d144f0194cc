import EaBot.Trading.TriggerEngine

/-!
# The candle that is still forming

The last candle of a series changes until it closes.  Triggers that are told so, and the zones
of an entry, are found among the candles before it: two series that differ in their last candle
only lead to the same triggers and to the same zones.
-/

namespace EaBot.Trading

/-- Two series have the same number of candles, and the same candles but for the last one. -/
structure AgreeBeforeLast (candles other : Candles) : Prop where
  size : other.size = candles.size
  opens : ∀ index, index + 1 < candles.size → other.opens[index]? = candles.opens[index]?
  highs : ∀ index, index + 1 < candles.size → other.highs[index]? = candles.highs[index]?
  lows : ∀ index, index + 1 < candles.size → other.lows[index]? = candles.lows[index]?
  closes : ∀ index, index + 1 < candles.size → other.closes[index]? = candles.closes[index]?

theorem take_eq_of_agree {first second : List ℚ} {size : Nat}
    (agree : ∀ index, index + 1 < size → second[index]? = first[index]?) :
    second.take (size - 1) = first.take (size - 1) := by
  apply List.ext_getElem?
  intro index
  rw [List.getElem?_take, List.getElem?_take]
  by_cases before : index < size - 1
  · rw [if_pos before, if_pos before, agree index (by omega)]
  · rw [if_neg before, if_neg before]

namespace AgreeBeforeLast

variable {candles other : Candles}

theorem take_eq (agree : AgreeBeforeLast candles other) :
    other.take (candles.size - 1) = candles.take (candles.size - 1) := by
  unfold Candles.take
  rw [take_eq_of_agree agree.opens, take_eq_of_agree agree.highs, take_eq_of_agree agree.lows,
    take_eq_of_agree agree.closes]

theorem evaluatedCandles_eq (agree : AgreeBeforeLast candles other) {inputs : TriggerInputs}
    (forming : inputs.isClosed = false) :
    evaluatedCandles inputs other = evaluatedCandles inputs candles := by
  unfold evaluatedCandles
  dsimp only
  rw [forming, agree.size, if_neg Bool.false_ne_true, agree.take_eq]

/-- The triggers depend on the candles that are evaluated, and on nothing else. -/
theorem evaluateTriggers_eq (agree : AgreeBeforeLast candles other) (config : TriggerConfig)
    {inputs : TriggerInputs} (forming : inputs.isClosed = false) :
    evaluateTriggers config inputs other = evaluateTriggers config inputs candles := by
  unfold evaluateTriggers
  dsimp only
  rw [forming, agree.size, if_neg Bool.false_ne_true, agree.take_eq]

theorem triggerDetails_eq (agree : AgreeBeforeLast candles other) (shown : ℚ → String)
    (config : TriggerConfig) {inputs : TriggerInputs} (forming : inputs.isClosed = false) :
    triggerDetails shown config inputs other = triggerDetails shown config inputs candles := by
  unfold triggerDetails
  rw [agree.evaluatedCandles_eq forming]

/-- The zones are those of the candles before the last one. -/
theorem detectEntryZones_eq (agree : AgreeBeforeLast candles other) (atr : ℚ)
    (config : Option ZoneConfig) :
    detectEntryZones other atr config = detectEntryZones candles atr config := by
  unfold detectEntryZones
  dsimp only
  rw [agree.size, agree.take_eq]

end AgreeBeforeLast

/-- Series that differ in the forming candle only lead to the same conditions, evidence, blocking
conditions and trigger, and to the same zones with what has become of them. -/
theorem forming_candle_irrelevant (shown : ℚ → String) (config : TriggerConfig)
    (inputs : TriggerInputs) (atr : ℚ) (zoneConfig : Option ZoneConfig) {candles other : Candles}
    (agree : AgreeBeforeLast candles other) (forming : inputs.isClosed = false) :
    evaluateTriggers config inputs other = evaluateTriggers config inputs candles ∧
      triggerDetails shown config inputs other = triggerDetails shown config inputs candles ∧
        detectEntryZones other atr zoneConfig = detectEntryZones candles atr zoneConfig :=
  ⟨agree.evaluateTriggers_eq config forming, agree.triggerDetails_eq shown config forming,
    agree.detectEntryZones_eq atr zoneConfig⟩

/-! ### A forming candle with another close -/

namespace Sample

/-- Four flat candles and a last one that closes at a price. -/
def series (price : ℚ) : Candles where
  opens := [105, 105, 105, 105, 101]
  highs := [105, 105, 105, 105, 102]
  lows := [105, 105, 105, 105, 100]
  closes := List.replicate 4 105 ++ [price]

theorem series_agree (price : ℚ) : AgreeBeforeLast (series 100) (series price) := by
  refine ⟨rfl, fun _ _ => rfl, fun _ _ => rfl, fun _ _ => rfl, ?_⟩
  intro index before
  have size : (series 100).size = 5 := rfl
  have early : index < (List.replicate 4 (105 : ℚ)).length := by
    rw [List.length_replicate]
    omega
  unfold series
  rw [List.getElem?_append_left early, List.getElem?_append_left early]

/-- A question about a plan that buys, asked before the last candle has closed. -/
def formingInputs : TriggerInputs where
  direction := "BUY"
  zoneTop := 106
  zoneBottom := 104
  atr := 1
  timeframe := "M5"
  isClosed := false
  spreadAtr := 0
  newsBlocked := false
  structureInvalidated := false
  now := 0

end Sample

/-- The forming candle may close at another price. -/
theorem forming_candle_irrelevant_series :
    evaluateTriggers TriggerConfig.default_ Sample.formingInputs (Sample.series 102) =
        evaluateTriggers TriggerConfig.default_ Sample.formingInputs (Sample.series 100) ∧
      triggerDetails (fun _ => "") TriggerConfig.default_ Sample.formingInputs
          (Sample.series 102) =
        triggerDetails (fun _ => "") TriggerConfig.default_ Sample.formingInputs
          (Sample.series 100) ∧
        detectEntryZones (Sample.series 102) 1 none = detectEntryZones (Sample.series 100) 1 none :=
  forming_candle_irrelevant _ _ _ _ _ (Sample.series_agree 102) rfl

end EaBot.Trading
