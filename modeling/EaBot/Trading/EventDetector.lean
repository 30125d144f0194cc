import EaBot.Foundation.Recency
import EaBot.Foundation.Text
import EaBot.Trading.EventQueueOrder

/-!
# The event detector and its deduplication window

The detector compares the newest bar and its indicators with the state of the bar before, and
routes what it detects: an event that the deduplicator lets pass is queued and recorded.  The
window of the deduplicator counts bars, and the number of a bar is an attribute of the event.
Nothing sets this attribute, so every event counts as one of bar zero, and an event that passed
once never passes again.
-/

namespace EaBot.Trading.EventDetector

open EaBot.Foundation

/-! ## Bars, readings and events -/

/-- A bar. -/
structure Bar where
  symbol : Option String
  openPrice : ℚ
  high : ℚ
  low : ℚ
  close : ℚ

/-- The bands around the average close. -/
structure BollingerBands where
  upper : ℚ
  middle : ℚ
  lower : ℚ

/-- What the indicators read of a series of bars. -/
structure Readings where
  emaFast : Option ℚ
  emaSlow : Option ℚ
  rsi : Option ℚ
  macdHistogram : Option ℚ
  adx : Option ℚ
  bands : Option BollingerBands
  stochK : Option ℚ

/-- What the detector reads of the state of the bar before. -/
structure MarketState where
  close : ℚ
  bbWidth : ℚ
  emaFast : Option ℚ
  emaSlow : Option ℚ
  adxValue : Option ℚ

/-- An event as the detector builds it.  The number of its bar is an attribute that only
others could set. -/
structure Detection where
  eventType : EventType
  severity : ℚ
  description : String
  timestamp : String
  symbol : String
  barIndex : Option Int

/-! ## Detection -/

section Detection

/-- A value with a fixed number of decimal places. -/
def shown (places : Nat) (value : ℚ) : String :=
  if value < 0 then "-" ++ Text.fixed places (-value) else Text.fixed places value

/-- A quotient, unless the division raises. -/
def divide (value divisor : ℚ) : Option ℚ :=
  if divisor = 0 then none else some (value / divisor)

/-- The type, the severity and the description of an event. -/
abbrev Finding := EventType × ℚ × String

/-- The direction of the trend. -/
def trend (readings : Readings) : Option (List Finding) :=
  match readings.emaFast, readings.emaSlow with
  | some fast, some slow =>
      if slow < fast then do
        let diffPct ← divide (fast - slow) slow
        some [(.trendBullish, min (1 / 2 + diffPct * (1 / 2)) 1,
          "EMA bullish: fast=" ++ shown 2 fast ++ " > slow=" ++ shown 2 slow)]
      else if fast < slow then do
        let diffPct ← divide (slow - fast) fast
        some [(.trendBearish, min (1 / 2 + diffPct * (1 / 2)) 1,
          "EMA bearish: fast=" ++ shown 2 fast ++ " < slow=" ++ shown 2 slow)]
      else some [(.trendNeutral, 3 / 10, "EMA crossover neutral")]
  | _, _ => some []

/-- The strength of the trend. -/
def trendStrength (readings : Readings) (prevState : Option MarketState) : List Finding :=
  match readings.adx, prevState.bind MarketState.adxValue with
  | some adx, some before =>
      if before + 2 < adx then
        [(.trendStrengthening, min ((adx - before) / 10) 1,
          "ADX strengthening: " ++ shown 1 before ++ " -> " ++ shown 1 adx)]
      else if adx < before - 2 then
        [(.trendWeakening, min ((before - adx) / 10) 1,
          "ADX weakening: " ++ shown 1 before ++ " -> " ++ shown 1 adx)]
      else []
  | _, _ => []

/-- The momentum. -/
def momentum (readings : Readings) : List Finding :=
  match readings.macdHistogram with
  | none => []
  | some histogram =>
      let fast := (readings.emaFast.filter fun fast => fast ≠ 0).getD 1
      let ref := max fast (1 / 100)
      if 0 < histogram then
        [(.momentumBullish, min (histogram / ref * (1 / 10)) 1,
          "MACD bullish histogram: " ++ shown 4 histogram)]
      else if histogram < 0 then
        [(.momentumBearish, min (|histogram| / ref * (1 / 10)) 1,
          "MACD bearish histogram: " ++ shown 4 histogram)]
      else []

/-- A reading at or beyond an upper or a lower limit. -/
def extreme (reading : Option ℚ) (upper lower span : ℚ) (overbought oversold : EventType)
    (name mark : String) : List Finding :=
  match reading with
  | none => []
  | some value =>
      if upper ≤ value then
        [(overbought, min ((value - upper) / span) 1,
          name ++ " overbought: " ++ mark ++ shown 1 value)]
      else if value ≤ lower then
        [(oversold, min ((lower - value) / span) 1,
          name ++ " oversold: " ++ mark ++ shown 1 value)]
      else []

/-- The relative strength index at its extremes. -/
def rsiEvents (readings : Readings) : List Finding :=
  extreme readings.rsi 70 30 30 .rsiOverbought .rsiOversold "RSI" ""

/-- The stochastic oscillator at its extremes. -/
def stochasticEvents (readings : Readings) : List Finding :=
  extreme readings.stochK 80 20 20 .stochOverbought .stochOversold "Stochastic" "%K="

/-- A close that leaves the bands. -/
def breaks (bands : BollingerBands) (close before : ℚ) : Option (List Finding) := do
  let up ← if bands.upper < close ∧ before ≤ bands.upper then do
      let excess ← divide (close - bands.upper) bands.upper
      some [(.breakout, min excess 1,
        "Price broke above BB upper: " ++ shown 2 close ++ " > " ++ shown 2 bands.upper)]
    else some []
  let down ← if close < bands.lower ∧ bands.lower ≤ before then do
      let excess ← divide (bands.lower - close) bands.lower
      some [(.breakdown, min excess 1,
        "Price broke below BB lower: " ++ shown 2 close ++ " < " ++ shown 2 bands.lower)]
    else some []
  some (up ++ down)

/-- A close that turns back across the middle of the bands. -/
def reversal (bands : BollingerBands) (close before : ℚ) : List Finding :=
  if bands.upper < before ∧ close < bands.middle then
    [(.reversal, 7 / 10,
      "Reversal from upper band: " ++ shown 2 before ++ " -> " ++ shown 2 close)]
  else if before < bands.lower ∧ bands.middle < close then
    [(.reversal, 7 / 10,
      "Reversal from lower band: " ++ shown 2 before ++ " -> " ++ shown 2 close)]
  else []

/-- Bands that widen or narrow. -/
def volatility (bands : BollingerBands) (before : ℚ) : List Finding :=
  let width := if 0 < bands.middle then (bands.upper - bands.lower) / bands.middle else 0
  if 0 < before then
    if before * (6 / 5) < width then
      [(.volatilityExpanding, min ((width - before) / before) 1,
        "BB width expanding: " ++ shown 3 before ++ " -> " ++ shown 3 width)]
    else if width < before * (4 / 5) then
      [(.volatilityContracting, min ((before - width) / before) 1,
        "BB width contracting: " ++ shown 3 before ++ " -> " ++ shown 3 width)]
    else []
  else []

/-- What the bands show. -/
def bandEvents (readings : Readings) (prevState : Option MarketState) (bar : Bar) :
    Option (List Finding) :=
  match readings.bands, prevState with
  | some bands, some state => do
      let broken ← breaks bands bar.close state.close
      some (broken ++ reversal bands bar.close state.close ++ volatility bands state.bbWidth)
  | _, _ => some []

/-- A bar whose body is small. -/
def doji (bar : Bar) : List Finding :=
  let body := |bar.close - bar.openPrice|
  let range := bar.high - bar.low
  if 0 < range ∧ body / range < 1 / 10 then
    [(.doji, 2 / 5, "Doji candle: body/range=" ++ shown 2 (body / range))]
  else []

/-- A bar that opens away from the close before. -/
def gap (prevState : Option MarketState) (bar : Bar) : List Finding :=
  match prevState with
  | none => []
  | some state =>
      if 0 < state.close then
        let gap := (bar.openPrice - state.close) / state.close
        let pct := |gap| * 100
        let move :=
          shown 2 pct ++ "% (" ++ shown 2 state.close ++ " -> " ++ shown 2 bar.openPrice ++ ")"
        if 1 / 200 < gap then [(.gapUp, min pct 1, "Gap up: " ++ move)]
        else if gap < -(1 / 200) then [(.gapDown, min pct 1, "Gap down: " ++ move)]
        else []
      else []

/-- Moving averages that cross. -/
def crossover (readings : Readings) (prevState : Option MarketState) : List Finding :=
  match prevState.bind MarketState.emaFast, prevState.bind MarketState.emaSlow,
      readings.emaFast, readings.emaSlow with
  | some fastBefore, some slowBefore, some fast, some slow =>
      let move := " (" ++ shown 2 fastBefore ++ "->" ++ shown 2 fast ++ ")"
      if fastBefore ≤ slowBefore ∧ slow < fast then
        [(.emaCrossover, 4 / 5, "EMA crossover: fast crossed above slow" ++ move)]
      else if slowBefore ≤ fastBefore ∧ fast < slow then
        [(.emaCrossover, 4 / 5, "EMA crossover: fast crossed below slow" ++ move)]
      else []
  | _, _, _, _ => []

/-- What a bar shows, unless a division raises. -/
def findings (readings : Readings) (prevState : Option MarketState) (bar : Bar) :
    Option (List Finding) := do
  let trending ← trend readings
  let banded ← bandEvents readings prevState bar
  some (trending ++ trendStrength readings prevState ++ momentum readings ++ rsiEvents readings ++
    stochasticEvents readings ++ banded ++ doji bar ++ gap prevState bar ++
    crossover readings prevState)

end Detection

/-! ## Routing -/

/-- The bar at which each event was last let pass. -/
structure EventDeduplicator where
  dedupWindow : Int
  lastBar : Dict (String × EventType) Int

namespace EventDeduplicator

/-- A deduplicator that has let nothing pass. -/
def init (dedupWindow : Int) : EventDeduplicator :=
  ⟨dedupWindow, Dict.empty⟩

/-- Whether an event passes.  A bar at which it passes is noted. -/
def shouldEmit (dedup : EventDeduplicator) (symbol : String) (eventType : EventType)
    (barIndex : Int) : Bool × EventDeduplicator :=
  let key := (symbol, eventType)
  match dedup.lastBar.get key with
  | none => (true, { dedup with lastBar := dedup.lastBar.set key barIndex })
  | some last =>
      if dedup.dedupWindow < barIndex - last then
        (true, { dedup with lastBar := dedup.lastBar.set key barIndex })
      else (false, dedup)

end EventDeduplicator

/-- The newest events. -/
structure EventHistory where
  maxSize : Nat
  history : List Detection

/-- Record an event and drop the oldest ones beyond the size. -/
def EventHistory.add (history : EventHistory) (event : Detection) : EventHistory :=
  { history with history := (history.history ++ [event]).rtake history.maxSize }

/-- An event as the queue receives it. -/
def Detection.payload (event : Detection) : AnyEvent.Payload ℚ :=
  .object (Dict.empty.update
    [("event_type", .member event.eventType), ("severity", .other event.severity),
      ("description", .text event.description), ("timestamp", .text event.timestamp),
      ("symbol", .text event.symbol)])

/-- The detector with its extensions, each of which may be missing. -/
structure Detector where
  deduplicator : Option EventDeduplicator
  queue : Option (AnyEvent.EventQueue ℚ)
  history : Option EventHistory

/-- Route the events of a symbol.  The events that pass are queued and recorded. -/
def processAndRoute (detector : Detector) (symbol : String) :
    List Detection → List Detection × Detector
  | [] => ([], detector)
  | ev :: rest =>
      let emit := detector.deduplicator.map fun dedup =>
        dedup.shouldEmit symbol ev.eventType (ev.barIndex.getD 0)
      let detector := { detector with deduplicator := emit.map Prod.snd }
      if (emit.map Prod.fst).getD true then
        let routed := processAndRoute
          { detector with
            queue := detector.queue.map fun queue => (queue.enqueue ev.payload).2
            history := detector.history.map fun history => history.add ev }
          symbol rest
        (ev :: routed.1, routed.2)
      else processAndRoute detector symbol rest

/-- What a call of the detector is given: the bars, the oldest first, what the indicators read
of them, the state of the bar before and the time. -/
structure DetectCall where
  bars : List Bar
  readings : Readings
  prevState : Option MarketState
  timestamp : String

/-- The symbol of the newest bar. -/
def symbolOf (bar : Bar) : String :=
  bar.symbol.getD ""

/-- The events that a call detects.  No attribute holds the number of the bar. -/
def detections (call : DetectCall) : List Detection :=
  match call.bars.getLast? with
  | none => []
  | some bar =>
      ((findings call.readings call.prevState bar).getD []).map fun finding =>
        ⟨finding.1, finding.2.1, finding.2.2, call.timestamp, symbolOf bar, none⟩

/-- Detect the events of a call and route them.  A call without bars, or one that raises, routes
nothing. -/
def detect (detector : Detector) (call : DetectCall) : List Detection × Detector :=
  match call.bars.getLast? with
  | none => ([], detector)
  | some bar => processAndRoute detector (symbolOf bar) (detections call)

/-! ## What passes -/

/-- What passed was added to the queue and to the history, one event after another. -/
theorem processAndRoute_records (detector : Detector) (symbol : String)
    (events : List Detection) :
    (processAndRoute detector symbol events).2.queue = detector.queue.map (fun queue =>
        (processAndRoute detector symbol events).1.foldl
          (fun queue ev => (queue.enqueue ev.payload).2) queue) ∧
      (processAndRoute detector symbol events).2.history = detector.history.map (fun history =>
        (processAndRoute detector symbol events).1.foldl EventHistory.add history) := by
  induction events generalizing detector with
  | nil => simp [processAndRoute]
  | cons ev rest ih =>
      rw [processAndRoute]
      dsimp only
      split
      · rcases ih _ with ⟨queued, recorded⟩
        rw [queued, recorded]
        simp [Option.map_map, Function.comp_def]
      · exact ih _

/-- The deduplicator has noted no other bar than zero. -/
def AllZero (dedup : EventDeduplicator) : Prop :=
  ∀ key bar, dedup.lastBar.get key = some bar → bar = 0

/-- An event of bar zero passes when the window is negative or it never passed, and it counts
as passed from then on. -/
theorem shouldEmit_zero {dedup : EventDeduplicator} (zero : AllZero dedup) (symbol : String)
    (eventType : EventType) :
    let asked := dedup.shouldEmit symbol eventType 0
    (asked.1 = true ↔ dedup.dedupWindow < 0 ∨ dedup.lastBar.get (symbol, eventType) = none) ∧
      asked.2.dedupWindow = dedup.dedupWindow ∧
      ∀ key, asked.2.lastBar.get key =
        if key = (symbol, eventType) then some 0 else dedup.lastBar.get key := by
  unfold EventDeduplicator.shouldEmit
  dsimp only
  cases held : dedup.lastBar.get (symbol, eventType) with
  | none => exact ⟨by simp, rfl, fun key => Dict.get_set _ _ _ _⟩
  | some last =>
      have isZero := zero _ _ held
      subst isZero
      dsimp only
      by_cases negative : dedup.dedupWindow < 0
      · rw [if_pos (by omega)]
        exact ⟨by simp [negative], rfl, fun key => Dict.get_set _ _ _ _⟩
      · rw [if_neg (by omega)]
        refine ⟨by simp [negative], rfl, ?_⟩
        intro key
        split
        case isTrue same => rw [same, held]
        case isFalse => rfl

/-- What a routing of events without bar numbers lets pass, and what it notes. -/
theorem processAndRoute_zero {detector : Detector} {dedup : EventDeduplicator} {symbol : String}
    {events : List Detection} (attached : detector.deduplicator = some dedup)
    (zero : AllZero dedup) (unnumbered : ∀ ev ∈ events, ev.barIndex = none) :
    (∀ eventType, (∃ ev ∈ (processAndRoute detector symbol events).1, ev.eventType = eventType) ↔
      (∃ ev ∈ events, ev.eventType = eventType) ∧
        (dedup.dedupWindow < 0 ∨ dedup.lastBar.get (symbol, eventType) = none)) ∧
    ∃ after, (processAndRoute detector symbol events).2.deduplicator = some after ∧
      after.dedupWindow = dedup.dedupWindow ∧
      ∀ key, after.lastBar.get key =
        if key.1 = symbol ∧ ∃ ev ∈ events, ev.eventType = key.2 then some 0
        else dedup.lastBar.get key := by
  induction events generalizing detector dedup with
  | nil => exact ⟨by simp [processAndRoute], dedup, attached, rfl, by simp⟩
  | cons ev rest ih =>
      have own : ev.barIndex.getD 0 = 0 := by rw [unnumbered ev List.mem_cons_self]; rfl
      have others : ∀ other ∈ rest, other.barIndex = none :=
        fun other member => unnumbered other (.tail _ member)
      rcases shouldEmit_zero zero symbol ev.eventType with ⟨passes, window, noted⟩
      have zero' : AllZero (dedup.shouldEmit symbol ev.eventType 0).2 := by
        intro key bar held
        rw [noted] at held
        split at held
        · exact (Option.some.inj held).symm
        · exact zero key bar held
      have merged : ∀ key : String × EventType,
          (if key.1 = symbol ∧ ∃ other ∈ rest, other.eventType = key.2 then some 0
            else (dedup.shouldEmit symbol ev.eventType 0).2.lastBar.get key) =
          if key.1 = symbol ∧ ∃ other ∈ ev :: rest, other.eventType = key.2 then some 0
            else dedup.lastBar.get key := by
        intro key
        rw [noted]
        by_cases here : key.1 = symbol
        · by_cases first : ev.eventType = key.2
          · have same : key = (symbol, ev.eventType) := Prod.ext here first.symm
            subst same
            simp
          · have apart : key ≠ (symbol, ev.eventType) := fun same => first (by rw [same])
            simp [here, first, apart]
        · have apart : key ≠ (symbol, ev.eventType) := fun same => here (by rw [same])
          simp [here, apart]
      rw [processAndRoute]
      simp only [attached, Option.map_some, own, Option.getD_some]
      by_cases passed : (dedup.shouldEmit symbol ev.eventType 0).1 = true
      · rw [if_pos passed]
        have step := @ih { detector with
            deduplicator := some (dedup.shouldEmit symbol ev.eventType 0).2
            queue := detector.queue.map fun queue => (queue.enqueue ev.payload).2
            history := detector.history.map fun history => history.add ev } _ rfl zero' others
        rcases step with ⟨routes, after, stored, kept, entries⟩
        refine ⟨?_, after, stored, kept.trans window, fun key => (entries key).trans (merged key)⟩
        intro eventType
        rw [List.exists_mem_cons_iff, List.exists_mem_cons_iff, routes, noted, window]
        have allowed := passes.mp passed
        by_cases first : ev.eventType = eventType
        · subst first
          simp [allowed]
        · have apart : ¬ eventType = ev.eventType := Ne.symm first
          simp [first, apart]
      · rw [if_neg passed]
        have step := @ih { detector with
            deduplicator := some (dedup.shouldEmit symbol ev.eventType 0).2 } _ rfl zero' others
        rcases step with ⟨routes, after, stored, kept, entries⟩
        refine ⟨?_, after, stored, kept.trans window, fun key => (entries key).trans (merged key)⟩
        intro eventType
        rw [List.exists_mem_cons_iff, routes, noted, window]
        have refused := fun allowed => passed (passes.mpr allowed)
        by_cases first : ev.eventType = eventType
        · subst first
          simp only [if_true, reduceCtorEq, or_false, true_or, true_and]
          constructor
          · exact fun found => absurd (.inl found.2) refused
          · exact fun found => absurd found refused
        · have apart : ¬ eventType = ev.eventType := Ne.symm first
          simp [first, apart]

/-! ## Runs -/

/-- The state of a detector after calls. -/
def after (detector : Detector) (calls : List DetectCall) : Detector :=
  Run.after (fun detector call => (detect detector call).2) detector calls

/-- A call detects an event of a type on a bar of a symbol. -/
def Detects (call : DetectCall) (symbol : String) (eventType : EventType) : Prop :=
  ∃ ev ∈ detections call, ev.symbol = symbol ∧ ev.eventType = eventType

/-- A call routes an event of a type to the queue and the history. -/
def Routes (detector : Detector) (call : DetectCall) (eventType : EventType) : Prop :=
  ∃ ev ∈ (detect detector call).1, ev.eventType = eventType

/-- A detector with a deduplicator that has let nothing pass. -/
def start (dedupWindow : Int) (queue : Option (AnyEvent.EventQueue ℚ))
    (history : Option EventHistory) : Detector :=
  ⟨some (.init dedupWindow), queue, history⟩

/-- The deduplicator of a detector has noted what earlier calls detected, all on bar zero. -/
structure Noted (dedupWindow : Int) (past : List DetectCall) (detector : Detector)
    (dedup : EventDeduplicator) : Prop where
  attached : detector.deduplicator = some dedup
  window : dedup.dedupWindow = dedupWindow
  zero : AllZero dedup
  entry : ∀ symbol eventType, dedup.lastBar.get (symbol, eventType) = none ↔
    ∀ call ∈ past, ¬ Detects call symbol eventType

/-- All that a call detects is of the symbol of its newest bar and has no number. -/
theorem detects_iff {call : DetectCall} {bar : Bar} (newest : call.bars.getLast? = some bar)
    (symbol : String) (eventType : EventType) :
    Detects call symbol eventType ↔
      symbol = symbolOf bar ∧ ∃ ev ∈ detections call, ev.eventType = eventType := by
  unfold Detects detections
  rw [newest]
  simp only [List.mem_map, exists_exists_and_eq_and]
  constructor
  · rintro ⟨finding, member, rfl, type⟩
    exact ⟨rfl, finding, member, type⟩
  · rintro ⟨rfl, finding, member, type⟩
    exact ⟨finding, member, rfl, type⟩

theorem unnumbered (call : DetectCall) : ∀ ev ∈ detections call, ev.barIndex = none := by
  intro ev member
  unfold detections at member
  split at member
  · cases member
  · rcases List.mem_map.mp member with ⟨finding, -, rfl⟩
    rfl

/-- A call routes what it detects, when the window is negative or no earlier call detected it. -/
theorem Noted.routes_iff {dedupWindow : Int} {past : List DetectCall} {detector : Detector}
    {dedup : EventDeduplicator} (noted : Noted dedupWindow past detector dedup)
    {call : DetectCall} {symbol : String} {eventType : EventType}
    (detected : Detects call symbol eventType) :
    Routes detector call eventType ↔
      dedupWindow < 0 ∨ ∀ earlier ∈ past, ¬ Detects earlier symbol eventType := by
  cases newest : call.bars.getLast? with
  | none =>
      rcases detected with ⟨ev, member, -⟩
      rw [detections, newest] at member
      cases member
  | some bar =>
      rcases (detects_iff newest symbol eventType).mp detected with ⟨rfl, found⟩
      have routed := (@processAndRoute_zero _ _ (symbolOf bar) _ noted.attached noted.zero
        (unnumbered call)).1 eventType
      rw [Routes, detect, newest, routed, noted.window, noted.entry]
      exact and_iff_right found

/-- A call is added to what the deduplicator has noted. -/
theorem Noted.detect {dedupWindow : Int} {past : List DetectCall} {detector : Detector}
    {dedup : EventDeduplicator} (noted : Noted dedupWindow past detector dedup)
    (call : DetectCall) :
    ∃ after, Noted dedupWindow (past ++ [call]) (EventDetector.detect detector call).2 after := by
  cases newest : call.bars.getLast? with
  | none =>
      refine ⟨dedup, ?_⟩
      have nothing : ∀ symbol eventType, ¬ Detects call symbol eventType := by
        rintro symbol eventType ⟨ev, member, -⟩
        rw [detections, newest] at member
        cases member
      rw [EventDetector.detect, newest]
      refine ⟨noted.attached, noted.window, noted.zero, ?_⟩
      intro symbol eventType
      rw [noted.entry, List.forall_mem_append]
      simp [nothing]
  | some bar =>
      rcases (@processAndRoute_zero _ _ (symbolOf bar) _ noted.attached noted.zero
        (unnumbered call)).2 with ⟨after, stored, kept, entries⟩
      refine ⟨after, ?_⟩
      rw [EventDetector.detect, newest]
      refine ⟨stored, kept.trans noted.window, ?_, ?_⟩
      · intro key bar held
        rw [entries] at held
        split at held
        · exact (Option.some.inj held).symm
        · exact noted.zero key bar held
      · intro symbol eventType
        rw [entries, List.forall_mem_append, ← noted.entry]
        simp only [List.mem_singleton, forall_eq, detects_iff newest]
        split
        case isTrue found => simp [found]
        case isFalse missing => simp [missing]

theorem noted_after (dedupWindow : Int) (queue : Option (AnyEvent.EventQueue ℚ))
    (history : Option EventHistory) (calls : List DetectCall) :
    ∃ dedup, Noted dedupWindow calls (after (start dedupWindow queue history) calls) dedup := by
  induction calls using List.reverseRecOn with
  | nil =>
      refine ⟨.init dedupWindow, rfl, rfl, ?_, ?_⟩
      · intro key bar held
        cases (Dict.get_empty key).symm.trans held
      · intro symbol eventType
        simp [EventDeduplicator.init, Dict.get_empty]
  | append_singleton past call ih =>
      rcases ih with ⟨dedup, noted⟩
      rw [after, Run.after, List.foldl_append]
      exact noted.detect call

/-- An event of a type is detected on one bar and again on a later one, more bars apart than the
window counts. -/
structure Redetected (dedupWindow : Int) (calls : List DetectCall) (i j : Nat)
    (later : DetectCall) (symbol : String) (eventType : EventType) : Prop where
  inOrder : i < j
  first : ∃ earlier name, calls[i]? = some earlier ∧ Detects earlier name eventType
  second : calls[j]? = some later
  again : Detects later symbol eventType
  apart : dedupWindow < (j : Int) - i

/-- An event that is detected again beyond the window is routed exactly when the window is
negative or no earlier bar of its symbol showed it. -/
theorem redetected_routed_iff (dedupWindow : Int) (queue : Option (AnyEvent.EventQueue ℚ))
    (history : Option EventHistory) (calls : List DetectCall) (i j : Nat) (later : DetectCall)
    (symbol : String) (eventType : EventType)
    (redetected : Redetected dedupWindow calls i j later symbol eventType) :
    Routes (after (start dedupWindow queue history) (calls.take j)) later eventType ↔
      dedupWindow < 0 ∨ ∀ call ∈ calls.take j, ¬ Detects call symbol eventType := by
  rcases noted_after dedupWindow queue history (calls.take j) with ⟨dedup, noted⟩
  exact noted.routes_iff redetected.again

/-! ### A window that never ends -/

namespace Sample

/-- A call with one bar whose body is nothing. -/
def dojiBar : DetectCall where
  bars := [⟨some "XAUUSD", 2400, 2401, 2399, 2400⟩]
  readings := ⟨none, none, none, none, none, none, none⟩
  prevState := none
  timestamp := "2026-09-14T08:01:00+00:00"

theorem detects_doji : Detects dojiBar "XAUUSD" .doji := by
  have types : (detections dojiBar).map Detection.eventType = [.doji] := by decide +kernel
  have newest : dojiBar.bars.getLast? = some ⟨some "XAUUSD", 2400, 2401, 2399, 2400⟩ := rfl
  refine (detects_iff newest _ _).mpr ⟨rfl, ?_⟩
  exact List.mem_map.mp (types ▸ List.mem_singleton_self EventType.doji)

/-- The first and the third of three such bars are two bars apart. -/
theorem redetected_doji :
    Redetected 1 [dojiBar, dojiBar, dojiBar] 0 2 dojiBar "XAUUSD" .doji where
  inOrder := by decide
  first := ⟨dojiBar, "XAUUSD", rfl, detects_doji⟩
  second := rfl
  again := detects_doji
  apart := by decide

end Sample

/-- A window of one bar suppresses the third bar's event. -/
theorem redetected_routed_iff_doji :
    Routes (after (start 1 none (some ⟨100, []⟩)) [Sample.dojiBar, Sample.dojiBar])
        Sample.dojiBar .doji ↔
      (1 : Int) < 0 ∨ ∀ call ∈ [Sample.dojiBar, Sample.dojiBar], ¬ Detects call "XAUUSD" .doji :=
  redetected_routed_iff 1 none (some ⟨100, []⟩) [Sample.dojiBar, Sample.dojiBar, Sample.dojiBar]
    0 2 Sample.dojiBar "XAUUSD" .doji Sample.redetected_doji

/-- An event that is detected again beyond the window is not always routed. -/
theorem not_redetected_routed : ¬ ∀ (dedupWindow : Int) (queue : Option (AnyEvent.EventQueue ℚ))
    (history : Option EventHistory) (calls : List DetectCall) (i j : Nat) (later : DetectCall)
    (symbol : String) (eventType : EventType),
    Redetected dedupWindow calls i j later symbol eventType →
      Routes (after (start dedupWindow queue history) (calls.take j)) later eventType := by
  intro routed
  have doji := routed 1 none (some ⟨100, []⟩) [Sample.dojiBar, Sample.dojiBar, Sample.dojiBar]
    0 2 Sample.dojiBar "XAUUSD" .doji Sample.redetected_doji
  rcases noted_after 1 none (some ⟨100, []⟩) [Sample.dojiBar, Sample.dojiBar] with ⟨dedup, noted⟩
  rcases (noted.routes_iff Sample.detects_doji).mp doji with negative | never
  · omega
  · exact never Sample.dojiBar List.mem_cons_self Sample.detects_doji

end EaBot.Trading.EventDetector
