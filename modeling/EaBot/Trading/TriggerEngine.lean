import EaBot.Foundation.Dict
import EaBot.Foundation.Smoothing
import EaBot.Foundation.Text
import EaBot.Trading.EntryDetectors
import Mathlib.Tactic.Linarith

/-!
# The trigger engine

A price at a zone is not an entry yet: triggers have to confirm it.  Each trigger looks at the
last closed candle, or at the candles up to it.  The assessment is ready for an entry when
nothing blocks it and all required triggers are met.
-/

namespace EaBot.Trading

open EaBot.Foundation

/-! ## Triggers -/

/-- The triggers, in the order of their evaluation. -/
inductive CandleTrigger
  | zoneTouch | rejection | displacement | microBos | momentumShift | candleClose
deriving DecidableEq

namespace CandleTrigger

/-- The name of a trigger. -/
def name : CandleTrigger → String
  | zoneTouch => "zone_touch"
  | rejection => "rejection"
  | displacement => "displacement"
  | microBos => "micro_bos"
  | momentumShift => "momentum_shift"
  | candleClose => "candle_close"

/-- All triggers. -/
def all : List CandleTrigger :=
  [zoneTouch, rejection, displacement, microBos, momentumShift, candleClose]

end CandleTrigger

/-- The policy of the triggers. -/
structure TriggerConfig where
  requiredTriggers : List CandleTrigger
  rejectionMinWickRatio : ℚ
  displacementMinBodyAtr : ℚ
  displacementMinRangeAtr : ℚ
  microBosLookback : Int
  momentumFast : Int
  momentumSlow : Int
  triggerMaxAge : ℚ
  maxSpreadAtr : ℚ

/-- The policy by default. -/
def TriggerConfig.default_ : TriggerConfig where
  requiredTriggers := [.zoneTouch, .rejection, .candleClose]
  rejectionMinWickRatio := 2 / 5
  displacementMinBodyAtr := 1 / 2
  displacementMinRangeAtr := 4 / 5
  microBosLookback := 5
  momentumFast := 8
  momentumSlow := 21
  triggerMaxAge := 15 * 60
  maxSpreadAtr := 1 / 4

/-- A trigger that was observed. -/
structure TriggerEvidence where
  type : CandleTrigger
  direction : String
  timeframe : String
  detectedAt : ℚ
  triggerPrice : ℚ
  breakPrice : ℚ
  sourceId : String

/-- The outcome of an evaluation. -/
structure TriggerEvaluation where
  conditionsMet : CandleTrigger → Bool
  evidence : List TriggerEvidence
  blocking : List String
  triggerTime : ℚ
  triggerPrice : ℚ

/-- Whether a direction is long. -/
def isLong (direction : String) : Bool :=
  Text.upper direction ∈ ["LONG", "BUY", "BULLISH"]

/-! ## Detectors -/

/-- A wick goes into the zone, and the body closes back. -/
def detectRejection (long : Bool) (zoneTop zoneBottom opened high low closed minWickRatio : ℚ) :
    Bool :=
  let range := high - low
  let body := closed - opened
  if range ≤ 0 then false
  else if long then
    if zoneTop < low ∨ low < zoneBottom - range then false
    else if body ≤ 0 then false
    else if (min opened closed - low) / range < minWickRatio then false
    else true
  else
    if high < zoneBottom ∨ zoneTop + range < high then false
    else if 0 ≤ body then false
    else if (high - max opened closed) / range < minWickRatio then false
    else true

/-- The candle expands in the direction. -/
def detectDisplacement (long : Bool) (opened high low closed atr minBodyAtr minRangeAtr : ℚ) :
    Bool :=
  if atr ≤ 0 then false
  else if ¬ (if long then opened < closed else closed < opened) then false
  else if |closed - opened| < minBodyAtr * atr then false
  else if high - low < minRangeAtr * atr then false
  else true

/-- The last candle breaks the swing of those before it; the price of the break. -/
def detectMicroBos (long : Bool) (highs lows : List ℚ) (lookback : Int) : Bool × ℚ :=
  let lookback := (max 2 lookback).toNat
  if highs.length < lookback + 1 ∨ lows.length < lookback + 1 then (false, 0)
  else if long then
    let prior := (lastValues (lookback + 1) highs).dropLast
    let last := valueAt highs (highs.length - 1)
    if prior.foldl max (valueAt prior 0) < last then (true, last) else (false, 0)
  else
    let prior := (lastValues (lookback + 1) lows).dropLast
    let last := valueAt lows (lows.length - 1)
    if last < prior.foldl min (valueAt prior 0) then (true, last) else (false, 0)

/-- A moving average that starts at the first value. -/
def triggerEma (values : List ℚ) (period : Nat) : ℚ :=
  smooth (2 / (period + 1) : ℚ) (valueAt values 0) values

/-- The fast average is on the side of the direction. -/
def detectMomentumShift (long : Bool) (closes : List ℚ) (fast slow : Int) : Bool :=
  let fast := (max 2 fast).toNat
  let slow := (max 3 slow).toNat
  if slow ≤ fast ∨ closes.length < slow + 1 then false
  else if long then decide (triggerEma closes slow < triggerEma closes fast)
  else decide (triggerEma closes fast < triggerEma closes slow)

/-! ## The evaluation -/

/-- What is evaluated besides the candles. -/
structure TriggerInputs where
  direction : String
  zoneTop : ℚ
  zoneBottom : ℚ
  atr : ℚ
  timeframe : String
  isClosed : Bool
  spreadAtr : ℚ
  newsBlocked : Bool
  structureInvalidated : Bool
  now : ℚ

/-- Nothing is confirmed, for a reason. -/
def unconfirmed (reason : String) : TriggerEvaluation :=
  ⟨fun _ => false, [], [reason], 0, 0⟩

/-- What blocks an entry whatever the triggers. -/
def blockingConditions (config : TriggerConfig) (inputs : TriggerInputs) : List String :=
  (if 0 < inputs.spreadAtr ∧ 0 < config.maxSpreadAtr ∧ config.maxSpreadAtr < inputs.spreadAtr then
      ["spread_too_wide"] else []) ++
    (if inputs.structureInvalidated then ["structure_invalidated"] else []) ++
    if inputs.newsBlocked then ["news_high_impact"] else []

/-- The triggers that the candles up to the last one meet, and the price of a break. -/
def conditionsOf (config : TriggerConfig) (inputs : TriggerInputs) (candles : Candles) :
    (CandleTrigger → Bool) × ℚ :=
  let long := isLong inputs.direction
  let last := candles.size - 1
  let opened := valueAt candles.opens last
  let high := valueAt candles.highs last
  let low := valueAt candles.lows last
  let closed := valueAt candles.closes last
  let micro := detectMicroBos long candles.highs candles.lows config.microBosLookback
  (fun
    | .zoneTouch => decide (low ≤ inputs.zoneTop) && decide (inputs.zoneBottom ≤ high)
    | .rejection => detectRejection long inputs.zoneTop inputs.zoneBottom opened high low closed
        config.rejectionMinWickRatio
    | .displacement => detectDisplacement long opened high low closed inputs.atr
        config.displacementMinBodyAtr config.displacementMinRangeAtr
    | .microBos => micro.1
    | .momentumShift =>
        detectMomentumShift long candles.closes config.momentumFast config.momentumSlow
    | .candleClose => inputs.isClosed, micro.2)

/-- The evaluation of all triggers at the last of some candles. -/
def evaluateLast (config : TriggerConfig) (inputs : TriggerInputs) (candles : Candles) :
    TriggerEvaluation :=
  let conditions := conditionsOf config inputs candles
  let price := valueAt candles.closes (candles.size - 1)
  let dated := CandleTrigger.all.any fun trigger => trigger ≠ .zoneTouch ∧ conditions.1 trigger
  { conditionsMet := conditions.1
    evidence := (CandleTrigger.all.filter conditions.1).map fun trigger =>
      { type := trigger
        direction := if isLong inputs.direction then "LONG" else "SHORT"
        timeframe := inputs.timeframe
        detectedAt := inputs.now
        triggerPrice := price
        breakPrice := if trigger = .microBos then conditions.2 else 0
        sourceId := inputs.timeframe ++ ":" ++ trigger.name }
    blocking := blockingConditions config inputs
    triggerTime := if dated then inputs.now else 0
    triggerPrice := if dated then price else 0 }

/-- The evaluation of all triggers at the last closed candle. -/
def evaluateTriggers (config : TriggerConfig) (inputs : TriggerInputs) (candles : Candles) :
    TriggerEvaluation :=
  let size := candles.size
  let count := if inputs.isClosed then size else size - 1
  if size < 3 ∨ inputs.atr ≤ 0 then unconfirmed "insufficient_data"
  else if count < 3 then unconfirmed "candle_not_closed"
  else evaluateLast config inputs (candles.take count)

/-- What is noted about a trigger that the last of some candles meets; `shown` is how a number
prints. -/
def detailOf (shown : ℚ → String) (config : TriggerConfig) (inputs : TriggerInputs)
    (candles : Candles) : CandleTrigger → String :=
  let long := isLong inputs.direction
  let last := candles.size - 1
  let opened := valueAt candles.opens last
  let high := valueAt candles.highs last
  let low := valueAt candles.lows last
  let closed := valueAt candles.closes last
  let range := high - low
  let wick := if long then min opened closed - low else high - max opened closed
  fun
    | .zoneTouch => "candle range intersects zone"
    | .rejection =>
        (if long then "LONG" else "SHORT") ++ " rejection: wick " ++ Text.fixedSigned 5 wick ++
          " (" ++ toString (Text.roundHalfEven (wick / range * 100)) ++ "%), body " ++
          Text.fixedSigned 5 (closed - opened)
    | .displacement =>
        "body " ++ Text.fixedSigned 2 (|closed - opened| / inputs.atr) ++ " ATR, range " ++
          Text.fixedSigned 2 (range / inputs.atr) ++ " ATR"
    | .microBos =>
        "micro swing break at " ++
          shown (detectMicroBos long candles.highs candles.lows config.microBosLookback).2
    | .momentumShift => "EMA fast/slow aligned with direction"
    | .candleClose => "evaluated candle is closed"

/-- The candles that are evaluated, when there are enough. -/
def evaluatedCandles (inputs : TriggerInputs) (candles : Candles) : Option Candles :=
  let size := candles.size
  let count := if inputs.isClosed then size else size - 1
  if size < 3 ∨ inputs.atr ≤ 0 then none
  else if count < 3 then none
  else some (candles.take count)

/-- What is noted about the triggers that are met, one text for each. -/
def triggerDetails (shown : ℚ → String) (config : TriggerConfig) (inputs : TriggerInputs)
    (candles : Candles) : List String :=
  match evaluatedCandles inputs candles with
  | none => []
  | some evaluated =>
      (CandleTrigger.all.filter (conditionsOf config inputs evaluated).1).map
        (detailOf shown config inputs evaluated)

/-- Every piece of evidence has its text. -/
theorem length_triggerDetails (shown : ℚ → String) (config : TriggerConfig)
    (inputs : TriggerInputs) (candles : Candles) :
    (triggerDetails shown config inputs candles).length =
      (evaluateTriggers config inputs candles).evidence.length := by
  unfold triggerDetails evaluatedCandles evaluateTriggers
  dsimp only
  by_cases few : candles.size < 3 ∨ inputs.atr ≤ 0
  · rw [if_pos few, if_pos few]
    rfl
  · rw [if_neg few, if_neg few]
    generalize (if inputs.isClosed = true then candles.size else candles.size - 1) = count
    by_cases short : count < 3
    · rw [if_pos short, if_pos short]
      rfl
    · rw [if_neg short, if_neg short]
      simp [evaluateLast]

/-! ## The assessment -/

/-- The policy of entries: triggers, and setups that require others. -/
structure EntryEngineConfig where
  trigger : TriggerConfig
  setupTriggerOverrides : Dict String (List CandleTrigger)

/-- The policy by default. -/
def EntryEngineConfig.default_ : EntryEngineConfig :=
  ⟨TriggerConfig.default_, Dict.empty⟩

/-- The triggers that a setup requires. -/
def requiredFor (config : EntryEngineConfig) (setupType : String) : List CandleTrigger :=
  match config.setupTriggerOverrides.get (Text.upper setupType) with
  | some override => if override = [] then config.trigger.requiredTriggers else override
  | none => config.trigger.requiredTriggers

/-- The status of an assessment. -/
inductive TriggerStatus
  | invalid | expired | waitTrigger | entryReady
deriving DecidableEq

namespace TriggerStatus

/-- The text of a status. -/
def text : TriggerStatus → String
  | invalid => "INVALID"
  | expired => "EXPIRED"
  | waitTrigger => "WAIT_TRIGGER"
  | entryReady => "ENTRY_READY"

end TriggerStatus

/-- What an evaluation means for an entry. -/
structure TriggerAssessment where
  setupId : String
  symbol : String
  direction : String
  zoneTouched : Bool
  triggerRequired : String
  triggerStatus : TriggerStatus
  entryQuality : ℚ
  triggersDetected : List CandleTrigger
  missingTriggers : List CandleTrigger
  blockingConditions : List String
  triggerTime : ℚ
  triggerPrice : ℚ
  triggerId : String
  triggerConfirmed : Bool
  evaluatedAt : ℚ
  fresh : Bool
  evidence : List CandleTrigger
  reason : String

/-- The names of triggers, with a mark between them. -/
def joined (mark : String) (triggers : List CandleTrigger) : String :=
  mark.intercalate (triggers.map CandleTrigger.name)

/-- A trigger is not too old. -/
def isFresh (evaluation : TriggerEvaluation) (maxAge now : ℚ) : Bool :=
  if evaluation.triggerTime = 0 then false
  else decide (now - evaluation.triggerTime ≤ max 0 maxAge)

/-- The status of a setup, whether it is confirmed, and the reason. -/
def statusOf (lifecycle : String) (required : List CandleTrigger) (evaluation : TriggerEvaluation) :
    TriggerStatus × Bool × String :=
  let detected := required.filter evaluation.conditionsMet
  let missing := required.filter fun trigger => !evaluation.conditionsMet trigger
  if lifecycle = "INVALID" then (.invalid, false, "setup invalidated")
  else if lifecycle = "EXPIRED" then (.expired, false, "setup expired")
  else if evaluation.blocking ≠ [] then
    (.waitTrigger, false, "blocked: " ++ ",".intercalate evaluation.blocking)
  else if required ≠ [] ∧ missing = [] then
    (.entryReady, true, "confirmed: " ++ joined "," detected)
  else (.waitTrigger, false, "missing: " ++ joined "," missing)

/-- The assessment of an evaluation. -/
def adaptTriggerToAssessment (config : EntryEngineConfig)
    (setupId symbol direction setupType lifecycle : String) (now : ℚ)
    (evaluation : TriggerEvaluation) : TriggerAssessment :=
  let required := requiredFor config setupType
  let detected := required.filter evaluation.conditionsMet
  let status := statusOf (Text.upper lifecycle) required evaluation
  { setupId := setupId
    symbol := symbol
    direction := Text.upper direction
    zoneTouched := evaluation.conditionsMet .zoneTouch
    triggerRequired := joined "," required
    triggerStatus := status.1
    entryQuality := Text.roundTo 4 (detected.length / (max required.length 1 : Nat))
    triggersDetected := detected
    missingTriggers := required.filter fun trigger => !evaluation.conditionsMet trigger
    blockingConditions := evaluation.blocking
    triggerTime := evaluation.triggerTime
    triggerPrice := evaluation.triggerPrice
    triggerId := joined "+" detected
    triggerConfirmed := status.2.1
    evaluatedAt := now
    fresh := if status.2.1 then isFresh evaluation config.trigger.triggerMaxAge now else true
    evidence := evaluation.evidence.map TriggerEvidence.type
    reason := status.2.2 }

/-! ## When an entry is ready -/

/-- A candle. -/
structure ZoneBar where
  opened : ℚ
  high : ℚ
  low : ℚ
  closed : ℚ
deriving DecidableEq

/-- The lists of some candles. -/
def Candles.ofBars (bars : List ZoneBar) : Candles :=
  ⟨bars.map ZoneBar.opened, bars.map ZoneBar.high, bars.map ZoneBar.low, bars.map ZoneBar.closed⟩

/-- The wick of a candle goes into the zone, and its body closes back. -/
def Rejects (long : Bool) (zoneTop zoneBottom minWickRatio : ℚ) (bar : ZoneBar) : Prop :=
  bar.low < bar.high ∧
    if long then
      bar.low ≤ zoneTop ∧ zoneBottom ≤ bar.high ∧ bar.opened < bar.closed ∧
        minWickRatio ≤ (min bar.opened bar.closed - bar.low) / (bar.high - bar.low)
    else
      zoneBottom ≤ bar.high ∧ bar.low ≤ zoneTop ∧ bar.closed < bar.opened ∧
        minWickRatio ≤ (bar.high - max bar.opened bar.closed) / (bar.high - bar.low)

/-- A candle meets the triggers that are required by default. -/
def Confirms (inputs : TriggerInputs) (bar : ZoneBar) : Prop :=
  (bar.low ≤ inputs.zoneTop ∧ inputs.zoneBottom ≤ bar.high) ∧
    Rejects (isLong inputs.direction) inputs.zoneTop inputs.zoneBottom (2 / 5) bar

theorem detectRejection_eq_true_iff {long : Bool} {zoneTop zoneBottom ratio : ℚ} {bar : ZoneBar} :
    detectRejection long zoneTop zoneBottom bar.opened bar.high bar.low bar.closed ratio = true ↔
      Rejects long zoneTop zoneBottom ratio bar := by
  unfold detectRejection Rejects
  dsimp only
  by_cases flat : bar.high - bar.low ≤ 0
  · rw [if_pos flat]
    simp [show ¬ bar.low < bar.high by linarith]
  · rw [if_neg flat, and_iff_right (by linarith : bar.low < bar.high)]
    cases long with
    | true =>
        have range : zoneBottom - (bar.high - bar.low) ≤ bar.low ↔ zoneBottom ≤ bar.high := by
          constructor <;> intro order <;> linarith
        simp [not_lt, range, and_assoc]
    | false =>
        have range : bar.high ≤ zoneTop + (bar.high - bar.low) ↔ bar.low ≤ zoneTop := by
          constructor <;> intro order <;> linarith
        simp [not_lt, range, and_assoc]

theorem blockingConditions_eq_nil_iff {config : TriggerConfig} {inputs : TriggerInputs} :
    blockingConditions config inputs = [] ↔
      ¬ ((0 < inputs.spreadAtr ∧ 0 < config.maxSpreadAtr ∧
          config.maxSpreadAtr < inputs.spreadAtr) ∨
        inputs.structureInvalidated = true ∨ inputs.newsBlocked = true) := by
  unfold blockingConditions
  split_ifs <;> simp [*]

/-- An assessment is ready exactly when nothing blocks it and all required triggers are met. -/
theorem entryReady_iff {config : EntryEngineConfig} {setupId symbol direction setupType : String}
    {now : ℚ} {evaluation : TriggerEvaluation} :
    (adaptTriggerToAssessment config setupId symbol direction setupType "CANDIDATE" now
        evaluation).triggerStatus = .entryReady ↔
      evaluation.blocking = [] ∧ requiredFor config setupType ≠ [] ∧
        ∀ trigger ∈ requiredFor config setupType, evaluation.conditionsMet trigger = true := by
  have life : Text.upper "CANDIDATE" = "CANDIDATE" := by decide +kernel
  unfold adaptTriggerToAssessment statusOf
  dsimp only
  rw [life, if_neg (by decide), if_neg (by decide)]
  by_cases blocked : evaluation.blocking = []
  · rw [if_neg (not_not.mpr blocked), and_iff_right blocked]
    split_ifs with met
    · simpa using met
    · simpa using met
  · rw [if_pos blocked]
    simp [blocked]

/-! ### By default -/

/-- The setup of an evaluation by default is ready for an entry. -/
def ReadyByDefault (inputs : TriggerInputs) (setupId symbol setupType : String) (now : ℚ)
    (candles : Candles) : Prop :=
  (adaptTriggerToAssessment EntryEngineConfig.default_ setupId symbol inputs.direction setupType
    "CANDIDATE" now (evaluateTriggers TriggerConfig.default_ inputs candles)).triggerStatus =
      .entryReady

instance (inputs : TriggerInputs) (setupId symbol setupType : String) (now : ℚ)
    (candles : Candles) : Decidable (ReadyByDefault inputs setupId symbol setupType now candles) :=
  inferInstanceAs (Decidable (_ = _))

theorem ready_iff {inputs : TriggerInputs} {setupId symbol setupType : String} {now : ℚ}
    {candles : Candles} :
    ReadyByDefault inputs setupId symbol setupType now candles ↔
      (evaluateTriggers TriggerConfig.default_ inputs candles).blocking = [] ∧
        ∀ trigger ∈ TriggerConfig.default_.requiredTriggers,
          (evaluateTriggers TriggerConfig.default_ inputs candles).conditionsMet trigger =
            true := by
  rw [ReadyByDefault, entryReady_iff]
  have required : requiredFor EntryEngineConfig.default_ setupType =
      TriggerConfig.default_.requiredTriggers := rfl
  rw [required, and_iff_right (by decide : TriggerConfig.default_.requiredTriggers ≠ [])]

theorem size_ofBars (bars : List ZoneBar) : (Candles.ofBars bars).size = bars.length := by
  simp [Candles.ofBars, Candles.size]

theorem take_ofBars (bars : List ZoneBar) (count : Nat) :
    (Candles.ofBars bars).take count = Candles.ofBars (bars.take count) := by
  simp [Candles.ofBars, Candles.take, List.map_take]

/-- The triggers that are required by default, at the last of some closed candles. -/
theorem required_conditionsOf {inputs : TriggerInputs} (bars : List ZoneBar) (bar : ZoneBar) :
    (∀ trigger ∈ TriggerConfig.default_.requiredTriggers,
      (conditionsOf TriggerConfig.default_ inputs (Candles.ofBars (bars ++ [bar]))).1 trigger =
        true) ↔
        Confirms inputs bar ∧ inputs.isClosed = true := by
  have last : ∀ field : ZoneBar → ℚ,
      valueAt ((bars ++ [bar]).map field) ((bars ++ [bar]).length - 1) = field bar := by
    intro field
    simp [valueAt]
  unfold conditionsOf
  dsimp only
  rw [size_ofBars]
  simp only [TriggerConfig.default_, Candles.ofBars, last, List.forall_mem_cons, List.not_mem_nil,
    detectRejection_eq_true_iff, Bool.and_eq_true, decide_eq_true_iff, Confirms]
  simp [and_assoc]

/-- An entry is ready by default exactly when nothing blocks it, the last of at least three
candles is closed, and it comes into the zone and is rejected. -/
theorem ready_ofBars_iff {inputs : TriggerInputs} (closed : inputs.isClosed = true)
    (volatile : 0 < inputs.atr) {setupId symbol setupType : String} {now : ℚ}
    {bars : List ZoneBar} :
    ReadyByDefault inputs setupId symbol setupType now (Candles.ofBars bars) ↔
      blockingConditions TriggerConfig.default_ inputs = [] ∧ 3 ≤ bars.length ∧
        ∃ bar, bars.getLast? = some bar ∧ Confirms inputs bar := by
  rw [ready_iff]
  unfold evaluateTriggers
  dsimp only
  rw [size_ofBars, closed, if_pos rfl]
  by_cases short : bars.length < 3
  · rw [if_pos (Or.inl short)]
    simp [unconfirmed, not_le.mpr short]
  · rw [if_neg (not_or.mpr ⟨short, not_le.mpr volatile⟩), if_neg short, take_ofBars,
      List.take_length]
    change blockingConditions TriggerConfig.default_ inputs = [] ∧ _ ↔ _
    rw [and_iff_right (not_lt.mp short)]
    refine and_congr_right fun _ => ?_
    rcases List.eq_nil_or_concat bars with rfl | ⟨front, bar, rfl⟩
    · exact absurd (by decide) short
    · rw [evaluateLast, List.concat_eq_append, required_conditionsOf, closed, and_iff_left rfl]
      simp

/-- While the last candle is forming no entry is ready by default. -/
theorem not_ready_of_forming {inputs : TriggerInputs} (forming : inputs.isClosed = false)
    {setupId symbol setupType : String} {now : ℚ} {candles : Candles} :
    ¬ ReadyByDefault inputs setupId symbol setupType now candles := by
  rw [ready_iff]
  rintro ⟨-, met⟩
  have closed := met .candleClose (by decide)
  unfold evaluateTriggers at closed
  dsimp only at closed
  rw [forming, if_neg Bool.false_ne_true] at closed
  split at closed
  case isTrue => exact absurd closed Bool.false_ne_true
  case isFalse =>
    split at closed
    case isTrue => exact absurd closed Bool.false_ne_true
    case isFalse => exact absurd (forming.symm.trans closed) Bool.false_ne_true

end EaBot.Trading
