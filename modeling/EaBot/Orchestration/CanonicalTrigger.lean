import EaBot.Foundation.Value
import EaBot.Trading.TriggerEngine

/-!
# The trigger of a zone plan

Before a plan at a zone is executed, the trigger engine has to confirm it.  The engine is given
the bars of the zone when the context has no series of its own.

The bars end with the one that is still forming, and their closes are not among what is given:
the highs stand in for them.  The forming bar counts as closed by default, and its high as its
close.  A plan that buys can so be confirmed by a bar that has not closed, and a plan that sells
is never confirmed.
-/

namespace EaBot.Orchestration

open EaBot.Foundation EaBot.Trading

/-- What the context says about the trigger; a series that is missing is empty. -/
structure TriggerContext where
  triggerOpens : List ℚ
  triggerHighs : List ℚ
  triggerLows : List ℚ
  triggerCloses : List ℚ
  candleClosed : Option Val
  newsState : Val
  structureInvalidated : Val
  triggerTimeframe : Val
  setupId : Val
  setupType : Val

/-- The plan that is to be confirmed, and the market. -/
structure TriggerRequest where
  symbol : String
  direction : String
  zoneTop : ℚ
  zoneBottom : ℚ
  atr : ℚ
  spreadPrice : Val

/-- A series of the context, or the one of the zone. -/
def seriesOr (own zone : List ℚ) : List ℚ :=
  if own = [] then zone else own

/-- The spread in units of the range of the market, zero when it is not known. -/
def spreadAtr (spreadPrice : Val) (atr : ℚ) : ℚ :=
  match (spreadPrice.orElse (.int 0)).toFloat with
  | .ok price => if 0 < price ∧ 0 < atr then price / atr else 0
  | .error _ => 0

/-- A state of the news that blocks an entry. -/
def newsBlocks (newsState : Val) : Bool :=
  Text.upper (newsState.orElse (.str "")).text ∈ ["HIGH_IMPACT", "HIGH", "CRITICAL"]

/-- What the engine is asked about a plan. -/
def triggerInputs (request : TriggerRequest) (context : TriggerContext) (isClosed : Bool)
    (now : ℚ) : TriggerInputs where
  direction := request.direction
  zoneTop := request.zoneTop
  zoneBottom := request.zoneBottom
  atr := if 0 < request.atr then request.atr else 1 / 10 ^ 9
  timeframe := (context.triggerTimeframe.orElse (.str "M5")).text
  isClosed := isClosed
  spreadAtr := spreadAtr request.spreadPrice request.atr
  newsBlocked := newsBlocks context.newsState
  structureInvalidated := context.structureInvalidated.truthy
  now := now

/-- The context counts the last candle as closed. -/
def candleClosed (context : TriggerContext) : Bool :=
  (context.candleClosed.getD (.bool true)).truthy

/-- The setup that is assessed; `shown` is how a number prints. -/
def setupIdOf (shown : ℚ → String) (request : TriggerRequest) (context : TriggerContext) : String :=
  (context.setupId.orElse (.str (request.symbol ++ ":" ++ request.direction ++ ":" ++
    shown (Text.roundTo 5 request.zoneTop)))).text

/-- The kind of setup that is assessed. -/
def setupTypeOf (context : TriggerContext) : String :=
  (context.setupType.orElse (.str "CONTINUATION")).text

/-- The assessment of a plan by the engine. -/
def assess (shown : ℚ → String) (request : TriggerRequest) (context : TriggerContext)
    (isClosed : Bool) (clock : ℚ × ℚ) (candles : Candles) : TriggerAssessment :=
  adaptTriggerToAssessment EntryEngineConfig.default_ (setupIdOf shown request context)
    request.symbol request.direction (setupTypeOf context) "CANDIDATE" clock.2
    (evaluateTriggers TriggerConfig.default_ (triggerInputs request context isClosed clock.1)
      candles)

/-- The reason why an entry waits. -/
def waitReason (assessment : TriggerAssessment) : String :=
  assessment.triggerStatus.text ++
    (if assessment.missingTriggers = [] then ""
      else " missing=" ++ joined "," assessment.missingTriggers) ++
    if assessment.blockingConditions = [] then ""
      else " blocked=" ++ ",".intercalate assessment.blockingConditions

/-- The candles that the engine is given: those of the context, or those of the zone. -/
def triggerCandles (context : TriggerContext) (zoneOpens zoneHighs zoneLows : List ℚ) : Candles :=
  let opens := seriesOr context.triggerOpens zoneOpens
  let highs := seriesOr context.triggerHighs zoneHighs
  let lows := seriesOr context.triggerLows zoneLows
  let closes := seriesOr context.triggerCloses zoneHighs
  let short := closes.length < 3 ∨ opens.length < 3 ∨ highs.length < 3 ∨ lows.length < 3
  ⟨opens, highs, lows, if short then zoneHighs else closes⟩

/-- Whether the trigger of a plan is confirmed, the reason and the assessment. -/
def evaluateCanonicalTrigger (shown : ℚ → String) (request : TriggerRequest)
    (context : TriggerContext) (clock : ℚ × ℚ) (zoneOpens zoneHighs zoneLows : List ℚ) :
    Bool × String × Option TriggerAssessment :=
  let candles := triggerCandles context zoneOpens zoneHighs zoneLows
  if candles.highs.length < 3 then (false, "data trigger tidak cukup", none)
  else
    let assessment := assess shown request context (candleClosed context) clock candles
    if assessment.triggerStatus = .entryReady then (true, "trigger terkonfirmasi", some assessment)
    else (false, waitReason assessment, some assessment)

/-! ## The verdict -/

/-- The verdict on a plan with the bars of its zone. -/
def verdict (shown : ℚ → String) (request : TriggerRequest) (context : TriggerContext)
    (clock : ℚ × ℚ) (bars : List ZoneBar) : Bool :=
  (evaluateCanonicalTrigger shown request context clock (bars.map ZoneBar.opened)
    (bars.map ZoneBar.high) (bars.map ZoneBar.low)).1

/-- The verdict of the engine on the bars that have closed, with their own closes. -/
def closedVerdict (shown : ℚ → String) (request : TriggerRequest) (context : TriggerContext)
    (clock : ℚ × ℚ) (bars : List ZoneBar) : Bool :=
  (assess shown request context true clock (Candles.ofBars bars.dropLast)).triggerStatus =
    .entryReady

/-- The context has no series of its own. -/
structure NoSeries (context : TriggerContext) : Prop where
  opens : context.triggerOpens = []
  highs : context.triggerHighs = []
  lows : context.triggerLows = []
  closes : context.triggerCloses = []

/-- The spread, the news or the structure block an entry whatever the bars. -/
def Blocked (request : TriggerRequest) (context : TriggerContext) : Prop :=
  1 / 4 < spreadAtr request.spreadPrice request.atr ∨ context.structureInvalidated.truthy = true ∨
    newsBlocks context.newsState = true

instance (request : TriggerRequest) (context : TriggerContext) :
    Decidable (Blocked request context) :=
  inferInstanceAs (Decidable (_ ∨ _))

/-- A bar meets the triggers that a plan requires. -/
def Confirming (request : TriggerRequest) (bar : ZoneBar) : Prop :=
  (bar.low ≤ request.zoneTop ∧ request.zoneBottom ≤ bar.high) ∧
    Rejects (isLong request.direction) request.zoneTop request.zoneBottom (2 / 5) bar

/-- The forming bar counts as closed and confirms with its high as its close. -/
def FormingConfirms (request : TriggerRequest) (context : TriggerContext) (bars : List ZoneBar) :
    Prop :=
  candleClosed context = true ∧ 3 ≤ bars.length ∧
    ∃ bar, bars.getLast? = some bar ∧ Confirming request { bar with closed := bar.high }

/-- The last closed bar confirms. -/
def ClosedConfirms (request : TriggerRequest) (bars : List ZoneBar) : Prop :=
  3 ≤ bars.dropLast.length ∧ ∃ bar, bars.dropLast.getLast? = some bar ∧ Confirming request bar

theorem fst_ite_eq_true_iff {condition : Prop} [Decidable condition] {β : Type}
    (first second : β) :
    (if condition then (true, first) else (false, second)).1 = true ↔ condition := by
  split_ifs <;> simp [*]

section Verdict

variable {shown : ℚ → String} {request : TriggerRequest} {context : TriggerContext}
variable {clock : ℚ × ℚ} {bars : List ZoneBar}

theorem blockingConditions_eq_nil_iff {isClosed : Bool} {now : ℚ} :
    blockingConditions TriggerConfig.default_ (triggerInputs request context isClosed now) = [] ↔
      ¬ Blocked request context := by
  have wide : (0 < spreadAtr request.spreadPrice request.atr ∧ (0 : ℚ) < 1 / 4 ∧
      1 / 4 < spreadAtr request.spreadPrice request.atr) ↔
        1 / 4 < spreadAtr request.spreadPrice request.atr := by
    constructor
    · exact fun all => all.2.2
    · intro more
      exact ⟨by linarith, by norm_num, more⟩
  rw [EaBot.Trading.blockingConditions_eq_nil_iff]
  dsimp only [triggerInputs, TriggerConfig.default_]
  exact not_congr (or_congr wide Iff.rfl)

/-- A plan is assessed with the defaults of the engine. -/
theorem assess_ready_iff {isClosed : Bool} {candles : Candles} :
    (assess shown request context isClosed clock candles).triggerStatus = .entryReady ↔
      ReadyByDefault (triggerInputs request context isClosed clock.1)
        (setupIdOf shown request context) request.symbol (setupTypeOf context) clock.2 candles :=
  Iff.rfl

/-- The engine confirms a plan exactly when nothing blocks it and the last of at least three bars
confirms it. -/
theorem assess_iff :
    (assess shown request context true clock (Candles.ofBars bars)).triggerStatus = .entryReady ↔
      ¬ Blocked request context ∧ 3 ≤ bars.length ∧
        ∃ bar, bars.getLast? = some bar ∧ Confirming request bar := by
  have volatile : 0 < (triggerInputs request context true clock.1).atr := by
    change 0 < if 0 < request.atr then request.atr else 1 / 10 ^ 9
    split
    · assumption
    · norm_num
  rw [assess_ready_iff, ready_ofBars_iff rfl volatile, blockingConditions_eq_nil_iff]
  rfl

/-- The bars that the engine is given when the context has no series: their highs stand in for
the closes. -/
theorem triggerCandles_of_noSeries (none : NoSeries context) :
    triggerCandles context (bars.map ZoneBar.opened) (bars.map ZoneBar.high)
        (bars.map ZoneBar.low) =
      Candles.ofBars (bars.map fun bar => { bar with closed := bar.high }) := by
  unfold triggerCandles Candles.ofBars seriesOr
  rw [none.opens, none.highs, none.lows, none.closes]
  simp [Function.comp_def]

/-- Without series in the context a plan is confirmed exactly when nothing blocks it and the
forming bar counts as closed and confirms it with its high as its close. -/
theorem verdict_iff (none : NoSeries context) :
    verdict shown request context clock bars = true ↔
      ¬ Blocked request context ∧ FormingConfirms request context bars := by
  have length : (triggerCandles context (bars.map ZoneBar.opened) (bars.map ZoneBar.high)
      (bars.map ZoneBar.low)).highs.length = bars.length := by
    rw [triggerCandles_of_noSeries none]
    simp [Candles.ofBars]
  unfold verdict evaluateCanonicalTrigger FormingConfirms
  dsimp only
  rw [length]
  by_cases short : bars.length < 3
  · rw [if_pos short]
    simp [not_le.mpr short]
  · rw [if_neg short, triggerCandles_of_noSeries none]
    rw [fst_ite_eq_true_iff]
    cases closed : candleClosed context with
    | false =>
        have forming : ¬ (assess shown request context false clock
            (Candles.ofBars (bars.map fun bar => { bar with closed := bar.high }))).triggerStatus =
              .entryReady := by
          rw [assess_ready_iff]
          exact not_ready_of_forming rfl
        simp [forming]
    | true =>
        rw [assess_iff, List.length_map, List.getLast?_map]
        simp

/-- The engine confirms a plan on the closed bars exactly when nothing blocks it and the last
closed bar confirms it. -/
theorem closedVerdict_iff :
    closedVerdict shown request context clock bars = true ↔
      ¬ Blocked request context ∧ ClosedConfirms request bars := by
  unfold closedVerdict
  rw [decide_eq_true_iff, assess_iff]
  rfl

/-! ## The forming bar -/

/-- With its high as its close a bar never confirms a plan that sells: its body cannot fall and
leave a wick above. -/
theorem not_confirming_of_short (short : isLong request.direction = false) (bar : ZoneBar) :
    ¬ Confirming request { bar with closed := bar.high } := by
  unfold Confirming Rejects
  rw [short]
  rintro ⟨-, range, wick⟩
  simp only [Bool.false_eq_true, if_false] at wick range
  rcases wick with ⟨-, -, falls, ratio⟩
  rw [max_eq_left falls.le, le_div_iff₀ (sub_pos.mpr range)] at ratio
  linarith

/-- Whatever the zone, some bar with its high as its close confirms a plan that buys. -/
theorem exists_confirming_of_long (long : isLong request.direction = true) :
    ∃ bar : ZoneBar, Confirming request { bar with closed := bar.high } := by
  have low : min request.zoneTop request.zoneBottom ≤ request.zoneTop := min_le_left _ _
  have high : request.zoneBottom ≤ max request.zoneTop request.zoneBottom := le_max_right _ _
  have order : min request.zoneTop request.zoneBottom ≤ max request.zoneTop request.zoneBottom :=
    min_le_max
  generalize min request.zoneTop request.zoneBottom = bottom at low order
  generalize max request.zoneTop request.zoneBottom = top at high order
  refine ⟨⟨(bottom + (top + 1)) / 2, top + 1, bottom, 0⟩, ?_⟩
  unfold Confirming Rejects
  rw [long]
  dsimp only
  rw [if_pos rfl, min_eq_left (by linarith), le_div_iff₀ (by linarith)]
  refine ⟨⟨low, by linarith⟩, by linarith, low, by linarith, by linarith, by linarith⟩

/-- A bar without a range does not confirm. -/
theorem not_confirming_flat : ¬ Confirming request ⟨0, 0, 0, 0⟩ := by
  rintro ⟨-, range, -⟩
  exact lt_irrefl _ range

/-- The forming bar does not matter exactly when the entry is blocked, the context counts the
last bar as forming, there are fewer than two closed bars, or the plan does not buy. -/
theorem forming_irrelevant_iff (none : NoSeries context) {closed : List ZoneBar} :
    (∀ forming other, verdict shown request context clock (closed ++ [forming]) =
        verdict shown request context clock (closed ++ [other])) ↔
      Blocked request context ∨ candleClosed context = false ∨ closed.length < 2 ∨
        isLong request.direction = false := by
  have confirms : ∀ bar, FormingConfirms request context (closed ++ [bar]) ↔
      candleClosed context = true ∧ 2 ≤ closed.length ∧
        Confirming request { bar with closed := bar.high } := by
    intro bar
    simp [FormingConfirms]
  constructor
  · intro same
    by_contra open_
    rcases not_or.mp open_ with ⟨free, rest⟩
    rcases not_or.mp rest with ⟨last, rest⟩
    rcases not_or.mp rest with ⟨enough, buys⟩
    rcases exists_confirming_of_long (eq_true_of_ne_false buys) with ⟨bar, confirming⟩
    have sure : verdict shown request context clock (closed ++ [bar]) = true :=
      (verdict_iff none).mpr ⟨free, (confirms bar).mpr
        ⟨eq_true_of_ne_false last, not_lt.mp enough, confirming⟩⟩
    rw [same bar ⟨0, 0, 0, 0⟩, verdict_iff none, confirms] at sure
    exact not_confirming_flat sure.2.2.2
  · intro condition forming other
    have never : ∀ bar, ¬ verdict shown request context clock (closed ++ [bar]) = true := by
      intro bar
      rw [verdict_iff none, confirms]
      rintro ⟨free, last, enough, confirming⟩
      rcases condition with blocked | forms | few | sells
      · exact free blocked
      · exact absurd (forms.symm.trans last) (by decide)
      · omega
      · exact not_confirming_of_short sells bar confirming
    rw [eq_false_of_ne_true (never forming), eq_false_of_ne_true (never other)]

/-- For all bars the verdict is that of the engine on the closed bars exactly when the entry is
blocked or the forming bar confirms, with its high as its close, just when the last closed bar
does; and it does not depend on the forming bar exactly when the entry is blocked, the context
counts the last bar as forming, fewer than two bars have closed, or the plan does not buy. -/
theorem verdict_eq_iff (shown : ℚ → String) (request : TriggerRequest) (context : TriggerContext)
    (clock : ℚ × ℚ) (none : NoSeries context) (bars closed : List ZoneBar) :
    (verdict shown request context clock bars = closedVerdict shown request context clock bars ↔
      Blocked request context ∨
        (FormingConfirms request context bars ↔ ClosedConfirms request bars)) ∧
    ((∀ forming other, verdict shown request context clock (closed ++ [forming]) =
        verdict shown request context clock (closed ++ [other])) ↔
      Blocked request context ∨ candleClosed context = false ∨ closed.length < 2 ∨
        isLong request.direction = false) := by
  refine ⟨?_, forming_irrelevant_iff none⟩
  rw [Bool.eq_iff_iff, verdict_iff none, closedVerdict_iff]
  by_cases blocked : Blocked request context
  · simp [blocked]
  · simp [blocked]

end Verdict

/-! ### A wick of a bar that has not closed -/

namespace Sample

/-- A context without series. -/
def context : TriggerContext where
  triggerOpens := []
  triggerHighs := []
  triggerLows := []
  triggerCloses := []
  candleClosed := none
  newsState := .none
  structureInvalidated := .none
  triggerTimeframe := .none
  setupId := .none
  setupType := .none

theorem noSeries : NoSeries context :=
  ⟨rfl, rfl, rfl, rfl⟩

/-- A plan that buys at a zone from 100 to 101. -/
def request : TriggerRequest where
  symbol := "XAUUSD"
  direction := "BUY"
  zoneTop := 101
  zoneBottom := 100
  atr := 2
  spreadPrice := .none

/-- Bars above the zone, and one that falls from 101 to 100 after a high of 102. -/
def bars : List ZoneBar :=
  [⟨105, 105, 105, 105⟩, ⟨105, 105, 105, 105⟩, ⟨105, 105, 105, 105⟩, ⟨101, 102, 100, 100⟩]

theorem not_blocked : ¬ Blocked request context := by
  decide +kernel

theorem formingConfirms : FormingConfirms request context bars := by
  refine ⟨rfl, by decide, _, rfl, ?_⟩
  have buys : isLong request.direction = true := by decide +kernel
  unfold Confirming Rejects
  rw [buys]
  decide +kernel

end Sample

/-- The verdict on a plan with the bars of the sample. -/
theorem verdict_eq_iff_falling :
    (verdict (fun _ => "") Sample.request Sample.context (0, 0) Sample.bars =
        closedVerdict (fun _ => "") Sample.request Sample.context (0, 0) Sample.bars ↔
      Blocked Sample.request Sample.context ∨
        (FormingConfirms Sample.request Sample.context Sample.bars ↔
          ClosedConfirms Sample.request Sample.bars)) ∧
    ((∀ forming other,
        verdict (fun _ => "") Sample.request Sample.context (0, 0) (Sample.bars ++ [forming]) =
          verdict (fun _ => "") Sample.request Sample.context (0, 0) (Sample.bars ++ [other])) ↔
      Blocked Sample.request Sample.context ∨ candleClosed Sample.context = false ∨
        Sample.bars.length < 2 ∨ isLong Sample.request.direction = false) :=
  verdict_eq_iff _ _ _ _ Sample.noSeries _ _

/-- A falling bar that has not closed confirms a plan that buys, where the closed bars have not
come to the zone. -/
theorem not_closedOnly : ¬ ∀ shown request context clock, NoSeries context → ∀ bars closed,
    verdict shown request context clock bars = closedVerdict shown request context clock bars ∧
      ∀ forming other, verdict shown request context clock (closed ++ [forming]) =
        verdict shown request context clock (closed ++ [other]) := by
  intro closedOnly
  have same := (closedOnly (fun _ => "") Sample.request Sample.context (0, 0) Sample.noSeries
    Sample.bars []).1
  rw [(verdict_iff Sample.noSeries).mpr ⟨Sample.not_blocked, Sample.formingConfirms⟩] at same
  rcases (closedVerdict_iff.mp same.symm).2 with ⟨-, bar, last, -, range, -⟩
  cases last
  exact lt_irrefl _ range

end EaBot.Orchestration
