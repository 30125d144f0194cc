import EaBot.Foundation.Rounding
import EaBot.Foundation.Smoothing
import EaBot.Foundation.Value
import EaBot.Trading.Indicators

/-!
# The bias of the zone gate

The gate trades with the bias of the higher timeframes: a fast moving average of their closes
lies above a slow one or below it.

The closes of the timeframes are put into one list before they are averaged.  The bias of that
list is the bias of the last timeframe, moved by what is left of the others where the last one
begins.  What the others say for themselves is not asked.
-/

namespace EaBot.Trading

open EaBot.Foundation

/-! ## The bias of some closes -/

/-- The direction of a bias. -/
inductive BiasDirection
  | bullish | bearish | neutral
deriving DecidableEq

/-- A bias and its strength. -/
structure MarketBias where
  direction : BiasDirection
  strength : ℚ
deriving DecidableEq

/-- The period of the fast average. -/
def biasFast : Nat := 20

/-- The period of the slow average. -/
def biasSlow : Nat := 50

/-- The last value of a moving average. -/
def lastEma (period : Nat) (closes : List ℚ) : ℚ :=
  (emaValues period closes).getLastD 0

/-- The bias of closes, of which only positive ones count. -/
def computeBias (htfCloses : List ℚ) (minStrength : ℚ) : MarketBias :=
  let closes := htfCloses.filter fun close => 0 < close
  if closes.length < max biasFast biasSlow + 1 then ⟨.neutral, 0⟩
  else
    let fast := lastEma biasFast closes
    let slow := lastEma biasSlow closes
    if slow ≤ 0 then ⟨.neutral, 0⟩
    else
      let separation := (fast - slow) / slow
      let strength := min (|separation| / (1 / 50)) 1
      if strength ≤ minStrength then ⟨.neutral, Text.roundTo 4 strength⟩
      else ⟨if 0 < separation then .bullish else .bearish, Text.roundTo 4 strength⟩

/-! ## The closes of the timeframes -/

/-- The timeframes of the bias, from the environment or by default. -/
def biasTimeframes (environment : Option String) : List String :=
  let names := match environment with
    | some names => if names = "" then "M30,H1" else names
    | none => "M30,H1"
  ((names.toList.splitOn ',').map fun name => Text.strip (String.ofList name)).filter fun name =>
    name ≠ ""

/-- The bars that are asked of each timeframe. -/
def biasBars : Nat := 120

/-- The close of a bar, when it has one that is a number. -/
def closeOf (close : Option Val) : Option ℚ :=
  close.bind fun value => value.toFloat.toOption

/-- The closes that the bias is made of: those of one timeframe after those of another. -/
def biasCloses (environment : Option String) (getOhlc : String → Nat → List (Option Val)) :
    List ℚ :=
  (biasTimeframes environment).flatMap fun timeframe =>
    (getOhlc timeframe biasBars).filterMap closeOf

theorem biasTimeframes_default : biasTimeframes none = ["M30", "H1"] := by
  decide +kernel

/-! ## The direction of a bias -/

/-- The share of a new value in a moving average. -/
def emaShare (period : Nat) : ℚ :=
  2 / (period + 1)

theorem lastEma_eq {period : Nat} {closes : List ℚ} (enough : period ≤ closes.length) :
    lastEma period closes =
      smooth (emaShare period) (average period (closes.take period)) (closes.drop period) := by
  rw [lastEma, List.getLastD_eq_getLast?, emaValues, getLast?_seeded _ _ _ _ enough]
  rfl

theorem emaShare_bounds {period : Nat} (positive : 1 < period) :
    0 < emaShare period ∧ emaShare period < 1 := by
  have more : (1 : ℚ) < period := by exact_mod_cast positive
  unfold emaShare
  constructor
  · positivity
  · rw [div_lt_one (by linarith)]
    linarith

/-- A moving average of positive closes is positive. -/
theorem lastEma_pos {period : Nat} {closes : List ℚ} (many : 1 < period)
    (enough : period ≤ closes.length) (positive : ∀ close ∈ closes, 0 < close) :
    0 < lastEma period closes := by
  have share := emaShare_bounds many
  have first : 0 < average period (closes.take period) := by
    have sum : 0 < (closes.take period).sum := by
      refine List.sum_pos _ (fun close member => positive close (List.mem_of_mem_take member)) ?_
      rw [Ne, List.take_eq_nil_iff, not_or]
      exact ⟨by omega, List.ne_nil_of_length_pos (by omega)⟩
    have divisor : (0 : ℚ) < period := by exact_mod_cast (by omega : 0 < period)
    exact div_pos sum divisor
  rw [lastEma_eq enough]
  exact smooth_pos share.1 share.2 first fun close member =>
    positive close (List.mem_of_mem_drop member)

/-- How far the fast average lies above the slow one. -/
def emaSeparation (closes : List ℚ) : ℚ :=
  lastEma biasFast closes - lastEma biasSlow closes

/-- The direction of a separation. -/
def separationDirection (separation : ℚ) : BiasDirection :=
  if 0 < separation then .bullish else if separation < 0 then .bearish else .neutral

theorem separationDirection_eq_bullish_iff {separation : ℚ} :
    separationDirection separation = .bullish ↔ 0 < separation := by
  unfold separationDirection
  split_ifs <;> simp [*]

theorem separationDirection_eq_bearish_iff {separation : ℚ} :
    separationDirection separation = .bearish ↔ separation < 0 := by
  unfold separationDirection
  split_ifs with above below
  · simp [above.le]
  · simp [below]
  · simp [below]

/-- The bias of enough positive closes has the direction of their separation. -/
theorem direction_computeBias {closes : List ℚ} (enough : biasSlow < closes.length)
    (positive : ∀ close ∈ closes, 0 < close) :
    (computeBias closes 0).direction = separationDirection (emaSeparation closes) := by
  have kept : closes.filter (fun close => decide (0 < close)) = closes :=
    List.filter_eq_self.mpr fun close member => decide_eq_true (positive close member)
  have slow : 0 < lastEma biasSlow closes := lastEma_pos (by decide) enough.le positive
  have sign : 0 < emaSeparation closes / lastEma biasSlow closes ↔ 0 < emaSeparation closes :=
    div_pos_iff_of_pos_right slow
  have noStrength : min (|emaSeparation closes / lastEma biasSlow closes| / (1 / 50)) 1 ≤ 0 ↔
      emaSeparation closes = 0 := by
    rw [min_le_iff, or_iff_left (by norm_num : ¬ (1 : ℚ) ≤ 0), div_le_iff₀ (by norm_num),
      zero_mul, abs_nonpos_iff, div_eq_zero_iff, or_iff_left slow.ne']
  unfold computeBias
  dsimp only
  rw [kept, if_neg (by have := enough; unfold biasFast biasSlow at *; omega),
    if_neg (not_le.mpr slow)]
  change (if min (|emaSeparation closes / lastEma biasSlow closes| / (1 / 50)) 1 ≤ 0 then _
    else _ : MarketBias).direction = _
  by_cases balanced : emaSeparation closes = 0
  · rw [if_pos (noStrength.mpr balanced), balanced]
    rfl
  · rw [if_neg (mt noStrength.mp balanced)]
    unfold separationDirection
    by_cases above : 0 < emaSeparation closes
    · rw [if_pos above]
      exact if_pos (sign.mpr above)
    · rw [if_neg above, if_pos (lt_of_le_of_ne (not_lt.mp above) balanced)]
      exact if_neg (mt sign.mp above)

/-! ## The seam of two series -/

/-- What is left of a series in the average of the one after it. -/
def carried (period : Nat) (earlier later : List ℚ) : ℚ :=
  (1 - emaShare period) ^ (later.length - period) *
    (smooth (emaShare period) (lastEma period earlier) (later.take period) -
      average period (later.take period))

/-- What is left of a series in the separation of the one after it. -/
def seam (earlier later : List ℚ) : ℚ :=
  carried biasFast earlier later - carried biasSlow earlier later

/-- The average of two joined series is that of the later one and what is left of the earlier. -/
theorem lastEma_append {period : Nat} {earlier later : List ℚ} (enough : period ≤ earlier.length)
    (enough' : period ≤ later.length) :
    lastEma period (earlier ++ later) = lastEma period later + carried period earlier later := by
  have joined : lastEma period (earlier ++ later) =
      smooth (emaShare period) (lastEma period earlier) later := by
    rw [lastEma_eq (by rw [List.length_append]; omega), lastEma_eq enough,
      List.take_append_of_le_length enough, List.drop_append_of_le_length enough, smooth_append]
  have parts : smooth (emaShare period) (lastEma period earlier) later =
      smooth (emaShare period)
        (smooth (emaShare period) (lastEma period earlier) (later.take period))
        (later.drop period) := by
    rw [← smooth_append, List.take_append_drop]
  have faded := smooth_sub (emaShare period)
    (smooth (emaShare period) (lastEma period earlier) (later.take period))
    (average period (later.take period)) (later.drop period)
  rw [List.length_drop, ← parts, ← joined, ← lastEma_eq enough'] at faded
  rw [carried, ← faded]
  ring

theorem emaSeparation_append {earlier later : List ℚ} (enough : biasSlow ≤ earlier.length)
    (enough' : biasSlow ≤ later.length) :
    emaSeparation (earlier ++ later) = emaSeparation later + seam earlier later := by
  have faster : biasFast ≤ biasSlow := by decide
  rw [emaSeparation, lastEma_append (faster.trans enough) (faster.trans enough'),
    lastEma_append enough enough', emaSeparation, seam]
  ring

/-! ## The bias of two timeframes -/

/-- Two timeframes make up the bias, and their closes are positive and enough for one. -/
structure Fetched (environment : Option String) (getOhlc : String → Nat → List (Option Val))
    (earlier later : List ℚ) : Prop where
  timeframes : ∃ first second, biasTimeframes environment = [first, second] ∧
    (getOhlc first biasBars).filterMap closeOf = earlier ∧
    (getOhlc second biasBars).filterMap closeOf = later
  enough : biasSlow < earlier.length ∧ biasSlow < later.length
  positive : (∀ close ∈ earlier, 0 < close) ∧ ∀ close ∈ later, 0 < close

/-- A bias that is not neutral is that of both timeframes. -/
def Agrees (joined earlier later : BiasDirection) : Prop :=
  (joined = .bullish → earlier = .bullish ∧ later = .bullish) ∧
    (joined = .bearish → earlier = .bearish ∧ later = .bearish)

section Fetched

variable {environment : Option String} {getOhlc : String → Nat → List (Option Val)}
variable {earlier later : List ℚ}

theorem Fetched.biasCloses_eq (fetched : Fetched environment getOhlc earlier later) :
    biasCloses environment getOhlc = earlier ++ later := by
  rcases fetched.timeframes with ⟨first, second, names, rfl, rfl⟩
  simp [biasCloses, names]

/-- The bias of the joined closes is that of the later timeframe, moved by the seam. -/
theorem Fetched.direction (fetched : Fetched environment getOhlc earlier later) :
    (computeBias (biasCloses environment getOhlc) 0).direction =
      separationDirection (emaSeparation later + seam earlier later) := by
  rcases fetched.enough with ⟨first, second⟩
  rw [fetched.biasCloses_eq, direction_computeBias (by rw [List.length_append]; omega) ?_,
    emaSeparation_append first.le second.le]
  intro close member
  rcases List.mem_append.mp member with before | after
  · exact fetched.positive.1 close before
  · exact fetched.positive.2 close after

/-- A seam that is smaller than the separation of the later timeframe leaves its bias. -/
theorem Fetched.direction_of_small_seam (fetched : Fetched environment getOhlc earlier later)
    (small : |seam earlier later| < |emaSeparation later|) :
    (computeBias (biasCloses environment getOhlc) 0).direction =
      (computeBias later 0).direction := by
  rw [fetched.direction, direction_computeBias fetched.enough.2 fetched.positive.2]
  rcases abs_lt.mp small with ⟨low, high⟩
  unfold separationDirection
  rcases lt_trichotomy (emaSeparation later) 0 with below | balanced | above
  · rw [abs_of_neg below] at low high
    rw [if_neg (by linarith), if_pos (by linarith), if_neg below.not_gt, if_pos below]
  · rw [balanced, abs_zero] at small
    exact absurd small (abs_nonneg _).not_gt
  · rw [abs_of_pos above] at low high
    rw [if_pos (by linarith), if_pos above]

end Fetched

namespace Sample

/-- Closes that stay but for the last one. -/
def stepped (before after : ℚ) : List ℚ :=
  List.replicate 119 before ++ [after]

/-- A source of bars with given closes of two timeframes. -/
def bars (m30 h1 : List ℚ) (timeframe : String) (_count : Nat) : List (Option Val) :=
  (if timeframe = "M30" then m30 else h1).map fun close => some (.num ⟨close, ""⟩)

theorem closes_bars (m30 h1 : List ℚ) (timeframe : String) (count : Nat) :
    (bars m30 h1 timeframe count).filterMap closeOf = if timeframe = "M30" then m30 else h1 := by
  rw [bars, List.filterMap_map]
  exact List.filterMap_some

theorem fetched_stepped {before after before' after' : ℚ} (positive : 0 < before ∧ 0 < after)
    (positive' : 0 < before' ∧ 0 < after') :
    Fetched none (bars (stepped before after) (stepped before' after')) (stepped before after)
      (stepped before' after') where
  timeframes := ⟨"M30", "H1", biasTimeframes_default, closes_bars _ _ _ _, closes_bars _ _ _ _⟩
  enough := by simp [stepped, biasSlow]
  positive := by
    constructor <;> intro close member <;>
      rcases List.mem_append.mp member with same | last
    · exact (List.eq_of_mem_replicate same) ▸ positive.1
    · exact (List.mem_singleton.mp last) ▸ positive.2
    · exact (List.eq_of_mem_replicate same) ▸ positive'.1
    · exact (List.mem_singleton.mp last) ▸ positive'.2

theorem take_stepped {period : Nat} (before after : ℚ) (fits : period ≤ 119) :
    (stepped before after).take period = List.replicate period before := by
  rw [stepped, List.take_append_of_le_length (by rwa [List.length_replicate]),
    List.take_replicate, Nat.min_eq_left fits]

theorem average_replicate {period : Nat} (positive : 0 < period) (value : ℚ) :
    average period (List.replicate period value) = value := by
  have divisor : (period : ℚ) ≠ 0 := by exact_mod_cast positive.ne'
  rw [average, List.sum_replicate, nsmul_eq_mul, mul_div_cancel_left₀ _ divisor]

theorem lastEma_stepped {period : Nat} (positive : 0 < period) (fits : period ≤ 119)
    (before after : ℚ) :
    lastEma period (stepped before after) = before + emaShare period * (after - before) := by
  have later : (stepped before after).drop period =
      List.replicate (119 - period) before ++ [after] := by
    rw [stepped, List.drop_append_of_le_length (by rwa [List.length_replicate]),
      List.drop_replicate]
  rw [lastEma_eq (by simp [stepped]; omega), take_stepped before after fits,
    average_replicate positive, later, smooth_append, smooth_replicate, sub_self, mul_zero,
    add_zero]
  change emaShare period * after + (1 - emaShare period) * before = _
  ring

theorem carried_stepped {period : Nat} (positive : 0 < period) (fits : period ≤ 119)
    (before after before' after' : ℚ) :
    carried period (stepped before after) (stepped before' after') =
      (1 - emaShare period) ^ 120 * (before + emaShare period * (after - before) - before') := by
  have length : (stepped before' after').length - period + period = 120 := by
    simp [stepped]
    omega
  rw [carried, take_stepped before' after' fits, average_replicate positive, smooth_replicate,
    lastEma_stepped positive fits, add_sub_cancel_left, ← mul_assoc, ← pow_add, length]

end Sample

end EaBot.Trading
