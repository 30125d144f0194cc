import EaBot.Trading.LatestIndicators
import Mathlib.Algebra.Order.BigOperators.Group.List
import Mathlib.Analysis.Convex.Basic

/-!
# The bounds and the symmetry of the oscillators

The relative strength index compares the average gain with the average loss, and the average
directional index the rises with the falls.  Both stay between zero and a hundred.  When the
prices are mirrored, gains and losses are exchanged, and so are rises and falls: the second index
stays, and the first one moves to the other side of fifty.  Prices that stand still have neither
gains nor losses, and the first index is a hundred for them and for their mirror image.
-/

namespace EaBot.Trading

open EaBot.Foundation

/-! ## Divisions -/

/-- The exception of a division by zero. -/
def divisionByZero : String :=
  "float division by zero"

/-- A division, which fails when the denominator is zero. -/
def divide (numerator denominator : ℚ) : Except String ℚ :=
  if denominator = 0 then .error divisionByZero else .ok (numerator / denominator)

/-- A division that is zero when the denominator is. -/
def safeDivide (numerator denominator : ℚ) : Except String ℚ :=
  if denominator = 0 then .ok 0 else divide numerator denominator

/-! ## The relative strength index with its divisions -/

/-- The index of an average gain and an average loss. -/
def rsiDivided (gain loss : ℚ) : Except String ℚ :=
  if loss = 0 then .ok 100
  else do
    let strength ← divide gain loss
    let share ← divide 100 (1 + strength)
    return 100 - share

/-- The latest relative strength index.  The divisions by the period are plain: it is positive
where they are reached. -/
def rsiChecked (prices : List ℚ) (period : Int) : Except String (Option ℚ) :=
  if period < 1 then .error periodError
  else if (prices.length : Int) < period + 1 then .ok none
  else
    let deltas := deltasOf prices
    (rsiDivided (wilderAverage period.toNat (deltas.map gainOf))
      (wilderAverage period.toNat (deltas.map lossOf))).map some

/-! ## The average directional index -/

/-- A move that is larger than the one to the other side, and positive. -/
def directionalMove (move other : ℚ) : ℚ :=
  if other < move ∧ 0 < move then move else 0

/-- The rises and the falls from one bar to the next. -/
def calculateDm (highs lows : List ℚ) : List ℚ × List ℚ :=
  let moves := (deltasOf highs).zip (List.zipWith (fun last low => last - low) lows lows.tail)
  (moves.map fun move => directionalMove move.1 move.2,
    moves.map fun move => directionalMove move.2 move.1)

/-- The share of a smoothed move in the smoothed range, in percent. -/
def directional (range move : Option ℚ) : Except String (Option ℚ) :=
  match range, move with
  | some range, some move =>
      if 0 < range then (divide (100 * move) range).map some else .ok none
  | _, _ => .ok none

/-- How much one of the shares outweighs the other one, in percent. -/
def directionalIndex (plus minus : Option ℚ) : Except String (Option ℚ) :=
  match plus, minus with
  | some plus, some minus => (safeDivide (|plus - minus| * 100) (plus + minus)).map some
  | _, _ => .ok none

/-- The latest average directional index. -/
def adx (highs lows closes : List ℚ) (period : Int) : Except String (Option ℚ) :=
  if period < 2 then .error "period must be >= 2"
  else if (highs.length : Int) < period + 1 ∨ (lows.length : Int) < period + 1 ∨
      (closes.length : Int) < period + 1 then .ok none
  else if highs.length ≠ lows.length ∨ lows.length ≠ closes.length then .ok none
  else do
    let count := period.toNat
    let moves := calculateDm highs lows
    let ranges := wilderSmooth (trueRange highs lows closes) count
    let rises := wilderSmooth (0 :: moves.1) count
    let falls := wilderSmooth (0 :: moves.2) count
    let plus ← (ranges.zip rises).mapM fun bar => directional bar.1 bar.2
    let minus ← (ranges.zip falls).mapM fun bar => directional bar.1 bar.2
    let indexes ← (plus.zip minus).mapM fun shares => directionalIndex shares.1 shares.2
    return lastNonNone (wilderSmooth (indexes.filterMap id) count)

/-! ## Averages of values of a convex set -/

variable {period : Nat} {inside : Set ℚ}

theorem average_mem (convex : Convex ℚ inside) {values : List ℚ} (nonempty : values ≠ [])
    (member : ∀ value ∈ values, value ∈ inside) : values.sum / values.length ∈ inside := by
  induction values with
  | nil => exact absurd rfl nonempty
  | cons value rest ih =>
      rcases List.forall_mem_cons.mp member with ⟨first, others⟩
      by_cases single : rest = []
      · subst single
        simpa using first
      · have count : (0 : ℚ) < rest.length := by
          exact_mod_cast List.length_pos_of_ne_nil single
        have mixed := convex first (ih single others) (a := 1 / (rest.length + 1))
          (b := rest.length / (rest.length + 1)) (by positivity) (by positivity)
          (by field_simp; ring)
        have same : (value :: rest).sum / ((value :: rest).length : ℚ) =
            (1 / (rest.length + 1) : ℚ) • value +
              (rest.length / (rest.length + 1) : ℚ) • (rest.sum / rest.length) := by
          rw [List.sum_cons, List.length_cons, smul_eq_mul, smul_eq_mul]
          push_cast
          field_simp
        rw [same]
        exact mixed

theorem wilderStep_mem (convex : Convex ℚ inside) (positive : 1 ≤ period) {last value : ℚ}
    (before : last ∈ inside) (member : value ∈ inside) :
    wilderStep period last value ∈ inside := by
  have some_ : (1 : ℚ) ≤ period := by exact_mod_cast positive
  have mixed := convex before member (a := (period - 1) / period) (b := 1 / period)
    (div_nonneg (by linarith) (by linarith)) (by positivity) (by field_simp; ring)
  have same : wilderStep period last value =
      ((period - 1) / period : ℚ) • last + (1 / period : ℚ) • value := by
    rw [wilderStep, smul_eq_mul, smul_eq_mul]
    field_simp
  rw [same]
  exact mixed

theorem wilderAverage_mem (convex : Convex ℚ inside) (positive : 1 ≤ period) {values : List ℚ}
    (enough : period ≤ values.length) (member : ∀ value ∈ values, value ∈ inside) :
    wilderAverage period values ∈ inside := by
  have whole : (values.take period).length = period := by
    rw [List.length_take]
    omega
  have seed : average period (values.take period) ∈ inside := by
    have mean : (values.take period).sum / ((values.take period).length : ℚ) ∈ inside :=
      average_mem convex (List.ne_nil_of_length_pos (by omega))
        fun value taken => member value (List.mem_of_mem_take taken)
    rwa [whole] at mean
  unfold wilderAverage
  exact List.foldlRecOn _ _ seed fun last before value dropped =>
    wilderStep_mem convex positive before (member value (List.mem_of_mem_drop dropped))

/-- A smoothed value is the average of the values up to its bar. -/
theorem mem_of_wilderSmooth (convex : Convex ℚ inside) (positive : 1 ≤ period)
    {values : List ℚ} (member : ∀ value ∈ values, value ∈ inside) {value : ℚ}
    (smoothed : some value ∈ wilderSmooth values period) : value ∈ inside := by
  obtain ⟨index, found⟩ := List.mem_iff_getElem?.mp smoothed
  have causal : wilderSmooth (values.take (index + 1)) period =
      (wilderSmooth values period).take (index + 1) :=
    causal_wilderSmooth positive (index + 1) values
  have last := lastValue_wilderSmooth period (values.take (index + 1))
  rw [causal, lastValue, List.getLast?_take, if_neg (Nat.succ_ne_zero _), Nat.add_sub_cancel,
    found, Option.some_or] at last
  by_cases short : (values.take (index + 1)).length < period
  · rw [if_pos short] at last
    cases last
  · rw [if_neg short] at last
    cases last
    exact wilderAverage_mem convex positive (not_lt.mp short)
      fun value taken => member value (List.mem_of_mem_take taken)

/-! ## The bounds of the relative strength index -/

theorem gainOf_nonneg (delta : ℚ) : 0 ≤ gainOf delta := by
  unfold gainOf
  split_ifs with rise
  · exact rise.le
  · exact le_refl 0

theorem lossOf_nonneg (delta : ℚ) : 0 ≤ lossOf delta := by
  unfold lossOf
  split_ifs with fall
  · exact (neg_pos.mpr fall).le
  · exact le_refl 0

theorem wilderAverage_nonneg (positive : 1 ≤ period) {values : List ℚ}
    (enough : period ≤ values.length) (member : ∀ value ∈ values, 0 ≤ value) :
    0 ≤ wilderAverage period values :=
  wilderAverage_mem (convex_Ici 0) positive enough member

section Rsi

variable {gain loss : ℚ}

/-- No division fails for averages that are not negative. -/
theorem rsiDivided_eq (gains : 0 ≤ gain) (losses : 0 ≤ loss) :
    rsiDivided gain loss = .ok (rsiValue gain loss) := by
  unfold rsiDivided rsiValue
  by_cases none_ : loss = 0
  · rw [if_pos none_, if_pos none_]
  · have strength : 0 ≤ gain / loss := div_nonneg gains losses
    have share : 1 + gain / loss ≠ 0 := by linarith
    rw [if_neg none_, if_neg none_, divide, if_neg none_]
    simp only [divide, if_neg share, bind, Except.bind]
    rfl

theorem rsiValue_mem (gains : 0 ≤ gain) (losses : 0 ≤ loss) :
    rsiValue gain loss ∈ Set.Icc (0 : ℚ) 100 := by
  unfold rsiValue
  split_ifs with none_
  · exact ⟨by norm_num, le_refl _⟩
  · have strength : 0 ≤ gain / loss := div_nonneg gains losses
    have some_ : 0 ≤ 100 / (1 + gain / loss) := by positivity
    have most : 100 / (1 + gain / loss) ≤ 100 := by
      rw [div_le_iff₀ (by linarith)]
      linarith
    exact ⟨by linarith, by linarith⟩

/-- The index of the exchanged averages, unless both are zero. -/
theorem rsiValue_swap (gains : 0 ≤ gain) (losses : 0 ≤ loss) (moves : ¬ (gain = 0 ∧ loss = 0)) :
    rsiValue loss gain = 100 - rsiValue gain loss := by
  unfold rsiValue
  by_cases noGain : gain = 0
  · have some_ : loss ≠ 0 := fun noLoss => moves ⟨noGain, noLoss⟩
    rw [if_pos noGain, if_neg some_, noGain]
    simp
  · rw [if_neg noGain]
    by_cases noLoss : loss = 0
    · rw [if_pos noLoss, noLoss]
      simp
    · have sum : gain + loss ≠ 0 := by
        have positive : 0 < gain := lt_of_le_of_ne gains (Ne.symm noGain)
        linarith
      have swapped : loss + gain ≠ 0 := by rwa [add_comm]
      rw [if_neg noLoss]
      have first : 1 + loss / gain = (gain + loss) / gain := by field_simp
      have second : 1 + gain / loss = (gain + loss) / loss := by
        field_simp
        ring
      rw [first, second]
      field_simp
      ring

end Rsi

/-! ## Prices that stand still -/

/-- No change counts in the averages: none at all, or not the last one when the period is one. -/
def StandsStill (period : Nat) (deltas : List ℚ) : Prop :=
  if period = 1 then deltas.getLastD 0 = 0 else ∀ delta ∈ deltas, delta = 0

instance (period : Nat) (deltas : List ℚ) : Decidable (StandsStill period deltas) :=
  inferInstanceAs (Decidable (if period = 1 then _ else _))

theorem gainOf_eq_zero_and_lossOf {delta : ℚ} :
    gainOf delta = 0 ∧ lossOf delta = 0 ↔ delta = 0 := by
  unfold gainOf lossOf
  constructor
  · rintro ⟨noGain, noLoss⟩
    split_ifs at noGain noLoss <;> linarith
  · rintro rfl
    simp

/-- With a period of one the average is the last value. -/
theorem wilderAverage_one {values : List ℚ} (enough : 1 ≤ values.length) :
    wilderAverage 1 values = values.getLastD 0 := by
  have last (start : ℚ) (rest : List ℚ) :
      rest.foldl (wilderStep 1) start = (start :: rest).getLastD 0 := by
    induction rest generalizing start with
    | nil => rfl
    | cons value rest ih =>
        have step : wilderStep 1 start value = value := by simp [wilderStep]
        rw [List.foldl_cons, step, ih]
        simp [List.getLast?_cons]
  cases values with
  | nil => exact absurd enough (by simp)
  | cons value rest =>
      have first : average 1 [value] = value := by simp [average]
      change rest.foldl (wilderStep 1) (average 1 [value]) = _
      rw [first, last]

theorem sum_eq_zero_iff {values : List ℚ} (nonneg : ∀ value ∈ values, 0 ≤ value) :
    values.sum = 0 ↔ ∀ value ∈ values, value = 0 := by
  constructor
  · intro zero value member
    exact List.all_zero_of_le_zero_le_of_sum_eq_zero nonneg zero member
  · intro zero
    exact List.sum_eq_zero zero

theorem foldl_wilderStep_eq_zero_iff (many : 2 ≤ period) {start : ℚ} {values : List ℚ}
    (started : 0 ≤ start) (nonneg : ∀ value ∈ values, 0 ≤ value) :
    values.foldl (wilderStep period) start = 0 ↔ start = 0 ∧ ∀ value ∈ values, value = 0 := by
  have some_ : (2 : ℚ) ≤ period := by exact_mod_cast many
  induction values generalizing start with
  | nil => simp
  | cons value rest ih =>
      rcases List.forall_mem_cons.mp nonneg with ⟨first, others⟩
      have weighed : 0 ≤ start * (period - 1) := mul_nonneg started (by linarith)
      have stepped : 0 ≤ wilderStep period start value :=
        div_nonneg (by linarith) (by linarith)
      have zero : wilderStep period start value = 0 ↔ start = 0 ∧ value = 0 := by
        rw [wilderStep, div_eq_zero_iff, or_iff_left (by linarith),
          add_eq_zero_iff_of_nonneg weighed first, mul_eq_zero, or_iff_left (by linarith)]
      have later : rest.foldl (wilderStep period) (wilderStep period start value) = 0 ↔
          wilderStep period start value = 0 ∧ ∀ value ∈ rest, value = 0 := ih stepped others
      rw [List.foldl_cons, later, zero, List.forall_mem_cons, and_assoc]

theorem wilderAverage_eq_zero_iff (many : 2 ≤ period) {values : List ℚ}
    (nonneg : ∀ value ∈ values, 0 ≤ value) :
    wilderAverage period values = 0 ↔ ∀ value ∈ values, value = 0 := by
  have some_ : (period : ℚ) ≠ 0 := by
    have positive : 0 < period := by omega
    exact_mod_cast positive.ne'
  have taken : ∀ value ∈ values.take period, 0 ≤ value :=
    fun value member => nonneg value (List.mem_of_mem_take member)
  have seed : average period (values.take period) = 0 ↔
      ∀ value ∈ values.take period, value = 0 := by
    rw [average, div_eq_zero_iff, or_iff_left some_, sum_eq_zero_iff taken]
  have started : 0 ≤ average period (values.take period) :=
    div_nonneg (List.sum_nonneg taken) (Nat.cast_nonneg _)
  unfold wilderAverage
  rw [foldl_wilderStep_eq_zero_iff many started
    fun value member => nonneg value (List.mem_of_mem_drop member), seed,
    ← List.forall_mem_append, List.take_append_drop]

/-- Both averages are zero when the prices stand still, and only then. -/
theorem averages_eq_zero_iff {deltas : List ℚ} (positive : 1 ≤ period)
    (enough : period ≤ deltas.length) :
    (wilderAverage period (deltas.map gainOf) = 0 ∧ wilderAverage period (deltas.map lossOf) = 0) ↔
      StandsStill period deltas := by
  unfold StandsStill
  by_cases single : period = 1
  · subst single
    have nonempty : deltas ≠ [] := List.ne_nil_of_length_pos enough
    have last (convert : ℚ → ℚ) :
        (deltas.map convert).getLastD 0 = convert (deltas.getLastD 0) := by
      rw [List.getLastD_eq_getLast?, List.getLast?_map, getLast?_eq_some_getLastD nonempty]
      rfl
    rw [if_pos rfl, wilderAverage_one (by rwa [List.length_map]),
      wilderAverage_one (by rwa [List.length_map]), last, last, gainOf_eq_zero_and_lossOf]
  · have many : 2 ≤ period := by omega
    rw [if_neg single, wilderAverage_eq_zero_iff many, wilderAverage_eq_zero_iff many,
      List.forall_mem_map, List.forall_mem_map, ← forall₂_and]
    · simp only [gainOf_eq_zero_and_lossOf]
    · exact List.forall_mem_map.mpr fun delta _ => lossOf_nonneg delta
    · exact List.forall_mem_map.mpr fun delta _ => gainOf_nonneg delta

/-! ## The bounds of the average directional index -/

/-- The share of a smoothed move, without an exception. -/
def shareOf (range move : Option ℚ) : Option ℚ :=
  match range, move with
  | some range, some move => if 0 < range then some (100 * move / range) else none
  | _, _ => none

/-- How much one of the shares outweighs the other one, without an exception. -/
def indexOf (plus minus : Option ℚ) : Option ℚ :=
  match plus, minus with
  | some plus, some minus =>
      some (if plus + minus = 0 then 0 else |plus - minus| * 100 / (plus + minus))
  | _, _ => none

/-- A share is taken of a positive range only. -/
theorem directional_eq (range move : Option ℚ) :
    directional range move = .ok (shareOf range move) := by
  unfold directional shareOf
  split
  · split_ifs with positive
    · rw [divide, if_neg positive.ne']
      rfl
    · rfl
  · rfl

/-- The shares are compared with a sum that is not zero only. -/
theorem directionalIndex_eq (plus minus : Option ℚ) :
    directionalIndex plus minus = .ok (indexOf plus minus) := by
  unfold directionalIndex indexOf
  split
  · unfold safeDivide
    split_ifs with zero
    · rfl
    · rw [divide, if_neg zero]
      rfl
  · rfl

theorem mapM_eq_ok {α β : Type} {convert : α → Except String β} {plain : α → β}
    (total : ∀ item, convert item = .ok (plain item)) (items : List α) :
    items.mapM convert = .ok (items.map plain) := by
  induction items with
  | nil => rfl
  | cons item rest ih =>
      rw [List.mapM_cons, total, ih]
      rfl

/-- The indexes of all bars that have one. -/
def directionalIndexes (ranges rises falls : List (Option ℚ)) : List ℚ :=
  let plus := (ranges.zip rises).map fun bar => shareOf bar.1 bar.2
  let minus := (ranges.zip falls).map fun bar => shareOf bar.1 bar.2
  ((plus.zip minus).map fun shares => indexOf shares.1 shares.2).filterMap id

/-- The latest average directional index of bars that are enough and complete. -/
def adxOf (highs lows closes : List ℚ) (count : Nat) : Option ℚ :=
  let moves := calculateDm highs lows
  lastNonNone (wilderSmooth (directionalIndexes (wilderSmooth (trueRange highs lows closes) count)
    (wilderSmooth (0 :: moves.1) count) (wilderSmooth (0 :: moves.2) count)) count)

/-- No division of the index fails. -/
theorem adx_eq (highs lows closes : List ℚ) (period : Int) :
    adx highs lows closes period =
      if period < 2 then .error "period must be >= 2"
      else if (highs.length : Int) < period + 1 ∨ (lows.length : Int) < period + 1 ∨
          (closes.length : Int) < period + 1 then .ok none
      else if highs.length ≠ lows.length ∨ lows.length ≠ closes.length then .ok none
      else .ok (adxOf highs lows closes period.toNat) := by
  unfold adx
  simp only [mapM_eq_ok fun bar : Option ℚ × Option ℚ => directional_eq bar.1 bar.2,
    mapM_eq_ok fun bar : Option ℚ × Option ℚ => directionalIndex_eq bar.1 bar.2]
  rfl

theorem adx_ne_divisionByZero (highs lows closes : List ℚ) (period : Int) :
    adx highs lows closes period ≠ .error divisionByZero := by
  rw [adx_eq]
  split_ifs
  · rw [divisionByZero, ne_eq, Except.error.injEq]
    decide
  all_goals exact fun failed => by cases failed

theorem shareOf_nonneg {range move : Option ℚ} {share : ℚ}
    (moves : ∀ value, move = some value → 0 ≤ value) (found : shareOf range move = some share) :
    0 ≤ share := by
  unfold shareOf at found
  split at found
  case h_1 range move =>
      split_ifs at found with positive
      cases found
      have nonneg := moves move rfl
      positivity
  case h_2 => cases found

theorem indexOf_mem {plus minus : Option ℚ} {index : ℚ}
    (shares : ∀ value, plus = some value → 0 ≤ value)
    (others : ∀ value, minus = some value → 0 ≤ value) (found : indexOf plus minus = some index) :
    index ∈ Set.Icc (0 : ℚ) 100 := by
  unfold indexOf at found
  split at found
  case h_1 plus minus =>
      cases found
      have first := shares plus rfl
      have second := others minus rfl
      split_ifs with zero
      · exact ⟨le_refl 0, by norm_num⟩
      · have positive : 0 < plus + minus :=
          lt_of_le_of_ne (add_nonneg first second) (Ne.symm zero)
        have apart : |plus - minus| ≤ plus + minus := by
          rw [abs_le]
          constructor <;> linarith
        refine ⟨by positivity, ?_⟩
        rw [div_le_iff₀ positive]
        linarith
  case h_2 => cases found

theorem directionalIndexes_mem {ranges rises falls : List (Option ℚ)}
    (upward : ∀ value, some value ∈ rises → 0 ≤ value)
    (downward : ∀ value, some value ∈ falls → 0 ≤ value) {index : ℚ}
    (member : index ∈ directionalIndexes ranges rises falls) :
    index ∈ Set.Icc (0 : ℚ) 100 := by
  have nonneg {moves : List (Option ℚ)} (signs : ∀ value, some value ∈ moves → 0 ≤ value)
      {share : Option ℚ}
      (shared : share ∈ (ranges.zip moves).map fun bar => shareOf bar.1 bar.2) :
      ∀ value, share = some value → 0 ≤ value := by
    rintro value rfl
    obtain ⟨⟨range, move⟩, zipped, found⟩ := List.mem_map.mp shared
    exact shareOf_nonneg (fun value moved => signs value (moved ▸ (List.of_mem_zip zipped).2)) found
  unfold directionalIndexes at member
  rw [List.mem_filterMap] at member
  obtain ⟨_, member, rfl⟩ := member
  obtain ⟨⟨plus, minus⟩, zipped, found⟩ := List.mem_map.mp member
  obtain ⟨first, second⟩ := List.of_mem_zip zipped
  exact indexOf_mem (nonneg upward first) (nonneg downward second) found

theorem directionalMove_nonneg (move other : ℚ) : 0 ≤ directionalMove move other := by
  unfold directionalMove
  split_ifs with larger
  · exact larger.2.le
  · exact le_refl 0

theorem calculateDm_nonneg (highs lows : List ℚ) :
    (∀ move ∈ 0 :: (calculateDm highs lows).1, 0 ≤ move) ∧
      ∀ move ∈ 0 :: (calculateDm highs lows).2, 0 ≤ move :=
  ⟨List.forall_mem_cons.mpr ⟨le_refl 0, List.forall_mem_map.mpr
      fun _ _ => directionalMove_nonneg _ _⟩,
    List.forall_mem_cons.mpr ⟨le_refl 0, List.forall_mem_map.mpr
      fun _ _ => directionalMove_nonneg _ _⟩⟩

theorem adxOf_mem {highs lows closes : List ℚ} {count : Nat} (positive : 1 ≤ count) {value : ℚ}
    (found : adxOf highs lows closes count = some value) : value ∈ Set.Icc (0 : ℚ) 100 := by
  obtain ⟨rises, falls⟩ := calculateDm_nonneg highs lows
  obtain ⟨last, member, rfl⟩ := List.exists_of_findSome?_eq_some found
  rw [List.mem_reverse] at member
  apply mem_of_wilderSmooth (convex_Icc 0 100) positive _ member
  intro index indexed
  exact directionalIndexes_mem
    (fun move smoothed => mem_of_wilderSmooth (convex_Ici 0) positive rises smoothed)
    (fun move smoothed => mem_of_wilderSmooth (convex_Ici 0) positive falls smoothed) indexed

/-! ## Mirrored prices -/

/-- The prices on the other side of a center. -/
def mirror (center : ℚ) (prices : List ℚ) : List ℚ :=
  prices.map fun price => center - price

theorem length_mirror (center : ℚ) (prices : List ℚ) :
    (mirror center prices).length = prices.length :=
  List.length_map _

/-- Mirrored prices change by the same amounts to the other side. -/
theorem zipWith_mirror (center : ℚ) (prices : List ℚ) :
    deltasOf (mirror center prices) =
      List.zipWith (fun last price => last - price) prices prices.tail := by
  unfold deltasOf mirror
  rw [← List.map_tail, List.zipWith_map]
  congr 1
  funext last price
  ring

theorem deltasOf_mirror (center : ℚ) (prices : List ℚ) :
    deltasOf (mirror center prices) = (deltasOf prices).map fun delta => -delta := by
  rw [zipWith_mirror, deltasOf, List.map_zipWith]
  congr 1
  funext last price
  ring

theorem gainOf_neg (delta : ℚ) : gainOf (-delta) = lossOf delta := by
  unfold gainOf lossOf
  simp only [neg_pos]

theorem lossOf_neg (delta : ℚ) : lossOf (-delta) = gainOf delta := by
  unfold gainOf lossOf
  simp only [neg_lt_zero, neg_neg]

/-- The averages of the gains and of the losses are not negative. -/
theorem averages_nonneg (positive : 1 ≤ period) {deltas : List ℚ}
    (enough : period ≤ deltas.length) :
    0 ≤ wilderAverage period (deltas.map gainOf) ∧
      0 ≤ wilderAverage period (deltas.map lossOf) :=
  ⟨wilderAverage_nonneg positive (by rwa [List.length_map])
      (List.forall_mem_map.mpr fun delta _ => gainOf_nonneg delta),
    wilderAverage_nonneg positive (by rwa [List.length_map])
      (List.forall_mem_map.mpr fun delta _ => lossOf_nonneg delta)⟩

/-- No division of the strength index fails. -/
theorem rsiChecked_eq (prices : List ℚ) (period : Int) :
    rsiChecked prices period = rsi prices period := by
  unfold rsiChecked rsi
  split_ifs with none_ few
  · rfl
  · rfl
  · have count := length_deltasOf prices
    obtain ⟨gains, losses⟩ := averages_nonneg (show 1 ≤ period.toNat by omega)
      (show period.toNat ≤ (deltasOf prices).length by omega)
    dsimp only
    rw [rsiDivided_eq gains losses]
    rfl

/-- The strength index, and the one of mirrored prices. -/
theorem rsi_mirror (center : ℚ) {prices : List ℚ} {period : Int} {value : ℚ}
    (defined : rsi prices period = .ok (some value)) :
    value ∈ Set.Icc (0 : ℚ) 100 ∧
      ∃ mirrored, rsi (mirror center prices) period = .ok (some mirrored) ∧
        (StandsStill period.toNat (deltasOf prices) → value = 100 ∧ mirrored = 100) ∧
        (¬ StandsStill period.toNat (deltasOf prices) → mirrored = 100 - value) := by
  have exchanged : gainOf ∘ (fun delta => -delta) = lossOf := funext gainOf_neg
  have exchangedLoss : lossOf ∘ (fun delta => -delta) = gainOf := funext lossOf_neg
  have count := length_deltasOf prices
  unfold rsi at defined ⊢
  dsimp only at defined ⊢
  rw [length_mirror, deltasOf_mirror, List.map_map, List.map_map, exchanged, exchangedLoss]
  split_ifs at defined ⊢ with none_ few
  · cases defined
  · cases defined
    have positive : 1 ≤ period.toNat := by omega
    have enough : period.toNat ≤ (deltasOf prices).length := by omega
    obtain ⟨gains, losses⟩ := averages_nonneg positive enough
    have still := averages_eq_zero_iff positive enough
    refine ⟨rsiValue_mem gains losses, _, rfl, ?_, ?_⟩
    · intro standing
      obtain ⟨noGain, noLoss⟩ := still.mpr standing
      rw [noGain, noLoss]
      exact ⟨if_pos rfl, if_pos rfl⟩
    · intro moving
      exact rsiValue_swap gains losses fun zero => moving (still.mp zero)

/-- The true ranges of mirrored bars. -/
theorem trueRange_mirror (center : ℚ) {highs lows closes : List ℚ}
    (aligned : highs.length = lows.length) :
    trueRange (mirror center lows) (mirror center highs) (mirror center closes) =
      trueRange highs lows closes := by
  cases highs with
  | nil =>
      rw [List.length_eq_zero_iff.mp aligned.symm]
      rfl
  | cons high later =>
      cases lows with
      | nil => cases aligned
      | cons low others =>
          simp only [mirror, List.map_cons, trueRange, List.tail_cons]
          rw [← List.zip_swap, List.zip_map, List.map_map, List.zipWith_map]
          congr 2
          funext bar close
          have above : |center - bar.2 - (center - close)| = |bar.2 - close| := by
            rw [abs_sub_comm]
            congr 1
            ring
          have below : |center - bar.1 - (center - close)| = |bar.1 - close| := by
            rw [abs_sub_comm]
            congr 1
            ring
          have height : center - bar.2 - (center - bar.1) = bar.1 - bar.2 := by ring
          simp only [rangeOf, Function.comp, Prod.map, Prod.fst_swap, Prod.snd_swap, above, below,
            height]
          exact max_right_comm _ _ _

theorem calculateDm_mirror (center : ℚ) (highs lows : List ℚ) :
    calculateDm (mirror center lows) (mirror center highs) = (calculateDm highs lows).swap := by
  have upward : List.zipWith (fun last low => last - low) (mirror center highs)
      (mirror center highs).tail = deltasOf highs := by
    unfold deltasOf mirror
    rw [← List.map_tail, List.zipWith_map]
    congr 1
    funext last price
    ring
  unfold calculateDm
  dsimp only
  rw [zipWith_mirror, upward, ← List.zip_swap (deltasOf highs), List.map_map, List.map_map]
  rfl

theorem indexOf_comm (plus minus : Option ℚ) : indexOf plus minus = indexOf minus plus := by
  cases plus with
  | none => cases minus <;> rfl
  | some first =>
      cases minus with
      | none => rfl
      | some second =>
          unfold indexOf
          dsimp only
          rw [abs_sub_comm, add_comm]

theorem directionalIndexes_comm (ranges rises falls : List (Option ℚ)) :
    directionalIndexes ranges falls rises = directionalIndexes ranges rises falls := by
  unfold directionalIndexes
  dsimp only
  rw [← List.zip_swap, List.map_map]
  congr 2
  funext shares
  exact indexOf_comm _ _

/-- The average directional index of mirrored bars. -/
theorem adx_mirror (center : ℚ) (highs lows closes : List ℚ) (period : Int) :
    adx (mirror center lows) (mirror center highs) (mirror center closes) period =
      adx highs lows closes period := by
  rw [adx_eq, adx_eq, length_mirror, length_mirror, length_mirror]
  by_cases invalid : period < 2
  · rw [if_pos invalid, if_pos invalid]
  rw [if_neg invalid, if_neg invalid]
  by_cases few : (highs.length : Int) < period + 1 ∨ (lows.length : Int) < period + 1 ∨
      (closes.length : Int) < period + 1
  · rw [if_pos few, if_pos (by omega)]
  rw [if_neg few, if_neg (by omega)]
  by_cases uneven : highs.length ≠ lows.length ∨ lows.length ≠ closes.length
  · rw [if_pos uneven, if_pos (by omega)]
  rw [if_neg uneven, if_neg (by omega)]
  unfold adxOf
  dsimp only
  rw [trueRange_mirror center (by omega), calculateDm_mirror, Prod.fst_swap, Prod.snd_swap,
    directionalIndexes_comm]

/-- Both oscillators stay between zero and a hundred, without a division by zero.  Mirrored
prices leave the directional index, and they turn a strength into the rest to a hundred, unless
the prices stand still: then it is a hundred on both sides. -/
theorem oscillators_symmetric (center : ℚ) (prices highs lows closes : List ℚ) (period : Int) :
    rsiChecked prices period = rsi prices period ∧
    (∀ value, rsi prices period = .ok (some value) → value ∈ Set.Icc (0 : ℚ) 100 ∧
      ∃ mirrored, rsi (mirror center prices) period = .ok (some mirrored) ∧
        (StandsStill period.toNat (deltasOf prices) → value = 100 ∧ mirrored = 100) ∧
        (¬ StandsStill period.toNat (deltasOf prices) → mirrored = 100 - value)) ∧
    adx highs lows closes period ≠ .error divisionByZero ∧
    (∀ value, adx highs lows closes period = .ok (some value) → value ∈ Set.Icc (0 : ℚ) 100) ∧
    adx (mirror center lows) (mirror center highs) (mirror center closes) period =
      adx highs lows closes period := by
  refine ⟨rsiChecked_eq prices period, fun value defined => rsi_mirror center defined,
    adx_ne_divisionByZero highs lows closes period, ?_, adx_mirror center highs lows closes period⟩
  intro value defined
  rw [adx_eq] at defined
  split_ifs at defined
  · cases defined
  · cases defined
  · exact adxOf_mem (by omega) (Except.ok.inj defined)

/-! ### Moving bars, and bars that stand still -/

theorem oscillators_symmetric_bars :
    (60 : ℚ) ∈ Set.Icc (0 : ℚ) 100 ∧ (50 : ℚ) ∈ Set.Icc (0 : ℚ) 100 ∧
      adx (mirror 5 [1, 2, 4, 3]) (mirror 5 [3, 5, 6, 4]) (mirror 5 [2, 4, 5, 3]) 2 =
        adx [3, 5, 6, 4] [1, 2, 4, 3] [2, 4, 5, 3] 2 := by
  obtain ⟨-, strength, -, direction, mirrored⟩ :=
    oscillators_symmetric 5 [1, 2, 4, 3] [3, 5, 6, 4] [1, 2, 4, 3] [2, 4, 5, 3] 2
  exact ⟨(strength 60 (by decide +kernel)).1, direction 50 (by decide +kernel), mirrored⟩

/-- The strength of prices that stand still is not turned into the rest to a hundred. -/
theorem rsi_standing_still :
    ¬ ∀ (center : ℚ) (prices : List ℚ) (period : Int) (value : ℚ),
      rsi prices period = .ok (some value) →
        rsi (mirror center prices) period = .ok (some (100 - value)) := by
  intro symmetric
  have mirrored := symmetric 2 [1, 1, 1] 2 100 (by decide +kernel)
  exact absurd mirrored (by decide +kernel)

end EaBot.Trading
