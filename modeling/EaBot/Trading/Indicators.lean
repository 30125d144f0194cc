import EaBot.Foundation.Causal
import Mathlib.Algebra.BigOperators.Group.List.Basic
import Mathlib.Algebra.Order.Ring.Rat
import Mathlib.Tactic.Ring

/-!
# Series of technical indicators

Every series has one value for each bar, the oldest first; a value that is not defined yet
is missing.  The moving averages are seeded with the plain average of the first values.

No value of a series depends on a later bar.
-/

namespace EaBot.Trading

open EaBot.Foundation

/-- The exception for a period without bars. -/
def periodError : String :=
  "period must be >= 1"

/-- The plain average of the values of a period. -/
def average (period : Nat) (values : List ℚ) : ℚ :=
  values.sum / period

/-! ## Moving averages -/

/-- The exponential moving average; a value that is not defined yet is zero. -/
def emaValues (period : Nat) : List ℚ → List ℚ :=
  let alpha : ℚ := 2 / (period + 1)
  seeded period 0 (average period) (fun last price => alpha * price + (1 - alpha) * last) id

/-- The series of the exponential moving average. -/
def emaSeries (prices : List ℚ) (period : Int) : Except String (List ℚ) :=
  if period < 1 then .error periodError else .ok (emaValues period.toNat prices)

/-- Wilder's smoothing. -/
def wilderSmooth (data : List ℚ) (period : Nat) : List (Option ℚ) :=
  seeded period none (average period)
    (fun last value => (last * (period - 1) + value) / period) some data

/-! ## The relative strength index -/

/-- The index of an average gain and an average loss. -/
def rsiValue (gain loss : ℚ) : ℚ :=
  if loss = 0 then 100 else 100 - 100 / (1 + gain / loss)

/-- The gain of a change. -/
def gainOf (delta : ℚ) : ℚ :=
  if 0 < delta then delta else 0

/-- The loss of a change. -/
def lossOf (delta : ℚ) : ℚ :=
  if delta < 0 then -delta else 0

/-- The relative strength index after every change. -/
def rsiOfDeltas (period : Nat) : List ℚ → List (Option ℚ) :=
  seeded period none
    (fun deltas => (average period (deltas.map gainOf), average period (deltas.map lossOf)))
    (fun last delta => ((last.1 * (period - 1) + gainOf delta) / period,
      (last.2 * (period - 1) + lossOf delta) / period))
    (fun averages => some (rsiValue averages.1 averages.2))

/-- The changes from one price to the next. -/
def deltasOf (prices : List ℚ) : List ℚ :=
  List.zipWith (fun last price => price - last) prices prices.tail

/-- The relative strength index at every price. -/
def rsiValues (period : Nat) : List ℚ → List (Option ℚ)
  | [] => []
  | price :: rest => none :: rsiOfDeltas period (deltasOf (price :: rest))

/-- The series of the relative strength index. -/
def rsiSeries (prices : List ℚ) (period : Int) : Except String (List (Option ℚ)) :=
  if period < 1 then .error periodError else .ok (rsiValues period.toNat prices)

/-! ## Moving average convergence and divergence -/

/-- The line, the signal and the histogram at every price. -/
structure MacdValues where
  line : List (Option ℚ)
  signal : List (Option ℚ)
  histogram : List (Option ℚ)

/-- The differences of the two averages. -/
def macdDifferences (fast slow : Nat) (prices : List ℚ) : List ℚ :=
  List.zipWith (fun short long => short - long) (emaValues fast prices) (emaValues slow prices)

/-- The line, the signal and the histogram of two averages. -/
def macdValues (fast slow signal : Nat) (prices : List ℚ) : MacdValues :=
  let undefined := List.replicate prices.length none
  if prices.length < slow then ⟨undefined, undefined, undefined⟩
  else
    let values := (macdDifferences fast slow prices).drop (slow - 1)
    let line := List.replicate (slow - 1) none ++ values.map some
    if values.length < signal then ⟨line, undefined, undefined⟩
    else
      let signals := emaValues signal values
      let early := List.replicate (slow - 1 + (signal - 1)) none
      ⟨line, early ++ (signals.drop (signal - 1)).map some,
        early ++ ((List.zipWith (fun value smoothed => value - smoothed) values signals).drop
          (signal - 1)).map some⟩

/-- The series of the line, the signal and the histogram. -/
def macdSeries (prices : List ℚ) (fast slow signal : Int) : Except String MacdValues :=
  if fast < 1 ∨ slow < 1 ∨ signal < 1 then .error "periods must be >= 1"
  else if slow ≤ fast then .error "fast_period must be < slow_period"
  else .ok (macdValues fast.toNat slow.toNat signal.toNat prices)

/-! ## The average true range -/

/-- The range of a bar together with the close before it. -/
def rangeOf (bar : ℚ × ℚ) (lastClose : ℚ) : ℚ :=
  max (max (bar.1 - bar.2) |bar.1 - lastClose|) |bar.2 - lastClose|

/-- The true range of every bar; the first one has none. -/
def trueRange (highs lows closes : List ℚ) : List ℚ :=
  match highs with
  | [] => []
  | _ :: later => 0 :: List.zipWith rangeOf (later.zip lows.tail) closes

/-- The series of the average true range. -/
def atrSeries (highs lows closes : List ℚ) (period : Int) : Except String (List (Option ℚ)) :=
  if period < 1 then .error periodError
  else if highs.length = 0 ∨ lows.length ≠ highs.length ∨ closes.length ≠ highs.length then
    .ok (List.replicate highs.length none)
  else .ok (wilderSmooth (trueRange highs lows closes) period.toNat)

/-! ## No value depends on a later bar -/

theorem causal_emaValues {period : Nat} (positive : 1 ≤ period) : Causal (emaValues period) :=
  causal_seeded positive _ _ _ _

theorem causal_wilderSmooth {period : Nat} (positive : 1 ≤ period) :
    Causal fun data => wilderSmooth data period :=
  causal_seeded positive _ _ _ _

theorem take_deltasOf (count : Nat) (prices : List ℚ) :
    deltasOf (prices.take (count + 1)) = (deltasOf prices).take count := by
  induction count generalizing prices with
  | zero => cases prices <;> simp [deltasOf]
  | succ count ih =>
      rcases prices with _ | ⟨price, _ | ⟨next, rest⟩⟩
      · rfl
      · rfl
      · have later := ih (next :: rest)
        change (next - price) :: deltasOf ((next :: rest).take (count + 1)) =
          (next - price) :: (deltasOf (next :: rest)).take count
        rw [later]

theorem causal_rsiValues {period : Nat} (positive : 1 ≤ period) : Causal (rsiValues period) := by
  intro count prices
  cases prices with
  | nil => simp [rsiValues]
  | cons price rest =>
      cases count with
      | zero => rfl
      | succ count =>
          have deltas := take_deltasOf count (price :: rest)
          rw [List.take_succ_cons] at deltas ⊢
          rw [rsiValues, rsiValues, List.take_succ_cons, deltas, rsiOfDeltas,
            causal_seeded positive]

/-- A series whose first values are missing. -/
def masked (count : Nat) (values : List ℚ) : List (Option ℚ) :=
  List.replicate (min count values.length) none ++ (values.drop count).map some

theorem causal_masked (early : Nat) : Causal (masked early) := by
  intro count values
  unfold masked
  by_cases short : values.length ≤ early
  · have shorter : (values.take count).length ≤ early := by
      rw [List.length_take]
      omega
    rw [List.drop_of_length_le short, List.drop_of_length_le shorter, Nat.min_eq_right short,
      Nat.min_eq_right shorter, List.length_take]
    simp
  · rw [List.take_append, List.take_replicate, List.length_replicate, List.length_take,
      ← List.map_take, List.drop_take, Nat.min_eq_left (Nat.le_of_not_le short)]
    congr 2
    omega

/-- The first values as they are, and a series of the others. -/
def afterFirst (count : Nat) (series : List ℚ → List ℚ) (values : List ℚ) : List ℚ :=
  values.take count ++ series (values.drop count)

theorem causal_afterFirst {series : List ℚ → List ℚ} (causal : Causal series) (first : Nat) :
    Causal (afterFirst first series) := by
  intro count values
  unfold afterFirst
  rw [List.take_append, List.take_take, List.take_take, List.drop_take, causal, List.length_take,
    Nat.min_comm first count]
  by_cases short : values.length ≤ first
  · rw [List.drop_of_length_le short]
    have empty := causal 0 []
    simp at empty
    simp [empty]
  · congr 2
    omega

theorem length_afterFirst {series : List ℚ → List ℚ}
    (lengths : ∀ values, (series values).length = values.length) (first : Nat)
    (values : List ℚ) : (afterFirst first series values).length = values.length := by
  unfold afterFirst
  rw [List.length_append, lengths, List.length_take, List.length_drop]
  omega

theorem drop_afterFirst {series : List ℚ → List ℚ} {first : Nat} {values : List ℚ}
    (enough : first ≤ values.length) :
    (afterFirst first series values).drop first = series (values.drop first) := by
  unfold afterFirst
  apply List.drop_left'
  rw [List.length_take]
  omega

theorem length_emaValues {period : Nat} (positive : 1 ≤ period) (values : List ℚ) :
    (emaValues period values).length = values.length :=
  length_seeded positive _ _ _ _ _

section Macd

variable {fast slow signal : Nat}

theorem length_macdDifferences (fastPositive : 1 ≤ fast) (slowPositive : 1 ≤ slow)
    (prices : List ℚ) : (macdDifferences fast slow prices).length = prices.length := by
  unfold macdDifferences
  rw [List.length_zipWith, length_emaValues fastPositive, length_emaValues slowPositive,
    Nat.min_self]

/-- The histogram before its padding: the differences less their average. -/
def macdDistances (fast slow signal : Nat) (prices : List ℚ) : List ℚ :=
  List.zipWith (fun value smoothed => value - smoothed) (macdDifferences fast slow prices)
    (afterFirst (slow - 1) (emaValues signal) (macdDifferences fast slow prices))

/-- The histogram is missing where one of the averages is, wherever that leaves off. -/
theorem histogram_macdValues (fastPositive : 1 ≤ fast) (slowPositive : 1 ≤ slow)
    (signalPositive : 1 ≤ signal) (prices : List ℚ) :
    (macdValues fast slow signal prices).histogram =
      masked (slow - 1 + (signal - 1)) (macdDistances fast slow signal prices) := by
  have differences := length_macdDifferences fastPositive slowPositive prices
  have distances : (macdDistances fast slow signal prices).length = prices.length := by
    unfold macdDistances
    rw [List.length_zipWith, length_afterFirst (length_emaValues signalPositive), differences,
      Nat.min_self]
  have missing : prices.length ≤ slow - 1 + (signal - 1) →
      masked (slow - 1 + (signal - 1)) (macdDistances fast slow signal prices) =
        List.replicate prices.length none := by
    intro short
    unfold masked
    rw [List.drop_of_length_le (by omega), distances, Nat.min_eq_right short]
    simp
  unfold macdValues
  dsimp only
  split_ifs with few fewer
  · rw [missing (by omega)]
  · rw [List.length_drop, differences] at fewer
    rw [missing (by omega)]
  · rw [List.length_drop, differences] at fewer
    have known : slow - 1 ≤ (macdDifferences fast slow prices).length := by omega
    rw [masked, distances, Nat.min_eq_left (by omega), ← List.drop_drop, macdDistances,
      List.drop_zipWith (i := slow - 1), drop_afterFirst known]

theorem causal_histogram (fastPositive : 1 ≤ fast) (slowPositive : 1 ≤ slow)
    (signalPositive : 1 ≤ signal) :
    Causal fun prices => (macdValues fast slow signal prices).histogram := by
  have differences : Causal (macdDifferences fast slow) :=
    (causal_emaValues fastPositive).zipWith (causal_emaValues slowPositive) _
  have smoothed := causal_afterFirst (causal_emaValues signalPositive) (slow - 1)
  have distances : Causal (macdDistances fast slow signal) :=
    differences.zipWith (smoothed.comp differences) _
  intro count prices
  dsimp only
  rw [histogram_macdValues fastPositive slowPositive signalPositive,
    histogram_macdValues fastPositive slowPositive signalPositive]
  exact (causal_masked _).comp distances count prices

end Macd

theorem take_trueRange (count : Nat) (highs lows closes : List ℚ) :
    trueRange (highs.take count) (lows.take count) (closes.take count) =
      (trueRange highs lows closes).take count := by
  cases count with
  | zero => rfl
  | succ count =>
      cases highs with
      | nil => rfl
      | cons high later =>
          have shorter : ∀ (bars : List (ℚ × ℚ)),
              List.zipWith rangeOf (bars.take count) (closes.take (count + 1)) =
                (List.zipWith rangeOf bars closes).take count := by
            intro bars
            have bounded : (List.zipWith rangeOf (bars.take count)
                (closes.take (count + 1))).length ≤ count := by
              rw [List.length_zipWith, List.length_take]
              omega
            rw [← List.take_of_length_le bounded, List.take_zipWith, List.take_zipWith,
              List.take_take, List.take_take, Nat.min_self,
              Nat.min_eq_left (Nat.le_succ count)]
          have tails : (lows.take (count + 1)).tail = lows.tail.take count := by
            cases lows <;> simp
          rw [List.take_succ_cons, trueRange, trueRange, List.take_succ_cons, tails,
            List.zip, ← List.take_zipWith, shorter]

/-- Bars that are left out at the end leave the average true range of the others. -/
theorem atrSeries_take {highs lows closes : List ℚ} (aligned : lows.length = highs.length)
    (closed : closes.length = highs.length) (period : Int) (count : Nat) :
    atrSeries (highs.take count) (lows.take count) (closes.take count) period =
      (atrSeries highs lows closes period).map (List.take count) := by
  unfold atrSeries
  split_ifs with none_ empty short short
  · rfl
  · simp only [Except.map, List.take_replicate, List.length_take]
  · have counted : count = 0 := by
      simp only [List.length_take, aligned, closed, ne_eq, not_true_eq_false, or_false] at empty
      omega
    simp [counted, Except.map]
  · simp only [List.length_take] at empty
    omega
  · rw [take_trueRange]
    have positive : 1 ≤ period.toNat := by omega
    have causal := causal_wilderSmooth positive count (trueRange highs lows closes)
    simp only [Except.map, causal]

end EaBot.Trading
