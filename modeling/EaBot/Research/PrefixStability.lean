import EaBot.Research.Simulation

/-!
# The simulation of a longer series

A trade that has ended before a bar does not depend on the prices from that bar on: every
series of indicators is causal, and the loop notes its trades at the bars that end them.

Highs and lows are used when there is one of each for every price.  Series of which some go
on and others do not may change that, so two runs are compared that both use their highs
and lows or both do without.
-/

namespace EaBot.Research

open EaBot.Foundation EaBot.Trading

/-- The trades that a signal, a stop or a target has ended before a bar. -/
def closedBefore (bar : Nat) (trades : List SimulatedTrade) : List SimulatedTrade :=
  trades.filter fun trade => trade.exitBar < bar ∧ trade.exitReason ≠ .endOfData

/-! ## The series -/

/-- Prices that are left out at the end leave the readings of the others. -/
theorem readings_take {strategyType : String} {params : Record} {strategy : Strategy}
    (parsed : Strategy.parse strategyType params = .ok strategy) (prices : List ℚ) (count : Nat) :
    readings strategy (prices.take count) =
      (readings strategy prices).map (List.take count) := by
  have averages : ∀ fast slow : Int, Strategy.emaPeriods params = .ok (fast, slow) →
      1 ≤ fast ∧ 1 ≤ slow := by
    intro fast slow found
    unfold Strategy.emaPeriods at found
    rcases of_bind_eq_ok found with ⟨first, -, found⟩
    rcases of_bind_eq_ok found with ⟨second, -, found⟩
    cases found
    constructor <;> split_ifs <;> omega
  have ema : ∀ period : Int, 1 ≤ period →
      emaSeries (prices.take count) period = .ok ((emaValues period.toNat prices).take count) ∧
        emaSeries prices period = .ok (emaValues period.toNat prices) := by
    intro period positive
    have counted : 1 ≤ period.toNat := by omega
    have causal := causal_emaValues counted count prices
    constructor
    · rw [emaSeries, if_neg (by omega), causal]
    · rw [emaSeries, if_neg (by omega)]
  unfold Strategy.parse at parsed
  split_ifs at parsed
  · rcases of_bind_eq_ok parsed with ⟨period, -, parsed⟩
    rcases of_bind_eq_ok parsed with ⟨overbought, -, parsed⟩
    rcases of_bind_eq_ok parsed with ⟨oversold, -, parsed⟩
    cases parsed
    have positive : ¬ (if period < 1 then 14 else period) < 1 := by
      split_ifs <;> omega
    have counted : 1 ≤ (if period < 1 then 14 else period).toNat := by omega
    have causal := causal_rsiValues counted count prices
    rw [readings, readings, rsiSeries, rsiSeries, if_neg positive, if_neg positive, causal]
    simp only [Except.map, List.map_take]
  · rcases of_bind_eq_ok parsed with ⟨fast, -, parsed⟩
    rcases of_bind_eq_ok parsed with ⟨slow, -, parsed⟩
    rcases of_bind_eq_ok parsed with ⟨signal, -, parsed⟩
    cases parsed
    unfold readings macdSeries
    dsimp only
    generalize (if fast < 1 then 12 else fast) = fast
    generalize (if slow ≤ fast then 26 else slow) = slow
    generalize (if signal < 1 then 9 else signal) = signal
    split_ifs with short order
    · rfl
    · rfl
    · have fastCounted : 1 ≤ fast.toNat := by omega
      have slowCounted : 1 ≤ slow.toNat := by omega
      have signalCounted : 1 ≤ signal.toNat := by omega
      have causal := causal_histogram fastCounted slowCounted signalCounted count prices
      dsimp only at causal
      simp only [Except.map, List.map_take, causal]
  · rcases of_bind_eq_ok parsed with ⟨⟨fast, slow⟩, found, parsed⟩
    cases parsed
    rcases averages fast slow found with ⟨fastPositive, slowPositive⟩
    rw [readings, readings, (ema fast fastPositive).1, (ema fast fastPositive).2,
      (ema slow slowPositive).1, (ema slow slowPositive).2, ok_bind, ok_bind, ok_bind, ok_bind]
    simp only [pure, Except.pure, Except.map, List.take_zipWith]
  · rcases of_bind_eq_ok parsed with ⟨⟨fast, slow⟩, found, parsed⟩
    cases parsed
    rcases averages fast slow found with ⟨fastPositive, slowPositive⟩
    rw [readings, readings, (ema fast fastPositive).1, (ema fast fastPositive).2,
      (ema slow slowPositive).1, (ema slow slowPositive).2, ok_bind, ok_bind, ok_bind, ok_bind]
    simp only [pure, Except.pure, Except.map, List.map_take]

/-- Prices that are left out at the end leave the average true range of the others. -/
theorem atrValues_take {useAtr : Bool} (params : Record) {prices highs lows : List ℚ}
    (aligned : useAtr = true → highs.length = prices.length ∧ lows.length = prices.length)
    (count : Nat) :
    prepare.atrValues useAtr params (prices.take count) (highs.take count) (lows.take count) =
      (prepare.atrValues useAtr params prices highs lows).map (List.take count) := by
  unfold prepare.atrValues
  split_ifs with used
  · rcases aligned used with ⟨highLength, lowLength⟩
    cases intParam params "atr_period" 14 with
    | error raised => rfl
    | ok period =>
        exact atrSeries_take (lowLength.trans highLength.symm) highLength.symm period count
  · simp [Except.map, List.take_replicate]

/-- Bars that are left out at the end leave the parameters and the other bars. -/
theorem prepare_take {useAtr : Bool} (params : Record) (strategyType : String)
    {prices highs lows : List ℚ}
    (aligned : useAtr = true → highs.length = prices.length ∧ lows.length = prices.length)
    (count : Nat) :
    prepare useAtr params strategyType (prices.take count) (highs.take count)
        (lows.take count) =
      (prepare useAtr params strategyType prices highs lows).map
        fun prepared => (prepared.1, prepared.2.take count) := by
  unfold prepare
  cases parsed : Strategy.parse strategyType params with
  | error raised => rfl
  | ok strategy =>
      rw [ok_bind, ok_bind, atrValues_take params aligned]
      cases prepare.atrValues useAtr params prices highs lows with
      | error raised => rfl
      | ok atr =>
          cases floatParam params "atr_stop_multiplier" 2 with
          | error raised => rfl
          | ok stop =>
              cases floatParam params "reward_risk_ratio" 2 with
              | error raised => rfl
              | ok reward =>
                  rw [readings_take parsed]
                  cases readings strategy prices with
                  | error raised => rfl
                  | ok read =>
                      simp only [Except.map, ok_bind, pure, Except.pure, List.zip,
                        List.take_zipWith]
                      cases useAtr <;> rfl

/-! ## The loop -/

namespace Simulation

theorem notes_step (config : SimConfig) :
    Notes (step config) Simulation.trades SimulatedTrade.exitBar := by
  intro index bar state
  unfold step
  split
  · exact ⟨[], by simp, by simp⟩
  · dsimp only
    split
    · split_ifs
      · exact ⟨[], by simp, by simp⟩
      · exact ⟨[], by simp, by simp⟩
    · split
      · exact ⟨[], by simp, by simp⟩
      · refine ⟨_, rfl, ?_⟩
        intro trade member
        cases List.mem_singleton.mp member
        rfl

/-- The last bar ends no trade by a signal, a stop or a target. -/
theorem closedBefore_finish (bar : Nat) (bars : List SimBar) (state : Simulation) :
    closedBefore bar (finish bars state) = closedBefore bar state.trades := by
  unfold finish
  split
  · simp [closedBefore, List.filter_append, SimPosition.trade]
  · rfl

/-- The trades that have ended before a bar depend on the bars before it. -/
theorem closedBefore_run (config : SimConfig) (bars : List SimBar) (count : Nat) :
    closedBefore count (run config bars) = closedBefore count (run config (bars.take count)) := by
  have parts : ∀ trades : List SimulatedTrade, closedBefore count trades =
      (trades.filter fun trade => trade.exitBar < count).filter
        fun trade => trade.exitReason ≠ .endOfData := by
    intro trades
    rw [closedBefore, List.filter_filter]
    apply List.filter_congr
    intro trade _
    simp [Bool.and_comm]
  unfold run
  rw [closedBefore_finish, closedBefore_finish, parts, parts,
    (notes_step config).before count bars]

end Simulation

theorem usesAtr_lengths {prices : List ℚ} {highs lows : Option (List ℚ)}
    (used : usesAtr prices highs lows = true) :
    (highs.getD []).length = prices.length ∧ (lows.getD []).length = prices.length := by
  unfold usesAtr at used
  split at used
  · simpa using used
  · cases used

/-- The ended trades of a simulation are those of a simulation of the bars before. -/
theorem closedBefore_simulate (params : Record) (strategyType : String) (prices : List ℚ)
    (highs lows : Option (List ℚ)) (count : Nat) :
    (simulate prices params highs lows strategyType).map (closedBefore count) =
      (prepare (usesAtr prices highs lows) params strategyType (prices.take count)
        ((highs.getD []).take count) ((lows.getD []).take count)).map
        fun prepared => closedBefore count (Simulation.run prepared.1 prepared.2) := by
  rw [prepare_take params strategyType usesAtr_lengths, simulate]
  cases prepare (usesAtr prices highs lows) params strategyType prices (highs.getD [])
    (lows.getD []) with
  | error raised => rfl
  | ok prepared =>
      exact congrArg Except.ok (Simulation.closedBefore_run prepared.1 prepared.2 count)

/-- Series that agree before a bar have the same ended trades before it, or raise the same
exception, where both use their highs and lows or neither does. -/
theorem closedBefore_simulate_congr (params : Record) (strategyType : String) (count : Nat)
    {prices others : List ℚ} {highs lows otherHighs otherLows : Option (List ℚ)}
    (samePrices : prices.take count = others.take count)
    (sameHighs : highs.map (List.take count) = otherHighs.map (List.take count))
    (sameLows : lows.map (List.take count) = otherLows.map (List.take count))
    (alike : usesAtr prices highs lows = usesAtr others otherHighs otherLows) :
    (simulate prices params highs lows strategyType).map (closedBefore count) =
      (simulate others params otherHighs otherLows strategyType).map (closedBefore count) := by
  have defaults : ∀ series other : Option (List ℚ),
      series.map (List.take count) = other.map (List.take count) →
      (series.getD []).take count = (other.getD []).take count := by
    intro series other same
    cases series with
    | none =>
        cases other with
        | none => rfl
        | some values => cases same
    | some values =>
        cases other with
        | none => cases same
        | some others => exact Option.some.inj same
  rw [closedBefore_simulate, closedBefore_simulate, alike, samePrices, defaults _ _ sameHighs,
    defaults _ _ sameLows]

namespace Sample

/-- Two crossing averages of one and two bars. -/
def crossingParams : Record :=
  Dict.empty.update [("fast_ema_period", .int 1), ("slow_ema_period", .int 2),
    ("atr_period", .int 1)]

/-- Prices that rise once and fall back. -/
def risingOnce : List ℚ :=
  [1, 1, 2, 1, 1]

end Sample

/-- A sixth price leaves the trades of the first five bars, where its high and its low are
there as well. -/
theorem closedBefore_simulate_risingOnce :
    (simulate Sample.risingOnce Sample.crossingParams (some Sample.risingOnce)
        (some Sample.risingOnce) "ema_crossover").map (closedBefore 5) =
      (simulate (Sample.risingOnce ++ [3]) Sample.crossingParams
        (some (Sample.risingOnce ++ [3])) (some (Sample.risingOnce ++ [3]))
        "ema_crossover").map (closedBefore 5) :=
  closedBefore_simulate_congr Sample.crossingParams "ema_crossover" 5 rfl rfl rfl rfl

/-- A sixth price without a high and a low takes the stops from the trades before it. -/
theorem sixth_price_drops_stops :
    ¬ ∀ (params : Record) (strategyType : String) (count : Nat) (prices others : List ℚ)
        (highs lows otherHighs otherLows : Option (List ℚ)),
      prices.take count = others.take count →
      highs.map (List.take count) = otherHighs.map (List.take count) →
      lows.map (List.take count) = otherLows.map (List.take count) →
      (simulate prices params highs lows strategyType).map (closedBefore count) =
        (simulate others params otherHighs otherLows strategyType).map (closedBefore count) := by
  intro stable
  have same := stable Sample.crossingParams "ema_crossover" 5 Sample.risingOnce
    (Sample.risingOnce ++ [3]) (some Sample.risingOnce) (some Sample.risingOnce)
    (some Sample.risingOnce) (some Sample.risingOnce) rfl rfl rfl
  have apart : ((simulate Sample.risingOnce Sample.crossingParams (some Sample.risingOnce)
        (some Sample.risingOnce) "ema_crossover").map (closedBefore 5)).toOption ≠
      ((simulate (Sample.risingOnce ++ [3]) Sample.crossingParams (some Sample.risingOnce)
        (some Sample.risingOnce) "ema_crossover").map (closedBefore 5)).toOption := by
    decide +kernel
  exact apart (congrArg Except.toOption same)

end EaBot.Research
