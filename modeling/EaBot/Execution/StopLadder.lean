import EaBot.Execution.SltpManager
import EaBot.Foundation.Run

/-!
# The ladder over a price path

Every decision is applied as the stop that the next one finds.  The level of a rung is
an improvement that keeps its distance to the price, but the decision rounds it to five
places after it has compared it, so on an instrument whose whole risk is of that size
the applied stop may be the old one, a looser one, or the price itself.

When the levels that a price reaches are more than half a unit of the fifth place away
from the price and from the stop that they replace, the applied stops only tighten.
-/

namespace EaBot.Execution

open EaBot.Foundation

/-- What a decision is made on: the price and the range of the market. -/
structure Reading where
  price : ℚ
  atr : ℚ

section Path

variable (config : SLTPConfig) (direction : Direction) (entry : ℚ) (initialRisk : Option ℚ)

/-- The decision at a reading while a stop is in force. -/
def decisionAt (stop : ℚ) (reading : Reading) : Option SLTPDecision :=
  decideStopLoss direction.text (some entry) (some stop) (some reading.price)
    (some reading.atr) initialRisk (some config)

/-- The stop after a reading. -/
def stopAfter (stop : ℚ) (reading : Reading) : ℚ :=
  match decisionAt config direction entry initialRisk stop reading with
  | none => stop
  | some decision => decision.newSl

/-- The stop that is applied at a reading, with its price. -/
def appliedAt (stop : ℚ) (reading : Reading) : List (ℚ × ℚ) :=
  match decisionAt config direction entry initialRisk stop reading with
  | none => []
  | some decision => [(reading.price, decision.newSl)]

/-- The stops that are applied along a path, with their prices. -/
def appliedStops (stop : ℚ) (readings : List Reading) : List (ℚ × ℚ) :=
  Run.emitted (stopAfter config direction entry initialRisk)
    (appliedAt config direction entry initialRisk) stop readings

/-- Every applied stop is strictly tighter than all before it, and strictly on the losing
side of its price. -/
structure Ratchets (stop : ℚ) (readings : List Reading) : Prop where
  tightens :
    (stop :: (appliedStops config direction entry initialRisk stop readings).map Prod.snd).Pairwise
      fun earlier later => 0 < direction.gain earlier later
  behind : ∀ change ∈ appliedStops config direction entry initialRisk stop readings,
    0 < direction.gain change.2 change.1

/-- The levels of the rungs that a price has reached. -/
def reachedLevels (price atr risk : ℚ) : List ℚ :=
  if config.tp1LockEnabled ∧ config.tp2TriggerR * risk ≤ direction.gain entry price then
    lockAt direction entry risk config.tp1LockR ::
      if config.trailingEnabled ∧ 0 < atr then
        [trailingStop config direction entry price atr risk]
      else []
  else if config.breakevenEnabled ∧ config.tp1TriggerR * risk ≤ direction.gain entry price then
    [lockAt direction entry risk config.bepBufferR]
  else []

/-- Each level that a reading reaches is more than half a unit of the fifth place away
from the price, and from the stop in force if it is an improvement of it. -/
def Clear (stop : ℚ) (reading : Reading) : Prop :=
  let risk := riskOf entry stop reading.atr initialRisk
  ∀ level ∈ reachedLevels config direction entry reading.price reading.atr risk,
    Text.halfUnit 5 < |reading.price - level| ∧
      (staysPut config direction risk stop level = false → Text.halfUnit 5 < |level - stop|)

instance (stop : ℚ) (reading : Reading) :
    Decidable (Clear config direction entry initialRisk stop reading) :=
  inferInstanceAs (Decidable (∀ _ ∈ _, _))

variable {config direction entry initialRisk}

/-! ## Levels -/

theorem mem_reachedLevels {price atr risk : ℚ} (risky : 0 < risk) {best : SLTPDecision}
    (proposed : best ∈ candidates config direction entry price atr risk) :
    best.newSl ∈ reachedLevels config direction entry price atr risk := by
  unfold reachedLevels
  rcases candidates_cases risky proposed with
    ⟨locks, ⟨-, level⟩ | ⟨-, trails, level⟩⟩ | ⟨below, breaks, -, level⟩
  · rw [if_pos locks, level]
    exact List.mem_cons_self
  · rw [if_pos locks, if_pos trails, level]
    exact List.mem_cons_of_mem _ List.mem_cons_self
  · rw [if_neg below, if_pos breaks, level]
    exact List.mem_cons_self

/-- A price lies beyond the level that is proposed for it. -/
theorem gain_proposed {price atr risk : ℚ} (risky : 0 < risk)
    (bep : config.bepBufferR < config.tp1TriggerR) (lock : config.tp1LockR < config.tp2TriggerR)
    (trails : config.trailingEnabled = true → 0 < config.trailAtrFactor) {best : SLTPDecision}
    (proposed : best ∈ candidates config direction entry price atr risk) :
    0 < direction.gain best.newSl price := by
  rw [← direction.gain_sub entry, sub_pos]
  have lower : config.tp1LockR * risk < config.tp2TriggerR * risk :=
    mul_lt_mul_of_pos_right lock risky
  rcases candidates_cases risky proposed with
    ⟨⟨-, locks⟩, ⟨-, level⟩ | ⟨-, ⟨trailing, ranged⟩, level⟩⟩ | ⟨-, ⟨-, breaks⟩, -, level⟩
  · rw [level, lockAt, Direction.gain_ahead, Direction.gain_self, zero_add]
    exact lower.trans_le locks
  · have distance : 0 < atr * config.trailAtrFactor := mul_pos ranged (trails trailing)
    rw [level, trailingStop, Direction.gain_tightest, lockAt, Direction.gain_ahead,
      Direction.gain_ahead, Direction.gain_self, zero_add]
    apply max_lt
    · linarith
    · exact lower.trans_le locks
  · have buffer : config.bepBufferR * risk < config.tp1TriggerR * risk :=
      mul_lt_mul_of_pos_right bep risky
    rw [level, lockAt, Direction.gain_ahead, Direction.gain_self, zero_add]
    exact buffer.trans_le breaks

/-- A level that is clear of a bound stays on its side of it when it is rounded. -/
theorem gain_roundTo {bound level : ℚ} (side : 0 < direction.gain bound level)
    (clear : Text.halfUnit 5 < |level - bound|) :
    0 < direction.gain bound (Text.roundTo 5 level) := by
  have moved := abs_le.mp (Text.abs_roundTo_sub_le 5 level)
  rw [← direction.abs_gain, abs_of_pos side] at clear
  cases direction <;> simp only [Direction.gain] at clear ⊢ <;> linarith

theorem gain_roundTo_of_behind {bound level : ℚ} (side : 0 < direction.gain level bound)
    (clear : Text.halfUnit 5 < |bound - level|) :
    0 < direction.gain (Text.roundTo 5 level) bound := by
  have moved := abs_le.mp (Text.abs_roundTo_sub_le 5 level)
  rw [← direction.abs_gain, abs_of_pos side] at clear
  cases direction <;> simp only [Direction.gain] at clear ⊢ <;> linarith

/-! ## One reading -/

/-- A decision on a clear reading tightens the stop and keeps it behind the price. -/
theorem Clear.decision {stop : ℚ} {reading : Reading} (placed : 0 < stop)
    (bep : config.bepBufferR < config.tp1TriggerR) (lock : config.tp1LockR < config.tp2TriggerR)
    (trails : config.trailingEnabled = true → 0 < config.trailAtrFactor)
    (clear : Clear config direction entry initialRisk stop reading) {decision : SLTPDecision}
    (decided : decisionAt config direction entry initialRisk stop reading = some decision) :
    0 < direction.gain stop decision.newSl ∧ 0 < direction.gain decision.newSl reading.price ∧
      0 < decision.newSl := by
  rcases stopDecision_of_some decided with ⟨named, best, same, decides⟩
  obtain rfl := Option.some.inj (same.symm.trans direction.ofText?_text)
  simp only [Option.getD_some] at decides
  rcases clear best.newSl (mem_reachedLevels decides.risky decides.proposed) with ⟨away, beyond⟩
  have moves := decides.moves
  simp only [staysPut, Bool.or_eq_false_iff, Bool.not_eq_false'] at moves
  have tighter : 0 < named.gain stop decision.newSl := by
    rw [decides.rounded]
    exact gain_roundTo ((betterStop_iff placed).mp moves.1) (beyond decides.moves)
  have behind : 0 < named.gain decision.newSl reading.price := by
    rw [decides.rounded]
    exact gain_roundTo_of_behind
      (gain_proposed decides.risky bep lock trails decides.proposed) away
  refine ⟨tighter, behind, ?_⟩
  cases named with
  | buy => exact placed.trans (sub_pos.mp tighter)
  | sell => exact decides.priced.trans (sub_pos.mp behind)

/-! ## Every path -/

/-- A stop that is in force before the first of some tightening stops is looser than
each of them. -/
theorem pairwise_cons_of_gain {earlier first : ℚ} {rest : List ℚ}
    (tighter : 0 < direction.gain earlier first)
    (pairwise : (first :: rest).Pairwise fun earlier later => 0 < direction.gain earlier later) :
    (earlier :: first :: rest).Pairwise fun earlier later => 0 < direction.gain earlier later := by
  refine List.pairwise_cons.mpr ⟨?_, pairwise⟩
  intro later member
  rcases List.mem_cons.mp member with rfl | onwards
  · exact tighter
  · have further := List.rel_of_pairwise_cons pairwise onwards
    have sum := direction.gain_sub earlier first later
    linarith

/-- Along a price path whose readings are clear, the applied stops only tighten, and each
stays on the losing side of the price that triggered it. -/
theorem ratchets_of_clear (bep : config.bepBufferR < config.tp1TriggerR)
    (lock : config.tp1LockR < config.tp2TriggerR)
    (trails : config.trailingEnabled = true → 0 < config.trailAtrFactor) {stop : ℚ}
    (placed : 0 < stop) (readings : List Reading)
    (clear : Run.Every (stopAfter config direction entry initialRisk)
      (Clear config direction entry initialRisk) stop readings) :
    Ratchets config direction entry initialRisk stop readings := by
  induction readings generalizing stop with
  | nil => exact ⟨List.pairwise_singleton _ _, fun _ none => nomatch none⟩
  | cons reading rest ih =>
      rcases clear with ⟨now, onwards⟩
      cases decided : decisionAt config direction entry initialRisk stop reading with
      | none =>
          have same : stopAfter config direction entry initialRisk stop reading = stop := by
            rw [stopAfter, decided]
          have kept : appliedStops config direction entry initialRisk stop (reading :: rest) =
              appliedStops config direction entry initialRisk stop rest := by
            rw [appliedStops, Run.emitted, appliedAt, decided, same]
            rfl
          rw [same] at onwards
          have later := ih placed onwards
          exact ⟨by rw [kept]; exact later.tightens, by rw [kept]; exact later.behind⟩
      | some decision =>
          rcases now.decision placed bep lock trails decided with ⟨tighter, behind, positive⟩
          have moved : stopAfter config direction entry initialRisk stop reading =
              decision.newSl := by
            rw [stopAfter, decided]
          have more : appliedStops config direction entry initialRisk stop (reading :: rest) =
              (reading.price, decision.newSl) ::
                appliedStops config direction entry initialRisk decision.newSl rest := by
            rw [appliedStops, Run.emitted, appliedAt, decided, moved]
            rfl
          rw [moved] at onwards
          have later := ih positive onwards
          constructor
          · rw [more]
            exact pairwise_cons_of_gain tighter later.tightens
          · rw [more]
            exact List.forall_mem_cons.mpr ⟨behind, later.behind⟩

/-- A level that is nearer to a stop in force than half a unit, when that stop has five
places, sets the same stop again. -/
theorem repeats_of_near {stop : ℚ} {reading : Reading} {decision : SLTPDecision} {points : Int}
    (grid : stop = points / (10 ^ 5 : Nat))
    (near : ∀ level ∈ reachedLevels config direction entry reading.price reading.atr
      (riskOf entry stop reading.atr initialRisk), |level - stop| < Text.halfUnit 5)
    (decided : decisionAt config direction entry initialRisk stop reading = some decision) :
    decision.newSl = stop := by
  rcases stopDecision_of_some decided with ⟨named, best, same, decides⟩
  obtain rfl := Option.some.inj (same.symm.trans direction.ofText?_text)
  simp only [Option.getD_some] at decides
  have level := near best.newSl (mem_reachedLevels decides.risky decides.proposed)
  rw [grid] at level ⊢
  rw [decides.rounded]
  exact Text.roundTo_of_near level

end Path

/-- A position in EURUSD with a risk of a hundred pips gains three times its risk. -/
def rally : List Reading :=
  [⟨1112 / 1000, 5 / 1000⟩, ⟨1123 / 1000, 5 / 1000⟩, ⟨1130 / 1000, 5 / 1000⟩]

/-- The stop of the position goes to break-even, then trails. -/
theorem ratchets_rally :
    Ratchets {} .buy (11 / 10) (some (1 / 100)) (109 / 100) rally := by
  refine ratchets_of_clear (by decide +kernel) (by decide +kernel) (fun _ => by decide +kernel)
    (by decide +kernel) rally ?_
  exact ⟨by decide +kernel, by decide +kernel, by decide +kernel, trivial⟩

/-- On an instrument with eight decimals the first decision sets a stop that is looser than
the initial one. -/
theorem rounding_loosens :
    decisionAt {} .buy (234 / 10 ^ 7) (some (20 / 10 ^ 7)) (214 / 10 ^ 7) ⟨264 / 10 ^ 7, 0⟩ =
        some ⟨2 / 10 ^ 5, .breakeven, 1 / 10⟩ ∧
      ¬Ratchets {} .buy (234 / 10 ^ 7) (some (20 / 10 ^ 7)) (214 / 10 ^ 7)
        [⟨264 / 10 ^ 7, 0⟩] := by
  refine ⟨by decide +kernel, ?_⟩
  rintro ⟨tightens, -⟩
  revert tightens
  decide +kernel

end EaBot.Execution
