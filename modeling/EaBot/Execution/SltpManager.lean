import EaBot.Foundation.Rounding
import Mathlib.Algebra.Order.Group.MinMax
import Mathlib.Tactic.Ring

/-!
# Decisions on the stop of an open position

The stop of a position moves along a ladder of levels that are measured in its risk.
Once the price has reached the first target the stop goes to break-even with a buffer,
and once it has reached the second one the stop goes to the first and then trails the
price.  A decision proposes the level of the highest rung, drops it when it is no
improvement, and rounds it last.

Distances are taken in the direction of the position, so that one argument covers a
position that gains when the price rises and one that gains when it falls.
-/

namespace EaBot.Execution

open EaBot.Foundation

/-- The two directions of a position. -/
inductive Direction
  | buy
  | sell
deriving DecidableEq

/-- The configuration of the ladder; distances are multiples of the risk. -/
structure SLTPConfig where
  enabled : Bool := true
  breakevenEnabled : Bool := true
  bepBufferR : ℚ := 1 / 10
  tp1LockEnabled : Bool := true
  tp1TriggerR : ℚ := 1
  tp1LockR : ℚ := 1
  trailingEnabled : Bool := true
  tp2TriggerR : ℚ := 2
  trailAtrFactor : ℚ := 3 / 2
  minMoveR : ℚ := 1 / 20

/-- What a change of the stop is made for. -/
inductive StopReason
  | breakeven
  | tp2Lock
  | trailing
deriving DecidableEq

/-- A desired change of the stop. -/
structure SLTPDecision where
  newSl : ℚ
  reason : StopReason
  lockedR : ℚ
deriving DecidableEq

namespace Direction

/-- The direction that a text names. -/
def ofText? (text : String) : Option Direction :=
  let lowered := Text.lower text
  if lowered = "buy" then some buy else if lowered = "sell" then some sell else none

/-- The name of a direction. -/
def text : Direction → String
  | buy => "buy"
  | sell => "sell"

/-- How far a price has moved from another one in favour of the position. -/
def gain : Direction → ℚ → ℚ → ℚ
  | buy, start, price => price - start
  | sell, start, price => start - price

/-- The price at a distance from another one in favour of the position. -/
def ahead : Direction → ℚ → ℚ → ℚ
  | buy, start, distance => start + distance
  | sell, start, distance => start - distance

/-- The tighter one of two stops. -/
def tightest : Direction → ℚ → ℚ → ℚ
  | buy, first, second => max first second
  | sell, first, second => min first second

theorem ofText?_text (direction : Direction) : ofText? direction.text = some direction := by
  cases direction <;> decide

end Direction

/-- The candidate is a more favourable stop than the current one; a current one that is
not positive is always replaced. -/
def betterStop (direction : Direction) (candidate current : ℚ) : Bool :=
  if current ≤ 0 then true
  else
    match direction with
    | .buy => decide (current < candidate)
    | .sell => decide (candidate < current)

/-- The risk of a position: the initial one when it is known, else the range of the
market, else the distance of the current stop. -/
def riskOf (entry curSl atr : ℚ) (initialRisk : Option ℚ) : ℚ :=
  let given := initialRisk.getD 0
  if 0 < given then given
  else if 0 < atr then atr
  else if 0 < curSl then |entry - curSl|
  else 0

section Ladder

variable (cfg : SLTPConfig) (direction : Direction) (entry price atr risk : ℚ)

/-- The progress of the price in multiples of the risk. -/
def progressR : ℚ :=
  direction.gain entry price / risk

/-- The level at a multiple of the risk. -/
def lockAt (lockR : ℚ) : ℚ :=
  direction.ahead entry (lockR * risk)

/-- The level that trails the price, and never falls behind the first target. -/
def trailingStop : ℚ :=
  direction.tightest (direction.ahead price (-(atr * cfg.trailAtrFactor)))
    (lockAt direction entry risk cfg.tp1LockR)

/-- The proposals of the rung that the price has reached. -/
def candidates : List SLTPDecision :=
  if cfg.tp1LockEnabled ∧ cfg.tp2TriggerR ≤ progressR direction entry price risk then
    ⟨lockAt direction entry risk cfg.tp1LockR, .tp2Lock, cfg.tp1LockR⟩ ::
      if cfg.trailingEnabled ∧ 0 < atr then
        let sl := trailingStop cfg direction entry price atr risk
        [⟨sl, .trailing, Text.roundTo 4 (progressR direction entry sl risk)⟩]
      else []
  else if cfg.breakevenEnabled ∧ cfg.tp1TriggerR ≤ progressR direction entry price risk then
    [⟨lockAt direction entry risk cfg.bepBufferR, .breakeven, cfg.bepBufferR⟩]
  else []

/-- The first of the proposals that lock the most. -/
def bestOf : List SLTPDecision → Option SLTPDecision
  | [] => none
  | first :: rest =>
      some (rest.foldl (fun best next => if best.lockedR < next.lockedR then next else best) first)

/-- The proposal is no improvement, or a smaller one than the least move. -/
def staysPut (curSl : ℚ) (proposed : ℚ) : Bool :=
  !betterStop direction proposed curSl ||
    decide (0 < curSl ∧ |proposed - curSl| / risk < cfg.minMoveR)

end Ladder

/-- The desired stop of an open position, unless no change is warranted.  Numbers that
are missing or unreadable count as zero. -/
def decideStopLoss (direction : String) (entryPrice currentSl currentPrice atr : Option ℚ)
    (initialRisk : Option ℚ) (config : Option SLTPConfig) : Option SLTPDecision :=
  let cfg := config.getD {}
  if !cfg.enabled then none
  else
    match Direction.ofText? direction with
    | none => none
    | some direction =>
        let entry := entryPrice.getD 0
        let curSl := currentSl.getD 0
        let price := currentPrice.getD 0
        let range := atr.getD 0
        if entry ≤ 0 ∨ price ≤ 0 then none
        else
          let risk := riskOf entry curSl range initialRisk
          if risk ≤ 0 then none
          else
            match bestOf (candidates cfg direction entry price range risk) with
            | none => none
            | some best =>
                if staysPut cfg direction risk curSl best.newSl then none
                else some { best with newSl := Text.roundTo 5 best.newSl }

/-! ## Distances -/

namespace Direction

variable (direction : Direction) (start first second distance : ℚ)

@[simp]
theorem gain_ahead :
    direction.gain start (direction.ahead first distance) =
      direction.gain start first + distance := by
  cases direction <;> simp only [gain, ahead] <;> ring

@[simp]
theorem gain_self : direction.gain start start = 0 := by
  cases direction <;> simp [gain]

@[simp]
theorem gain_tightest :
    direction.gain start (direction.tightest first second) =
      max (direction.gain start first) (direction.gain start second) := by
  cases direction with
  | buy => exact (max_sub_sub_right first second start).symm
  | sell => exact (max_sub_sub_left start first second).symm

/-- Gains from one price differ by the gain between the two others. -/
theorem gain_sub :
    direction.gain start second - direction.gain start first = direction.gain first second := by
  cases direction <;> simp only [gain] <;> ring

theorem abs_gain : |direction.gain first second| = |second - first| := by
  cases direction with
  | buy => rfl
  | sell => exact abs_sub_comm first second

end Direction

/-! ## What a decision rests on -/

theorem betterStop_iff {direction : Direction} {candidate current : ℚ} (placed : 0 < current) :
    betterStop direction candidate current = true ↔ 0 < direction.gain current candidate := by
  cases direction <;> simp [betterStop, Direction.gain, not_le.mpr placed]

theorem bestOf_mem {proposals : List SLTPDecision} {best : SLTPDecision}
    (found : bestOf proposals = some best) : best ∈ proposals := by
  cases proposals with
  | nil => cases found
  | cons first rest =>
      obtain rfl := Option.some.inj found
      clear found
      induction rest generalizing first with
      | nil => exact List.mem_cons_self
      | cons next rest ih =>
          have held := ih (if first.lockedR < next.lockedR then next else first)
          rw [List.foldl_cons]
          split_ifs at held ⊢ with more
          · exact List.mem_cons_of_mem _ held
          · rcases List.mem_cons.mp held with now | later
            · rw [now]
              exact List.mem_cons_self
            · exact List.mem_cons_of_mem _ (List.mem_cons_of_mem _ later)

section Ladder

variable {cfg : SLTPConfig} {direction : Direction} {entry price atr risk : ℚ}

theorem le_progressR_iff (risky : 0 < risk) (trigger : ℚ) :
    trigger ≤ progressR direction entry price risk ↔
      trigger * risk ≤ direction.gain entry price :=
  le_div_iff₀ risky

/-- What a proposal is made for: the first target or the trailing level once the price
has gained the second trigger, and break-even once it has gained the first one. -/
theorem candidates_cases (risky : 0 < risk) {best : SLTPDecision}
    (proposed : best ∈ candidates cfg direction entry price atr risk) :
    ((cfg.tp1LockEnabled = true ∧ cfg.tp2TriggerR * risk ≤ direction.gain entry price) ∧
      ((best.reason = .tp2Lock ∧ best.newSl = lockAt direction entry risk cfg.tp1LockR) ∨
        (best.reason = .trailing ∧ (cfg.trailingEnabled = true ∧ 0 < atr) ∧
          best.newSl = trailingStop cfg direction entry price atr risk))) ∨
    (¬(cfg.tp1LockEnabled = true ∧ cfg.tp2TriggerR * risk ≤ direction.gain entry price) ∧
      (cfg.breakevenEnabled = true ∧ cfg.tp1TriggerR * risk ≤ direction.gain entry price) ∧
        best.reason = .breakeven ∧ best.newSl = lockAt direction entry risk cfg.bepBufferR) := by
  simp only [candidates, le_progressR_iff risky] at proposed
  split_ifs at proposed with locks trails breaks
  · rcases List.mem_cons.mp proposed with rfl | later
    · exact .inl ⟨locks, .inl ⟨rfl, rfl⟩⟩
    · rw [List.mem_singleton.mp later]
      exact .inl ⟨locks, .inr ⟨rfl, trails, rfl⟩⟩
  · rw [List.mem_singleton.mp proposed]
    exact .inl ⟨locks, .inl ⟨rfl, rfl⟩⟩
  · rw [List.mem_singleton.mp proposed]
    exact .inr ⟨locks, breaks, rfl, rfl⟩
  · cases proposed

end Ladder

/-- The proposal that a decision rounds. -/
structure StopDecision (cfg : SLTPConfig) (direction : Direction) (entry curSl price atr risk : ℚ)
    (best decision : SLTPDecision) : Prop where
  priced : 0 < price
  risky : 0 < risk
  proposed : best ∈ candidates cfg direction entry price atr risk
  moves : staysPut cfg direction risk curSl best.newSl = false
  rounded : decision = { best with newSl := Text.roundTo 5 best.newSl }

theorem stopDecision_of_some {text : String} {entryPrice currentSl currentPrice atr : Option ℚ}
    {initialRisk : Option ℚ} {config : Option SLTPConfig} {decision : SLTPDecision}
    (decided : decideStopLoss text entryPrice currentSl currentPrice atr initialRisk config =
      some decision) :
    ∃ direction best, Direction.ofText? text = some direction ∧
      StopDecision (config.getD {}) direction (entryPrice.getD 0) (currentSl.getD 0)
        (currentPrice.getD 0) (atr.getD 0)
        (riskOf (entryPrice.getD 0) (currentSl.getD 0) (atr.getD 0) initialRisk) best decision := by
  unfold decideStopLoss at decided
  dsimp only at decided
  split at decided
  · cases decided
  · split at decided
    · cases decided
    · rename_i direction named
      split at decided
      · cases decided
      · rename_i priced
        split at decided
        · cases decided
        · rename_i risky
          split at decided
          · cases decided
          · rename_i best found
            split at decided
            · cases decided
            · rename_i moves
              refine ⟨direction, best, named, ?_, ?_, bestOf_mem found, ?_, ?_⟩
              · exact not_le.mp fun low => priced (.inr low)
              · exact not_le.mp risky
              · exact Bool.eq_false_iff.mpr moves
              · exact (Option.some.inj decided).symm

end EaBot.Execution
