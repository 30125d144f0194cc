import EaBot.Foundation.Rounding
import EaBot.Orchestration.GatedCycle
import EaBot.Risk.GateLimits

/-!
# The sides of the levels

The stop loss of a trade belongs on the losing side of its entry and the target on the other
one.  The gate measures both as distances, so that it approves levels on either side.

The pipeline completes missing levels from the average true range and shifts both by the
spread.  Where the spread is wider than the distance of the stop loss, the stop loss comes
out on the side of the target, and the target is rebuilt from this distance.
-/

namespace EaBot.Risk

open EaBot.Foundation

/-- The side of a trade. -/
inductive TradeSide
  | long
  | short
deriving DecidableEq

namespace TradeSide

/-- A price that lies a distance away in the direction of the side. -/
def shift (side : TradeSide) (price distance : ℚ) : ℚ :=
  match side with
  | long => price + distance
  | short => price - distance

/-- A price lies ahead of another one in the direction of the side. -/
def Ahead (side : TradeSide) (price other : ℚ) : Prop :=
  match side with
  | long => price < other
  | short => other < price

instance (side : TradeSide) (price other : ℚ) : Decidable (side.Ahead price other) := by
  cases side <;> exact inferInstanceAs (Decidable (_ < _))

/-- The stop loss lies behind the entry and the target ahead of it. -/
def Sided (side : TradeSide) (entry stopLoss takeProfit : ℚ) : Prop :=
  side.Ahead stopLoss entry ∧ side.Ahead entry takeProfit

instance (side : TradeSide) (entry stopLoss takeProfit : ℚ) :
    Decidable (side.Sided entry stopLoss takeProfit) :=
  inferInstanceAs (Decidable (_ ∧ _))

/-- The side that a direction names. -/
def ofDirection? (direction : String) : Option TradeSide :=
  let direction := Text.upper direction
  if direction = "BUY" then some long
  else if direction = "SELL" then some short
  else none

end TradeSide

/-- The levels of a trade from an average true range or, without one, from a distance in
pips.  Both move with the price at which the trade is filled. -/
def calculateSlTp (entryPrice : ℚ) (side : TradeSide) (atrValue : Option ℚ)
    (slMultiplier tpMultiplier : ℚ) (pips pointValue : Option ℚ) (spread : ℚ) :
    Except String (ℚ × ℚ) := do
  let (riskDistance, rewardDistance) ←
    match atrValue, pips with
    | some atr, _ => .ok (atr * slMultiplier, atr * tpMultiplier)
    | none, none => .error "either atr_value or pips must be provided"
    | none, some pips =>
        match pointValue with
        | none => .error "point_value is required when pips is provided"
        | some point => .ok (pips * point, pips * tpMultiplier * point)
  let effectiveEntry := side.shift entryPrice (max spread 0)
  return (side.shift effectiveEntry (-riskDistance), side.shift effectiveEntry rewardDistance)

end EaBot.Risk

namespace EaBot.Orchestration

open EaBot.Foundation EaBot.Risk

/-- Complete missing levels of a proposal that has its entry. -/
def completeLevels (atr : ℚ) (marketInfo : Record) (proposal : GateProposal) : GateProposal :=
  match TradeSide.ofDirection? proposal.direction with
  | none => proposal
  | some side =>
      if (proposal.stopLoss ≤ 0 ∨ proposal.takeProfit ≤ 0) ∧ 0 < atr then
        let entry := proposal.entryPrice
        let spreadPrice := (numberOf marketInfo ["spread_price"]).toOption.getD 0
        match calculateSlTp entry side (some atr) (3 / 2) 3 none none spreadPrice with
        | .error _ => proposal
        | .ok (slPrice, tpPrice) =>
            let stopLoss :=
              if proposal.stopLoss ≤ 0 then Text.roundTo 5 slPrice else proposal.stopLoss
            let riskDistance := if 0 < stopLoss then |entry - stopLoss| else 0
            let takeProfit :=
              if proposal.takeProfit ≤ 0 then
                Text.roundTo 5
                  (if 0 < riskDistance then side.shift entry (3 * riskDistance) else tpPrice)
              else proposal.takeProfit
            { proposal with stopLoss := stopLoss, takeProfit := takeProfit }
      else proposal

/-- The stop loss that completion gives a trade. -/
def completedStop (side : TradeSide) (entry atr spread : ℚ) : ℚ :=
  Text.roundTo 5 (side.shift entry (spread - 3 / 2 * atr))

/-- The target that completion gives a trade whose stop loss it gives as well. -/
def completedTarget (side : TradeSide) (entry atr spread : ℚ) : ℚ :=
  Text.roundTo 5 (side.shift entry (3 * |entry - completedStop side entry atr spread|))

variable {side : TradeSide} {entry atr spread : ℚ}

/-- A spread that is narrower than the distance of the stop loss by a point puts the
completed levels on their sides. -/
theorem sided_of_narrow (narrow : spread + 1 / 10 ^ 5 ≤ 3 / 2 * atr) :
    side.Sided entry (completedStop side entry atr spread)
      (completedTarget side entry atr spread) := by
  have half : Text.halfUnit 5 = 1 / 2 / 10 ^ 5 := by norm_num [Text.halfUnit]
  have stopNear := abs_le.mp (Text.abs_roundTo_sub_le 5 (side.shift entry (spread - 3 / 2 * atr)))
  have targetNear := abs_le.mp (Text.abs_roundTo_sub_le 5
    (side.shift entry (3 * |entry - completedStop side entry atr spread|)))
  change _ ≤ completedStop side entry atr spread - _ ∧
    completedStop side entry atr spread - _ ≤ _ at stopNear
  change _ ≤ completedTarget side entry atr spread - _ ∧
    completedTarget side entry atr spread - _ ≤ _ at targetNear
  rw [half] at stopNear targetNear
  cases side with
  | long =>
      simp only [TradeSide.shift] at stopNear targetNear
      have behind : completedStop .long entry atr spread ≤ entry - 1 / 2 / 10 ^ 5 := by
        norm_num at stopNear narrow ⊢
        linarith
      have distance : |entry - completedStop .long entry atr spread| =
          entry - completedStop .long entry atr spread := by
        apply abs_of_nonneg
        norm_num at behind
        linarith
      rw [distance] at targetNear
      norm_num at behind targetNear
      exact ⟨by change _ < _; linarith, by change _ < _; linarith⟩
  | short =>
      simp only [TradeSide.shift] at stopNear targetNear
      have behind : entry + 1 / 2 / 10 ^ 5 ≤ completedStop .short entry atr spread := by
        norm_num at stopNear narrow ⊢
        linarith
      have distance : |entry - completedStop .short entry atr spread| =
          completedStop .short entry atr spread - entry := by
        rw [abs_sub_comm]
        apply abs_of_nonneg
        norm_num at behind
        linarith
      rw [distance] at targetNear
      norm_num at behind targetNear
      exact ⟨by change _ < _; linarith, by change _ < _; linarith⟩

/-- A spread that is wider than the distance of the stop loss by a point puts the
completed stop loss on the side of the target. -/
theorem not_sided_of_wide (wide : 3 / 2 * atr + 1 / 10 ^ 5 ≤ spread) :
    ¬side.Sided entry (completedStop side entry atr spread)
      (completedTarget side entry atr spread) := by
  rintro ⟨behind, -⟩
  have half : Text.halfUnit 5 = 1 / 2 / 10 ^ 5 := by norm_num [Text.halfUnit]
  have near := abs_le.mp (Text.abs_roundTo_sub_le 5 (side.shift entry (spread - 3 / 2 * atr)))
  change _ ≤ completedStop side entry atr spread - _ ∧
    completedStop side entry atr spread - _ ≤ _ at near
  rw [half] at near
  norm_num at near wide
  cases side with
  | long =>
      simp only [TradeSide.shift] at near
      change completedStop .long entry atr spread < entry at behind
      linarith
  | short =>
      simp only [TradeSide.shift] at near
      change entry < completedStop .short entry atr spread at behind
      linarith

/-! ## Completed levels -/

section Completed

variable {marketInfo : Record} {proposal : GateProposal}

/-- Completion of both levels gives the completed stop loss and, when it is a price, the
completed target. -/
theorem completeLevels_of_missing
    (directed : TradeSide.ofDirection? proposal.direction = some side) (atrPos : 0 < atr)
    (spreadNonneg : 0 ≤ spread)
    (spreadIs : numberOf marketInfo ["spread_price"] = .ok spread)
    (noStop : proposal.stopLoss ≤ 0) (noTarget : proposal.takeProfit ≤ 0) :
    let completed := completeLevels atr marketInfo proposal
    completed.direction = proposal.direction ∧ completed.entryPrice = proposal.entryPrice ∧
      completed.stopLoss = completedStop side proposal.entryPrice atr spread ∧
      (0 < completed.stopLoss → completed.stopLoss ≠ proposal.entryPrice →
        completed.takeProfit = completedTarget side proposal.entryPrice atr spread) := by
  have levels : calculateSlTp proposal.entryPrice side (some atr) (3 / 2) 3 none none spread =
      .ok (side.shift (side.shift proposal.entryPrice spread) (-(atr * (3 / 2))),
        side.shift (side.shift proposal.entryPrice spread) (atr * 3)) := by
    simp [calculateSlTp, max_eq_left spreadNonneg, pure, Except.pure, bind, Except.bind]
  have stop : side.shift (side.shift proposal.entryPrice spread) (-(atr * (3 / 2))) =
      side.shift proposal.entryPrice (spread - 3 / 2 * atr) := by
    cases side <;> simp only [TradeSide.shift] <;> ring
  intro completed
  have completedIs : completed = completeLevels atr marketInfo proposal := rfl
  rw [completeLevels, directed] at completedIs
  dsimp only at completedIs
  rw [if_pos ⟨.inl noStop, atrPos⟩, spreadIs] at completedIs
  simp only [Except.toOption, Option.getD_some, levels, stop, if_pos noStop, if_pos noTarget]
    at completedIs
  have stopIs : Text.roundTo 5 (side.shift proposal.entryPrice (spread - 3 / 2 * atr)) =
      completedStop side proposal.entryPrice atr spread := rfl
  simp only [stopIs] at completedIs
  rw [completedIs]
  refine ⟨rfl, rfl, rfl, ?_⟩
  intro positive apart
  dsimp only at positive apart ⊢
  have distance : 0 < |proposal.entryPrice - completedStop side proposal.entryPrice atr spread| :=
    abs_pos.mpr (sub_ne_zero.mpr apart.symm)
  rw [if_pos positive, if_pos distance]
  rfl

end Completed

/-! ## The gate -/

section Gate

variable {gate : RiskGate} {account marketInfo : Record} {positions : List Record}

/-- The side of a proposal. -/
def sideOf? (proposal : Record) : Option TradeSide :=
  TradeSide.ofDirection? ((proposal.get "direction").getD (.str "")).text

/-- The levels of a proposal with a direction lie on their sides. -/
def LevelsSided (proposal : Record) : Prop :=
  ∀ side, sideOf? proposal = some side → ∃ entry stopLoss takeProfit,
    RiskGate.levels proposal = .ok (entry, stopLoss, takeProfit) ∧
      side.Sided entry stopLoss takeProfit

/-- The numbers of a proposal are within all limits of the gate, which take its levels as
distances. -/
def WithinDistances (gate : RiskGate) (proposal account : Record) (positions : List Record)
    (marketInfo : Record) : Prop :=
  ∃ reading : gate.Reading proposal account positions marketInfo, reading.Passes

theorem approved_sided_iff_of_levels {proposal : Record} {entry stopLoss takeProfit : ℚ}
    (directed : sideOf? proposal = some side)
    (levelsAre : RiskGate.levels proposal = .ok (entry, stopLoss, takeProfit)) :
    (gate.Approves proposal account positions marketInfo → LevelsSided proposal) ↔
      (WithinDistances gate proposal account positions marketInfo →
        side.Sided entry stopLoss takeProfit) := by
  have sided : LevelsSided proposal ↔ side.Sided entry stopLoss takeProfit := by
    constructor
    · intro sided
      rcases sided side directed with ⟨_, _, _, again, sided⟩
      cases levelsAre.symm.trans again
      exact sided
    · intro sided other found
      cases directed.symm.trans found
      exact ⟨entry, stopLoss, takeProfit, levelsAre, sided⟩
  rw [sided, RiskGate.approves_iff]
  rfl

theorem sideOf?_record (render : ℚ → String) (proposal : GateProposal) :
    sideOf? (proposal.record render) = TradeSide.ofDirection? proposal.direction := by
  have direction : (proposal.record render).get "direction" = some (.str proposal.direction) := by
    simp [GateProposal.record]
  rw [sideOf?, direction]
  rfl

/-- The levels of an approved proposal lie on their sides exactly when those that it is given
do, or when its numbers are not within the limits, which take the levels as distances.
Levels that completion gives from a positive range and a spread lie on their sides exactly
when the completed stop loss and the completed target do, or when the limits fail. -/
theorem approved_sided_iff (gate : RiskGate) (render : ℚ → String) (side : TradeSide)
    (account : Record) (positions : List Record) (marketInfo : Record) :
    (∀ proposal entry stopLoss takeProfit, sideOf? proposal = some side →
        RiskGate.levels proposal = .ok (entry, stopLoss, takeProfit) →
        ((gate.Approves proposal account positions marketInfo → LevelsSided proposal) ↔
          (WithinDistances gate proposal account positions marketInfo →
            side.Sided entry stopLoss takeProfit))) ∧
      ∀ (proposal : GateProposal) (atr spread : ℚ),
        TradeSide.ofDirection? proposal.direction = some side → 0 < atr → 0 ≤ spread →
        numberOf marketInfo ["spread_price"] = .ok spread →
        proposal.stopLoss ≤ 0 → proposal.takeProfit ≤ 0 →
        ((gate.Approves ((completeLevels atr marketInfo proposal).record render) account
              positions marketInfo →
            LevelsSided ((completeLevels atr marketInfo proposal).record render)) ↔
          (WithinDistances gate ((completeLevels atr marketInfo proposal).record render)
              account positions marketInfo →
            side.Sided proposal.entryPrice (completedStop side proposal.entryPrice atr spread)
              (completedTarget side proposal.entryPrice atr spread))) := by
  constructor
  · intro proposal entry stopLoss takeProfit directed levelsAre
    exact approved_sided_iff_of_levels directed levelsAre
  · intro proposal atr spread directed atrPos spreadNonneg spreadIs noStop noTarget
    rcases completeLevels_of_missing directed atrPos spreadNonneg spreadIs noStop noTarget with
      ⟨directionIs, entryIs, stopIs, targetIs⟩
    have levelsAre := levels_record render (completeLevels atr marketInfo proposal)
    have named : sideOf? ((completeLevels atr marketInfo proposal).record render) = some side := by
      rw [sideOf?_record, directionIs, directed]
    rw [approved_sided_iff_of_levels named levelsAre]
    apply imp_congr_right
    rintro ⟨reading, passes⟩
    have same := Except.ok.inj (reading.levelsAre.symm.trans levelsAre)
    rw [Prod.mk.injEq, Prod.mk.injEq] at same
    have positive := passes.trade.stopLoss
    have apart := passes.trade.apart
    rw [same.2.1] at positive apart
    rw [same.1, entryIs] at apart
    rw [targetIs positive apart, stopIs, entryIs]

end Gate

namespace Sample

/-- The gate as the runtime builds it. -/
def runtimeGate : RiskGate :=
  { Risk.Sample.riskGate with
    maxSpreadPips := 50000
    symbolSpreadLimits := Dict.empty.update [("BTC", 8000), ("XAU", 200), ("FX", 5)] }

/-- A proposal to buy without levels. -/
def barePurchase : GateProposal where
  symbol := .str "EURUSD"
  direction := "BUY"
  entryPrice := 11 / 10
  stopLoss := 0
  takeProfit := 0
  size := 1 / 100
  riskPct := 0
  details := Dict.empty

/-- A market whose spread is two thousandths. -/
def wideMarket : Record :=
  Dict.empty.update [("spread_price", .num ⟨1 / 500, "0.002"⟩),
    ("point_value", .num ⟨1 / 100000, "1e-05"⟩), ("contract_size", .int 100000)]

end Sample

theorem approved_sided_iff_bare :
    (Sample.runtimeGate.Approves
          ((completeLevels (1 / 1000) Sample.wideMarket Sample.barePurchase).record fun _ => "")
          Risk.Sample.soundAccount [] Sample.wideMarket →
        LevelsSided
          ((completeLevels (1 / 1000) Sample.wideMarket Sample.barePurchase).record
            fun _ => "")) ↔
      (WithinDistances Sample.runtimeGate
          ((completeLevels (1 / 1000) Sample.wideMarket Sample.barePurchase).record fun _ => "")
          Risk.Sample.soundAccount [] Sample.wideMarket →
        TradeSide.long.Sided (11 / 10) (completedStop .long (11 / 10) (1 / 1000) (1 / 500))
          (completedTarget .long (11 / 10) (1 / 1000) (1 / 500))) :=
  (approved_sided_iff Sample.runtimeGate (fun _ => "") .long Risk.Sample.soundAccount []
    Sample.wideMarket).2 Sample.barePurchase (1 / 1000) (1 / 500) (by decide) (by norm_num)
      (by norm_num) (by decide +kernel) (by decide +kernel) (by decide +kernel)

/-- A purchase that is completed with a range of one thousandth and a spread of two has its
stop loss above its entry, and the gate approves it. -/
theorem approved_stop_above_entry :
    Sample.runtimeGate.Approves
        ((completeLevels (1 / 1000) Sample.wideMarket Sample.barePurchase).record fun _ => "")
        Risk.Sample.soundAccount [] Sample.wideMarket ∧
      (completeLevels (1 / 1000) Sample.wideMarket Sample.barePurchase).entryPrice <
        (completeLevels (1 / 1000) Sample.wideMarket Sample.barePurchase).stopLoss :=
  ⟨RiskGate.approves_of_toOption (by decide +kernel), by decide +kernel⟩

end EaBot.Orchestration
