import EaBot.Execution.Fanout
import EaBot.Foundation.Grid

/-!
# The lots of a fan-out

The lot of a terminal is a fixed one, one that risks a part of the account's equity, or the
volume of the signal.  The engine holds it between its own minimum and the cap of the
terminal.  Only a lot by risk is fitted to the broker after that: it is raised to the broker's
minimum and rounded to the nearest step.  Every lot is rounded to four decimal places.

The broker's maximum is never read, and the nearest step may lie above the cap.
-/

namespace EaBot.Execution

open EaBot.Foundation

/-! ## Lawful lots -/

/-- What a lot of a terminal has to obey. -/
structure LotLimits where
  info : SizingInfo
  volumeMax : ℚ
  cap : ℚ

namespace LotLimits

variable (limits : LotLimits)

/-- The largest lot. -/
def top : ℚ :=
  min limits.volumeMax limits.cap

/-- A lot is none, or it is a number of steps between the bounds. -/
def Lawful (lot : ℚ) : Prop :=
  lot = 0 ∨ limits.info.volumeMin ≤ lot ∧ lot ≤ limits.top ∧ OnGrid limits.info.volumeStep lot

/-- The bounds are in order, and the broker's minimum and step are regular: the minimum is a
number of steps, and the step has four decimal places. -/
structure Regular : Prop where
  volumeStep : 0 < limits.info.volumeStep
  places : OnGrid (1 / 10 ^ 4) limits.info.volumeStep
  volumeMin : 0 ≤ limits.info.volumeMin
  onGrid : OnGrid limits.info.volumeStep limits.info.volumeMin
  ordered : limits.info.volumeMin ≤ limits.volumeMax
  cap : 0 ≤ limits.cap

/-- The lot is below the middle above the last step within the bounds, or in this middle above
an even step. -/
def BelowTop (lot : ℚ) : Prop :=
  2 * lot < 2 * snapDown limits.info.volumeStep limits.top + limits.info.volumeStep ∨
    2 * lot = 2 * snapDown limits.info.volumeStep limits.top + limits.info.volumeStep ∧
      (limits.top / limits.info.volumeStep).floor % 2 = 0

/-- The lot that is fitted to the broker's step. -/
def FitsStep (lot fitted : ℚ) : Prop :=
  if 0 < limits.info.volumeStep then
    ∃ point, RoundsTo limits.info.volumeStep lot point ∧
      fitted =
        if 0 < limits.info.volumeMin ∧ point < limits.info.volumeMin then limits.info.volumeMin
        else point
  else fitted = lot

end LotLimits

/-- The symbol of the terminal is known with what sizing reads of it. -/
def TerminalVisit.showing (visit : TerminalVisit) (info : SizingInfo) : TerminalVisit :=
  { visit with sizing := .ok (some info), clamping := .ok (some info) }

/-- The cap of a terminal. -/
def capOf (config : EngineConfig) (target : Target) : ℚ :=
  numberOr target.maxLotPerTrade config.maxVolume.value

/-- The lot that a terminal is asked for, and whether it is sized by risk. -/
def askedLot (visit : TerminalVisit) (target : Target) (riskPrice fallbackVolume : ℚ) :
    Except String (ℚ × Bool) :=
  if 0 < numberOr target.fixedLot 0 then .ok (numberOr target.fixedLot 0, false)
  else if 0 < numberOr target.riskPerTradePct 0 ∧ 0 < riskPrice then
    (riskLot visit (numberOr target.riskPerTradePct 0) riskPrice).map fun lot => (lot, true)
  else .ok (fallbackVolume, false)

/-- The lot between the minimum of the engine and the cap. -/
def heldLot (config : EngineConfig) (target : Target) (lot : ℚ) : ℚ :=
  max config.minVolume.value (min lot (capOf config target))

/-- When a lot becomes lawful as it is fitted to the broker.  With regular metadata it has to
be below the middle above the last step within the bounds. -/
def FitsLawfully (limits : LotLimits) (lot : ℚ) : Prop :=
  (limits.Regular → limits.BelowTop (max lot limits.info.volumeMin)) ∧
    (¬limits.Regular → ∃ fitted lawful,
      limits.FitsStep
        (if 0 < limits.info.volumeMin then max lot limits.info.volumeMin else lot) fitted ∧
        limits.Lawful lawful ∧ RoundsTo (1 / 10 ^ 4) fitted lawful)

/-- When the lot of a terminal becomes lawful.  One that is not sized by risk has to be lawful
when it is asked for, up to the rounding. -/
def AsksLawfully (config : EngineConfig) (limits : LotLimits) (target : Target) :
    Except String (ℚ × Bool) → Prop
  | .error _ => True
  | .ok (lot, false) =>
      0 < lot → ∃ lawful, limits.Lawful lawful ∧
        RoundsTo (1 / 10 ^ 4) (heldLot config target lot) lawful
  | .ok (lot, true) => 0 < lot → FitsLawfully limits (heldLot config target lot)

/-- The limits of the lots of a terminal. -/
def limitsOf (config : EngineConfig) (target : Target) (info : SizingInfo) (volumeMax : ℚ) :
    LotLimits :=
  ⟨info, volumeMax, capOf config target⟩

/-! ## The lot of a terminal -/

section Clamped

variable {limits : LotLimits} {lot : ℚ}

/-- The lot within the broker's bounds and steps is the one that is fitted to the step after
it is raised to the minimum. -/
theorem fitsStep_iff {fitted : ℚ} :
    limits.FitsStep
        (if 0 < limits.info.volumeMin then max lot limits.info.volumeMin else lot) fitted ↔
      fitted = clampLot lot limits.info := by
  unfold LotLimits.FitsStep clampLot
  dsimp only
  split
  next positive =>
    constructor
    · rintro ⟨point, rounded, fits⟩
      rw [roundsTo_iff positive] at rounded
      rw [fits, rounded]
    · intro fits
      exact ⟨_, (roundsTo_iff positive).mpr rfl, fits⟩
  next => exact Iff.rfl

/-- Up to the rounding, a number is the lawful one that it is rounded to. -/
theorem lawful_roundTo_iff :
    limits.Lawful (Text.roundTo 4 lot) ↔
      ∃ lawful, limits.Lawful lawful ∧ RoundsTo (1 / 10 ^ 4) lot lawful := by
  constructor
  · intro lawful
    exact ⟨_, lawful, roundsTo_places_iff.mpr rfl⟩
  · rintro ⟨lawful, allowed, rounded⟩
    rwa [roundsTo_places_iff.mp rounded]

theorem LotLimits.Regular.top_nonneg (regular : limits.Regular) : 0 ≤ limits.top :=
  le_min (regular.volumeMin.trans regular.ordered) regular.cap

/-- With regular metadata a fitted lot is lawful when the lot is below the middle above the
last step within the bounds. -/
theorem lawful_clampLot_iff (regular : limits.Regular) (nonneg : 0 ≤ lot) :
    limits.Lawful (Text.roundTo 4 (clampLot lot limits.info)) ↔
      limits.BelowTop (max lot limits.info.volumeMin) := by
  have positive := regular.volumeStep
  have raised : (if 0 < limits.info.volumeMin then max lot limits.info.volumeMin else lot) =
      max lot limits.info.volumeMin := by
    split
    next => rfl
    next none =>
      rw [le_antisymm (not_lt.mp none) regular.volumeMin, max_eq_left nonneg]
  generalize wished : max lot limits.info.volumeMin = raisedLot at raised ⊢
  have aboveMin : limits.info.volumeMin ≤
      Text.roundHalfEven (raisedLot / limits.info.volumeStep) * limits.info.volumeStep :=
    le_roundHalfEven_mul positive regular.onGrid (wished ▸ le_max_right _ _)
  have point := OnGrid.mul limits.info.volumeStep
    (Text.roundHalfEven (raisedLot / limits.info.volumeStep))
  have clamped : clampLot lot limits.info =
      Text.roundHalfEven (raisedLot / limits.info.volumeStep) * limits.info.volumeStep := by
    rw [clampLot]
    dsimp only
    rw [wished, raised, if_pos positive, if_neg fun short => absurd short.2 (not_lt.mpr aboveMin)]
  rw [clamped, roundTo_of_onGrid (regular.places.trans point), LotLimits.BelowTop,
    ← roundHalfEven_mul_le_iff positive]
  constructor
  · rintro (none | ⟨-, within, -⟩)
    · rw [none]
      exact regular.top_nonneg
    · exact within
  · intro within
    exact .inr ⟨aboveMin, within, point⟩

/-- A fitted lot is lawful exactly when it is fitted lawfully. -/
theorem lawful_fitted_iff (nonneg : limits.Regular → 0 ≤ lot) :
    limits.Lawful (Text.roundTo 4 (clampLot lot limits.info)) ↔ FitsLawfully limits lot := by
  by_cases regular : limits.Regular
  · rw [lawful_clampLot_iff regular (nonneg regular)]
    exact ⟨fun below => ⟨fun _ => below, fun other => absurd regular other⟩,
      fun fits => fits.1 regular⟩
  · rw [lawful_roundTo_iff]
    constructor
    · rintro ⟨lawful, allowed, rounded⟩
      exact ⟨fun other => absurd other regular,
        fun _ => ⟨_, lawful, fitsStep_iff.mpr rfl, allowed, rounded⟩⟩
    · rintro ⟨-, fits⟩
      rcases fits regular with ⟨fitted, lawful, fitted', allowed, rounded⟩
      rw [fitsStep_iff.mp fitted'] at rounded
      exact ⟨lawful, allowed, rounded⟩

end Clamped

section Terminal

variable {config : EngineConfig} {visit : TerminalVisit} {target : Target}
  {riskPrice fallbackVolume lot : ℚ} {info : SizingInfo}

theorem held_nonneg (lotNonneg : 0 ≤ lot) (capNonneg : 0 ≤ capOf config target) :
    0 ≤ heldLot config target lot :=
  (le_min lotNonneg capNonneg).trans (le_max_right _ _)

/-- The lot of a terminal is the rounded one that it is asked for, which is fitted to the broker
only when it is sized by risk. -/
theorem sizeForTerminal_eq :
    sizeForTerminal config (visit.showing info) target riskPrice fallbackVolume =
      match askedLot (visit.showing info) target riskPrice fallbackVolume with
      | .error _ => 0
      | .ok (lot, byRisk) =>
          if lot ≤ 0 then 0
          else
            Text.roundTo 4
              (if byRisk then clampLot (heldLot config target lot) info
              else heldLot config target lot) := by
  generalize asked : askedLot (visit.showing info) target riskPrice fallbackVolume = sized
  unfold askedLot at asked
  unfold sizeForTerminal
  dsimp only
  rw [asked]
  cases sized with
  | error raised => rfl
  | ok sized =>
      rcases sized with ⟨lot, byRisk⟩
      cases byRisk with
      | false => rfl
      | true => rfl

end Terminal

namespace Sample

/-- A symbol that trades in hundredths of a lot. -/
def hundredths : SizingInfo where
  tradeTickValue := 1
  tradeTickSize := 1 / 100
  volumeStep := 1 / 100
  volumeMin := 1 / 100

/-- A terminal whose account has an equity. -/
def fundedVisit : TerminalVisit where
  attached := .ok true
  resolved := .ok "XAUUSD"
  tick := .ok none
  equity := .ok (some 10000)
  sizing := .ok none
  clamping := .ok none
  reply := .error ""

/-- A terminal with a fixed lot of 0.123. -/
def fixedTarget : Target :=
  ⟨.int 1, .str "fixed", some (123 / 1000), none, none⟩

/-- A terminal that risks one percent and caps its lot at 0.055. -/
def cappedTarget : Target :=
  ⟨.int 2, .str "capped", none, some (55 / 1000), some 1⟩

end Sample

end EaBot.Execution
