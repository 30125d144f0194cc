import Mathlib.Algebra.Order.Ring.Rat
import Mathlib.Data.Int.Order.Basic

/-!
# Order blocks and fair value gaps

A zone is a band of prices.  An order block is the band of a candle that a strong candle of the
other colour follows; a fair value gap is the band between the candles on both sides of a third
one.  Zones come from closed candles, which are given as four lists.
-/

namespace EaBot.Trading

/-- The policy of the detectors. -/
structure ZoneConfig where
  obLookback : Int
  obMinDisplacementAtr : ℚ
  fvgLookback : Int
  fvgMinGapAtr : ℚ
  maxRetests : Int

/-- The policy by default. -/
def ZoneConfig.default_ : ZoneConfig where
  obLookback := 20
  obMinDisplacementAtr := 1 / 2
  fvgLookback := 15
  fvgMinGapAtr := 1 / 10
  maxRetests := 1

/-- The direction of a zone. -/
inductive ZoneDirection
  | long | short
deriving DecidableEq

/-- The kinds of zones. -/
inductive ZoneType
  | orderBlock | fvg
deriving DecidableEq

/-- A zone, with the candle it comes from and, for an order block, the candle after it. -/
structure Zone where
  direction : ZoneDirection
  zoneType : ZoneType
  top : ℚ
  bottom : ℚ
  invalidationPrice : ℚ
  originIndex : Nat
  followIndex : Option Nat
deriving DecidableEq

/-- Candles, oldest first. -/
structure Candles where
  opens : List ℚ
  highs : List ℚ
  lows : List ℚ
  closes : List ℚ

namespace Candles

/-- The number of complete candles. -/
def size (candles : Candles) : Nat :=
  min (min (min candles.opens.length candles.highs.length) candles.lows.length)
    candles.closes.length

/-- The first candles. -/
def take (candles : Candles) (count : Nat) : Candles :=
  ⟨candles.opens.take count, candles.highs.take count, candles.lows.take count,
    candles.closes.take count⟩

end Candles

/-- The value at an index, which the callers keep within the list. -/
def valueAt (values : List ℚ) (index : Nat) : ℚ :=
  values.getD index 0

/-- The last values of a list. -/
def lastValues (count : Nat) (values : List ℚ) : List ℚ :=
  values.drop (values.length - count)

/-- The indexes from one on, before another one. -/
def indexesFrom (start stop : Nat) : List Nat :=
  (List.range (stop - start)).map fun offset => start + offset

/-- The first index that a detector looks at. -/
def firstIndex (size : Nat) (lookback : Int) : Nat :=
  (max 1 ((size : Int) - lookback)).toNat

/-- The order block of one candle, when it is one. -/
def orderBlockAt (config : ZoneConfig) (atr : ℚ) (candles : Candles) (index : Nat) :
    Option Zone :=
  let opened := valueAt candles.opens
  let closed := valueAt candles.closes
  let followBody := |closed (index + 1) - opened (index + 1)|
  let zone direction invalidation :=
    { direction := direction
      zoneType := .orderBlock
      top := valueAt candles.highs index
      bottom := valueAt candles.lows index
      invalidationPrice := invalidation
      originIndex := index
      followIndex := some (index + 1) : Zone }
  if followBody < config.obMinDisplacementAtr * atr then none
  else if closed index < opened index ∧ opened (index + 1) < closed (index + 1) then
    some (zone .long (valueAt candles.lows index))
  else if opened index < closed index ∧ closed (index + 1) < opened (index + 1) then
    some (zone .short (valueAt candles.highs index))
  else none

/-- The order blocks of the last candles. -/
def detectOrderBlocks (config : ZoneConfig) (atr : ℚ) (candles : Candles) : List Zone :=
  if candles.size < 3 ∨ atr ≤ 0 then []
  else
    (indexesFrom (firstIndex candles.size config.obLookback) (candles.size - 1)).filterMap
      (orderBlockAt config atr candles)

/-- The gap around one candle, when there is one. -/
def fvgAt (config : ZoneConfig) (atr : ℚ) (highs lows : List ℚ) (index : Nat) : Option Zone :=
  let gap direction bottom top invalidation :=
    if top - bottom < config.fvgMinGapAtr * atr then none
    else some
      { direction := direction
        zoneType := .fvg
        top := top
        bottom := bottom
        invalidationPrice := invalidation
        originIndex := index
        followIndex := none : Zone }
  if valueAt highs (index - 1) < valueAt lows (index + 1) then
    gap .long (valueAt highs (index - 1)) (valueAt lows (index + 1)) (valueAt highs (index - 1))
  else if valueAt highs (index + 1) < valueAt lows (index - 1) then
    gap .short (valueAt highs (index + 1)) (valueAt lows (index - 1)) (valueAt lows (index - 1))
  else none

/-- The gaps of the last candles. -/
def detectFvgs (config : ZoneConfig) (atr : ℚ) (highs lows : List ℚ) : List Zone :=
  let size := min highs.length lows.length
  if size < 3 ∨ atr ≤ 0 then []
  else
    (indexesFrom (firstIndex size config.fvgLookback) (size - 1)).filterMap
      (fvgAt config atr highs lows)

/-! ## Zones that are left -/

/-- How often the candles after a zone have come into its band, with whether the last one has. -/
def touches (candles : Candles) (zone : Zone) : List Nat → Nat × Bool → Nat
  | [], state => state.1
  | index :: rest, state =>
      let touched := decide (valueAt candles.lows index ≤ zone.top) &&
        decide (zone.bottom ≤ valueAt candles.highs index)
      touches candles zone rest (if touched && !state.2 then state.1 + 1 else state.1, touched)

/-- One of two conditions, by the direction of a zone. -/
def BySide (zone : Zone) (long short : Prop) : Prop :=
  if zone.direction = .long then long else short

instance (zone : Zone) (long short : Prop) [Decidable long] [Decidable short] :
    Decidable (BySide zone long short) :=
  inferInstanceAs (Decidable (if zone.direction = .long then long else short))

/-- A candle has filled a gap. -/
def Fills (candles : Candles) (zone : Zone) (index : Nat) : Prop :=
  BySide zone (valueAt candles.lows index ≤ zone.bottom) (zone.top ≤ valueAt candles.highs index)

instance (candles : Candles) (zone : Zone) : DecidablePred (Fills candles zone) :=
  fun _ => inferInstanceAs (Decidable (BySide _ _ _))

/-- A candle has closed behind an order block. -/
def Breaks (candles : Candles) (zone : Zone) (index : Nat) : Prop :=
  BySide zone (valueAt candles.closes index < zone.invalidationPrice)
    (zone.invalidationPrice < valueAt candles.closes index)

instance (candles : Candles) (zone : Zone) : DecidablePred (Breaks candles zone) :=
  fun _ => inferInstanceAs (Decidable (BySide _ _ _))

/-- A candle has come into a gap. -/
def Enters (candles : Candles) (zone : Zone) (index : Nat) : Prop :=
  BySide zone (valueAt candles.lows index < zone.top) (zone.bottom < valueAt candles.highs index)

instance (candles : Candles) (zone : Zone) : DecidablePred (Enters candles zone) :=
  fun _ => inferInstanceAs (Decidable (BySide _ _ _))

/-- What has become of a zone. -/
inductive Mitigation
  | fresh | touched | partiallyMitigated
deriving DecidableEq

/-- The bands that are looked for. -/
inductive BandType
  | bullish | bearish
deriving DecidableEq

/-- A band of prices; one that a detector has found keeps its zone. -/
structure Band where
  type : BandType
  top : ℚ
  bottom : ℚ
  mid : ℚ
  found : Option (Zone × Mitigation × Nat)
deriving DecidableEq

/-- The band of a zone that the later candles have left, when they have. -/
def remaining (config : ZoneConfig) (candles : Candles) (zone : Zone) : Option Band :=
  let later := indexesFrom (zone.followIndex.getD (zone.originIndex + 1) + 1) candles.size
  let band mitigation count :=
    { type := if zone.direction = .long then .bullish else .bearish
      top := zone.top
      bottom := zone.bottom
      mid := (zone.top + zone.bottom) / 2
      found := some (zone, mitigation, count) : Band }
  match zone.zoneType with
  | .orderBlock =>
      let count := touches candles zone later (0, false)
      if config.maxRetests < count ∨ later.any fun index => Breaks candles zone index then none
      else some (band (if count = 0 then .fresh else .touched) count)
  | .fvg =>
      if later.any fun index => Fills candles zone index then none
      else some (band (if later.any fun index => Enters candles zone index then
        .partiallyMitigated else .fresh) 0)

/-- The bands of the zones that are left after the closed candles; the last candle is still
forming. -/
def detectEntryZones (candles : Candles) (atr : ℚ) (config : Option ZoneConfig) : List Band :=
  let size := candles.size - 1
  if size < 3 ∨ atr ≤ 0 then []
  else
    let closed := candles.take size
    let config := config.getD ZoneConfig.default_
    (detectOrderBlocks config atr closed ++
      detectFvgs config atr closed.highs closed.lows).filterMap (remaining config closed)

end EaBot.Trading
