import EaBot.Foundation.Selection
import EaBot.Trading.EntryDetectors
import EaBot.Trading.ZoneBias

/-!
# The plan of an entry at a zone

A plan enters at the live price when it is near the nearest band in the direction of the bias.
The stop lies at the far edge of the band, and the target a multiple of the risk away, in the
direction of the bias.  A gate remembers for each symbol that a plan waits for the price.

The risk is a distance, and near a band may mean on either side of it.  When the price has
passed the far edge, the stop lies on the side of the target.
-/

namespace EaBot.Trading

open EaBot.Foundation

/-! ## Bands without closes -/

/-- The exception for an index outside of a list. -/
def indexError : String :=
  "list index out of range"

/-- The value at an index. -/
def indexed (values : List ℚ) (index : Nat) : Except String ℚ :=
  match values[index]? with
  | some value => .ok value
  | none => .error indexError

/-- The band between two prices. -/
def bandOf (type : BandType) (bottom top : ℚ) : Band :=
  ⟨type, top, bottom, (top + bottom) / 2, none⟩

/-- The gap around one candle, when there is one. -/
def gapAt (highs lows : List ℚ) (index : Nat) : Except String (Option Band) := do
  let lowNext ← indexed lows (index + 1)
  let highBefore ← indexed highs (index - 1)
  if highBefore < lowNext then
    return some (bandOf .bullish highBefore lowNext)
  let highNext ← indexed highs (index + 1)
  let lowBefore ← indexed lows (index - 1)
  if highNext < lowBefore then
    return some (bandOf .bearish highNext lowBefore)
  return none

/-- The last gaps of the candles. -/
def findFairValueGaps (highs lows : List ℚ) : Except String (List Band) := do
  if highs.length < 4 ∨ lows.length < 4 then
    return []
  let gaps ← (indexesFrom (max 1 (highs.length - 15)) (highs.length - 1)).mapM (gapAt highs lows)
  let bands := gaps.filterMap id
  return bands.drop (bands.length - 5)

/-- The last candle of each colour beyond a price, among candles that are looked at from the last
one back. -/
def lastBodies (opens highs lows : List ℚ) (price : ℚ) :
    List Nat → Option (ℚ × ℚ) × Option (ℚ × ℚ) → Except String (Option (ℚ × ℚ) × Option (ℚ × ℚ))
  | [], found => .ok found
  | index :: rest, (bullish, bearish) => do
      let opened ← indexed opens index
      let high ← indexed highs index
      let low ← indexed lows index
      -- The close is that of the next candle's open.
      let closed ← indexed opens (index + 1)
      let bullish :=
        if closed < opened ∧ high ≤ price ∧ bullish = none then some (low, high) else bullish
      let bearish :=
        if opened < closed ∧ price ≤ low ∧ bearish = none then some (low, high) else bearish
      if bullish.isSome ∧ bearish.isSome then return (bullish, bearish)
      lastBodies opens highs lows price rest (bullish, bearish)

/-- The bands of the last swing, when no candle gives one. -/
def swingBands (recentHigh recentLow : ℚ) : List Band :=
  let range := if recentHigh - recentLow ≠ 0 then recentHigh - recentLow
    else if recentLow ≠ 0 then recentLow / 1000 else 1
  let band := max (range / 10) (1 / 10 ^ 9)
  (if 0 < recentHigh then
      [⟨.bearish, recentHigh, recentHigh - band, recentHigh - band / 2, none⟩] else []) ++
    if 0 < recentLow then
      [⟨.bullish, recentLow + band, recentLow, recentLow + band / 2, none⟩] else []

/-- The order blocks of the last candles. -/
def findOrderBlocks (highs lows : List ℚ) (opens : Option (List ℚ)) :
    Except String (List Band) := do
  if highs.length < 10 ∨ lows.length < 10 then
    return []
  let size := highs.length
  let window := min 20 size
  let recentHigh := (lastValues window highs).foldl max (valueAt (lastValues window highs) 0)
  let recentLow := (lastValues window lows).foldl min (valueAt (lastValues window lows) 0)
  let opens := opens.getD []
  let bodies ← if opens.length = size then
      lastBodies opens highs lows (valueAt highs (size - 1))
        (indexesFrom (size - window) (size - 1)).reverse (none, none)
    else .ok (none, none)
  let bands := (bodies.1.map fun body => bandOf .bullish body.1 body.2).toList ++
    (bodies.2.map fun body => bandOf .bearish body.1 body.2).toList
  return if bands = [] then swingBands recentHigh recentLow else bands

/-! ## The nearest band -/

/-- The distance of a price from a band; within the band it is zero. -/
def zoneDistance (band : Band) (price : ℚ) : ℚ :=
  if band.bottom ≤ price ∧ price ≤ band.top then 0
  else if band.top < price then price - band.top
  else band.bottom - price

/-- The nearest of the wanted bands, the first one of several. -/
def pickZone (zones : List Band) (want : BandType) (price : ℚ) : Option Band :=
  (Selection.takeHighest (fun band => -zoneDistance band price)
    (zones.filter fun band => band.type = want)).map Prod.fst

/-! ## Plans -/

/-- What a plan is made from. -/
structure ZoneInputs where
  htfCloses : List ℚ
  zoneHighs : List ℚ
  zoneLows : List ℚ
  triggerPrice : ℚ
  atr : ℚ
  rr : ℚ
  zoneOpens : Option (List ℚ)
  zoneCloses : Option (List ℚ)
  zoneConfig : Option ZoneConfig
  zoneToleranceAtr : ℚ
  zoneProximityAtr : ℚ
  entryTriggerAtr : ℚ

/-- What is asked of a plan. -/
structure PlanOptions where
  maxRiskAtr : ℚ
  minBiasStrength : ℚ
  requireInsideZone : Bool

/-- The direction of a plan. -/
inductive PlanDirection
  | buy | sell
deriving DecidableEq

/-- The direction of a plan at a band. -/
def planDirection : BandType → PlanDirection
  | .bullish => .buy
  | .bearish => .sell

/-- The plan of an entry. -/
structure EntryPlan where
  direction : PlanDirection
  entry : ℚ
  stopLoss : ℚ
  takeProfit : ℚ
  zoneTop : ℚ
  zoneBottom : ℚ
  riskDistance : ℚ
  rewardDistance : ℚ
  rr : ℚ
  bias : MarketBias
deriving DecidableEq

/-- The bands that a plan may use. -/
def zonesOf (inputs : ZoneInputs) : Except String (List Band) :=
  match inputs.zoneCloses with
  | some closes =>
      .ok (detectEntryZones ⟨inputs.zoneOpens.getD [], inputs.zoneHighs, inputs.zoneLows, closes⟩
        inputs.atr inputs.zoneConfig)
  | none => do
      let gaps ← findFairValueGaps inputs.zoneHighs inputs.zoneLows
      let blocks ← findOrderBlocks inputs.zoneHighs inputs.zoneLows inputs.zoneOpens
      return gaps ++ blocks

/-- The edge of a band at which the stop lies. -/
def farEdge (band : Band) : BandType → ℚ
  | .bullish => band.bottom
  | .bearish => band.top

/-- The target of an entry. -/
def targetOf (type : BandType) (entry rr risk : ℚ) : ℚ :=
  match type with
  | .bullish => entry + 1 * rr * risk
  | .bearish => entry + -1 * rr * risk

/-- The plan at a band, when the price is near enough and the risk is not too wide. -/
def planAt (inputs : ZoneInputs) (options : PlanOptions) (bias : MarketBias) (type : BandType)
    (band : Band) : Option EntryPlan :=
  let price := inputs.triggerPrice
  let atr := inputs.atr
  let distance := zoneDistance band price
  let stopLoss := farEdge band type
  let risk := |price - stopLoss|
  let takeProfit := targetOf type price inputs.rr risk
  let tolerance :=
    if 0 < atr then max (inputs.zoneToleranceAtr * atr) 0 else max |band.top - band.bottom| 0
  let window := if 0 < atr then max tolerance (inputs.entryTriggerAtr * atr) else tolerance
  let inside := band.bottom - tolerance ≤ price ∧ price ≤ band.top + tolerance
  if band.top ≤ 0 ∨ band.bottom ≤ 0 ∨ band.top ≤ band.bottom then none
  else if 0 < atr ∧ 0 < inputs.zoneProximityAtr ∧ inputs.zoneProximityAtr * atr < distance then none
  else if risk ≤ 0 then none
  else if 0 < atr ∧ 0 < options.maxRiskAtr ∧ options.maxRiskAtr * atr < risk then none
  else if options.requireInsideZone ∧ ¬ inside ∧ window < distance then none
  else some
    { direction := planDirection type
      entry := Text.roundTo 6 price
      stopLoss := Text.roundTo 6 stopLoss
      takeProfit := Text.roundTo 6 takeProfit
      zoneTop := Text.roundTo 6 band.top
      zoneBottom := Text.roundTo 6 band.bottom
      riskDistance := Text.roundTo 6 risk
      rewardDistance := Text.roundTo 6 |takeProfit - price|
      rr := inputs.rr
      bias := bias }

/-- The bands that a bias wants. -/
def wanted : BiasDirection → Option BandType
  | .bullish => some .bullish
  | .bearish => some .bearish
  | .neutral => none

/-- The plan of an entry. -/
def buildEntryPlan (inputs : ZoneInputs) (options : PlanOptions) :
    Except String (Option EntryPlan) :=
  if inputs.triggerPrice ≤ 0 then .ok none
  else
    let bias := computeBias inputs.htfCloses options.minBiasStrength
    match wanted bias.direction with
    | none => .ok none
    | some want => do
        let zones ← zonesOf inputs
        return (pickZone zones want inputs.triggerPrice).bind (planAt inputs options bias want)

/-! ## The gate -/

/-- A plan that waits for the price. -/
structure PendingZone where
  direction : PlanDirection
  zoneTop : ℚ
  zoneBottom : ℚ
  rr : ℚ
  atr : ℚ
  ts : ℚ

/-- The gate: the waiting plans of the symbols, of which there are not too many. -/
structure ZoneEntryGate where
  pending : Dict String PendingZone
  maxPending : Nat

/-- What the gate asks of a plan that is to be executed, or to be waited for. -/
def gateOptions (requireInsideZone : Bool) : PlanOptions :=
  ⟨5 / 2, 0, requireInsideZone⟩

/-- Remember a plan; the oldest one goes when there are too many. -/
def remember (gate : ZoneEntryGate) (symbol : String) (waiting : PendingZone) : ZoneEntryGate :=
  let pending :=
    if gate.pending.get symbol = none ∧ gate.maxPending ≤ gate.pending.keys.length then
      match gate.pending.keys with
      | oldest :: _ => gate.pending.erase oldest
      | [] => gate.pending
    else gate.pending
  { gate with pending := pending.set symbol waiting }

/-- The plan to be executed now, when there is one, and the gate after it. -/
def evaluate (gate : ZoneEntryGate) (symbol : String) (inputs : ZoneInputs) (now : ℚ) :
    Option EntryPlan × ZoneEntryGate :=
  match buildEntryPlan inputs (gateOptions true) with
  | .error _ => (none, gate)
  | .ok (some live) => (some live, { gate with pending := gate.pending.erase symbol })
  | .ok none =>
      match buildEntryPlan inputs (gateOptions false) with
      | .error _ => (none, gate)
      | .ok (some waiting) =>
          (none, remember gate symbol ⟨waiting.direction, waiting.zoneTop, waiting.zoneBottom,
            inputs.rr, inputs.atr, now⟩)
      | .ok none => (none, { gate with pending := gate.pending.erase symbol })

end EaBot.Trading
