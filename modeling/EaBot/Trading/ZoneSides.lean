import EaBot.Trading.EntryZone

/-!
# The sides of a plan's stop and target

The stop of a plan that buys belongs below the entry and the target above it; a plan that sells
has them the other way round.  The target always lies in the direction of the plan.  The stop
lies on its side exactly when the price has not passed the far edge of the nearest band, and
the three prices are not rounded to one.
-/

namespace EaBot.Trading

open EaBot.Foundation

/-- The stop and the target lie on their sides of the entry. -/
def SidesRight (plan : EntryPlan) : Prop :=
  match plan.direction with
  | .buy => plan.stopLoss < plan.entry ∧ plan.entry < plan.takeProfit
  | .sell => plan.takeProfit < plan.entry ∧ plan.entry < plan.stopLoss

/-- A plan comes from the planner, or from a gate, which asks for a price at the band. -/
inductive Returned (inputs : ZoneInputs) (options : PlanOptions) (plan : EntryPlan) : Prop
  | built (success : buildEntryPlan inputs options = .ok (some plan))
  | fired (gate : ZoneEntryGate) (symbol : String) (now : ℚ) (asked : options = gateOptions true)
      (success : (evaluate gate symbol inputs now).1 = some plan)

/-- A band is the first of the nearest among the wanted ones. -/
def Nearest (zones : List Band) (want : BandType) (price : ℚ) (band : Band) : Prop :=
  ∃ before after, zones.filter (fun zone => zone.type = want) = before ++ band :: after ∧
    (∀ other ∈ before, zoneDistance band price < zoneDistance other price) ∧
      ∀ other ∈ after, zoneDistance band price ≤ zoneDistance other price

/-- The price has not passed the edge of a band at which the stop lies. -/
def NotPassed (band : Band) (price : ℚ) : BandType → Prop
  | .bullish => band.bottom < price
  | .bearish => price < band.top

/-- The entry is not rounded to the same price as the stop or the target. -/
def Apart (band : Band) (price rr : ℚ) (type : BandType) : Prop :=
  Text.roundTo 6 (farEdge band type) ≠ Text.roundTo 6 price ∧
    Text.roundTo 6 price ≠ Text.roundTo 6 (targetOf type price rr |price - farEdge band type|)

/-! ## What a plan is made of -/

theorem pickZone_eq_some_iff {zones : List Band} {want : BandType} {price : ℚ} {band : Band} :
    pickZone zones want price = some band ↔ Nearest zones want price band := by
  unfold pickZone Nearest
  rw [Option.map_eq_some_iff]
  constructor
  · rintro ⟨⟨best, others⟩, taken, rfl⟩
    rcases Selection.exists_of_takeHighest taken with ⟨before, after, split, -, highest⟩
    exact ⟨before, after, split, fun other member => neg_lt_neg_iff.mp (highest.lower other member),
      fun other member => neg_le_neg_iff.mp (highest.noHigher other member)⟩
  · rintro ⟨before, after, split, lower, noHigher⟩
    have highest : Selection.FirstHighest (fun zone => -zoneDistance zone price) before band
        after :=
      ⟨fun other member => neg_lt_neg (lower other member),
        fun other member => neg_le_neg (noHigher other member)⟩
    exact ⟨_, by rw [split, Selection.takeHighest_of_firstHighest highest], rfl⟩

/-- The prices of a plan at a band, which has some risk. -/
structure Planned (inputs : ZoneInputs) (band : Band) (type : BandType) (plan : EntryPlan) :
    Prop where
  risk : 0 < |inputs.triggerPrice - farEdge band type|
  direction : plan.direction = planDirection type
  entry : plan.entry = Text.roundTo 6 inputs.triggerPrice
  stopLoss : plan.stopLoss = Text.roundTo 6 (farEdge band type)
  takeProfit : plan.takeProfit = Text.roundTo 6
    (targetOf type inputs.triggerPrice inputs.rr |inputs.triggerPrice - farEdge band type|)

theorem planned_of_planAt {inputs : ZoneInputs} {options : PlanOptions} {bias : MarketBias}
    {type : BandType} {band : Band} {plan : EntryPlan}
    (success : planAt inputs options bias type band = some plan) :
    Planned inputs band type plan := by
  unfold planAt at success
  simp only [Option.ite_none_left_eq_some, Option.some.injEq] at success
  rcases success with ⟨-, -, some, -, -, rfl⟩
  exact ⟨not_le.mp some, rfl, rfl, rfl, rfl⟩

/-- What the planner has made a plan from. -/
structure Source (inputs : ZoneInputs) (options : PlanOptions) (plan : EntryPlan)
    (zones : List Band) (want : BandType) (band : Band) : Prop where
  found : zonesOf inputs = .ok zones
  direction : wanted (computeBias inputs.htfCloses options.minBiasStrength).direction = some want
  nearest : Nearest zones want inputs.triggerPrice band
  planned : Planned inputs band want plan

theorem source_of_built {inputs : ZoneInputs} {options : PlanOptions} {plan : EntryPlan}
    (success : buildEntryPlan inputs options = .ok (some plan)) :
    ∃ zones want band, Source inputs options plan zones want band := by
  unfold buildEntryPlan at success
  split at success
  · cases success
  · dsimp only at success
    split at success
    case h_1 => cases success
    case h_2 want direction =>
        rcases of_bind_eq_ok success with ⟨zones, found, picked⟩
        cases nearest : pickZone zones want inputs.triggerPrice with
        | none =>
            rw [nearest] at picked
            cases picked
        | some band =>
            rw [nearest] at picked
            have made := Except.ok.inj picked
            exact ⟨zones, want, band, found, direction, pickZone_eq_some_iff.mp nearest,
              planned_of_planAt made⟩

theorem built_of_fired {gate : ZoneEntryGate} {symbol : String} {inputs : ZoneInputs} {now : ℚ}
    {plan : EntryPlan} (success : (evaluate gate symbol inputs now).1 = some plan) :
    buildEntryPlan inputs (gateOptions true) = .ok (some plan) := by
  unfold evaluate at success
  split at success
  · cases success
  case h_2 live built =>
      cases success
      exact built
  · split at success <;> cases success

theorem Returned.source {inputs : ZoneInputs} {options : PlanOptions} {plan : EntryPlan}
    (returned : Returned inputs options plan) :
    ∃ zones want band, Source inputs options plan zones want band := by
  cases returned with
  | built success => exact source_of_built success
  | fired gate symbol now asked success =>
      rw [asked]
      exact source_of_built (built_of_fired success)

theorem Nearest.unique {zones : List Band} {want : BandType} {price : ℚ} {band other : Band}
    (nearest : Nearest zones want price band) (nearest' : Nearest zones want price other) :
    band = other :=
  Option.some.inj ((pickZone_eq_some_iff.mpr nearest).symm.trans
    (pickZone_eq_some_iff.mpr nearest'))

/-! ## The sides -/

/-- The target lies in the direction of the plan. -/
theorem targetOf_bounds {rr risk : ℚ} (positive : 0 < rr) (some : 0 < risk) (entry : ℚ) :
    entry < targetOf .bullish entry rr risk ∧ targetOf .bearish entry rr risk < entry := by
  have reward : 0 < rr * risk := mul_pos positive some
  unfold targetOf
  constructor <;> dsimp only <;> linarith

/-- The sides of a plan are right exactly when the price has not passed the far edge of its band
and is not rounded to the stop or the target. -/
theorem Planned.sidesRight_iff {inputs : ZoneInputs} {band : Band} {type : BandType}
    {plan : EntryPlan} (planned : Planned inputs band type plan) (positive : 0 < inputs.rr) :
    SidesRight plan ↔ NotPassed band inputs.triggerPrice type ∧
      Apart band inputs.triggerPrice inputs.rr type := by
  have target := targetOf_bounds positive planned.risk inputs.triggerPrice
  cases type with
  | bullish =>
      rw [SidesRight, planned.direction]
      change plan.stopLoss < plan.entry ∧ plan.entry < plan.takeProfit ↔ _
      rw [planned.stopLoss, planned.entry, planned.takeProfit, Text.roundTo_lt_iff,
        Text.roundTo_lt_iff, and_iff_right target.1, and_assoc]
      rfl
  | bearish =>
      rw [SidesRight, planned.direction]
      change plan.takeProfit < plan.entry ∧ plan.entry < plan.stopLoss ↔ _
      rw [planned.stopLoss, planned.entry, planned.takeProfit, Text.roundTo_lt_iff,
        Text.roundTo_lt_iff, and_iff_right target.2]
      constructor
      · rintro ⟨reward, ahead, stop⟩
        exact ⟨ahead, stop.symm, reward.symm⟩
      · rintro ⟨ahead, stop, reward⟩
        exact ⟨reward.symm, ahead, stop.symm⟩

/-- A risk and a reward of more than a unit of the last place keep the prices of a plan apart. -/
theorem apart_of_far {band : Band} {price rr : ℚ} {type : BandType}
    (risk : 2 * Text.halfUnit 6 < |price - farEdge band type|)
    (reward : 2 * Text.halfUnit 6 < rr * |price - farEdge band type|) :
    Apart band price rr type := by
  constructor
  · rcases lt_abs.mp risk with above | below
    · exact (Text.roundTo_lt_of_far (by linarith)).ne
    · exact (Text.roundTo_lt_of_far (by linarith)).ne'
  · cases type with
    | bullish =>
        refine (Text.roundTo_lt_of_far ?_).ne
        change price + _ < price + 1 * rr * _
        linarith
    | bearish =>
        refine (Text.roundTo_lt_of_far ?_).ne'
        change price + -1 * rr * _ + _ < price
        linarith

/-- Whatever the inputs, the stop and the target of a plan lie on their sides exactly when the
price has not passed the far edge of the nearest wanted band and is not rounded to the stop or
the target. -/
theorem sides_iff {inputs : ZoneInputs} {options : PlanOptions} {plan : EntryPlan}
    (positive : 0 < inputs.rr) (returned : Returned inputs options plan) :
    SidesRight plan ↔ ∃ zones want band, zonesOf inputs = .ok zones ∧
      wanted (computeBias inputs.htfCloses options.minBiasStrength).direction = some want ∧
        Nearest zones want inputs.triggerPrice band ∧
          NotPassed band inputs.triggerPrice want ∧
            Apart band inputs.triggerPrice inputs.rr want := by
  rcases returned.source with ⟨zones, want, band, source⟩
  rw [source.planned.sidesRight_iff positive]
  constructor
  · rintro ⟨ahead, apart⟩
    exact ⟨zones, want, band, source.found, source.direction, source.nearest, ahead, apart⟩
  · rintro ⟨zones', want', band', found, direction, nearest, ahead, apart⟩
    cases source.found.symm.trans found
    cases source.direction.symm.trans direction
    cases source.nearest.unique nearest
    exact ⟨ahead, apart⟩

/-! ### A price below a gap -/

namespace Sample

/-- A gap from 10 to 12 in a rising market, with a live price. -/
def gap (price : ℚ) : ZoneInputs where
  htfCloses := List.replicate 50 1 ++ [2]
  zoneHighs := [10, 12, 14, 14]
  zoneLows := [9, 10, 12, 12]
  triggerPrice := price
  atr := 2
  rr := 2
  zoneOpens := some [10, 11, 13, 13]
  zoneCloses := some [10, 11, 13, 13]
  zoneConfig := none
  zoneToleranceAtr := 1 / 4
  zoneProximityAtr := 4
  entryTriggerAtr := 2

/-- The plan at the gap, with its prices. -/
def gapPlan (entry stopLoss takeProfit risk reward : ℚ) : EntryPlan where
  direction := .buy
  entry := entry
  stopLoss := stopLoss
  takeProfit := takeProfit
  zoneTop := 12
  zoneBottom := 10
  riskDistance := risk
  rewardDistance := reward
  rr := 2
  bias := ⟨.bullish, 1⟩

/-- The gate has no plan yet. -/
def emptyGate : ZoneEntryGate :=
  ⟨Dict.empty, 200⟩

end Sample

/-- A price within the gap is planned with the stop below it. -/
theorem sides_within_gap :
    SidesRight (Sample.gapPlan 11 10 13 1 2) ↔ ∃ zones want band,
      zonesOf (Sample.gap 11) = .ok zones ∧
        wanted (computeBias (Sample.gap 11).htfCloses
            (gateOptions true).minBiasStrength).direction = some want ∧
          Nearest zones want (Sample.gap 11).triggerPrice band ∧
            NotPassed band (Sample.gap 11).triggerPrice want ∧
              Apart band (Sample.gap 11).triggerPrice (Sample.gap 11).rr want :=
  sides_iff (by decide) (.fired Sample.emptyGate "XAUUSD" 0 rfl (by decide +kernel))

/-- A price that has fallen through the gap is planned with the stop above it. -/
theorem not_sidesRight : ¬ ∀ inputs options plan, 0 < inputs.rr →
    Returned inputs options plan → SidesRight plan := by
  intro right
  have sides := right (Sample.gap 9) (gateOptions true) (Sample.gapPlan 9 10 11 1 2) (by decide)
    (.fired Sample.emptyGate "XAUUSD" 0 rfl (by decide +kernel))
  exact absurd sides.1 (by decide)

end EaBot.Trading
