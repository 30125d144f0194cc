import EaBot.Execution.OrderBuilder
import EaBot.Foundation.Grid
import EaBot.Risk.GateLimits

/-!
# The final volume

The last step of sizing bounds the lot by the operator's cap and then by the broker's: it is
cut to the broker's maximum, snapped down to the broker's step and dropped when it is below
the broker's minimum.  A maximum of zero states no bound.

The order builder bounds the volume once more by the same metadata, with a slack of its own
before it snaps.  A volume that the first step yields is left as it is by the second one.
-/

namespace EaBot.Orchestration

open EaBot.Foundation EaBot.Execution

/-- What sizing reads of a symbol's specification. -/
structure BrokerSpecification extends Risk.SymbolSpecification where
  commission : ℚ
  commissionSource : String
  minVolume : ℚ
  maxVolume : ℚ
  volumeStep : ℚ

/-- The knobs of sizing.  `getSymbolSpecification` is what the broker says about a symbol and
`render` is the way a number prints. -/
structure LotSizing where
  defaultRiskPct : ℚ
  forceRiskSizing : Bool
  maxLotPerTrade : ℚ
  getSymbolSpecification : String → Except String BrokerSpecification
  render : ℚ → String

/-- A lot within the limits of a trade and of the portfolio. -/
def capLotSize (calculatedLot maxLotPerTrade currentTotalLots maxTotalLots : ℚ) : ℚ :=
  if calculatedLot ≤ 0 then 0
  else min (min calculatedLot maxLotPerTrade) (max 0 (maxTotalLots - currentTotalLots))

namespace LotSizing

/-- A number that sizing writes to a proposal. -/
def written (sizing : LotSizing) (value : ℚ) : Val :=
  .num ⟨value, sizing.render value⟩

/-- The lot within the broker's bounds and steps.  Without a specification of the broker it
stays as it is. -/
def applyBrokerVolumeConstraints (sizing : LotSizing) (lot : ℚ) (symbol : String) : ℚ :=
  if lot ≤ 0 then 0
  else
    match sizing.getSymbolSpecification symbol with
    | .error _ => lot
    | .ok spec =>
        if spec.source ≠ "broker" then lot
        else
          let capped := if 0 < spec.maxVolume then min lot spec.maxVolume else lot
          let snapped :=
            if 0 < spec.volumeStep then
              Text.roundTo 8 ((capped / spec.volumeStep).floor * spec.volumeStep)
            else capped
          if 0 < spec.minVolume ∧ snapped < spec.minVolume then 0 else max snapped 0

/-- The symbol whose specification sizing reads. -/
def symbolFor (proposal : Record) : String :=
  ((firstOf proposal ["symbol"]).orElse (.str "")).text

/-- The size of a proposal; one that cannot be read counts as zero. -/
def rawSize (proposal : Record) : ℚ :=
  (numberOf proposal ["size"]).toOption.getD 0

/-- The final size of a proposal. -/
def finalSize (sizing : LotSizing) (proposal : Record) : ℚ :=
  if 0 < rawSize proposal then
    sizing.applyBrokerVolumeConstraints
      (capLotSize (rawSize proposal) sizing.maxLotPerTrade 0 5) (symbolFor proposal)
  else 0

/-- Give a proposal its final size. -/
def capLot (sizing : LotSizing) (proposal : Record) : Record :=
  proposal.set "size" (sizing.written (sizing.finalSize proposal))

end LotSizing

/-! ## The bounds -/

/-- A volume is allowed by the broker: it is none, or it is a number of steps between the
bounds, where a maximum of zero states none. -/
def BrokerSpecification.Allows (spec : BrokerSpecification) (volume : ℚ) : Prop :=
  volume = 0 ∨
    spec.minVolume ≤ volume ∧ (0 < spec.maxVolume → volume ≤ spec.maxVolume) ∧
      OnGrid spec.volumeStep volume

/-- The broker's metadata is regular: its bounds are in order and its steps have eight
decimal places. -/
structure BrokerSpecification.Regular (spec : BrokerSpecification) : Prop where
  minVolume : 0 ≤ spec.minVolume
  ordered : spec.minVolume ≤ spec.maxVolume
  volumeStep : 0 < spec.volumeStep
  places : OnGrid (1 / 10 ^ 8) spec.volumeStep

/-- The order builder reads the same bounds and steps. -/
structure BrokerSpecification.DescribedBy (spec : BrokerSpecification) (described : Record) :
    Prop where
  volumeStep : numberOf described ["volume_step"] = .ok spec.volumeStep
  minVolume : numberOf described ["volume_min"] = .ok spec.minVolume
  maxVolume : numberOf described ["volume_max"] = .ok spec.maxVolume

section Cap

variable {lot cap : ℚ}

/-- A lot that the cap leaves is within the lot, the cap and the portfolio. -/
theorem capLotSize_le (positive : 0 < capLotSize lot cap 0 5) :
    capLotSize lot cap 0 5 ≤ lot ∧ capLotSize lot cap 0 5 ≤ cap ∧ capLotSize lot cap 0 5 ≤ 5 := by
  unfold capLotSize at positive ⊢
  split at positive
  next => exact absurd positive (lt_irrefl 0)
  next some =>
    rw [if_neg some]
    have portfolio : max (0 : ℚ) (5 - 0) = 5 := by norm_num
    rw [portfolio]
    exact ⟨(min_le_left _ _).trans (min_le_left _ _), (min_le_left _ _).trans (min_le_right _ _),
      min_le_right _ _⟩

/-- A lot within the cap and the portfolio stays as it is. -/
theorem capLotSize_of_le (positive : 0 < lot) (capped : lot ≤ cap) (total : lot ≤ 5) :
    capLotSize lot cap 0 5 = lot := by
  have portfolio : max (0 : ℚ) (5 - 0) = 5 := by norm_num
  rw [capLotSize, if_neg (not_le.mpr positive), min_eq_left capped, portfolio, min_eq_left total]

end Cap

section Allowed

variable {spec : BrokerSpecification} {volume : ℚ}

namespace BrokerSpecification.Allows

theorem onGrid (allowed : spec.Allows volume) : OnGrid spec.volumeStep volume := by
  rcases allowed with rfl | ⟨-, -, point⟩
  · exact OnGrid.zero _
  · exact point

/-- The broker's maximum leaves an allowed volume. -/
theorem min_maxVolume (allowed : spec.Allows volume) :
    (if 0 < spec.maxVolume then min volume spec.maxVolume else volume) = volume := by
  split
  next bounded =>
    apply min_eq_left
    rcases allowed with rfl | ⟨-, below, -⟩
    · exact bounded.le
    · exact below bounded
  next => rfl

/-- Snapping leaves an allowed volume, also with a slack of less than a step, and so does
rounding. -/
theorem snapped (allowed : spec.Allows volume) (regular : spec.Regular) {slack : ℚ}
    (lower : 0 ≤ slack) (upper : slack < spec.volumeStep) :
    Text.roundTo 8 (snapDown spec.volumeStep (volume + slack)) = volume := by
  rw [snapDown_add_of_onGrid regular.volumeStep allowed.onGrid lower upper]
  exact roundTo_of_onGrid (regular.places.trans allowed.onGrid)

/-- Only a volume of zero is dropped. -/
theorem dropped (allowed : spec.Allows volume) :
    (if 0 < spec.minVolume ∧ volume < spec.minVolume then 0 else volume) = volume := by
  split
  next short =>
    rcases allowed with rfl | ⟨above, -, -⟩
    · rfl
    · exact absurd short.2 (not_lt.mpr above)
  next => rfl

/-- The order builder leaves an allowed volume. -/
theorem normaliseVolume (allowed : spec.Allows volume) (regular : spec.Regular)
    {described : Record} (same : spec.DescribedBy described) :
    OrderBuilder.normaliseVolume described volume = volume := by
  have positive := regular.volumeStep
  have snapped : OrderBuilder.roundDigits 8
      (((volume + spec.volumeStep / 10 ^ 12) / spec.volumeStep).floor * spec.volumeStep) =
        volume :=
    allowed.snapped regular (by positivity) (by linarith)
  rw [OrderBuilder.normaliseVolume, same.volumeStep, same.minVolume, same.maxVolume]
  dsimp only
  rw [allowed.min_maxVolume, if_pos positive, snapped, allowed.dropped]

end BrokerSpecification.Allows

end Allowed

section Broker

variable {sizing : LotSizing} {symbol : String} {spec : BrokerSpecification} {lot : ℚ}

/-- The broker's constraints yield an allowed volume that is no larger than the lot. -/
theorem applyBrokerVolumeConstraints_allowed
    (found : sizing.getSymbolSpecification symbol = .ok spec) (broker : spec.source = "broker")
    (regular : spec.Regular) (positive : 0 < lot) :
    let volume := sizing.applyBrokerVolumeConstraints lot symbol
    spec.Allows volume ∧ 0 ≤ volume ∧ volume ≤ lot := by
  intro volume
  have volumeIs : volume = sizing.applyBrokerVolumeConstraints lot symbol := rfl
  rw [LotSizing.applyBrokerVolumeConstraints, if_neg (not_le.mpr positive), found] at volumeIs
  dsimp only at volumeIs
  rw [if_neg (not_not.mpr broker), if_pos regular.volumeStep] at volumeIs
  generalize cappedIs : (if 0 < spec.maxVolume then min lot spec.maxVolume else lot) = capped
    at volumeIs
  have belowLot : capped ≤ lot := by
    rw [← cappedIs]
    split
    · exact min_le_left _ _
    · exact le_rfl
  have belowMax : 0 < spec.maxVolume → capped ≤ spec.maxVolume := by
    intro bounded
    rw [← cappedIs, if_pos bounded]
    exact min_le_right _ _
  have cappedNonneg : 0 ≤ capped := by
    rw [← cappedIs]
    split
    next bounded => exact le_min positive.le bounded.le
    next => exact positive.le
  have point := onGrid_snapDown spec.volumeStep capped
  have below := snapDown_le regular.volumeStep capped
  have nonneg := snapDown_nonneg regular.volumeStep cappedNonneg
  -- the snapped lot has eight decimal places, so rounding leaves it
  have rounded : Text.roundTo 8 ((capped / spec.volumeStep).floor * spec.volumeStep) =
      snapDown spec.volumeStep capped := roundTo_of_onGrid (regular.places.trans point)
  rw [rounded, max_eq_left nonneg] at volumeIs
  rw [volumeIs]
  split
  next => exact ⟨.inl rfl, le_rfl, positive.le⟩
  next reached =>
    have aboveMin : spec.minVolume ≤ snapDown spec.volumeStep capped := by
      by_contra short
      rw [not_le] at short
      exact reached ⟨nonneg.trans_lt short, short⟩
    exact ⟨.inr ⟨aboveMin, fun bounded => below.trans (belowMax bounded), point⟩, nonneg,
      below.trans belowLot⟩

/-- The broker's constraints leave an allowed volume as it is. -/
theorem applyBrokerVolumeConstraints_of_allowed
    (found : sizing.getSymbolSpecification symbol = .ok spec) (broker : spec.source = "broker")
    (regular : spec.Regular) (positive : 0 < lot) (allowed : spec.Allows lot) :
    sizing.applyBrokerVolumeConstraints lot symbol = lot := by
  have snapped : Text.roundTo 8 ((lot / spec.volumeStep).floor * spec.volumeStep) = lot := by
    have unmoved := allowed.snapped regular le_rfl regular.volumeStep
    rwa [add_zero] at unmoved
  rw [LotSizing.applyBrokerVolumeConstraints, if_neg (not_le.mpr positive), found]
  dsimp only
  rw [if_neg (not_not.mpr broker), allowed.min_maxVolume, if_pos regular.volumeStep, snapped,
    max_eq_left positive.le, allowed.dropped]

end Broker

section Final

variable {sizing : LotSizing} {proposal : Record} {spec : BrokerSpecification}

theorem rawSize_of_pos (positive : 0 < LotSizing.rawSize proposal) :
    numberOf proposal ["size"] = .ok (LotSizing.rawSize proposal) := by
  unfold LotSizing.rawSize at positive ⊢
  cases read : numberOf proposal ["size"] with
  | error raised =>
      rw [read] at positive
      exact absurd positive (lt_irrefl 0)
  | ok raw => rfl

theorem rawSize_capLot :
    LotSizing.rawSize (sizing.capLot proposal) = sizing.finalSize proposal := by
  by_cases zero : sizing.finalSize proposal = 0
  · simp [LotSizing.rawSize, LotSizing.capLot, LotSizing.written, numberOf, firstOf, zero,
      Val.orElse, Val.truthy, Val.toFloat, Except.toOption]
  · have read : numberOf (sizing.capLot proposal) ["size"] = .ok (sizing.finalSize proposal) :=
      Risk.numberOf_cons (Dict.get_set_self _ _ _) rfl zero []
    rw [LotSizing.rawSize, read]
    rfl

theorem symbolFor_capLot :
    LotSizing.symbolFor (sizing.capLot proposal) = LotSizing.symbolFor proposal := by
  simp [LotSizing.symbolFor, LotSizing.capLot, firstOf]

/-- The final size is allowed and within the size, the operator's cap and the portfolio. -/
theorem finalSize_bounded
    (found : sizing.getSymbolSpecification (LotSizing.symbolFor proposal) = .ok spec)
    (broker : spec.source = "broker") (regular : spec.Regular) :
    let volume := sizing.finalSize proposal
    spec.Allows volume ∧
      (volume = 0 ∨ 0 < volume ∧ volume ≤ LotSizing.rawSize proposal ∧
        volume ≤ sizing.maxLotPerTrade ∧ volume ≤ 5) := by
  intro volume
  have volumeIs : volume = sizing.finalSize proposal := rfl
  unfold LotSizing.finalSize at volumeIs
  split at volumeIs
  next =>
    by_cases positive : 0 < capLotSize (LotSizing.rawSize proposal) sizing.maxLotPerTrade 0 5
    · rcases applyBrokerVolumeConstraints_allowed found broker regular positive with
        ⟨allowed, nonneg, below⟩
      rw [← volumeIs] at allowed nonneg below
      rcases capLotSize_le positive with ⟨raw, cap, total⟩
      rcases nonneg.eq_or_lt with none | some
      · exact ⟨allowed, .inl none.symm⟩
      · exact ⟨allowed, .inr ⟨some, below.trans raw, below.trans cap, below.trans total⟩⟩
    · rw [LotSizing.applyBrokerVolumeConstraints, if_pos (not_lt.mp positive)] at volumeIs
      exact ⟨.inl volumeIs, .inl volumeIs⟩
  next => exact ⟨.inl volumeIs, .inl volumeIs⟩

/-- The final size is final: a second pass leaves it as it is. -/
theorem finalSize_capLot
    (found : sizing.getSymbolSpecification (LotSizing.symbolFor proposal) = .ok spec)
    (broker : spec.source = "broker") (regular : spec.Regular) :
    sizing.finalSize (sizing.capLot proposal) = sizing.finalSize proposal := by
  rcases finalSize_bounded found broker regular with ⟨allowed, bounded⟩
  rw [LotSizing.finalSize, rawSize_capLot, symbolFor_capLot]
  rcases bounded with none | ⟨positive, -, cap, total⟩
  · rw [none, if_neg (lt_irrefl 0)]
  · rw [if_pos positive, capLotSize_of_le positive cap total,
      applyBrokerVolumeConstraints_of_allowed found broker regular positive allowed]

/-- The final size of a proposal is none, or an allowed volume within its size and the
operator's cap.  A second pass leaves it as it is, and so does the order builder. -/
theorem capLot_final (sizing : LotSizing) (proposal : Record) (spec : BrokerSpecification)
    (found : sizing.getSymbolSpecification (LotSizing.symbolFor proposal) = .ok spec)
    (broker : spec.source = "broker") (regular : spec.Regular) :
    ∃ volume, (sizing.capLot proposal).get "size" = some (sizing.written volume) ∧
      spec.Allows volume ∧
      (volume = 0 ∨ ∃ raw, numberOf proposal ["size"] = .ok raw ∧ volume ≤ raw ∧
        volume ≤ sizing.maxLotPerTrade) ∧
      (sizing.capLot (sizing.capLot proposal)).get "size" = some (sizing.written volume) ∧
      ∀ (builder : OrderBuilder) (provider : String → Except String Record) (symbol : String)
        (described : Record) (price sl tp : ℚ), builder.symbolSpecProvider = some provider →
        provider symbol = .ok described → spec.DescribedBy described →
        (builder.normaliseToSpec symbol volume price sl tp).1 = volume := by
  rcases finalSize_bounded found broker regular with ⟨allowed, bounded⟩
  refine ⟨sizing.finalSize proposal, Dict.get_set_self _ _ _, allowed, ?_, ?_, ?_⟩
  · rcases bounded with none | ⟨positive, raw, cap, -⟩
    · exact .inl none
    · exact .inr ⟨_, rawSize_of_pos (positive.trans_le raw), raw, cap⟩
  · rw [← finalSize_capLot found broker regular]
    exact Dict.get_set_self _ _ _
  · intro builder provider symbol described price sl tp provided describes same
    rw [OrderBuilder.normaliseToSpec, provided]
    dsimp only
    rw [describes]
    dsimp only
    split
    next => rfl
    next => exact allowed.normaliseVolume regular same

end Final

namespace Sample

/-- A broker that states neither a minimum nor a maximum. -/
def unboundedSpec : BrokerSpecification where
  source := "broker"
  contractSize := 100
  point := 1 / 100
  spreadLimit := 200
  commission := 0
  commissionSource := "UNKNOWN"
  minVolume := 0
  maxVolume := 0
  volumeStep := 1 / 100

/-- A broker that states both. -/
def boundedSpec : BrokerSpecification :=
  { unboundedSpec with minVolume := 1 / 100, maxVolume := 100 }

/-- The knobs of sizing at a broker. -/
def lotSizing (spec : BrokerSpecification) : LotSizing where
  defaultRiskPct := 1
  forceRiskSizing := true
  maxLotPerTrade := 1 / 20
  getSymbolSpecification := fun _ => .ok spec
  render := fun _ => ""

/-- The broker's bounds as the order builder reads them. -/
def describedBounds : Record :=
  Dict.empty.update [("volume_step", .num ⟨1 / 100, "0.01"⟩),
    ("volume_min", .num ⟨1 / 100, "0.01"⟩), ("volume_max", .int 100)]

/-- An order builder at a broker. -/
def builderAt (described : Record) : OrderBuilder where
  defaultMagic := 0
  symbolPrefix := ""
  symbolSuffix := ""
  symbolSpecProvider := some fun _ => .ok described
  render := fun _ => ""

/-- A proposal with a size. -/
def sizedProposal : Record :=
  Dict.empty.update [("symbol", .str "XAUUSD"), ("size", .num ⟨37 / 1000, "0.037"⟩)]

end Sample

theorem unboundedSpec_regular : Sample.unboundedSpec.Regular where
  minVolume := le_rfl
  ordered := le_rfl
  volumeStep := by norm_num [Sample.unboundedSpec]
  places := ⟨1000000, by norm_num [Sample.unboundedSpec]⟩

theorem boundedSpec_regular : Sample.boundedSpec.Regular where
  minVolume := by norm_num [Sample.boundedSpec]
  ordered := by norm_num [Sample.boundedSpec]
  volumeStep := unboundedSpec_regular.volumeStep
  places := unboundedSpec_regular.places

theorem boundedSpec_describedBy : Sample.boundedSpec.DescribedBy Sample.describedBounds where
  volumeStep := by decide +kernel
  minVolume := by decide +kernel
  maxVolume := by decide +kernel

theorem capLot_final_bounded :
    ∃ volume, ((Sample.lotSizing Sample.boundedSpec).capLot Sample.sizedProposal).get "size" =
        some ((Sample.lotSizing Sample.boundedSpec).written volume) ∧
      Sample.boundedSpec.Allows volume ∧
      ((Sample.builderAt Sample.describedBounds).normaliseToSpec "XAUUSD" volume 0 0 0).1 =
        volume := by
  rcases capLot_final (Sample.lotSizing Sample.boundedSpec) Sample.sizedProposal
    Sample.boundedSpec rfl rfl boundedSpec_regular with ⟨volume, written, allowed, -, -, kept⟩
  exact ⟨volume, written, allowed, kept _ _ _ _ 0 0 0 rfl rfl boundedSpec_describedBy⟩

/-- At a broker whose maximum is zero, the final size is above this maximum. -/
theorem finalSize_above_zero_maximum :
    Sample.unboundedSpec.Regular ∧
      Sample.unboundedSpec.maxVolume <
        (Sample.lotSizing Sample.unboundedSpec).finalSize Sample.sizedProposal :=
  ⟨unboundedSpec_regular, by decide +kernel⟩

end EaBot.Orchestration
