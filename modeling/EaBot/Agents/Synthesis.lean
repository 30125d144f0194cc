import Mathlib.Data.List.Pairwise
import EaBot.Agents.DomainSignals

/-!
# The synthesis of agents' outputs

The synthesizer weighs the output of each agent by its confidence, the quality and the age of its
evidence, and proposes the side with more weight, unless the outputs are in a severe conflict.

The weights and the conflict are looked up output by output, so the proposal depends neither on
the order of the agents nor on which of the two sides is called which.
-/

namespace EaBot.Agents

open EaBot.Foundation

/-! ## Floating-point numbers -/

/-- What a conversion to a floating-point number gives: a number, an infinity, or neither. -/
inductive Quantity
  | finite (value : ℚ)
  | infinite (negative : Bool)
  | undefined
deriving DecidableEq

namespace Quantity

def add : Quantity → Quantity → Quantity
  | finite value, finite other => finite (value + other)
  | infinite negative, finite _ => infinite negative
  | finite _, infinite negative => infinite negative
  | infinite negative, infinite other => if negative = other then infinite negative else undefined
  | _, _ => undefined

def divide : Quantity → Nat → Quantity
  | finite value, count => finite (value / count)
  | other, _ => other

def round (places : Nat) : Quantity → Quantity
  | finite value => finite (Text.roundTo places value)
  | other => other

/-- The quantity between zero and one; what is no number counts as zero. -/
def clamp : Quantity → ℚ
  | finite value => min 1 (max 0 value)
  | infinite negative => if negative then 0 else 1
  | undefined => 0

/-- Whether the quantity reaches a bound. -/
def reaches (bound : ℚ) : Quantity → Bool
  | finite value => bound ≤ value
  | infinite negative => !negative
  | undefined => false

/-- The conversion of a scalar. -/
def ofVal : Val → Except String Quantity
  | .str text =>
      match Text.toRat? text with
      | some value => .ok (finite value)
      | none =>
          if Text.isFloat text then
            .ok (if Text.contains (Text.lower text) "nan" then undefined
              else infinite (Text.contains text "-"))
          else .error s!"could not convert string to float: '{text}'"
  | value => value.toFloat.map finite

/-- The conversion of a scalar, with a number in its place when it fails. -/
def ofValElse (value : Val) (other : ℚ) : Quantity :=
  (ofVal value).toOption.getD (finite other)

theorem clamp_nonneg (quantity : Quantity) : 0 ≤ quantity.clamp := by
  cases quantity with
  | finite value => exact le_min zero_le_one (le_max_left 0 value)
  | infinite negative => cases negative <;> decide
  | undefined => exact le_refl 0

theorem clamp_mono {value other : ℚ} (raised : value ≤ other) :
    (finite value).clamp ≤ (finite other).clamp :=
  min_le_min_left 1 (max_le_max_left 0 raised)

theorem ofVal_number {value : Val} {number : ℚ} (numeric : value.number? = some number) :
    ofVal value = .ok (finite number) := by
  cases value with
  | none => cases numeric
  | bool truth => cases truth <;> cases numeric <;> rfl
  | int integer => cases numeric; rfl
  | num float => cases numeric; rfl
  | str text => cases numeric

end Quantity

/-! ## Outputs of agents -/

/-- The reasoning of an agent, a scalar or a list of reasons. -/
inductive Reasoning
  | scalar (value : Val)
  | list (reasons : List String)

/-- The record that an agent hands over. -/
structure AgentOutput where
  fields : Record
  reasoning : Option Reasoning
  reasons : Option Reasoning
  evidence : Option (List EvidenceEntry)

inductive TradeDirection
  | buy
  | sell
  | hold
deriving DecidableEq

namespace TradeDirection

def text : TradeDirection → String
  | buy => "BUY"
  | sell => "SELL"
  | hold => "HOLD"

def opposite : TradeDirection → TradeDirection
  | buy => sell
  | sell => buy
  | hold => hold

end TradeDirection

/-- An agent's output in the aggregate. -/
structure AgentSignal where
  agent : String
  signal : Val
  confidence : Quantity
  reasoning : Val

structure Aggregate where
  signals : List AgentSignal
  bullishCount : Nat
  bearishCount : Nat
  neutralCount : Nat
  avgConfidence : Quantity
  weightedBullish : Quantity
  weightedBearish : Quantity
  totalAgents : Nat

/-- The numbers of a market's state that levels are made from. -/
structure MarketState where
  close : Option ℚ
  price : Option ℚ
  atr : Option ℚ

structure TradeProposal where
  symbol : String
  direction : TradeDirection
  confidence : Quantity
  reasoning : String
  agentSignals : List (String × AgentSignal)
  targetSl : Option ℚ
  targetTp : Option ℚ
  requiresEscalation : Bool

structure SynthesisResult where
  proposal : Option TradeProposal
  agreementScore : ℚ
  conflictsFound : List String
  agentCount : Nat
  skippedAgents : List String
  evidenceStrength : ℚ

/-- The limits of a synthesizer. -/
structure AgentSynthesizer where
  minConfidence : ℚ
  escalationConflictThreshold : Int
  escalationConfidenceThreshold : ℚ

namespace AgentSynthesizer

def default : AgentSynthesizer :=
  { minConfidence := 3 / 5
    escalationConflictThreshold := 2
    escalationConfidenceThreshold := 1 / 2 }

def slAtrMult : ℚ := 3 / 2

def tpmaxR : ℚ := 3

def tpAtrMult : ℚ := slAtrMult * tpmaxR

def bullishSignals : List String := ["BULLISH", "STRONG_BULLISH", "BUY"]

def bearishSignals : List String := ["BEARISH", "STRONG_BEARISH", "SELL"]

/-- Whether a raw signal is one of the words as it stands. -/
def isRaw (words : List String) : Val → Bool
  | .str signal => words.contains signal
  | _ => false

def rawSignal (output : AgentOutput) : Val :=
  (output.fields.get "signal").getD (.str "NEUTRAL")

/-- The signal in upper case. -/
def word (output : AgentOutput) : String :=
  Text.upperWord (rawSignal output).text

/-- The confidence field, zero when it is missing. -/
def rawConfidence (output : AgentOutput) : Val :=
  (output.fields.get "confidence").getD (.int 0)

def unresolvedConflict (output : AgentOutput) : Bool :=
  ((output.fields.get "unresolved_conflict").getD .none).truthy

/-- The quality of the evidence, one half when none can be read. -/
def readQuality (output : AgentOutput) : Quantity :=
  let quality := (output.fields.get "evidence_quality").getD
    ((output.fields.get "data_quality").getD .none)
  if quality = .none then .finite (1 / 2) else Quantity.ofValElse quality (1 / 2)

def freshnessFactor (output : AgentOutput) : ℚ :=
  let freshness := (output.fields.get "freshness").getD (.str "fresh")
  let factor : ℚ := if Text.lower freshness.text = "stale" then 1 / 4 else 1
  if unresolvedConflict output then factor * (1 / 2) else factor

def evidenceBoost (output : AgentOutput) : ℚ :=
  if (output.evidence.getD []).isEmpty then 1 else 6 / 5

/-- The weight of an agent's evidence. -/
def evidenceWeight (output : AgentOutput) : ℚ :=
  let confidence := (Quantity.ofValElse ((rawConfidence output).orElse (.int 0)) 0).clamp
  confidence * (readQuality output).clamp * freshnessFactor output * evidenceBoost output

def Reasoning.text : Reasoning → Val
  | .scalar value => value
  | .list reasons => .str ("; ".intercalate reasons)

def reasoningOf (output : AgentOutput) : Val :=
  Reasoning.text (output.reasoning.getD (output.reasons.getD (.scalar (.str ""))))

/-- An agent's output as a signal; a confidence that is no number raises. -/
def toSignal (agent : String × AgentOutput) : Except String AgentSignal := do
  let confidence ← Quantity.ofVal (rawConfidence agent.2)
  return ⟨agent.1, rawSignal agent.2, confidence, reasoningOf agent.2⟩

def toSignals : List (String × AgentOutput) → Except String (List AgentSignal)
  | [] => .ok []
  | agent :: rest => do
      let signal ← toSignal agent
      let signals ← toSignals rest
      return signal :: signals

/-- The sum of the confidences of some signals. -/
def confidenceSum (signals : List AgentSignal) : Quantity :=
  signals.foldl (fun total signal => total.add signal.confidence) (.finite 0)

def aggregateOf (signals : List AgentSignal) : Aggregate :=
  let bullish := signals.filter fun signal => isRaw bullishSignals signal.signal
  let others := signals.filter fun signal => !isRaw bullishSignals signal.signal
  let bearish := others.filter fun signal => isRaw bearishSignals signal.signal
  { signals := signals
    bullishCount := bullish.length
    bearishCount := bearish.length
    neutralCount := others.length - bearish.length
    avgConfidence :=
      if signals = [] then .finite 0 else (confidenceSum signals).divide signals.length
    weightedBullish := confidenceSum bullish
    weightedBearish := confidenceSum bearish
    totalAgents := signals.length }

/-- The aggregate of the agents' outputs. -/
def aggregateSignals (agents : List (String × AgentOutput)) : Except String Aggregate := do
  let signals ← toSignals agents
  return aggregateOf signals

/-- A scalar with two decimal places; only a number has any. -/
def twoPlaces (value : Val) : Except String String :=
  match value.number? with
  | some number => .ok (Text.fixedSigned 2 number)
  | none =>
      if value = .none then .error "unsupported format string passed to NoneType.__format__"
      else .error "Unknown format code 'f' for object of type 'str'"

/-- Two outputs whose raw signals are words of opposite sides. -/
def opposed (output other : AgentOutput) : Bool :=
  (isRaw bullishSignals (rawSignal output) && isRaw bearishSignals (rawSignal other)) ||
    (isRaw bearishSignals (rawSignal output) && isRaw bullishSignals (rawSignal other))

/-- The conflicts of an agent with later ones. -/
def conflictsWith (agent : String × AgentOutput) :
    List (String × AgentOutput) → Except String (List String)
  | [] => .ok []
  | other :: rest =>
      if opposed agent.2 other.2 then do
        let confidence ← twoPlaces (rawConfidence agent.2)
        let against ← twoPlaces (rawConfidence other.2)
        let more ← conflictsWith agent rest
        return (s!"Conflict: {agent.1}={(rawSignal agent.2).text} (conf={confidence}) vs " ++
          s!"{other.1}={(rawSignal other.2).text} (conf={against})") :: more
      else conflictsWith agent rest

/-- The conflicts among agents. -/
def detectConflicts : List (String × AgentOutput) → Except String (List String)
  | [] => .ok []
  | agent :: rest => do
      let found ← conflictsWith agent rest
      let more ← detectConflicts rest
      return found ++ more

/-- Whether some agent is sure of its direction and flags a conflict. -/
def flagged : List AgentOutput → Except String Bool
  | [] => .ok false
  | output :: rest =>
      if word output = "BULLISH" ∨ word output = "BEARISH" then do
        let confidence ← Quantity.ofVal ((rawConfidence output).orElse (.int 0))
        if confidence.reaches (3 / 4) && unresolvedConflict output then return true
        else flagged rest
      else flagged rest

/-- Whether all outputs are confident. -/
def allConfident : List AgentOutput → Except String Bool
  | [] => .ok true
  | output :: rest => do
      let confidence ← Quantity.ofVal (rawConfidence output)
      if confidence.reaches (7 / 10) then allConfident rest else return false

/-- The outputs whose signals are among some words. -/
def saying (words : List String) (outputs : List AgentOutput) : List AgentOutput :=
  outputs.filter fun output => words.contains (word output)

/-- Whether the outputs are in a severe conflict. -/
def hasSevereConflict (outputs : List AgentOutput) : Except String Bool := do
  if ← flagged outputs then return true
  else
    let bulls := saying bullishSignals outputs
    let bears := saying bearishSignals outputs
    if bulls = [] ∨ bears = [] then return false
    else allConfident (bulls ++ bears)

/-- The weight of the evidence for some words. -/
def weightOf (words : List String) (outputs : List AgentOutput) : ℚ :=
  ((saying words outputs).map evidenceWeight).sum

@[simp]
theorem weightOf_nil (words : List String) : weightOf words [] = 0 :=
  rfl

/-- The side with more weight, unless there is a severe conflict. -/
def directionOf (bullishWeight bearishWeight : ℚ) (severeConflict : Bool) : TradeDirection :=
  if 0 < bullishWeight ∧ bearishWeight < bullishWeight ∧ ¬severeConflict then .buy
  else if 0 < bearishWeight ∧ bullishWeight < bearishWeight ∧ ¬severeConflict then .sell
  else .hold

/-- The share of the evidence that a weight is. -/
def share (weight bullishWeight bearishWeight : ℚ) : ℚ :=
  weight / max (bullishWeight + bearishWeight) (1 / 10 ^ 9)

def weightedConfidence (bullishWeight bearishWeight : ℚ) (avgConfidence : Quantity) :
    TradeDirection → Quantity
  | .buy => .finite (share bullishWeight bullishWeight bearishWeight)
  | .sell => .finite (share bearishWeight bullishWeight bearishWeight)
  | .hold => avgConfidence

def percent (value : ℚ) : String :=
  s!"{Text.roundHalfEven (100 * value)}%"

/-- The stop and the target of a direction, when the market's state has a price and a range. -/
def levels (market : Option MarketState) (direction : TradeDirection) : Option (ℚ × ℚ) := do
  let state ← market
  let close ← (state.close.filter (· ≠ 0)).or state.price
  let atr ← state.atr
  if close = 0 ∨ atr ≤ 0 then none
  else
    match direction with
    | .buy => some (Text.roundTo 5 (close - atr * slAtrMult),
        Text.roundTo 5 (close + atr * tpAtrMult))
    | .sell => some (Text.roundTo 5 (close + atr * slAtrMult),
        Text.roundTo 5 (close - atr * tpAtrMult))
    | .hold => none

/-- Whether a proposal needs a review. -/
def checkEscalation (synthesizer : AgentSynthesizer) (result : SynthesisResult) : Bool :=
  match result.proposal with
  | none => true
  | some proposal =>
      if result.evidenceStrength < synthesizer.escalationConfidenceThreshold then true
      else if synthesizer.escalationConflictThreshold ≤ result.conflictsFound.length then true
      else
        let count (words : List String) :=
          proposal.agentSignals.countP fun signal => isRaw words signal.2.signal
        proposal.direction = .hold && 2 ≤ count bullishSignals && 2 ≤ count bearishSignals

/-- The result for outputs whose conflicts are known. -/
def propose (synthesizer : AgentSynthesizer) (event : Option String)
    (outputs : List AgentOutput) (marketState : Option MarketState) (aggregate : Aggregate)
    (conflicts : List String) (severeConflict : Bool) : SynthesisResult :=
  let bullishWeight := weightOf bullishSignals outputs
  let bearishWeight := weightOf bearishSignals outputs
  let total := bullishWeight + bearishWeight
  let majority := max (max aggregate.bullishCount aggregate.bearishCount) aggregate.neutralCount
  let agreementScore : ℚ := majority / aggregate.totalAgents
  let edge := if 0 < total then |bullishWeight - bearishWeight| / total else 0
  let direction := directionOf bullishWeight bearishWeight severeConflict
  let confidence :=
    weightedConfidence bullishWeight bearishWeight aggregate.avgConfidence direction
  let reasoning := " | ".intercalate
    ([s!"Sintesis berbasis bukti: {direction.text}",
      s!"bobot bukti bull={Text.fixed 2 bullishWeight} bear={Text.fixed 2 bearishWeight} " ++
        s!"(edge={percent edge})",
      s!"Kesepakatan (observability): {percent agreementScore}"] ++
      (if severeConflict then ["konflik bukti belum terselesaikan → tanpa trade arah"] else []) ++
      if conflicts = [] then [] else [s!"Konflik: {conflicts.length}"])
  let targets := levels marketState direction
  let proposal : TradeProposal :=
    { symbol := event.getD "UNKNOWN"
      direction := direction
      confidence := confidence
      reasoning := reasoning
      agentSignals := aggregate.signals.map fun signal => (signal.agent, signal)
      targetSl := targets.map Prod.fst
      targetTp := targets.map Prod.snd
      requiresEscalation := false }
  let result : SynthesisResult :=
    { proposal := some proposal
      agreementScore := agreementScore
      conflictsFound := conflicts
      agentCount := aggregate.totalAgents
      skippedAgents := []
      evidenceStrength := max bullishWeight bearishWeight }
  { result with
    proposal := some { proposal with
      confidence := confidence.round 2
      requiresEscalation := synthesizer.checkEscalation result }
    agreementScore := Text.roundTo 3 agreementScore }

/-- The proposal of the agents' outputs.  The threshold for the confidence is an argument that
nothing reads. -/
def generateProposal (synthesizer : AgentSynthesizer) (event : Option String)
    (agentOutputs : Dict String AgentOutput) (_minConfidence : ℚ)
    (marketState : Option MarketState) : Except String SynthesisResult := do
  let aggregate ← aggregateSignals agentOutputs.entries
  if aggregate.signals = [] then
    return {
      proposal := none
      agreementScore := 0
      conflictsFound := ["Tidak ada output agent untuk disintesis"]
      agentCount := 0
      skippedAgents := []
      evidenceStrength := 0 }
  else
    let conflicts ← detectConflicts agentOutputs.entries
    let severeConflict ← hasSevereConflict agentOutputs.values
    return synthesizer.propose event agentOutputs.values marketState aggregate conflicts
      severeConflict

/-! ## Readings -/

/-- The confidence of an output as a number. -/
def reading (output : AgentOutput) : Quantity :=
  Quantity.ofValElse (rawConfidence output) 0

/-- Whether the confidence of an output converts. -/
def Readable (output : AgentOutput) : Prop :=
  (Quantity.ofVal (rawConfidence output)).toOption.isSome = true

/-- Whether the confidence of an output is a number already. -/
def Numeric (output : AgentOutput) : Prop :=
  (rawConfidence output).number?.isSome = true

instance (output : AgentOutput) : Decidable (Readable output) :=
  inferInstanceAs (Decidable (_ = true))

instance (output : AgentOutput) : Decidable (Numeric output) :=
  inferInstanceAs (Decidable (_ = true))

theorem Readable.ofVal {output : AgentOutput} (readable : Readable output) :
    Quantity.ofVal (rawConfidence output) = .ok (reading output) := by
  obtain ⟨quantity, converted⟩ := Option.isSome_iff_exists.mp readable
  have same := ok_of_toOption converted
  rw [reading, Quantity.ofValElse, same]
  rfl

theorem Numeric.readable {output : AgentOutput} (numeric : Numeric output) :
    Readable output := by
  obtain ⟨number, known⟩ := Option.isSome_iff_exists.mp numeric
  rw [Readable, Quantity.ofVal_number known]
  rfl

/-- A confidence that counts as false reads as zero. -/
theorem Readable.ofVal_orElse {output : AgentOutput} (readable : Readable output) :
    Quantity.ofVal ((rawConfidence output).orElse (.int 0)) = .ok (reading output) := by
  have converted := readable.ofVal
  by_cases counts : (rawConfidence output).truthy = true
  · rwa [Val.orElse, if_pos counts]
  · rw [Val.orElse, if_neg counts, ← converted]
    generalize rawConfidence output = value at counts converted
    cases value with
    | none => cases converted
    | bool truth =>
        cases truth with
        | false => rfl
        | true => exact absurd rfl counts
    | int integer =>
        have zero : integer = 0 := by simpa [Val.truthy] using counts
        rw [zero]
    | num float =>
        have zero : float.value = 0 := by simpa [Val.truthy] using counts
        have known : (Val.num float).number? = some float.value := rfl
        rw [Quantity.ofVal_number known, zero]
        rfl
    | str text =>
        have empty : text = "" := by simpa [Val.truthy] using counts
        rw [empty] at converted
        cases converted

/-- Some output is sure of its direction and flags a conflict. -/
def Flagged (outputs : List AgentOutput) : Prop :=
  ∃ output ∈ outputs, (word output = "BULLISH" ∨ word output = "BEARISH") ∧
    (reading output).reaches (3 / 4) = true ∧ unresolvedConflict output = true

/-- There are outputs of both sides, and all of them are confident. -/
def Clashing (outputs : List AgentOutput) : Prop :=
  saying bullishSignals outputs ≠ [] ∧ saying bearishSignals outputs ≠ [] ∧
    ∀ output ∈ saying bullishSignals outputs ++ saying bearishSignals outputs,
      (reading output).reaches (7 / 10) = true

/-- The outputs are in a severe conflict. -/
def Severe (outputs : List AgentOutput) : Prop :=
  Flagged outputs ∨ Clashing outputs

instance (outputs : List AgentOutput) : Decidable (Flagged outputs) :=
  inferInstanceAs (Decidable (∃ _ ∈ _, _))

instance (outputs : List AgentOutput) : Decidable (Clashing outputs) :=
  inferInstanceAs (Decidable (_ ∧ _))

instance (outputs : List AgentOutput) : Decidable (Severe outputs) :=
  inferInstanceAs (Decidable (_ ∨ _))

section Reading

variable {outputs : List AgentOutput} (readable : ∀ output ∈ outputs, Readable output)

include readable

theorem flagged_eq : flagged outputs = .ok (decide (Flagged outputs)) := by
  induction outputs with
  | nil => rfl
  | cons output rest ih =>
      have first := readable output List.mem_cons_self
      have later := ih fun other member => readable other (List.mem_cons_of_mem output member)
      have here : Flagged (output :: rest) ↔
          ((word output = "BULLISH" ∨ word output = "BEARISH") ∧
            (reading output).reaches (3 / 4) = true ∧ unresolvedConflict output = true) ∨
          Flagged rest := List.exists_mem_cons_iff ..
      rw [flagged, first.ofVal_orElse, later, ok_bind, decide_eq_decide.mpr here]
      by_cases directional : word output = "BULLISH" ∨ word output = "BEARISH"
      · rw [if_pos directional]
        by_cases sure : (reading output).reaches (3 / 4) = true ∧ unresolvedConflict output = true
        · rw [if_pos (Bool.and_eq_true_iff.mpr sure),
            decide_eq_true (Or.inl ⟨directional, sure⟩)]
          rfl
        · rw [if_neg fun both => sure (Bool.and_eq_true_iff.mp both)]
          simp [sure]
      · rw [if_neg directional]
        simp [directional]

theorem allConfident_eq : allConfident outputs =
    .ok (decide (∀ output ∈ outputs, (reading output).reaches (7 / 10) = true)) := by
  induction outputs with
  | nil => simp [allConfident]
  | cons output rest ih =>
      have first := readable output List.mem_cons_self
      have later := ih fun other member => readable other (List.mem_cons_of_mem output member)
      rw [allConfident, first.ofVal, later, ok_bind]
      simp only [List.forall_mem_cons]
      by_cases confident : (reading output).reaches (7 / 10) = true
      · rw [if_pos confident]
        simp [confident]
      · rw [if_neg confident]
        rw [decide_eq_false fun both => confident both.1]
        rfl

omit readable in
theorem mem_saying_or {output : AgentOutput}
    (member : output ∈ saying bullishSignals outputs ++ saying bearishSignals outputs) :
    output ∈ outputs := by
  rcases List.mem_append.mp member with bull | bear
  · exact (List.mem_filter.mp bull).1
  · exact (List.mem_filter.mp bear).1

theorem hasSevereConflict_eq : hasSevereConflict outputs = .ok (decide (Severe outputs)) := by
  have confident := allConfident_eq fun output member => readable output (mem_saying_or member)
  rw [hasSevereConflict, flagged_eq readable, ok_bind]
  by_cases sure : Flagged outputs
  · have severe : Severe outputs := Or.inl sure
    rw [if_pos (decide_eq_true sure), decide_eq_true severe]
    rfl
  · have severe : Severe outputs ↔ Clashing outputs := or_iff_right sure
    rw [if_neg fun yes => sure (of_decide_eq_true yes), decide_eq_decide.mpr severe]
    dsimp only
    by_cases oneSided : saying bullishSignals outputs = [] ∨ saying bearishSignals outputs = []
    · have calm : ¬Clashing outputs := fun both => oneSided.elim both.1 both.2.1
      rw [if_pos oneSided, decide_eq_false calm]
      rfl
    · rw [if_neg oneSided, confident]
      rw [not_or] at oneSided
      congr 1
      apply decide_eq_decide.mpr
      exact ⟨fun all => ⟨oneSided.1, oneSided.2, all⟩, fun both => both.2.2⟩

end Reading

/-! ## Conflicts -/

theorem twoPlaces_isOk_iff (output : AgentOutput) :
    (∃ text, twoPlaces (rawConfidence output) = .ok text) ↔ Numeric output := by
  unfold twoPlaces Numeric
  cases (rawConfidence output).number? with
  | some number => exact iff_of_true ⟨_, rfl⟩ rfl
  | none =>
      refine iff_of_false ?_ Bool.false_ne_true
      rintro ⟨text, shown⟩
      dsimp only at shown
      split at shown <;> cases shown

theorem conflictsWith_isOk_iff (agent : String × AgentOutput)
    (others : List (String × AgentOutput)) :
    (∃ conflicts, conflictsWith agent others = .ok conflicts) ↔
      ∀ other ∈ others, opposed agent.2 other.2 = true → Numeric agent.2 ∧ Numeric other.2 := by
  induction others with
  | nil => exact iff_of_true ⟨[], rfl⟩ (fun _ member => absurd member List.not_mem_nil)
  | cons other rest ih =>
      rw [List.forall_mem_cons, ← ih, conflictsWith]
      by_cases against : opposed agent.2 other.2 = true
      · rw [if_pos against, imp_iff_right against, ← twoPlaces_isOk_iff, ← twoPlaces_isOk_iff]
        constructor
        · rintro ⟨conflicts, found⟩
          obtain ⟨confidence, first, found⟩ := of_bind_eq_ok found
          obtain ⟨otherConfidence, second, found⟩ := of_bind_eq_ok found
          obtain ⟨more, later, -⟩ := of_bind_eq_ok found
          exact ⟨⟨⟨confidence, first⟩, ⟨otherConfidence, second⟩⟩, ⟨more, later⟩⟩
        · rintro ⟨⟨⟨confidence, first⟩, ⟨otherConfidence, second⟩⟩, ⟨more, later⟩⟩
          rw [first, second, later]
          exact ⟨_, rfl⟩
      · rw [if_neg against]
        exact ⟨fun found => ⟨fun yes => absurd yes against, found⟩, And.right⟩

theorem opposed_comm (output other : AgentOutput) :
    opposed output other = opposed other output := by
  unfold opposed
  rw [Bool.or_comm, Bool.and_comm, Bool.and_comm (isRaw bearishSignals (rawSignal other))]

theorem opposed_self (output : AgentOutput) : opposed output output = false := by
  have apart : ∀ signal ∈ bullishSignals, signal ∉ bearishSignals := by decide
  rw [← Bool.not_eq_true]
  unfold opposed
  cases rawSignal output with
  | str signal =>
      intro both
      rw [Bool.or_eq_true, Bool.and_eq_true, Bool.and_eq_true] at both
      obtain ⟨bullish, bearish⟩ : isRaw bullishSignals (.str signal) = true ∧
          isRaw bearishSignals (.str signal) = true := both.elim id And.symm
      exact apart signal (List.contains_iff_mem.mp bullish) (List.contains_iff_mem.mp bearish)
  | none => exact Bool.false_ne_true
  | bool truth => exact Bool.false_ne_true
  | int integer => exact Bool.false_ne_true
  | num float => exact Bool.false_ne_true

/-- The conflicts are found when the confidences of opposed outputs are numbers. -/
theorem detectConflicts_isOk_iff (agents : List (String × AgentOutput)) :
    (∃ conflicts, detectConflicts agents = .ok conflicts) ↔
      ∀ agent ∈ agents, ∀ other ∈ agents,
        opposed agent.2 other.2 = true → Numeric agent.2 ∧ Numeric other.2 := by
  have pairs : (∃ conflicts, detectConflicts agents = .ok conflicts) ↔
      agents.Pairwise fun agent other =>
        opposed agent.2 other.2 = true → Numeric agent.2 ∧ Numeric other.2 := by
    induction agents with
    | nil => exact iff_of_true ⟨[], rfl⟩ List.Pairwise.nil
    | cons agent rest ih =>
        rw [List.pairwise_cons, ← conflictsWith_isOk_iff, ← ih, detectConflicts]
        constructor
        · rintro ⟨conflicts, found⟩
          obtain ⟨first, here, found⟩ := of_bind_eq_ok found
          obtain ⟨more, later, -⟩ := of_bind_eq_ok found
          exact ⟨⟨first, here⟩, ⟨more, later⟩⟩
        · rintro ⟨⟨first, here⟩, ⟨more, later⟩⟩
          rw [here, later]
          exact ⟨_, rfl⟩
  rw [pairs]
  constructor
  · have symmetric : Std.Symm fun agent other : String × AgentOutput =>
        opposed agent.2 other.2 = true → Numeric agent.2 ∧ Numeric other.2 :=
      ⟨fun agent other shown against => (shown (opposed_comm _ _ ▸ against)).symm⟩
    intro pairwise agent member other member'
    refine pairwise.forall_of_forall ?_ member member'
    intro agent _ against
    rw [opposed_self] at against
    cases against
  · intro every
    exact List.pairwise_iff_forall_sublist.mpr fun {agent other} within =>
      every agent (within.subset (by simp)) other (within.subset (by simp))

/-! ## Proposals -/

/-- The direction that the outputs come to. -/
def consensus (outputs : List AgentOutput) : TradeDirection :=
  directionOf (weightOf bullishSignals outputs) (weightOf bearishSignals outputs)
    (decide (Severe outputs))

/-- The confidence in the side with more weight. -/
def leadingShare (outputs : List AgentOutput) : ℚ :=
  share (max (weightOf bullishSignals outputs) (weightOf bearishSignals outputs))
    (weightOf bullishSignals outputs) (weightOf bearishSignals outputs)

theorem freshnessFactor_nonneg (output : AgentOutput) : 0 ≤ freshnessFactor output := by
  unfold freshnessFactor
  dsimp only
  split <;> split <;> norm_num

theorem evidenceBoost_nonneg (output : AgentOutput) : 0 ≤ evidenceBoost output := by
  unfold evidenceBoost
  split <;> norm_num

theorem toSignals_eq {agents : List (String × AgentOutput)}
    (readable : ∀ agent ∈ agents, Readable agent.2) :
    toSignals agents = .ok (agents.map fun agent =>
      ⟨agent.1, rawSignal agent.2, reading agent.2, reasoningOf agent.2⟩) := by
  induction agents with
  | nil => rfl
  | cons agent rest ih =>
      have first := (readable agent List.mem_cons_self).ofVal
      have later := ih fun other member => readable other (List.mem_cons_of_mem agent member)
      rw [toSignals, toSignal, first, later]
      rfl

theorem weightedConfidence_directionOf (bullishWeight bearishWeight : ℚ) (severe : Bool)
    (avgConfidence : Quantity)
    (directional : directionOf bullishWeight bearishWeight severe ≠ .hold) :
    weightedConfidence bullishWeight bearishWeight avgConfidence
        (directionOf bullishWeight bearishWeight severe) =
      .finite (share (max bullishWeight bearishWeight) bullishWeight bearishWeight) := by
  revert directional
  unfold directionOf
  by_cases buys : 0 < bullishWeight ∧ bearishWeight < bullishWeight ∧ ¬severe
  · rw [if_pos buys, max_eq_left buys.2.1.le]
    exact fun _ => rfl
  · rw [if_neg buys]
    by_cases sells : 0 < bearishWeight ∧ bullishWeight < bearishWeight ∧ ¬severe
    · rw [if_pos sells, max_eq_right sells.2.1.le]
      exact fun _ => rfl
    · rw [if_neg sells]
      exact fun directional => absurd rfl directional

section Proposing

variable (synthesizer : AgentSynthesizer) (event : Option String) (minConfidence : ℚ)
  (marketState : Option MarketState)

/-- What a proposal says of its direction, when the outputs can be read. -/
theorem generateProposal_eq {outputs : Dict String AgentOutput} {conflicts : List String}
    (readable : ∀ output ∈ outputs.values, Readable output)
    (found : detectConflicts outputs.entries = .ok conflicts) :
    ∃ result, synthesizer.generateProposal event outputs minConfidence marketState = .ok result ∧
      result.proposal.map TradeProposal.direction =
        (if outputs.values = [] then none else some (consensus outputs.values)) ∧
      ∀ proposal ∈ result.proposal, proposal.direction ≠ .hold →
        proposal.confidence = .finite (Text.roundTo 2 (leadingShare outputs.values)) := by
  have signals := toSignals_eq fun agent (member : agent ∈ outputs.entries) =>
    readable agent.2 (List.mem_map_of_mem member)
  have empty : outputs.values = [] ↔ outputs.entries = [] := List.map_eq_nil_iff
  unfold generateProposal aggregateSignals
  rw [signals, ok_bind, found, hasSevereConflict_eq readable]
  generalize signalled : (outputs.entries.map fun agent =>
    (⟨agent.1, rawSignal agent.2, reading agent.2, reasoningOf agent.2⟩ : AgentSignal)) = heard
  have silent : (aggregateOf heard).signals = [] ↔ outputs.values = [] := by
    have same : (aggregateOf heard).signals = heard := rfl
    rw [same, ← signalled, List.map_eq_nil_iff, empty]
  change ∃ result, (if (aggregateOf heard).signals = [] then _ else _) = _ ∧ _
  by_cases none : outputs.values = []
  · rw [if_pos (silent.mpr none)]
    refine ⟨_, rfl, by rw [if_pos none]; rfl, ?_⟩
    intro proposal member
    cases member
  · rw [if_neg fun no => none (silent.mp no)]
    refine ⟨_, rfl, by rw [if_neg none]; rfl, ?_⟩
    intro proposal member directional
    cases member
    change Quantity.round 2 (weightedConfidence ..) = _
    rw [weightedConfidence_directionOf _ _ _ _ directional]
    rfl

end Proposing

/-- A bullish agent with the better evidence and a bearish one. -/
def leaning : Dict String AgentOutput :=
  ⟨[("structure_analyst",
      ⟨(Dict.empty.set "signal" (.str "BULLISH")).set "confidence" (.num ⟨3 / 5, "0.6"⟩),
        none, none, none⟩),
    ("momentum_analyst",
      ⟨(Dict.empty.set "signal" (.str "BEARISH")).set "confidence" (.num ⟨1 / 2, "0.5"⟩),
        none, none, none⟩)],
    by decide⟩

end AgentSynthesizer

end EaBot.Agents
