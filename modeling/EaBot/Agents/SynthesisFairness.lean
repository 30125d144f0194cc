import EaBot.Agents.Synthesis
import Mathlib.Algebra.Order.BigOperators.Group.List

/-!
# The fairness of the synthesis

The direction of a proposal depends on the weights of the two sides and on a severe conflict.
None of them depends on the order of the agents, and all of them are the same for both sides.

Raising the confidence of a bullish agent adds to the bullish weight, and it can raise a severe
conflict, but it cannot end one.
-/

namespace EaBot.Agents

open EaBot.Foundation

namespace AgentSynthesizer

/-- The direction that a synthesis proposes, if it proposes any. -/
def proposedDirection (result : Except String SynthesisResult) :
    Except String (Option TradeDirection) :=
  result.map fun result => result.proposal.map TradeProposal.direction

section Proposing

variable (synthesizer : AgentSynthesizer) (event : Option String) (minConfidence : ℚ)
  (marketState : Option MarketState)

/-- Numeric confidences always lead to the direction of the consensus. -/
theorem proposedDirection_eq {outputs : Dict String AgentOutput}
    (numeric : ∀ output ∈ outputs.values, Numeric output) :
    proposedDirection
        (synthesizer.generateProposal event outputs minConfidence marketState) =
      .ok (if outputs.values = [] then none else some (consensus outputs.values)) := by
  have shown : ∀ agent ∈ outputs.entries, ∀ other ∈ outputs.entries,
      opposed agent.2 other.2 = true → Numeric agent.2 ∧ Numeric other.2 :=
    fun agent member other member' _ =>
      ⟨numeric agent.2 (List.mem_map_of_mem member), numeric other.2 (List.mem_map_of_mem member')⟩
  obtain ⟨conflicts, found⟩ := (detectConflicts_isOk_iff outputs.entries).mpr shown
  obtain ⟨result, returned, direction, -⟩ := synthesizer.generateProposal_eq event minConfidence
    marketState (fun output member => (numeric output member).readable) found
  rw [returned, ← direction]
  rfl

end Proposing

/-! ## The order of the agents -/

theorem saying_perm (words : List String) {outputs others : List AgentOutput}
    (order : others.Perm outputs) : (saying words others).Perm (saying words outputs) :=
  order.filter _

theorem weightOf_perm (words : List String) {outputs others : List AgentOutput}
    (order : others.Perm outputs) : weightOf words others = weightOf words outputs :=
  ((saying_perm words order).map evidenceWeight).sum_eq

theorem severe_perm {outputs others : List AgentOutput} (order : others.Perm outputs) :
    Severe others ↔ Severe outputs := by
  have nil : ∀ words, saying words others = [] ↔ saying words outputs = [] := by
    intro words
    rw [← List.length_eq_zero_iff, (saying_perm words order).length_eq, List.length_eq_zero_iff]
  have members : ∀ output,
      output ∈ saying bullishSignals others ++ saying bearishSignals others ↔
        output ∈ saying bullishSignals outputs ++ saying bearishSignals outputs := fun output =>
    ((saying_perm bullishSignals order).append (saying_perm bearishSignals order)).mem_iff
  unfold Severe Flagged Clashing
  simp only [order.mem_iff, nil, members, Ne]

theorem consensus_perm {outputs others : List AgentOutput} (order : others.Perm outputs) :
    consensus others = consensus outputs := by
  rw [consensus, consensus, weightOf_perm _ order, weightOf_perm _ order,
    decide_eq_decide.mpr (severe_perm order)]

/-! ## The two sides -/

/-- The words of one side with the words of the other that stand for the same. -/
def counterparts : List (String × String) :=
  [("BULLISH", "BEARISH"), ("STRONG_BULLISH", "STRONG_BEARISH"), ("BUY", "SELL"),
    ("BEARISH", "BULLISH"), ("STRONG_BEARISH", "STRONG_BULLISH"), ("SELL", "BUY")]

/-- The output with another value in a field. -/
def withField (output : AgentOutput) (name : String) (value : Val) : AgentOutput :=
  { output with fields := output.fields.set name value }

theorem get_withField_of_ne (output : AgentOutput) {name other : String} (value : Val)
    (different : other ≠ name) :
    (withField output name value).fields.get other = output.fields.get other :=
  Dict.get_set_of_ne _ different value

/-- The output with the signal of the other side, when it has the signal of a side. -/
def mirror (output : AgentOutput) : AgentOutput :=
  match Entries.get (word output) counterparts with
  | some other => withField output "signal" (.str other)
  | none => output

/-- Two outputs that differ in nothing but their signals. -/
structure SameEvidence (output other : AgentOutput) : Prop where
  weight : evidenceWeight output = evidenceWeight other
  confidence : rawConfidence output = rawConfidence other
  unresolved : unresolvedConflict output = unresolvedConflict other

theorem SameEvidence.reading {output other : AgentOutput} (same : SameEvidence output other) :
    reading output = reading other := by
  rw [AgentSynthesizer.reading, AgentSynthesizer.reading, same.confidence]

/-- The fields that a weight and a conflict are made from. -/
def evidenceFields : List String :=
  ["confidence", "evidence_quality", "data_quality", "freshness", "unresolved_conflict"]

theorem sameEvidence_of_fields {output other : AgentOutput}
    (same : ∀ name ∈ evidenceFields, output.fields.get name = other.fields.get name)
    (evidence : output.evidence = other.evidence) : SameEvidence output other := by
  have confidence : rawConfidence output = rawConfidence other := by
    rw [rawConfidence, rawConfidence, same _ (by decide)]
  have unresolved : unresolvedConflict output = unresolvedConflict other := by
    rw [unresolvedConflict, unresolvedConflict, same _ (by decide)]
  have quality : readQuality output = readQuality other := by
    rw [readQuality, readQuality, same "evidence_quality" (by decide),
      same "data_quality" (by decide)]
  have freshness : freshnessFactor output = freshnessFactor other := by
    rw [freshnessFactor, freshnessFactor, same _ (by decide), unresolved]
  have boost : evidenceBoost output = evidenceBoost other := by
    rw [evidenceBoost, evidenceBoost, evidence]
  refine ⟨?_, confidence, unresolved⟩
  rw [evidenceWeight, evidenceWeight, confidence, quality, freshness, boost]

theorem sameEvidence_mirror (output : AgentOutput) : SameEvidence (mirror output) output := by
  unfold mirror
  cases Entries.get (word output) counterparts with
  | none => exact ⟨rfl, rfl, rfl⟩
  | some other =>
      refine sameEvidence_of_fields ?_ rfl
      intro name member
      apply get_withField_of_ne
      rintro rfl
      revert member
      decide

/-- The signal of the mirrored output is a word of the other side, and as strong. -/
theorem word_mirror (output : AgentOutput) :
    (word (mirror output) ∈ bullishSignals ↔ word output ∈ bearishSignals) ∧
      (word (mirror output) ∈ bearishSignals ↔ word output ∈ bullishSignals) ∧
      (word (mirror output) = "BULLISH" ∨ word (mirror output) = "BEARISH" ↔
        word output = "BULLISH" ∨ word output = "BEARISH") := by
  have paired : ∀ pair ∈ counterparts,
      (Text.upperWord pair.2 ∈ bullishSignals ↔ pair.1 ∈ bearishSignals) ∧
        (Text.upperWord pair.2 ∈ bearishSignals ↔ pair.1 ∈ bullishSignals) ∧
        (Text.upperWord pair.2 = "BULLISH" ∨ Text.upperWord pair.2 = "BEARISH" ↔
          pair.1 = "BULLISH" ∨ pair.1 = "BEARISH") := by
    decide +kernel
  have known : ∀ signal ∈ bullishSignals ++ bearishSignals,
      Entries.get signal counterparts ≠ none := by
    decide
  unfold mirror
  cases found : Entries.get (word output) counterparts with
  | none =>
      have outside : word output ∉ bullishSignals ++ bearishSignals := fun member =>
        known _ member found
      rw [List.mem_append, not_or] at outside
      exact ⟨iff_of_false outside.1 outside.2, iff_of_false outside.2 outside.1, Iff.rfl⟩
  | some other =>
      have distinct : (counterparts.map Prod.fst).Nodup := by decide
      have pair := paired _ ((Entries.mem_iff_get distinct _ _).mpr found)
      have signal : rawSignal (withField output "signal" (.str other)) = .str other := by
        rw [rawSignal, withField, Dict.get_set_self]
        rfl
      unfold word at pair ⊢
      rw [signal]
      exact pair

theorem saying_map_mirror {words others : List String}
    (same : ∀ output, word (mirror output) ∈ words ↔ word output ∈ others)
    (outputs : List AgentOutput) :
    saying words (outputs.map mirror) = (saying others outputs).map mirror := by
  rw [saying, saying, List.filter_map]
  refine congrArg (List.map mirror) (List.filter_congr fun output _ => ?_)
  rw [Function.comp_apply]
  apply Bool.eq_iff_iff.mpr
  rw [List.contains_iff_mem, List.contains_iff_mem]
  exact same output

theorem saying_mirror (outputs : List AgentOutput) :
    saying bullishSignals (outputs.map mirror) = (saying bearishSignals outputs).map mirror ∧
      saying bearishSignals (outputs.map mirror) = (saying bullishSignals outputs).map mirror :=
  ⟨saying_map_mirror (fun output => (word_mirror output).1) outputs,
    saying_map_mirror (fun output => (word_mirror output).2.1) outputs⟩

theorem weightOf_mirror (outputs : List AgentOutput) :
    weightOf bullishSignals (outputs.map mirror) = weightOf bearishSignals outputs ∧
      weightOf bearishSignals (outputs.map mirror) = weightOf bullishSignals outputs := by
  have weights : evidenceWeight ∘ mirror = evidenceWeight :=
    funext fun output => (sameEvidence_mirror output).weight
  unfold weightOf
  rw [(saying_mirror outputs).1, (saying_mirror outputs).2, List.map_map, List.map_map, weights]
  exact ⟨rfl, rfl⟩

theorem severe_mirror (outputs : List AgentOutput) :
    Severe (outputs.map mirror) ↔ Severe outputs := by
  have flagged : Flagged (outputs.map mirror) ↔ Flagged outputs := by
    unfold Flagged
    simp only [List.mem_map, exists_exists_and_eq_and, (word_mirror _).2.2,
      (sameEvidence_mirror _).reading, (sameEvidence_mirror _).unresolved]
  have clashing : Clashing (outputs.map mirror) ↔ Clashing outputs := by
    unfold Clashing
    rw [(saying_mirror outputs).1, (saying_mirror outputs).2, ← List.map_append]
    simp only [Ne, List.map_eq_nil_iff, List.forall_mem_map, (sameEvidence_mirror _).reading,
      List.mem_append]
    constructor
    · rintro ⟨bears, bulls, confident⟩
      exact ⟨bulls, bears, fun output member => confident output member.symm⟩
    · rintro ⟨bulls, bears, confident⟩
      exact ⟨bears, bulls, fun output member => confident output member.symm⟩
  exact or_congr flagged clashing

theorem directionOf_swap (bullishWeight bearishWeight : ℚ) (severe : Bool) :
    directionOf bearishWeight bullishWeight severe =
      (directionOf bullishWeight bearishWeight severe).opposite := by
  unfold directionOf
  by_cases buys : 0 < bullishWeight ∧ bearishWeight < bullishWeight ∧ ¬severe
  · have sells : ¬(0 < bearishWeight ∧ bullishWeight < bearishWeight ∧ ¬severe) :=
      fun both => lt_asymm buys.2.1 both.2.1
    rw [if_neg sells, if_pos buys, if_pos buys]
    rfl
  · rw [if_neg buys, if_neg buys]
    by_cases sells : 0 < bearishWeight ∧ bullishWeight < bearishWeight ∧ ¬severe
    · rw [if_pos sells, if_pos sells]
      rfl
    · rw [if_neg sells, if_neg sells]
      rfl

theorem consensus_mirror (outputs : List AgentOutput) :
    consensus (outputs.map mirror) = (consensus outputs).opposite := by
  rw [consensus, consensus, (weightOf_mirror outputs).1, (weightOf_mirror outputs).2,
    decide_eq_decide.mpr (severe_mirror outputs), directionOf_swap]

/-! ## Raised evidence -/

/-- The same signal with more evidence behind it. -/
structure Raised (output raised : AgentOutput) : Prop where
  word : word raised = word output
  unresolved : unresolvedConflict raised = unresolvedConflict output
  weight : evidenceWeight output ≤ evidenceWeight raised
  reading : ∀ bound, (reading output).reaches bound = true →
    (reading raised).reaches bound = true

theorem weightOf_split (words : List String) (before after : List AgentOutput)
    (output : AgentOutput) :
    weightOf words (before ++ output :: after) =
      weightOf words before +
        ((if words.contains (word output) then evidenceWeight output else 0) +
          weightOf words after) := by
  unfold weightOf saying
  rw [List.filter_append, List.map_append, List.sum_append, List.filter_cons]
  split
  · rw [List.map_cons, List.sum_cons]
  · rw [zero_add]

theorem saying_ne_nil_iff (words : List String) (outputs : List AgentOutput) :
    saying words outputs ≠ [] ↔ ∃ output ∈ outputs, word output ∈ words := by
  simp [saying, List.filter_eq_nil_iff]

theorem clashing_iff (outputs : List AgentOutput) :
    Clashing outputs ↔ (∃ output ∈ outputs, word output ∈ bullishSignals) ∧
      (∃ output ∈ outputs, word output ∈ bearishSignals) ∧
      ∀ output ∈ outputs, word output ∈ bullishSignals ∨ word output ∈ bearishSignals →
        (reading output).reaches (7 / 10) = true := by
  have members : ∀ output, output ∈ saying bullishSignals outputs ++ saying bearishSignals outputs ↔
      output ∈ outputs ∧ (word output ∈ bullishSignals ∨ word output ∈ bearishSignals) := by
    intro output
    simp [saying, and_or_left]
  simp only [Clashing, saying_ne_nil_iff, members, and_imp]

/-- More evidence for one of the sides does not end a severe conflict. -/
theorem severe_raised {before after : List AgentOutput} {output raised : AgentOutput}
    (more : Raised output raised) (severe : Severe (before ++ output :: after)) :
    Severe (before ++ raised :: after) := by
  have some : ∀ condition : AgentOutput → Prop, (condition output → condition raised) →
      (∃ other ∈ before ++ output :: after, condition other) →
        ∃ other ∈ before ++ raised :: after, condition other := by
    rintro condition kept ⟨other, member, holds⟩
    rcases List.mem_append.mp member with earlier | later
    · exact ⟨other, List.mem_append_left _ earlier, holds⟩
    · rcases List.mem_cons.mp later with rfl | later
      · exact ⟨raised, List.mem_append_right _ List.mem_cons_self, kept holds⟩
      · exact ⟨other, List.mem_append_right _ (List.mem_cons_of_mem _ later), holds⟩
  rcases severe with flagged | clashing
  · left
    refine some _ ?_ flagged
    rintro ⟨directional, sure, unresolved⟩
    exact ⟨more.word ▸ directional, more.reading _ sure, more.unresolved.trans unresolved⟩
  · right
    obtain ⟨bulls, bears, confident⟩ := (clashing_iff _).mp clashing
    refine (clashing_iff _).mpr ⟨?_, ?_, ?_⟩
    · exact some _ (fun bullish => more.word ▸ bullish) bulls
    · exact some _ (fun bearish => more.word ▸ bearish) bears
    · rw [List.forall_mem_append, List.forall_mem_cons] at confident ⊢
      exact ⟨confident.1, fun directional =>
        more.reading _ (confident.2.1 (more.word ▸ directional)), confident.2.2⟩

theorem directionOf_eq_sell_iff (bullishWeight bearishWeight : ℚ) (severe : Bool) :
    directionOf bullishWeight bearishWeight severe = .sell ↔
      0 < bearishWeight ∧ bullishWeight < bearishWeight ∧ ¬severe := by
  unfold directionOf
  by_cases buys : 0 < bullishWeight ∧ bearishWeight < bullishWeight ∧ ¬severe
  · rw [if_pos buys]
    exact iff_of_false (by decide) fun sells => lt_asymm buys.2.1 sells.2.1
  · rw [if_neg buys]
    split
    · exact iff_of_true rfl ‹_›
    · exact iff_of_false (by decide) ‹_›

/-- More evidence for the bullish side does not make the outputs bearish. -/
theorem consensus_raised {before after : List AgentOutput} {output raised : AgentOutput}
    (bullish : word output ∈ bullishSignals) (more : Raised output raised)
    (sells : consensus (before ++ raised :: after) = .sell) :
    consensus (before ++ output :: after) = .sell := by
  have bullishWeight : weightOf bullishSignals (before ++ output :: after) ≤
      weightOf bullishSignals (before ++ raised :: after) := by
    rw [weightOf_split, weightOf_split, more.word, if_pos (List.contains_iff_mem.mpr bullish),
      if_pos (List.contains_iff_mem.mpr bullish)]
    exact add_le_add_right (add_le_add_left more.weight _) _
  have bearishWeight : weightOf bearishSignals (before ++ output :: after) =
      weightOf bearishSignals (before ++ raised :: after) := by
    have apart : ∀ signal ∈ bullishSignals, ¬bearishSignals.contains signal = true := by decide
    rw [weightOf_split, weightOf_split, more.word, if_neg (apart _ bullish),
      if_neg (apart _ bullish)]
  rw [consensus, directionOf_eq_sell_iff] at sells ⊢
  obtain ⟨positive, less, calm⟩ := sells
  refine ⟨bearishWeight ▸ positive, ?_, ?_⟩
  · rw [bearishWeight]
    exact lt_of_le_of_lt bullishWeight less
  · intro severe
    exact calm (decide_eq_true (severe_raised more (of_decide_eq_true severe)))

theorem evidenceWeight_eq {output : AgentOutput} (readable : Readable output) :
    evidenceWeight output =
      (reading output).clamp * (readQuality output).clamp * freshnessFactor output *
        evidenceBoost output := by
  have confidence : Quantity.ofValElse ((rawConfidence output).orElse (.int 0)) 0 =
      reading output := by
    rw [Quantity.ofValElse, readable.ofVal_orElse]
    rfl
  rw [evidenceWeight, confidence]

theorem reading_number {output : AgentOutput} {number : ℚ}
    (known : (rawConfidence output).number? = some number) :
    reading output = .finite number := by
  rw [reading, Quantity.ofValElse, Quantity.ofVal_number known]
  rfl

section Fields

variable (output : AgentOutput) {value : Val} {number : ℚ} (known : value.number? = some number)

include known

theorem rawConfidence_withField :
    (rawConfidence (withField output "confidence" value)).number? = some number := by
  rw [rawConfidence, withField, Dict.get_set_self]
  exact known

theorem readQuality_withField :
    readQuality (withField output "evidence_quality" value) = .finite number := by
  have present : value ≠ .none := by
    rintro rfl
    cases known
  rw [readQuality, withField, Dict.get_set_self]
  dsimp only [Option.getD_some]
  rw [if_neg present, Quantity.ofValElse, Quantity.ofVal_number known]
  rfl

/-- A higher confidence is more evidence. -/
theorem raised_confidence {old : ℚ} (before : (rawConfidence output).number? = some old)
    (higher : old ≤ number) : Raised output (withField output "confidence" value) := by
  have same : ∀ name, name ≠ "confidence" →
      (withField output "confidence" value).fields.get name = output.fields.get name :=
    fun name different => get_withField_of_ne output value different
  have after := rawConfidence_withField output known
  have readable : Readable output := Numeric.readable (Option.isSome_of_mem before)
  have readable' : Readable (withField output "confidence" value) :=
    Numeric.readable (Option.isSome_of_mem after)
  have unresolved : unresolvedConflict (withField output "confidence" value) =
      unresolvedConflict output := by
    rw [unresolvedConflict, unresolvedConflict, same _ (by decide)]
  have quality : readQuality (withField output "confidence" value) = readQuality output := by
    rw [readQuality, readQuality, same "evidence_quality" (by decide),
      same "data_quality" (by decide)]
  have freshness : freshnessFactor (withField output "confidence" value) =
      freshnessFactor output := by
    rw [freshnessFactor, freshnessFactor, same _ (by decide), unresolved]
  have boost : evidenceBoost (withField output "confidence" value) = evidenceBoost output := rfl
  constructor
  · rw [word, word, rawSignal, rawSignal, same _ (by decide)]
  · exact unresolved
  · rw [evidenceWeight_eq readable, evidenceWeight_eq readable', quality, freshness, boost,
      reading_number before, reading_number after]
    have factor : 0 ≤ freshnessFactor output := freshnessFactor_nonneg output
    have boosted : 0 ≤ evidenceBoost output := evidenceBoost_nonneg output
    gcongr
    · exact Quantity.clamp_nonneg _
    · exact Quantity.clamp_mono higher
  · intro bound reached
    rw [reading_number before] at reached
    rw [reading_number after]
    exact decide_eq_true ((of_decide_eq_true reached).trans higher)

/-- A higher quality is more evidence. -/
theorem raised_quality {old : ℚ} (numeric : Numeric output)
    (before : readQuality output = .finite old) (higher : old ≤ number) :
    Raised output (withField output "evidence_quality" value) := by
  have same : ∀ name, name ≠ "evidence_quality" →
      (withField output "evidence_quality" value).fields.get name = output.fields.get name :=
    fun name different => get_withField_of_ne output value different
  have after := readQuality_withField output known
  have confidence : rawConfidence (withField output "evidence_quality" value) =
      rawConfidence output := by
    rw [rawConfidence, rawConfidence, same _ (by decide)]
  have readable : Readable (withField output "evidence_quality" value) := by
    rw [Readable, confidence]
    exact numeric.readable
  have unresolved : unresolvedConflict (withField output "evidence_quality" value) =
      unresolvedConflict output := by
    rw [unresolvedConflict, unresolvedConflict, same _ (by decide)]
  have freshness : freshnessFactor (withField output "evidence_quality" value) =
      freshnessFactor output := by
    rw [freshnessFactor, freshnessFactor, same _ (by decide), unresolved]
  have boost : evidenceBoost (withField output "evidence_quality" value) =
      evidenceBoost output := rfl
  have read : reading (withField output "evidence_quality" value) = reading output := by
    rw [reading, reading, confidence]
  constructor
  · rw [word, word, rawSignal, rawSignal, same _ (by decide)]
  · exact unresolved
  · rw [evidenceWeight_eq numeric.readable, evidenceWeight_eq readable, read, freshness, boost,
      before, after]
    have factor : 0 ≤ freshnessFactor output := freshnessFactor_nonneg output
    have boosted : 0 ≤ evidenceBoost output := evidenceBoost_nonneg output
    have sure : 0 ≤ (reading output).clamp := Quantity.clamp_nonneg _
    gcongr
    exact Quantity.clamp_mono higher
  · intro bound reached
    rw [read]
    exact reached

end Fields

/-! ## Fairness -/

section Proposing

variable (synthesizer : AgentSynthesizer) (event : Option String) (minConfidence : ℚ)
  (marketState : Option MarketState)

/-- The direction that is proposed for some outputs. -/
def directionFor (outputs : Dict String AgentOutput) : Except String (Option TradeDirection) :=
  proposedDirection (synthesizer.generateProposal event outputs minConfidence marketState)

/-- A change of the outputs that turns neither a proposal to buy nor one to hold into a proposal
to sell. -/
def KeepsFromSelling (outputs changed : Dict String AgentOutput) : Prop :=
  (synthesizer.directionFor event minConfidence marketState outputs = .ok (some .buy) ∨
      synthesizer.directionFor event minConfidence marketState outputs = .ok (some .hold)) →
    synthesizer.directionFor event minConfidence marketState changed ≠ .ok (some .sell)

/-- The outputs are treated fairly: a direction is found, in any order of the agents the same one,
with the two sides exchanged the opposite one, and more evidence of a bullish agent never makes it
bearish. -/
structure FairTo (outputs : Dict String AgentOutput) : Prop where
  found : ∃ proposed,
    synthesizer.directionFor event minConfidence marketState outputs = .ok proposed
  ordered : ∀ others : Dict String AgentOutput, others.entries.Perm outputs.entries →
    synthesizer.directionFor event minConfidence marketState others =
      synthesizer.directionFor event minConfidence marketState outputs
  mirrored : synthesizer.directionFor event minConfidence marketState (outputs.mapValues mirror) =
    (synthesizer.directionFor event minConfidence marketState outputs).map
      (Option.map TradeDirection.opposite)
  confident : ∀ name output, outputs.get name = some output → word output ∈ bullishSignals →
    ∀ old value number, (rawConfidence output).number? = some old →
      value.number? = some number → old ≤ number →
        synthesizer.KeepsFromSelling event minConfidence marketState outputs
          (outputs.set name (withField output "confidence" value))
  supported : ∀ name output, outputs.get name = some output → word output ∈ bullishSignals →
    ∀ old value number, readQuality output = .finite old → value.number? = some number →
      old ≤ number →
        synthesizer.KeepsFromSelling event minConfidence marketState outputs
          (outputs.set name (withField output "evidence_quality" value))

/-- More evidence of a bullish agent does not make a proposal bearish. -/
theorem keepsFromSelling_of_raised {outputs : Dict String AgentOutput}
    (numeric : ∀ output ∈ outputs.values, Numeric output) {name : String}
    {output raised : AgentOutput} (held : outputs.get name = some output)
    (bullish : word output ∈ bullishSignals) (more : Raised output raised)
    (still : Numeric raised) :
    synthesizer.KeepsFromSelling event minConfidence marketState outputs
      (outputs.set name raised) := by
  obtain ⟨before, after, whole, changed⟩ := outputs.values_split_of_get held
  have numeric' : ∀ output ∈ (outputs.set name raised).values, Numeric output := by
    rw [whole, List.forall_mem_append, List.forall_mem_cons] at numeric
    rw [changed, List.forall_mem_append, List.forall_mem_cons]
    exact ⟨numeric.1, still, numeric.2.2⟩
  have some : ∀ output : AgentOutput, before ++ output :: after ≠ [] := fun _ =>
    List.append_ne_nil_of_right_ne_nil _ (List.cons_ne_nil _ _)
  unfold KeepsFromSelling directionFor
  rw [proposedDirection_eq _ _ _ _ numeric, proposedDirection_eq _ _ _ _ numeric', whole, changed,
    if_neg (some _), if_neg (some _)]
  intro kept sells
  have sold := consensus_raised bullish more (Option.some.inj (Except.ok.inj sells))
  rw [sold] at kept
  rcases kept with buys | holds
  · cases buys
  · cases holds

/-- The synthesis of outputs with numeric confidences is fair. -/
theorem fairTo_of_numeric {outputs : Dict String AgentOutput}
    (numeric : ∀ output ∈ outputs.values, Numeric output) :
    synthesizer.FairTo event minConfidence marketState outputs := by
  constructor
  · exact ⟨_, proposedDirection_eq synthesizer event minConfidence marketState numeric⟩
  · intro others order
    have values : others.values.Perm outputs.values := order.map Prod.snd
    have numeric' : ∀ output ∈ others.values, Numeric output :=
      fun output member => numeric output (values.mem_iff.mp member)
    have empty : others.values = [] ↔ outputs.values = [] := by
      rw [← List.length_eq_zero_iff, values.length_eq, List.length_eq_zero_iff]
    unfold directionFor
    rw [proposedDirection_eq _ _ _ _ numeric, proposedDirection_eq _ _ _ _ numeric',
      consensus_perm values]
    simp only [empty]
  · have values : (outputs.mapValues mirror).values = outputs.values.map mirror := by
      simp [Dict.values, Dict.mapValues]
    have numeric' : ∀ output ∈ (outputs.mapValues mirror).values, Numeric output := by
      rw [values, List.forall_mem_map]
      intro output member
      rw [Numeric, (sameEvidence_mirror output).confidence]
      exact numeric output member
    unfold directionFor
    rw [proposedDirection_eq _ _ _ _ numeric, proposedDirection_eq _ _ _ _ numeric', values,
      consensus_mirror]
    simp only [List.map_eq_nil_iff]
    split <;> rfl
  · intro name output held bullish old value number before known higher
    exact synthesizer.keepsFromSelling_of_raised event minConfidence marketState numeric held
      bullish (raised_confidence output known before higher)
      (Option.isSome_of_mem (rawConfidence_withField output known))
  · intro name output held bullish old value number before known higher
    have was : Numeric output :=
      numeric output ((outputs.mem_values_iff output).mpr ⟨name, held⟩)
    have still : Numeric (withField output "evidence_quality" value) := by
      rw [Numeric, rawConfidence, get_withField_of_ne _ _ (by decide)]
      exact was
    exact synthesizer.keepsFromSelling_of_raised event minConfidence marketState numeric held
      bullish (raised_quality output known was before higher) still

theorem leaning_fair :
    (∀ output ∈ leaning.values, Numeric output) ∧
      default.FairTo (some "EURUSD") (3 / 5) none leaning :=
  ⟨by decide, fairTo_of_numeric default (some "EURUSD") (3 / 5) none (by decide)⟩

end Proposing

end AgentSynthesizer

end EaBot.Agents
