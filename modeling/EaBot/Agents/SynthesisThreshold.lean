import EaBot.Agents.Synthesis
import Mathlib.Algebra.Order.BigOperators.Group.List

/-!
# The threshold of the synthesis

A confidence that cannot be read weighs nothing, but the aggregate of the outputs and the texts of
their conflicts are made from it as well, and there it raises.  The threshold for the confidence
of a proposal is never compared with it.
-/

namespace EaBot.Agents

open EaBot.Foundation

namespace AgentSynthesizer

/-- The confidence is missing, or it is not the text of a number. -/
def Unusable (output : AgentOutput) : Prop :=
  ∀ value, output.fields.get "confidence" = some value →
    (Quantity.ofVal value).toOption = none

theorem evidenceWeight_of_unusable {output : AgentOutput} (unusable : Unusable output) :
    evidenceWeight output = 0 := by
  have zero : Quantity.ofValElse ((rawConfidence output).orElse (.int 0)) 0 = .finite 0 := by
    cases given : output.fields.get "confidence" with
    | none =>
        rw [rawConfidence, given]
        rfl
    | some value =>
        have raw : rawConfidence output = value := by
          rw [rawConfidence, given]
          rfl
        rw [raw, Val.orElse]
        split
        · rw [Quantity.ofValElse, unusable value given]
          rfl
        · rfl
  have nothing : (Quantity.finite 0).clamp = 0 := by decide +kernel
  rw [evidenceWeight, zero, nothing]
  simp

theorem evidenceWeight_nonneg (output : AgentOutput) : 0 ≤ evidenceWeight output :=
  mul_nonneg (mul_nonneg (mul_nonneg (Quantity.clamp_nonneg _) (Quantity.clamp_nonneg _))
    (freshnessFactor_nonneg output)) (evidenceBoost_nonneg output)

theorem weightOf_nonneg (words : List String) (outputs : List AgentOutput) :
    0 ≤ weightOf words outputs := by
  apply List.sum_nonneg
  intro weight member
  obtain ⟨output, -, rfl⟩ := List.mem_map.mp member
  exact evidenceWeight_nonneg output

/-- A side is taken when the weights differ and there is no severe conflict. -/
theorem consensus_ne_hold_iff (outputs : List AgentOutput) :
    consensus outputs ≠ .hold ↔ ¬Severe outputs ∧
      weightOf bullishSignals outputs ≠ weightOf bearishSignals outputs := by
  have bullish := weightOf_nonneg bullishSignals outputs
  have bearish := weightOf_nonneg bearishSignals outputs
  unfold consensus directionOf
  by_cases severe : Severe outputs
  · simp [severe]
  · simp only [severe, decide_false, Bool.false_eq_true, not_false_iff, and_true, true_and]
    rcases lt_trichotomy (weightOf bullishSignals outputs) (weightOf bearishSignals outputs) with
      less | same | more
    · rw [if_neg fun both => lt_asymm less both.2, if_pos ⟨bullish.trans_lt less, less⟩]
      exact iff_of_true (by decide) less.ne
    · rw [if_neg fun both => both.2.ne' same, if_neg fun both => both.2.ne same]
      exact iff_of_false (fun other => other rfl) fun different => different same
    · rw [if_pos ⟨bearish.trans_lt more, more⟩]
      exact iff_of_true (by decide) more.ne'

theorem toSignals_isOk_iff (agents : List (String × AgentOutput)) :
    (∃ signals, toSignals agents = .ok signals) ↔ ∀ agent ∈ agents, Readable agent.2 := by
  constructor
  · induction agents with
    | nil => exact fun _ agent member => absurd member List.not_mem_nil
    | cons agent rest ih =>
        rintro ⟨signals, found⟩
        obtain ⟨signal, first, found⟩ := of_bind_eq_ok found
        obtain ⟨more, later, -⟩ := of_bind_eq_ok found
        obtain ⟨confidence, converted, -⟩ := of_bind_eq_ok first
        have readable : Readable agent.2 := by
          rw [Readable, converted]
          rfl
        exact List.forall_mem_cons.mpr ⟨readable, ih ⟨more, later⟩⟩
  · exact fun readable => ⟨_, toSignals_eq readable⟩

section Proposing

variable (synthesizer : AgentSynthesizer) (event : Option String) (minConfidence : ℚ)
  (marketState : Option MarketState)

/-- A proposal is made when all confidences convert and those of opposed outputs are numbers. -/
theorem generateProposal_isOk_iff (outputs : Dict String AgentOutput) :
    (∃ result,
        synthesizer.generateProposal event outputs minConfidence marketState = .ok result) ↔
      (∀ output ∈ outputs.values, Readable output) ∧
        ∀ output ∈ outputs.values, ∀ other ∈ outputs.values,
          opposed output other = true → Numeric output ∧ Numeric other := by
  have shown : (∃ conflicts, detectConflicts outputs.entries = .ok conflicts) ↔
      ∀ output ∈ outputs.values, ∀ other ∈ outputs.values,
        opposed output other = true → Numeric output ∧ Numeric other := by
    rw [detectConflicts_isOk_iff, Dict.values]
    simp only [List.forall_mem_map]
  have read : (∃ signals, toSignals outputs.entries = .ok signals) ↔
      ∀ output ∈ outputs.values, Readable output := by
    rw [toSignals_isOk_iff, Dict.values]
    simp only [List.forall_mem_map]
  rw [← shown]
  constructor
  · rintro ⟨result, made⟩
    obtain ⟨aggregate, aggregated, made⟩ := of_bind_eq_ok made
    obtain ⟨signals, heard, same⟩ := of_bind_eq_ok aggregated
    cases same
    refine ⟨read.mp ⟨signals, heard⟩, ?_⟩
    by_cases none : signals = []
    · have empty : outputs.entries = [] := by
        rw [toSignals_eq ((toSignals_isOk_iff _).mp ⟨signals, heard⟩)] at heard
        rw [none] at heard
        exact List.map_eq_nil_iff.mp (Except.ok.inj heard)
      rw [empty]
      exact ⟨[], rfl⟩
    · change (if signals = [] then _ else _) = _ at made
      rw [if_neg none] at made
      obtain ⟨conflicts, found, -⟩ := of_bind_eq_ok made
      exact ⟨conflicts, found⟩
  · rintro ⟨readable, conflicts, found⟩
    obtain ⟨result, made, -⟩ :=
      synthesizer.generateProposal_eq event minConfidence marketState readable found
    exact ⟨result, made⟩

/-- A proposal is always made, confidences that cannot be used weigh nothing, and a side is
proposed only with enough confidence. -/
structure Enforces (outputs : Dict String AgentOutput) : Prop where
  returns : ∃ result,
    synthesizer.generateProposal event outputs minConfidence marketState = .ok result
  weightless : ∀ output ∈ outputs.values, Unusable output → evidenceWeight output = 0
  confident : ∀ result proposal,
    synthesizer.generateProposal event outputs minConfidence marketState = .ok result →
      result.proposal = some proposal → proposal.direction ≠ .hold →
        proposal.confidence.reaches minConfidence = true

/-- Where a proposal is made, a side is proposed with the share of the larger weight. -/
theorem confident_iff {outputs : Dict String AgentOutput}
    (returns : ∃ result,
      synthesizer.generateProposal event outputs minConfidence marketState = .ok result) :
    (∀ result proposal,
      synthesizer.generateProposal event outputs minConfidence marketState = .ok result →
        result.proposal = some proposal → proposal.direction ≠ .hold →
          proposal.confidence.reaches minConfidence = true) ↔
      Severe outputs.values ∨
        weightOf bullishSignals outputs.values = weightOf bearishSignals outputs.values ∨
        minConfidence ≤ Text.roundTo 2 (leadingShare outputs.values) := by
  obtain ⟨readable, shown⟩ :=
    (synthesizer.generateProposal_isOk_iff event minConfidence marketState outputs).mp returns
  have found : ∃ conflicts, detectConflicts outputs.entries = .ok conflicts := by
    rw [detectConflicts_isOk_iff]
    exact fun agent member other member' =>
      shown agent.2 (List.mem_map_of_mem member) other.2 (List.mem_map_of_mem member')
  obtain ⟨conflicts, found⟩ := found
  obtain ⟨result, made, direction, confidence⟩ :=
    synthesizer.generateProposal_eq event minConfidence marketState readable found
  have directional := consensus_ne_hold_iff outputs.values
  constructor
  · intro enough
    by_cases severe : Severe outputs.values
    · exact Or.inl severe
    · by_cases even : weightOf bullishSignals outputs.values =
          weightOf bearishSignals outputs.values
      · exact Or.inr (Or.inl even)
      · have some : outputs.values ≠ [] := by
          intro none
          rw [none, weightOf_nil, weightOf_nil] at even
          exact even rfl
        rw [if_neg some] at direction
        obtain ⟨proposal, proposed, same⟩ := Option.map_eq_some_iff.mp direction
        have taken : proposal.direction ≠ .hold := same ▸ directional.mpr ⟨severe, even⟩
        have reached := enough result proposal made proposed taken
        rw [confidence proposal proposed taken] at reached
        exact Or.inr (Or.inr (of_decide_eq_true reached))
  · intro condition result' proposal made' proposed taken
    cases made.symm.trans made'
    have same : proposal.direction = consensus outputs.values := by
      rw [proposed] at direction
      split at direction
      · cases direction
      · exact Option.some.inj direction
    obtain ⟨calm, different⟩ := directional.mp (same ▸ taken)
    rw [confidence proposal proposed taken]
    exact decide_eq_true ((condition.resolve_left calm).resolve_left different)

/-- The threshold is enforced when the confidences can be read, and either no side is taken or
the share of the larger weight is high enough on its own. -/
theorem enforces_iff (outputs : Dict String AgentOutput) :
    synthesizer.Enforces event minConfidence marketState outputs ↔
      ((∀ output ∈ outputs.values, Readable output) ∧
        ∀ output ∈ outputs.values, ∀ other ∈ outputs.values,
          opposed output other = true → Numeric output ∧ Numeric other) ∧
      (Severe outputs.values ∨
        weightOf bullishSignals outputs.values = weightOf bearishSignals outputs.values ∨
        minConfidence ≤ Text.roundTo 2 (leadingShare outputs.values)) := by
  rw [← synthesizer.generateProposal_isOk_iff event minConfidence marketState]
  constructor
  · intro enforces
    exact ⟨enforces.returns, (synthesizer.confident_iff event minConfidence marketState
      enforces.returns).mp enforces.confident⟩
  · rintro ⟨returns, condition⟩
    exact ⟨returns, fun _ _ => evidenceWeight_of_unusable,
      (synthesizer.confident_iff event minConfidence marketState returns).mpr condition⟩

end Proposing

/-- The agents lean to one side with a share of 55 percent, and the threshold is 60. -/
theorem leaning_unenforced : ¬default.Enforces (some "EURUSD") (3 / 5) none leaning := by
  intro enforces
  have condition := (default.confident_iff (some "EURUSD") (3 / 5) none enforces.returns).mp
    enforces.confident
  revert condition
  decide +kernel

end AgentSynthesizer

end EaBot.Agents
