import EaBot.Foundation.Run
import EaBot.Strategy.Lifecycle

/-!
# Governed promotions

An observer writes down the states in which it has seen each version, and the proposals that
were refused since the version last changed.  The checklist of a proposal does not read the
state of the version, so a promotion keeps the order of the chain exactly when the version
stands before the target, or beyond it.
-/

namespace EaBot.Strategy

open EaBot.Foundation

variable {α : Type}

/-- An operation of a governor, or of the holder of a version. -/
inductive GovernorOperation (α : Type)
  | register (version : StrategyVersion α)
  | advance (key : String × Int) (evidence : List (String × String)) (actor : String)
  | reject (key : String × Int) (reason actor : String)
  | archive (key : String × Int) (actor : String)
  | propose (proposal : PromotionProposal)
  | amend (key : String × Int) (riskPolicyId : String) (evidence : List (String × String))

namespace PromotionProposal

/-- The version that a proposal is for. -/
def key (proposal : PromotionProposal) : String × Int :=
  (proposal.strategyId, proposal.version)

end PromotionProposal

namespace LifecycleGovernor

/-- Perform an operation at a time.  A proposal that is answered gives its result. -/
def perform (governor : LifecycleGovernor α) (now : String) :
    GovernorOperation α → Option PromotionResult × LifecycleGovernor α
  | .register version => (none, (governor.register version).2)
  | .advance key evidence actor => (none, (governor.advance key evidence actor now).2)
  | .reject key reason actor => (none, (governor.reject key reason actor now).2)
  | .archive key actor => (none, (governor.archive key actor now).2)
  | .propose proposal =>
      let answer := governor.propose proposal now
      (answer.1.toOption, answer.2)
  | .amend key riskPolicyId evidence => (none, governor.amend key riskPolicyId evidence)

/-- A proposal for a known version is judged. -/
theorem perform_propose {governor : LifecycleGovernor α} {proposal : PromotionProposal}
    {version : StrategyVersion α} (held : governor.versions.get proposal.key = some version)
    (now : String) :
    governor.perform now (.propose proposal) =
      (some (version.judged proposal now).1,
        ⟨governor.versions.set proposal.key (version.judged proposal now).2⟩) := by
  rw [perform, propose, ← PromotionProposal.key, change, held]
  rfl

theorem perform_propose_unknown {governor : LifecycleGovernor α} {proposal : PromotionProposal}
    (missing : governor.versions.get proposal.key = none) (now : String) :
    governor.perform now (.propose proposal) = (none, governor) := by
  rw [perform, propose, ← PromotionProposal.key, change, missing]
  rfl

end LifecycleGovernor

namespace GovernorOperation

/-- The proposal that an operation has refused. -/
def refusal (operation : GovernorOperation α) (answer : Option PromotionResult) :
    Option PromotionProposal :=
  match operation, answer with
  | propose proposal, some result => if result.approved then none else some proposal
  | _, _ => none

end GovernorOperation

/-- What an observer knows of a version: the states it was seen in, one after another, and the
proposals refused since its evidence, its policy or its state changed. -/
structure Watch where
  trail : List LifecycleState
  refused : List PromotionProposal

namespace Watch

/-- Nothing has been seen. -/
def blank : Watch :=
  ⟨[], []⟩

/-- The evidence, the policy and the state are as before. -/
def Unchanged (before : Option (StrategyVersion α)) (after : StrategyVersion α) : Prop :=
  before.map (fun version =>
      (version.status, version.riskPolicyId, version.evidence.entries)) =
    some (after.status, after.riskPolicyId, after.evidence.entries)

instance (before : Option (StrategyVersion α)) (after : StrategyVersion α) :
    Decidable (Unchanged before after) :=
  inferInstanceAs (Decidable (_ = _))

/-- Write down a state, when it is not the one that was seen last. -/
def extend (trail : List LifecycleState) (status : LifecycleState) : List LifecycleState :=
  if trail.getLast? = some status then trail else trail ++ [status]

/-- Look at a version. -/
def observe (watch : Watch) (before : Option (StrategyVersion α)) (after : StrategyVersion α) :
    Watch where
  trail := extend watch.trail after.status
  refused := if Unchanged before after then watch.refused else []

/-- Note a refusal. -/
def note (watch : Watch) (proposal : PromotionProposal) : Watch :=
  { watch with refused := proposal :: watch.refused }

end Watch

/-- A governor under observation. -/
structure Oversight (α : Type) where
  governor : LifecycleGovernor α
  watch : String × Int → Watch

namespace Oversight

/-- A governor without versions. -/
def initial : Oversight α :=
  ⟨LifecycleGovernor.initial, fun _ => Watch.blank⟩

/-- What is seen of a version after an operation. -/
def seen (oversight : Oversight α) (governor : LifecycleGovernor α)
    (refusal : Option PromotionProposal) (key : String × Int) : Watch :=
  match governor.versions.get key with
  | none => oversight.watch key
  | some after =>
      let watch := (oversight.watch key).observe (oversight.governor.versions.get key) after
      match refusal with
      | some proposal => if proposal.key = key then watch.note proposal else watch
      | none => watch

/-- One operation, at a time. -/
def step (oversight : Oversight α) (input : String × GovernorOperation α) : Oversight α :=
  let performed := oversight.governor.perform input.1 input.2
  ⟨performed.2, oversight.seen performed.2 (input.2.refusal performed.1)⟩

/-- A version has passed through every earlier state in order and was never rejected or
archived. -/
structure Earned (status : LifecycleState) (trail : List LifecycleState) : Prop where
  chain : (LifecycleState.forward.take (LifecycleState.forward.idxOf status)).Sublist trail
  notRejected : .rejected ∉ trail
  notArchived : .archived ∉ trail

/-- After the operation every version in a production state has earned it, and a refused
proposal that is repeated is refused again. -/
structure Governed (oversight : Oversight α) (input : String × GovernorOperation α) : Prop where
  earned : ∀ key version, (oversight.step input).governor.versions.get key = some version →
    version.status ∈ LifecycleState.productionStates →
    Earned version.status ((oversight.step input).watch key).trail
  again : ∀ proposal, input.2 = .propose proposal →
    proposal ∈ (oversight.watch proposal.key).refused →
    input.2.refusal (oversight.governor.perform input.1 input.2).1 = some proposal

/-- The states from which a version may be promoted. -/
def MayBecome (status target : LifecycleState) : Prop :=
  (status, target) ∈ [(LifecycleState.candidate, LifecycleState.approved), (.approved, .approved),
    (.production, .approved), (.approved, .production), (.production, .production)]

instance (status target : LifecycleState) : Decidable (MayBecome status target) :=
  inferInstanceAs (Decidable (_ ∈ _))

/-- A proposal that passes the checklist finds its version before the target or beyond. -/
def Stepwise (oversight : Oversight α) (input : String × GovernorOperation α) : Prop :=
  ∀ proposal, input.2 = .propose proposal →
    ∀ version target, oversight.governor.versions.get proposal.key = some version →
      productionTarget? proposal.target = some target → version.objections = [] →
      MayBecome version.status target

/-- What a trail says of the state that was seen last. -/
structure Trailed (status : LifecycleState) (trail : List LifecycleState) : Prop where
  last : trail.getLast? = some status
  climbing : status ∈ LifecycleState.forward → status ∉ LifecycleState.productionStates →
    trail = LifecycleState.forward.take (LifecycleState.forward.idxOf status + 1)
  promoted : status ∈ LifecycleState.productionStates →
    (LifecycleState.forward.take (LifecycleState.forward.idxOf status + 1)).Sublist trail ∧
      .rejected ∉ trail ∧ .archived ∉ trail

namespace Trailed

variable {status : LifecycleState} {trail : List LifecycleState}

theorem earned (trailed : Trailed status trail)
    (production : status ∈ LifecycleState.productionStates) : Earned status trail := by
  rcases trailed.promoted production with ⟨chain, notRejected, notArchived⟩
  have earlier := List.take_sublist_take_left (l := LifecycleState.forward)
    (Nat.le_succ (LifecycleState.forward.idxOf status))
  exact ⟨earlier.trans chain, notRejected, notArchived⟩

theorem extend_self (trailed : Trailed status trail) : Watch.extend trail status = trail :=
  if_pos trailed.last

/-- A new version is a draft. -/
theorem draft : Trailed .draft (Watch.extend [] .draft) where
  last := rfl
  climbing := fun _ _ => rfl
  promoted := fun production => absurd production (by decide)

/-- A version that advances goes on in the chain. -/
theorem advance (trailed : Trailed status trail) {next : LifecycleState}
    (following : LifecycleState.forward[LifecycleState.forward.idxOf status + 1]? = some next)
    (notEnded : status ∉ LifecycleState.terminal)
    (notPromoted : status ∉ LifecycleState.productionStates)
    (notGated : next ∉ LifecycleState.productionStates) :
    Trailed next (Watch.extend trail next) := by
  have climbing := trailed.climbing
  cases status with
  | rejected | archived => exact absurd (by decide) notEnded
  | approved | production => exact absurd (by decide) notPromoted
  | candidate =>
      have gated : LifecycleState.approved = next := Option.some.inj following
      exact absurd (by rw [← gated]; decide) notGated
  | draft | experiment | backtested | walkForwardPassed | paper | demo =>
      have seen := climbing (by decide) (by decide)
      have step := Option.some.inj following
      rw [seen, ← step]
      exact ⟨by decide, fun _ _ => by decide, fun production => absurd production (by decide)⟩

/-- The states without a way forward are not on the chain. -/
theorem apart {next : LifecycleState} :
    next ∈ LifecycleState.terminal →
      next ∉ LifecycleState.forward ∧ next ∉ LifecycleState.productionStates := by
  cases next <;> decide

/-- A version may be rejected and archived in every state. -/
theorem ended (_ : Trailed status trail) {next : LifecycleState}
    (terminal : next ∈ LifecycleState.terminal) : Trailed next (Watch.extend trail next) where
  last := by
    rw [Watch.extend]
    split
    · assumption
    · exact List.getLast?_concat
  climbing := fun chain => absurd chain (apart terminal).1
  promoted := fun production => absurd production (apart terminal).2

theorem extend_last (trail : List LifecycleState) (next : LifecycleState) :
    (Watch.extend trail next).getLast? = some next := by
  rw [Watch.extend]
  split
  · assumption
  · exact List.getLast?_concat

/-- A version that stands before the target or beyond is promoted in order. -/
theorem promote (trailed : Trailed status trail) {target : LifecycleState}
    (may : MayBecome status target) : Trailed target (Watch.extend trail target) := by
  have climbing := trailed.climbing
  have promoted := trailed.promoted
  have last := trailed.last
  simp only [MayBecome, List.mem_cons, Prod.mk.injEq, List.not_mem_nil, or_false] at may
  rcases may with ⟨rfl, rfl⟩ | ⟨rfl, rfl⟩ | ⟨rfl, rfl⟩ | ⟨rfl, rfl⟩ | ⟨rfl, rfl⟩
  · rw [climbing (by decide) (by decide)]
    exact ⟨by decide, fun _ gated => absurd (by decide) gated, fun _ => by decide⟩
  · rw [trailed.extend_self]
    exact trailed
  · rcases promoted (by decide) with ⟨chain, notRejected, notArchived⟩
    have grown : Watch.extend trail .approved = trail ++ [.approved] :=
      if_neg (by rw [last]; decide)
    have earlier : (LifecycleState.forward.take 8).Sublist (LifecycleState.forward.take 9) :=
      List.take_sublist_take_left (by decide)
    refine ⟨extend_last _ _, fun _ gated => absurd (by decide) gated, fun _ => ?_⟩
    rw [grown]
    exact ⟨(earlier.trans chain).trans (List.sublist_append_left _ _),
      by simp [notRejected], by simp [notArchived]⟩
  · rcases promoted (by decide) with ⟨chain, notRejected, notArchived⟩
    have grown : Watch.extend trail .production = trail ++ [.production] :=
      if_neg (by rw [last]; decide)
    refine ⟨extend_last _ _, fun _ gated => absurd (by decide) gated, fun _ => ?_⟩
    rw [grown]
    exact ⟨chain.append (List.Sublist.refl [LifecycleState.production]),
      by simp [notRejected], by simp [notArchived]⟩
  · rw [trailed.extend_self]
    exact trailed

/-- A promotion that was earned has found the version before the target or beyond. -/
theorem mayBecome (trailed : Trailed status trail) {target : LifecycleState}
    (asked : target = .approved ∨ target = .production)
    (earned : Earned target (Watch.extend trail target)) : MayBecome status target := by
  have climbing := trailed.climbing
  have chain := earned.chain
  have last := trailed.last
  cases status with
  | approved | production => rcases asked with rfl | rfl <;> decide
  | candidate =>
      rw [climbing (by decide) (by decide)] at chain
      rcases asked with rfl | rfl
      · decide
      · exact absurd chain (by decide)
  | draft | experiment | backtested | walkForwardPassed | paper | demo =>
      rw [climbing (by decide) (by decide)] at chain
      rcases asked with rfl | rfl <;> exact absurd chain (by decide)
  | rejected =>
      have member : LifecycleState.rejected ∈ Watch.extend trail target := by
        have held := List.mem_of_getLast? last
        rw [Watch.extend]
        split
        · exact held
        · exact List.mem_append_left _ held
      exact absurd member earned.notRejected
  | archived =>
      have member : LifecycleState.archived ∈ Watch.extend trail target := by
        have held := List.mem_of_getLast? last
        rw [Watch.extend]
        split
        · exact held
        · exact List.mem_append_left _ held
      exact absurd member earned.notArchived

end Trailed

/-- What an observer can rely on. -/
structure Kept (version : StrategyVersion α) (watch : Watch) : Prop where
  trailed : Trailed version.status watch.trail
  audited : version.audit = [] → version.status = .draft
  refused : ∀ proposal ∈ watch.refused, productionTarget? proposal.target ≠ none →
    version.audit ≠ [] ∧ (version.Complete → version.status = .draft)

namespace Kept

variable {version next : StrategyVersion α} {watch : Watch}

/-- Looking at a version again adds nothing. -/
theorem observe_self (kept : Kept version watch) :
    watch.observe (some version) version = watch := by
  have trail := kept.trailed.extend_self
  simp only [Watch.observe, trail, Watch.Unchanged, Option.map_some, if_true]

/-- The observer can rely on what is seen of a change that loses no audit record. -/
theorem observe (kept : Kept version watch)
    (trailed : Trailed next.status (Watch.extend watch.trail next.status))
    (audited : next.audit = [] → next.status = .draft)
    (grows : version.audit ≠ [] → next.audit ≠ []) :
    Kept next (watch.observe (some version) next) where
  trailed := trailed
  audited := audited
  refused := by
    intro proposal member target
    by_cases unchanged : Watch.Unchanged (some version) next
    · simp only [Watch.observe, if_pos unchanged] at member
      simp only [Watch.Unchanged, Option.map_some, Option.some.injEq, Prod.mk.injEq] at unchanged
      rcases unchanged with ⟨status, policy, evidence⟩
      rcases kept.refused proposal member target with ⟨recorded, incomplete⟩
      have shows : ∀ name, version.Shows name ↔ next.Shows name := by
        intro name
        rw [StrategyVersion.Shows, StrategyVersion.Shows, Dict.get, Dict.get, evidence]
      have missing : version.missingEvidence = next.missingEvidence := by
        simp only [StrategyVersion.missingEvidence, shows]
      refine ⟨grows recorded, fun complete => ?_⟩
      rw [← status]
      apply incomplete
      rcases complete with ⟨evidence, given, test⟩
      exact ⟨missing.trans evidence, fun none => given (policy.symm.trans none),
        (shows "test").mpr test⟩
    · simp only [Watch.observe, if_neg unchanged] at member
      cases member

/-- A refusal is noted. -/
theorem note (kept : Kept version watch) {proposal : PromotionProposal}
    (refused : productionTarget? proposal.target ≠ none →
      version.audit ≠ [] ∧ (version.Complete → version.status = .draft)) :
    Kept version (watch.note proposal) where
  trailed := kept.trailed
  audited := kept.audited
  refused := by
    intro other member target
    rcases List.mem_cons.mp member with rfl | before
    · exact refused target
    · exact kept.refused other before target

/-- A refusal by the checklist leaves an audit record. -/
theorem refuse (kept : Kept version watch) (objections : version.objections ≠ [])
    (action : String) (proposal : PromotionProposal) (now : String) :
    Kept (version.audited action proposal.proposedBy now)
      ((watch.observe (some version) (version.audited action proposal.proposedBy now)).note
        proposal) := by
  have written : (version.audited action proposal.proposedBy now).audit ≠ [] :=
    List.concat_ne_nil _ _
  have trail := kept.trailed.extend_self
  have seen : Kept (version.audited action proposal.proposedBy now)
      (watch.observe (some version) (version.audited action proposal.proposedBy now)) := by
    apply kept.observe _ (fun bare => absurd bare written) (fun _ => written)
    change Trailed version.status (Watch.extend watch.trail version.status)
    rw [trail]
    exact kept.trailed
  apply seen.note
  refine fun _ => ⟨written, fun complete => ?_⟩
  -- with complete evidence only the audit record was missing, as it is of an untouched draft
  by_contra moved
  have recorded : version.audit ≠ [] := fun bare => moved (kept.audited bare)
  exact objections (version.objections_eq_nil_iff.mpr ⟨complete, recorded⟩)

end Kept

/-- The observer can rely on what is seen of every version, and has seen no other one. -/
structure Faithful (oversight : Oversight α) : Prop where
  unseen : ∀ key, oversight.governor.versions.get key = none → oversight.watch key = .blank
  kept : ∀ key version, oversight.governor.versions.get key = some version →
    Kept version (oversight.watch key)

theorem faithful_initial : Faithful (initial : Oversight α) where
  unseen := fun _ _ => rfl
  kept := fun key version held => by
    rw [initial, LifecycleGovernor.initial, Dict.get_empty] at held
    cases held

namespace Faithful

variable {oversight : Oversight α}

theorem not_refused {claim : PromotionProposal → Prop} :
    ∀ proposal, none = some proposal → claim proposal := by
  intro proposal impossible
  cases impossible

/-- A version that an operation does not touch is seen as before. -/
theorem seen_same (faithful : oversight.Faithful) {governor : LifecycleGovernor α}
    {refusal : Option PromotionProposal} {key : String × Int}
    (same : governor.versions.get key = oversight.governor.versions.get key)
    (elsewhere : ∀ proposal, refusal = some proposal → proposal.key ≠ key) :
    oversight.seen governor refusal key = oversight.watch key := by
  rw [seen, same]
  cases held : oversight.governor.versions.get key with
  | none => rfl
  | some version =>
      have looked := (faithful.kept key version held).observe_self
      cases refusal with
      | none => exact looked
      | some proposal =>
          simp only [if_neg (elsewhere proposal rfl)]
          exact looked

/-- Each version is left by an operation, or the observer can rely on what is seen of it. -/
theorem of_each (faithful : oversight.Faithful) {governor : LifecycleGovernor α}
    {refusal : Option PromotionProposal}
    (each : ∀ key, (governor.versions.get key = oversight.governor.versions.get key ∧
        ∀ proposal, refusal = some proposal → proposal.key ≠ key) ∨
      ∃ next, governor.versions.get key = some next ∧
        Kept next (oversight.seen governor refusal key)) :
    Faithful ⟨governor, oversight.seen governor refusal⟩ where
  unseen := fun key missing => by
    rcases each key with ⟨same, elsewhere⟩ | ⟨next, held, -⟩
    · exact (faithful.seen_same same elsewhere).trans
        (faithful.unseen key (same.symm.trans missing))
    · exact absurd (held.symm.trans missing) (Option.some_ne_none _)
  kept := fun key version found => by
    rcases each key with ⟨same, elsewhere⟩ | ⟨next, held, kept⟩
    · have seen := faithful.seen_same same elsewhere
      have before := faithful.kept key version (same.symm.trans found)
      rw [← seen] at before
      exact before
    · have equal : next = version := Option.some.inj (held.symm.trans found)
      rw [← equal]
      exact kept

/-- An operation that leaves every version leaves what is seen. -/
theorem of_same (faithful : oversight.Faithful) :
    Faithful ⟨oversight.governor, oversight.seen oversight.governor none⟩ :=
  faithful.of_each fun _ => .inl ⟨rfl, not_refused⟩

/-- An operation that sets one version is seen at that version only. -/
theorem of_set (faithful : oversight.Faithful) {key : String × Int} {next : StrategyVersion α}
    {refusal : Option PromotionProposal}
    (there : ∀ proposal, refusal = some proposal → proposal.key = key)
    (kept : Kept next (oversight.seen ⟨oversight.governor.versions.set key next⟩ refusal key)) :
    Faithful ⟨⟨oversight.governor.versions.set key next⟩,
      oversight.seen ⟨oversight.governor.versions.set key next⟩ refusal⟩ := by
  apply faithful.of_each
  intro other
  by_cases same : other = key
  · rw [same]
    exact .inr ⟨next, Dict.get_set_self _ _ _, kept⟩
  · exact .inl ⟨Dict.get_set_of_ne _ same _,
      fun proposal refused equal => same (equal.symm.trans (there proposal refused))⟩

/-- What is seen of the version that an operation sets. -/
theorem seen_set (key : String × Int) (next : StrategyVersion α) :
    oversight.seen ⟨oversight.governor.versions.set key next⟩ none key =
      (oversight.watch key).observe (oversight.governor.versions.get key) next := by
  rw [seen, Dict.get_set_self]

/-- A change that answers without a refusal keeps what the observer relies on, when it loses no
audit record and goes on as the trail allows. -/
theorem of_change {β : Type} (faithful : oversight.Faithful) {key : String × Int}
    {changed : StrategyVersion α → Except GovernanceError (β × StrategyVersion α)}
    (goes : ∀ version result next, changed version = .ok (result, next) →
      ∀ trail, Trailed version.status trail →
        Trailed next.status (Watch.extend trail next.status))
    (audited : ∀ version result next, changed version = .ok (result, next) →
      next.audit ≠ [] ∨ next.audit = version.audit ∧ next.status = version.status) :
    Faithful ⟨(oversight.governor.change key changed).2,
      oversight.seen (oversight.governor.change key changed).2 none⟩ := by
  rcases oversight.governor.change_cases key changed with
    ⟨raised, same⟩ | ⟨version, result, next, held, answered, set⟩
  · rw [same]
    exact faithful.of_same
  · rw [set]
    apply faithful.of_set not_refused
    rw [seen_set, held]
    have kept := faithful.kept key version held
    apply kept.observe (goes version result next answered _ kept.trailed)
    · intro bare
      rcases audited version result next answered with written | ⟨audit, status⟩
      · exact absurd bare written
      · rw [status]
        exact kept.audited (audit.symm.trans bare)
    · intro recorded
      rcases audited version result next answered with written | ⟨audit, -⟩
      · exact written
      · rw [audit]
        exact recorded

/-- A proposal that meets the condition keeps what the observer relies on. -/
theorem propose (faithful : oversight.Faithful) {now : String} {proposal : PromotionProposal}
    (stepwise : oversight.Stepwise (now, .propose proposal)) :
    Faithful (oversight.step (now, .propose proposal)) := by
  cases held : oversight.governor.versions.get proposal.key with
  | none =>
      simp only [Oversight.step, LifecycleGovernor.perform_propose_unknown held]
      exact faithful.of_same
  | some version =>
      have kept := faithful.kept proposal.key version held
      simp only [Oversight.step, LifecycleGovernor.perform_propose held, GovernorOperation.refusal]
      cases approved : (version.judged proposal now).1.approved with
      | false =>
          simp only [Bool.false_eq_true, if_false]
          apply faithful.of_set (fun other same => by rw [Option.some.inj same])
          simp only [seen, Dict.get_set_self, held, if_true]
          rcases StrategyVersion.judged_refused approved with
            ⟨elsewhere, unchanged⟩ | ⟨objections, action, written⟩
          · rw [unchanged, kept.observe_self]
            exact kept.note (fun target => absurd elsewhere target)
          · rw [written]
            exact kept.refuse objections action proposal now
      | true =>
          simp only [if_true]
          apply faithful.of_set not_refused
          rw [seen_set, held]
          rcases StrategyVersion.judged_approved approved with
            ⟨target, action, asked, passes, written⟩
          rw [written]
          apply kept.observe
          · exact kept.trailed.promote (stepwise proposal rfl version target held asked passes)
          · intro bare
            exact absurd bare (List.concat_ne_nil _ _)
          · intro _
            exact List.concat_ne_nil _ _

/-- A registration keeps what the observer relies on. -/
theorem register (faithful : oversight.Faithful) (version : StrategyVersion α) (now : String) :
    Faithful (oversight.step (now, .register version)) := by
  simp only [step, LifecycleGovernor.perform, LifecycleGovernor.register,
    GovernorOperation.refusal]
  by_cases known : oversight.governor.versions.contains (version.strategyId, version.version)
  · rw [if_pos known]
    exact faithful.of_same
  · rw [if_neg known]
    apply faithful.of_set not_refused
    have missing :
        oversight.governor.versions.get (version.strategyId, version.version) = none := by
      rw [← Option.not_isSome_iff_eq_none]
      exact known
    rw [seen_set, missing, faithful.unseen _ missing]
    have new : ¬ Watch.Unchanged none { version with status := .draft } :=
      (Option.some_ne_none _).symm
    exact
      { trailed := Trailed.draft
        audited := fun _ => rfl
        refused := fun proposal member => by
          simp only [Watch.observe, if_neg new] at member
          cases member }

theorem of_map_pair {outcome : Except GovernanceError (StrategyVersion α)}
    {result next : StrategyVersion α}
    (answered : (outcome.map fun version => (version, version)) = .ok (result, next)) :
    outcome = .ok next := by
  cases outcome with
  | error raised => cases answered
  | ok version =>
      cases answered
      rfl

/-- An operation that meets the condition keeps what the observer relies on. -/
theorem step (faithful : oversight.Faithful) {input : String × GovernorOperation α}
    (stepwise : oversight.Stepwise input) : Faithful (oversight.step input) := by
  rcases input with ⟨now, operation⟩
  cases operation with
  | register version => exact faithful.register version now
  | propose proposal => exact faithful.propose stepwise
  | advance key evidence actor =>
      apply faithful.of_change
      · intro version result next answered trail trailed
        rcases StrategyVersion.of_advanced (of_map_pair answered) with
          ⟨following, notEnded, notPromoted, notGated, -⟩
        exact trailed.advance following notEnded notPromoted notGated
      · intro version result next answered
        rcases StrategyVersion.of_advanced (of_map_pair answered) with ⟨-, -, -, -, written⟩
        exact .inl written
  | reject key reason actor =>
      apply faithful.of_change
      · intro version result next answered trail trailed
        cases answered
        exact trailed.ended List.mem_cons_self
      · intro version result next answered
        cases answered
        exact .inl (List.concat_ne_nil _ _)
  | archive key actor =>
      apply faithful.of_change
      · intro version result next answered trail trailed
        rcases StrategyVersion.of_archived (of_map_pair answered) with ⟨-, archived, -⟩
        rw [archived]
        exact trailed.ended (by decide)
      · intro version result next answered
        rcases StrategyVersion.of_archived (of_map_pair answered) with ⟨-, -, written⟩
        exact .inl written
  | amend key riskPolicyId evidence =>
      apply faithful.of_change
      · intro version result next answered trail trailed
        cases answered
        change Trailed version.status (Watch.extend trail version.status)
        rw [trailed.extend_self]
        exact trailed
      · intro version result next answered
        cases answered
        exact .inr ⟨rfl, rfl⟩

/-- A refused proposal that is repeated is refused again. -/
theorem again (faithful : oversight.Faithful) {now : String} {proposal : PromotionProposal}
    (stepwise : oversight.Stepwise (now, .propose proposal))
    (refused : proposal ∈ (oversight.watch proposal.key).refused) :
    (GovernorOperation.propose proposal : GovernorOperation α).refusal
      (oversight.governor.perform now (.propose proposal)).1 = some proposal := by
  cases held : oversight.governor.versions.get proposal.key with
  | none =>
      rw [faithful.unseen _ held] at refused
      cases refused
  | some version =>
      rw [LifecycleGovernor.perform_propose held, GovernorOperation.refusal]
      cases approved : (version.judged proposal now).1.approved with
      | false => rfl
      | true =>
          rcases StrategyVersion.judged_approved approved with ⟨target, -, asked, passes, -⟩
          have may := stepwise proposal rfl version target held asked passes
          rcases (faithful.kept _ version held).refused proposal refused
            (by rw [asked]; exact Option.some_ne_none _) with ⟨-, incomplete⟩
          rw [incomplete (version.objections_eq_nil_iff.mp passes).1] at may
          exact absurd may (by cases target <;> decide)

/-- An operation is governed when what is seen afterwards can be relied on. -/
theorem governed (faithful : oversight.Faithful) {input : String × GovernorOperation α}
    (stepwise : oversight.Stepwise input) : oversight.Governed input where
  earned := fun key version held production =>
    ((faithful.step stepwise).kept key version held).trailed.earned production
  again := fun proposal asked refused => by
    rcases input with ⟨now, operation⟩
    simp only at asked
    rw [asked] at stepwise ⊢
    exact faithful.again stepwise refused

/-- An operation that is governed meets the condition. -/
theorem stepwise (faithful : oversight.Faithful) {input : String × GovernorOperation α}
    (governed : oversight.Governed input) : oversight.Stepwise input := by
  rcases input with ⟨now, operation⟩
  intro proposal proposed version target held asked passes
  simp only at proposed
  rw [proposed] at governed
  have approved := StrategyVersion.judged_passes asked passes now
  rcases StrategyVersion.judged_approved approved with ⟨state, action, target', -, written⟩
  have equal : state = target := Option.some.inj (target'.symm.trans asked)
  rw [equal] at written
  have answer := LifecycleGovernor.perform_propose held now
  rw [written] at answer
  have next : (oversight.step (now, .propose proposal)).governor.versions.get proposal.key =
      some (({ version with status := target } : StrategyVersion α).audited action
        proposal.proposedBy now) := by
    simp only [Oversight.step, answer]
    exact Dict.get_set_self _ _ _
  have production := StrategyVersion.productionTarget?_mem asked
  have trail : ((oversight.step (now, .propose proposal)).watch proposal.key).trail =
      Watch.extend (oversight.watch proposal.key).trail target := by
    simp only [Oversight.step, answer, GovernorOperation.refusal, approved, if_true]
    rw [seen_set]
    rfl
  have promoted : target ∈ LifecycleState.productionStates := List.mem_of_find?_eq_some asked
  have earned := governed.earned proposal.key _ next promoted
  rw [trail] at earned
  exact (faithful.kept _ version held).trailed.mayBecome production earned

end Faithful

/-- In every run of a new governor the promotions are governed exactly when every proposal that
passes the checklist finds its version before the target or beyond. -/
theorem every_governed_iff (inputs : List (String × GovernorOperation α)) :
    Run.Every step Governed initial inputs ↔ Run.Every step Stepwise initial inputs := by
  apply Run.every_iff_of_kept Faithful
  · intro state input _ faithful stepwise
    exact faithful.step stepwise
  · intro state input _ faithful
    exact ⟨faithful.stepwise, faithful.governed⟩
  · exact faithful_initial

/-- A draft with a policy and all of its evidence. -/
private def completeDraft (audit : List AuditEntry) : StrategyVersion Unit where
  strategyId := "S1"
  version := 1
  parameters := ()
  riskPolicyId := "RP-1"
  createdFrom := none
  evidence := Dict.empty.update (("test", "ok") :: requiredEvidence.map fun name => (name, "ok"))
  status := .draft
  audit := audit
  createdAt := "08:00"

/-- The proposal that the version goes live. -/
private def goProduction : PromotionProposal :=
  ⟨"S1", 1, "PRODUCTION", "ai", ""⟩

/-- A draft goes into production, a rejected version does, and a proposal that was refused for
want of an audit record is approved when it is repeated. -/
theorem promoted_out_of_order :
    ¬ Run.Every step Governed initial
        [("09:00", .register (completeDraft [⟨"created", "operator", "08:00"⟩])),
          ("09:01", .propose goProduction)] ∧
      ¬ Run.Every step Governed initial
        [("09:00", .register (completeDraft [])), ("09:01", .reject ("S1", 1) "weak" "operator"),
          ("09:02", .propose goProduction)] ∧
      ¬ Run.Every step Governed initial
        [("09:00", .register (completeDraft [])), ("09:01", .propose goProduction),
          ("09:02", .propose goProduction)] := by
  refine ⟨?_, ?_, ?_⟩
  · rintro ⟨-, governed, -⟩
    have chain := (governed.earned ("S1", 1) _ rfl (by decide +kernel)).chain
    revert chain
    decide +kernel
  · rintro ⟨-, -, governed, -⟩
    have clean := (governed.earned ("S1", 1) _ rfl (by decide +kernel)).notRejected
    revert clean
    decide +kernel
  · rintro ⟨-, -, governed, -⟩
    have again := governed.again goProduction rfl (by decide +kernel)
    revert again
    decide +kernel

end Oversight

end EaBot.Strategy
