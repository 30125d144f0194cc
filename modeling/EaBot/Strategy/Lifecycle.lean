import EaBot.Foundation.Dict

/-!
# The lifecycle of a strategy version

A version advances along the forward chain one step at a time, up to the candidate.  The
last two states are entered by a proposal, which is judged by a checklist of evidence,
policy and audit and does not look at the state of the version.
-/

namespace EaBot.Strategy

open EaBot.Foundation

/-- The states of a version. -/
inductive LifecycleState
  | draft | experiment | backtested | walkForwardPassed | paper | demo | candidate | approved
  | production | rejected | archived
deriving DecidableEq

namespace LifecycleState

/-- The name of a state. -/
def value : LifecycleState → String
  | draft => "DRAFT"
  | experiment => "EXPERIMENT"
  | backtested => "BACKTESTED"
  | walkForwardPassed => "WALK_FORWARD_PASSED"
  | paper => "PAPER"
  | demo => "DEMO"
  | candidate => "CANDIDATE"
  | approved => "APPROVED"
  | production => "PRODUCTION"
  | rejected => "REJECTED"
  | archived => "ARCHIVED"

/-- The forward chain. -/
def forward : List LifecycleState :=
  [draft, experiment, backtested, walkForwardPassed, paper, demo, candidate, approved, production]

/-- The states without a way forward. -/
def terminal : List LifecycleState :=
  [rejected, archived]

/-- The states that take the full checklist. -/
def productionStates : List LifecycleState :=
  [approved, production]

end LifecycleState

/-- One entry of an audit trail. -/
structure AuditEntry where
  action : String
  actor : String
  timestamp : String
deriving DecidableEq

/-- A governed version.  `α` is the type of its parameters. -/
structure StrategyVersion (α : Type) where
  strategyId : String
  version : Int
  parameters : α
  riskPolicyId : String
  createdFrom : Option String
  evidence : Dict String String
  status : LifecycleState
  audit : List AuditEntry
  createdAt : String

/-- A proposal to promote a version. -/
structure PromotionProposal where
  strategyId : String
  version : Int
  target : String
  proposedBy : String
  reasons : String
deriving DecidableEq

/-- The outcome of a proposal. -/
structure PromotionResult where
  approved : Bool
  fromState : LifecycleState
  toState : LifecycleState
  reasons : List String
deriving DecidableEq

/-- What an operation raises. -/
inductive GovernanceError
  | valueError (text : String)
  | runtimeError (text : String)
deriving DecidableEq

/-- The evidence that a promotion asks for. -/
def requiredEvidence : List String :=
  ["backtest", "walk_forward", "monte_carlo", "paper", "demo"]

/-- The production state of a name. -/
def productionTarget? (target : String) : Option LifecycleState :=
  LifecycleState.productionStates.find? fun state => state.value = target

namespace StrategyVersion

variable {α : Type}

/-- Write an entry into the audit trail. -/
def audited (version : StrategyVersion α) (action actor now : String) : StrategyVersion α :=
  { version with audit := version.audit ++ [⟨action, actor, now⟩] }

/-- A piece of evidence is there and not empty. -/
def Shows (version : StrategyVersion α) (name : String) : Prop :=
  (version.evidence.get name).getD "" ≠ ""

instance (version : StrategyVersion α) (name : String) : Decidable (version.Shows name) :=
  inferInstanceAs (Decidable (_ ≠ _))

/-- The evidence that is missing. -/
def missingEvidence (version : StrategyVersion α) : List String :=
  requiredEvidence.filter fun name => ¬ version.Shows name

/-- What the checklist finds. -/
def objections (version : StrategyVersion α) : List String :=
  (if version.missingEvidence ≠ [] then
      ["missing evidence: " ++ ", ".intercalate version.missingEvidence]
    else []) ++
    (if version.riskPolicyId = "" then ["missing risk compatibility (risk_policy_id)"] else []) ++
    (if ¬ version.Shows "test" then ["missing test evidence"] else []) ++
    (if version.audit = [] then ["missing audit record"] else [])

/-- Advance one step along the forward chain. -/
def advanced (version : StrategyVersion α) (evidence : List (String × String))
    (actor now : String) : Except GovernanceError (StrategyVersion α) :=
  if version.status ∈ LifecycleState.terminal then
    .error (.runtimeError s!"Cannot advance a {version.status.value} version.")
  else
    match LifecycleState.forward[LifecycleState.forward.idxOf version.status + 1]? with
    | none => .error (.runtimeError "Already at PRODUCTION — cannot advance further.")
    | some next =>
        if version.status ∈ LifecycleState.productionStates ∨
            next ∈ LifecycleState.productionStates then
          .error (.runtimeError
            "Advancing into APPROVED/PRODUCTION requires a gated promotion (propose()).")
        else
          .ok ({ version with
            evidence := version.evidence.update evidence, status := next }.audited
              s!"advance to {next.value}" actor now)

/-- Reject the version. -/
def rejected (version : StrategyVersion α) (reason actor now : String) : StrategyVersion α :=
  { version with status := .rejected }.audited s!"rejected: {reason}" actor now

/-- Archive the version. -/
def archived (version : StrategyVersion α) (actor now : String) :
    Except GovernanceError (StrategyVersion α) :=
  if version.status ≠ .rejected then
    .error (.runtimeError "Only REJECTED versions can be archived.")
  else .ok ({ version with status := .archived }.audited "archived" actor now)

/-- Judge a proposal. -/
def judged (version : StrategyVersion α) (proposal : PromotionProposal) (now : String) :
    PromotionResult × StrategyVersion α :=
  match productionTarget? proposal.target with
  | none =>
      (⟨false, version.status, version.status,
        ["target is not a production state; use advance() instead"]⟩, version)
  | some target =>
      if version.objections ≠ [] then
        (⟨false, version.status, version.status, version.objections⟩,
          version.audited (s!"promotion refused ({proposal.proposedBy}): " ++
            "; ".intercalate version.objections) proposal.proposedBy now)
      else
        (⟨true, version.status, target, ["all promotion checks passed"]⟩,
          { version with status := target }.audited
            s!"promotion approved ({proposal.proposedBy}) to {proposal.target}"
            proposal.proposedBy now)

end StrategyVersion

/-- The registered versions. -/
structure LifecycleGovernor (α : Type) where
  versions : Dict (String × Int) (StrategyVersion α)

namespace LifecycleGovernor

variable {α : Type}

/-- A governor without versions. -/
def initial : LifecycleGovernor α :=
  ⟨Dict.empty⟩

/-- Register a version as a draft. -/
def register (governor : LifecycleGovernor α) (version : StrategyVersion α) :
    Except GovernanceError (StrategyVersion α) × LifecycleGovernor α :=
  let key := (version.strategyId, version.version)
  if governor.versions.contains key then
    (.error (.valueError s!"Version {version.strategyId} v{version.version} already exists"),
      governor)
  else
    let draft := { version with status := .draft }
    (.ok draft, ⟨governor.versions.set key draft⟩)

/-- Change a registered version.  A change that raises leaves it. -/
def change {β : Type} (governor : LifecycleGovernor α) (key : String × Int)
    (changed : StrategyVersion α → Except GovernanceError (β × StrategyVersion α)) :
    Except GovernanceError β × LifecycleGovernor α :=
  match governor.versions.get key with
  | none =>
      (.error (.valueError s!"Unknown strategy version {key.1} v{key.2}"), governor)
  | some version =>
      match changed version with
      | .error raised => (.error raised, governor)
      | .ok (result, version) => (.ok result, ⟨governor.versions.set key version⟩)

/-- Advance a version one step. -/
def advance (governor : LifecycleGovernor α) (key : String × Int)
    (evidence : List (String × String)) (actor now : String) :
    Except GovernanceError (StrategyVersion α) × LifecycleGovernor α :=
  governor.change key fun version =>
    (version.advanced evidence actor now).map fun next => (next, next)

/-- Reject a version. -/
def reject (governor : LifecycleGovernor α) (key : String × Int) (reason actor now : String) :
    Except GovernanceError (StrategyVersion α) × LifecycleGovernor α :=
  governor.change key fun version =>
    .ok (version.rejected reason actor now, version.rejected reason actor now)

/-- Archive a rejected version. -/
def archive (governor : LifecycleGovernor α) (key : String × Int) (actor now : String) :
    Except GovernanceError (StrategyVersion α) × LifecycleGovernor α :=
  governor.change key fun version =>
    (version.archived actor now).map fun next => (next, next)

/-- Judge a proposal for a version. -/
def propose (governor : LifecycleGovernor α) (proposal : PromotionProposal) (now : String) :
    Except GovernanceError PromotionResult × LifecycleGovernor α :=
  governor.change (proposal.strategyId, proposal.version) fun version =>
    .ok (version.judged proposal now)

/-- The holder of a version sets its policy and adds evidence. -/
def amend (governor : LifecycleGovernor α) (key : String × Int) (riskPolicyId : String)
    (evidence : List (String × String)) : LifecycleGovernor α :=
  (governor.change key fun version =>
    .ok ((), { version with
      riskPolicyId := riskPolicyId, evidence := version.evidence.update evidence })).2

/-- A change finds the version and succeeds, or leaves every version. -/
theorem change_cases {β : Type} (governor : LifecycleGovernor α) (key : String × Int)
    (changed : StrategyVersion α → Except GovernanceError (β × StrategyVersion α)) :
    (∃ raised, governor.change key changed = (.error raised, governor)) ∨
      ∃ version result next, governor.versions.get key = some version ∧
        changed version = .ok (result, next) ∧
        governor.change key changed = (.ok result, ⟨governor.versions.set key next⟩) := by
  rw [change]
  cases held : governor.versions.get key with
  | none => exact .inl ⟨_, rfl⟩
  | some version =>
      cases outcome : changed version with
      | error raised => exact .inl ⟨raised, by simp only [outcome]⟩
      | ok answer =>
          rcases answer with ⟨result, next⟩
          exact .inr ⟨version, result, next, rfl, outcome, by simp only [outcome]⟩

end LifecycleGovernor

namespace StrategyVersion

variable {α : Type} {version : StrategyVersion α}

/-- A version that advances enters the next state before the candidate or the candidate. -/
theorem of_advanced {evidence : List (String × String)} {actor now : String}
    {next : StrategyVersion α} (advanced : version.advanced evidence actor now = .ok next) :
    LifecycleState.forward[LifecycleState.forward.idxOf version.status + 1]? = some next.status ∧
      version.status ∉ LifecycleState.terminal ∧
      version.status ∉ LifecycleState.productionStates ∧
      next.status ∉ LifecycleState.productionStates ∧ next.audit ≠ [] := by
  rw [StrategyVersion.advanced] at advanced
  by_cases ended : version.status ∈ LifecycleState.terminal
  · rw [if_pos ended] at advanced
    cases advanced
  · rw [if_neg ended] at advanced
    cases following : LifecycleState.forward[LifecycleState.forward.idxOf version.status + 1]? with
    | none =>
        rw [following] at advanced
        cases advanced
    | some state =>
        simp only [following] at advanced
        by_cases gated : version.status ∈ LifecycleState.productionStates ∨
            state ∈ LifecycleState.productionStates
        · rw [if_pos gated] at advanced
          cases advanced
        · rw [if_neg gated] at advanced
          cases advanced
          rcases not_or.mp gated with ⟨before, after⟩
          exact ⟨rfl, ended, before, after, List.concat_ne_nil _ _⟩

theorem of_archived {actor now : String} {next : StrategyVersion α}
    (archived : version.archived actor now = .ok next) :
    version.status = .rejected ∧ next.status = .archived ∧ next.audit ≠ [] := by
  rw [StrategyVersion.archived] at archived
  by_cases other : version.status ≠ .rejected
  · rw [if_pos other] at archived
    cases archived
  · rw [if_neg other] at archived
    cases archived
    exact ⟨not_not.mp other, rfl, List.concat_ne_nil _ _⟩

/-- The evidence and the policy are complete. -/
def Complete (version : StrategyVersion α) : Prop :=
  version.missingEvidence = [] ∧ version.riskPolicyId ≠ "" ∧ version.Shows "test"

/-- The checklist finds nothing exactly when evidence and policy are complete and there is an
audit record. -/
theorem objections_eq_nil_iff (version : StrategyVersion α) :
    version.objections = [] ↔ version.Complete ∧ version.audit ≠ [] := by
  rw [objections, Complete]
  by_cases evidence : version.missingEvidence = [] <;>
    by_cases policy : version.riskPolicyId = "" <;>
    by_cases test : version.Shows "test" <;>
    by_cases audit : version.audit = [] <;>
    simp [evidence, policy, test, audit]

/-- A proposal that is refused changes the audit trail only. -/
theorem judged_refused {proposal : PromotionProposal} {now : String}
    (refused : (version.judged proposal now).1.approved = false) :
    (productionTarget? proposal.target = none ∧ (version.judged proposal now).2 = version) ∨
      version.objections ≠ [] ∧
      ∃ action, (version.judged proposal now).2 =
        version.audited action proposal.proposedBy now := by
  rw [judged] at refused ⊢
  cases target : productionTarget? proposal.target with
  | none => exact .inl ⟨rfl, rfl⟩
  | some state =>
      simp only [target] at refused ⊢
      by_cases found : version.objections ≠ []
      · rw [if_pos found]
        exact .inr ⟨found, _, rfl⟩
      · rw [if_neg found] at refused
        cases refused

/-- A proposal that is approved passes the checklist and sets the state it asks for. -/
theorem judged_approved {proposal : PromotionProposal} {now : String}
    (approved : (version.judged proposal now).1.approved = true) :
    ∃ target action, productionTarget? proposal.target = some target ∧
      version.objections = [] ∧
      (version.judged proposal now).2 =
        { version with status := target }.audited action proposal.proposedBy now := by
  rw [judged] at approved ⊢
  cases target : productionTarget? proposal.target with
  | none =>
      rw [target] at approved
      cases approved
  | some state =>
      simp only [target] at approved ⊢
      by_cases found : version.objections ≠ []
      · rw [if_pos found] at approved
        cases approved
      · rw [if_neg found]
        exact ⟨state, _, rfl, not_not.mp found, rfl⟩

theorem judged_passes {proposal : PromotionProposal} {target : LifecycleState}
    (asked : productionTarget? proposal.target = some target)
    (passes : version.objections = []) (now : String) :
    (version.judged proposal now).1.approved = true := by
  rw [judged, asked]
  simp only [passes, ne_eq, not_true_eq_false, if_false]

theorem productionTarget?_mem {target : String} {state : LifecycleState}
    (asked : productionTarget? target = some state) :
    state = .approved ∨ state = .production := by
  simpa [LifecycleState.productionStates] using List.mem_of_find?_eq_some asked

end StrategyVersion

end EaBot.Strategy
