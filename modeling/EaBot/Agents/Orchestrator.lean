import EaBot.Agents.Debate
import EaBot.Agents.EventDispatch

/-!
# The committee orchestrator

One cycle dispatches the event, asks the roles that it concerns, assesses their signals, takes
the given setup or builds one from the evidence, debates the conflicts, asks the entry role and
decides.  A role or a challenger that raises an error ends the cycle without a decision.

The coordinator and the orchestrator each derive a bias.  The orchestrator's vocabulary is the
wider one, and it leaves out the roles that failed.
-/

namespace EaBot.Agents

open EaBot.Foundation

universe u

/-- A role object: what it answers to a context. -/
abbrev Role (μ : Type u) := Context μ → Except String RoleOutput

variable {μ : Type u}

namespace EntryRole

def output (signal : String) (confidence dataQuality : ℚ) (roleSpecific : Record) :
    RoleOutput :=
  { role := "entry"
    signal := signal
    confidenceDimensions :=
      Dict.empty.update [("evidence_quality", confidence), ("data_quality", dataQuality)]
    freshness := .fresh
    error := false
    roleSpecific := roleSpecific }

/-- The entry role that the orchestrator takes when it is given none. -/
def analyze : Role μ := fun context =>
  match context.setup with
  | none => .ok (output "UNKNOWN" 0 0 .empty)
  | some setup =>
      let required :=
        if context.requiredTriggers ≠ [] then context.requiredTriggers else setup.requiredTriggers
      let met := ((context.triggerResult.map TriggerResult.conditionsMet).getD .empty)
      let blocking :=
        if met.entries = [] then []
        else (context.triggerResult.map TriggerResult.blocking).getD []
      let missing :=
        if met.entries = [] then []
        else required.filter fun trigger => !(met.get trigger).getD false
      let state :=
        if setup.missingConditions ≠ [] then "WAIT_TRIGGER"
        else if blocking ≠ [] then "WAIT_TRIGGER"
        else if met.entries ≠ [] ∧ required ≠ [] ∧ missing = [] then "ENTRY_READY"
        else if context.triggerConfirmed ∧ met.entries = [] then "ENTRY_READY"
        else "WAIT_TRIGGER"
      .ok (output state (if state = "ENTRY_READY" then 3 / 5 else 3 / 10) 1
        (Dict.empty.update
          [("trigger_status", .str state), ("zone_touched", .bool context.zoneTouched)]))

end EntryRole

/-- The traceable result of a cycle. -/
structure CommitteeResult where
  dispatch : Option DispatchDecision
  assessment : Option MarketAssessment
  setup : Option SetupCandidate
  entryAssessment : Option EntryAssessment
  decision : Option DecisionState
  debate : Option DebateOutcome
  roleOutputs : Dict String RoleOutput
  ranCommittee : Bool

/-- The orchestrator with its roles and limits.  The trigger engine answers for the direction
of a setup and the zone of a context, and gives nothing when its data is insufficient. -/
structure CommitteeOrchestrator (μ : Type u) where
  roles : Dict String (Option (Role μ))
  config : DebateConfig
  coordinator : CommitteeCoordinator
  challenger : Challenger μ
  specialistRunner : Option (String → Context μ → Except String String)
  triggerEngine : String → Context μ → Option TriggerResult

namespace CommitteeOrchestrator

def directional : List String := ["regime", "structure", "liquidity", "momentum"]

def bull : List String := ["BULLISH", "STRONG_BULLISH", "BUY", "TRENDING_UP", "UP"]

def bear : List String := ["BEARISH", "STRONG_BEARISH", "SELL", "TRENDING_DOWN", "DOWN"]

/-- The specialists of a cycle whose event names no roles. -/
def allSpecialists : List String :=
  ["regime", "structure", "liquidity", "momentum", "volatility", "news"]

/-- The items before a position, which counts from the end when it is negative. -/
def upTo {α : Type} (bound : Int) (items : List α) : List α :=
  if 0 ≤ bound then items.take bound.toNat else items.take (items.length - (-bound).toNat)

/-- Ask the roles in turn. -/
def ask (roles : Dict String (Option (Role μ))) (context : Context μ) :
    Dict String RoleOutput → List String → Except String (Dict String RoleOutput)
  | outputs, [] => .ok outputs
  | outputs, roleId :: rest =>
      if roleId = "challenger" then ask roles context outputs rest
      else
        match roles.get roleId with
        | some (some role) => do
            let output ← role context
            ask roles context (outputs.set roleId output) rest
        | _ => ask roles context outputs rest

section Cycle

variable (orchestrator : CommitteeOrchestrator μ) (ids : Ids) (context : Context μ)

/-- The outputs of the relevant specialists, and of the news role in any case. -/
def specialists (dispatched : List String) : Except String (Dict String RoleOutput) := do
  let wanted := if dispatched.isEmpty then allSpecialists else dispatched
  let outputs ← ask orchestrator.roles context .empty
    (upTo orchestrator.config.maxSpecialistsPerCycle wanted)
  if outputs.contains "news" then return outputs
  else
    match orchestrator.roles.get "news" with
    | none => return outputs
    | some none => throw "'NoneType' object has no attribute 'analyze'"
    | some (some role) => return outputs.set "news" (← role context)

/-- The signals of the directional roles that did not fail. -/
def readings (roleOutputs : Dict String RoleOutput) : List String :=
  directional.filterMap fun roleId =>
    match roleOutputs.get roleId with
    | none => none
    | some output => if output.error then none else some (Text.upperWord output.signal)

def deriveBias (roleOutputs : Dict String RoleOutput) : Bias :=
  Bias.ofSupport ((readings roleOutputs).countP (bull.contains ·))
    ((readings roleOutputs).countP (bear.contains ·))

/-- A candidate from consistent evidence. -/
def buildSetup (symbol : String) (assessment : MarketAssessment)
    (roleOutputs : Dict String RoleOutput) (bias : Bias) : SetupCandidate :=
  let want := if bias = .bullish then "BULLISH" else "BEARISH"
  let signals := roleOutputs.entries.map fun (roleId, output) =>
    (roleId, Text.upperWord output.signal)
  { setupId := s!"setup_{assessment.assessmentId}"
    assessmentId := assessment.assessmentId
    symbol := symbol
    direction := if bias = .bullish then "BUY" else "SELL"
    setupType := "CONTINUATION"
    timeframe := (assessment.evidenceBundle.items.head?.map EvidenceItem.timeframe).getD "M15"
    entryContext := "market structure location"
    invalidation := "structure breaks opposite the hypothesis"
    requiredConditions := ["lower-timeframe confirmation (Phase 4 trigger)"]
    missingConditions := ["lower-timeframe confirmation (Phase 4 trigger)"]
    supportingEvidenceRefs :=
      (signals.filter fun signal => signal.2 = want).map Prod.fst
    contradictingEvidenceRefs :=
      (signals.filter fun signal =>
        signal.2 ∈ ["BULLISH", "BEARISH"] ∧ signal.2 ≠ want).map Prod.fst
    setupQuality := 1 / 2
    status := "CANDIDATE"
    challenges := [] }

/-- The setup of the cycle: the given one, or a new one when the evidence is directional. -/
def openingSetup (symbol : String) (assessment : MarketAssessment)
    (roleOutputs : Dict String RoleOutput) (existing : Option SetupCandidate) :
    Option SetupCandidate :=
  match existing with
  | some setup => some setup
  | none =>
      let bias := deriveBias roleOutputs
      if bias = .neutral then none else some (buildSetup symbol assessment roleOutputs bias)

def debateEngine : DebateEngine μ :=
  ⟨orchestrator.config, orchestrator.challenger, orchestrator.specialistRunner⟩

/-- The debate about the conflicts of the assessment. -/
def debateConflicts (setup : SetupCandidate) (conflicts : List Conflict)
    (roleOutputs : Dict String RoleOutput) :
    Except String (SetupCandidate × List Conflict × Option DebateOutcome) :=
  if conflicts = [] then .ok (setup, conflicts, none)
  else do
    let (debate, setup, conflicts) ← orchestrator.debateEngine.run ids setup.direction
      roleOutputs context setup conflicts
    let reopened := debate.unresolvedConflicts.foldl
      (fun conflicts held => DebateEngine.setStatus conflicts held.1 .unresolved) conflicts
    let status :=
      match debate.outcome with
      | .resolved => setup.status
      | .wait => "CHALLENGED"
      | .invalid => "INVALID"
    return ({ setup with status := status }, reopened, some debate)

/-- The context of the entry role. -/
def entryContext (setup : SetupCandidate) : Context μ :=
  let shown : Context μ :=
    { context with
      setup := some
        { direction := setup.direction
          missingConditions := setup.missingConditions
          invalidation := setup.invalidation
          supportingEvidenceRefs := []
          requiredTriggers := setup.requiredConditions } }
  match orchestrator.triggerEngine setup.direction context with
  | none => shown
  | some triggers =>
      { shown with
        triggerResult := some triggers
        zoneTouched :=
          if (triggers.conditionsMet.get "zone_touch").getD false then true
          else context.zoneTouched }

/-- The role that assesses entries. -/
def entryRole : Role μ :=
  match orchestrator.roles.get "entry" with
  | some (some role) => role
  | _ => EntryRole.analyze

/-- The entry assessment of a setup that is not invalid. -/
def assessEntry (symbol : String) (setup : SetupCandidate) :
    Except String (Option EntryAssessment) :=
  if setup.status = "INVALID" then .ok none
  else do
    let answer ← orchestrator.entryRole (orchestrator.entryContext context setup)
    return some
      { entryAssessmentId := s!"ent_{setup.setupId}"
        setupId := setup.setupId
        symbol := symbol
        direction := setup.direction
        entryZoneType := "ORDER_BLOCK"
        zoneTouched := ((answer.roleSpecific.get "zone_touched").getD (.bool false)).truthy
        triggerRequired := setup.requiredConditions.headD ""
        triggerStatus := answer.signal
        entryQuality := (answer.confidenceDimensions.get "evidence_quality").getD 0
        invalidation := setup.invalidation }

/-- The mean evidence quality of the roles that did not fail. -/
def avgEvidenceQuality (roleOutputs : Dict String RoleOutput) : ℚ :=
  let values := (roleOutputs.values.filter fun output => !output.error).map fun output =>
    (output.confidenceDimensions.get "evidence_quality").getD 0
  if values = [] then 0 else values.sum / values.length

/-- The decision under the debate gate: an invalid setup and a debate that waits are not
traded. -/
def debateGate (assessment : MarketAssessment) (setup : Option SetupCandidate)
    (entry : Option EntryAssessment) (outcome : Option DebateResult)
    (roleOutputs : Dict String RoleOutput) : DecisionState :=
  let quality := avgEvidenceQuality roleOutputs
  let invalid := setup.any fun setup => setup.status = "INVALID" || outcome = some .invalid
  if invalid then
    { orchestrator.coordinator.buildDecision ids assessment none none quality 0 0
        assessment.dataQuality with
      action := .wait
      rationale := "Debate invalidated the setup hypothesis (INVALID) — WAIT." }
  else
    let decision := orchestrator.coordinator.buildDecision ids assessment setup entry quality
      ((setup.map SetupCandidate.setupQuality).getD 0)
      ((entry.map EntryAssessment.entryQuality).getD 0) assessment.dataQuality
    if outcome = some .wait then
      { decision with
        action := .wait
        rationale := "Debate ended WAIT (unresolved conflict) — no automatic trade." }
    else decision

/-- The gate of the entry committee. -/
def entryGate (entry : Option EntryAssessment) (outcome : Option DebateResult)
    (decision : DecisionState) : DecisionState :=
  match entry with
  | none => decision
  | some entry =>
      if entry.triggerStatus ≠ "ENTRY_READY" ∧ outcome ≠ some .invalid ∧ outcome ≠ some .wait ∧
          decision.action ≠ .wait then
        { decision with
          action := .wait
          rationale := s!"Entry committee: {entry.triggerStatus} — " ++
            "not actionable (zone touch is not confirmation)." }
      else decision

/-- The decision on a setup. -/
def decide (assessment : MarketAssessment) (setup : Option SetupCandidate)
    (entry : Option EntryAssessment) (debate : Option DebateOutcome)
    (roleOutputs : Dict String RoleOutput) : DecisionState :=
  let outcome := debate.map DebateOutcome.outcome
  entryGate entry outcome (orchestrator.debateGate ids assessment setup entry outcome roleOutputs)

/-- One cycle, which an error may end. -/
def cycle (eventType : String) (stateChanged : Bool) (existingSetup : Option SetupCandidate) :
    Except String CommitteeResult := do
  let dispatch := decideDispatch (if eventType ≠ "" then eventType else context.eventType)
    stateChanged existingSetup.isSome
  if !dispatch.runCommittee then
    return ⟨some dispatch, none, none, none, none, none, .empty, false⟩
  else
    let traceId := if context.traceId ≠ "" then context.traceId else context.eventId
    let roleOutputs ← orchestrator.specialists context dispatch.roles
    let assessment := Committee.buildAssessment ids context.symbol traceId roleOutputs
    match openingSetup context.symbol assessment roleOutputs existingSetup with
    | none =>
        let decision := orchestrator.decide ids assessment none none none roleOutputs
        return ⟨some dispatch, some assessment, none, none, some decision, none, roleOutputs, true⟩
    | some setup =>
        let (setup, conflicts, debate) ← orchestrator.debateConflicts ids context setup
          assessment.conflicts roleOutputs
        let assessment := { assessment with conflicts := conflicts }
        let entry ← orchestrator.assessEntry context context.symbol setup
        let decision := orchestrator.decide ids assessment (some setup) entry debate roleOutputs
        return ⟨some dispatch, some assessment, some setup, entry, some decision, debate,
          roleOutputs, true⟩

/-- One cycle; it never raises. -/
def run (eventType : String) (stateChanged : Bool) (existingSetup : Option SetupCandidate) :
    CommitteeResult :=
  match orchestrator.cycle ids context eventType stateChanged existingSetup with
  | .ok result => result
  | .error _ => ⟨none, none, none, none, none, none, .empty, false⟩

section Deciding

variable (assessment : MarketAssessment) (setup : Option SetupCandidate)
  (entry : Option EntryAssessment) (roleOutputs : Dict String RoleOutput)

theorem debateGate_conflicts (outcome : Option DebateResult) :
    (orchestrator.debateGate ids assessment setup entry outcome roleOutputs).conflicts =
      assessment.conflicts := by
  unfold debateGate
  dsimp only
  split
  · exact CommitteeCoordinator.buildDecision_conflicts ..
  · split
    · exact CommitteeCoordinator.buildDecision_conflicts ..
    · exact CommitteeCoordinator.buildDecision_conflicts ..

theorem entryGate_conflicts (outcome : Option DebateResult) (decision : DecisionState) :
    (entryGate entry outcome decision).conflicts = decision.conflicts := by
  cases entry with
  | none => rfl
  | some assessed =>
      unfold entryGate
      dsimp only
      split <;> rfl

/-- The debate gate lets a side through for a setup that is not invalid, when the debate has
settled everything. -/
theorem debateGate_action_iff (outcome : Option DebateResult) (side : Side) :
    (orchestrator.debateGate ids assessment setup entry outcome roleOutputs).action =
        side.action ↔
      (¬(orchestrator.coordinator.unresolvedConflictBlocks = true ∧
          assessment.hasCriticalConflicts = true) ∧
        CommitteeCoordinator.deriveBias assessment = side.bias) ∧
        (∃ held, setup = some held ∧ held.status ≠ "INVALID") ∧
        outcome ≠ some .invalid ∧ outcome ≠ some .wait := by
  have waits : Action.wait ≠ side.action := by cases side <;> nofun
  cases setup with
  | none =>
      unfold debateGate
      dsimp only [Option.any_none]
      rw [if_neg Bool.false_ne_true]
      split
      · simp [waits]
      · simp [CommitteeCoordinator.buildDecision_action_iff]
  | some held =>
      unfold debateGate
      dsimp only [Option.any_some]
      by_cases invalid : (held.status = "INVALID" || outcome = some .invalid) = true
      · rw [if_pos invalid]
        simp only [Bool.or_eq_true, decide_eq_true_eq] at invalid
        rcases invalid with status | refuted
        · simp [waits, status]
        · simp [waits, refuted]
      · rw [if_neg invalid]
        simp only [Bool.or_eq_true, decide_eq_true_eq, not_or] at invalid
        by_cases waiting : outcome = some .wait
        · simp [waiting, waits]
        · rw [if_neg waiting, CommitteeCoordinator.buildDecision_action_iff]
          simp [invalid.1, invalid.2, waiting]

/-- The entry gate lets a side through that it is given, with an entry that is ready. -/
theorem entryGate_action_iff {outcome : Option DebateResult} (refuted : outcome ≠ some .invalid)
    (waiting : outcome ≠ some .wait) (decision : DecisionState) (side : Side) :
    (entryGate entry outcome decision).action = side.action ↔
      decision.action = side.action ∧
        ∀ assessed, entry = some assessed → assessed.triggerStatus = "ENTRY_READY" := by
  have waits : Action.wait ≠ side.action := by cases side <;> nofun
  cases entry with
  | none => simp [entryGate]
  | some assessed =>
      unfold entryGate
      dsimp only
      by_cases ready : assessed.triggerStatus = "ENTRY_READY"
      · simp [ready]
      · by_cases idle : decision.action = .wait
        · simp [idle, waits, ready]
        · rw [if_pos ⟨ready, refuted, waiting, idle⟩]
          simp [waits, ready]

/-- What passes the entry gate was there before it. -/
theorem of_entryGate_action {outcome : Option DebateResult} {decision : DecisionState}
    {side : Side} (taken : (entryGate entry outcome decision).action = side.action) :
    decision.action = side.action := by
  cases entry with
  | none => exact taken
  | some assessed =>
      unfold entryGate at taken
      dsimp only at taken
      split at taken
      · cases side <;> cases taken
      · exact taken

/-- The decision takes a side when the coordinator does, for a setup that is not invalid,
after a debate that settled everything and with an entry that is ready. -/
theorem decide_action_iff (debate : Option DebateOutcome) (side : Side) :
    (orchestrator.decide ids assessment setup entry debate roleOutputs).action = side.action ↔
      (¬(orchestrator.coordinator.unresolvedConflictBlocks = true ∧
          assessment.hasCriticalConflicts = true) ∧
        CommitteeCoordinator.deriveBias assessment = side.bias) ∧
        (∃ held, setup = some held ∧ held.status ≠ "INVALID") ∧
        (∀ ended, debate = some ended → ended.outcome = .resolved) ∧
        ∀ assessed, entry = some assessed → assessed.triggerStatus = "ENTRY_READY" := by
  have settled : (debate.map DebateOutcome.outcome ≠ some .invalid ∧
      debate.map DebateOutcome.outcome ≠ some .wait) ↔
      ∀ ended, debate = some ended → ended.outcome = .resolved := by
    cases debate with
    | none => simp
    | some ended => cases outcome : ended.outcome <;> simp [outcome]
  rw [← settled]
  constructor
  · intro taken
    have before := of_entryGate_action entry taken
    rw [debateGate_action_iff] at before
    obtain ⟨bias, held, refuted, waiting⟩ := before
    rw [decide, entryGate_action_iff entry refuted waiting] at taken
    exact ⟨bias, held, ⟨refuted, waiting⟩, taken.2⟩
  · rintro ⟨bias, held, ⟨refuted, waiting⟩, ready⟩
    rw [decide, entryGate_action_iff entry refuted waiting, debateGate_action_iff]
    exact ⟨⟨bias, held, refuted, waiting⟩, ready⟩

@[simp]
theorem decide_conflicts (debate : Option DebateOutcome) :
    (orchestrator.decide ids assessment setup entry debate roleOutputs).conflicts =
      assessment.conflicts := by
  unfold decide
  dsimp only
  rw [entryGate_conflicts, debateGate_conflicts]

end Deciding

/-- The outputs come from the roles that are asked. -/
theorem keys_of_ask {roles : Dict String (Option (Role μ))} {asked : List String}
    {outputs result : Dict String RoleOutput}
    (answered : ask roles context outputs asked = .ok result) :
    ∀ name ∈ result.keys, name ∈ outputs.keys ∨ name ∈ asked := by
  induction asked generalizing outputs with
  | nil =>
      cases answered
      exact fun name member => Or.inl member
  | cons roleId rest ih =>
      have skipped : ask roles context outputs rest = .ok result →
          ∀ name ∈ result.keys, name ∈ outputs.keys ∨ name ∈ roleId :: rest :=
        fun answered name member =>
          (ih answered name member).imp_right (List.mem_cons_of_mem roleId)
      rw [ask] at answered
      by_cases challenger : roleId = "challenger"
      · rw [if_pos challenger] at answered
        exact skipped answered
      · rw [if_neg challenger] at answered
        cases held : roles.get roleId with
        | none =>
            rw [held] at answered
            exact skipped answered
        | some role =>
            rw [held] at answered
            cases role with
            | none => exact skipped answered
            | some role =>
                obtain ⟨output, -, answered⟩ := of_bind_eq_ok answered
                intro name member
                rcases ih answered name member with before | later
                · rcases (Dict.mem_keys_set _ _ _ _).mp before with here | before
                  · exact Or.inr (here ▸ List.mem_cons_self)
                  · exact Or.inl before
                · exact Or.inr (List.mem_cons_of_mem roleId later)

theorem mem_of_mem_upTo {α : Type} {bound : Int} {items : List α} {item : α}
    (member : item ∈ upTo bound items) : item ∈ items := by
  unfold upTo at member
  split at member <;> exact List.mem_of_mem_take member

/-- The specialists that answer have names in lower case. -/
theorem lower_of_specialists {dispatched : List String} {outputs : Dict String RoleOutput}
    (known : ∀ role ∈ dispatched, role ∈ knownRoles)
    (answered : orchestrator.specialists context dispatched = .ok outputs) :
    ∀ name ∈ outputs.keys, Text.lower name = name := by
  have low : ∀ name ∈ knownRoles, Text.lower name = name := by decide
  have wanted : ∀ name ∈ (if dispatched.isEmpty then allSpecialists else dispatched),
      name ∈ knownRoles := by
    split
    · decide
    · exact known
  obtain ⟨asked, first, after⟩ := of_bind_eq_ok answered
  have before : ∀ name ∈ asked.keys, Text.lower name = name := by
    intro name member
    rcases keys_of_ask context first name member with none | listed
    · cases none
    · exact low name (wanted name (mem_of_mem_upTo listed))
  by_cases news : asked.contains "news" = true
  · rw [if_pos news] at after
    cases after
    exact before
  · rw [if_neg news] at after
    cases held : orchestrator.roles.get "news" with
    | none =>
        rw [held] at after
        cases after
        exact before
    | some role =>
        rw [held] at after
        cases role with
        | none => cases after
        | some role =>
            obtain ⟨output, -, added⟩ := of_bind_eq_ok after
            cases added
            intro name member
            rcases (Dict.mem_keys_set _ _ _ _).mp member with here | there
            · exact low name (here ▸ by decide)
            · exact before name there

end Cycle

end CommitteeOrchestrator

end EaBot.Agents
