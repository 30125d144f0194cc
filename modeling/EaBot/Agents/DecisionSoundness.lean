import EaBot.Agents.Orchestrator

/-!
# What stands behind a trade

A decision to buy or to sell always has a setup that is not invalid, no severe conflict left
open and an entry that is ready.  Whether the setup points the same way and no role states the
opposite is another matter.  The coordinator takes its side by a narrower vocabulary, and
counts failed roles; the setup may be one that the caller brings along.

`TradeDue` describes by its inputs when a cycle trades.  The decision is then backed exactly
when the given setup points to the traded side and no role that works states the opposite.
-/

namespace EaBot.Agents

open EaBot.Foundation

universe u

variable {μ : Type u}

namespace CommitteeOrchestrator

/-- The words by which the orchestrator knows a side. -/
def words : Side → List String
  | .buy => bull
  | .sell => bear

/-- A directional role that did not fail states one of the words. -/
def States (roleOutputs : Dict String RoleOutput) (words : List String) : Prop :=
  ∃ role ∈ directional, ∃ output, roleOutputs.get role = some output ∧ output.error = false ∧
    Text.upperWord output.signal ∈ words

/-- What is asked of a decision that takes a side. -/
def Backed (result : CommitteeResult) (decision : DecisionState) (side : Side) : Prop :=
  ∃ setup, result.setup = some setup ∧ setup.status ≠ "INVALID" ∧
    setup.direction = side.text ∧
    ¬States result.roleOutputs (words side.opposite) ∧
    (∀ conflict ∈ decision.conflicts,
      conflict.severity = .high ∨ conflict.severity = .critical →
        conflict.resolutionStatus = .resolved) ∧
    ∃ entry, result.entryAssessment = some entry ∧ entry.triggerStatus = "ENTRY_READY"

/-- Every decision to trade is backed. -/
def Sound (result : CommitteeResult) : Prop :=
  ∀ decision, result.decision = some decision →
    ∀ side : Side, decision.action = side.action → Backed result decision side

/-- A side that the orchestrator's bias takes is stated by a role that works. -/
theorem states_of_deriveBias {roleOutputs : Dict String RoleOutput} {side : Side}
    (bias : deriveBias roleOutputs = side.bias) : States roleOutputs (words side) := by
  obtain ⟨⟨signal, member, known⟩, -⟩ :=
    (Bias.ofSupport_countP_iff (readings roleOutputs) words side).mp bias
  obtain ⟨role, listed, reading⟩ := List.mem_filterMap.mp member
  cases held : roleOutputs.get role with
  | none =>
      rw [held] at reading
      cases reading
  | some output =>
      rw [held] at reading
      cases failed : output.error with
      | true => simp [failed] at reading
      | false =>
          simp only [failed, Bool.false_eq_true, if_false, Option.some.injEq] at reading
          exact ⟨role, listed, output, held, failed, reading ▸ known⟩

section Cycle

variable (orchestrator : CommitteeOrchestrator μ) (ids : Ids) (context : Context μ)

/-- The setup comes out of the debate about unknown news: the challenger passes it in time. -/
def Survives (setup : SetupCandidate) (roleOutputs : Dict String RoleOutput) : Prop :=
  (Committee.NewsUnknown roleOutputs →
    orchestrator.debateEngine.SettledWithin setup.direction roleOutputs context setup 1
      orchestrator.debateEngine.limit) ∧
  (¬Committee.NewsUnknown roleOutputs → setup.status ≠ "INVALID")

/-- The entry role says that the setup may be entered. -/
def EntryReady (setup : SetupCandidate) : Prop :=
  ∃ answer, orchestrator.entryRole (orchestrator.entryContext context setup) = .ok answer ∧
    answer.signal = "ENTRY_READY"

/-- The assessment of the specialists' outputs. -/
def assess (roleOutputs : Dict String RoleOutput) : MarketAssessment :=
  Committee.buildAssessment ids context.symbol
    (if context.traceId ≠ "" then context.traceId else context.eventId) roleOutputs

/-- The dispatch of the event. -/
def dispatched (eventType : String) (stateChanged : Bool)
    (existingSetup : Option SetupCandidate) : DispatchDecision :=
  decideDispatch (if eventType ≠ "" then eventType else context.eventType) stateChanged
    existingSetup.isSome

/-- When a cycle trades on a side: the event needs the committee, the roles answer, the
directional ones speak for the side and not against it in the coordinator's words, and the
setup survives the debate and may be entered. -/
structure TradeDue (eventType : String) (stateChanged : Bool)
    (existingSetup : Option SetupCandidate) (side : Side)
    (roleOutputs : Dict String RoleOutput) : Prop where
  runs : (dispatched context eventType stateChanged existingSetup).runCommittee = true
  answered : orchestrator.specialists context
    (dispatched context eventType stateChanged existingSetup).roles = .ok roleOutputs
  supported : Committee.Reads roleOutputs (Committee.words side)
  unopposed : ¬Committee.Reads roleOutputs (Committee.words side.opposite)
  tradable : ∃ setup, openingSetup context.symbol (assess ids context roleOutputs) roleOutputs
      existingSetup = some setup ∧
    orchestrator.Survives context setup roleOutputs ∧ orchestrator.EntryReady context setup

/-- A given setup points to the side, and no role that works states the opposite. -/
def Aligned (existingSetup : Option SetupCandidate) (side : Side)
    (roleOutputs : Dict String RoleOutput) : Prop :=
  (∀ setup, existingSetup = some setup → setup.direction = side.text) ∧
    ¬States roleOutputs (words side.opposite)

/-- The setup of an aligned cycle points to the side. -/
theorem direction_of_aligned {existingSetup : Option SetupCandidate} {side : Side}
    {roleOutputs : Dict String RoleOutput} (aligned : Aligned existingSetup side roleOutputs)
    {symbol : String} {assessment : MarketAssessment} {setup : SetupCandidate}
    (opening : openingSetup symbol assessment roleOutputs existingSetup = some setup) :
    setup.direction = side.text := by
  cases existingSetup with
  | some given =>
      cases opening
      exact aligned.1 setup rfl
  | none =>
      have opposed : deriveBias roleOutputs ≠ side.opposite.bias := fun bias =>
        aligned.2 (states_of_deriveBias bias)
      unfold openingSetup at opening
      dsimp only at opening
      cases bias : deriveBias roleOutputs with
      | neutral =>
          rw [bias] at opening
          cases opening
      | bullish =>
          rw [bias] at opening opposed
          cases opening
          cases side with
          | buy => rfl
          | sell => exact absurd rfl opposed
      | bearish =>
          rw [bias] at opening opposed
          cases opening
          cases side with
          | buy => exact absurd rfl opposed
          | sell => rfl

/-- The debate about unknown news, when the challenger passes it in time. -/
theorem debateConflicts_of_settled {setup : SetupCandidate}
    {roleOutputs : Dict String RoleOutput}
    (settled : orchestrator.debateEngine.SettledWithin setup.direction roleOutputs context setup
      1 orchestrator.debateEngine.limit) :
    ∃ debate challenges,
      orchestrator.debateConflicts ids context setup [Committee.newsConflict ids] roleOutputs =
        .ok ({ setup with status := "CHALLENGED", challenges := challenges },
          [{ Committee.newsConflict ids with resolutionStatus := .resolved }], some debate) ∧
      debate.outcome = .resolved := by
  obtain ⟨debate, challenges, ran, resolved, none⟩ :=
    orchestrator.debateEngine.run_of_settled ids setup.direction roleOutputs context
      (show (Committee.newsConflict ids).resolutionStatus = .unresolved from rfl) rfl settled
  refine ⟨debate, challenges, ?_, resolved⟩
  unfold debateConflicts
  rw [if_neg (List.cons_ne_nil _ _), ran, ok_bind]
  dsimp only
  rw [resolved, none]
  rfl

/-- A debate about unknown news that settles it has had it passed in time. -/
theorem settled_of_debateConflicts {setup setup' : SetupCandidate}
    {roleOutputs : Dict String RoleOutput} {conflicts : List Conflict}
    {debate : Option DebateOutcome}
    (debated : orchestrator.debateConflicts ids context setup [Committee.newsConflict ids]
      roleOutputs = .ok (setup', conflicts, debate))
    (resolved : ∀ ended, debate = some ended → ended.outcome = .resolved) :
    orchestrator.debateEngine.SettledWithin setup.direction roleOutputs context setup 1
      orchestrator.debateEngine.limit := by
  unfold debateConflicts at debated
  rw [if_neg (List.cons_ne_nil _ _)] at debated
  obtain ⟨⟨ended, held, left⟩, ran, after⟩ := of_bind_eq_ok debated
  cases after
  exact orchestrator.debateEngine.settled_of_run ids setup.direction roleOutputs context rfl rfl
    ran (resolved ended rfl)

/-- When the specialists do not speak for both sides, the news are the only conflict. -/
theorem conflicts_of_agreement {roleOutputs : Dict String RoleOutput}
    (lower : ∀ name ∈ roleOutputs.keys, Text.lower name = name) {side : Side}
    (bias : CommitteeCoordinator.deriveBias (assess ids context roleOutputs) = side.bias)
    [Decidable (Committee.NewsUnknown roleOutputs)] :
    (assess ids context roleOutputs).conflicts =
      if Committee.NewsUnknown roleOutputs then [Committee.newsConflict ids] else [] := by
  have sided := (CommitteeCoordinator.deriveBias_buildAssessment_iff ids _ _ lower side).mp bias
  apply Committee.detectConflicts_of_agreement lower ids
  rintro ⟨buys, sells⟩
  cases side with
  | buy => exact sided.2 sells
  | sell => exact sided.2 buys

/-- A setup that survives comes out of its debate with no severe conflict left. -/
theorem debateConflicts_of_survives {setup : SetupCandidate}
    {roleOutputs : Dict String RoleOutput} [Decidable (Committee.NewsUnknown roleOutputs)]
    (survives : orchestrator.Survives context setup roleOutputs) :
    ∃ status challenges conflicts debate,
      orchestrator.debateConflicts ids context setup
        (if Committee.NewsUnknown roleOutputs then [Committee.newsConflict ids] else [])
        roleOutputs =
        .ok ({ setup with status := status, challenges := challenges }, conflicts, debate) ∧
      status ≠ "INVALID" ∧ (∀ conflict ∈ conflicts, conflict.severity = .medium) ∧
      ∀ ended, debate = some ended → ended.outcome = .resolved := by
  by_cases news : Committee.NewsUnknown roleOutputs
  · obtain ⟨debate, challenges, debated, resolved⟩ :=
      orchestrator.debateConflicts_of_settled ids context (survives.1 news)
    rw [if_pos news]
    refine ⟨_, challenges, _, _, debated, by decide, ?_, ?_⟩
    · intro conflict member
      rw [List.mem_singleton.mp member]
      rfl
    · intro ended held
      cases held
      exact resolved
  · rw [if_neg news]
    exact ⟨setup.status, setup.challenges, [], none, rfl, survives.2 news, nofun, nofun⟩

/-- A setup that a debate leaves tradable survives. -/
theorem survives_of_debateConflicts {setup setup' : SetupCandidate}
    {roleOutputs : Dict String RoleOutput} [Decidable (Committee.NewsUnknown roleOutputs)]
    {conflicts : List Conflict} {debate : Option DebateOutcome}
    (debated : orchestrator.debateConflicts ids context setup
      (if Committee.NewsUnknown roleOutputs then [Committee.newsConflict ids] else [])
      roleOutputs = .ok (setup', conflicts, debate))
    (valid : setup'.status ≠ "INVALID")
    (resolved : ∀ ended, debate = some ended → ended.outcome = .resolved) :
    orchestrator.Survives context setup roleOutputs := by
  constructor
  · intro news
    rw [if_pos news] at debated
    exact orchestrator.settled_of_debateConflicts ids context debated resolved
  · intro quiet
    rw [if_neg quiet] at debated
    cases debated
    exact valid

/-- The entry assessment reads neither the status nor the challenges of a setup. -/
theorem assessEntry_of_ready {symbol : String} {setup : SetupCandidate}
    (ready : orchestrator.EntryReady context setup) {status : String}
    (valid : status ≠ "INVALID") (challenges : List String) :
    ∃ entry, orchestrator.assessEntry context symbol
        { setup with status := status, challenges := challenges } = .ok (some entry) ∧
      entry.triggerStatus = "ENTRY_READY" := by
  obtain ⟨answer, answered, signal⟩ := ready
  have same : orchestrator.entryContext context
      { setup with status := status, challenges := challenges } =
      orchestrator.entryContext context setup := rfl
  unfold assessEntry
  rw [if_neg valid, same, answered]
  exact ⟨_, rfl, signal⟩

/-- A ready entry assessment comes from a role that says so. -/
theorem ready_of_assessEntry {symbol : String} {setup : SetupCandidate}
    {entry : Option EntryAssessment} (valid : setup.status ≠ "INVALID")
    (assessed : orchestrator.assessEntry context symbol setup = .ok entry)
    (ready : ∀ held, entry = some held → held.triggerStatus = "ENTRY_READY") :
    orchestrator.EntryReady context setup := by
  unfold assessEntry at assessed
  rw [if_neg valid] at assessed
  obtain ⟨answer, answered, made⟩ := of_bind_eq_ok assessed
  cases made
  exact ⟨answer, answered, ready _ rfl⟩

section Cycles

variable (eventType : String) (stateChanged : Bool) (existingSetup : Option SetupCandidate)

/-- The cycle once its dispatch runs and its specialists have answered. -/
theorem cycle_of_specialists {roleOutputs : Dict String RoleOutput}
    (runs : (dispatched context eventType stateChanged existingSetup).runCommittee = true)
    (answered : orchestrator.specialists context
      (dispatched context eventType stateChanged existingSetup).roles = .ok roleOutputs) :
    orchestrator.cycle ids context eventType stateChanged existingSetup =
      let dispatch := dispatched context eventType stateChanged existingSetup
      let assessment := assess ids context roleOutputs
      match openingSetup context.symbol assessment roleOutputs existingSetup with
      | none =>
          .ok ⟨some dispatch, some assessment, none, none,
            some (orchestrator.decide ids assessment none none none roleOutputs), none,
            roleOutputs, true⟩
      | some setup => do
          let (setup, conflicts, debate) ← orchestrator.debateConflicts ids context setup
            assessment.conflicts roleOutputs
          let assessment := { assessment with conflicts := conflicts }
          let entry ← orchestrator.assessEntry context context.symbol setup
          let decision := orchestrator.decide ids assessment (some setup) entry debate
            roleOutputs
          return ⟨some dispatch, some assessment, some setup, entry, some decision, debate,
            roleOutputs, true⟩ := by
  unfold cycle
  unfold dispatched at runs answered
  dsimp only
  rw [runs, answered, ok_bind]
  rfl

/-- A cycle for which a trade is due trades, with everything in place but the directions. -/
theorem cycle_of_due {side : Side} {roleOutputs : Dict String RoleOutput}
    (due : orchestrator.TradeDue ids context eventType stateChanged existingSetup side
      roleOutputs) :
    ∃ result decision setup opening entry,
      orchestrator.cycle ids context eventType stateChanged existingSetup = .ok result ∧
      result.roleOutputs = roleOutputs ∧
      result.decision = some decision ∧ decision.action = side.action ∧
      result.setup = some setup ∧ setup.status ≠ "INVALID" ∧
      openingSetup context.symbol (assess ids context roleOutputs) roleOutputs
        existingSetup = some opening ∧ setup.direction = opening.direction ∧
      (∀ conflict ∈ decision.conflicts,
        conflict.severity = .high ∨ conflict.severity = .critical →
          conflict.resolutionStatus = .resolved) ∧
      result.entryAssessment = some entry ∧ entry.triggerStatus = "ENTRY_READY" := by
  classical
  obtain ⟨runs, answered, supported, unopposed, opening, opened, survives, ready⟩ := due
  have lower := orchestrator.lower_of_specialists context
    (decideDispatch_roles_subset _ stateChanged existingSetup.isSome) answered
  have bias : CommitteeCoordinator.deriveBias (assess ids context roleOutputs) = side.bias :=
    (CommitteeCoordinator.deriveBias_buildAssessment_iff ids _ _ lower side).mpr
      ⟨supported, unopposed⟩
  have conflicts := conflicts_of_agreement ids context lower bias
  rw [cycle_of_specialists orchestrator ids context eventType stateChanged existingSetup runs
    answered]
  dsimp only
  rw [opened]
  dsimp only
  obtain ⟨status, challenges, left, debate, debated, valid, mild, resolved⟩ :=
    orchestrator.debateConflicts_of_survives ids context survives
  have entered : ∃ entry, orchestrator.assessEntry context context.symbol
      { opening with status := status, challenges := challenges } = .ok (some entry) ∧
      entry.triggerStatus = "ENTRY_READY" :=
    orchestrator.assessEntry_of_ready context ready valid challenges
  obtain ⟨entry, assessed, signal⟩ := entered
  have calm : ({ assess ids context roleOutputs with
      conflicts := left } : MarketAssessment).hasCriticalConflicts = false := by
    unfold MarketAssessment.hasCriticalConflicts
    rw [List.any_eq_false]
    intro conflict member
    simp [mild conflict member]
  rw [conflicts, debated, ok_bind]
  dsimp only
  rw [assessed, ok_bind]
  refine ⟨_, _, _, opening, entry, rfl, rfl, rfl, ?_, rfl, valid, rfl, rfl, ?_, rfl, signal⟩
  · rw [decide_action_iff]
    refine ⟨⟨fun blocked => ?_, bias⟩, ⟨_, rfl, valid⟩, resolved, ?_⟩
    · rw [calm] at blocked
      exact Bool.false_ne_true blocked.2
    · intro held same
      cases same
      exact signal
  · intro conflict member severe
    rw [decide_conflicts] at member
    rw [mild conflict member] at severe
    simp at severe

/-- A cycle that trades had a trade due. -/
theorem due_of_cycle {result : CommitteeResult} {decision : DecisionState} {side : Side}
    (ran : orchestrator.cycle ids context eventType stateChanged existingSetup = .ok result)
    (decided : result.decision = some decision) (taken : decision.action = side.action) :
    ∃ roleOutputs, orchestrator.TradeDue ids context eventType stateChanged existingSetup side
      roleOutputs := by
  classical
  by_cases runs :
      (dispatched context eventType stateChanged existingSetup).runCommittee = true
  · cases answered : orchestrator.specialists context
        (dispatched context eventType stateChanged existingSetup).roles with
    | error raised =>
        have failed : orchestrator.cycle ids context eventType stateChanged existingSetup =
            .error raised := by
          unfold cycle
          unfold dispatched at runs answered
          dsimp only
          rw [runs, answered]
          rfl
        rw [failed] at ran
        cases ran
    | ok roleOutputs =>
        rw [cycle_of_specialists orchestrator ids context eventType stateChanged existingSetup
          runs answered] at ran
        have lower := orchestrator.lower_of_specialists context
          (decideDispatch_roles_subset _ stateChanged existingSetup.isSome) answered
        have agreement := CommitteeCoordinator.deriveBias_buildAssessment_iff ids context.symbol
          (if context.traceId ≠ "" then context.traceId else context.eventId) lower side
        dsimp only at ran
        cases opened : openingSetup context.symbol (assess ids context roleOutputs) roleOutputs
            existingSetup with
        | none =>
            rw [opened] at ran
            cases ran
            cases decided
            rw [decide_action_iff] at taken
            obtain ⟨-, ⟨held, missing, -⟩, -⟩ := taken
            cases missing
        | some opening =>
            rw [opened] at ran
            obtain ⟨⟨setup, left, debate⟩, debated, after⟩ := of_bind_eq_ok ran
            obtain ⟨entry, assessed, made⟩ := of_bind_eq_ok after
            cases made
            cases decided
            rw [decide_action_iff] at taken
            obtain ⟨⟨-, bias⟩, ⟨held, same, valid⟩, resolved, ready⟩ := taken
            cases same
            have sided := agreement.mp bias
            rw [conflicts_of_agreement ids context lower bias] at debated
            have survives :=
              orchestrator.survives_of_debateConflicts ids context debated valid resolved
            -- the debate of a setup that survives is known, so the setup kept its levels
            obtain ⟨status, challenges, conflicts, ended, known, -⟩ :=
              orchestrator.debateConflicts_of_survives ids context survives
            rw [known] at debated
            cases debated
            have entered := orchestrator.ready_of_assessEntry context valid assessed ready
            exact ⟨roleOutputs, runs, answered, sided.1, sided.2, opening, opened, survives,
              entered⟩
  · have idle : orchestrator.cycle ids context eventType stateChanged existingSetup =
        .ok ⟨some (dispatched context eventType stateChanged existingSetup), none, none, none,
          none, none, .empty, false⟩ := by
      unfold cycle
      unfold dispatched at runs ⊢
      dsimp only
      rw [Bool.not_eq_true] at runs
      rw [runs]
      rfl
    rw [idle] at ran
    cases ran
    cases decided

/-- A cycle is sound exactly when its setup and its roles are aligned with each side on which
a trade is due. -/
theorem sound_run_iff :
    Sound (orchestrator.run ids context eventType stateChanged existingSetup) ↔
      ∀ side roleOutputs,
        orchestrator.TradeDue ids context eventType stateChanged existingSetup side
          roleOutputs → Aligned existingSetup side roleOutputs := by
  constructor
  · intro sound side roleOutputs due
    obtain ⟨result, decision, setup, opening, entry, ran, outputs, decided, taken, held, -,
      opened, same, -⟩ :=
      orchestrator.cycle_of_due ids context eventType stateChanged existingSetup due
    have result_eq : orchestrator.run ids context eventType stateChanged existingSetup =
        result := by
      unfold run
      rw [ran]
    rw [result_eq] at sound
    obtain ⟨backing, given, -, points, unopposed, -⟩ := sound decision decided side taken
    rw [held] at given
    cases given
    rw [outputs] at unopposed
    refine ⟨?_, unopposed⟩
    intro brought existing
    rw [existing] at opened
    cases opened
    exact same ▸ points
  · intro aligned decision decided side taken
    cases ran : orchestrator.cycle ids context eventType stateChanged existingSetup with
    | error raised =>
        unfold run at decided
        rw [ran] at decided
        cases decided
    | ok result =>
        have result_eq : orchestrator.run ids context eventType stateChanged existingSetup =
            result := by
          unfold run
          rw [ran]
        rw [result_eq] at decided ⊢
        obtain ⟨roleOutputs, due⟩ := orchestrator.due_of_cycle ids context eventType
          stateChanged existingSetup ran decided taken
        obtain ⟨other, chosen, setup, opening, entry, again, outputs, made, -, held, valid,
          opened, same, calm, assessed, ready⟩ :=
          orchestrator.cycle_of_due ids context eventType stateChanged existingSetup due
        rw [ran] at again
        cases again
        rw [decided] at made
        cases made
        have agrees := aligned side roleOutputs due
        refine ⟨setup, held, valid, ?_, ?_, calm, entry, assessed, ready⟩
        · rw [same]
          exact direction_of_aligned agrees opened
        · rw [outputs]
          exact agrees.2

end Cycles

end Cycle

/-- A structure role that works and speaks for a rise. -/
def bullishStructure : RoleOutput :=
  { role := "structure"
    signal := "BULLISH"
    confidenceDimensions := .empty
    freshness := .fresh
    error := false
    roleSpecific := .empty }

/-- A setup to sell that the caller brings along. -/
def sellSetup : SetupCandidate :=
  { setupId := "setup_1"
    assessmentId := "asm_0"
    symbol := "EURUSD"
    direction := "SELL"
    setupType := "CONTINUATION"
    timeframe := "M15"
    entryContext := ""
    invalidation := "close above 1.1050"
    requiredConditions := []
    missingConditions := []
    supportingEvidenceRefs := ["structure"]
    contradictingEvidenceRefs := []
    setupQuality := 1 / 2
    status := "CANDIDATE"
    challenges := [] }

/-- The orchestrator with its default limits, a structure role and the default entry role. -/
def structureCommittee : CommitteeOrchestrator Unit :=
  { roles := Dict.empty.set "structure" (some fun _ => .ok bullishStructure)
    config := .default
    coordinator := { unresolvedConflictBlocks := true }
    challenger := Challenger.challengerRole
    specialistRunner := none
    triggerEngine := fun _ _ => none }

/-- A touched zone whose trigger the caller confirms. -/
def touchedZone : Context Unit :=
  { symbol := "EURUSD"
    traceId := "trace_1"
    eventId := ""
    eventType := ""
    setup := none
    hypothesisDirection := ""
    claimedDirection := ""
    claimedEvidence := []
    roleOutputs := .empty
    invalidation := ""
    triggerResult := none
    requiredTriggers := []
    triggerConfirmed := true
    zoneTouched := true
    market := () }

/-- The identifiers of a cycle. -/
def someIds : Ids :=
  { assessment := "asm_1"
    bundle := "bundle_1"
    directionalConflict := "cfl_1"
    newsConflict := "cfl_2"
    decision := "dec_1"
    debate := fun _ => "dbt_1" }

/-- A setup to sell becomes a decision to buy. -/
theorem sell_setup_bought :
    ¬Sound (structureCommittee.run someIds touchedZone "ZONE_TOUCH" true (some sellSetup)) := by
  intro sound
  have bought : ∃ decision,
      (structureCommittee.run someIds touchedZone "ZONE_TOUCH" true
        (some sellSetup)).decision = some decision ∧ decision.action = .buy := by
    refine ⟨_, rfl, ?_⟩
    decide +kernel
  obtain ⟨decision, decided, action⟩ := bought
  obtain ⟨setup, held, -, points, -⟩ := sound decision decided .buy action
  have sells : (structureCommittee.run someIds touchedZone "ZONE_TOUCH" true
      (some sellSetup)).setup.map SetupCandidate.direction = some "SELL" := by
    decide +kernel
  rw [held, Option.map_some, points] at sells
  exact absurd sells (by decide)

end CommitteeOrchestrator

end EaBot.Agents
