import EaBot.Execution.OrderBuilder
import EaBot.Orchestration.Pipeline

/-!
# What a cycle dispatches

A cycle dispatches at the end of its course only.  Up to there it either leaves without
having sent anything, or it arrives with an order that has passed every gate and every
guard.  What it then sends is determined by the order, by the word of the gate on it and
by the configured way.
-/

namespace EaBot.Orchestration

open EaBot.Execution EaBot.Foundation TradingPipeline

/-! ## A cycle up to its order -/

/-- A cycle whose proposal has been read for the risk gate. -/
structure AskedProposal where
  analysis : Analysis
  proposal : Record
  validation : ValidationInputs
  cycle : DecisionCycle

/-- A cycle whose order has been built. -/
structure BuiltOrder where
  analysis : Analysis
  proposal : Record
  validation : ValidationInputs
  route : ExecutionRoute
  order : OrderRequest
  cycle : DecisionCycle

/-- The cycle up to the question to the risk gate. -/
def asked (config : PipelineConfig) (inputs : CycleInputs) (state : PipelineState) :
    Stage PipelineOutcome AskedProposal := do
  let (analysis, proposal, cycle) ← convene config inputs state
  let cycle := openSignal config inputs proposal cycle
  let cycle ← htfFilter config inputs proposal cycle
  let validation ← readInputs inputs proposal cycle
  return ⟨analysis, proposal, validation, cycle⟩

/-- The cycle up to its order. -/
def built (config : PipelineConfig) (inputs : CycleInputs) (state : PipelineState) :
    Stage PipelineOutcome BuiltOrder := do
  let asked ← asked config inputs state
  let (proposal, cycle) ← clear config inputs asked.proposal asked.validation asked.cycle
  let route ← findRoute inputs cycle
  let (order, cycle) ← buildOrder inputs proposal asked.validation cycle
  return ⟨asked.analysis, proposal, asked.validation, route, order, cycle⟩

/-- A cycle goes on from its order with the word of the gate on it. -/
theorem run_eq_built (config : PipelineConfig) (inputs : CycleInputs) (state : PipelineState) :
    run config inputs state = Stage.outcome (built config inputs state >>= fun b =>
      revalidateFinalOrder config inputs b.order b.validation b.cycle >>= fun v =>
        Stage.proceed (dispatchOrder config inputs b.route b.order b.analysis b.proposal v.1
          v.2)) := by
  unfold run pursue execute built asked
  simp only [Stage.bind_assoc, Stage.pure_eq_proceed, Stage.proceed_bind]

/-! ## Gates and guards -/

/-- What an order has passed. -/
structure Cleared (config : PipelineConfig) (inputs : CycleInputs)
    (validation : ValidationInputs) : Prop where
  approved : ∃ decision, inputs.riskGate .proposal validation = .ok decision ∧
    decision.approved = true
  dependency : Allows inputs.dependencyGuard
  reconciliation : Allows inputs.reconciliationGuard
  readiness : Allows inputs.readinessGuard
  single : blockingTicket config validation = none

/-- A cycle that has dispatched nothing. -/
def Silent (cycle : DecisionCycle) : Prop :=
  cycle.dispatches = []

/-- A cycle that is over and has dispatched nothing. -/
def Quiet (outcome : PipelineOutcome) : Prop :=
  Silent outcome.cycle

section Stages

variable {config : PipelineConfig} {inputs : CycleInputs} {cycle : DecisionCycle}

theorem markSignal_dispatches (action : SignalAction) (reason : String) :
    (cycle.markSignal config inputs action reason).dispatches = cycle.dispatches := by
  unfold DecisionCycle.markSignal
  split <;> rfl

/-- A way out that marks the signal dispatches nothing. -/
theorem silent_markSignal (silent : Silent cycle) (action : SignalAction) (reason : String) :
    Quiet (cycle.markSignal config inputs action reason).returned :=
  (markSignal_dispatches action reason).trans silent

variable (silent : Silent cycle)

include silent

theorem pendingGate_silent :
    (pendingGate config inputs cycle).Satisfies Quiet Silent := by
  unfold pendingGate
  split
  · dsimp only
    split
    · exact silent
    · exact silent
  · exact silent

theorem freshnessGate_silent :
    (freshnessGate config inputs cycle).Satisfies Quiet Silent := by
  unfold freshnessGate
  split
  · exact silent
  · exact silent

theorem analyse_silent :
    (analyse inputs cycle).Satisfies Quiet
      (fun next => Silent next.2) := by
  unfold analyse
  split
  · exact silent
  · exact silent

theorem propose_silent (analysis : Analysis) :
    (propose inputs analysis cycle).Satisfies Quiet
      (fun next => Silent next.2) := by
  unfold propose
  split
  · exact silent
  · split
    · exact silent
    · exact silent
    · dsimp only
      split
      · exact silent
      · exact silent

theorem openSignal_silent (proposal : Record) :
    Silent (openSignal config inputs proposal cycle) := by
  unfold openSignal
  split
  · exact silent
  · exact silent

theorem htfFilter_silent (proposal : Record) :
    (htfFilter config inputs proposal cycle).Satisfies Quiet Silent := by
  unfold htfFilter
  split
  · exact silent
  · apply silent_markSignal
    exact silent

theorem readInputs_silent (proposal : Record) :
    (readInputs inputs proposal cycle).Satisfies Quiet
      (fun validation => validation.currentPositions =
        inputs.context.currentPositions.getD []) := by
  unfold readInputs
  cases read : buildValidationInputs inputs.complete proposal inputs.context with
  | error raised => exact silent
  | ok validation =>
      unfold buildValidationInputs at read
      obtain ⟨normalised, -, read⟩ := of_bind_eq_ok read
      cases read
      rfl

theorem passRiskGate_silent (validation : ValidationInputs) :
    (passRiskGate config inputs validation cycle).Satisfies Quiet
      (fun next => Silent next ∧ ∃ decision,
        inputs.riskGate .proposal validation = .ok decision ∧ decision.approved = true) := by
  unfold passRiskGate
  split
  · exact silent
  · rename_i decision answered
    dsimp only
    split
    · rename_i approved
      exact ⟨silent, decision, answered, approved⟩
    · apply silent_markSignal
      exact silent

theorem passGuard_silent (texts : GuardTexts)
    (guard : Option (Except String (Bool × String))) :
    (passGuard texts guard config inputs cycle).Satisfies Quiet
      (fun next => Silent next ∧ Allows guard) := by
  unfold passGuard
  split
  · refine ⟨silent, ?_⟩
    intro answer absent
    cases absent
  · rename_i answer
    dsimp only
    split
    · rename_i allowed
      refine ⟨silent, ?_⟩
      intro other same
      cases same
      cases answer with
      | error raised => cases allowed
      | ok verdict =>
          rcases verdict with ⟨verdict, words⟩
          exact ⟨words, congrArg (fun found => Except.ok (found, words)) allowed⟩
    · apply silent_markSignal
      exact silent

/-- The one-entry policy lets a cycle pass while it sees no position of ours. -/
theorem singleEntry_silent (validation : ValidationInputs) :
    (singleEntry config inputs validation cycle).Satisfies Quiet
      (fun next => Silent next ∧ blockingTicket config validation = none) := by
  unfold singleEntry
  cases blocking : blockingTicket config validation with
  | none => exact ⟨silent, rfl⟩
  | some ticket =>
      apply silent_markSignal
      exact silent

theorem entryGuard_silent (validation : ValidationInputs) :
    (entryGuard config inputs validation cycle).Satisfies Quiet
      Silent := by
  unfold entryGuard
  split
  · exact silent
  · apply silent_markSignal
    exact silent

theorem zoneEntry_silent (proposal : Record) (validation : ValidationInputs) :
    (zoneEntry config inputs proposal validation cycle).Satisfies Quiet
      (fun next => Silent next.2) := by
  unfold zoneEntry
  split
  · exact silent
  · exact silent
  · apply silent_markSignal
    exact silent

/-- What goes on to the order has passed the gates and the guards. -/
theorem clear_silent (proposal : Record) (validation : ValidationInputs) :
    (clear config inputs proposal validation cycle).Satisfies Quiet
      (fun next => Silent next.2 ∧ Cleared config inputs validation) := by
  unfold clear
  apply (passRiskGate_silent silent validation).bind
  rintro cycle ⟨silent, approved⟩
  apply (passGuard_silent silent _ _).bind
  rintro cycle ⟨silent, dependency⟩
  apply (passGuard_silent silent _ _).bind
  rintro cycle ⟨silent, reconciliation⟩
  apply (passGuard_silent silent _ _).bind
  rintro cycle ⟨silent, readiness⟩
  apply (singleEntry_silent silent validation).bind
  rintro cycle ⟨silent, single⟩
  apply (entryGuard_silent silent validation).bind
  intro cycle silent
  apply (zoneEntry_silent silent proposal validation).mono
  · exact fun _ quiet => quiet
  · exact fun _ silent => ⟨silent, approved, dependency, reconciliation, readiness, single⟩

theorem findRoute_silent :
    (findRoute inputs cycle).Satisfies Quiet (fun route => inputs.route = some route) := by
  unfold findRoute
  split
  · assumption
  · exact silent

theorem buildOrder_silent (proposal : Record) (validation : ValidationInputs) :
    (buildOrder inputs proposal validation cycle).Satisfies Quiet
      (fun next => Silent next.2 ∧ inputs.orderBuilder
        (buildProposal inputs proposal validation) validation.marketInfo = .ok next.1) := by
  unfold buildOrder
  split
  · exact silent
  · rename_i built
    exact ⟨silent, built⟩

omit silent

theorem convene_silent (state : PipelineState) :
    (convene config inputs state).Satisfies Quiet (fun next => Silent next.2.2) := by
  have begins : Silent (startCycle inputs state) := rfl
  unfold convene
  apply (pendingGate_silent begins).bind
  intro cycle silent
  apply (freshnessGate_silent silent).bind
  intro cycle silent
  apply (analyse_silent silent).bind
  rintro ⟨analysis, cycle⟩ silent
  apply (propose_silent silent analysis).bind
  rintro ⟨proposal, cycle⟩ silent
  exact silent

theorem asked_silent (state : PipelineState) :
    (asked config inputs state).Satisfies Quiet (fun a => Silent a.cycle ∧
      a.validation.currentPositions = inputs.context.currentPositions.getD []) := by
  unfold asked
  apply (convene_silent state).bind
  rintro ⟨analysis, proposal, cycle⟩ silent
  apply (htfFilter_silent (openSignal_silent silent proposal) proposal).bind
  intro cycle silent
  apply (readInputs_silent silent proposal).bind
  intro validation read
  exact ⟨silent, read⟩

/-- What a built order has behind it. -/
structure Ready (config : PipelineConfig) (inputs : CycleInputs) (b : BuiltOrder) : Prop where
  silent : Silent b.cycle
  route : inputs.route = some b.route
  cleared : Cleared config inputs b.validation
  positions : b.validation.currentPositions = inputs.context.currentPositions.getD []
  order : inputs.orderBuilder (buildProposal inputs b.proposal b.validation)
    b.validation.marketInfo = .ok b.order

theorem built_ready (state : PipelineState) :
    (built config inputs state).Satisfies Quiet (Ready config inputs) := by
  unfold built
  apply (asked_silent state).bind
  rintro ⟨analysis, proposal, validation, cycle⟩ ⟨silent, positions⟩
  apply (clear_silent silent proposal validation).bind
  rintro ⟨proposal, cycle⟩ ⟨silent, cleared⟩
  apply (findRoute_silent silent).bind
  intro route found
  apply (buildOrder_silent silent proposal validation).bind
  rintro ⟨order, cycle⟩ ⟨silent, order⟩
  exact ⟨silent, found, cleared, positions, order⟩

end Stages

/-! ## The dispatch -/

section Dispatching

variable (config : PipelineConfig) (inputs : CycleInputs) {cycle : DecisionCycle}

/-- What is sent for an order that goes on with `validation`. -/
def sendsOn (route : ExecutionRoute) (order : OrderRequest) (analysis : Analysis)
    (decision : String) (validation : ValidationInputs) : List Dispatch :=
  match route with
  | .coordinator _ =>
      let signal := buildCanonicalSignal config inputs analysis decision validation
      [.accounts signal (rawProposal config signal validation)]
  | .engine engine => (dispatchExecution inputs engine (approve inputs order)).1

/-- What is sent for a built order that goes on with `validation`. -/
def sendsFor (b : BuiltOrder) (validation : ValidationInputs) : List Dispatch :=
  sendsOn config inputs b.route b.order b.analysis b.cycle.result.decision validation

/-- What a cycle sends: nothing without an order on which the gate has given its word. -/
def sends (state : PipelineState) : List Dispatch :=
  match built config inputs state with
  | .leave _ => []
  | .proceed b =>
      match revalidated inputs b.order b.validation with
      | .error _ => []
      | .ok validation => sendsFor config inputs b validation

variable {config inputs}

theorem entered_dispatches (proposal : Record) (validation : ValidationInputs) (ticket : Val)
    (reason : String) :
    (entered config inputs proposal validation ticket reason cycle).dispatches =
      cycle.dispatches := by
  unfold entered
  exact markSignal_dispatches _ _

theorem dispatchCanonicalFanout_dispatches
    (fanOut : CanonicalSignal → RawProposal → Except String Record) (analysis : Analysis)
    (proposal : Record) (validation : ValidationInputs) :
    (dispatchCanonicalFanout config inputs fanOut analysis proposal validation
      cycle).cycle.dispatches =
      cycle.dispatches ++
        [.accounts
          (buildCanonicalSignal config inputs analysis cycle.result.decision validation)
          (rawProposal config
            (buildCanonicalSignal config inputs analysis cycle.result.decision validation)
            validation)] := by
  unfold dispatchCanonicalFanout
  dsimp only
  split
  · rfl
  · split
    · rfl
    · split
      · exact entered_dispatches _ _ _ _
      · exact markSignal_dispatches _ _

theorem dispatchSingle_dispatches (engine : Engine) (order : OrderRequest) (proposal : Record)
    (validation : ValidationInputs) :
    (dispatchSingle config inputs engine order proposal validation cycle).cycle.dispatches =
      cycle.dispatches ++ (dispatchExecution inputs engine order).1 := by
  unfold dispatchSingle
  dsimp only
  split
  · rfl
  · split
    · exact entered_dispatches _ _ _ _
    · exact markSignal_dispatches _ _

theorem dispatchOrder_dispatches (route : ExecutionRoute) (order : OrderRequest)
    (analysis : Analysis) (proposal : Record) (validation : ValidationInputs) :
    (dispatchOrder config inputs route order analysis proposal validation
      cycle).cycle.dispatches =
      cycle.dispatches ++
        sendsOn config inputs route order analysis cycle.result.decision validation := by
  cases route with
  | coordinator fanOut => exact dispatchCanonicalFanout_dispatches _ _ _ _
  | engine engine => exact dispatchSingle_dispatches _ _ _ _

theorem revalidateFinalOrder_of_error (cycle : DecisionCycle) {order : OrderRequest}
    {validation : ValidationInputs} {reason : String}
    (word : revalidated inputs order validation = .error reason) :
    ∃ outcome, revalidateFinalOrder config inputs order validation cycle = .leave outcome ∧
      outcome.cycle.dispatches = cycle.dispatches := by
  unfold revalidateFinalOrder
  rw [word]
  exact ⟨_, rfl, markSignal_dispatches _ _⟩

theorem revalidateFinalOrder_of_ok {order : OrderRequest} {validation final : ValidationInputs}
    (word : revalidated inputs order validation = .ok final) :
    revalidateFinalOrder config inputs order validation cycle =
      .proceed (final,
        { cycle with
          result := { cycle.result with
            finalOrder := some (finalOrder inputs order validation) } }) := by
  unfold revalidateFinalOrder
  rw [word]

/-- The dispatches of a cycle. -/
theorem run_dispatches (config : PipelineConfig) (inputs : CycleInputs) (state : PipelineState) :
    (run config inputs state).cycle.dispatches = sends config inputs state := by
  have ready : (built config inputs state).Satisfies Quiet (Ready config inputs) :=
    built_ready state
  rw [run_eq_built, sends]
  cases found : built config inputs state with
  | leave outcome =>
      rw [found] at ready
      exact ready
  | proceed b =>
      rw [found] at ready
      have silent : b.cycle.dispatches = [] := ready.silent
      cases word : revalidated inputs b.order b.validation with
      | error reason =>
          obtain ⟨outcome, leaves, quiet⟩ :=
            revalidateFinalOrder_of_error b.cycle word
          rw [Stage.proceed_bind, leaves, Stage.leave_bind]
          simp only [word]
          exact quiet.trans silent
      | ok validation =>
          rw [Stage.proceed_bind, revalidateFinalOrder_of_ok word, Stage.proceed_bind]
          simp only [word]
          refine (dispatchOrder_dispatches _ _ _ _ _).trans ?_
          rw [silent]
          rfl

/-- A dispatched order was built, was let pass by the gate, and is sent on its route. -/
theorem of_dispatched {state : PipelineState} {dispatch : Dispatch}
    (dispatched : dispatch ∈ (run config inputs state).cycle.dispatches) :
    ∃ b validation, built config inputs state = .proceed b ∧ Ready config inputs b ∧
      revalidated inputs b.order b.validation = .ok validation ∧
      dispatch ∈ sendsFor config inputs b validation := by
  have ready : (built config inputs state).Satisfies Quiet (Ready config inputs) :=
    built_ready state
  rw [run_dispatches, sends] at dispatched
  cases found : built config inputs state with
  | leave outcome =>
      rw [found] at dispatched
      cases dispatched
  | proceed b =>
      rw [found] at ready dispatched
      cases word : revalidated inputs b.order b.validation with
      | error reason =>
          simp only [word] at dispatched
          cases dispatched
      | ok validation =>
          simp only [word] at dispatched
          exact ⟨b, validation, rfl, ready, word, dispatched⟩

end Dispatching

/-! ## The one-entry policy and the magic number -/

/-- What a cycle may dispatch: the one-entry policy sees no position of ours, and the
magic number is the configured one or that of a built order. -/
structure Justified (config : PipelineConfig) (inputs : CycleInputs) (dispatch : Dispatch) :
    Prop where
  single : config.singleEntryPolicy = true →
    ownPositionTicket config.entryMagic (inputs.context.currentPositions.getD []) = none
  labelled : (inputs.fanoutCoordinator ≠ none ∧ dispatch.magic = config.entryMagic) ∨
    (inputs.fanoutCoordinator = none ∧ ∃ proposal validation order,
      inputs.orderBuilder (buildProposal inputs proposal validation) validation.marketInfo =
        .ok order ∧ dispatch.magic = order.magic)

/-- Everything that has been dispatched may be. -/
def JustifiedAll (config : PipelineConfig) (inputs : CycleInputs) (outcome : PipelineOutcome) :
    Prop :=
  ∀ dispatch ∈ outcome.cycle.dispatches, Justified config inputs dispatch

section Justification

variable {inputs : CycleInputs}

/-- An engine is sent the order and nothing else. -/
theorem dispatchExecution_magic {engine : Engine} {order : OrderRequest} {dispatch : Dispatch}
    (sent : dispatch ∈ (dispatchExecution inputs engine order).1) :
    dispatch.magic = order.magic := by
  unfold dispatchExecution at sent
  split at sent
  · rw [List.mem_singleton.mp sent]
    rfl
  · split at sent
    · cases sent
    · rw [List.mem_singleton.mp sent]
      rfl

/-- The way over the accounts is taken when a coordinator is configured. -/
theorem coordinator_of_route {fanOut : CanonicalSignal → RawProposal → Except String Record}
    (route : inputs.route = some (.coordinator fanOut)) : inputs.fanoutCoordinator ≠ none := by
  intro absent
  unfold CycleInputs.route at route
  rw [absent] at route
  cases engine : inputs.executionEngine with
  | none =>
      rw [engine] at route
      cases route
  | some engine' =>
      rw [engine] at route
      cases route

/-- The way over an engine is taken when no coordinator is configured. -/
theorem engine_of_route {engine : Engine} (route : inputs.route = some (.engine engine)) :
    inputs.fanoutCoordinator = none := by
  unfold CycleInputs.route at route
  cases coordinator : inputs.fanoutCoordinator with
  | none => rfl
  | some fanOut =>
      rw [coordinator] at route
      cases route

/-- Whatever a cycle dispatches has passed the one-entry policy and carries the magic
number of the configuration or of a built order. -/
theorem run_justified (config : PipelineConfig) (inputs : CycleInputs) (state : PipelineState) :
    JustifiedAll config inputs (run config inputs state) := by
  intro dispatch dispatched
  obtain ⟨b, validation, -, ready, -, sent⟩ := of_dispatched dispatched
  have single := ready.cleared.single
  rw [blockingTicket, ready.positions] at single
  constructor
  · intro policy
    rwa [if_pos policy] at single
  · have way := ready.route
    unfold sendsFor sendsOn at sent
    cases route : b.route with
    | coordinator fanOut =>
        rw [route] at way
        simp only [route, List.mem_singleton] at sent
        rw [sent]
        exact Or.inl ⟨coordinator_of_route way, rfl⟩
    | engine engine =>
        rw [route] at way
        simp only [route] at sent
        have labelled : dispatch.magic = (approve inputs b.order).magic :=
          dispatchExecution_magic sent
        exact Or.inr ⟨engine_of_route way, _, _, _, ready.order, labelled⟩

end Justification

end EaBot.Orchestration
