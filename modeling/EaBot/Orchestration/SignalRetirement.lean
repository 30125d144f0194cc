import EaBot.Orchestration.Pipeline

/-!
# Retiring the signal of a cycle

A cycle that opens a signal blocks its symbol.  The signal is retired when an order has
been executed, so that the close of the position will free it, or when the record is
put into a phase from which the symbol is analysed again.

Every veto, gate and guard retires the signal that it turns down.  The ways out that an
exception or a missing part takes do not: they leave a pending record behind.  The
condition for it follows the cycle from the proposal to the dispatch.
-/

namespace EaBot.Orchestration

open EaBot.Execution EaBot.Foundation TradingPipeline

/-! ## Retired signals -/

/-- The signal of the symbol is open with an executed order, or it has failed or been
skipped and the symbol will be analysed again. -/
def Retired (inputs : CycleInputs) (outcome : PipelineOutcome) : Prop :=
  ∃ record, outcome.cycle.state.registry.get inputs.symbol = some record ∧
    ((record.phase = .opened ∧ outcome.cycle.result.executed = true) ∨
      ((record.phase = .failed ∨ record.phase = .skipped) ∧
        ∃ bound, ∀ now, bound ≤ now →
          (outcome.cycle.state.registry.shouldConvene inputs.symbol now).1 = true))

/-- A signal that the cycle opens is retired when the cycle is over. -/
def NoStuckSignal (config : PipelineConfig) (inputs : CycleInputs) (state : PipelineState) :
    Prop :=
  (run config inputs state).cycle.signalOpened = true →
    Retired inputs (run config inputs state)

/-! ## Cycles that open a signal and leave it pending -/

/-- The cycle reaches a proposal to act upon, for which it opens a signal. -/
structure OpensSignal (config : PipelineConfig) (inputs : CycleInputs) (state : PipelineState)
    (analysis : Analysis) (proposal : Record) : Prop where
  guarded : guarded config inputs = true
  convenes : (state.registry.shouldConvene inputs.symbol inputs.clock.convened).1 = true
  fresh : config.freshnessGateEnabled = true → inputs.staleReason = .ok ""
  analysed : inputs.supervisor inputs.context = .ok analysis
  proposed : extractProposal analysis = some proposal
  actionable : isActionable inputs.strategy.minConfidence proposal = .ok true
  canonical : canonicalBlockReason (inputs.decisionChain analysis) = ""

/-- The engine raises when it is given the order. -/
def EngineRaises (inputs : CycleInputs) (engine : Engine) (order : OrderRequest) : Prop :=
  match terminalFanout inputs engine with
  | some executeOrderFanout =>
      ∃ raised, executeOrderFanout order (distanceFrom order.price.value order.sl.value)
        (distanceFrom order.price.value order.tp.value) = .error raised
  | none => inputs.armedTerminals ≤ 1 ∧ ∃ raised, engine.executeOrder order = .error raised

/-- The coordinator raises, or its report cannot be read. -/
def CoordinatorBreaks (fanOut : CanonicalSignal → RawProposal → Except String Record)
    (signal : CanonicalSignal) (raw : RawProposal) : Prop :=
  match fanOut signal raw with
  | .error _ => True
  | .ok report => ∃ raised, readCounts report = .error raised

/-- The dispatch of an approved order breaks off. -/
def DispatchBreaks (config : PipelineConfig) (inputs : CycleInputs) (route : ExecutionRoute)
    (order : OrderRequest) (analysis : Analysis) (decision : String)
    (validation : ValidationInputs) : Prop :=
  match route with
  | .coordinator fanOut =>
      let signal := buildCanonicalSignal config inputs analysis decision validation
      CoordinatorBreaks fanOut signal (rawProposal config signal validation)
  | .engine engine => EngineRaises inputs engine (approve inputs order)

/-- The execution of an approved proposal breaks off: nothing executes orders, no order
can be built, or its dispatch breaks off. -/
def ExecutionBreaks (config : PipelineConfig) (inputs : CycleInputs) (analysis : Analysis)
    (decision : String) (proposal : Record) (validation : ValidationInputs) : Prop :=
  match inputs.route with
  | none => True
  | some route =>
      match inputs.orderBuilder (buildProposal inputs proposal validation)
          validation.marketInfo with
      | .error _ => True
      | .ok order =>
          ∃ final, revalidated inputs order validation = .ok final ∧
            DispatchBreaks config inputs route order analysis decision final

/-- The risk gate raises, or it approves, no guard objects, and the execution breaks
off. -/
def ApprovalBreaks (config : PipelineConfig) (inputs : CycleInputs)
    (lastEntries : Dict String LastEntry) (analysis : Analysis) (decision : String)
    (proposal : Record) (validation : ValidationInputs) : Prop :=
  match inputs.riskGate .proposal validation with
  | .error _ => True
  | .ok verdict =>
      verdict.approved = true ∧ Allows inputs.dependencyGuard ∧
        Allows inputs.reconciliationGuard ∧ Allows inputs.readinessGuard ∧
        blockingTicket config validation = none ∧
        entryGuardReason config inputs lastEntries validation = none ∧
        ∃ final, zoneAnswer inputs proposal validation = .ok final ∧
          ExecutionBreaks config inputs analysis decision final.1 validation

/-- The cycle forgets the signal that it has opened: no bias vetoes the proposal, and
its numbers cannot be read or its approval breaks off. -/
def LeavesPending (config : PipelineConfig) (inputs : CycleInputs) (state : PipelineState)
    (analysis : Analysis) (proposal : Record) : Prop :=
  htfBiasVeto config.htfFilterEnabled config.htfMinStrength proposal inputs.context = none ∧
    match buildValidationInputs inputs.complete proposal inputs.context with
    | .error _ => True
    | .ok validation =>
        ApprovalBreaks config inputs state.lastEntries analysis (directionOf proposal) proposal
          validation

/-! ## The ways out -/

/-- A cycle that has kept what it started from. -/
structure Continues (start cycle : DecisionCycle) : Prop where
  state : cycle.state = start.state
  opened : cycle.signalOpened = start.signalOpened
  decision : cycle.result.decision = start.result.decision

/-- When a signal has been opened, the registry holds it as pending. -/
def HoldsPending (config : PipelineConfig) (inputs : CycleInputs) (cycle : DecisionCycle) : Prop :=
  cycle.signalOpened = true → guarded config inputs = true ∧
    ∃ record, cycle.state.registry.get inputs.symbol = some record ∧ record.phase = .pending

/-- An outcome retires the signal unless it is one of the forgotten ones. -/
def Ends (inputs : CycleInputs) (start : DecisionCycle) (forgets : Prop)
    (outcome : PipelineOutcome) : Prop :=
  outcome.cycle.signalOpened = start.signalOpened ∧
    (start.signalOpened = true → (Retired inputs outcome ↔ ¬ forgets))

section Exits

variable {config : PipelineConfig} {inputs : CycleInputs} {start left : DecisionCycle}
  {forgets : Prop}

/-- A way out that leaves the registry alone leaves the signal pending. -/
theorem ends_of_forgets (holds : HoldsPending config inputs start) {raised : Option String}
    (state : left.state = start.state) (opened : left.signalOpened = start.signalOpened)
    (forgotten : forgets) : Ends inputs start forgets ⟨left, raised⟩ := by
  constructor
  · exact opened
  · intro signal
    obtain ⟨-, record, found, pending⟩ := holds signal
    apply iff_of_false
    · rintro ⟨other, otherFound, retired⟩
      have same : other = record := by
        apply Option.some.inj
        rw [← otherFound, ← found]
        exact congrArg (fun state => state.registry.get inputs.symbol) state
      rw [same, pending] at retired
      simp at retired
    · exact fun kept => kept forgotten

/-- A record that is no longer live, as a failed or a skipped one, is retired. -/
theorem retired_of_idle {outcome : PipelineOutcome} (record : ActiveSignal)
    (found : outcome.cycle.state.registry.get inputs.symbol = some record)
    (idle : record.phase = .failed ∨ record.phase = .skipped) : Retired inputs outcome := by
  refine ⟨record, found, Or.inr ⟨idle, ?_⟩⟩
  apply SignalRegistry.eventually_shouldConvene found
  rcases idle with failed | skipped
  · rw [failed]
    rfl
  · rw [skipped]
    rfl

/-- A way out that skips the signal retires it. -/
theorem ends_of_skipped (holds : HoldsPending config inputs start) (reason : String)
    (state : left.state = start.state) (opened : left.signalOpened = start.signalOpened)
    (kept : ¬ forgets) :
    Ends inputs start forgets (left.markSignal config inputs .skipped reason).returned := by
  constructor
  · rw [← opened]
    unfold DecisionCycle.markSignal DecisionCycle.returned
    split <;> rfl
  · intro signal
    obtain ⟨guard, record, found, pending⟩ := holds signal
    apply iff_of_true _ kept
    rw [← state] at found
    apply retired_of_idle { record with
      phase := .skipped, reason := reason, updatedAt := inputs.clock.marked } _ (Or.inr rfl)
    unfold DecisionCycle.markSignal DecisionCycle.returned
    rw [if_pos guard]
    exact SignalRegistry.transition_get_self found .skipped reason inputs.clock.marked

/-- A way out that lets the signal fail retires it. -/
theorem ends_of_failed (holds : HoldsPending config inputs start) (reason : String)
    (state : left.state = start.state) (opened : left.signalOpened = start.signalOpened)
    (kept : ¬ forgets) :
    Ends inputs start forgets (left.markSignal config inputs .failed reason).returned := by
  constructor
  · rw [← opened]
    unfold DecisionCycle.markSignal DecisionCycle.returned
    split <;> rfl
  · intro signal
    obtain ⟨guard, record, found, pending⟩ := holds signal
    apply iff_of_true _ kept
    rw [← state] at found
    apply retired_of_idle { record with
      phase := .failed, reason := reason, updatedAt := inputs.clock.marked } _ (Or.inl rfl)
    unfold DecisionCycle.markSignal DecisionCycle.returned
    rw [if_pos guard]
    exact SignalRegistry.transition_get_self found .failed reason inputs.clock.marked

/-- A fill retires the signal: its position is live. -/
theorem ends_of_entered (holds : HoldsPending config inputs start) (proposal : Record)
    (validation : ValidationInputs) (ticket : Val) (reason : String)
    (state : left.state = start.state) (opened : left.signalOpened = start.signalOpened)
    (executed : left.result.executed = true) (kept : ¬ forgets) :
    Ends inputs start forgets
      (entered config inputs proposal validation ticket reason left).returned := by
  constructor
  · rw [← opened]
    unfold entered DecisionCycle.markSignal DecisionCycle.returned
    dsimp only
    split <;> rfl
  · intro signal
    obtain ⟨guard, record, found, pending⟩ := holds signal
    apply iff_of_true _ kept
    rw [← state] at found
    refine ⟨{ record with
      phase := .opened, reason := reason, updatedAt := inputs.clock.marked, ticket := ticket },
      ?_, Or.inl ⟨rfl, ?_⟩⟩
    · unfold entered DecisionCycle.markSignal DecisionCycle.returned SignalRegistry.get
      rw [if_pos guard]
      dsimp only
      rw [SignalRegistry.markOpen_get, if_pos rfl]
      exact congrArg (Option.map _) found
    · unfold entered DecisionCycle.markSignal DecisionCycle.returned
      rw [if_pos guard]
      exact executed

end Exits

/-! ## The stages -/

/-- An engine breaks a cycle off exactly when it raises. -/
theorem dispatchExecution_error_iff (inputs : CycleInputs) (engine : Engine)
    (order : OrderRequest) :
    (∃ raised, (dispatchExecution inputs engine order).2 = .error raised) ↔
      EngineRaises inputs engine order := by
  unfold dispatchExecution EngineRaises
  cases terminalFanout inputs engine with
  | some executeOrderFanout =>
      dsimp only
      cases executeOrderFanout order _ _ <;> simp [Except.map]
  | none =>
      dsimp only
      split
      · rename_i several
        simp [Nat.not_le.mpr several]
      · rename_i single
        simp [Nat.not_lt.mp single]

section Stages

variable {config : PipelineConfig} {inputs : CycleInputs} {start cycle : DecisionCycle}
  {forgets rest : Prop}

/-- What a stage hands on: the cycle as it was, and what is left of the condition. -/
def HandsOn (start : DecisionCycle) (forgets rest : Prop) (next : DecisionCycle) : Prop :=
  Continues start next ∧ (forgets ↔ rest)

variable (holds : HoldsPending config inputs start) (continues : Continues start cycle)

include holds continues

theorem htfFilter_ends (proposal : Record)
    (here : forgets ↔ htfBiasVeto config.htfFilterEnabled config.htfMinStrength proposal
      inputs.context = none ∧ rest) :
    (htfFilter config inputs proposal cycle).Satisfies (Ends inputs start forgets)
      (HandsOn start forgets rest) := by
  unfold htfFilter
  cases veto : htfBiasVeto config.htfFilterEnabled config.htfMinStrength proposal
      inputs.context with
  | none => exact ⟨continues, by simp [here, veto]⟩
  | some reason =>
      apply ends_of_skipped holds
      · exact continues.state
      · exact continues.opened
      · simp [here, veto]

theorem readInputs_ends (proposal : Record) {rest : ValidationInputs → Prop}
    (here : forgets ↔
      match buildValidationInputs inputs.complete proposal inputs.context with
      | .error _ => True
      | .ok validation => rest validation) :
    (readInputs inputs proposal cycle).Satisfies (Ends inputs start forgets)
      (fun validation => forgets ↔ rest validation) := by
  unfold readInputs
  cases read : buildValidationInputs inputs.complete proposal inputs.context with
  | error raised =>
      rw [read] at here
      apply ends_of_forgets holds
      · exact continues.state
      · exact continues.opened
      · exact here.mpr trivial
  | ok validation =>
      rw [read] at here
      exact here

/-- A guard retires the signal of a proposal that it holds back. -/
theorem passGuard_ends (texts : GuardTexts) (guard : Option (Except String (Bool × String)))
    (here : forgets ↔ Allows guard ∧ rest) :
    (passGuard texts guard config inputs cycle).Satisfies (Ends inputs start forgets)
      (HandsOn start forgets rest) := by
  unfold passGuard
  cases guard with
  | none => exact ⟨continues, by simp [here, Allows]⟩
  | some answer =>
      dsimp only
      split
      · rename_i allowed
        refine ⟨⟨continues.state, continues.opened, continues.decision⟩, ?_⟩
        cases answer with
        | error raised => simp [guardAnswer] at allowed
        | ok verdict =>
            have passes : Allows (some (Except.ok verdict)) := by
              rintro other same
              have yes : verdict.1 = true := allowed
              exact ⟨verdict.2, by rw [← Option.some.inj same, ← yes]⟩
            simp [here, passes]
      · rename_i objects
        apply ends_of_skipped holds
        · exact continues.state
        · exact continues.opened
        · rw [here]
          rintro ⟨passes, -⟩
          obtain ⟨reason, same⟩ := passes answer rfl
          exact objects (by rw [same]; rfl)

theorem singleEntry_ends (validation : ValidationInputs)
    (here : forgets ↔ blockingTicket config validation = none ∧ rest) :
    (singleEntry config inputs validation cycle).Satisfies (Ends inputs start forgets)
      (HandsOn start forgets rest) := by
  unfold singleEntry
  cases blocking : blockingTicket config validation with
  | none => exact ⟨continues, by simp [here, blocking]⟩
  | some ticket =>
      apply ends_of_skipped holds
      · exact continues.state
      · exact continues.opened
      · simp [here, blocking]

theorem entryGuard_ends (validation : ValidationInputs)
    (here : forgets ↔
      entryGuardReason config inputs start.state.lastEntries validation = none ∧ rest) :
    (entryGuard config inputs validation cycle).Satisfies (Ends inputs start forgets)
      (HandsOn start forgets rest) := by
  rw [← continues.state] at here
  unfold entryGuard
  cases wait : entryGuardReason config inputs cycle.state.lastEntries validation with
  | none => exact ⟨continues, by simp [here, wait]⟩
  | some reason =>
      apply ends_of_skipped holds
      · exact continues.state
      · exact continues.opened
      · simp [here, wait]

theorem zoneEntry_ends (proposal : Record) (validation : ValidationInputs)
    (rest : Record → Prop)
    (here : forgets ↔ ∃ final, zoneAnswer inputs proposal validation = .ok final ∧
      rest final.1) :
    (zoneEntry config inputs proposal validation cycle).Satisfies (Ends inputs start forgets)
      (fun next => HandsOn start forgets (rest next.1) next.2) := by
  unfold zoneEntry
  cases answer : zoneAnswer inputs proposal validation with
  | error wait =>
      apply ends_of_skipped holds
      · exact continues.state
      · exact continues.opened
      · simp [here, answer]
  | ok final =>
      obtain ⟨proposal, fired⟩ := final
      cases fired with
      | false => exact ⟨continues, by simp [here, answer]⟩
      | true =>
          exact ⟨⟨continues.state, continues.opened, continues.decision⟩, by simp [here, answer]⟩

theorem passRiskGate_ends (validation : ValidationInputs) {rest : GateDecision → Prop}
    (here : forgets ↔
      match inputs.riskGate .proposal validation with
      | .error _ => True
      | .ok verdict => verdict.approved = true ∧ rest verdict) :
    (passRiskGate config inputs validation cycle).Satisfies (Ends inputs start forgets)
      (fun next => ∃ verdict, inputs.riskGate .proposal validation = .ok verdict ∧
        HandsOn start forgets (rest verdict) next) := by
  unfold passRiskGate
  cases gate : inputs.riskGate .proposal validation with
  | error raised =>
      rw [gate] at here
      apply ends_of_forgets holds
      · exact continues.state
      · exact continues.opened
      · exact here.mpr trivial
  | ok verdict =>
      rw [gate] at here
      dsimp only at here ⊢
      split
      · rename_i approved
        refine ⟨verdict, rfl, ⟨continues.state, continues.opened, continues.decision⟩, ?_⟩
        rw [here]
        exact and_iff_right approved
      · rename_i rejected
        apply ends_of_skipped holds
        · exact continues.state
        · exact continues.opened
        · rw [here]
          exact fun approved => rejected approved.1

/-- The guards retire the signal of a proposal that they hold back, and the gate of one
that it turns down. -/
theorem clear_ends (analysis : Analysis) (proposal : Record) (validation : ValidationInputs)
    (here : forgets ↔ ApprovalBreaks config inputs start.state.lastEntries analysis
      start.result.decision proposal validation) :
    (clear config inputs proposal validation cycle).Satisfies (Ends inputs start forgets)
      (fun next => HandsOn start forgets (ExecutionBreaks config inputs analysis
        start.result.decision next.1 validation) next.2) := by
  unfold clear
  apply (passRiskGate_ends holds continues validation here).bind
  rintro cycle ⟨verdict, -, continues, here⟩
  apply (passGuard_ends holds continues _ _ here).bind
  rintro cycle ⟨continues, here⟩
  apply (passGuard_ends holds continues _ _ here).bind
  rintro cycle ⟨continues, here⟩
  apply (passGuard_ends holds continues _ _ here).bind
  rintro cycle ⟨continues, here⟩
  apply (singleEntry_ends holds continues validation here).bind
  rintro cycle ⟨continues, here⟩
  apply (entryGuard_ends holds continues validation here).bind
  rintro cycle ⟨continues, here⟩
  exact zoneEntry_ends holds continues proposal validation
    (fun final => ExecutionBreaks config inputs analysis start.result.decision final validation)
    here

/-- A fan-out to the accounts retires the signal unless it breaks off. -/
theorem dispatchCanonicalFanout_ends
    (fanOut : CanonicalSignal → RawProposal → Except String Record) (analysis : Analysis)
    (proposal : Record) (validation : ValidationInputs)
    (here : forgets ↔
      let signal := buildCanonicalSignal config inputs analysis start.result.decision validation
      CoordinatorBreaks fanOut signal (rawProposal config signal validation)) :
    Ends inputs start forgets
      (dispatchCanonicalFanout config inputs fanOut analysis proposal validation cycle) := by
  rw [← continues.decision] at here
  unfold CoordinatorBreaks at here
  unfold dispatchCanonicalFanout
  dsimp only at here ⊢
  generalize fanOut _ _ = answer at here ⊢
  cases answer with
  | error raised =>
      apply ends_of_forgets holds
      · exact continues.state
      · exact continues.opened
      · exact here.mpr trivial
  | ok report =>
      dsimp only at here ⊢
      cases counts : readCounts report with
      | error raised =>
          apply ends_of_forgets holds
          · exact continues.state
          · exact continues.opened
          · exact here.mpr ⟨raised, counts⟩
      | ok counts' =>
          have kept : ¬ forgets := by
            rw [here, counts]
            rintro ⟨raised, absurd⟩
            cases absurd
          dsimp only
          split
          · rename_i executed
            apply ends_of_entered holds
            · exact continues.state
            · exact continues.opened
            · exact executed
            · exact kept
          · apply ends_of_failed holds
            · exact continues.state
            · exact continues.opened
            · exact kept

/-- An execution by the engine retires the signal unless the engine raises. -/
theorem dispatchSingle_ends (engine : Engine) (order : OrderRequest) (proposal : Record)
    (validation : ValidationInputs) (here : forgets ↔ EngineRaises inputs engine order) :
    Ends inputs start forgets
      (dispatchSingle config inputs engine order proposal validation cycle) := by
  rw [← dispatchExecution_error_iff] at here
  unfold dispatchSingle
  dsimp only
  cases sent : (dispatchExecution inputs engine order).2 with
  | error raised =>
      apply ends_of_forgets holds
      · exact continues.state
      · exact continues.opened
      · exact here.mpr ⟨raised, sent⟩
  | ok reply =>
      have kept : ¬ forgets := by
        rw [here, sent]
        rintro ⟨raised, absurd⟩
        cases absurd
      dsimp only
      split
      · rename_i executed
        apply ends_of_entered holds
        · exact continues.state
        · exact continues.opened
        · exact executed
        · exact kept
      · apply ends_of_failed holds
        · exact continues.state
        · exact continues.opened
        · exact kept

theorem dispatchOrder_ends (route : ExecutionRoute) (order : OrderRequest) (analysis : Analysis)
    (proposal : Record) (validation : ValidationInputs)
    (here : forgets ↔ DispatchBreaks config inputs route order analysis start.result.decision
      validation) :
    Ends inputs start forgets
      (dispatchOrder config inputs route order analysis proposal validation cycle) := by
  unfold dispatchOrder
  cases route with
  | coordinator fanOut =>
      apply dispatchCanonicalFanout_ends holds
      · exact ⟨continues.state, continues.opened, continues.decision⟩
      · exact here
  | engine engine =>
      apply dispatchSingle_ends holds
      · exact ⟨continues.state, continues.opened, continues.decision⟩
      · exact here

theorem findRoute_ends {rest : ExecutionRoute → Prop}
    (here : forgets ↔
      match inputs.route with
      | none => True
      | some route => rest route) :
    (findRoute inputs cycle).Satisfies (Ends inputs start forgets)
      (fun route => forgets ↔ rest route) := by
  unfold findRoute
  cases found : inputs.route with
  | none =>
      rw [found] at here
      apply ends_of_forgets holds
      · exact continues.state
      · exact continues.opened
      · exact here.mpr trivial
  | some route =>
      rw [found] at here
      exact here

theorem buildOrder_ends (proposal : Record) (validation : ValidationInputs)
    {rest : OrderRequest → Prop}
    (here : forgets ↔
      match inputs.orderBuilder (buildProposal inputs proposal validation)
        validation.marketInfo with
      | .error _ => True
      | .ok order => rest order) :
    (buildOrder inputs proposal validation cycle).Satisfies (Ends inputs start forgets)
      (fun next => HandsOn start forgets (rest next.1) next.2) := by
  unfold buildOrder
  cases built : inputs.orderBuilder (buildProposal inputs proposal validation)
      validation.marketInfo with
  | error raised =>
      rw [built] at here
      apply ends_of_forgets holds
      · exact continues.state
      · exact continues.opened
      · exact here.mpr trivial
  | ok order =>
      rw [built] at here
      exact ⟨⟨continues.state, continues.opened, continues.decision⟩, here⟩

theorem revalidateFinalOrder_ends (order : OrderRequest) (validation : ValidationInputs)
    {rest : ValidationInputs → Prop}
    (here : forgets ↔ ∃ final, revalidated inputs order validation = .ok final ∧ rest final) :
    (revalidateFinalOrder config inputs order validation cycle).Satisfies
      (Ends inputs start forgets) (fun next => HandsOn start forgets (rest next.1) next.2) := by
  unfold revalidateFinalOrder
  cases checked : revalidated inputs order validation with
  | error reason =>
      apply ends_of_skipped holds
      · exact continues.state
      · exact continues.opened
      · simp [here, checked]
  | ok final =>
      constructor
      · exact ⟨continues.state, continues.opened, continues.decision⟩
      · simp [here, checked]

/-- The execution of an approved proposal retires the signal unless it breaks off. -/
theorem execute_ends (analysis : Analysis) (proposal : Record) (validation : ValidationInputs)
    (here : forgets ↔ ExecutionBreaks config inputs analysis start.result.decision proposal
      validation) :
    (execute config inputs analysis proposal validation cycle).Satisfies
      (Ends inputs start forgets) (Ends inputs start forgets) := by
  unfold execute
  apply (findRoute_ends holds continues here).bind
  intro route here
  apply (buildOrder_ends holds continues proposal validation here).bind
  rintro ⟨order, cycle⟩ ⟨continues, here⟩
  apply (revalidateFinalOrder_ends holds continues order validation here).bind
  rintro ⟨final, cycle⟩ ⟨continues, here⟩
  exact dispatchOrder_ends holds continues route order analysis proposal final here

end Stages

/-! ## The cycle -/

section Cycle

variable {config : PipelineConfig} {inputs : CycleInputs} {state : PipelineState}

/-- A cycle that retires its signal is one that does not forget it. -/
theorem pursue_ends (analysis : Analysis) {start cycle : DecisionCycle} {proposal : Record}
    (opens : openSignal config inputs proposal cycle = start)
    (holds : HoldsPending config inputs start)
    (remembered : start.state.lastEntries = state.lastEntries)
    (decided : start.result.decision = directionOf proposal) {forgets : Prop}
    (here : forgets ↔ LeavesPending config inputs state analysis proposal) :
    (pursue config inputs analysis proposal cycle).Satisfies (Ends inputs start forgets)
      (Ends inputs start forgets) := by
  have begins : Continues start start := ⟨rfl, rfl, rfl⟩
  unfold pursue
  rw [opens]
  apply (htfFilter_ends holds begins proposal here).bind
  rintro cycle ⟨continues, here⟩
  apply (readInputs_ends holds continues proposal here).bind
  intro validation here
  rw [← remembered, ← decided] at here
  apply (clear_ends holds continues analysis proposal validation here).bind
  rintro ⟨final, cycle⟩ ⟨continues, here⟩
  exact execute_ends holds continues analysis final validation here

/-- A way out without a signal, of a cycle that does not come to open one. -/
def Declines (config : PipelineConfig) (inputs : CycleInputs) (state : PipelineState)
    (outcome : PipelineOutcome) : Prop :=
  outcome.cycle.signalOpened = false ∧
    ∀ analysis proposal, ¬ OpensSignal config inputs state analysis proposal

/-- A cycle that has opened no signal and changed nothing. -/
def Untouched (state : PipelineState) (cycle : DecisionCycle) : Prop :=
  cycle.state = state ∧ cycle.signalOpened = false

theorem pendingGate_spec {cycle : DecisionCycle} (untouched : Untouched state cycle) :
    (pendingGate config inputs cycle).Satisfies (Declines config inputs state)
      (fun next => Untouched state next ∧ (guarded config inputs = true →
        (state.registry.shouldConvene inputs.symbol inputs.clock.convened).1 = true)) := by
  unfold pendingGate
  split
  · dsimp only
    rw [untouched.1]
    split
    · rename_i convenes
      exact ⟨untouched, fun _ => convenes⟩
    · rename_i blocked
      exact ⟨untouched.2, fun _ _ opens => blocked opens.convenes⟩
  · rename_i free
    exact ⟨untouched, fun guard => absurd guard free⟩

/-- Market data is accepted when the gate is off or the check finds no objection. -/
theorem freshnessReason_eq_empty_iff : freshnessReason config inputs = "" ↔
    (config.freshnessGateEnabled = true → inputs.staleReason = .ok "") := by
  unfold freshnessReason
  by_cases enabled : config.freshnessGateEnabled = true
  · rw [if_pos enabled]
    cases inputs.staleReason with
    | ok reason => simp [enabled]
    | error raised =>
        apply iff_of_false
        · intro empty
          have lengths := congrArg (fun text => text.toList.length) empty
          simp at lengths
        · intro accepted
          cases accepted enabled
  · rw [if_neg enabled]
    exact iff_of_true rfl fun on => absurd on enabled

theorem freshnessGate_spec {cycle : DecisionCycle} (untouched : Untouched state cycle) :
    (freshnessGate config inputs cycle).Satisfies (Declines config inputs state)
      (fun next => Untouched state next ∧
        (config.freshnessGateEnabled = true → inputs.staleReason = .ok "")) := by
  unfold freshnessGate
  split
  · rename_i fresh
    exact ⟨untouched, freshnessReason_eq_empty_iff.mp fresh⟩
  · rename_i stale
    exact ⟨untouched.2, fun _ _ opens => stale (freshnessReason_eq_empty_iff.mpr opens.fresh)⟩

theorem analyse_spec {cycle : DecisionCycle} (untouched : Untouched state cycle) :
    (analyse inputs cycle).Satisfies (Declines config inputs state)
      (fun next => Untouched state next.2 ∧
        inputs.supervisor inputs.context = .ok next.1) := by
  unfold analyse
  cases answer : inputs.supervisor inputs.context with
  | error raised =>
      refine ⟨untouched.2, fun analysis proposal opens => ?_⟩
      have analysed := opens.analysed
      rw [answer] at analysed
      cases analysed
  | ok analysis => exact ⟨untouched, rfl⟩

/-- The proposal that a cycle goes on with. -/
structure Proposes (inputs : CycleInputs) (analysis : Analysis) (proposal : Record)
    (cycle : DecisionCycle) : Prop where
  proposed : extractProposal analysis = some proposal
  actionable : isActionable inputs.strategy.minConfidence proposal = .ok true
  canonical : canonicalBlockReason (inputs.decisionChain analysis) = ""
  decided : cycle.result.decision = directionOf proposal

theorem propose_spec {cycle : DecisionCycle} (untouched : Untouched state cycle)
    {analysis : Analysis} (analysed : inputs.supervisor inputs.context = .ok analysis) :
    (propose inputs analysis cycle).Satisfies (Declines config inputs state)
      (fun next => Untouched state next.2 ∧ Proposes inputs analysis next.1 next.2) := by
  have same {other : Analysis} {proposal : Record}
      (opens : OpensSignal config inputs state other proposal) : other = analysis :=
    Except.ok.inj (opens.analysed.symm.trans analysed)
  unfold propose
  cases extracted : extractProposal analysis with
  | none =>
      refine ⟨untouched.2, fun other proposal opens => ?_⟩
      have proposed := opens.proposed
      rw [same opens, extracted] at proposed
      cases proposed
  | some proposal =>
      have only {other : Analysis} {found : Record}
          (opens : OpensSignal config inputs state other found) : found = proposal := by
        have proposed := opens.proposed
        rw [same opens, extracted] at proposed
        exact (Option.some.inj proposed).symm
      dsimp only
      cases judged : isActionable inputs.strategy.minConfidence proposal with
      | error raised =>
          refine ⟨untouched.2, fun other found opens => ?_⟩
          have actionable := opens.actionable
          rw [only opens, judged] at actionable
          cases actionable
      | ok actionable =>
          cases actionable with
          | false =>
              refine ⟨untouched.2, fun other found opens => ?_⟩
              have actionable := opens.actionable
              rw [only opens, judged] at actionable
              cases actionable
          | true =>
              dsimp only
              split
              · rename_i free
                exact ⟨untouched, extracted, judged, free, rfl⟩
              · rename_i blocked
                refine ⟨untouched.2, fun other found opens => blocked ?_⟩
                rw [← same opens]
                exact opens.canonical

/-- A cycle comes to a proposal exactly when it has one to open a signal for. -/
theorem convene_spec :
    (convene config inputs state).Satisfies (Declines config inputs state)
      (fun next => Untouched state next.2.2 ∧
        next.2.2.result.decision = directionOf next.2.1 ∧
        (guarded config inputs = true → OpensSignal config inputs state next.1 next.2.1)) := by
  have begins : Untouched state (startCycle inputs state) := ⟨rfl, rfl⟩
  unfold convene
  apply (pendingGate_spec begins).bind
  rintro cycle ⟨untouched, convenes⟩
  apply (freshnessGate_spec untouched).bind
  rintro cycle ⟨untouched, fresh⟩
  apply (analyse_spec untouched).bind
  rintro ⟨analysis, cycle⟩ ⟨untouched, analysed⟩
  apply (propose_spec untouched analysed).bind
  rintro ⟨proposal, cycle⟩ ⟨untouched, found⟩
  exact ⟨untouched, found.decided, fun guard => ⟨guard, convenes guard, fresh, analysed,
    found.proposed, found.actionable, found.canonical⟩⟩

/-- A signal is opened as pending. -/
theorem openSignal_holds {cycle : DecisionCycle} (untouched : Untouched state cycle)
    (proposal : Record) (convenes : guarded config inputs = true →
      (state.registry.shouldConvene inputs.symbol inputs.clock.convened).1 = true) :
    HoldsPending config inputs (openSignal config inputs proposal cycle) := by
  intro signal
  unfold openSignal at signal ⊢
  split at signal
  · rename_i guard
    refine ⟨guard, ?_⟩
    rw [if_pos guard]
    rw [← untouched.1] at convenes
    exact SignalRegistry.openSignal_pending (convenes guard) _ _ _ _ _
  · rw [untouched.2] at signal
    cases signal

theorem openSignal_signalOpened (config : PipelineConfig) (inputs : CycleInputs)
    (proposal : Record) {cycle : DecisionCycle} (untouched : Untouched state cycle) :
    (openSignal config inputs proposal cycle).signalOpened = guarded config inputs := by
  unfold openSignal
  split
  · rename_i guard
    exact guard.symm
  · rename_i unguarded
    rw [Bool.not_eq_true] at unguarded
    rw [unguarded]
    exact untouched.2

theorem openSignal_keeps (config : PipelineConfig) (inputs : CycleInputs) (proposal : Record)
    (cycle : DecisionCycle) :
    (openSignal config inputs proposal cycle).state.lastEntries = cycle.state.lastEntries ∧
      (openSignal config inputs proposal cycle).result = cycle.result := by
  unfold openSignal
  split
  · exact ⟨rfl, rfl⟩
  · exact ⟨rfl, rfl⟩

/-- The cycle retires the signal that it opens exactly when it does not forget it. -/
def Accounted (config : PipelineConfig) (inputs : CycleInputs) (state : PipelineState)
    (outcome : PipelineOutcome) : Prop :=
  (outcome.cycle.signalOpened = true → Retired inputs outcome) ↔ ∀ analysis proposal,
    OpensSignal config inputs state analysis proposal →
      ¬ LeavesPending config inputs state analysis proposal

theorem accounted_of_declines {outcome : PipelineOutcome}
    (declines : Declines config inputs state outcome) :
    Accounted config inputs state outcome := by
  apply iff_of_true
  · intro signal
    rw [declines.1] at signal
    cases signal
  · exact fun analysis proposal opens => absurd opens (declines.2 analysis proposal)

theorem accounted_of_ends {start : DecisionCycle} {analysis : Analysis} {proposal : Record}
    {outcome : PipelineOutcome} (signal : start.signalOpened = guarded config inputs)
    (opens : guarded config inputs = true → OpensSignal config inputs state analysis proposal)
    (ends : Ends inputs start (LeavesPending config inputs state analysis proposal) outcome) :
    Accounted config inputs state outcome := by
  obtain ⟨opened, retires⟩ := ends
  rw [signal] at opened retires
  by_cases guard : guarded config inputs = true
  · have found := opens guard
    constructor
    · intro retired other otherProposal otherOpens
      have sameAnalysis : other = analysis :=
        Except.ok.inj (otherOpens.analysed.symm.trans found.analysed)
      subst sameAnalysis
      have sameProposal : otherProposal = proposal :=
        Option.some.inj (otherOpens.proposed.symm.trans found.proposed)
      subst sameProposal
      exact (retires guard).mp (retired (opened.trans guard))
    · exact fun kept _ => (retires guard).mpr (kept analysis proposal found)
  · apply iff_of_true
    · exact fun signal => absurd (opened.symm.trans signal) guard
    · exact fun _ _ otherOpens => absurd otherOpens.guarded guard

/-- A cycle leaves no signal stuck exactly when it does not forget the one it opens: its
numbers can be read, the risk gate does not raise, and once it is approved something
executes orders, an order can be built, and the dispatch neither raises nor gives a
report that cannot be read. -/
theorem no_stuck_signal_iff (config : PipelineConfig) (inputs : CycleInputs)
    (state : PipelineState) :
    NoStuckSignal config inputs state ↔ ∀ analysis proposal,
      OpensSignal config inputs state analysis proposal →
        ¬ LeavesPending config inputs state analysis proposal := by
  have whole : (convene config inputs state >>= fun next =>
      pursue config inputs next.1 next.2.1 next.2.2).Satisfies
      (Accounted config inputs state) (Accounted config inputs state) := by
    apply (convene_spec.mono (fun _ => accounted_of_declines) fun _ found => found).bind
    rintro ⟨analysis, proposal, cycle⟩ ⟨untouched, decided, opens⟩
    have holds := openSignal_holds untouched proposal fun guard => (opens guard).convenes
    have keeps := openSignal_keeps config inputs proposal cycle
    have signal := openSignal_signalOpened config inputs proposal untouched
    have remembered := keeps.1.trans (congrArg PipelineState.lastEntries untouched.1)
    have chosen := (congrArg PipelineResult.decision keeps.2).trans decided
    apply (pursue_ends analysis rfl holds remembered chosen Iff.rfl).mono
    · exact fun _ ends => accounted_of_ends signal opens ends
    · exact fun _ ends => accounted_of_ends signal opens ends
  exact whole.outcome

end Cycle

/-! ## A risk gate that raises -/

namespace Sample

/-- The settings of a pipeline with the signal gate and nothing else. -/
def pipelineConfig : PipelineConfig where
  pendingSignalGuard := true
  freshnessGateEnabled := true
  singleEntryPolicy := true
  entryMagic := 70000
  entryCooldownS := 0
  entryMinDistanceAtr := ⟨0, "0.0"⟩
  htfFilterEnabled := false
  htfMinStrength := ⟨0, "0.0"⟩
  maxLotPerTrade := 1 / 20

/-- A pipeline that has not run yet. -/
def pipelineState : PipelineState :=
  ⟨.initial, Dict.empty⟩

/-- An entry that the supervisor proposes. -/
def entryProposal : Record :=
  Dict.empty.update [("symbol", .str "EURUSD"), ("direction", .str "BUY"),
    ("confidence", .num ⟨9 / 10, "0.9"⟩), ("entry_price", .num ⟨11 / 10, "1.1"⟩),
    ("stop_loss", .num ⟨1, "1.0"⟩), ("take_profit", .num ⟨13 / 10, "1.3"⟩),
    ("size", .num ⟨1 / 100, "0.01"⟩)]

/-- An event whose proposal reaches a risk gate that raises. -/
def gateRaises : CycleInputs where
  eventId := .str "evt_1"
  eventSymbol := .str "EURUSD"
  contextSymbol := .none
  staleReason := .ok ""
  context := ⟨.str "EURUSD", none, none, none, none, 0⟩
  supervisor := fun _ => .ok
    ⟨some entryProposal, none, .str "EURUSD", .none, .none, .str "BULLISH",
      .num ⟨9 / 10, "0.9"⟩, .str "", ""⟩
  decisionChain := fun _ => none
  strategy := ⟨"v1.0.0", 1 / 2⟩
  complete := ValidationInputs.proposal
  riskGate := fun _ _ => .error "account state unavailable"
  dependencyGuard := none
  reconciliationGuard := none
  readinessGuard := none
  zoneEntryEnabled := false
  zoneEntryGate := none
  orderBuilder := fun _ _ => .error "Proposal missing valid symbol"
  executionEngine := none
  fanoutEnabled := false
  armedTerminals := 1
  fanoutCoordinator := none
  stamp := fun _ => ⟨"", "", "sig_1"⟩
  ids := ⟨"evt_0", "dec_1", "prop_1", "coid_1", "exec_1"⟩
  clock := ⟨100, 101, 102, 103, 104⟩
  render := fun _ => ""

end Sample

/-- A risk gate that raises leaves the signal of its symbol pending. -/
theorem raising_gate_leaves_signal_pending :
    ¬ NoStuckSignal Sample.pipelineConfig Sample.gateRaises Sample.pipelineState := by
  intro unstuck
  obtain ⟨record, found, retired⟩ := unstuck (by decide +kernel)
  have pending : ((run Sample.pipelineConfig Sample.gateRaises
      Sample.pipelineState).cycle.state.registry.get "EURUSD").map ActiveSignal.phase =
      some .pending := by
    decide +kernel
  have symbol : Sample.gateRaises.symbol = "EURUSD" := by decide +kernel
  rw [symbol] at found
  rw [found] at pending
  have phase : record.phase = .pending := Option.some.inj pending
  simp [phase] at retired

end EaBot.Orchestration
