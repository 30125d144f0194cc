import EaBot.Agents.Supervisor
import EaBot.Orchestration.SentOrder

/-!
# A cycle with the supervisor

The pipeline leaves open who analyses an event.  With the supervisor, the proposal that it acts
upon is the one for the pipeline or, where there is none, the one of the synthesis.  The two say
the same, so that a cycle goes on exactly when the agents come to a direction with enough
confidence: that the supervisor holds a proposal back for an unresolved conflict makes no
difference to the cycle.
-/

namespace EaBot.Orchestration

open EaBot.Agents EaBot.Foundation TradingPipeline

universe u

/-- The proposal of a synthesis as a record. -/
def synthesisRecord (render : ℚ → String) (raw : TradeProposal) : Record :=
  Dict.empty.update
    [("symbol", .str raw.symbol),
      ("direction", .str raw.direction.text),
      ("confidence", SupervisorAgent.ofQuantity render raw.confidence),
      ("reasoning", .str raw.reasoning),
      ("target_sl", SupervisorAgent.ofLevel render raw.targetSl),
      ("target_tp", SupervisorAgent.ofLevel render raw.targetTp),
      ("requires_escalation", .bool raw.requiresEscalation)]

/-- What a cycle reads of the supervisor's report. -/
def analysisOf (render : ℚ → String) (report : SupervisorReport) : Analysis where
  proposal := report.proposal
  synthesisProposal := (report.synthesis.bind SynthesisResult.proposal).map
    (synthesisRecord render)
  symbol := .none
  proposalId := .none
  setupId := .none
  overallSignal := .str report.overallSignal
  overallConfidence := .num ⟨report.overallConfidence, render report.overallConfidence⟩
  summary := .str report.summary
  committeeSignalId := report.signalId

/-- The inputs of a cycle with a supervisor. -/
def CycleInputs.withSupervisor {χ : Type u} (inputs : CycleInputs) (supervisor : SupervisorAgent χ)
    (context : SupervisorContext χ) (schedule : List String) : CycleInputs :=
  { inputs with
    supervisor := fun _ =>
      .ok (analysisOf inputs.render (supervisor.analyze inputs.render context schedule).2) }

/-! ## The proposal to act upon -/

/-- A record with the direction and the confidence of a proposal. -/
structure Tells (render : ℚ → String) (raw : TradeProposal) (record : Record) : Prop where
  direction : record.get "direction" = some (.str raw.direction.text)
  confidence : record.get "confidence" =
    some (SupervisorAgent.ofQuantity render raw.confidence)

theorem get_backfill_of_ne {name other : String} (apart : other ≠ name) (record : Record)
    (value : Val) : (backfill record name value).get other = record.get other := by
  unfold backfill
  split_ifs
  · exact Dict.get_set_of_ne record apart value
  · rfl

theorem get_takeOver_of_ne {name from_ other : String} (apart : other ≠ name)
    (record : Record) : (takeOver record name from_).get other = record.get other := by
  unfold takeOver
  dsimp only
  split_ifs
  · exact Dict.get_set_of_ne record apart _
  · rfl

theorem tells_proposalOf {χ : Type u} (render : ℚ → String) (context : SupervisorContext χ)
    (raw : TradeProposal) :
    Tells render raw (SupervisorAgent.proposalOf render context raw) := by
  constructor <;> simp [SupervisorAgent.proposalOf]

theorem tells_synthesisRecord (render : ℚ → String) (raw : TradeProposal) :
    Tells render raw (synthesisRecord render raw) := by
  constructor <;> simp [synthesisRecord]

/-- What a cycle fills in are other fields. -/
theorem get_filled {key : String} (analysis : Analysis) (found : Record)
    (apart : key ∉ ["symbol", "proposal_id", "setup_id", "stop_loss", "take_profit"]) :
    (takeOver (takeOver (backfill (backfill (backfill found "symbol" analysis.symbol)
      "proposal_id" analysis.proposalId) "setup_id" analysis.setupId) "stop_loss" "target_sl")
      "take_profit" "target_tp").get key = found.get key := by
  simp only [List.mem_cons, List.not_mem_nil, or_false, not_or] at apart
  rcases apart with ⟨symbol, proposalId, setupId, stopLoss, takeProfit⟩
  rw [get_takeOver_of_ne takeProfit, get_takeOver_of_ne stopLoss, get_backfill_of_ne setupId,
    get_backfill_of_ne proposalId, get_backfill_of_ne symbol]

theorem tells_extractProposal {render : ℚ → String} {raw : TradeProposal} {analysis : Analysis}
    (every : ∀ record, analysis.proposal.or analysis.synthesisProposal = some record →
      Tells render raw record) :
    ∀ record ∈ extractProposal analysis, Tells render raw record := by
  intro record member
  rcases Option.map_eq_some_iff.mp member with ⟨found, there, rfl⟩
  have told := every found there
  exact ⟨(get_filled analysis found (by decide)).trans told.direction,
    (get_filled analysis found (by decide)).trans told.confidence⟩

theorem upper_text (direction : TradeDirection) :
    Text.upper direction.text = direction.text := by
  cases direction <;> decide

theorem directionOf_of_tells {render : ℚ → String} {raw : TradeProposal} {record : Record}
    (told : Tells render raw record) : directionOf record = raw.direction.text := by
  unfold directionOf
  rw [told.direction, Option.getD_some]
  exact upper_text raw.direction

/-- A proposal is acted upon when it has a direction and enough confidence. -/
theorem isActionable_of_tells {render : ℚ → String} {raw : TradeProposal} {record : Record}
    (told : Tells render raw record) {share : ℚ}
    (confident : raw.direction ≠ .hold → raw.confidence = .finite share) (minConfidence : ℚ) :
    isActionable minConfidence record =
      .ok (decide (raw.direction ≠ .hold ∧ minConfidence ≤ share)) := by
  have known : raw.direction.text ∈ actionable ↔ raw.direction ≠ .hold := by
    cases raw.direction <;> decide
  unfold isActionable
  rw [directionOf_of_tells told]
  by_cases held : raw.direction = .hold
  · rw [if_pos (by rw [known]; simp [held])]
    simp [held]
  · rw [if_neg (by rw [not_not, known]; exact held)]
    have read : numberOf record ["confidence"] = .ok share := by
      unfold numberOf firstOf
      rw [told.confidence, confident held, Option.getD_some]
      by_cases zero : share = 0
      · subst zero
        rfl
      · simp [SupervisorAgent.ofQuantity, Supervisor.numeral, Val.orElse, Val.truthy, Val.toFloat,
          zero]
    rw [read]
    simp [held]

/-- The proposal that a cycle takes from a report is there when the synthesis has one, and tells
the same, whether or not the report has a proposal of its own. -/
theorem extractProposal_analysisOf {χ : Type u} (render : ℚ → String)
    (context : SupervisorContext χ) {report : SupervisorReport} {synthesis : SynthesisResult}
    (made : report.synthesis = some synthesis)
    (proposed : ∀ record ∈ report.proposal, ∃ raw ∈ synthesis.proposal,
      record = SupervisorAgent.proposalOf render context raw) :
    (synthesis.proposal = none → extractProposal (analysisOf render report) = none) ∧
      ∀ raw ∈ synthesis.proposal, ∃ record,
        extractProposal (analysisOf render report) = some record ∧ Tells render raw record := by
  have fallback : (analysisOf render report).synthesisProposal =
      synthesis.proposal.map (synthesisRecord render) := by
    simp [analysisOf, made]
  constructor
  · intro nothing
    have silent : report.proposal = none := by
      apply Option.eq_none_iff_forall_not_mem.mpr
      intro record member
      rcases proposed record member with ⟨raw, there, -⟩
      rw [nothing] at there
      cases there
    unfold extractProposal
    rw [fallback, nothing, show (analysisOf render report).proposal = none from silent]
    rfl
  · intro raw there
    have every : ∀ record, (analysisOf render report).proposal.or
        (analysisOf render report).synthesisProposal = some record → Tells render raw record := by
      intro record found
      rw [fallback, there, Option.map_some] at found
      cases own : (analysisOf render report).proposal with
      | none =>
          rw [own] at found
          cases found
          exact tells_synthesisRecord render raw
      | some record' =>
          rw [own] at found
          cases found
          rcases proposed record own with ⟨raw', there', rfl⟩
          cases there.symm.trans there'
          exact tells_proposalOf render context raw
    have some_ : (extractProposal (analysisOf render report)).isSome = true := by
      unfold extractProposal
      rw [Option.isSome_map, Option.isSome_or, fallback, there]
      simp
    rcases Option.isSome_iff_exists.mp some_ with ⟨record, extracted⟩
    exact ⟨record, extracted, tells_extractProposal every record extracted⟩

section Supervised

variable {χ : Type u} (inputs : CycleInputs) (supervisor : SupervisorAgent χ)
  (context : SupervisorContext χ) (schedule : List String)

/-- The report of the supervisor in a cycle. -/
def reportIn : SupervisorReport :=
  (supervisor.analyze inputs.render context schedule).2

/-- The normalised answers of the agents that answer in a cycle. -/
def answersIn : List AgentOutput :=
  (supervisor.prepare context).answersOf inputs.render context
    (reportIn inputs supervisor context schedule).results.keys

/-- The agents come to a direction with enough confidence, and the canonical decision does not
block it. -/
structure Pursued (answers : List AgentOutput) (analysis : Analysis) : Prop where
  directional : AgentSynthesizer.consensus answers ≠ .hold
  confident : inputs.strategy.minConfidence ≤
    Text.roundTo 2 (AgentSynthesizer.leadingShare answers)
  unblocked : canonicalBlockReason (inputs.decisionChain analysis) = ""

/-- What a cycle goes on with when it pursues a supervisor's report. -/
theorem propose_supervised (cycle : DecisionCycle) :
    let analysis := analysisOf inputs.render (reportIn inputs supervisor context schedule)
    let answers := answersIn inputs supervisor context schedule
    (¬ Pursued inputs answers analysis →
      ∃ outcome, propose inputs analysis cycle = .leave outcome) ∧
    (Pursued inputs answers analysis → ∃ record next,
      propose inputs analysis cycle = .proceed (record, next) ∧
        directionOf record = (AgentSynthesizer.consensus answers).text ∧
        next.result.decision = (AgentSynthesizer.consensus answers).text) := by
  intro analysis answers
  rcases supervisor.analyze_synthesis inputs.render context schedule with
    ⟨synthesis, made, direction, confidence, proposed⟩
  rcases extractProposal_analysisOf inputs.render context made (by
    intro record member
    rw [proposed] at member
    split_ifs at member
    · cases member
    · rcases Option.map_eq_some_iff.mp member with ⟨raw, kept, rfl⟩
      exact ⟨raw, (Option.filter_eq_some_iff.mp kept).1, rfl⟩) with ⟨missing, present⟩
  by_cases empty : (supervisor.analyze inputs.render context schedule).2.results.keys = []
  · rw [if_pos empty, Option.map_eq_none_iff] at direction
    have nothing : answers = [] := by
      change (supervisor.prepare context).answersOf inputs.render context _ = []
      rw [reportIn, empty, SupervisorAgent.answersOf_nil]
    have leaves : propose inputs analysis cycle = .leave (noTrade analysis cycle) := by
      unfold propose
      rw [show extractProposal analysis = none from missing direction]
    refine ⟨fun _ => ⟨_, leaves⟩, fun pursued => absurd ?_ pursued.directional⟩
    rw [nothing, SupervisorAgent.consensus_nil]
  · rw [if_neg empty, Option.map_eq_some_iff] at direction
    rcases direction with ⟨raw, there, directed⟩
    rcases present raw there with ⟨record, extracted, told⟩
    have acted := isActionable_of_tells told (confidence raw there) inputs.strategy.minConfidence
    have actionable : isActionable inputs.strategy.minConfidence record = .ok (decide
        (AgentSynthesizer.consensus answers ≠ .hold ∧ inputs.strategy.minConfidence ≤
          Text.roundTo 2 (AgentSynthesizer.leadingShare answers))) := by
      rw [acted, directed]
      rfl
    have word : directionOf record = (AgentSynthesizer.consensus answers).text := by
      rw [directionOf_of_tells told, directed]
      rfl
    unfold propose
    rw [show extractProposal analysis = some record from extracted]
    dsimp only
    rw [actionable]
    by_cases pursue : AgentSynthesizer.consensus answers ≠ .hold ∧
        inputs.strategy.minConfidence ≤
          Text.roundTo 2 (AgentSynthesizer.leadingShare answers)
    · rw [decide_eq_true pursue]
      by_cases block : canonicalBlockReason (inputs.decisionChain analysis) = ""
      · simp only [block, if_true]
        exact ⟨fun refused => absurd ⟨pursue.1, pursue.2, block⟩ refused,
          fun _ => ⟨record, _, rfl, word, word⟩⟩
      · simp only [block, if_false]
        exact ⟨fun _ => ⟨_, rfl⟩, fun pursued => absurd pursued.unblocked block⟩
    · rw [decide_eq_false pursue]
      exact ⟨fun _ => ⟨_, rfl⟩,
        fun pursued => absurd ⟨pursued.directional, pursued.confident⟩ pursue⟩

end Supervised

/-! ## The direction of what is sent -/

/-- An outcome of any kind. -/
def AnyOutcome (_ : PipelineOutcome) : Prop :=
  True

/-- A stage that goes on with a cycle of one decision. -/
abbrev Decided (word : String) (stage : Stage PipelineOutcome DecisionCycle) : Prop :=
  stage.Satisfies AnyOutcome fun next => next.result.decision = word

section Decided

variable {config : PipelineConfig} {inputs : CycleInputs} {cycle : DecisionCycle} {word : String}
  (decided : cycle.result.decision = word)

include decided

theorem openSignal_decided {proposal : Record} :
    (openSignal config inputs proposal cycle).result.decision = word := by
  unfold openSignal
  split <;> exact decided

theorem htfFilter_decided (proposal : Record) :
    Decided word (htfFilter config inputs proposal cycle) := by
  unfold htfFilter
  split
  · exact decided
  · trivial

theorem passRiskGate_decided (validation : ValidationInputs) :
    Decided word (passRiskGate config inputs validation cycle) := by
  unfold passRiskGate
  split
  · trivial
  · dsimp only
    split
    · exact decided
    · trivial

theorem passGuard_decided (texts : GuardTexts)
    (guard : Option (Except String (Bool × String))) :
    Decided word (passGuard texts guard config inputs cycle) := by
  unfold passGuard
  split
  · exact decided
  · dsimp only
    split
    · exact decided
    · trivial

theorem singleEntry_decided (validation : ValidationInputs) :
    Decided word (singleEntry config inputs validation cycle) := by
  unfold singleEntry
  split
  · exact decided
  · trivial

theorem entryGuard_decided (validation : ValidationInputs) :
    Decided word (entryGuard config inputs validation cycle) := by
  unfold entryGuard
  split
  · exact decided
  · trivial

omit decided in
theorem directionOf_atZone (proposal : Record) (plan : ZonePlan) :
    directionOf (atZone proposal plan) = directionOf proposal := by
  unfold directionOf atZone
  rw [Dict.get_set_of_ne _ (by decide), Dict.get_set_of_ne _ (by decide),
    Dict.get_set_of_ne _ (by decide)]

omit decided in
/-- The zone gate changes the levels of a proposal, not its direction. -/
theorem directionOf_zoneAnswer {proposal : Record} {validation : ValidationInputs}
    {next : Record × Bool} (answered : zoneAnswer inputs proposal validation = .ok next) :
    directionOf next.1 = directionOf proposal := by
  unfold zoneAnswer at answered
  split at answered
  · cases answered
    rfl
  · split at answered
    · split at answered
      · cases answered
      · cases answered
        exact directionOf_atZone proposal _
    · cases answered
      rfl

theorem zoneEntry_decided {proposal : Record} (directed : directionOf proposal = word)
    (validation : ValidationInputs) :
    (zoneEntry config inputs proposal validation cycle).Satisfies AnyOutcome
      (fun next => directionOf next.1 = word ∧ next.2.result.decision = word) := by
  unfold zoneEntry
  split
  · rename_i answered
    exact ⟨(directionOf_zoneAnswer answered).trans directed, decided⟩
  · rename_i answered
    exact ⟨(directionOf_zoneAnswer answered).trans directed, decided⟩
  · trivial

theorem clear_decided {proposal : Record} (directed : directionOf proposal = word)
    (validation : ValidationInputs) :
    (clear config inputs proposal validation cycle).Satisfies AnyOutcome
      (fun next => directionOf next.1 = word ∧ next.2.result.decision = word) := by
  unfold clear
  apply (passRiskGate_decided decided validation).bind
  intro cycle decided
  apply (passGuard_decided decided _ _).bind
  intro cycle decided
  apply (passGuard_decided decided _ _).bind
  intro cycle decided
  apply (passGuard_decided decided _ _).bind
  intro cycle decided
  apply (singleEntry_decided decided validation).bind
  intro cycle decided
  apply (entryGuard_decided decided validation).bind
  intro cycle decided
  exact zoneEntry_decided decided directed validation

end Decided

/-- The decision and the direction of a built order. -/
structure Decides (analysis : Analysis) (word : String) (b : BuiltOrder) : Prop where
  analysis : b.analysis = analysis
  proposal : directionOf b.proposal = word
  decision : b.cycle.result.decision = word

theorem satisfies_any {α : Type} (stage : Stage PipelineOutcome α) :
    stage.Satisfies AnyOutcome (fun _ => True) := by
  cases stage <;> trivial

section SupervisedRun

variable {χ : Type u} (config : PipelineConfig) (inputs : CycleInputs)
  (supervisor : SupervisorAgent χ) (context : SupervisorContext χ) (schedule : List String)

/-- A supervised cycle comes to a proposal only in the direction of its agents. -/
theorem convene_supervised (state : PipelineState) :
    let analysis := analysisOf inputs.render (reportIn inputs supervisor context schedule)
    let answers := answersIn inputs supervisor context schedule
    (convene config (inputs.withSupervisor supervisor context schedule) state).Satisfies AnyOutcome
      (fun next => Pursued inputs answers analysis ∧ next.1 = analysis ∧
        directionOf next.2.1 = (AgentSynthesizer.consensus answers).text ∧
        next.2.2.result.decision = (AgentSynthesizer.consensus answers).text) := by
  intro analysis answers
  unfold convene
  apply (satisfies_any _).bind
  intro cycle _
  apply (satisfies_any _).bind
  intro cycle _
  have heard : analyse (inputs.withSupervisor supervisor context schedule) cycle =
      .proceed (analysis, _) := rfl
  rw [heard, Stage.proceed_bind]
  dsimp only
  generalize DecisionCycle.mk _ _ _ _ = cycle
  rcases propose_supervised inputs supervisor context schedule cycle with ⟨declines, pursues⟩
  have same : propose (inputs.withSupervisor supervisor context schedule) analysis cycle =
      propose inputs analysis cycle := rfl
  rw [same]
  by_cases pursued : Pursued inputs answers analysis
  · rcases pursues pursued with ⟨record, next, proceeds, directed, decided⟩
    rw [proceeds]
    exact ⟨pursued, rfl, directed, decided⟩
  · rcases declines pursued with ⟨outcome, leaves⟩
    rw [leaves]
    trivial

/-- A supervised cycle builds an order only in the direction that its agents come to. -/
theorem built_supervised (state : PipelineState) :
    let analysis := analysisOf inputs.render (reportIn inputs supervisor context schedule)
    let answers := answersIn inputs supervisor context schedule
    (built config (inputs.withSupervisor supervisor context schedule) state).Satisfies AnyOutcome
      (fun b => Pursued inputs answers analysis ∧
        Decides analysis (AgentSynthesizer.consensus answers).text b) := by
  intro analysis answers
  have asking : (asked config (inputs.withSupervisor supervisor context schedule)
      state).Satisfies AnyOutcome (fun a => Pursued inputs answers analysis ∧
        a.analysis = analysis ∧
        directionOf a.proposal = (AgentSynthesizer.consensus answers).text ∧
        a.cycle.result.decision = (AgentSynthesizer.consensus answers).text) := by
    unfold asked
    apply (convene_supervised config inputs supervisor context schedule state).bind
    rintro ⟨found, proposal, cycle⟩ ⟨pursued, same, directed, decided⟩
    apply (htfFilter_decided (openSignal_decided decided) proposal).bind
    intro cycle decided
    apply (satisfies_any _).bind
    intro validation _
    exact ⟨pursued, same, directed, decided⟩
  unfold built
  apply asking.bind
  rintro ⟨found, proposal, validation, cycle⟩ ⟨pursued, same, directed, decided⟩
  apply (clear_decided decided directed validation).bind
  rintro ⟨proposal, cycle⟩ ⟨directed, decided⟩
  apply (satisfies_any _).bind
  intro route _
  have building : (buildOrder (inputs.withSupervisor supervisor context schedule) proposal
      validation cycle).Satisfies AnyOutcome (fun next =>
        next.2.result.decision = (AgentSynthesizer.consensus answers).text) := by
    unfold buildOrder
    split
    · trivial
    · exact decided
  apply building.bind
  rintro ⟨order, cycle⟩ decided
  exact ⟨pursued, same, directed, decided⟩

/-- What is sent has a direction: a signal has it as its own, and an order was built from a
proposal that has it as its order type. -/
def InDirection (word : String) : Dispatch → Prop
  | .accounts signal _ => signal.terms.direction = word
  | .single order | .terminals order _ _ =>
      ∃ proposal market built, inputs.orderBuilder proposal market = .ok built ∧
        order = approve inputs built ∧ proposal.get "order_type" = some (.str word)

theorem inDirection_sendsFor {b : BuiltOrder} {validation : ValidationInputs}
    {direction : TradeDirection} {analysis : Analysis}
    (decides : Decides analysis direction.text b)
    (order : inputs.orderBuilder (buildProposal inputs b.proposal b.validation)
      b.validation.marketInfo = .ok b.order) :
    ∀ dispatch ∈ sendsFor config inputs b validation,
      InDirection inputs direction.text dispatch := by
  have upper : Text.upper (firstText direction.text validation.proposal.direction) =
      direction.text := by
    rw [show firstText direction.text validation.proposal.direction = direction.text from
      if_neg (by cases direction <;> decide)]
    exact upper_text direction
  have labelled : (buildProposal inputs b.proposal b.validation).get "order_type" =
      some (.str direction.text) := by
    rw [← decides.proposal]
    simp [buildProposal]
  intro dispatch sent
  unfold sendsFor sendsOn at sent
  rw [decides.decision] at sent
  split at sent
  · rw [List.mem_singleton.mp sent]
    exact upper
  · rename_i engine route
    unfold dispatchExecution at sent
    split at sent
    · rw [List.mem_singleton.mp sent]
      exact ⟨_, _, _, order, rfl, labelled⟩
    · split at sent
      · cases sent
      · rw [List.mem_singleton.mp sent]
        exact ⟨_, _, _, order, rfl, labelled⟩

/-- A supervised cycle goes on from the supervisor's report exactly when the agents that answer
come to a direction with enough confidence and the canonical decision does not block it.  A
conflict that an answer flags as unresolved, for which the supervisor holds its own proposal
back, is no part of the condition. -/
theorem supervised_cycle_pursues_iff (cycle : DecisionCycle) :
    (∃ next, propose inputs (analysisOf inputs.render (reportIn inputs supervisor context
        schedule)) cycle = .proceed next) ↔
      Pursued inputs (answersIn inputs supervisor context schedule)
        (analysisOf inputs.render (reportIn inputs supervisor context schedule)) := by
  rcases propose_supervised inputs supervisor context schedule cycle with ⟨declines, pursues⟩
  constructor
  · rintro ⟨next, proceeds⟩
    by_contra idle
    rcases declines idle with ⟨outcome, leaves⟩
    cases proceeds.symm.trans leaves
  · intro pursued
    rcases pursues pursued with ⟨record, next, proceeds, -⟩
    exact ⟨_, proceeds⟩

/-- Whatever a supervised cycle sends goes in the direction that the agents who answer come to,
with enough confidence and past the canonical decision. -/
theorem supervised_dispatch (state : PipelineState) {dispatch : Dispatch}
    (sent : dispatch ∈
      (run config (inputs.withSupervisor supervisor context schedule) state).cycle.dispatches) :
    Pursued inputs (answersIn inputs supervisor context schedule)
        (analysisOf inputs.render (reportIn inputs supervisor context schedule)) ∧
      InDirection inputs
        (AgentSynthesizer.consensus (answersIn inputs supervisor context schedule)).text
        dispatch := by
  rcases of_dispatched sent with ⟨b, validation, found, ready, -, way⟩
  have supervised := (built_supervised config inputs supervisor context schedule
    state).of_proceed found
  exact ⟨supervised.1, inDirection_sendsFor config _ supervised.2 ready.order dispatch way⟩

end SupervisedRun

namespace Sample

/-- An event on which one agent is asked, who reads the market as bullish. -/
def oneVoice : SupervisorContext Unit :=
  { SupervisorAgent.Sample.breakout with
    agents := [SupervisorAgent.Sample.specialist "structure" "BULLISH"]
    distinct := by decide }

/-- An event whose signal is approved and fanned out. -/
def fannedOut : CycleInputs :=
  { gateRaises with
    riskGate := fun _ _ => .ok ⟨true, "ok"⟩
    orderBuilder := fun _ _ => .ok { sellOrder with orderType := "BUY" }
    fanoutCoordinator := some fun _ _ => .ok Dict.empty }

end Sample

/-- One bullish agent is enough for a signal to buy. -/
theorem supervised_dispatch_oneVoice :
    ∃ dispatch ∈ (run Sample.pipelineConfig (Sample.fannedOut.withSupervisor
        (SupervisorAgent.Sample.desk 1 300) Sample.oneVoice []) Sample.pipelineState).cycle.dispatches,
      Pursued Sample.fannedOut (answersIn Sample.fannedOut (SupervisorAgent.Sample.desk 1 300)
          Sample.oneVoice [])
        (analysisOf Sample.fannedOut.render (reportIn Sample.fannedOut
          (SupervisorAgent.Sample.desk 1 300) Sample.oneVoice [])) ∧
      InDirection Sample.fannedOut (AgentSynthesizer.consensus (answersIn Sample.fannedOut
        (SupervisorAgent.Sample.desk 1 300) Sample.oneVoice [])).text dispatch := by
  have sends : (run Sample.pipelineConfig (Sample.fannedOut.withSupervisor
      (SupervisorAgent.Sample.desk 1 300) Sample.oneVoice [])
      Sample.pipelineState).cycle.dispatches.isEmpty = false := by
    decide +kernel
  rcases List.exists_mem_of_ne_nil _ (List.isEmpty_eq_false_iff.mp sends) with ⟨dispatch, sent⟩
  exact ⟨dispatch, sent, supervised_dispatch Sample.pipelineConfig Sample.fannedOut
    (SupervisorAgent.Sample.desk 1 300) Sample.oneVoice [] Sample.pipelineState sent⟩

end EaBot.Orchestration
