import EaBot.Orchestration.Dispatches
import EaBot.Orchestration.SignalRetirement

/-!
# What a cycle sends and what the risk gate has approved

The gate is asked on the proposal of a cycle, and again on the built order where that is
not the approved one.  The comparison of the two covers the symbol, the volume and the
price levels.  It leaves out the direction: an order that only turns around goes out on
the approval of the proposal.
-/

namespace EaBot.Orchestration

open EaBot.Execution EaBot.Foundation TradingPipeline

/-- A question to the risk gate and its answer. -/
structure Review where
  validation : ValidationInputs
  answer : Except String GateDecision

/-- The question on the final order. -/
def finalValidation (b : BuiltOrder) : ValidationInputs :=
  { b.validation with proposal := finalProposal b.order b.validation.proposal }

/-- What the gate is asked in a cycle: the proposal and, where it is not the approved one,
the final order. -/
def reviews (config : PipelineConfig) (inputs : CycleInputs) (state : PipelineState) :
    List Review :=
  let first :=
    match asked config inputs state with
    | .leave _ => []
    | .proceed a => [⟨a.validation, inputs.riskGate .proposal a.validation⟩]
  let second :=
    match built config inputs state with
    | .leave _ => []
    | .proceed b =>
        if unchanged b.order b.validation.proposal then []
        else [⟨finalValidation b, inputs.riskGate .finalOrder (finalValidation b)⟩]
  first ++ second

/-- The order is the proposed one. -/
structure Proposed (order : OrderRequest) (proposal : GateProposal) : Prop where
  symbol : order.symbol = proposal.symbol.text
  direction : order.orderType = proposal.direction
  volume : Close order.volume.value proposal.size
  price : Close order.price.value proposal.entryPrice
  sl : Close order.sl.value proposal.stopLoss
  tp : Close order.tp.value proposal.takeProfit

/-- The gate has approved the order, every guard lets it pass, and it carries a token. -/
structure ApprovedAsSent (inputs : CycleInputs) (reviews : List Review) (order : OrderRequest) :
    Prop where
  approved : ∃ review ∈ reviews, ∃ decision, review.answer = .ok decision ∧
    decision.approved = true ∧ Proposed order review.validation.proposal
  dependency : Allows inputs.dependencyGuard
  reconciliation : Allows inputs.reconciliationGuard
  readiness : Allows inputs.readinessGuard
  token : ∃ token, order.approvalToken = some token ∧ token ≠ ""

/-- The built order is labelled as the approved proposal is.  Where the gate is asked
again, the label is the one that it is asked on, and an order without a symbol stands for
a proposal without one. -/
def KeepsProposal (order : OrderRequest) (approved : GateProposal) : Prop :=
  if unchanged order approved then order.orderType = approved.direction
  else
    (order.symbol = "" → approved.symbol.text = "") ∧
      order.orderType =
        Text.upper (if order.orderType = "" then approved.direction else order.orderType)

/-- The cycle sends an order to one terminal. -/
def SendsOne (config : PipelineConfig) (inputs : CycleInputs) (state : PipelineState) : Prop :=
  ∃ order, Dispatch.single order ∈ (run config inputs state).cycle.dispatches

section Approval

variable {config : PipelineConfig} {inputs : CycleInputs} {state : PipelineState}

theorem unchanged_iff (order : OrderRequest) (approved : GateProposal) :
    unchanged order approved = true ↔
      order.symbol = approved.symbol.text ∧ Close order.volume.value approved.size ∧
        Close order.price.value approved.entryPrice ∧ Close order.sl.value approved.stopLoss ∧
        Close order.tp.value approved.takeProfit := by
  simp [unchanged, Close, and_assoc]

/-- A built order comes from the proposal that the gate was asked on. -/
theorem asked_of_built {b : BuiltOrder} (found : built config inputs state = .proceed b) :
    ∃ a, asked config inputs state = .proceed a ∧ a.validation = b.validation := by
  unfold built at found
  obtain ⟨a, question, found⟩ := Stage.of_bind_eq_proceed found
  obtain ⟨⟨proposal, cycle⟩, -, found⟩ := Stage.of_bind_eq_proceed found
  obtain ⟨route, -, found⟩ := Stage.of_bind_eq_proceed found
  obtain ⟨⟨order, cycle⟩, -, found⟩ := Stage.of_bind_eq_proceed found
  cases found
  exact ⟨a, question, rfl⟩

/-- The reviews of a cycle that has built its order. -/
theorem reviews_of_built {b : BuiltOrder} (found : built config inputs state = .proceed b) :
    reviews config inputs state =
      ⟨b.validation, inputs.riskGate .proposal b.validation⟩ ::
        if unchanged b.order b.validation.proposal then []
        else [⟨finalValidation b, inputs.riskGate .finalOrder (finalValidation b)⟩] := by
  obtain ⟨a, question, same⟩ := asked_of_built found
  unfold reviews
  rw [found, question]
  simp only [same, List.singleton_append]

/-- An order is sent to one terminal by the engine on the route, and carries its token. -/
theorem single_of_sends {b : BuiltOrder} {validation : ValidationInputs} {order : OrderRequest}
    (sent : .single order ∈ sendsFor config inputs b validation) :
    order = approve inputs b.order ∧ ∃ engine, b.route = .engine engine ∧
      dispatchExecution inputs engine order = ([.single order], engine.executeOrder order) := by
  unfold sendsFor sendsOn at sent
  split at sent
  · cases List.mem_singleton.mp sent
  · rename_i engine taken
    unfold dispatchExecution at sent
    split at sent
    · cases List.mem_singleton.mp sent
    · rename_i alone
      split at sent
      · cases sent
      · rename_i single
        cases List.mem_singleton.mp sent
        refine ⟨rfl, engine, taken, ?_⟩
        unfold dispatchExecution
        rw [alone]
        exact if_neg single

/-- An order that one terminal is sent is the built one with its token. -/
theorem of_single {order : OrderRequest}
    (sent : .single order ∈ (run config inputs state).cycle.dispatches) :
    ∃ b validation, built config inputs state = .proceed b ∧ Ready config inputs b ∧
      revalidated inputs b.order b.validation = .ok validation ∧
      order = approve inputs b.order := by
  obtain ⟨b, validation, found, ready, word, way⟩ := of_dispatched sent
  exact ⟨b, validation, found, ready, word, (single_of_sends way).1⟩

/-- An order that goes on although it is not the approved one has been approved itself. -/
theorem approved_of_changed {order : OrderRequest} {validation final : ValidationInputs}
    (word : revalidated inputs order validation = .ok final)
    (changed : unchanged order validation.proposal = false) :
    ∃ decision, inputs.riskGate .finalOrder
        { validation with proposal := finalProposal order validation.proposal } =
          .ok decision ∧ decision.approved = true := by
  unfold revalidated finalVerdict at word
  rw [changed] at word
  cases answered : inputs.riskGate .finalOrder
      { validation with proposal := finalProposal order validation.proposal } with
  | error raised =>
      rw [answered] at word
      cases word
  | ok decision =>
      rw [answered] at word
      refine ⟨decision, rfl, ?_⟩
      by_contra rejected
      simp [rejected] at word

theorem finalProposal_symbol (order : OrderRequest) (approved : GateProposal) :
    order.symbol = (finalProposal order approved).symbol.text ↔
      (order.symbol = "" → approved.symbol.text = "") := by
  by_cases unnamed : order.symbol = ""
  · have symbol : (finalProposal order approved).symbol.text = approved.symbol.text := by
      simp [finalProposal, Val.orElse, Val.truthy, Val.text, unnamed]
    rw [symbol, unnamed]
    exact ⟨fun same _ => same.symm, fun same => (same rfl).symm⟩
  · have symbol : (finalProposal order approved).symbol.text = order.symbol := by
      simp [finalProposal, Val.orElse, Val.truthy, Val.text, unnamed]
    rw [symbol]
    exact iff_of_true rfl fun missing => absurd missing unnamed

/-- The token does not change what the order is. -/
theorem proposed_approve_iff (order : OrderRequest) (proposal : GateProposal) :
    Proposed (approve inputs order) proposal ↔ Proposed order proposal :=
  ⟨fun same => ⟨same.symbol, same.direction, same.volume, same.price, same.sl, same.tp⟩,
    fun same => ⟨same.symbol, same.direction, same.volume, same.price, same.sl, same.tp⟩⟩

/-- What the reviews of a built order approve. -/
theorem approved_iff_keeps {b : BuiltOrder} {validation : ValidationInputs}
    (found : built config inputs state = .proceed b) (ready : Ready config inputs b)
    (word : revalidated inputs b.order b.validation = .ok validation) :
    (∃ review ∈ reviews config inputs state, ∃ decision, review.answer = .ok decision ∧
        decision.approved = true ∧ Proposed b.order review.validation.proposal) ↔
      KeepsProposal b.order b.validation.proposal := by
  obtain ⟨first, answered, approved⟩ := ready.cleared.approved
  rw [reviews_of_built found]
  unfold KeepsProposal
  by_cases same : unchanged b.order b.validation.proposal = true
  · obtain ⟨symbol, volume, price, sl, tp⟩ := (unchanged_iff _ _).mp same
    rw [if_pos same, if_pos same]
    constructor
    · rintro ⟨review, member, decision, -, -, proposed⟩
      cases List.mem_singleton.mp member
      exact proposed.direction
    · intro direction
      exact ⟨_, List.mem_singleton_self _, first, answered, approved, symbol, direction, volume,
        price, sl, tp⟩
  · obtain ⟨second, answeredAgain, approvedAgain⟩ :=
      approved_of_changed word (Bool.eq_false_iff.mpr same)
    rw [if_neg same, if_neg same, ← finalProposal_symbol]
    constructor
    · rintro ⟨review, member, decision, -, -, proposed⟩
      rcases List.mem_cons.mp member with here | there
      · subst here
        refine absurd ((unchanged_iff _ _).mpr ?_) same
        exact ⟨proposed.symbol, proposed.volume, proposed.price, proposed.sl, proposed.tp⟩
      · cases List.mem_singleton.mp there
        exact ⟨proposed.symbol, proposed.direction⟩
    · rintro ⟨symbol, direction⟩
      refine ⟨_, List.mem_cons_of_mem _ (List.mem_singleton_self _), second, answeredAgain,
        approvedAgain, ?_⟩
      exact ⟨symbol, direction, close_self _, close_self _, close_self _, close_self _⟩

end Approval

/-- Whenever a cycle sends an order to a terminal, the gate has approved that order, every
configured guard has let it pass and it carries a token, exactly when the builder has kept
to the approved proposal. -/
theorem sent_order_is_approved_iff (config : PipelineConfig) (inputs : CycleInputs)
    (state : PipelineState) :
    (∀ order, .single order ∈ (run config inputs state).cycle.dispatches →
        ApprovedAsSent inputs (reviews config inputs state) order) ↔
      (SendsOne config inputs state → ∀ b, built config inputs state = .proceed b →
        KeepsProposal b.order b.validation.proposal) := by
  constructor
  · rintro approvedAll ⟨order, sent⟩ b found
    obtain ⟨other, validation, foundAgain, ready, word, rfl⟩ := of_single sent
    cases found.symm.trans foundAgain
    rw [← approved_iff_keeps found ready word]
    obtain ⟨review, member, decision, answered, approved, proposed⟩ :=
      (approvedAll _ sent).approved
    exact ⟨review, member, decision, answered, approved,
      (proposed_approve_iff _ _).mp proposed⟩
  · intro keeps order sent
    obtain ⟨b, validation, found, ready, word, rfl⟩ := of_single sent
    obtain ⟨review, member, decision, answered, approved, proposed⟩ :=
      (approved_iff_keeps found ready word).mpr (keeps ⟨_, sent⟩ b found)
    constructor
    · exact ⟨review, member, decision, answered, approved,
        (proposed_approve_iff _ _).mpr proposed⟩
    · exact ready.cleared.dependency
    · exact ready.cleared.reconciliation
    · exact ready.cleared.readiness
    · exact ⟨_, rfl, by simp⟩

namespace Sample

/-- An order to sell with the volume and the levels of the proposed entry. -/
def sellOrder : OrderRequest where
  symbol := "EURUSD"
  orderType := "SELL"
  volume := ⟨1 / 100, "0.01"⟩
  price := ⟨11 / 10, "1.1"⟩
  sl := ⟨1, "1.0"⟩
  tp := ⟨13 / 10, "1.3"⟩
  magic := 70000
  comment := "EA-Bot-BUY"
  idempotencyKey := "coid_1"
  approvalToken := none
  signalId := none
  accountId := none
  terminalId := none
  proposalId := none
  executionId := none
  strategyVersion := none
  brokerOrderTicket := none
  brokerDealTicket := none
  brokerPositionTicket := none

/-- An event whose proposal to buy is approved, and whose builder turns it around. -/
def reversingBuilder : CycleInputs :=
  { gateRaises with
    riskGate := fun _ _ => .ok ⟨true, "ok"⟩
    orderBuilder := fun _ _ => .ok sellOrder
    executionEngine := some ⟨fun _ => .ok ⟨true, .int 7, .int 0, .str ""⟩, none⟩ }

/-- The order type of a dispatch to one terminal. -/
def orderTypeOf : Dispatch → Option String
  | .single order => some order.orderType
  | .terminals _ _ _ | .accounts _ _ => none

end Sample

/-- The gate approves a proposal to buy, and an order to sell is sent. -/
theorem order_to_sell_sent_for_approved_buy :
    ¬ ∀ order, .single order ∈
        (run Sample.pipelineConfig Sample.reversingBuilder
          Sample.pipelineState).cycle.dispatches →
      ApprovedAsSent Sample.reversingBuilder
        (reviews Sample.pipelineConfig Sample.reversingBuilder Sample.pipelineState) order := by
  intro approvedAll
  have sent : "SELL" ∈ (run Sample.pipelineConfig Sample.reversingBuilder
      Sample.pipelineState).cycle.dispatches.filterMap Sample.orderTypeOf := by
    decide +kernel
  have asked : ∀ direction ∈ (reviews Sample.pipelineConfig Sample.reversingBuilder
      Sample.pipelineState).map (fun review => review.validation.proposal.direction),
      direction = "BUY" := by
    decide +kernel
  obtain ⟨dispatch, member, isSell⟩ := List.mem_filterMap.mp sent
  cases dispatch with
  | single order =>
      obtain ⟨review, known, decision, -, -, proposed⟩ := (approvedAll order member).approved
      have buys := asked _ (List.mem_map_of_mem known)
      rw [← proposed.direction] at buys
      exact absurd (buys.symm.trans (Option.some.inj isSell)) (by decide)
  | terminals order riskPrice tpPrice => cases isSell
  | accounts signal raw => cases isSell

end EaBot.Orchestration
