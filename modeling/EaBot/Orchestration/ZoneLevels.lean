import EaBot.Orchestration.RiskBudget

/-!
# The levels of a zone plan and the order

A proposal that is at its zone takes over the levels of the plan, but the order is built
from the copy of the proposal that the risk gate was asked on, which was made before.
With a builder that changes nothing the order carries the levels of that copy, so those
of the plan reach the broker only where the copy already had them.
-/

namespace EaBot.Orchestration

open EaBot.Execution EaBot.Foundation TradingPipeline

/-- The levels are those of the plan. -/
structure ZonePlan.Names (plan : ZonePlan) (price sl tp : ℚ) : Prop where
  entry : plan.entry.toFloat = .ok price
  stopLoss : plan.stopLoss.toFloat = .ok sl
  takeProfit : plan.takeProfit.toFloat = .ok tp

/-- The plan that the zone gate accepts for an asked proposal. -/
def acceptedPlan (inputs : CycleInputs) (a : AskedProposal) : Option ZonePlan :=
  if inputs.zoneEntryEnabled then
    inputs.zoneEntryGate.bind fun gate => (gate a.proposal a.validation).1
  else none

/-- A builder whose orders have the volume and the levels that they are built from. -/
def IsIdentity (builder : Record → Record → Except String OrderRequest) : Prop :=
  ∀ proposal quote order, builder proposal quote = .ok order →
    numberOf proposal ["volume"] = .ok order.volume.value ∧
    numberOf proposal ["price"] = .ok order.price.value ∧
    numberOf proposal ["stop_loss"] = .ok order.sl.value ∧
    numberOf proposal ["take_profit"] = .ok order.tp.value

/-- A cycle sends an order, to one terminal or to several. -/
def Sends (config : PipelineConfig) (inputs : CycleInputs) (state : PipelineState)
    (order : OrderRequest) : Prop :=
  ∃ dispatch ∈ (run config inputs state).cycle.dispatches, dispatch.order = some order

/-- Every order that a cycle sends after it has accepted a plan has the levels of the
plan. -/
def PlanReachesOrder (config : PipelineConfig) (inputs : CycleInputs) (state : PipelineState) :
    Prop :=
  ∀ a plan, asked config inputs state = .proceed a → acceptedPlan inputs a = some plan →
    ∀ order, Sends config inputs state order →
      plan.Names order.price.value order.sl.value order.tp.value

/-- The copy of the proposal that the risk gate is asked on has the levels of an accepted
plan, if an order is sent. -/
def CopyHasPlan (config : PipelineConfig) (inputs : CycleInputs) (state : PipelineState) :
    Prop :=
  ∀ a plan, asked config inputs state = .proceed a → acceptedPlan inputs a = some plan →
    (∃ order, Sends config inputs state order) →
      plan.Names a.validation.proposal.entryPrice a.validation.proposal.stopLoss
        a.validation.proposal.takeProfit

section Levels

variable {config : PipelineConfig} {inputs : CycleInputs} {state : PipelineState}

theorem numberOf_num {record : Record} {name : String} {value : Number}
    (found : record.get name = some (.num value)) : numberOf record [name] = .ok value.value := by
  by_cases zero : value.value = 0
  · simp [numberOf, firstOf, found, Val.orElse, Val.truthy, zero, Val.toFloat]
  · simp [numberOf, firstOf, found, Val.orElse, Val.truthy, zero, Val.toFloat]

/-- The levels of an order that an identity builder has built are the validated ones. -/
theorem levels_of_identity (identity : IsIdentity inputs.orderBuilder) {proposal : Record}
    {validation : ValidationInputs} {quote : Record} {order : OrderRequest}
    (built : inputs.orderBuilder (buildProposal inputs proposal validation) quote = .ok order) :
    order.price.value = validation.proposal.entryPrice ∧
      order.sl.value = validation.proposal.stopLoss ∧
      order.tp.value = validation.proposal.takeProfit := by
  rcases identity _ _ _ built with ⟨-, price, sl, tp⟩
  have number (name : String) (value : ℚ)
      (named : (buildProposal inputs proposal validation).get name =
        some (.num ⟨value, inputs.render value⟩)) {sent : ℚ}
      (read : numberOf (buildProposal inputs proposal validation) [name] = .ok sent) :
      sent = value := by
    rw [numberOf_num named] at read
    exact (Except.ok.inj read).symm
  refine ⟨number "price" _ ?_ price, number "stop_loss" _ ?_ sl, number "take_profit" _ ?_ tp⟩
  all_goals
    apply Dict.get_update_of_mem
    · simp
    · simp

theorem built_of_sent {order : OrderRequest} (sent : Sends config inputs state order) :
    ∃ b, built config inputs state = .proceed b ∧ Ready config inputs b ∧
      order = approve inputs b.order := by
  rcases sent with ⟨dispatch, dispatched, carries⟩
  rcases of_dispatched dispatched with ⟨b, final, found, ready, -, way⟩
  exact ⟨b, found, ready, order_of_sent way carries⟩

theorem proposal_of_zoneEntry {proposal next : Record} {validation : ValidationInputs}
    {cycle later : DecisionCycle} {plan : ZonePlan}
    (enabled : inputs.zoneEntryEnabled = true)
    {gate : Record → ValidationInputs → Option ZonePlan × String}
    (configured : inputs.zoneEntryGate = some gate)
    (accepted : (gate proposal validation).1 = some plan)
    (proceeds : zoneEntry config inputs proposal validation cycle = .proceed (next, later)) :
    next = atZone proposal plan := by
  have answer : zoneAnswer inputs proposal validation = .ok (atZone proposal plan, true) := by
    unfold zoneAnswer
    rw [configured]
    rcases answered : gate proposal validation with ⟨found, reason⟩
    rw [answered] at accepted
    cases accepted
    simp [enabled, answered]
  unfold zoneEntry at proceeds
  rw [answer] at proceeds
  cases proceeds
  rfl

/-- The proposal itself takes over the levels of an accepted plan. -/
theorem proposal_of_built {a : AskedProposal} {b : BuiltOrder} {plan : ZonePlan}
    (question : asked config inputs state = .proceed a)
    (accepted : acceptedPlan inputs a = some plan)
    (found : built config inputs state = .proceed b) : b.proposal = atZone a.proposal plan := by
  unfold acceptedPlan at accepted
  split at accepted
  · rename_i enabled
    rcases Option.bind_eq_some_iff.mp accepted with ⟨gate, configured, accepted⟩
    unfold built at found
    rcases Stage.of_bind_eq_proceed found with ⟨other, again, found⟩
    cases question.symm.trans again
    rcases Stage.of_bind_eq_proceed found with ⟨⟨next, cycle⟩, cleared, found⟩
    rcases Stage.of_bind_eq_proceed found with ⟨route, -, found⟩
    rcases Stage.of_bind_eq_proceed found with ⟨order, -, found⟩
    cases found
    unfold clear at cleared
    rcases Stage.of_bind_eq_proceed cleared with ⟨approved, -, cleared⟩
    rcases Stage.of_bind_eq_proceed cleared with ⟨depends, -, cleared⟩
    rcases Stage.of_bind_eq_proceed cleared with ⟨reconciled, -, cleared⟩
    rcases Stage.of_bind_eq_proceed cleared with ⟨ready, -, cleared⟩
    rcases Stage.of_bind_eq_proceed cleared with ⟨single, -, cleared⟩
    rcases Stage.of_bind_eq_proceed cleared with ⟨rested, -, cleared⟩
    exact proposal_of_zoneEntry enabled configured accepted cleared
  · cases accepted

/-- The levels of an order that is sent are those of the copy that was asked on. -/
theorem levels_of_sent (identity : IsIdentity inputs.orderBuilder) {a : AskedProposal}
    (question : asked config inputs state = .proceed a) {order : OrderRequest}
    (sent : Sends config inputs state order) :
    order.price.value = a.validation.proposal.entryPrice ∧
      order.sl.value = a.validation.proposal.stopLoss ∧
      order.tp.value = a.validation.proposal.takeProfit := by
  rcases built_of_sent sent with ⟨b, found, ready, rfl⟩
  rcases asked_of_built found with ⟨other, again, same⟩
  cases question.symm.trans again
  have kept := levels_of_identity identity ready.order
  rw [same]
  exact kept

/-- With an identity builder, the orders of a cycle have the levels of an accepted plan
exactly when the validated copy of the proposal has them. -/
theorem plan_reaches_order_iff (config : PipelineConfig) (inputs : CycleInputs)
    (state : PipelineState) (identity : IsIdentity inputs.orderBuilder) :
    PlanReachesOrder config inputs state ↔ CopyHasPlan config inputs state := by
  constructor
  · rintro reaches a plan question accepted ⟨order, sent⟩
    rcases levels_of_sent identity question sent with ⟨price, sl, tp⟩
    rw [← price, ← sl, ← tp]
    exact reaches a plan question accepted order sent
  · intro copied a plan question accepted order sent
    rcases levels_of_sent identity question sent with ⟨price, sl, tp⟩
    rw [price, sl, tp]
    exact copied a plan question accepted ⟨order, sent⟩

end Levels

namespace Sample

/-- A builder that takes the volume and the levels as they are. -/
def identityBuilder (proposal _quote : Record) : Except String OrderRequest := do
  let volume ← numberOf proposal ["volume"]
  let price ← numberOf proposal ["price"]
  let sl ← numberOf proposal ["stop_loss"]
  let tp ← numberOf proposal ["take_profit"]
  return { sellOrder with orderType := "BUY", volume := ⟨volume, ""⟩, price := ⟨price, ""⟩,
                          sl := ⟨sl, ""⟩, tp := ⟨tp, ""⟩ }

theorem isIdentity_identityBuilder : IsIdentity identityBuilder := by
  intro proposal quote order built
  unfold identityBuilder at built
  rcases of_bind_eq_ok built with ⟨volume, first, built⟩
  rcases of_bind_eq_ok built with ⟨price, second, built⟩
  rcases of_bind_eq_ok built with ⟨sl, third, built⟩
  rcases of_bind_eq_ok built with ⟨tp, fourth, built⟩
  cases built
  exact ⟨first, second, third, fourth⟩

/-- A plan with three levels. -/
def zonePlan (entry stopLoss takeProfit : ℚ) : ZonePlan :=
  ⟨.num ⟨entry, ""⟩, .num ⟨stopLoss, ""⟩, .num ⟨takeProfit, ""⟩⟩

/-- An event whose entry is at its zone. -/
def zoneInputs (plan : ZonePlan) : CycleInputs :=
  { reversingBuilder with
    zoneEntryEnabled := true
    zoneEntryGate := some fun _ _ => (some plan, "")
    orderBuilder := identityBuilder }

/-- The levels of the orders that an event sends. -/
def sentLevels (inputs : CycleInputs) : List (ℚ × ℚ × ℚ) :=
  ((run pipelineConfig inputs pipelineState).cycle.dispatches.filterMap Dispatch.order).map
    fun order => (order.price.value, order.sl.value, order.tp.value)

end Sample

/-- A plan with the proposed levels reaches the order. -/
theorem proposed_plan_reaches_order :
    PlanReachesOrder Sample.pipelineConfig
      (Sample.zoneInputs (Sample.zonePlan (11 / 10) 1 (13 / 10))) Sample.pipelineState := by
  refine (plan_reaches_order_iff _ _ _ Sample.isIdentity_identityBuilder).mpr ?_
  intro a plan question accepted _
  have asks : (asked Sample.pipelineConfig
      (Sample.zoneInputs (Sample.zonePlan (11 / 10) 1 (13 / 10)))
      Sample.pipelineState).Satisfies (fun _ => False) (fun a =>
        a.validation.proposal.entryPrice = 11 / 10 ∧ a.validation.proposal.stopLoss = 1 ∧
          a.validation.proposal.takeProfit = 13 / 10) := by
    decide +kernel
  rcases asks.of_proceed question with ⟨entry, stop, target⟩
  cases accepted
  rw [entry, stop, target]
  exact ⟨rfl, rfl, rfl⟩

/-- A plan with levels of its own is accepted, and the order is sent with the proposed
levels. -/
theorem accepted_plan_lost :
    Sample.sentLevels (Sample.zoneInputs (Sample.zonePlan (109 / 100) (108 / 100) (112 / 100))) =
        [(11 / 10, 1, 13 / 10)] ∧
      ¬PlanReachesOrder Sample.pipelineConfig
        (Sample.zoneInputs (Sample.zonePlan (109 / 100) (108 / 100) (112 / 100)))
        Sample.pipelineState := by
  have levels : Sample.sentLevels
      (Sample.zoneInputs (Sample.zonePlan (109 / 100) (108 / 100) (112 / 100))) =
        [(11 / 10, 1, 13 / 10)] := by
    decide +kernel
  refine ⟨levels, ?_⟩
  intro reaches
  have some : (11 / 10, 1, 13 / 10) ∈ Sample.sentLevels
      (Sample.zoneInputs (Sample.zonePlan (109 / 100) (108 / 100) (112 / 100))) := by
    rw [levels]
    exact List.mem_cons_self
  rcases List.mem_map.mp some with ⟨order, member, same⟩
  rcases List.mem_filterMap.mp member with ⟨dispatch, dispatched, holds⟩
  have sent : Sends Sample.pipelineConfig
      (Sample.zoneInputs (Sample.zonePlan (109 / 100) (108 / 100) (112 / 100)))
      Sample.pipelineState order := ⟨dispatch, dispatched, holds⟩
  rcases built_of_sent sent with ⟨b, found, -, -⟩
  rcases asked_of_built found with ⟨a, question, -⟩
  have entry := (reaches a _ question rfl order sent).entry
  have price : order.price.value = 11 / 10 := congrArg Prod.fst same
  rw [price] at entry
  have different : (109 / 100 : ℚ) = 11 / 10 := Except.ok.inj entry
  norm_num at different

end EaBot.Orchestration
