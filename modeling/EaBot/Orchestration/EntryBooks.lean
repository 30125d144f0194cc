import EaBot.Orchestration.ZoneLevels

/-!
# What is remembered of an executed entry

After a fill the pipeline writes down the price of the entry for its cooldown, the
context of the entry for the review, and the opening row of the trade ledger.  Three
records of one order are at hand by then: the raw proposal, the validated copy, which has
adopted the final order where that was another one, and the order itself.  The levels and
the volume are taken from the raw proposal first, and from the copy only where the raw one
names no positive number.
-/

namespace EaBot.Orchestration

open EaBot.Execution EaBot.Foundation TradingPipeline

/-- The context of an entry that the review reads. -/
structure EntryContext where
  symbol : String
  direction : String
  entryPrice : ℚ
  stopLoss : ℚ
  takeProfit : ℚ
  riskDistance : ℚ
  rewardDistance : ℚ
  plannedRr : ℚ

/-- The opening row of a trade in the ledger. -/
structure LedgerTrade where
  tradeId : Val
  symbol : String
  direction : String
  volume : ℚ
  entryPrice : ℚ
  initialStopLoss : ℚ
  initialTakeProfit : ℚ
  initialRiskPriceDistance : ℚ
  initialRiskMoney : ℚ
  targetRr : ℚ

/-- What is written down of an executed entry: the price for the cooldown, the context and
the row of the ledger. -/
structure EntryBooks where
  lastEntryPrice : Option ℚ
  context : Option EntryContext
  trade : Option LedgerTrade

namespace TradingPipeline

/-- The first positive number among some values; without one, the last number that counts
as true, or the one known before. -/
def pickPositive (known : ℚ) : List Val → ℚ
  | [] => known
  | candidate :: rest =>
      if candidate.truthy then
        match candidate.toFloat with
        | .error _ => pickPositive known rest
        | .ok value => if 0 < value then value else pickPositive value rest
      else pickPositive known rest

/-- The values in some fields of a proposal. -/
def fieldsOf (proposal : Record) (names : List String) : List Val :=
  names.map fun name => (proposal.get name).getD .none

/-- The number that is remembered: one that the proposal names in some fields, or the
validated one. -/
def rememberedNumber (inputs : CycleInputs) (proposal : Record) (names : List String)
    (validated : ℚ) : ℚ :=
  pickPositive 0 (fieldsOf proposal names ++ [.num ⟨validated, inputs.render validated⟩])

/-- The price that is remembered of an entry. -/
def rememberedPrice (proposal : Record) (validation : ValidationInputs) : ℚ :=
  if 0 < entryPriceOf validation then entryPriceOf validation
  else (numberOf proposal ["entry_price"]).toOption.getD 0

/-- The direction of an entry, when it is a definite one. -/
def entryDirection (decision : String) (proposal : Record) : String :=
  let named := ((proposal.get "direction").getD .none).orElse (.str "")
  let direction := Text.upper (Text.strip ((Val.str decision).orElse named).text)
  if direction = "BUY" ∨ direction = "SELL" then direction else ""

/-- The context of an entry. -/
def entryContext (inputs : CycleInputs) (decision : String) (proposal : Record)
    (validation : ValidationInputs) : EntryContext :=
  let price := rememberedPrice proposal validation
  let stopLoss := rememberedNumber inputs proposal ["stop_loss", "sl"]
    validation.proposal.stopLoss
  let takeProfit := rememberedNumber inputs proposal ["take_profit", "tp"]
    validation.proposal.takeProfit
  let direction := entryDirection decision proposal
  let formed := direction ≠ "" ∧ 0 < price ∧ 0 < stopLoss
  let risk := if formed then |price - stopLoss| else 0
  let reward := if formed ∧ 0 < takeProfit then |takeProfit - price| else 0
  { symbol := ((Val.str inputs.symbol).orElse
      (((proposal.get "symbol").getD .none).orElse (.str ""))).text,
    direction := direction, entryPrice := price, stopLoss := stopLoss, takeProfit := takeProfit,
    riskDistance := risk, rewardDistance := reward,
    plannedRr := if 0 < risk ∧ 0 < reward then Text.roundTo 4 (reward / risk) else 0 }

/-- The volume that is remembered of an entry. -/
def rememberedVolume (inputs : CycleInputs) (proposal : Record) (validation : ValidationInputs) :
    ℚ :=
  rememberedNumber inputs proposal ["size", "volume"] validation.proposal.size

/-- The row of the ledger for an entry. -/
def ledgerTrade (ticket : Val) (context : EntryContext) (volume : ℚ) : LedgerTrade where
  tradeId := ticket
  symbol := context.symbol
  direction := context.direction
  volume := volume
  entryPrice := context.entryPrice
  initialStopLoss := context.stopLoss
  initialTakeProfit := context.takeProfit
  initialRiskPriceDistance := context.riskDistance
  initialRiskMoney := context.riskDistance * volume
  targetRr := context.plannedRr

/-- What is written down after a fill.  Without a ticket there is no context, and without a
ledger no row. -/
def entryBooks (inputs : CycleInputs) (ledger : Bool) (decision : String) (proposal : Record)
    (validation : ValidationInputs) (ticket : Val) : EntryBooks :=
  let price := rememberedPrice proposal validation
  let context := entryContext inputs decision proposal validation
  { lastEntryPrice := if Text.upper inputs.symbol = "" ∨ price ≤ 0 then none else some price,
    context := if ticket = .none then none else some context,
    trade :=
      if ticket = .none ∨ ledger = false then none
      else some (ledgerTrade ticket context (rememberedVolume inputs proposal validation)) }

end TradingPipeline

/-- A cycle whose order the only terminal has executed: the built order, the validated
inputs with which it went on, the engine and its reply. -/
structure Filled (config : PipelineConfig) (inputs : CycleInputs) (state : PipelineState)
    (b : BuiltOrder) (final : ValidationInputs) (engine : Engine) (reply : ExecutionReply) :
    Prop where
  built : built config inputs state = .proceed b
  word : revalidated inputs b.order b.validation = .ok final
  route : b.route = .engine engine
  sent : dispatchExecution inputs engine (approve inputs b.order) =
    ([.single (approve inputs b.order)], .ok reply)
  success : reply.success = true

/-- What is written down of a filled order is the order. -/
structure EntryBooks.Match (books : EntryBooks) (order : OrderRequest) : Prop where
  lastEntry : ∀ price ∈ books.lastEntryPrice, price = order.price.value
  context : ∀ context ∈ books.context, context.entryPrice = order.price.value ∧
    context.stopLoss = order.sl.value ∧ context.takeProfit = order.tp.value
  trade : ∀ trade ∈ books.trade, trade.entryPrice = order.price.value ∧
    trade.initialStopLoss = order.sl.value ∧ trade.initialTakeProfit = order.tp.value ∧
    trade.volume = order.volume.value

/-- The price of an entry without a positive validated one: the quote, or the proposed
price. -/
def quotedPrice (proposal marketInfo : Record) : ℚ :=
  let quote (name : String) := (numberOf marketInfo [name]).toOption.getD 0
  if 0 < quote "ask" then quote "ask"
  else if 0 < quote "bid" then quote "bid"
  else (numberOf proposal ["entry_price"]).toOption.getD 0

/-- A number of the raw proposal is the sent one if it is positive.  Otherwise the order
was approved anew, or the builder has kept the validated number. -/
def NumberKept (same : Bool) (named validated sent : ℚ) : Prop :=
  if 0 < named then named = sent
  else if same then (if validated = 0 then named = sent else validated = sent)
  else sent = 0 → named = 0

/-- The price was approved anew, or the builder has kept the validated one; without a
positive one the quoted price is the sent one. -/
def PriceKept (same : Bool) (quoted validated sent : ℚ) : Prop :=
  if same then (if 0 < validated then validated = sent else quoted = sent)
  else sent ≤ 0 → quoted = sent

/-- The raw proposal, the validated copy and the built order agree in what is written
down. -/
structure KeepsOrder (inputs : CycleInputs) (ledger : Bool) (b : BuiltOrder) (ticket : Val) :
    Prop where
  price :
    let same := unchanged b.order b.validation.proposal
    let quoted := quotedPrice b.proposal b.validation.marketInfo
    let approved := if same then b.validation.proposal.entryPrice else b.order.price.value
    ticket ≠ .none ∨ (Text.upper inputs.symbol ≠ "" ∧ (0 < approved ∨ 0 < quoted)) →
      PriceKept same quoted b.validation.proposal.entryPrice b.order.price.value
  stopLoss : ticket ≠ .none →
    NumberKept (unchanged b.order b.validation.proposal)
      (pickPositive 0 (fieldsOf b.proposal ["stop_loss", "sl"]))
      b.validation.proposal.stopLoss b.order.sl.value
  takeProfit : ticket ≠ .none →
    NumberKept (unchanged b.order b.validation.proposal)
      (pickPositive 0 (fieldsOf b.proposal ["take_profit", "tp"]))
      b.validation.proposal.takeProfit b.order.tp.value
  volume : ticket ≠ .none → ledger = true →
    NumberKept (unchanged b.order b.validation.proposal)
      (pickPositive 0 (fieldsOf b.proposal ["size", "volume"]))
      b.validation.proposal.size b.order.volume.value

/-! ## The remembered numbers -/

/-- A last candidate counts when none before it is positive and it is not zero. -/
theorem pickPositive_append_num {known : ℚ} (low : known ≤ 0) (named : List Val)
    (validated : Number) :
    pickPositive known (named ++ [.num validated]) =
      if 0 < pickPositive known named ∨ validated.value = 0 then pickPositive known named
      else validated.value := by
  induction named generalizing known with
  | nil =>
      by_cases zero : validated.value = 0
      · simp [pickPositive, Val.truthy, zero]
      · by_cases positive : 0 < validated.value
        · simp [pickPositive, Val.truthy, Val.toFloat, zero, positive, not_lt.mpr low]
        · simp [pickPositive, Val.truthy, Val.toFloat, zero, positive, not_lt.mpr low]
  | cons candidate rest ih =>
      rw [List.cons_append]
      unfold pickPositive
      split
      · split
        · exact ih low
        · split
          · rename_i positive
            simp [positive]
          · rename_i nonpositive
            exact ih (not_lt.mp nonpositive)
      · exact ih low

theorem rememberedNumber_eq (inputs : CycleInputs) (proposal : Record) (names : List String)
    (validated : ℚ) :
    rememberedNumber inputs proposal names validated =
      if 0 < pickPositive 0 (fieldsOf proposal names) ∨ validated = 0 then
        pickPositive 0 (fieldsOf proposal names)
      else validated :=
  pickPositive_append_num le_rfl _ _

theorem rememberedPrice_eq (proposal : Record) (validation : ValidationInputs) :
    rememberedPrice proposal validation =
      if 0 < validation.proposal.entryPrice then validation.proposal.entryPrice
      else quotedPrice proposal validation.marketInfo := by
  unfold rememberedPrice entryPriceOf quotedPrice
  dsimp only
  split_ifs <;> first | rfl | linarith

/-- The inputs with which an order goes on. -/
theorem eq_of_revalidated {inputs : CycleInputs} {order : OrderRequest}
    {validation final : ValidationInputs} (word : revalidated inputs order validation = .ok final) :
    final = if unchanged order validation.proposal then validation else adopt order validation := by
  cases same : unchanged order validation.proposal with
  | true =>
      have verdict : finalVerdict inputs order validation = .ok none := by
        simp [finalVerdict, same]
      unfold revalidated at word
      rw [verdict] at word
      cases word
      rfl
  | false =>
      rcases approved_of_changed word same with ⟨decision, answered, approved⟩
      have verdict : finalVerdict inputs order validation = .ok (some decision) := by
        simp [finalVerdict, same, answered]
      unfold revalidated at word
      rw [verdict] at word
      simp only [approved, if_true] at word
      cases word
      rfl

/-- A remembered number is the sent one exactly when it is kept. -/
theorem rememberedNumber_iff (inputs : CycleInputs) (proposal : Record) (names : List String)
    (same : Bool) (validated sent : ℚ) :
    rememberedNumber inputs proposal names (if same then validated else sent) = sent ↔
      NumberKept same (pickPositive 0 (fieldsOf proposal names)) validated sent := by
  rw [rememberedNumber_eq, NumberKept]
  by_cases positive : 0 < pickPositive 0 (fieldsOf proposal names)
  · simp [positive]
  · cases same with
    | true => by_cases zero : validated = 0 <;> simp [positive, zero]
    | false => by_cases zero : sent = 0 <;> simp [positive, zero]

/-- The remembered price is the sent one exactly when it is kept. -/
theorem rememberedPrice_iff {b : BuiltOrder} {final : ValidationInputs}
    (adopted : final = if unchanged b.order b.validation.proposal then b.validation
      else adopt b.order b.validation) :
    rememberedPrice b.proposal final = b.order.price.value ↔
      PriceKept (unchanged b.order b.validation.proposal)
        (quotedPrice b.proposal b.validation.marketInfo) b.validation.proposal.entryPrice
        b.order.price.value := by
  rw [rememberedPrice_eq, adopted, PriceKept]
  cases unchanged b.order b.validation.proposal with
  | true => by_cases positive : 0 < b.validation.proposal.entryPrice <;> simp [positive]
  | false =>
      by_cases positive : 0 < b.order.price.value
      · simp [adopt, positive, not_le.mpr positive]
      · simp [adopt, positive, not_lt.mp positive]

/-- The numbers with which an order goes on are the validated ones or its own. -/
theorem numbers_of_adopted {b : BuiltOrder} {final : ValidationInputs}
    (adopted : final = if unchanged b.order b.validation.proposal then b.validation
      else adopt b.order b.validation) :
    final.proposal.stopLoss = (if unchanged b.order b.validation.proposal then
        b.validation.proposal.stopLoss else b.order.sl.value) ∧
      final.proposal.takeProfit = (if unchanged b.order b.validation.proposal then
        b.validation.proposal.takeProfit else b.order.tp.value) ∧
      final.proposal.size = (if unchanged b.order b.validation.proposal then
        b.validation.proposal.size else b.order.volume.value) := by
  rw [adopted]
  cases unchanged b.order b.validation.proposal
  · exact ⟨rfl, rfl, rfl⟩
  · exact ⟨rfl, rfl, rfl⟩

/-- A positive price is remembered when the validated, the sent or the quoted one is
positive. -/
theorem rememberedPrice_pos_iff {b : BuiltOrder} {final : ValidationInputs}
    (adopted : final = if unchanged b.order b.validation.proposal then b.validation
      else adopt b.order b.validation) :
    0 < rememberedPrice b.proposal final ↔
      0 < (if unchanged b.order b.validation.proposal then b.validation.proposal.entryPrice
        else b.order.price.value) ∨
      0 < quotedPrice b.proposal b.validation.marketInfo := by
  rw [rememberedPrice_eq, adopted]
  cases unchanged b.order b.validation.proposal with
  | true => by_cases positive : 0 < b.validation.proposal.entryPrice <;> simp [positive]
  | false => by_cases positive : 0 < b.order.price.value <;> simp [adopt, positive]

/-! ## The cycle of a fill -/

section Entered

variable {config : PipelineConfig} {inputs : CycleInputs} {cycle : DecisionCycle}

theorem entered_result (proposal : Record) (validation : ValidationInputs) (ticket : Val)
    (reason : String) :
    (entered config inputs proposal validation ticket reason cycle).result = cycle.result := by
  unfold entered DecisionCycle.markSignal
  split <;> rfl

theorem entered_lastEntries (proposal : Record) (validation : ValidationInputs) (ticket : Val)
    (reason : String) :
    (entered config inputs proposal validation ticket reason cycle).state.lastEntries =
      recordEntry inputs proposal validation cycle.state.lastEntries := by
  unfold entered DecisionCycle.markSignal
  split <;> rfl

theorem recordEntry_eq (inputs : CycleInputs) (ledger : Bool) (decision : String)
    (proposal : Record) (validation : ValidationInputs) (ticket : Val)
    (lastEntries : Dict String LastEntry) :
    recordEntry inputs proposal validation lastEntries =
      match (entryBooks inputs ledger decision proposal validation ticket).lastEntryPrice with
      | none => lastEntries
      | some price => lastEntries.set (Text.upper inputs.symbol) ⟨price, inputs.clock.entered⟩ := by
  unfold recordEntry entryBooks
  dsimp only
  by_cases unrecorded : Text.upper inputs.symbol = "" ∨ rememberedPrice proposal validation ≤ 0
  · rw [if_pos unrecorded]
    exact if_pos unrecorded
  · rw [if_neg unrecorded]
    exact if_neg unrecorded

end Entered

section Filled

variable {config : PipelineConfig} {inputs : CycleInputs} {state : PipelineState}
  {b : BuiltOrder} {final : ValidationInputs} {engine : Engine} {reply : ExecutionReply}

/-- What is written down of a filled order is that order exactly when the raw proposal, the
validated copy and the order agree in it. -/
theorem books_match_iff (filled : Filled config inputs state b final engine reply)
    (ledger : Bool) :
    (entryBooks inputs ledger b.cycle.result.decision b.proposal final reply.ticket).Match
        (approve inputs b.order) ↔
      KeepsOrder inputs ledger b reply.ticket := by
  have adopted := eq_of_revalidated filled.word
  have price := rememberedPrice_iff adopted
  have stop := rememberedNumber_iff inputs b.proposal ["stop_loss", "sl"]
    (unchanged b.order b.validation.proposal) b.validation.proposal.stopLoss b.order.sl.value
  have target := rememberedNumber_iff inputs b.proposal ["take_profit", "tp"]
    (unchanged b.order b.validation.proposal) b.validation.proposal.takeProfit b.order.tp.value
  have volume := rememberedNumber_iff inputs b.proposal ["size", "volume"]
    (unchanged b.order b.validation.proposal) b.validation.proposal.size b.order.volume.value
  have recorded := rememberedPrice_pos_iff adopted
  rcases numbers_of_adopted adopted with ⟨sl, tp, size⟩
  rw [← sl] at stop
  rw [← tp] at target
  rw [← size] at volume
  constructor
  · rintro ⟨last, context, trade⟩
    simp only [entryBooks, Option.mem_ite_none_left, Option.mem_some_iff] at last context trade
    constructor
    · dsimp only
      rintro (ticketed | ⟨named, positive⟩)
      · exact price.mp (context _ ⟨ticketed, rfl⟩).1
      · exact price.mp (last _ ⟨not_or.mpr ⟨named, not_le.mpr (recorded.mpr positive)⟩, rfl⟩)
    · exact fun ticketed => stop.mp (context _ ⟨ticketed, rfl⟩).2.1
    · exact fun ticketed => target.mp (context _ ⟨ticketed, rfl⟩).2.2
    · intro ticketed wired
      exact volume.mp (trade _ ⟨by simp [ticketed, wired], rfl⟩).2.2.2
  · intro keeps
    constructor
    · intro given written
      simp only [entryBooks, Option.mem_ite_none_left, Option.mem_some_iff, not_or, not_le]
        at written
      rcases written with ⟨⟨named, positive⟩, rfl⟩
      exact price.mpr (keeps.price (.inr ⟨named, recorded.mp positive⟩))
    · intro given written
      simp only [entryBooks, Option.mem_ite_none_left, Option.mem_some_iff] at written
      rcases written with ⟨ticketed, rfl⟩
      exact ⟨price.mpr (keeps.price (.inl ticketed)), stop.mpr (keeps.stopLoss ticketed),
        target.mpr (keeps.takeProfit ticketed)⟩
    · intro given written
      simp only [entryBooks, Option.mem_ite_none_left, Option.mem_some_iff, not_or,
        Bool.not_eq_false] at written
      rcases written with ⟨⟨ticketed, wired⟩, rfl⟩
      exact ⟨price.mpr (keeps.price (.inl ticketed)), stop.mpr (keeps.stopLoss ticketed),
        target.mpr (keeps.takeProfit ticketed), volume.mpr (keeps.volume ticketed wired)⟩

/-- The cycle of a filled order: the order alone has been sent, the fill is its result, and
the price is kept for the cooldown. -/
theorem run_of_filled (filled : Filled config inputs state b final engine reply) (ledger : Bool) :
    (run config inputs state).cycle.dispatches = [.single (approve inputs b.order)] ∧
      (run config inputs state).cycle.result.executionResult = some reply ∧
      (run config inputs state).cycle.state.lastEntries =
        match (entryBooks inputs ledger b.cycle.result.decision b.proposal final
          reply.ticket).lastEntryPrice with
        | none => b.cycle.state.lastEntries
        | some price => b.cycle.state.lastEntries.set (Text.upper inputs.symbol)
            ⟨price, inputs.clock.entered⟩ := by
  have ready : (EaBot.Orchestration.built config inputs state).Satisfies Quiet
      (Ready config inputs) := built_ready state
  rw [filled.built] at ready
  have silent : b.cycle.dispatches = [] := ready.silent
  rw [run_eq_built, filled.built, Stage.proceed_bind, revalidateFinalOrder_of_ok filled.word,
    Stage.proceed_bind]
  simp only [Stage.outcome, dispatchOrder, filled.route, dispatchSingle, filled.sent,
    filled.success, if_true]
  refine ⟨?_, ?_, ?_⟩
  · refine (entered_dispatches _ _ _ _).trans ?_
    simp [DecisionCycle.addStage, silent]
  · exact congrArg PipelineResult.executionResult (entered_result _ _ _ _)
  · refine (entered_lastEntries _ _ _ _).trans ?_
    exact recordEntry_eq inputs ledger b.cycle.result.decision b.proposal final reply.ticket _

/-- An order that the only terminal is sent and executes is a filled one. -/
theorem filled_of_sent {order : OrderRequest} (route : inputs.route = some (.engine engine))
    (sent : .single order ∈ (run config inputs state).cycle.dispatches)
    (answered : engine.executeOrder order = .ok reply) (success : reply.success = true) :
    ∃ b final, Filled config inputs state b final engine reply ∧
      order = approve inputs b.order := by
  rcases of_dispatched sent with ⟨b, final, found, ready, word, way⟩
  rcases single_of_sends way with ⟨rfl, other, taken, alone⟩
  have engines : some b.route = some (.engine engine) := ready.route.symm.trans route
  rw [taken] at engines
  cases engines
  rw [answered] at alone
  exact ⟨b, final, ⟨found, word, taken, alone, success⟩, rfl⟩

end Filled

namespace Sample

/-- The reply to an order that has become position seven. -/
def fillReply : ExecutionReply :=
  ⟨true, .int 7, .int 0, .str ""⟩

/-- The engine of a terminal that fills every order. -/
def fillingEngine : Engine :=
  ⟨fun _ => .ok fillReply, none⟩

/-- An event with a volume and a stop loss of its own.  The builder makes an order of one
hundredth of a lot of it, with the stop loss at one. -/
def normalisedEntry (size stopLoss : Number) : CycleInputs :=
  let proposal := (entryProposal.set "size" (.num size)).set "stop_loss" (.num stopLoss)
  { reversingBuilder with
    supervisor := fun _ => .ok
      ⟨some proposal, none, .str "EURUSD", .none, .none, .str "BULLISH",
        .num ⟨9 / 10, "0.9"⟩, .str "", ""⟩
    orderBuilder := fun _ _ => .ok { sellOrder with orderType := "BUY" }
    executionEngine := some fillingEngine }

theorem filled_normalisedEntry (size stopLoss : Number)
    (sent : "BUY" ∈ (run pipelineConfig (normalisedEntry size stopLoss)
      pipelineState).cycle.dispatches.filterMap orderTypeOf) :
    ∃ b final, Filled pipelineConfig (normalisedEntry size stopLoss) pipelineState b final
      fillingEngine fillReply := by
  rcases List.mem_filterMap.mp sent with ⟨dispatch, dispatched, buys⟩
  cases dispatch with
  | single order =>
      have route : (normalisedEntry size stopLoss).route = some (.engine fillingEngine) := rfl
      rcases filled_of_sent route dispatched rfl rfl with ⟨b, final, filled, -⟩
      exact ⟨b, final, filled⟩
  | terminals order riskPrice tpPrice => cases buys
  | accounts signal raw => cases buys

end Sample

/-- The proposed levels and volume are written down of the order that carries them. -/
theorem carried_numbers_remembered :
    ∃ b final, Filled Sample.pipelineConfig
        (Sample.normalisedEntry ⟨1 / 100, "0.01"⟩ ⟨1, "1.0"⟩) Sample.pipelineState b final
        Sample.fillingEngine Sample.fillReply ∧
      (entryBooks (Sample.normalisedEntry ⟨1 / 100, "0.01"⟩ ⟨1, "1.0"⟩) true
        b.cycle.result.decision b.proposal final Sample.fillReply.ticket).Match
          (approve (Sample.normalisedEntry ⟨1 / 100, "0.01"⟩ ⟨1, "1.0"⟩) b.order) := by
  obtain ⟨b, final, filled⟩ :=
    Sample.filled_normalisedEntry ⟨1 / 100, "0.01"⟩ ⟨1, "1.0"⟩ (by decide +kernel)
  refine ⟨b, final, filled, (books_match_iff filled true).mpr ?_⟩
  have facts : (built Sample.pipelineConfig
      (Sample.normalisedEntry ⟨1 / 100, "0.01"⟩ ⟨1, "1.0"⟩)
      Sample.pipelineState).Satisfies (fun _ => False) (fun b =>
        (unchanged b.order b.validation.proposal = true ∧
          b.validation.proposal.entryPrice = 11 / 10 ∧ b.order.price.value = 11 / 10) ∧
        (pickPositive 0 (fieldsOf b.proposal ["stop_loss", "sl"]) = 1 ∧
          b.order.sl.value = 1) ∧
        (pickPositive 0 (fieldsOf b.proposal ["take_profit", "tp"]) = 13 / 10 ∧
          b.order.tp.value = 13 / 10) ∧
        (pickPositive 0 (fieldsOf b.proposal ["size", "volume"]) = 1 / 100 ∧
          b.order.volume.value = 1 / 100)) := by
    decide +kernel
  obtain ⟨⟨same, validated, price⟩, ⟨stop, sl⟩, ⟨target, tp⟩, size, volume⟩ :=
    facts.of_proceed filled.built
  constructor
  · simp [PriceKept, same, validated, price]
  · simp [NumberKept, stop, sl]
  · simp [NumberKept, target, tp]
  · simp [NumberKept, size, volume]

/-- The builder rounds the proposed volume, the gate approves the rounded order, and the
ledger has the proposed volume. -/
theorem proposed_volume_remembered :
    ∃ b final, Filled Sample.pipelineConfig
        (Sample.normalisedEntry ⟨3 / 200, "0.015"⟩ ⟨1, "1.0"⟩) Sample.pipelineState b final
        Sample.fillingEngine Sample.fillReply ∧
      ¬(entryBooks (Sample.normalisedEntry ⟨3 / 200, "0.015"⟩ ⟨1, "1.0"⟩) true
        b.cycle.result.decision b.proposal final Sample.fillReply.ticket).Match
          (approve (Sample.normalisedEntry ⟨3 / 200, "0.015"⟩ ⟨1, "1.0"⟩) b.order) := by
  obtain ⟨b, final, filled⟩ :=
    Sample.filled_normalisedEntry ⟨3 / 200, "0.015"⟩ ⟨1, "1.0"⟩ (by decide +kernel)
  refine ⟨b, final, filled, fun books => ?_⟩
  have facts : (built Sample.pipelineConfig
      (Sample.normalisedEntry ⟨3 / 200, "0.015"⟩ ⟨1, "1.0"⟩)
      Sample.pipelineState).Satisfies (fun _ => False) (fun b =>
        pickPositive 0 (fieldsOf b.proposal ["size", "volume"]) = 3 / 200 ∧
          b.order.volume.value = 1 / 100) := by
    decide +kernel
  rcases facts.of_proceed filled.built with ⟨named, sent⟩
  rcases books.trade _ rfl with ⟨-, -, -, volume⟩
  have remembered : rememberedVolume (Sample.normalisedEntry ⟨3 / 200, "0.015"⟩ ⟨1, "1.0"⟩)
      b.proposal final = 3 / 200 := by
    rw [rememberedVolume, rememberedNumber_eq, named]
    simp
  have different : (3 / 200 : ℚ) = 1 / 100 := remembered.symm.trans (volume.trans sent)
  norm_num at different

end EaBot.Orchestration
