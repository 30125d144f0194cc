import EaBot.Orchestration.AccountContext
import EaBot.Orchestration.GatedCycle
import EaBot.Orchestration.SentOrder

/-!
# A cycle whose book could not be read

The provider reads the account, the open positions and the quote.  A failed read of the
positions shows an empty book, which holds back nothing.  The cycle goes on from there as it
does with the true book, as long as the true book leaves room in the limits of the gate; the
guard of the one-entry policy is permissive when it sees no positions.
-/

namespace EaBot.Orchestration

open EaBot.Execution EaBot.Foundation EaBot.Mt5 EaBot.Risk TradingPipeline

/-! ## The same cycle on two books -/

/-- A cycle apart from what the provider reads.  The answer of the supervisor is given, and
neither the completion of the proposal nor the zone gate looks at the open positions. -/
structure CyclePlan where
  inputs : CycleInputs
  answer : Except String Analysis
  complete : GateProposal → Record → Record → GateProposal
  zoneEntryGate : Option (Record → GateProposal → Record → Option ZonePlan × String)

/-- The inputs of the cycle with what the provider says. -/
def CyclePlan.onAccount (plan : CyclePlan) (gate : RiskGate) (account : AccountContext) :
    CycleInputs :=
  { plan.inputs with
    context := plan.inputs.context.withAccount account
    supervisor := fun _ => plan.answer
    complete := fun validation =>
      plan.complete validation.proposal validation.accountState validation.marketInfo
    zoneEntryGate :=
      match plan.zoneEntryGate with
      | none => none
      | some zone =>
          some fun proposal validation =>
            zone proposal validation.proposal validation.marketInfo }.withGate gate

/-- What the cycle sends. -/
def CyclePlan.sent (plan : CyclePlan) (config : PipelineConfig) (gate : RiskGate)
    (state : PipelineState) (account : AccountContext) : List Dispatch :=
  (run config (plan.onAccount gate account) state).cycle.dispatches

/-- A read of the positions that fails: it raises, or it returns nothing. -/
def failedRead (raised : Bool) : RawRead :=
  if raised then .raised else .none

/-- What the provider says when only the read of the positions fails. -/
def unreadContext (render : ℚ → String) (reads : TerminalReads) (symbol : String)
    (raised : Bool) : AccountContext :=
  buildConnectorAccountContext render true { reads with positions := failedRead raised } symbol

/-- The positions that the provider shows for the rows of a book. -/
def shownBook (render : ℚ → String) (reads : TerminalReads) (book : List BrokerRow) :
    List Record :=
  book.map fun row =>
    enrichPosition render reads.symbolInfo (recordOfPosition render (positionOfRow row))

/-- The same context with the book. -/
def AccountContext.withBook (context : AccountContext) (book : List Record) : AccountContext :=
  { context with currentPositions := some book }

/-- What the provider would have said with the true book. -/
def bookContext (render : ℚ → String) (reads : TerminalReads) (symbol : String)
    (raised : Bool) (book : List BrokerRow) : AccountContext :=
  (unreadContext render reads symbol raised).withBook (shownBook render reads book)

/-- The inputs of the gate with the book. -/
def ValidationInputs.withBook (validation : ValidationInputs) (book : List Record) :
    ValidationInputs :=
  { validation with currentPositions := book }

theorem unreadContext_positions (render : ℚ → String) (reads : TerminalReads) (symbol : String)
    (raised : Bool) : (unreadContext render reads symbol raised).currentPositions = some [] := by
  cases raised with
  | _ => rfl

/-- A successful read gives the same context with the book, as long as the last position is
one in the requested symbol. -/
theorem bookContext_eq_read (render : ℚ → String) (reads : TerminalReads) (symbol : String)
    (raised : Bool) {book : List BrokerRow}
    (quoted : quotedSymbol symbol (book.map positionOfRow) = symbol) :
    bookContext render reads symbol raised book =
      buildConnectorAccountContext render true { reads with positions := .rows book } symbol := by
  have read : Mt5.getPositions true (.rows book) = book.map positionOfRow := rfl
  have unread : Mt5.getPositions true (failedRead raised) = [] := by
    cases raised with
    | _ => rfl
  unfold bookContext unreadContext AccountContext.withBook shownBook
    buildConnectorAccountContext
  simp only [read, unread, quoted, List.map_map, Function.comp_def]
  rfl

/-! ## The gate on two books -/

section Gate

variable {gate : RiskGate} {proposal account marketInfo : Record} {book : List Record}
  {checks : GateChecks}

/-- The book leaves room in the two limits on open positions. -/
structure LeavesRoom (gate : RiskGate) (proposal account : Record) (book : List Record)
    (marketInfo : Record) : Prop where
  count : (book.length : Int) < gate.engine.maxPositions
  exposure : gate.exposureCheck proposal account book marketInfo = .ok true

/-- What the gate says to an approved proposal does not depend on a book that leaves room. -/
theorem validateProposal_of_room (room : LeavesRoom gate proposal account book marketInfo)
    (validated : gate.validateProposal proposal account [] marketInfo = .ok checks)
    (approved : checks.approved = true) :
    gate.validateProposal proposal account book marketInfo = .ok checks := by
  have answers := RiskGate.validateProposal_eq_ok_iff.mp validated
  apply RiskGate.validateProposal_eq_ok_iff.mpr
  have passed := approved
  simp only [GateChecks.approved, GateChecks.named, List.all_cons, Bool.and_eq_true] at passed
  obtain ⟨-, -, maxPositions, maxExposure, -⟩ := passed
  exact
    { answers with
      maxPositions := by rw [maxPositions, decide_eq_true room.count]
      maxExposure := by rw [maxExposure, room.exposure] }

end Gate

/-! ## The cycle on two books -/

section Cycle

variable {config : PipelineConfig} {plan : CyclePlan} {gate : RiskGate} {state : PipelineState}
  {account : AccountContext} {book : List Record}

/-- The one-entry policy is off, or the book shows no position of ours. -/
def OneEntryPasses (config : PipelineConfig) (book : List Record) : Prop :=
  config.singleEntryPolicy = true → ownPositionTicket config.entryMagic book = none

/-- The book leaves room for the proposal and, where the gate is asked again, for the final
order. -/
structure RoomForOrder (gate : RiskGate) (render : ℚ → String) (book : List Record)
    (b : BuiltOrder) : Prop where
  proposal : LeavesRoom gate (b.validation.proposal.record render) b.validation.accountState book
    b.validation.marketInfo
  order : unchanged b.order b.validation.proposal = false →
    LeavesRoom gate ((finalProposal b.order b.validation.proposal).record render)
      b.validation.accountState book b.validation.marketInfo

theorem blockingTicket_withBook (passes : OneEntryPasses config book)
    (validation : ValidationInputs) : blockingTicket config (validation.withBook book) = none := by
  unfold blockingTicket
  split
  · rename_i policy
    exact passes policy
  · rfl

/-- What the gate is asked on is the same but for the book. -/
theorem readInputs_withBook {proposal : Record} {cycle : DecisionCycle}
    {validation : ValidationInputs}
    (read : readInputs (plan.onAccount gate account) proposal cycle = .proceed validation) :
    readInputs (plan.onAccount gate (account.withBook book)) proposal cycle =
      .proceed (validation.withBook book) := by
  unfold readInputs buildValidationInputs at read ⊢
  have normalised : normaliseProposal proposal
      (plan.onAccount gate (account.withBook book)).context =
        normaliseProposal proposal (plan.onAccount gate account).context := rfl
  rw [normalised]
  cases found : normaliseProposal proposal (plan.onAccount gate account).context with
  | error raised =>
      rw [found] at read
      cases read
  | ok norm =>
      rw [found] at read
      cases read
      rfl

theorem asked_withBook {a : AskedProposal}
    (found : asked config (plan.onAccount gate account) state = .proceed a) :
    asked config (plan.onAccount gate (account.withBook book)) state =
      .proceed { a with validation := a.validation.withBook book } := by
  unfold asked at found ⊢
  have convened : convene config (plan.onAccount gate (account.withBook book)) state =
      convene config (plan.onAccount gate account) state := rfl
  rw [convened]
  obtain ⟨⟨analysis, proposal, cycle⟩, start, found⟩ := Stage.of_bind_eq_proceed found
  rw [start, Stage.proceed_bind]
  obtain ⟨cycle', filtered, found⟩ := Stage.of_bind_eq_proceed found
  obtain ⟨validation, read, found⟩ := Stage.of_bind_eq_proceed found
  cases found
  have opened : openSignal config (plan.onAccount gate (account.withBook book)) proposal cycle =
      openSignal config (plan.onAccount gate account) proposal cycle := rfl
  have vetoed : htfFilter config (plan.onAccount gate (account.withBook book)) proposal
        (openSignal config (plan.onAccount gate account) proposal cycle) =
      htfFilter config (plan.onAccount gate account) proposal
        (openSignal config (plan.onAccount gate account) proposal cycle) := rfl
  dsimp only at filtered read ⊢
  rw [opened, vetoed, filtered, Stage.proceed_bind, readInputs_withBook read]
  rfl

/-- The gate approves on the book what it has approved without one. -/
theorem riskGate_withBook {review : GateReview} (validation : ValidationInputs)
    {decision : GateDecision}
    (room : LeavesRoom gate (validation.proposal.record plan.inputs.render)
      validation.accountState book validation.marketInfo)
    (unread : validation.currentPositions = [])
    (answered : (plan.onAccount gate account).riskGate review validation = .ok decision)
    (approved : decision.approved = true) :
    (plan.onAccount gate (account.withBook book)).riskGate review (validation.withBook book) =
      .ok decision := by
  have answer : (gate.validateProposal (validation.proposal.record plan.inputs.render)
      validation.accountState [] validation.marketInfo).map GateDecision.ofChecks =
        .ok decision := by
    rw [← unread]
    exact answered
  cases validated : gate.validateProposal (validation.proposal.record plan.inputs.render)
      validation.accountState [] validation.marketInfo with
  | error raised =>
      rw [validated] at answer
      cases answer
  | ok checks =>
      rw [validated] at answer
      cases answer
      have again := validateProposal_of_room room validated approved
      exact congrArg (Except.map GateDecision.ofChecks) again

/-- The cycle that passes the gate without a book passes it with the book. -/
theorem passRiskGate_withBook {validation : ValidationInputs} {cycle next : DecisionCycle}
    (room : LeavesRoom gate (validation.proposal.record plan.inputs.render)
      validation.accountState book validation.marketInfo)
    (unread : validation.currentPositions = [])
    (passed : passRiskGate config (plan.onAccount gate account) validation cycle =
      .proceed next) :
    passRiskGate config (plan.onAccount gate (account.withBook book))
      (validation.withBook book) cycle = .proceed next := by
  unfold passRiskGate at passed ⊢
  cases answered : (plan.onAccount gate account).riskGate .proposal validation with
  | error raised =>
      rw [answered] at passed
      cases passed
  | ok decision =>
      rw [answered] at passed
      cases approved : decision.approved with
      | false =>
          simp only [approved, Bool.false_eq_true, if_false] at passed
          cases passed
      | true =>
          rw [riskGate_withBook validation room unread answered approved]
          simp only [approved, if_true] at passed ⊢
          exact passed

/-- The one-entry policy lets the cycle pass as it is. -/
theorem singleEntry_withBook {validation : ValidationInputs} {cycle next : DecisionCycle}
    (passes : OneEntryPasses config book)
    (passed : singleEntry config (plan.onAccount gate account) validation cycle =
      .proceed next) :
    singleEntry config (plan.onAccount gate (account.withBook book)) (validation.withBook book)
      cycle = .proceed next := by
  unfold singleEntry at passed ⊢
  rw [blockingTicket_withBook passes]
  split at passed
  · exact passed
  · cases passed

theorem zoneEntry_withBook (proposal : Record) (validation : ValidationInputs)
    (cycle : DecisionCycle) :
    zoneEntry config (plan.onAccount gate (account.withBook book)) proposal
        (validation.withBook book) cycle =
      zoneEntry config (plan.onAccount gate account) proposal validation cycle := by
  have answer : zoneAnswer (plan.onAccount gate (account.withBook book)) proposal
      (validation.withBook book) = zoneAnswer (plan.onAccount gate account) proposal
        validation := by
    unfold zoneAnswer CyclePlan.onAccount CycleInputs.withGate
    cases plan.zoneEntryGate with
    | none => rfl
    | some zone => rfl
  unfold zoneEntry
  rw [answer]
  rfl

/-- Gates and guards let the cycle pass on the book. -/
theorem clear_withBook {proposal : Record} {validation : ValidationInputs}
    {cycle : DecisionCycle} {next : Record × DecisionCycle}
    (room : LeavesRoom gate (validation.proposal.record plan.inputs.render)
      validation.accountState book validation.marketInfo)
    (passes : OneEntryPasses config book) (unread : validation.currentPositions = [])
    (cleared : clear config (plan.onAccount gate account) proposal validation cycle =
      .proceed next) :
    clear config (plan.onAccount gate (account.withBook book)) proposal
      (validation.withBook book) cycle = .proceed next := by
  unfold clear at cleared ⊢
  obtain ⟨approved, asked, cleared⟩ := Stage.of_bind_eq_proceed cleared
  obtain ⟨healthy, dependency, cleared⟩ := Stage.of_bind_eq_proceed cleared
  obtain ⟨matched, reconciled, cleared⟩ := Stage.of_bind_eq_proceed cleared
  obtain ⟨recovered, ready, cleared⟩ := Stage.of_bind_eq_proceed cleared
  obtain ⟨alone, single, cleared⟩ := Stage.of_bind_eq_proceed cleared
  obtain ⟨rested, waited, zoned⟩ := Stage.of_bind_eq_proceed cleared
  rw [passRiskGate_withBook room unread asked, Stage.proceed_bind]
  have dependency' : passDependencyGuard config (plan.onAccount gate (account.withBook book))
      approved = .proceed healthy := dependency
  have reconciled' : passReconciliationGuard config
      (plan.onAccount gate (account.withBook book)) healthy = .proceed matched := reconciled
  have ready' : passReadinessGuard config (plan.onAccount gate (account.withBook book))
      matched = .proceed recovered := ready
  have waited' : entryGuard config (plan.onAccount gate (account.withBook book))
      (validation.withBook book) alone = .proceed rested := waited
  rw [dependency', Stage.proceed_bind, reconciled', Stage.proceed_bind, ready',
    Stage.proceed_bind, singleEntry_withBook passes single, Stage.proceed_bind, waited',
    Stage.proceed_bind, zoneEntry_withBook]
  exact zoned

/-- The cycle builds the same order on the book. -/
theorem built_withBook {b : BuiltOrder} (unread : account.currentPositions = some [])
    (passes : OneEntryPasses config book)
    (found : built config (plan.onAccount gate account) state = .proceed b)
    (room : LeavesRoom gate (b.validation.proposal.record plan.inputs.render)
      b.validation.accountState book b.validation.marketInfo) :
    built config (plan.onAccount gate (account.withBook book)) state =
      .proceed { b with validation := b.validation.withBook book } := by
  have ready : Ready config (plan.onAccount gate account) b :=
    (built_ready state).of_proceed found
  have empty : b.validation.currentPositions = [] := by
    rw [ready.positions]
    unfold CyclePlan.onAccount CycleInputs.withGate AnalysisContext.withAccount
    rw [unread]
    rfl
  unfold built at found ⊢
  obtain ⟨a, asks, found⟩ := Stage.of_bind_eq_proceed found
  obtain ⟨⟨proposal, cycle⟩, clears, found⟩ := Stage.of_bind_eq_proceed found
  obtain ⟨route, ways, found⟩ := Stage.of_bind_eq_proceed found
  obtain ⟨⟨order, cycle'⟩, builds, found⟩ := Stage.of_bind_eq_proceed found
  cases found
  rw [asked_withBook asks, Stage.proceed_bind]
  dsimp only at room empty ⊢
  rw [clear_withBook room passes empty clears, Stage.proceed_bind]
  have ways' : findRoute (plan.onAccount gate (account.withBook book)) cycle =
      .proceed route := ways
  have builds' : buildOrder (plan.onAccount gate (account.withBook book)) proposal
      (a.validation.withBook book) cycle = .proceed (order, cycle') := builds
  dsimp only
  rw [ways', Stage.proceed_bind, builds', Stage.proceed_bind]
  rfl

/-- The gate lets the same order pass on the book. -/
theorem revalidated_withBook {b : BuiltOrder} {final : ValidationInputs}
    (unread : b.validation.currentPositions = [])
    (room : RoomForOrder gate plan.inputs.render book b)
    (word : revalidated (plan.onAccount gate account) b.order b.validation = .ok final) :
    revalidated (plan.onAccount gate (account.withBook book)) b.order
      (b.validation.withBook book) = .ok (final.withBook book) := by
  have same : (b.validation.withBook book).proposal = b.validation.proposal := rfl
  unfold revalidated finalVerdict at word ⊢
  rw [same]
  cases changed : unchanged b.order b.validation.proposal with
  | true =>
      simp only [changed, if_true] at word ⊢
      cases word
      rfl
  | false =>
      simp only [changed, Bool.false_eq_true, if_false] at word ⊢
      cases answered : (plan.onAccount gate account).riskGate .finalOrder
          { b.validation with proposal := finalProposal b.order b.validation.proposal } with
      | error raised =>
          rw [answered] at word
          cases word
      | ok decision =>
          rw [answered] at word
          cases approved : decision.approved with
          | false =>
              simp only [approved, Bool.false_eq_true, if_false] at word
              cases word
          | true =>
              simp only [approved, if_true] at word
              cases word
              have again := riskGate_withBook
                { b.validation with proposal := finalProposal b.order b.validation.proposal }
                (room.order changed) unread answered approved
              have word : (plan.onAccount gate (account.withBook book)).riskGate .finalOrder
                  { b.validation.withBook book with
                    proposal := finalProposal b.order b.validation.proposal } =
                      .ok decision := again
              rw [word]
              simp only [approved, if_true]
              rfl

theorem sendsFor_withBook (b : BuiltOrder) (final : ValidationInputs) :
    sendsFor config (plan.onAccount gate (account.withBook book))
        { b with validation := b.validation.withBook book } (final.withBook book) =
      sendsFor config (plan.onAccount gate account) b final := by
  unfold sendsFor sendsOn
  cases b.route with
  | coordinator fanOut => rfl
  | engine engine => rfl

/-- An order that is sent without a book is sent with a book that leaves room and shows no
position of ours. -/
theorem sent_withBook {dispatch : Dispatch} (unread : account.currentPositions = some [])
    (passes : OneEntryPasses config book)
    (room : ∀ b, built config (plan.onAccount gate account) state = .proceed b →
      RoomForOrder gate plan.inputs.render book b)
    (sent : dispatch ∈ plan.sent config gate state account) :
    dispatch ∈ plan.sent config gate state (account.withBook book) := by
  obtain ⟨b, final, found, ready, word, way⟩ := of_dispatched sent
  have empty : b.validation.currentPositions = [] := by
    rw [ready.positions]
    unfold CyclePlan.onAccount CycleInputs.withGate AnalysisContext.withAccount
    rw [unread]
    rfl
  have roomy := room b found
  unfold CyclePlan.sent
  rw [run_dispatches, sends, built_withBook unread passes found roomy.proposal]
  simp only [revalidated_withBook empty roomy word, sendsFor_withBook]
  exact way

/-- Nothing is sent with a book that shows a position of ours. -/
theorem oneEntryPasses_of_sent {dispatch : Dispatch}
    (sent : dispatch ∈ plan.sent config gate state (account.withBook book)) :
    OneEntryPasses config book := by
  intro policy
  exact (run_justified config _ state dispatch sent).single policy

end Cycle

/-- What is sent after a failed read would have been sent with the true book. -/
def NeverLoosened (plan : CyclePlan) (config : PipelineConfig) (gate : RiskGate)
    (state : PipelineState) (unread read : AccountContext) : Prop :=
  ∀ dispatch ∈ plan.sent config gate state unread, dispatch ∈ plan.sent config gate state read

/-- As long as the true book leaves room in the limits of the gate, what is sent after a failed
read would have been sent with the true book exactly when the one-entry policy lets that book
pass. -/
theorem unread_book_loosens_one_entry_only (config : PipelineConfig) (plan : CyclePlan)
    (gate : RiskGate) (state : PipelineState) (render : ℚ → String) (reads : TerminalReads)
    (symbol : String) (raised : Bool) (book : List BrokerRow)
    (room : ∀ b, built config (plan.onAccount gate (unreadContext render reads symbol raised))
      state = .proceed b → RoomForOrder gate plan.inputs.render (shownBook render reads book) b)
    (dispatch : Dispatch)
    (sent : dispatch ∈ plan.sent config gate state (unreadContext render reads symbol raised)) :
    dispatch ∈ plan.sent config gate state (bookContext render reads symbol raised book) ↔
      OneEntryPasses config (shownBook render reads book) := by
  constructor
  · exact oneEntryPasses_of_sent
  · intro passes
    exact sent_withBook (unreadContext_positions render reads symbol raised) passes room sent

namespace Sample

/-- An event with a proposal to buy, and a builder that makes the order of it. -/
def buyPlan : CyclePlan where
  inputs :=
    { gateRaises with
      orderBuilder := fun _ _ => .ok { sellOrder with orderType := "BUY" }
      executionEngine := some ⟨fun _ => .ok ⟨true, .int 7, .int 0, .str ""⟩, none⟩ }
  answer := .ok
    ⟨some entryProposal, none, .str "EURUSD", .none, .none, .str "BULLISH",
      .num ⟨9 / 10, "0.9"⟩, .str "", ""⟩
  complete := fun proposal _ _ => proposal
  zoneEntryGate := none

/-- The account and the quote are read. -/
def otherReads : TerminalReads where
  account := some ⟨100000, 100000, 0, 100000, 0⟩
  positions := .none
  symbolInfo := fun _ => some ⟨1 / 100000, 100000, 1 / 100000, 1, 1 / 100, 1 / 100, 100⟩
  tick := fun _ => some ⟨10999 / 10000, 11 / 10⟩

/-- A position with a magic number. -/
def openRow (magic : Option Int) : BrokerRow :=
  ⟨9, "EURUSD", 0, 1 / 100, 11 / 10, 11 / 10, 0, 0, magic, 0, 0⟩

/-- The context of a read that raises. -/
def unread : AccountContext :=
  unreadContext (fun _ => "") otherReads "EURUSD" true

/-- The context with a book. -/
def withRows (book : List BrokerRow) : AccountContext :=
  bookContext (fun _ => "") otherReads "EURUSD" true book

/-- What a cycle on a context sends. -/
def sentOn (account : AccountContext) : List Dispatch :=
  buyPlan.sent pipelineConfig Risk.Sample.riskGate pipelineState account

end Sample

/-- With a foreign position that was not read, the order that is sent would have been sent. -/
theorem unread_foreign_position_keeps_order :
    (Sample.sentOn Sample.unread).length = 1 ∧
      ∀ dispatch ∈ Sample.sentOn Sample.unread,
        dispatch ∈ Sample.sentOn (Sample.withRows [Sample.openRow none]) := by
  constructor
  · decide +kernel
  · intro dispatch sent
    have facts : (built Sample.pipelineConfig
        (Sample.buyPlan.onAccount Risk.Sample.riskGate Sample.unread)
        Sample.pipelineState).Satisfies (fun _ => False) (fun b =>
          (Risk.Sample.riskGate.exposureCheck (b.validation.proposal.record fun _ => "")
            b.validation.accountState
              (shownBook (fun _ => "") Sample.otherReads [Sample.openRow none])
                b.validation.marketInfo).toOption = some true ∧
          unchanged b.order b.validation.proposal = true) := by
      decide +kernel
    apply (unread_book_loosens_one_entry_only Sample.pipelineConfig Sample.buyPlan
      Risk.Sample.riskGate Sample.pipelineState (fun _ => "") Sample.otherReads "EURUSD" true
      [Sample.openRow none] ?_ dispatch sent).mpr
    · intro policy
      decide +kernel
    · intro b found
      obtain ⟨exposure, same⟩ := facts.of_proceed found
      constructor
      · exact ⟨by decide, ok_of_toOption exposure⟩
      · intro changed
        rw [same] at changed
        cases changed

/-- Nothing is sent with a book that holds the order back, but the order is sent without it. -/
theorem not_neverLoosened_of_held {book : List BrokerRow}
    (held : (Sample.sentOn (Sample.withRows book)).length = 0) :
    ¬ NeverLoosened Sample.buyPlan Sample.pipelineConfig Risk.Sample.riskGate
      Sample.pipelineState Sample.unread (Sample.withRows book) := by
  intro kept
  have sent : 0 < (Sample.sentOn Sample.unread).length := by
    decide +kernel
  obtain ⟨dispatch, member⟩ := List.exists_mem_of_length_pos sent
  have still : dispatch ∈ Sample.sentOn (Sample.withRows book) := kept dispatch member
  rw [List.length_eq_zero_iff.mp held] at still
  cases still

/-- A position of ours that was not read does not hold back an order. -/
theorem unread_own_position_lets_order_pass :
    ¬ NeverLoosened Sample.buyPlan Sample.pipelineConfig Risk.Sample.riskGate
      Sample.pipelineState Sample.unread (Sample.withRows [Sample.openRow (some 70000)]) := by
  apply not_neverLoosened_of_held
  decide +kernel

/-- Neither does a book that was not read and that fills the limit on open positions. -/
theorem unread_full_book_lets_order_pass :
    ¬ NeverLoosened Sample.buyPlan Sample.pipelineConfig Risk.Sample.riskGate
      Sample.pipelineState Sample.unread
        (Sample.withRows (List.replicate 5 (Sample.openRow none))) := by
  apply not_neverLoosened_of_held
  decide +kernel

end EaBot.Orchestration
