import EaBot.Foundation.Stage
import EaBot.Orchestration.DecisionCycle

/-!
# Fanning one signal out to the accounts

The coordinator gives every account its own order for one signal: it normalises the
order for the broker, asks the risk gate of the account, and sends the order.  The
ledger remembers by signal and account how the order came out, and an account whose
order has come to an end is not visited again.

What a fan-out does is kept as a list of events.  The record of an account is one
mutable object that the ledger holds, so that each of its changes is an event of the
ledger too; only an upsert also brings the status of the signal up to date.
-/

namespace EaBot.Execution

open EaBot.Foundation EaBot.Orchestration EaBot.Risk

/-! ## The ledger -/

/-- How far the order of one account has come. -/
inductive AccountStatus
  | pending
  | approved
  | rejected
  | submitting
  | submitted
  | filled
  | failed
  | reconciled
  | closed
deriving DecidableEq

namespace AccountStatus

/-- Whether the order has come to an end. -/
def terminal : AccountStatus → Bool
  | rejected | failed | filled | reconciled | closed => true
  | pending | approved | submitting | submitted => false

/-- Whether the order counts as executed. -/
def executed : AccountStatus → Bool
  | filled | submitted | reconciled | closed => true
  | pending | approved | rejected | submitting | failed => false

end AccountStatus

/-- How far a signal has come over all accounts. -/
inductive SignalStatus
  | created
  | validated
  | partiallyExecuted
  | executedAll
  | rejectedAll
  | expired
deriving DecidableEq

/-- The record of the order of one account. -/
structure AccountDispatch where
  signalId : String
  accountId : String
  terminalId : String
  environment : String
  status : AccountStatus
  reason : String
  symbol : String
  volume : ℚ
  price : ℚ
  sl : ℚ
  tp : ℚ
  ticket : Val

/-- Move the record to a status; an empty reason leaves the last one. -/
def AccountDispatch.setStatus (dispatch : AccountDispatch) (status : AccountStatus)
    (reason : String) : AccountDispatch :=
  { dispatch with
    status := status, reason := if reason = "" then dispatch.reason else reason }

/-- What the ledger knows about one signal. -/
structure SignalEntry where
  signal : CanonicalSignal
  signalStatus : SignalStatus
  accounts : Dict String AccountDispatch

namespace SignalEntry

/-- The status of a signal by the records of its accounts. -/
def rollupStatus (entry : SignalEntry) : SignalStatus :=
  let records := entry.accounts.values
  let count (select : AccountDispatch → Bool) := (records.filter select).length
  let executed := count fun record => record.status.executed
  let ended := count (fun record => record.status = .rejected) +
    count fun record => record.status = .failed
  if records.isEmpty then .validated
  else if 0 < executed then
    if executed = records.length then .executedAll else .partiallyExecuted
  else if 0 < ended then
    if ended = records.length then .rejectedAll else .partiallyExecuted
  else .validated

/-- Take over the record of an account. -/
def setAccount (entry : SignalEntry) (dispatch : AccountDispatch) : SignalEntry :=
  { entry with accounts := entry.accounts.set dispatch.accountId dispatch }

/-- Bring the status of the signal up to date. -/
def rollup (entry : SignalEntry) : SignalEntry :=
  { entry with signalStatus := entry.rollupStatus }

end SignalEntry

/-- The signals that were fanned out. -/
structure FanoutLedger where
  signals : Dict String SignalEntry

namespace FanoutLedger

/-- The ledger without signals. -/
def empty : FanoutLedger :=
  ⟨Dict.empty⟩

/-- Register a signal; one that is known stays as it is. -/
def registerSignal (ledger : FanoutLedger) (signal : CanonicalSignal) : FanoutLedger :=
  if ledger.signals.contains signal.signalId then ledger
  else ⟨ledger.signals.set signal.signalId ⟨signal, .created, Dict.empty⟩⟩

/-- The record of an account. -/
def getAccountDispatch (ledger : FanoutLedger) (signalId accountId : String) :
    Option AccountDispatch :=
  (ledger.signals.get signalId).bind fun entry => entry.accounts.get accountId

/-- Change the entry of a signal that is registered. -/
def changeEntry (ledger : FanoutLedger) (signalId : String)
    (change : SignalEntry → SignalEntry) : FanoutLedger :=
  match ledger.signals.get signalId with
  | some entry => ⟨ledger.signals.set signalId (change entry)⟩
  | none => ledger

/-- Whether the order of an account has come to an end. -/
def isTerminal (ledger : FanoutLedger) (signalId accountId : String) : Bool :=
  (ledger.getAccountDispatch signalId accountId).any fun dispatch => dispatch.status.terminal

/-- The status of a signal. -/
def signalStatus (ledger : FanoutLedger) (signalId : String) : SignalStatus :=
  match ledger.signals.get signalId with
  | some entry => entry.signalStatus
  | none => .validated

end FanoutLedger

/-! ## Proposals and events -/

/-- A proposal for one account. -/
structure AccountProposal where
  symbol : String
  orderType : String
  direction : String
  volume : ℚ
  price : ℚ
  stopLoss : ℚ
  takeProfit : ℚ
  magic : Int
  comment : String
deriving DecidableEq

namespace AccountProposal

/-- The proposal as the record that the gate and the builder read. -/
def record (render : ℚ → String) (proposal : AccountProposal) : Record :=
  let number (value : ℚ) : Val := .num ⟨value, render value⟩
  Dict.empty.update [
    ("symbol", .str proposal.symbol),
    ("order_type", .str proposal.orderType),
    ("direction", .str proposal.direction),
    ("volume", number proposal.volume),
    ("price", number proposal.price),
    ("stop_loss", number proposal.stopLoss),
    ("take_profit", number proposal.takeProfit),
    ("magic", .int proposal.magic),
    ("comment", .str proposal.comment)]

/-- The record of a proposal that was read off a final request, which names its size and
its entry price. -/
def finalRecord (render : ℚ → String) (proposal : AccountProposal) : Record :=
  let number (value : ℚ) : Val := .num ⟨value, render value⟩
  (proposal.record render).update [
    ("size", number proposal.volume), ("entry_price", number proposal.price)]

end AccountProposal

/-- What a fan-out does. -/
inductive FanoutEvent
  | registered (signal : CanonicalSignal)
  | upserted (dispatch : AccountDispatch)
  | changed (dispatch : AccountDispatch)
  | judged (accountId : String) (proposal : AccountProposal) (approved : Bool)
  | executed (dispatch : AccountDispatch) (request : OrderRequest)

/-- What an event does to the ledger. -/
def FanoutLedger.apply (ledger : FanoutLedger) : FanoutEvent → FanoutLedger
  | .registered signal => ledger.registerSignal signal
  | .upserted dispatch =>
      ledger.changeEntry dispatch.signalId fun entry => (entry.setAccount dispatch).rollup
  | .changed dispatch =>
      ledger.changeEntry dispatch.signalId fun entry => entry.setAccount dispatch
  | .judged _ _ _ => ledger
  | .executed _ _ => ledger

/-! ## What a fan-out meets -/

/-- An eligible terminal. -/
structure FanoutTarget where
  id : Val
  path : Val
  account : Record

namespace FanoutTarget

/-- The account of a target: its login or else the identifier of its terminal. -/
def accountId (target : FanoutTarget) : String :=
  let login := (target.account.get "login").getD .none
  if login ≠ .none ∧ login ≠ .str "" then login.text
  else if target.id.truthy then target.id.text
  else ""

/-- The identifier of the target's terminal. -/
def terminalId (target : FanoutTarget) : String :=
  (target.id.orElse (.str "")).text

/-- The mode of the target's account. -/
def accountMode (target : FanoutTarget) : String :=
  let mode := (target.account.get "mode").getD .none
  if mode.truthy then Text.upper mode.text else "DEMO"

end FanoutTarget

/-- The parts that the coordinator works with while it visits one target; a part that is
not configured is absent. -/
structure FanoutParts where
  attached : Except String Bool
  symbolResolver : Option (String → Except String String)
  accountStateProvider : Option (Except String Record)
  positionsProvider : Option (Except String (List Record))
  marketInfoProvider : Option (String → Except String Record)
  symbolSpecification : String → Except String SymbolSpecification
  riskGate : Option (Record → Record → List Record → Record → Except String GateDecision)
  orderBuilder : Option (Record → Record → Except String OrderRequest)
  executionEngine : Option (OrderRequest → Except String ExecutionReply)
  render : ℚ → String

namespace CanonicalFanout

/-! ## One account -/

/-- The state of the account that the gate is given. -/
def accountState (parts : FanoutParts) (target : FanoutTarget) : Record :=
  let equity := (numberOf target.account ["equity"]).toOption.getD 0
  let provided :=
    match parts.accountStateProvider with
    | some (.ok state) => state
    | _ => Dict.empty
  let setDefault (state : Record) (name : String) (value : Val) : Record :=
    if state.contains name then state else state.set name value
  let identified := ["login", "mode", "balance", "currency", "server"].foldl
    (fun state name => setDefault state name ((target.account.get name).getD .none)) provided
  setDefault identified "equity" (.num ⟨equity, parts.render equity⟩)

/-- The open positions of the account; ones that cannot be read are none. -/
def positions (parts : FanoutParts) : List Record :=
  match parts.positionsProvider with
  | some (.ok positions) => positions
  | _ => []

/-- The symbol under which the broker of the target knows the signal's symbol. -/
def resolvedSymbol (parts : FanoutParts) (signal : CanonicalSignal) : String :=
  match parts.symbolResolver with
  | some resolve =>
      match resolve signal.terms.symbol with
      | .ok symbol => if symbol = "" then signal.terms.symbol else symbol
      | .error _ => signal.terms.symbol
  | none => signal.terms.symbol

/-- The proposal before the builder has seen it. -/
def baseProposal (parts : FanoutParts) (signal : CanonicalSignal) (raw : Option RawProposal) :
    AccountProposal where
  symbol := resolvedSymbol parts signal
  orderType := signal.terms.direction
  direction := signal.terms.direction
  volume := (raw.map RawProposal.volume).getD 0
  price := signal.terms.entryReference
  stopLoss := signal.terms.initialSL
  takeProfit := signal.terms.initialTP
  magic := (raw.map RawProposal.magic).getD 70000
  comment :=
    match raw with
    | some raw => if raw.comment = "" then "EA-Bot-" ++ signal.terms.direction else raw.comment
    | none => "EA-Bot-" ++ signal.terms.direction

/-- The number unless it is zero. -/
def nonzeroOr (number fallback : ℚ) : ℚ :=
  if number = 0 then fallback else number

/-- Normalise the order for the broker of the account. -/
def normalize (parts : FanoutParts) (signal : CanonicalSignal) (raw : Option RawProposal) :
    AccountProposal :=
  let proposal := baseProposal parts signal raw
  match parts.orderBuilder with
  | none => proposal
  | some build =>
      match build (proposal.record parts.render) ((raw.map RawProposal.marketQuote).getD Dict.empty)
        with
      | .error _ => proposal
      | .ok request =>
          { proposal with
            volume := request.volume.value
            price := request.price.value
            stopLoss := nonzeroOr request.sl.value proposal.stopLoss
            takeProfit := nonzeroOr request.tp.value proposal.takeProfit }

/-- A field that is filled in when it does not count as true and the number is positive. -/
def fillPositive (render : ℚ → String) (record : Record) (name : String) (number : ℚ) :
    Record :=
  if !((record.get name).getD .none).truthy ∧ 0 < number then
    record.set name (.num ⟨number, render number⟩)
  else record

/-- Fill in what the market information leaves open from the broker's specification. -/
def augmentMarketInfo (parts : FanoutParts) (symbol : String) (marketInfo : Record) : Record :=
  let name := ((Val.str symbol).orElse (firstOf marketInfo ["symbol"])).orElse (.str "")
  if name.text = "" then marketInfo
  else
    match parts.symbolSpecification name.text with
    | .error _ => marketInfo
    | .ok spec =>
        if spec.source ≠ "broker" then marketInfo
        else
          let named :=
            if marketInfo.contains "symbol" then marketInfo
            else marketInfo.set "symbol" (.str name.text)
          fillPositive parts.render (fillPositive parts.render (fillPositive parts.render named
            "contract_size" spec.contractSize) "point_value" spec.point)
            "spread_limit" spec.spreadLimit

/-- The market information for the gate: the given one, or else the provider's. -/
def marketInfo (parts : FanoutParts) (symbol : String) (override : Record) : Record :=
  let found :=
    if override.entries.isEmpty then
      match parts.marketInfoProvider with
      | some provide => (provide symbol).toOption.getD Dict.empty
      | none => Dict.empty
    else override
  augmentMarketInfo parts symbol found

/-- Ask the risk gate of the account; a gate that raises rejects, and without one every
order is approved. -/
def riskGateAccount (parts : FanoutParts) (target : FanoutTarget) (symbol : String)
    (proposal override : Record) : Bool × String :=
  match parts.riskGate with
  | none => (true, "no per-account risk gate configured")
  | some gate =>
      match gate proposal (accountState parts target) (positions parts)
        (marketInfo parts symbol override) with
      | .error raised => (false, "risk gate error: " ++ raised)
      | .ok decision => (decision.approved, decision.reason)

/-- The key of the one order of an account for a signal. -/
def orderKey (signal : CanonicalSignal) (accountId : String) : String :=
  signal.signalId ++ ":" ++ accountId

/-- The comment that carries the signal. -/
def orderComment (signal : CanonicalSignal) (proposal : AccountProposal) : String :=
  (if proposal.comment = "" then "EA-Bot" else proposal.comment) ++ " " ++ signal.signalId

/-- The request of a coordinator without a builder. -/
def proposalRequest (render : ℚ → String) (proposal : AccountProposal)
    (signal : CanonicalSignal) (accountId : String) : OrderRequest :=
  let number (value : ℚ) : Number := ⟨value, render value⟩
  { symbol := firstText proposal.symbol signal.terms.symbol
    orderType := firstText proposal.orderType signal.terms.direction
    volume := number proposal.volume
    price := number (nonzeroOr proposal.price signal.terms.entryReference)
    sl := number (nonzeroOr proposal.stopLoss signal.terms.initialSL)
    tp := number (nonzeroOr proposal.takeProfit signal.terms.initialTP)
    magic := if proposal.magic = 0 then 70000 else proposal.magic
    comment := orderComment signal proposal
    idempotencyKey := orderKey signal accountId
    approvalToken := none
    signalId := some signal.signalId
    accountId := some accountId
    terminalId := none
    proposalId := none
    executionId := none
    strategyVersion := none
    brokerOrderTicket := none
    brokerDealTicket := none
    brokerPositionTicket := none }
where
  /-- The first text that is not empty. -/
  firstText (first second : String) : String :=
    if first = "" then second else first

/-- Attach the signal and the account to the request. -/
def stampIdentity (signal : CanonicalSignal) (accountId : String) (request : OrderRequest) :
    OrderRequest :=
  { request with signalId := some signal.signalId, accountId := some accountId }

/-- Build the request that is sent. -/
def buildRequest (parts : FanoutParts) (proposal : AccountProposal) (signal : CanonicalSignal)
    (accountId : String) : Option OrderRequest :=
  match parts.orderBuilder with
  | none => some (proposalRequest parts.render proposal signal accountId)
  | some build =>
      let fields := (proposal.record parts.render).update [
        ("client_order_id", .str (orderKey signal accountId)),
        ("comment", .str (orderComment signal proposal))]
      (build fields Dict.empty).toOption.map (stampIdentity signal accountId)

/-- The proposal that a final request amounts to. -/
def proposalFromRequest (request : OrderRequest) (base : AccountProposal) : AccountProposal :=
  { base with
    symbol := request.symbol
    direction := Text.upper request.orderType
    orderType := Text.upper request.orderType
    volume := request.volume.value
    price := request.price.value
    stopLoss := request.sl.value
    takeProfit := request.tp.value }

/-- Whether the final values differ from the approved ones. -/
def differsFromApproved (final approved : AccountProposal) : Bool :=
  let apart (value other : ℚ) : Bool := 1 / 10 ^ 9 < |value - other|
  final.symbol ≠ approved.symbol || apart final.volume approved.volume ||
    apart final.price approved.price || apart final.stopLoss approved.stopLoss ||
    apart final.takeProfit approved.takeProfit

/-- The order of an account under way. -/
structure AccountProcess where
  dispatch : AccountDispatch
  events : List FanoutEvent

/-- The end of an account's order, or the exception that breaks it off. -/
structure AccountOutcome where
  process : AccountProcess
  raised : Option String

namespace AccountProcess

/-- Note an event. -/
def note (process : AccountProcess) (event : FanoutEvent) : AccountProcess :=
  { process with events := process.events ++ [event] }

/-- Change the record. -/
def change (process : AccountProcess) (dispatch : AccountDispatch) : AccountProcess :=
  ⟨dispatch, process.events ++ [.changed dispatch]⟩

/-- Move the record to a status. -/
def setStatus (process : AccountProcess) (status : AccountStatus) (reason : String) :
    AccountProcess :=
  process.change (process.dispatch.setStatus status reason)

/-- The order ends here. -/
def ended (process : AccountProcess) : AccountOutcome :=
  ⟨process, none⟩

end AccountProcess

/-- The words of a decision, or other words when it has none. -/
def reasonOr (reason default : String) : String :=
  if reason = "" then default else reason

/-- The normalised order in the record. -/
def recordProposal (proposal : AccountProposal) (process : AccountProcess) : AccountProcess :=
  process.change
    { process.dispatch with
      symbol := proposal.symbol, volume := proposal.volume, price := proposal.price,
      sl := proposal.stopLoss, tp := proposal.takeProfit }

/-- The gate has to approve the normalised order. -/
def passAccountGate (parts : FanoutParts) (target : FanoutTarget) (proposal : AccountProposal)
    (process : AccountProcess) : Stage AccountOutcome AccountProcess :=
  let verdict :=
    riskGateAccount parts target proposal.symbol (proposal.record parts.render) Dict.empty
  let process := process.note (.judged target.accountId proposal verdict.1)
  if verdict.1 then .proceed (process.setStatus .approved (reasonOr verdict.2 "risk approved"))
  else .leave (process.setStatus .rejected (reasonOr verdict.2 "risk ditolak")).ended

/-- Find the engine. -/
def findEngine (parts : FanoutParts) (process : AccountProcess) :
    Stage AccountOutcome ((OrderRequest → Except String ExecutionReply) × AccountProcess) :=
  match parts.executionEngine with
  | none => .leave (process.setStatus .rejected "no execution engine configured").ended
  | some execute => .proceed (execute, process.setStatus .submitting "mengirim order")

/-- Build the request of the approved order. -/
def findRequest (parts : FanoutParts) (signal : CanonicalSignal) (accountId : String)
    (proposal : AccountProposal) (process : AccountProcess) :
    Stage AccountOutcome OrderRequest :=
  match buildRequest parts proposal signal accountId with
  | none => .leave (process.setStatus .failed "urutan tidak dapat dibangun").ended
  | some request => .proceed request

/-- The gate has to approve the final request as well, where it differs; the approved
proposal goes on. -/
def passFinalGate (parts : FanoutParts) (target : FanoutTarget) (request : OrderRequest)
    (proposal : AccountProposal) (process : AccountProcess) :
    Stage AccountOutcome (AccountProposal × AccountProcess) :=
  let final := proposalFromRequest request proposal
  if differsFromApproved final proposal then
    let verdict := riskGateAccount parts target final.symbol (final.finalRecord parts.render)
      (augmentMarketInfo parts final.symbol Dict.empty)
    let process := process.note (.judged target.accountId final verdict.1)
    if verdict.1 then .proceed (final, process)
    else
      .leave (process.setStatus .rejected ("final order re-validation rejected: " ++
        reasonOr verdict.2 "risk ditolak")).ended
  else .proceed (proposal, process)

/-- The sent values in the record. -/
def recordRequest (request : OrderRequest) (proposal : AccountProposal)
    (process : AccountProcess) : AccountProcess :=
  process.change
    { process.dispatch with
      symbol := request.symbol, volume := request.volume.value, price := request.price.value,
      sl := nonzeroOr request.sl.value proposal.stopLoss,
      tp := nonzeroOr request.tp.value proposal.takeProfit }

/-- Send the order. -/
def send (execute : OrderRequest → Except String ExecutionReply) (request : OrderRequest)
    (process : AccountProcess) : AccountOutcome :=
  let process := process.note (.executed process.dispatch request)
  match execute request with
  | .error raised => ⟨process, some raised⟩
  | .ok reply =>
      let process := process.change { process.dispatch with ticket := reply.ticket }
      if reply.success then (process.setStatus .filled "order terisi").ended
      else
        (process.setStatus .failed
          (reply.errorMessage.orElse (.str "execution failed")).text).ended

/-- Give one account its order. -/
def processAccount (parts : FanoutParts) (signal : CanonicalSignal) (target : FanoutTarget)
    (raw : Option RawProposal) (dispatch : AccountDispatch) : AccountOutcome :=
  Stage.outcome do
    let proposal := normalize parts signal raw
    let process := recordProposal proposal ⟨dispatch, []⟩
    let process ← passAccountGate parts target proposal process
    let (execute, process) ← findEngine parts process
    let request ← findRequest parts signal target.accountId proposal process
    let (proposal, process) ← passFinalGate parts target request proposal process
    return send execute request (recordRequest request proposal process)

/-! ## Every account -/

/-- A fan-out under way, with the rows and the counts of its summary. -/
structure FanoutCourse where
  ledger : FanoutLedger
  events : List FanoutEvent
  rows : List AccountDispatch
  executed : Nat
  rejected : Nat
  failed : Nat
  duplicates : Nat

/-- What a fan-out answers. -/
structure FanoutSummary where
  signalId : String
  signalStatus : SignalStatus
  accounts : List AccountDispatch
  targetCount : Nat
  executed : Nat
  rejected : Nat
  failed : Nat
  duplicates : Nat

/-- The summary of a fan-out. -/
def FanoutCourse.summary (course : FanoutCourse) (signal : CanonicalSignal) : FanoutSummary where
  signalId := signal.signalId
  signalStatus := course.ledger.signalStatus signal.signalId
  accounts := course.rows
  targetCount := course.rows.length
  executed := course.executed
  rejected := course.rejected
  failed := course.failed
  duplicates := course.duplicates

/-- The events take place. -/
def FanoutCourse.emit (course : FanoutCourse) (events : List FanoutEvent) : FanoutCourse :=
  { course with
    ledger := events.foldl FanoutLedger.apply course.ledger
    events := course.events ++ events }

/-- A target that has its row. -/
def FanoutCourse.addRow (course : FanoutCourse) (dispatch : AccountDispatch) : FanoutCourse :=
  { course with rows := course.rows ++ [dispatch] }

/-- Count how the order of an account came out. -/
def FanoutCourse.count (course : FanoutCourse) (status : AccountStatus) : FanoutCourse :=
  if status.executed then { course with executed := course.executed + 1 }
  else if status = .rejected then { course with rejected := course.rejected + 1 }
  else if status = .failed then { course with failed := course.failed + 1 }
  else course

/-- Counting an account changes the counts only. -/
theorem FanoutCourse.count_keeps (course : FanoutCourse) (status : AccountStatus) :
    (course.count status).ledger = course.ledger ∧
      (course.count status).events = course.events ∧
      (course.count status).rows = course.rows := by
  unfold FanoutCourse.count
  split
  · exact ⟨rfl, rfl, rfl⟩
  · split
    · exact ⟨rfl, rfl, rfl⟩
    · split
      · exact ⟨rfl, rfl, rfl⟩
      · exact ⟨rfl, rfl, rfl⟩

/-- Attach to the terminal of a target, or say why that failed.  A target without a path
and a coordinator without a connector leave the binding where it is. -/
def reattachForTarget (connected : Bool) (parts : FanoutParts) (target : FanoutTarget) :
    Option String :=
  if !target.path.truthy ∨ !connected then none
  else
    let failure := "gagal attach ke terminal '" ++ target.id.text ++ "'"
    match parts.attached with
    | .ok true => none
    | .ok false => some failure
    | .error raised => some (failure ++ ": " ++ raised)

/-- The record of an account before its order is processed. -/
def placeholder (signal : CanonicalSignal) (target : FanoutTarget) : AccountDispatch where
  signalId := signal.signalId
  accountId := target.accountId
  terminalId := target.terminalId
  environment := target.accountMode
  status := .pending
  reason := ""
  symbol := ""
  volume := 0
  price := 0
  sl := 0
  tp := 0
  ticket := .none

/-- What visiting a target does to the record of its account.  An exception fails the one
account. -/
def visitTarget (connected : Bool) (parts : FanoutParts) (signal : CanonicalSignal)
    (target : FanoutTarget) (raw : Option RawProposal) : AccountProcess :=
  let dispatch := placeholder signal target
  match reattachForTarget connected parts target with
  | some failure => AccountProcess.setStatus ⟨dispatch, []⟩ .failed failure
  | none =>
      let outcome := processAccount parts signal target raw dispatch
      match outcome.raised with
      | none => outcome.process
      | some raised =>
          outcome.process.setStatus .failed (String.ofList (raised.toList.take 200))

/-- Visit one target. -/
def fanOutTo (connected : Bool) (parts : FanoutParts) (signal : CanonicalSignal)
    (raw : Option RawProposal) (course : FanoutCourse) (target : FanoutTarget) : FanoutCourse :=
  if target.accountId = "" then course
  else
    match (course.ledger.getAccountDispatch signal.signalId target.accountId).filter
      fun dispatch => dispatch.status.terminal with
    | some existing =>
        { course with duplicates := course.duplicates + 1 }.addRow existing
    | none =>
        let visit := visitTarget connected parts signal target raw
        let events := FanoutEvent.upserted (placeholder signal target) ::
          visit.events ++ [FanoutEvent.upserted visit.dispatch]
        ((course.emit events).count visit.dispatch.status).addRow visit.dispatch

/-- The targets from a position on, each with the parts that it meets. -/
def fanOutFrom (connected : Bool) (parts : Nat → FanoutParts) (signal : CanonicalSignal)
    (raw : Option RawProposal) (course : FanoutCourse) : Nat → List FanoutTarget → FanoutCourse
  | _, [] => course
  | position, target :: rest =>
      fanOutFrom connected parts signal raw
        (fanOutTo connected (parts position) signal raw course target) (position + 1) rest

/-- The start of a fan-out. -/
def startCourse (ledger : FanoutLedger) (signal : CanonicalSignal) : FanoutCourse :=
  FanoutCourse.emit ⟨ledger, [], [], 0, 0, 0, 0⟩ [.registered signal]

/-- Fan a signal out to the targets. -/
def fanOut (connected : Bool) (parts : Nat → FanoutParts) (signal : CanonicalSignal)
    (targets : List FanoutTarget) (raw : Option RawProposal) (ledger : FanoutLedger) :
    FanoutCourse :=
  fanOutFrom connected parts signal raw (startCourse ledger signal) 0 targets

end CanonicalFanout

namespace Sample

/-- A signal to buy. -/
def signal : CanonicalSignal where
  signalId := "sig_1"
  terms := ⟨"evt_1", "EURUSD", "BUY", 11 / 10, 1, 13 / 10, 2, ⟨1 / 100, 1, true⟩, "v1.0.0"⟩
  createdAt := "2026-01-01T00:00:00+00:00"
  evidenceHash := ""

/-- A demo account of ten thousand on a terminal without a path. -/
def fanoutTarget : FanoutTarget where
  id := .str "a"
  path := .none
  account := Dict.empty.update [("login", .int 111), ("mode", .str "demo"),
    ("balance", .int 10000), ("equity", .int 10000)]

/-- What goes to the accounts together with the signal. -/
def rawProposal : RawProposal :=
  ⟨1 / 100, 70000, "EA-Bot-BUY", Dict.empty⟩

/-- An order of the signal's volume and levels. -/
def fanoutRequest (orderType : String) : OrderRequest :=
  CanonicalFanout.proposalRequest (fun _ => "")
    { symbol := "EURUSD", orderType := orderType, direction := "BUY", volume := 1 / 100,
      price := 11 / 10, stopLoss := 1, takeProfit := 13 / 10, magic := 70000,
      comment := "EA-Bot-BUY" } signal "111"

/-- A coordinator whose gate approves everything and whose engine fills every order. -/
def fanoutParts : FanoutParts where
  attached := .ok true
  symbolResolver := none
  accountStateProvider := none
  positionsProvider := none
  marketInfoProvider := none
  symbolSpecification := fun _ => .error "no broker"
  riskGate := some fun _ _ _ _ => .ok ⟨true, "ok"⟩
  orderBuilder := some fun _ _ => .ok (fanoutRequest "BUY")
  executionEngine := some fun _ => .ok ⟨true, .int 7, .int 0, .str ""⟩
  render := fun _ => ""

end Sample

end EaBot.Execution
