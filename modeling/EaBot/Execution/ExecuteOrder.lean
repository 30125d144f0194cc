import EaBot.Execution.Engine

/-!
# Executing one order

The method that takes a request through its lifecycle: the durability and approval
checks, the duplicate check, the ledger writes, validation, and the attempts to
submit the order with their confirmation, adoption and retry paths.  Each part is a
program of atomic actions; the surroundings answer every question that the method
asks of a broker, of the clock or of the host.

A program that ends with an error text is a method that raised.
-/

namespace EaBot.Execution

open EaBot.Foundation EaBot.Persistence

/-- What one attempt meets. -/
structure Attempt where
  armed : Bool
  nativeTick : Except String (Option Tick)
  reply : Except String RawReply
  clockMs : Nat
  positions : Except String (List PositionRow)
  directlyFound : Bool
  synced : Except String (List PositionRow)
  located : Except String (Option Val)
  adoptedSync : Except String (List PositionRow)
  isoNow : String

/-- What one call of the method meets. -/
structure Surroundings where
  freshKey : {key : String // key ≠ ""}
  freshExecution : String
  market : MarketView
  nativeAvailable : Bool
  attempts : Nat → Attempt

/-! ## Reading positions -/

/-- Whether an executed order is found at the broker. -/
def confirmExecution (attempt : Attempt) (ticket : Option Int) : Except String Bool :=
  match ticket with
  | none => .ok false
  | some number =>
      if number ≤ 0 then .ok false
      else do
        let rows ← attempt.positions
        return rows.any (fun row => row.ticket.number? = some (number : ℚ)) ||
          attempt.directlyFound

/-- The running totals of a symbol's positions. -/
structure Totals where
  volume : ℚ
  buy : ℚ
  sell : ℚ
  profit : ℚ
  weightedPrice : ℚ

/-- Add one matching position to the totals. -/
def Totals.add (totals : Totals) (row : PositionRow) : Except String Totals := do
  let volume ← row.volume
  let side := Text.upper row.side
  let isBuy := Text.contains side "BUY"
  let isSell := !isBuy && Text.contains side "SELL"
  let profit ← row.profit
  let price ← row.priceOpen
  return {
    volume := totals.volume + volume
    buy := if isBuy then totals.buy + volume else totals.buy
    sell := if isSell then totals.sell + volume else totals.sell
    profit := totals.profit + profit
    weightedPrice := totals.weightedPrice + price * volume }

/-- Reconcile the positions of a symbol. -/
def syncPosition (market : MarketView) (rows : Except String (List PositionRow))
    (symbol isoNow : String) : Except String PositionSummary := do
  let clean := resolveSymbol market symbol
  let rows ← rows
  let matching := rows.filter fun row => Text.upper row.symbol = clean
  let totals ← matching.foldlM Totals.add ⟨0, 0, 0, 0, 0⟩
  return {
    symbol := clean
    totalVolume := Text.roundTo 4 totals.volume
    buyVolume := Text.roundTo 4 totals.buy
    sellVolume := Text.roundTo 4 totals.sell
    netVolume := Text.roundTo 4 (totals.buy - totals.sell)
    unrealizedPnl := Text.roundTo 2 totals.profit
    averagePrice := Text.roundTo 5
      (if 0 < totals.volume then totals.weightedPrice / totals.volume else 0)
    positions := matching
    syncedAt := isoNow }

/-! ## Submitting -/

/-- The name of the attribute that a quote is read from. -/
def quoteSide (isBuy : Bool) : String :=
  if isBuy then "ask" else "bid"

/-- The price of a native submission: the request's own, or the current quote. -/
def nativePrice (request : OrderRequest) (tick : Except String (Option Tick)) :
    Except String Val :=
  if 0 < request.price.value then .ok (.num request.price)
  else do
    let isBuy := Text.upper request.orderType = "BUY"
    match ← tick with
    | none => return .num request.price
    | some quotes =>
        match if isBuy then quotes.ask else quotes.bid with
        | .number quote => return .num quote
        | .none => return .none
        | .missing => .error s!"'Tick' object has no attribute '{quoteSide isBuy}'"

/-- The side of a submission through the connector's own method. -/
def connectorSide (request : OrderRequest) : String :=
  if Text.contains (Text.upper request.orderType) "BUY" then "BUY" else "SELL"

/-- The submission of a request on a route. -/
def submissionOf (request : OrderRequest) (side : String) (price : Val)
    (magic : Option Int) : Submission where
  symbol := request.symbol
  side := side
  volume := request.volume
  price := price
  sl := request.sl
  tp := request.tp
  magic := magic
  comment := request.comment

/-- A reply without a ticket. -/
def failedReply (code : Int) (message : String) : SendReply :=
  ⟨false, none, code, .str message, .none⟩

/-- A labelled simulated fill. -/
def simulatedFill (clockMs caller : Nat) (request : OrderRequest) (price : Number) :
    Program World (Except String SendReply) := do
  let ticket ← nextSimulatedTicket clockMs
  dispatch caller request.idempotencyKey .simulated
    (submissionOf request request.orderType (.num price) (some request.magic))
  return .ok ⟨true, some ticket, 0, .str "Simulated order execution successful", .num price⟩

/-- Submit through the native library, which only an armed terminal may receive. -/
def sendNative (attempt : Attempt) (caller : Nat) (request : OrderRequest) :
    Program World (Except String SendReply) :=
  let failed (text : String) : Except String SendReply :=
    .ok (failedReply (-1) s!"Native MT5 send failed: {text}")
  if !attempt.armed then
    return .ok (failedReply 403 ("EXECUTION NOT ARMED — no operator-armed terminal; native " ++
      "order_send is disabled."))
  else
    match nativePrice request attempt.nativeTick with
    | .error text => return failed text
    | .ok price => do
        let side := if Text.upper request.orderType = "BUY" then "BUY" else "SELL"
        dispatch caller request.idempotencyKey .native
          (submissionOf request side price (some request.magic))
        match attempt.reply.bind parseSendResult with
        | .error text => return failed text
        | .ok reply => return .ok reply

/-- Submit the request on the path that the configuration and the host offer. -/
def sendToMt5 (config : EngineConfig) (nativeAvailable : Bool) (attempt : Attempt)
    (caller : Nat) (request : OrderRequest) : Program World (Except String SendReply) :=
  let key := request.idempotencyKey
  match config.connector with
  | .orderSend => do
      dispatch caller key .connectorOrderSend
        (submissionOf request request.orderType (.num request.price) (some request.magic))
      return attempt.reply.bind parseSendResult
  | .executeOrder => do
      dispatch caller key .connectorExecuteOrder
        (submissionOf request (connectorSide request) (.num request.price) none)
      return attempt.reply.bind parseSendResult
  | _ =>
      if config.simulationMode && !config.requireApproval then
        simulatedFill attempt.clockMs caller request request.price
      else if nativeAvailable then
        sendNative attempt caller request
      else if config.simulationMode then
        simulatedFill attempt.clockMs caller request
          (if request.price.value = 0 then ⟨10850 / 10000, "1.085"⟩ else request.price)
      else
        return .ok (failedReply 1 ("No live MT5 connection and simulation_mode is disabled — " ++
          "order not sent (no fabricated fill)."))

/-! ## Results -/

/-- A result without a fill. -/
def refused (code : Int) (message : Val) (retries : Nat) : ExecutionResult :=
  ⟨false, none, code, message, retries, none⟩

/-- The fields with which a confirmed position is recorded. -/
def positionFields (request : OrderRequest) (ticket : Option Int)
    (adopted : List (String × Val)) : List (String × Val) :=
  [("ticket", .ofInt? ticket)] ++ adopted ++
  [("symbol", .str request.symbol), ("volume", .num request.volume),
    ("magic", .int request.magic)] ++ request.identityFields ++
  [("broker_order_ticket", .ofInt? ticket), ("broker_deal_ticket", .ofInt? ticket),
    ("broker_position_ticket", .ofInt? ticket)]

/-- The fields with which a submitted order is recorded. -/
def submittedFields (request : OrderRequest) (ticket : Option Int) (retries : Nat) :
    List (String × Val) :=
  [("ticket", .ofInt? ticket)] ++ request.identityFields ++
  [("broker_order_id", .ofInt? ticket), ("broker_order_ticket", .ofInt? ticket),
    ("retry_count", .int retries)]

/-- The fields with which an acknowledged order is recorded. -/
def acknowledgedFields (ticket : Option Int) : List (String × Val) :=
  [("ticket", .ofInt? ticket), ("broker_deal_ticket", .ofInt? ticket)]

/-- Record a confirmed fill. -/
def recordFill (caller : Nat) (request : OrderRequest) (ticket : Option Int) :
    Program World Unit := do
  let key := request.idempotencyKey
  let _ ← setOrder caller key .filled []
  let _ ← setOrder caller key .positionConfirmed (positionFields request ticket [])

/-- Write an unknown final state again, so that it is kept for a later query. -/
def keepUnknown (caller : Nat) (key : String) : Program World Unit := do
  let final ← Program.read fun world =>
    ((world.ledger.getOrder key).bind (Dict.get · "state")).getD .none
  if final = .str OrderState.unknown.value then
    let _ ← setOrder caller key .unknown []

/-- The check that the fill price of a reply is a number. -/
def checkFillPrice (request : OrderRequest) (reply : SendReply) : Except String Unit :=
  (((reply.price.orElse .none).orElse (.num request.price)).orElse (.int 0)).checkFloat

/-- What follows the confirmation of a fill.  An error text is an exception. -/
def finishFill (market : MarketView) (attempt : Attempt) (caller : Nat)
    (request : OrderRequest) (retries : Nat) (reply : SendReply) (confirmed : Bool) :
    Program World (Except String ExecutionResult) := do
  let key := request.idempotencyKey
  match syncPosition market attempt.synced request.symbol attempt.isoNow with
  | .error text => return .error text
  | .ok summary =>
      clearPending key
      keepUnknown caller key
      match checkFillPrice request reply with
      | .error text => return .error text
      | .ok () =>
          let result : ExecutionResult :=
            ⟨true, reply.ticket, 0, .str "", retries, if confirmed then some summary else none⟩
          recordCompleted key result
          return .ok result

/-- What happens after a successful reply.  An error text is an exception. -/
def settle (market : MarketView) (attempt : Attempt) (caller : Nat)
    (request : OrderRequest) (retries : Nat) (reply : SendReply) :
    Program World (Except String ExecutionResult) := do
  let key := request.idempotencyKey
  let ticket := reply.ticket
  let _ ← setOrder caller key .submitted (submittedFields request ticket retries)
  let _ ← setOrder caller key .acknowledged (acknowledgedFields ticket)
  match confirmExecution attempt ticket with
  | .error text => return .error text
  | .ok false => finishFill market attempt caller request retries reply false
  | .ok true => do
      recordFill caller request ticket
      finishFill market attempt caller request retries reply true

/-- One attempt: a final result, or the code and message of its failure.  An
exception of any step is such a failure. -/
def attemptOnce (config : EngineConfig) (surroundings : Surroundings) (attempt : Attempt)
    (caller : Nat) (request : OrderRequest) (retries : Nat) :
    Program World (ExecutionResult ⊕ Int × Val) := do
  let raised (text : String) : ExecutionResult ⊕ Int × Val :=
    .inr (-1, .str s!"Execution exception: {text}")
  match ← sendToMt5 config surroundings.nativeAvailable attempt caller request with
  | .error text => return raised text
  | .ok reply =>
      if reply.success then
        match ← settle surroundings.market attempt caller request retries reply with
        | .error text => return raised text
        | .ok result => return .inl result
      else
        return .inr (reply.errorCode, reply.message)

/-- Look for an order whose reply was lost.  A failing locator finds nothing; a
ticket that is no number, and positions that cannot be read, raise. -/
def adoptLostResponse (config : EngineConfig) (market : MarketView) (attempt : Attempt)
    (request : OrderRequest) : Except String (Option ExecutionResult) :=
  if !config.hasOrderLocator then .ok none
  else
    match attempt.located with
    | .error _ => .ok none
    | .ok none => .ok none
    | .ok (some found) => do
        let ticket ← toIntUnlessNone found
        let summary ← syncPosition market attempt.adoptedSync request.symbol attempt.isoNow
        return some ⟨true, ticket, 0, .str "", 0, some summary⟩

/-- The fields with which an adopted fill is recorded. -/
def adoptedFields (request : OrderRequest) (adopted : ExecutionResult) :
    List (String × Val) :=
  positionFields request adopted.ticket
    [("adopted", .bool true), ("broker_order_id", .ofInt? adopted.ticket)] ++
  [("retry_count", .int adopted.retries)]

/-- Persist an adopted fill. -/
def recordAdoptedLostResponse (caller : Nat) (request : OrderRequest)
    (adopted : ExecutionResult) : Program World Unit := do
  let key := request.idempotencyKey
  clearPending key
  let _ ← setOrder caller key .positionConfirmed (adoptedFields request adopted)
  recordCompleted key adopted

/-- The fields with which an ambiguous reply is recorded. -/
def unknownFields (request : OrderRequest) (retries : Nat) (code : Int) (message : Val) :
    List (String × Val) :=
  [("error_code", .int code), ("error_message", message),
    ("reconciliation", .str "inconclusive"), ("retry_count", .int retries)] ++
  request.identityFields

/-- Preserve the unknown state after an ambiguous reply. -/
def recordUnknown (caller : Nat) (request : OrderRequest) (retries : Nat) (code : Int)
    (message : Val) : Program World ExecutionResult := do
  let key := request.idempotencyKey
  clearPending key
  let _ ← setOrder caller key .unknown (unknownFields request retries code message)
  let result := refused code
    (.str ("Execution state UNKNOWN after an ambiguous broker response; " ++
      "no confirmed fill was found. Reconcile before any retry. " ++
      s!"Broker response: {message.text}")) retries
  recordCompleted key result
  return result

/-- Give up with the last failure. -/
def exhausted (request : OrderRequest) (retries : Nat) (code : Int) (message : Val) :
    Program World ExecutionResult := do
  let key := request.idempotencyKey
  clearPending key
  recordCompleted key (refused code message retries)
  return refused code message retries

/-- Persist the retry count before any attempt but the first. -/
def persistRetry (config : EngineConfig) (caller : Nat) (request : OrderRequest)
    (number : Nat) : Program World Bool :=
  if number ≠ 0 ∧ config.requireDurableState then
    setOrder caller request.idempotencyKey .submitting
      (request.identityFields ++ [("retry_count", .int number)])
  else
    return true

/-- Adopt an order whose reply was lost, or do something else when none is found. -/
def adoptOr (config : EngineConfig) (market : MarketView) (attempt : Attempt)
    (caller : Nat) (request : OrderRequest)
    (otherwise : Program World (Except String ExecutionResult)) :
    Program World (Except String ExecutionResult) :=
  match adoptLostResponse config market attempt request with
  | .error text => return .error text
  | .ok none => otherwise
  | .ok (some adopted) => do
      recordAdoptedLostResponse caller request adopted
      return .ok adopted

/-- What follows a failed attempt.  `again` is the next pass, when one is left. -/
def afterFailure (config : EngineConfig) (market : MarketView) (attempt : Attempt)
    (caller : Nat) (request : OrderRequest) (retries : Nat) (code : Int) (message : Val)
    (again : Option (Program World (Except String ExecutionResult))) :
    Program World (Except String ExecutionResult) :=
  match isAmbiguousExecution code message with
  | .error text => return .error text
  | .ok true =>
      adoptOr config market attempt caller request do
        let result ← recordUnknown caller request retries code message
        return .ok result
  | .ok false =>
      match isTransientError code message, again with
      | .error text, _ => return .error text
      | .ok true, some again => adoptOr config market attempt caller request again
      | .ok _, _ => do
          let result ← exhausted request retries code message
          return .ok result

/-- One pass of the retry loop. -/
def attemptPass (config : EngineConfig) (surroundings : Surroundings) (caller : Nat)
    (request : OrderRequest) (number : Nat)
    (again : Option (Program World (Except String ExecutionResult))) :
    Program World (Except String ExecutionResult) := do
  let persisted ← persistRetry config caller request number
  if !persisted then
    clearPending request.idempotencyKey
    return .ok (refused 503 (.str ("Execution stopped before retry: retry state could " ++
      "not be persisted. Reconcile the prior broker attempt.")) (number - 1))
  else
    let attempt := surroundings.attempts number
    match ← attemptOnce config surroundings attempt caller request number with
    | .inl result => return .ok result
    | .inr (code, message) =>
        afterFailure config surroundings.market attempt caller request number code message again

/-- The retry loop from pass `number` on, with `remaining` passes after it. -/
def attemptLoop (config : EngineConfig) (surroundings : Surroundings) (caller : Nat)
    (request : OrderRequest) (number : Nat) :
    Nat → Program World (Except String ExecutionResult)
  | 0 => attemptPass config surroundings caller request number none
  | remaining + 1 =>
      attemptPass config surroundings caller request number
        (some (attemptLoop config surroundings caller request (number + 1) remaining))

/-- The fields of the first writes of a request. -/
def firstFields (request : OrderRequest) : List (String × Val) :=
  request.identityFields ++ [("retry_count", .int 0)]

/-- The lifecycle of a validated request. -/
def submitValid (config : EngineConfig) (surroundings : Surroundings) (caller : Nat)
    (request : OrderRequest) : Program World (Except String ExecutionResult) := do
  let key := request.idempotencyKey
  let _ ← setOrder caller key .riskApproved []
  let persisted ← setOrder caller key .submitting (firstFields request)
  if config.requireDurableState && !persisted then
    return .ok (refused 503
      (.str "Execution blocked: submitting intent could not be persisted.") 0)
  else
    recordPending key
    let result ← attemptLoop config surroundings caller request 0 config.maxRetries
    clearPending key
    return result

/-- The lifecycle of a request that failed validation. -/
def rejectInvalid (caller : Nat) (request : OrderRequest) (errors : List String) :
    Program World ExecutionResult := do
  let reason := "; ".intercalate errors
  let _ ← setOrder caller request.idempotencyKey .unknown
    [("rejected", .bool true), ("reason", .str reason)]
  return refused 400 (.str s!"Validation failed: {reason}") 0

/-- The lifecycle of a request that passed the duplicate check. -/
def submitOrder (config : EngineConfig) (surroundings : Surroundings) (caller : Nat)
    (request : OrderRequest) : Program World (Except String ExecutionResult) := do
  let persisted ← setOrder caller request.idempotencyKey .intentCreated (firstFields request)
  if !persisted && config.requireDurableState then
    return .ok (refused 503
      (.str "Execution blocked: order intent could not be persisted.") 0)
  else
    match validateOrder config surroundings.market request with
    | .error text => return .error text
    | .ok [] => submitValid config surroundings caller request
    | .ok (error :: errors) => do
        let result ← rejectInvalid caller request (error :: errors)
        return .ok result

/-- The message of a refused approval. -/
def approvalMessage : String :=
  "Execution rejected: require_approval is enabled but the order " ++
    "carries no gate-issued approval_token (fail-closed). Only the " ++
    "deterministic pipeline may stamp approval after the Risk Gate."

/-- The method after the identity of the request is complete. -/
def executeIdentified (config : EngineConfig) (surroundings : Surroundings) (caller : Nat)
    (request : OrderRequest) : Program World (Except String ExecutionResult) := do
  let key := request.idempotencyKey
  let ready ← durableReady
  if config.requireDurableState && !ready then
    return .ok (refused 503 (.str ("Execution blocked: the required durable order-state " ++
      "store is unavailable or unhealthy.")) 0)
  else if config.requireApproval && !request.approved then
    let _ ← setOrder caller key .unknown []
    return .ok (refused 403 (.str approvalMessage) 0)
  else
    let duplicate ← isDuplicate caller key
    if duplicate then
      return .ok (refused 409 (.str (s!"Duplicate order submission rejected: " ++
        s!"idempotency key '{key}' already processed or pending")) 0)
    else
      let result ← submitOrder config surroundings caller request
      noteReturned caller
      return result

/-- Execute an order. -/
def executeOrder (config : EngineConfig) (surroundings : Surroundings) (caller : Nat)
    (request : OrderRequest) : Program World (Except String ExecutionResult) :=
  executeIdentified config surroundings caller
    (request.withIdentity surroundings.freshKey surroundings.freshExecution)

/-! ## A concrete setting -/

namespace Sample

/-- A broker that fills every order at once and confirms the position. -/
def attempt : Attempt where
  armed := true
  nativeTick := .ok none
  reply := .ok (.mapping (Dict.empty.update [("success", .bool true), ("ticket", .int 7)]))
  clockMs := 0
  positions := .ok []
  directlyFound := true
  synced := .ok []
  located := .ok none
  adoptedSync := .ok []
  isoNow := "2026-01-01T00:00:00+00:00"

/-- Surroundings without quotes whose broker fills every order. -/
def surroundings : Surroundings where
  freshKey := ⟨"fresh-key", by decide⟩
  freshExecution := "fresh-execution"
  market := ⟨fun _ => none, false, fun _ => .ok none, fun _ => .ok none⟩
  nativeAvailable := false
  attempts := fun _ => attempt

/-- An engine with a connector and one retry. -/
def config : EngineConfig where
  connector := .orderSend
  maxRetries := 1
  spreadTolerance := 5 / 1000
  minVolume := ⟨1 / 100, "0.01"⟩
  maxVolume := ⟨100, "100.0"⟩
  simulationMode := false
  hasOrderLocator := false
  requireApproval := false
  requireDurableState := false

/-- A market order without stops. -/
def request : OrderRequest where
  symbol := "EURUSD"
  orderType := "BUY"
  volume := ⟨1 / 10, "0.1"⟩
  price := ⟨0, "0.0"⟩
  sl := ⟨0, "0.0"⟩
  tp := ⟨0, "0.0"⟩
  magic := 70000
  comment := ""
  idempotencyKey := "order-1"
  approvalToken := none
  signalId := none
  accountId := none
  terminalId := none
  proposalId := none
  executionId := none
  strategyVersion := none
  brokerOrderTicket := none
  brokerDealTicket := none
  brokerPositionTicket := none

/-- An empty file to which every append succeeds. -/
def file : OrderFile where
  lines := []
  writes := 0
  appendFails := fun _ => false
  isoNow := fun _ => "2026-01-01T00:00:00+00:00"

end Sample

end EaBot.Execution
