import EaBot.Execution.Lifecycle

/-!
# Requests, results and the engine's configuration

An order request carries its idempotency key, the approval marker of the risk
gate and the identity under which the ledger can trace it.  The identity fields
written to the ledger name the order itself and never a state, so no ledger write
can change either by accident.
-/

namespace EaBot.Execution

open EaBot.Foundation

/-- An order request. -/
structure OrderRequest where
  symbol : String
  orderType : String
  volume : Number
  price : Number
  sl : Number
  tp : Number
  magic : Int
  comment : String
  idempotencyKey : String
  approvalToken : Option String
  signalId : Option String
  accountId : Option String
  terminalId : Option String
  proposalId : Option String
  executionId : Option String
  strategyVersion : Option String
  brokerOrderTicket : Option Int
  brokerDealTicket : Option Int
  brokerPositionTicket : Option Int

/-- An identifier that is present: neither missing nor empty. -/
def present (identifier : Option String) : Option String :=
  identifier.filter fun text => text ≠ ""

namespace OrderRequest

/-- The request with the identifiers that every submission has. -/
def withIdentity (request : OrderRequest) (freshKey freshExecution : String) : OrderRequest :=
  let key := if request.idempotencyKey = "" then freshKey else request.idempotencyKey
  { request with
    idempotencyKey := key
    executionId := some ((present request.executionId).getD freshExecution)
    proposalId := some ((present request.proposalId).getD key) }

/-- Whether the request carries an approval marker. -/
def approved (request : OrderRequest) : Bool :=
  (present request.approvalToken).isSome

/-- An identity field that is written only when it is present. -/
def optionalText (name : String) (identifier : Option String) : List (String × Val) :=
  (present identifier).toList.map fun text => (name, .str text)

/-- A broker ticket that is written only when it is present. -/
def optionalTicket (name : String) (ticket : Option Int) : List (String × Val) :=
  ticket.toList.map fun number => (name, .int number)

/-- The identity fields that every ledger write of the request repeats. -/
def identityFields (request : OrderRequest) : List (String × Val) :=
  [("intent_id", .str request.idempotencyKey),
    ("client_order_id", .str request.idempotencyKey),
    ("proposal_id", .str ((present request.proposalId).getD request.idempotencyKey)),
    ("execution_id", .str ((present request.executionId).getD request.idempotencyKey)),
    ("symbol", .str request.symbol),
    ("side", .str request.orderType),
    ("volume", .num request.volume),
    ("strategy_version", .str ((present request.strategyVersion).getD "unknown"))] ++
  optionalText "signal_id" request.signalId ++
  optionalText "account_id" request.accountId ++
  optionalText "terminal_id" request.terminalId ++
  optionalTicket "broker_order_ticket" request.brokerOrderTicket ++
  optionalTicket "broker_deal_ticket" request.brokerDealTicket ++
  optionalTicket "broker_position_ticket" request.brokerPositionTicket

theorem keeps_optionalText (intentId : String) {name : String} (identifier : Option String)
    (notState : name ≠ "state") (notIdentity : name ≠ "intent_id") :
    Keeps intentId (optionalText name identifier) := by
  unfold optionalText Keeps
  cases present identifier <;> simp [notState.symm, notIdentity.symm]

theorem keeps_optionalTicket (intentId : String) {name : String} (ticket : Option Int)
    (notState : name ≠ "state") (notIdentity : name ≠ "intent_id") :
    Keeps intentId (optionalTicket name ticket) := by
  unfold optionalTicket Keeps
  cases ticket <;> simp [notState.symm, notIdentity.symm]

/-- The identity fields name the request's own key and no state. -/
theorem keeps_identityFields (request : OrderRequest) :
    Keeps request.idempotencyKey request.identityFields := by
  unfold identityFields
  refine .append (.append (.append (.append (.append (.append ?_ ?_) ?_) ?_) ?_) ?_) ?_
  · simp [Keeps]
  · exact keeps_optionalText _ _ (by decide) (by decide)
  · exact keeps_optionalText _ _ (by decide) (by decide)
  · exact keeps_optionalText _ _ (by decide) (by decide)
  · exact keeps_optionalTicket _ _ (by decide) (by decide)
  · exact keeps_optionalTicket _ _ (by decide) (by decide)
  · exact keeps_optionalTicket _ _ (by decide) (by decide)

@[simp]
theorem withIdentity_approved (request : OrderRequest) (freshKey freshExecution : String) :
    (request.withIdentity freshKey freshExecution).approved = request.approved :=
  rfl

theorem withIdentity_key_nonempty (request : OrderRequest) {freshKey : String}
    (freshKey_nonempty : freshKey ≠ "") (freshExecution : String) :
    (request.withIdentity freshKey freshExecution).idempotencyKey ≠ "" := by
  unfold withIdentity
  by_cases missing : request.idempotencyKey = ""
  · simpa [missing] using freshKey_nonempty
  · simp [missing]

/-- A request that names its key keeps it. -/
theorem withIdentity_key (request : OrderRequest) (named : request.idempotencyKey ≠ "")
    (freshKey freshExecution : String) :
    (request.withIdentity freshKey freshExecution).idempotencyKey =
      request.idempotencyKey := by
  simp [withIdentity, named]

end OrderRequest

/-- How the configured connector can submit an order. -/
inductive ConnectorRoute
  | absent
  | orderSend
  | executeOrder
  | noSubmission
deriving DecidableEq

/-- The configuration of an execution engine. -/
structure EngineConfig where
  connector : ConnectorRoute
  maxRetries : Nat
  spreadTolerance : ℚ
  minVolume : Number
  maxVolume : Number
  simulationMode : Bool
  hasOrderLocator : Bool
  requireApproval : Bool
  requireDurableState : Bool

end EaBot.Execution
