import EaBot.Execution.Reply
import EaBot.Execution.StateMachine
import EaBot.Execution.Validation
import EaBot.Foundation.Program

/-!
# The state of the execution engine

The engine works on the shared ledger and on its own registries of pending and
completed orders.  Everything it does to them is one of the atomic actions defined
here.  The log is not part of the program: it lists, newest first, what the actions
did, so that statements about whole runs have something to talk about.
-/

namespace EaBot.Execution

open EaBot.Foundation

/-- A position as the engine reads it; the numeric fields may fail to convert. -/
structure PositionRow where
  ticket : Val
  symbol : String
  side : String
  volume : Except String ℚ
  profit : Except String ℚ
  priceOpen : Except String ℚ

/-- The reconciled positions of one symbol. -/
structure PositionSummary where
  symbol : String
  totalVolume : ℚ
  buyVolume : ℚ
  sellVolume : ℚ
  netVolume : ℚ
  unrealizedPnl : ℚ
  averagePrice : ℚ
  positions : List PositionRow
  syncedAt : String

/-- The outcome of an execution attempt. -/
structure ExecutionResult where
  success : Bool
  ticket : Option Int
  errorCode : Int
  errorMessage : Val
  retries : Nat
  positionOpened : Option PositionSummary

/-- The way an order leaves the engine. -/
inductive Route
  | connectorOrderSend
  | connectorExecuteOrder
  | native
  | terminal
  | simulated
deriving DecidableEq

/-- Whether the route reaches a broker. -/
def Route.reachesBroker : Route → Bool
  | simulated => false
  | _ => true

/-- What is handed to a broker path. -/
structure Submission where
  symbol : String
  side : String
  volume : Number
  price : Val
  sl : Number
  tp : Number
  magic : Option Int
  comment : String

/-- What an atomic action of a caller did. -/
inductive Event
  | checked (caller : Nat) (key : String) (duplicate : Bool)
  | wrote (caller : Nat) (key : String) (state : OrderState) (persisted : Bool)
  | dispatched (caller : Nat) (key : String) (route : Route) (durable : Bool)
      (submission : Submission)
  | returned (caller : Nat)

/-- The ledger, the engine's registries and the log. -/
structure World where
  ledger : Ledger
  pending : Dict String Unit
  completed : Dict String ExecutionResult
  simTicketSeq : Nat
  log : List Event

namespace World

/-- The state of a process that has just attached a ledger. -/
def start (ledger : Ledger) : World :=
  ⟨ledger, Dict.empty, Dict.empty, 0, []⟩

/-- Whether a submission with this key is pending, completed or dispatched. -/
def isDuplicate (world : World) (key : String) : Bool :=
  key ≠ "" && (world.pending.contains key || world.completed.contains key ||
    world.ledger.storeBeyond key || world.ledger.memoryBeyond key)

/-- Put an event on the log. -/
def record (world : World) (event : Event) : World :=
  { world with log := event :: world.log }

/-- A ledger write by a caller. -/
def setOrder (world : World) (caller : Nat) (key : String) (state : OrderState)
    (extra : List (String × Val)) : Bool × World :=
  let stored := world.ledger.setOrder key state.value extra
  (stored.1, { world with ledger := stored.2 }.record (.wrote caller key state stored.1))

/-- Hand a submission to a broker path. -/
def dispatch (world : World) (caller : Nat) (key : String) (route : Route)
    (submission : Submission) : World :=
  world.record (.dispatched caller key route (world.ledger.durableBeyond key) submission)

end World

/-! ## Atomic actions -/

section Actions

variable (caller : Nat) (key : String)

/-- Check whether the key is a duplicate. -/
def isDuplicate : Program World Bool :=
  .perform fun world =>
    (world.isDuplicate key, world.record (.checked caller key (world.isDuplicate key)))

/-- Write a state to the ledger. -/
def setOrder (state : OrderState) (extra : List (String × Val)) : Program World Bool :=
  .perform fun world => world.setOrder caller key state extra

/-- Hand a submission to a broker path. -/
def dispatch (route : Route) (submission : Submission) : Program World Unit :=
  .modify fun world => world.dispatch caller key route submission

/-- Record the key as pending. -/
def recordPending : Program World Unit :=
  .modify fun world =>
    if key = "" then world else { world with pending := world.pending.set key () }

/-- Remove the key from the pending registry. -/
def clearPending : Program World Unit :=
  .modify fun world => { world with pending := world.pending.erase key }

/-- Record the result of the key. -/
def recordCompleted (result : ExecutionResult) : Program World Unit :=
  .modify fun world => { world with completed := world.completed.set key result }

/-- A simulated ticket, from the millisecond clock and the engine's counter. -/
def nextSimulatedTicket (clockMs : Nat) : Program World Int :=
  .perform fun world =>
    let seq := (world.simTicketSeq + 1) % 1000
    ((clockMs % 1000000 * 1000 + seq : Nat), { world with simTicketSeq := seq })

/-- Whether a healthy store is attached. -/
def durableReady : Program World Bool :=
  .read fun world => world.ledger.healthy

/-- Note that the caller's method has ended. -/
def noteReturned : Program World Unit :=
  .modify fun world => world.record (.returned caller)

end Actions

end EaBot.Execution
