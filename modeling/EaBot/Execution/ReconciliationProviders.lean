import EaBot.Execution.Reconciliation
import EaBot.Execution.StateMachine
import EaBot.Mt5.Connector

/-!
# What the reconciler is fed with

The internal side are the positions that the in-memory ledger holds: of the records
that carry a ticket, the last one of each ticket decides.  The broker side are the
open positions of the terminal connector.  Number formatting is a parameter.
-/

namespace EaBot.Execution

open EaBot.Foundation EaBot.Mt5

/-- The states of an order that stand for an open position. -/
def positionStates : List String :=
  [OrderState.positionConfirmed.value, OrderState.filled.value]

/-- The ticket of a record. -/
def recordTicket (record : Record) : Val :=
  (record.get "ticket").getD .none

/-- The last record of every ticket, in the order in which the tickets first appear. -/
def latestByTicket (store : Dict String Record) : Dict String Record :=
  Dict.indexBy (fun record => (recordTicket record).text)
    (store.values.filter fun record => recordTicket record ≠ .none)

/-- Whether the state of a record stands for an open position. -/
def holdsPosition (record : Record) : Bool :=
  positionStates.contains (Text.lower ((record.get "state").getD (.str "")).text)

/-- The position that a record stands for. -/
def positionOfRecord (record : Record) : Record :=
  Dict.empty.update [("ticket", recordTicket record),
    ("symbol", (record.get "symbol").getD (.str "")),
    ("volume", (record.get "volume").getD .none)]

/-- The positions that the ledger holds. -/
def internalPositionsFromStore (store : Dict String Record) : List Record :=
  ((latestByTicket store).values.filter holdsPosition).map positionOfRecord

/-- A position of the terminal as a record. -/
def recordOfPosition (render : ℚ → String) (position : Position) : Record :=
  let number (value : ℚ) : Val := .num ⟨value, render value⟩
  Dict.empty.update [("ticket", .int position.ticket), ("symbol", .str position.symbol),
    ("side", .str position.side), ("quantity", number position.quantity),
    ("price_open", number position.priceOpen), ("price_current", number position.priceCurrent),
    ("swap", number position.swap), ("profit", number position.profit),
    ("unrealized_pnl", number position.unrealizedPnl), ("margin", number position.margin),
    ("magic", .ofInt? position.magic), ("sl", position.sl.elim .none number),
    ("tp", position.tp.elim .none number)]

/-- The positions that the terminal reports. -/
def brokerPositions (render : ℚ → String) (positions : List Position) : List Record :=
  positions.map (recordOfPosition render)

/-- A pending order of the terminal as a record. -/
def recordOfOrder (render : ℚ → String) (order : PendingOrder) : Record :=
  let number (value : ℚ) : Val := .num ⟨value, render value⟩
  Dict.empty.update [("ticket", .int order.ticket), ("symbol", .str order.symbol),
    ("side", .str order.side), ("order_type", .str order.orderType),
    ("price", number order.price), ("stop_price", order.stopPrice.elim .none number),
    ("quantity", number order.quantity), ("filled_qty", number order.filledQty),
    ("status", .str order.status)]

/-- The pending orders that the terminal reports. -/
def brokerOrders (render : ℚ → String) (orders : List PendingOrder) : List Record :=
  orders.map (recordOfOrder render)

/-- The magic number that a record shows is the one of its position. -/
theorem recordOfPosition_magic (render : ℚ → String) (position : Position) :
    (recordOfPosition render position).get "magic" = some (.ofInt? position.magic) := by
  unfold recordOfPosition
  rfl

/-! ## Which tickets the two sides have -/

theorem ticketOf_recordOfPosition (render : ℚ → String) (position : Position) :
    Reconciler.ticketOf (recordOfPosition render position) = some position.ticket := by
  have ticket : (recordOfPosition render position).get "ticket" = some (.int position.ticket) := by
    unfold recordOfPosition
    rfl
  rw [Reconciler.ticketOf, Reconciler.fieldOr, ticket]
  rfl

/-- The tickets of the broker side are those of the terminal's positions. -/
theorem exists_brokerPositions_iff (render : ℚ → String) (positions : List Position)
    (ticket : Int) :
    (∃ item ∈ brokerPositions render positions, Reconciler.ticketOf item = some ticket) ↔
      ticket ∈ positions.map Position.ticket := by
  simp only [brokerPositions, List.mem_map, exists_exists_and_eq_and, ticketOf_recordOfPosition,
    Option.some.injEq]

theorem ticketOf_recordOfOrder (render : ℚ → String) (order : PendingOrder) :
    Reconciler.ticketOf (recordOfOrder render order) = some order.ticket := by
  have ticket : (recordOfOrder render order).get "ticket" = some (.int order.ticket) := by
    unfold recordOfOrder
    rfl
  rw [Reconciler.ticketOf, Reconciler.fieldOr, ticket]
  rfl

/-- The ledger holds a position for a ticket in a state. -/
def HoldsIn (store : Dict String Record) (ticket : Int) (state : OrderState) : Prop :=
  ∃ record, (latestByTicket store).get (toString ticket) = some record ∧
    recordTicket record = .int ticket ∧ record.get "state" = some (.str state.value)

/-- The internal side reports a ticket. -/
def Reports (store : Dict String Record) (ticket : Int) : Prop :=
  ∃ item ∈ internalPositionsFromStore store, Reconciler.ticketOf item = some ticket

theorem ticketOf_positionOfRecord {record : Record} {ticket : Int}
    (carried : recordTicket record = .int ticket) :
    Reconciler.ticketOf (positionOfRecord record) = some ticket := by
  have entry : (positionOfRecord record).get "ticket" = some (recordTicket record) := rfl
  rw [Reconciler.ticketOf, Reconciler.fieldOr, entry, carried]
  rfl

/-- A ticket that the ledger holds as a confirmed position is reported. -/
theorem HoldsIn.reports {store : Dict String Record} {ticket : Int}
    (holds : HoldsIn store ticket .positionConfirmed) : Reports store ticket := by
  rcases holds with ⟨record, latest, carried, state⟩
  apply Exists.intro (positionOfRecord record)
  constructor
  · apply List.mem_map_of_mem
    apply List.mem_filter.mpr
    constructor
    · exact (Dict.mem_values_iff _ _).mpr ⟨_, latest⟩
    · rw [holdsPosition, state]
      decide
  · exact ticketOf_positionOfRecord carried

end EaBot.Execution
