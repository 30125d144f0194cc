import EaBot.Foundation.Text

/-!
# The terminal connector

Position reads through the terminal.  A raw read raises, returns nothing or
returns rows; the plain read turns both failures into an empty list, and the
verified read asks the terminal twice, once to learn whether it answers and once
through the plain read for the list itself.  Without a terminal the connector
answers with two simulated positions.
-/

namespace EaBot.Mt5

/-- A row of the terminal's position table.  `magic` is absent on builds whose rows
do not carry it. -/
structure BrokerRow where
  ticket : Int
  symbol : String
  type : Int
  volume : ℚ
  priceOpen : ℚ
  priceCurrent : ℚ
  swap : ℚ
  profit : ℚ
  magic : Option Int
  sl : ℚ
  tp : ℚ
deriving DecidableEq

/-- An open position as the services see it. -/
structure Position where
  ticket : Int
  symbol : String
  side : String
  quantity : ℚ
  priceOpen : ℚ
  priceCurrent : ℚ
  swap : ℚ
  profit : ℚ
  unrealizedPnl : ℚ
  margin : ℚ
  magic : Option Int
  sl : Option ℚ
  tp : Option ℚ
deriving DecidableEq

/-- What the terminal answers when it is asked for its positions. -/
inductive RawRead
  | raised
  | none
  | rows (rows : List BrokerRow)
deriving DecidableEq

/-- A level, unless the terminal reports that none is placed. -/
def level? (price : ℚ) : Option ℚ :=
  if 0 < price then some price else none

/-- One row as a position. -/
def positionOfRow (row : BrokerRow) : Position where
  ticket := row.ticket
  symbol := row.symbol
  side := if row.type = 0 then "BUY" else "SELL"
  quantity := row.volume
  priceOpen := row.priceOpen
  priceCurrent := row.priceCurrent
  swap := row.swap
  profit := row.profit
  unrealizedPnl := row.profit
  margin := 0
  magic := row.magic.filter fun magic => magic ≠ 0
  sl := level? row.sl
  tp := level? row.tp

/-- The positions of the simulation. -/
def simulatedPositions : List Position :=
  [{ ticket := 1001, symbol := "EURUSD", side := "BUY", quantity := 1,
     priceOpen := 10840 / 10000, priceCurrent := 10852 / 10000, swap := 0, profit := 12,
     unrealizedPnl := 12, margin := 1084 / 10, magic := none, sl := none, tp := none },
   { ticket := 1002, symbol := "XAUUSD", side := "SELL", quantity := 1 / 2,
     priceOpen := 2350, priceCurrent := 23455 / 10, swap := -1 / 2, profit := 225 / 100,
     unrealizedPnl := 225 / 100, margin := 1175, magic := none, sl := none, tp := none }]

/-- The open positions.  A failed read is an empty list. -/
def getPositions (liveMode : Bool) (read : RawRead) : List Position :=
  if liveMode then
    match read with
    | .raised => []
    | .none => []
    | .rows rows => rows.map positionOfRow
  else
    simulatedPositions

/-- A row of the terminal's table of pending orders. -/
structure OrderRow where
  ticket : Int
  symbol : String
  type : Int
  priceOpen : ℚ
  priceStoplimit : Option ℚ
  volumeInitial : ℚ
  volumeCurrent : ℚ
  state : Int
deriving DecidableEq

/-- A pending order as the services see it. -/
structure PendingOrder where
  ticket : Int
  symbol : String
  side : String
  orderType : String
  price : ℚ
  stopPrice : Option ℚ
  quantity : ℚ
  filledQty : ℚ
  status : String
deriving DecidableEq

/-- What the terminal answers when it is asked for its pending orders. -/
inductive RawOrders
  | raised
  | none
  | rows (rows : List OrderRow)
deriving DecidableEq

/-- One row as an order. -/
def orderOfRow (row : OrderRow) : PendingOrder where
  ticket := row.ticket
  symbol := row.symbol
  side := if row.type = 0 ∨ row.type = 2 ∨ row.type = 4 then "BUY" else "SELL"
  orderType := toString row.type
  price := row.priceOpen
  stopPrice := row.priceStoplimit
  quantity := row.volumeInitial
  filledQty := row.volumeCurrent
  status := toString row.state

/-- The pending orders.  A failed read is an empty list. -/
def getOrders (liveMode : Bool) (read : RawOrders) : List PendingOrder :=
  if liveMode then
    match read with
    | .raised => []
    | .none => []
    | .rows rows => rows.map orderOfRow
  else []

/-- Call a function of the module that lists the open positions, by its name. -/
def callPositions (liveMode : Bool) (read : RawRead) (name : String) :
    Except String (List Position) :=
  if name = "get_positions" then .ok (getPositions liveMode read)
  else .error s!"module 'mt5.connector' has no attribute '{name}'"

/-- The open positions and whether the read is verified.  `read` answers the check
and `second` the plain read that follows it. -/
def getPositionsEx (liveMode : Bool) (read second : RawRead) : Bool × List Position :=
  if liveMode then
    match read with
    | .raised => (false, [])
    | .none => (false, [])
    | .rows _ => (true, getPositions liveMode second)
  else
    (true, getPositions liveMode second)

/-! ## Successful reads -/

/-- The complete list that a read gives, when it succeeds. -/
def completeList (liveMode : Bool) (read : RawRead) : Option (List Position) :=
  if liveMode then
    match read with
    | .rows rows => some (rows.map positionOfRow)
    | _ => none
  else
    some simulatedPositions

theorem getPositions_eq (liveMode : Bool) (read : RawRead) :
    getPositions liveMode read = (completeList liveMode read).getD [] := by
  cases liveMode <;> cases read <;> rfl

/-- The complete list of orders that a read gives, when it succeeds. -/
def completeOrders (liveMode : Bool) (read : RawOrders) : Option (List PendingOrder) :=
  if liveMode then
    match read with
    | .rows rows => some (rows.map orderOfRow)
    | _ => none
  else some []

theorem getOrders_eq (liveMode : Bool) (read : RawOrders) :
    getOrders liveMode read = (completeOrders liveMode read).getD [] := by
  cases liveMode <;> cases read <;> rfl

/-- The verified read is complete when a positive answer comes with the list of one
successful read. -/
def CompleteWhenVerified (liveMode : Bool) (read second : RawRead) : Prop :=
  (getPositionsEx liveMode read second).1 = true →
    completeList liveMode read = some (getPositionsEx liveMode read second).2 ∨
      completeList liveMode second = some (getPositionsEx liveMode read second).2

/-- Only a plain read that fails right after a check that found positions gives a
positive answer without the list. -/
theorem completeWhenVerified_iff (liveMode : Bool) (read second : RawRead) :
    CompleteWhenVerified liveMode read second ↔
      (completeList liveMode second = none →
        (completeList liveMode read).getD [] = []) := by
  unfold CompleteWhenVerified
  cases liveMode with
  | false =>
      exact iff_of_true (fun _ => Or.inl rfl) (fun absent => (nomatch absent))
  | true =>
      cases read with
      | raised => exact iff_of_true (fun verified => (nomatch verified)) fun _ => rfl
      | none => exact iff_of_true (fun verified => (nomatch verified)) fun _ => rfl
      | rows rows =>
          cases second with
          | rows again => exact iff_of_true (fun _ => Or.inr rfl) (fun absent => (nomatch absent))
          | raised => simp [getPositionsEx, getPositions, completeList]
          | none => simp [getPositionsEx, getPositions, completeList]

end EaBot.Mt5
