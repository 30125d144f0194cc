import EaBot.Foundation.Dict
import EaBot.Mt5.Connector

/-!
# The position-close detector

The detector compares every list of open positions that it is given with the one
before.  A ticket that was there and is not any more counts as closed: a close
record is built from the last position seen under the ticket and handed to a
hook.  The detector cannot tell a list that is empty because a read failed from
one that is empty because no position is open.
-/

namespace EaBot.Review

open EaBot.Foundation EaBot.Mt5

/-- The closing deal that the terminal's history holds for a ticket. -/
structure CloseDeal where
  price : ℚ
  profit : Option ℚ
  ticket : Option Int
  closedAt : Option String

/-- What was remembered about an order when it was entered. -/
structure EntryContext where
  symbol : String
  regime : String
  entryPrice : ℚ
  stopLoss : ℚ
  takeProfit : ℚ
  plannedRr : ℚ
  riskDistance : ℚ

/-- Where a close record takes its details from, for every ticket. -/
structure CloseSources where
  closeDeal : Int → Option CloseDeal
  entryContext : Int → Option EntryContext

/-- The record of a close. -/
structure CloseRecord where
  tradeId : Int
  ticket : Int
  symbol : String
  status : String
  direction : String
  side : String
  entryPrice : ℚ
  closePrice : ℚ
  pnl : ℚ
  closePriceSource : String
  brokerDealTicket : Option Int
  closedAt : Option String
  closeReason : String
  regime : Option String
  stopLoss : Option ℚ
  takeProfit : Option ℚ
  plannedRr : Option ℚ
  riskDistance : Option ℚ

/-- A quantity, unless it is zero. -/
def nonzero? (quantity : ℚ) : Option ℚ :=
  if quantity ≠ 0 then some quantity else none

/-- Whether an exit price lies on a remembered level. -/
def hits (level exitPrice : ℚ) : Bool :=
  0 < level ∧ 0 < exitPrice ∧ |exitPrice - level| / max exitPrice (1 / 10 ^ 9) < 5 / 10 ^ 4

/-- Why a position was closed, read off the exit price. -/
def closeReason (context : Option EntryContext) (exitPrice : ℚ) : String :=
  if hits (context.elim 0 EntryContext.stopLoss) exitPrice then "STOP_LOSS"
  else if hits (context.elim 0 EntryContext.takeProfit) exitPrice then "TAKE_PROFIT"
  else "unknown"

/-- The record of a close as the last position seen tells it. -/
def lastSeenRecord (position : Position) : CloseRecord :=
  let side := Text.upper position.side
  let direction := if side = "BUY" ∨ side = "SELL" then side else "BUY"
  { tradeId := position.ticket, ticket := position.ticket, symbol := position.symbol,
    status := "CLOSED", direction := direction, side := direction,
    entryPrice := position.priceOpen, closePrice := position.priceCurrent,
    pnl := position.profit, closePriceSource := "last_seen", brokerDealTicket := none,
    closedAt := none, closeReason := "", regime := none, stopLoss := none,
    takeProfit := none, plannedRr := none, riskDistance := none }

/-- The record with the outcome of the closing deal. -/
def withDeal (record : CloseRecord) : Option CloseDeal → CloseRecord
  | none => record
  | some deal =>
      if 0 < deal.price then
        { record with
          closePrice := deal.price
          closePriceSource := "deal_history"
          pnl := deal.profit.getD record.pnl
          brokerDealTicket := deal.ticket
          closedAt := deal.closedAt }
      else record

/-- The record with what was remembered at the entry. -/
def withContext (record : CloseRecord) : Option EntryContext → CloseRecord
  | none => record
  | some context =>
      { record with
        symbol := if record.symbol = "" then context.symbol else record.symbol
        regime := if context.regime = "" then none else some context.regime
        entryPrice := if record.entryPrice = 0 then context.entryPrice else record.entryPrice
        stopLoss := nonzero? context.stopLoss
        takeProfit := nonzero? context.takeProfit
        plannedRr := nonzero? context.plannedRr
        riskDistance := nonzero? context.riskDistance }

/-- The record of a close. -/
def buildCloseRecord (sources : CloseSources) (position : Position) : CloseRecord :=
  let context := sources.entryContext position.ticket
  let record := withDeal (lastSeenRecord position) (sources.closeDeal position.ticket)
  withContext { record with closeReason := closeReason context record.closePrice } context

/-- A detector: the last position seen under each ticket of the last list. -/
structure PositionCloseDetector where
  known : Dict Int Position
  keyed : ∀ ticket position, known.get ticket = some position → position.ticket = ticket

namespace PositionCloseDetector

/-- A detector that has seen nothing. -/
def initial : PositionCloseDetector :=
  ⟨Dict.empty, fun _ _ absent => (nomatch absent)⟩

/-- The tickets of the last list. -/
def tickets (detector : PositionCloseDetector) : List Int :=
  detector.known.keys

/-- The positions of the last list whose tickets a new list does not have. -/
def vanished (detector : PositionCloseDetector) (positions : List Position) : List Position :=
  detector.known.values.filter fun position => position.ticket ∉ positions.map Position.ticket

/-- Compare a list of positions with the one before: the close records to hand to
the hook, in order, and the detector that knows the new list. -/
def observe (detector : PositionCloseDetector) (sources : CloseSources)
    (positions : List Position) : List CloseRecord × PositionCloseDetector :=
  ((detector.vanished positions).map (buildCloseRecord sources),
    ⟨Dict.indexBy Position.ticket positions, fun _ _ found => (Dict.of_get_indexBy found).1⟩)

end PositionCloseDetector

/-! ## Which tickets are reported -/

@[simp]
theorem buildCloseRecord_ticket (sources : CloseSources) (position : Position) :
    (buildCloseRecord sources position).ticket = position.ticket := by
  unfold buildCloseRecord withContext withDeal
  dsimp only
  split <;> split
  · rfl
  · split <;> rfl
  · rfl
  · split <;> rfl

namespace PositionCloseDetector

variable (detector : PositionCloseDetector) (sources : CloseSources) (positions : List Position)

theorem values_tickets : detector.known.values.map Position.ticket = detector.tickets := by
  rw [tickets, Dict.keys, Dict.values, List.map_map]
  apply List.map_congr_left
  rintro ⟨ticket, position⟩ member
  exact detector.keyed ticket position ((Dict.mem_entries_iff _ _ _).mp member)

theorem mem_tickets_observe (ticket : Int) :
    ticket ∈ (detector.observe sources positions).2.tickets ↔
      ticket ∈ positions.map Position.ticket :=
  Dict.mem_keys_indexBy _ _ _

/-- The vanished tickets are the known ones that the new list does not have. -/
theorem vanished_tickets :
    (detector.vanished positions).map Position.ticket =
      detector.tickets.filter fun ticket => ticket ∉ positions.map Position.ticket := by
  rw [vanished, ← values_tickets, List.filter_map]
  rfl

theorem observe_tickets :
    (detector.observe sources positions).1.map CloseRecord.ticket =
      (detector.vanished positions).map Position.ticket := by
  rw [observe, List.map_map]
  apply List.map_congr_left
  intro position _
  exact buildCloseRecord_ticket sources position

end PositionCloseDetector

end EaBot.Review
