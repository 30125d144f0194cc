import EaBot.Persistence.OrderStateStore
import EaBot.Review.CloseDetector

/-!
# The position monitor

The monitor has two entry points.  `monitorAllPositions` hands the open positions
to the close detector, and `detectPositionChanges` compares them with the levels it
remembers and marks tickets that are gone as closed in the order store.  Each keeps
its own account of the tickets that were there before.

The second entry point asks its connector for a verified read; without an injected
connector, or with one that has no such read, the plain read counts as verified.
-/

namespace EaBot.Monitoring

open EaBot.Foundation EaBot.Mt5 EaBot.Persistence EaBot.Review

inductive Side
  | buy
  | sell
deriving DecidableEq

inductive EventType
  | slChanged
  | tpChanged
  | partialClose
  | positionDisappeared
deriving DecidableEq

inductive Severity
  | info
  | warning
  | critical
deriving DecidableEq

/-- A snapshot of an open position. -/
structure PositionSnapshot where
  symbol : String
  side : Side
  volume : ℚ
  entryPrice : ℚ
  currentPrice : ℚ
  pnl : ℚ
  pnlPct : ℚ
  sl : ℚ
  tp : ℚ
  margin : ℚ
  swap : ℚ
  ticket : Int
deriving DecidableEq

/-- A detected change, with the value before and after it where it has one. -/
structure AbnormalEvent where
  eventType : EventType
  severity : Severity
  symbol : String
  ticket : Int
  old : Option ℚ
  new : Option ℚ
deriving DecidableEq

/-- The levels last seen for every tracked ticket.  Ticket zero is never tracked. -/
structure TrackedLevels where
  lastSl : Dict Int ℚ
  lastTp : Dict Int ℚ
  lastVolume : Dict Int ℚ
  nonzero : lastSl.get 0 = none

namespace TrackedLevels

/-- Nothing tracked. -/
def empty : TrackedLevels :=
  ⟨Dict.empty, Dict.empty, Dict.empty, rfl⟩

/-- The tracked tickets. -/
def tickets (tracked : TrackedLevels) : List Int :=
  tracked.lastSl.keys

/-- Take over the levels of a snapshot, unless its ticket is zero. -/
def take (tracked : TrackedLevels) (snapshot : PositionSnapshot) : TrackedLevels :=
  if zero : snapshot.ticket = 0 then tracked
  else
    { lastSl := tracked.lastSl.set snapshot.ticket snapshot.sl
      lastTp := tracked.lastTp.set snapshot.ticket snapshot.tp
      lastVolume := tracked.lastVolume.set snapshot.ticket snapshot.volume
      nonzero := by rw [Dict.get_set_of_ne _ (Ne.symm zero), tracked.nonzero] }

/-- Forget a ticket. -/
def drop (tracked : TrackedLevels) (ticket : Int) : TrackedLevels where
  lastSl := tracked.lastSl.erase ticket
  lastTp := tracked.lastTp.erase ticket
  lastVolume := tracked.lastVolume.erase ticket
  nonzero := by rw [Dict.get_erase, tracked.nonzero, ite_self]

end TrackedLevels

/-- The durable copy of the tracked levels. -/
structure PositionReconciliationStore where
  snapshot : Option TrackedLevels

/-- The reply of a connector's verified read. -/
inductive ExReply
  | raised
  | other
  | pair (ok : Bool) (positions : List Position)

/-- What an injected connector answers when it is read.  An absent method is
`none`, and a plain read that raises is an inner `none`. -/
structure PositionSource where
  getPositionsEx : Option ExReply
  getPositions : Option (Option (List Position))
  positions : Option (Option (List Position))

/-- The plain read of the monitor, unless it raises.  `fallback` is the plain read
of the terminal connector. -/
def getPositions (source : Option PositionSource) (fallback : List Position) :
    Option (List Position) :=
  match source with
  | none => some fallback
  | some source =>
      match source.getPositions with
      | some reply => reply
      | none =>
          match source.positions with
          | some (some positions) => some positions
          | _ => some fallback

/-- The read of the monitor that carries a verified flag, unless it raises. -/
def getPositionsEx (source : Option PositionSource) (fallback : List Position) :
    Option (Bool × List Position) :=
  match source.bind PositionSource.getPositionsEx with
  | some .raised => some (false, [])
  | some (.pair ok positions) => some (ok, positions)
  | _ => (getPositions source fallback).map fun positions => (true, positions)

/-- The monitor. -/
structure PositionMonitor where
  closeDetector : Option PositionCloseDetector
  reconciliationStore : Option PositionReconciliationStore
  tracked : TrackedLevels
  entryPrices : Dict Int ℚ
  positionHistory : Dict Int (List PositionSnapshot)

namespace PositionMonitor

/-- A new monitor restores the levels that its store holds. -/
def build (closeDetector : Option PositionCloseDetector)
    (reconciliationStore : Option PositionReconciliationStore) : PositionMonitor where
  closeDetector := closeDetector
  reconciliationStore := reconciliationStore
  tracked := (reconciliationStore.bind PositionReconciliationStore.snapshot).getD
    TrackedLevels.empty
  entryPrices := Dict.empty
  positionHistory := Dict.empty

/-- The side that a text names. -/
def toSide (side : String) : Side :=
  if Text.contains (Text.upper (Text.strip side)) "SELL" then .sell else .buy

/-- A position as a snapshot.  Positions of the connector have no volume, only a
quantity. -/
def snapshotOf (position : Position) : PositionSnapshot :=
  let volume : ℚ := 0
  let pnl := if position.profit ≠ 0 then position.profit else position.unrealizedPnl
  let positionValue := position.priceOpen * volume
  { symbol := position.symbol, side := toSide position.side, volume := volume,
    entryPrice := position.priceOpen, currentPrice := position.priceCurrent, pnl := pnl,
    pnlPct := if 0 < positionValue then pnl / positionValue * 100 else 0,
    sl := position.sl.getD 0, tp := position.tp.getD 0, margin := position.margin,
    swap := position.swap, ticket := position.ticket }

/-- Remember the entry price of a ticket that is seen for the first time. -/
def rememberEntry (entryPrices : Dict Int ℚ) (position : Position) : Dict Int ℚ :=
  if position.ticket ≠ 0 ∧ entryPrices.get position.ticket = none then
    entryPrices.set position.ticket position.priceOpen
  else entryPrices

/-- Add a snapshot to the history of its ticket, which keeps the last hundred. -/
def recordHistory (history : Dict Int (List PositionSnapshot)) (snapshot : PositionSnapshot) :
    Dict Int (List PositionSnapshot) :=
  let extended := (history.get snapshot.ticket).getD [] ++ [snapshot]
  history.set snapshot.ticket (extended.drop (extended.length - 100))

/-- Take the snapshots of the positions into the monitor. -/
def snapshotPositions (monitor : PositionMonitor) (positions : List Position) :
    List PositionSnapshot × PositionMonitor :=
  (positions.map snapshotOf,
    { monitor with
      entryPrices := positions.foldl rememberEntry monitor.entryPrices
      positionHistory := (positions.map snapshotOf).foldl recordHistory
        monitor.positionHistory })

/-- Take in the open positions: the close records handed to the hook of the close
detector, the snapshots, and the monitor afterwards. -/
def monitorAllPositions (monitor : PositionMonitor) (sources : CloseSources)
    (positions : List Position) :
    List CloseRecord × List PositionSnapshot × PositionMonitor :=
  match monitor.closeDetector with
  | none =>
      let taken := monitor.snapshotPositions positions
      ([], taken.1, taken.2)
  | some detector =>
      let observed := detector.observe sources positions
      let taken := { monitor with closeDetector := some observed.2 }.snapshotPositions positions
      (observed.1, taken.1, taken.2)

/-- Append a closed record for a ticket to the order store, and report whether one
was written. -/
def markTicketClosed (store : Option OrderStateStore) (ticket : Int) :
    Bool × Option OrderStateStore :=
  match store with
  | none => (false, none)
  | some store =>
      let marked := store.markClosed (.int ticket) "broker_position_disappeared" none
      (marked.1, some marked.2)

/-- The changes between the remembered levels of a ticket and a snapshot of it. -/
def changes (tracked : TrackedLevels) (snapshot : PositionSnapshot) : List AbnormalEvent :=
  let ticket := snapshot.ticket
  let event (eventType : EventType) (old new : ℚ) : AbnormalEvent :=
    ⟨eventType, .warning, snapshot.symbol, ticket, some old, some new⟩
  let slChange :=
    match tracked.lastSl.get ticket with
    | some old => if snapshot.sl ≠ old then [event .slChanged old snapshot.sl] else []
    | none => []
  let tpChange :=
    match tracked.lastTp.get ticket with
    | some old => if snapshot.tp ≠ old then [event .tpChanged old snapshot.tp] else []
    | none => []
  let volumeChange :=
    match tracked.lastVolume.get ticket with
    | some old => if snapshot.volume < old then [event .partialClose old snapshot.volume] else []
    | none => []
  slChange ++ tpChange ++ volumeChange

/-- Compare the snapshots with the remembered levels, one after the other. -/
def compareAll (tracked : TrackedLevels) :
    List PositionSnapshot → List AbnormalEvent × TrackedLevels
  | [] => ([], tracked)
  | snapshot :: rest =>
      if snapshot.ticket = 0 then compareAll tracked rest
      else
        let later := compareAll (tracked.take snapshot) rest
        (changes tracked snapshot ++ later.1, later.2)

/-- What a comparison of the positions leaves behind: the events, the tickets for
which a closed record was written, the monitor and the order store. -/
structure Detection where
  events : List AbnormalEvent
  closed : List Int
  monitor : PositionMonitor
  store : Option OrderStateStore

/-- The event of a ticket that is gone. -/
def disappearance (ticket : Int) : AbnormalEvent :=
  ⟨.positionDisappeared, .warning, "", ticket, none, none⟩

/-- Mark the tickets closed, one after the other. -/
def closeTickets (store : Option OrderStateStore) : List Int → List Int × Option OrderStateStore
  | [] => ([], store)
  | ticket :: rest =>
      let marked := markTicketClosed store ticket
      let later := closeTickets marked.2 rest
      (if marked.1 then ticket :: later.1 else later.1, later.2)

/-- Save the tracked levels in the reconciliation store, when there is one. -/
def persist (monitor : PositionMonitor) : PositionMonitor :=
  { monitor with
    reconciliationStore := monitor.reconciliationStore.map fun _ => ⟨some monitor.tracked⟩ }

/-- Compare the positions of a verified read with the remembered levels. -/
def detectPositionChanges (monitor : PositionMonitor) (store : Option OrderStateStore)
    (read : Bool × List Position) : Detection :=
  if !read.1 then ⟨[], [], monitor, store⟩
  else
    let taken := monitor.snapshotPositions read.2
    let compared := compareAll monitor.tracked taken.1
    let seen := (taken.1.map PositionSnapshot.ticket).filter fun ticket => ticket ≠ 0
    let gone := compared.2.tickets.filter fun ticket => ticket ∉ seen
    let marked := closeTickets store gone
    ⟨compared.1 ++ gone.map disappearance, marked.1,
      { taken.2 with tracked := gone.foldl TrackedLevels.drop compared.2 }.persist, marked.2⟩

end PositionMonitor

/-! ## Which tickets are tracked -/

namespace TrackedLevels

variable (tracked : TrackedLevels)

theorem mem_tickets_take (snapshot : PositionSnapshot) (ticket : Int) :
    ticket ∈ (tracked.take snapshot).tickets ↔
      (ticket ≠ 0 ∧ ticket = snapshot.ticket) ∨ ticket ∈ tracked.tickets := by
  unfold take
  split
  · rename_i zero
    rw [zero]
    tauto
  · rename_i nonzero
    rw [tickets, Dict.mem_keys_set]
    constructor
    · rintro (same | kept)
      · exact Or.inl ⟨same ▸ nonzero, same⟩
      · exact Or.inr kept
    · rintro (⟨-, same⟩ | kept)
      · exact Or.inl same
      · exact Or.inr kept

theorem mem_tickets_drop (gone ticket : Int) :
    ticket ∈ (tracked.drop gone).tickets ↔ ticket ≠ gone ∧ ticket ∈ tracked.tickets :=
  Dict.mem_keys_erase _ _ _

theorem mem_tickets_foldl_drop (gone : List Int) (ticket : Int) :
    ticket ∈ (gone.foldl drop tracked).tickets ↔ ticket ∉ gone ∧ ticket ∈ tracked.tickets := by
  induction gone generalizing tracked with
  | nil => simp
  | cons first rest ih =>
      rw [List.foldl_cons, ih, mem_tickets_drop, List.mem_cons]
      tauto

theorem ne_zero_of_mem_tickets {ticket : Int} (member : ticket ∈ tracked.tickets) :
    ticket ≠ 0 := by
  rintro rfl
  exact (Dict.get_eq_none_iff _ _).mp tracked.nonzero member

end TrackedLevels

namespace PositionMonitor

theorem mem_tickets_compareAll (tracked : TrackedLevels) (snapshots : List PositionSnapshot)
    (ticket : Int) :
    ticket ∈ (compareAll tracked snapshots).2.tickets ↔
      (ticket ≠ 0 ∧ ticket ∈ snapshots.map PositionSnapshot.ticket) ∨
        ticket ∈ tracked.tickets := by
  induction snapshots generalizing tracked with
  | nil => simp [compareAll]
  | cons snapshot rest ih =>
      rw [compareAll, List.map_cons, List.mem_cons]
      split
      · rename_i zero
        rw [ih, zero]
        tauto
      · rw [ih, TrackedLevels.mem_tickets_take]
        tauto

/-! ## Closing tickets in the order store -/

/-- A ticket for which nothing is written leaves the store as it was. -/
theorem markTicketClosed_of_not {store : Option OrderStateStore} {ticket : Int}
    (unwritten : (markTicketClosed store ticket).1 = false) :
    (markTicketClosed store ticket).2 = store := by
  cases store with
  | none => rfl
  | some store =>
      apply congrArg some
      exact OrderStateStore.markClosed_of_not unwritten

theorem closeTickets_sublist (store : Option OrderStateStore) (tickets : List Int) :
    (closeTickets store tickets).1.Sublist tickets := by
  induction tickets generalizing store with
  | nil => exact List.Sublist.refl _
  | cons ticket rest ih =>
      rw [closeTickets]
      dsimp only
      split
      · exact (ih _).cons_cons _
      · exact (ih _).cons _

/-- Nothing is written for a list of tickets exactly when nothing would be written for
any of them in the store as it is. -/
theorem closeTickets_eq_nil_iff (store : Option OrderStateStore) (tickets : List Int) :
    (closeTickets store tickets).1 = [] ↔
      ∀ ticket ∈ tickets, (markTicketClosed store ticket).1 = false := by
  induction tickets generalizing store with
  | nil => exact iff_of_true rfl fun _ absent => nomatch absent
  | cons ticket rest ih =>
      rw [closeTickets, List.forall_mem_cons]
      dsimp only
      cases written : (markTicketClosed store ticket).1 with
      | true => simp
      | false =>
          rw [if_neg Bool.false_ne_true, ih, markTicketClosed_of_not written]
          exact (and_iff_right rfl).symm

/-! ## What a comparison leaves behind -/

section Detect

variable (monitor : PositionMonitor) (store : Option OrderStateStore)
  (positions : List Position)

/-- The tracked tickets that a list of positions does not have. -/
def goneTickets : List Int :=
  let compared := (compareAll monitor.tracked (positions.map snapshotOf)).2
  compared.tickets.filter fun ticket =>
    ticket ∉ ((positions.map snapshotOf).map PositionSnapshot.ticket).filter (· ≠ 0)

theorem mem_goneTickets (ticket : Int) :
    ticket ∈ monitor.goneTickets positions ↔
      ticket ∈ monitor.tracked.tickets ∧ ticket ∉ positions.map Position.ticket := by
  have same : (positions.map snapshotOf).map PositionSnapshot.ticket =
      positions.map Position.ticket := by
    rw [List.map_map]
    rfl
  rw [goneTickets, List.mem_filter, decide_eq_true_iff, mem_tickets_compareAll, List.mem_filter,
    decide_eq_true_iff, same]
  constructor
  · rintro ⟨⟨nonzero, listed⟩ | tracked, unseen⟩
    · exact absurd ⟨listed, nonzero⟩ unseen
    · exact ⟨tracked, fun listed =>
        unseen ⟨listed, monitor.tracked.ne_zero_of_mem_tickets tracked⟩⟩
  · rintro ⟨tracked, unlisted⟩
    exact ⟨Or.inr tracked, fun seen => unlisted seen.1⟩

theorem nodup_goneTickets : (monitor.goneTickets positions).Nodup :=
  (compareAll monitor.tracked (positions.map snapshotOf)).2.lastSl.distinct.filter _

/-- After a comparison the tracked tickets are those of the positions. -/
theorem mem_tickets_detect (ticket : Int) :
    ticket ∈ (monitor.detectPositionChanges store (true, positions)).monitor.tracked.tickets ↔
      ticket ≠ 0 ∧ ticket ∈ positions.map Position.ticket := by
  have reached : (monitor.detectPositionChanges store (true, positions)).monitor.tracked =
      (monitor.goneTickets positions).foldl TrackedLevels.drop
        (compareAll monitor.tracked (positions.map snapshotOf)).2 :=
    rfl
  have same : (positions.map snapshotOf).map PositionSnapshot.ticket =
      positions.map Position.ticket := by
    rw [List.map_map]
    rfl
  rw [reached, TrackedLevels.mem_tickets_foldl_drop, mem_tickets_compareAll, mem_goneTickets,
    same]
  constructor
  · rintro ⟨kept, listed | tracked⟩
    · exact listed
    · exact ⟨monitor.tracked.ne_zero_of_mem_tickets tracked,
        not_not.mp fun unlisted => kept ⟨tracked, unlisted⟩⟩
  · rintro ⟨nonzero, listed⟩
    exact ⟨fun gone => gone.2 listed, Or.inl ⟨nonzero, listed⟩⟩

end Detect

end PositionMonitor

end EaBot.Monitoring
