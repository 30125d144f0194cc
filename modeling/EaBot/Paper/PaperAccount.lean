import EaBot.Foundation.Run
import EaBot.Foundation.Text
import Mathlib.Algebra.BigOperators.Group.List.Basic
import Mathlib.Algebra.Order.Ring.Rat
import Mathlib.Tactic.Linarith
import Mathlib.Tactic.Ring

/-!
# The paper account

A paper account is changed by two classes at different moments.  Its equity is computed anew
whenever a position or the balance changes, and its trades carry the profits that go into the
balance.

The free margin is computed only when the used margin is set.  It is left as it is by everything
that changes the equity afterwards.
-/

namespace EaBot.Paper

open EaBot.Foundation

/-! ## Positions and trades -/

/-- An open position. -/
structure PaperPosition where
  symbol : String
  entryPrice : ℚ
  size : ℚ
  side : String
  currentPrice : ℚ
  stopLoss : ℚ
  takeProfit : ℚ
  pnl : ℚ
  pnlPct : ℚ
deriving DecidableEq

/-- A trade of the history; one that leaves a position open has no profit. -/
structure PaperTrade where
  symbol : String
  orderType : String
  volume : ℚ
  executionPrice : ℚ
  spreadApplied : ℚ
  slippageApplied : ℚ
  ticket : Int
  pnl : Option ℚ
deriving DecidableEq

namespace PaperPosition

variable (contractSize : String → ℚ)

/-- By how much the price has moved in favour of the position. -/
def priceDiff (position : PaperPosition) : ℚ :=
  if Text.upper position.side = "BUY" then position.currentPrice - position.entryPrice
  else position.entryPrice - position.currentPrice

/-- Compute the unrealised profit. -/
def updatePnl (position : PaperPosition) : PaperPosition :=
  { position with
    pnl := position.priceDiff * position.size * contractSize position.symbol
    pnlPct :=
      if 0 < position.entryPrice then position.priceDiff / position.entryPrice * 100
      else position.pnlPct }

/-- A position has a profit from the start when its current price is known. -/
def postInit (position : PaperPosition) : PaperPosition :=
  if 0 < position.currentPrice then position.updatePnl contractSize else position

/-- The position at another price. -/
def updatePrice (newPrice : ℚ) (position : PaperPosition) : PaperPosition :=
  { position with currentPrice := newPrice }.updatePnl contractSize

/-- The profit of closing the position at a price. -/
def realised (contract closePrice : ℚ) (position : PaperPosition) : ℚ :=
  if Text.upper position.side = "BUY" then
    (closePrice - position.entryPrice) * position.size * contract
  else (position.entryPrice - closePrice) * position.size * contract

/-- Whether the position is the one of a symbol and a side. -/
def isOf (symbol side : String) (position : PaperPosition) : Bool :=
  position.symbol = symbol ∧ Text.upper position.side = Text.upper side

end PaperPosition

/-! ## The account -/

/-- A paper account. -/
structure PaperAccount where
  initialBalance : ℚ
  balance : ℚ
  equity : ℚ
  peakEquity : ℚ
  usedMargin : ℚ
  freeMargin : ℚ
  positions : List PaperPosition
  history : List PaperTrade
  dailyPnl : ℚ
  dailyTrades : Nat
deriving DecidableEq

namespace PaperAccount

/-- Amounts that are zero start at the initial balance. -/
def postInit (account : PaperAccount) : PaperAccount :=
  let orInitial (amount : ℚ) : ℚ := if amount = 0 then account.initialBalance else amount
  { account with
    balance := orInitial account.balance
    equity := orInitial account.equity
    peakEquity := orInitial account.peakEquity
    freeMargin := orInitial account.freeMargin }

/-- A new account. -/
def create (initialBalance : ℚ) : PaperAccount :=
  postInit ⟨initialBalance, 0, 0, 0, 0, 0, [], [], 0, 0⟩

/-- The unrealised profit of all open positions. -/
def getTotalPnl (account : PaperAccount) : ℚ :=
  (account.positions.map PaperPosition.pnl).sum

/-- Compute the equity, and the highest one so far. -/
def updateEquity (account : PaperAccount) : PaperAccount :=
  let equity := account.balance + account.getTotalPnl
  { account with
    equity := equity
    peakEquity := if account.peakEquity < equity then equity else account.peakEquity }

/-- Set the used margin and compute the free margin. -/
def updateMargin (account : PaperAccount) (used : ℚ) : PaperAccount :=
  { account with usedMargin := used, freeMargin := max 0 (account.equity - used) }

/-- Add an open position. -/
def addPosition (account : PaperAccount) (position : PaperPosition) : PaperAccount :=
  { account with positions := account.positions ++ [position] }.updateEquity

/-- Remove the first position of a symbol and a side. -/
def removePosition (account : PaperAccount) (symbol side : String) :
    Option PaperPosition × PaperAccount :=
  match account.positions.find? (PaperPosition.isOf symbol side) with
  | some position =>
      (some position,
        { account with
          positions := account.positions.eraseP (PaperPosition.isOf symbol side) }.updateEquity)
  | none => (none, account)

/-- Record a trade. -/
def addTrade (account : PaperAccount) (trade : PaperTrade) : PaperAccount :=
  { account with
    history := account.history ++ [trade], dailyTrades := account.dailyTrades + 1 }

/-- Book a profit. -/
def book (account : PaperAccount) (profit : ℚ) : PaperAccount :=
  { account with balance := account.balance + profit, dailyPnl := account.dailyPnl + profit }

end PaperAccount

/-! ## Simulated execution -/

/-- The position that a simulated order has opened. -/
structure PositionOpened where
  symbol : String
  entryPrice : ℚ
  size : ℚ
  side : String
  stopLoss : ℚ
  takeProfit : ℚ
  spreadApplied : ℚ
  slippageApplied : ℚ

/-- The result of a simulated order. -/
structure SimulatedResult where
  success : Bool
  ticket : Option Int
  positionOpened : Option PositionOpened

/-- Bring an account up to date after a simulated order. -/
def updateAccount (contractSize : String → ℚ) (account : PaperAccount) (result : SimulatedResult)
    (equityChange : ℚ) : PaperAccount :=
  match result.success, result.positionOpened with
  | true, some opened =>
      let position := PaperPosition.postInit contractSize
        { symbol := opened.symbol, entryPrice := opened.entryPrice, size := opened.size,
          side := opened.side, currentPrice := opened.entryPrice, stopLoss := opened.stopLoss,
          takeProfit := opened.takeProfit, pnl := 0, pnlPct := 0 }
      let trade : PaperTrade :=
        { symbol := opened.symbol, orderType := opened.side, volume := opened.size,
          executionPrice := opened.entryPrice, spreadApplied := opened.spreadApplied,
          slippageApplied := opened.slippageApplied, ticket := result.ticket.getD 0,
          pnl := if equityChange ≠ 0 then some equityChange else none }
      let account := (account.addPosition position).addTrade trade
      (if equityChange ≠ 0 then account.book equityChange else account).updateEquity
  | _, _ => account

/-- Close the first open position of a symbol and a side at a price. -/
def closePosition (contractSize : String → ℚ) (spread : ℚ) (account : PaperAccount)
    (symbol side : String) (closePrice : ℚ) : Option PaperTrade × PaperAccount :=
  match account.removePosition symbol side with
  | (none, account) => (none, account)
  | (some position, account) =>
      let pnl := position.realised (contractSize symbol) closePrice
      let trade : PaperTrade :=
        { symbol := symbol, orderType := if Text.upper side = "BUY" then "SELL" else "BUY",
          volume := position.size, executionPrice := closePrice, spreadApplied := spread / 2,
          slippageApplied := 0, ticket := 0, pnl := some pnl }
      (some trade, ((account.addTrade trade).book pnl).updateEquity)

/-- Positions at other prices, each change by the index of its position. -/
def updatePrices (contractSize : String → ℚ) (positions : List PaperPosition)
    (changes : List (Nat × ℚ)) : List PaperPosition :=
  changes.foldl (fun positions change =>
    positions.modify change.1 (PaperPosition.updatePrice contractSize change.2)) positions

/-- The operations on an account, with the contract sizes that they find. -/
inductive PaperOperation
  | updateAccount (contractSize : String → ℚ) (result : SimulatedResult) (equityChange : ℚ)
  | closePosition (contractSize : String → ℚ) (spread : ℚ) (symbol side : String)
      (closePrice : ℚ)
  | updatePrices (contractSize : String → ℚ) (changes : List (Nat × ℚ))
  | updateMargin (used : ℚ)

namespace PaperAccount

/-- The account after an operation. -/
def step (account : PaperAccount) : PaperOperation → PaperAccount
  | .updateAccount contractSize result equityChange =>
      Paper.updateAccount contractSize account result equityChange
  | .closePosition contractSize spread symbol side closePrice =>
      (Paper.closePosition contractSize spread account symbol side closePrice).2
  | .updatePrices contractSize changes =>
      { account with
        positions := Paper.updatePrices contractSize account.positions changes }.updateEquity
  | .updateMargin used => account.updateMargin used

/-! ## What holds of an account -/

/-- The profits that the history records. -/
def recordedPnl (account : PaperAccount) : ℚ :=
  (account.history.map fun trade => trade.pnl.getD 0).sum

/-- The books of an account are right. -/
structure Balanced (account : PaperAccount) : Prop where
  equity : account.equity = account.balance + account.getTotalPnl
  peak : account.equity ≤ account.peakEquity
  recorded : account.balance - account.initialBalance = account.recordedPnl

/-- The free margin is what the equity leaves over the used margin. -/
def MarginRight (account : PaperAccount) : Prop :=
  account.freeMargin = max 0 (account.equity - account.usedMargin)

/-- The books and the free margin are right after an operation. -/
def RightAfter (account : PaperAccount) (operation : PaperOperation) : Prop :=
  (account.step operation).Balanced ∧ (account.step operation).MarginRight

/-- What an operation adds to the equity. -/
def gain (account : PaperAccount) : PaperOperation → ℚ
  | .updateAccount _ result equityChange =>
      if result.success ∧ result.positionOpened.isSome then equityChange else 0
  | .closePosition contractSize _ symbol side closePrice =>
      match account.positions.find? (PaperPosition.isOf symbol side) with
      | some position => position.realised (contractSize symbol) closePrice - position.pnl
      | none => 0
  | .updatePrices contractSize changes =>
      ((Paper.updatePrices contractSize account.positions changes).map PaperPosition.pnl).sum -
        (account.positions.map PaperPosition.pnl).sum
  | .updateMargin _ => 0

/-- The operation sets the used margin, or adds nothing to the equity, or finds the equity within
the used margin and leaves it there. -/
def LeavesMargin (account : PaperAccount) : PaperOperation → Prop
  | .updateMargin _ => True
  | operation => 0 ≤ account.freeMargin ∧
      (account.gain operation = 0 ∨
        account.equity ≤ account.usedMargin ∧
          account.equity + account.gain operation ≤ account.usedMargin)

instance (account : PaperAccount) : Decidable account.Balanced :=
  decidable_of_iff
    (account.equity = account.balance + account.getTotalPnl ∧
      account.equity ≤ account.peakEquity ∧
        account.balance - account.initialBalance = account.recordedPnl)
    ⟨fun holds => ⟨holds.1, holds.2.1, holds.2.2⟩,
      fun balanced => ⟨balanced.equity, balanced.peak, balanced.recorded⟩⟩

instance (account : PaperAccount) : Decidable account.MarginRight :=
  inferInstanceAs (Decidable (_ = _))

instance (account : PaperAccount) (operation : PaperOperation) :
    Decidable (account.RightAfter operation) :=
  inferInstanceAs (Decidable (_ ∧ _))

/-! ## The parts of an operation -/

@[simp] theorem updateEquity_usedMargin (account : PaperAccount) :
    account.updateEquity.usedMargin = account.usedMargin := rfl

@[simp] theorem updateEquity_freeMargin (account : PaperAccount) :
    account.updateEquity.freeMargin = account.freeMargin := rfl

/-- Once the recorded profits are those of the balance, computing the equity gives right books. -/
theorem balanced_updateEquity {account : PaperAccount}
    (recorded : account.balance - account.initialBalance = account.recordedPnl) :
    account.updateEquity.Balanced := by
  refine ⟨rfl, ?_, recorded⟩
  show account.balance + account.getTotalPnl ≤
    if account.peakEquity < account.balance + account.getTotalPnl then
      account.balance + account.getTotalPnl
    else account.peakEquity
  split
  case isTrue => exact le_rfl
  case isFalse lower => exact not_lt.mp lower

theorem recordedPnl_addTrade (account : PaperAccount) (trade : PaperTrade) :
    (account.addTrade trade).recordedPnl = account.recordedPnl + trade.pnl.getD 0 := by
  simp [recordedPnl, addTrade]

/-- A profit that goes into the history and into the balance keeps the two in agreement. -/
theorem recorded_book_addTrade {account : PaperAccount} {trade : PaperTrade} {profit : ℚ}
    (recorded : account.balance - account.initialBalance = account.recordedPnl)
    (recordsIt : trade.pnl.getD 0 = profit) :
    ((account.addTrade trade).book profit).balance -
        ((account.addTrade trade).book profit).initialBalance =
      ((account.addTrade trade).book profit).recordedPnl := by
  have history : ((account.addTrade trade).book profit).recordedPnl =
      account.recordedPnl + profit := by
    rw [← recordsIt]
    exact recordedPnl_addTrade account trade
  rw [history, ← recorded]
  show account.balance + profit - account.initialBalance = _
  ring

/-- A position opened at the current price has no profit yet. -/
theorem postInit_pnl (contractSize : String → ℚ) (position : PaperPosition)
    (atEntry : position.currentPrice = position.entryPrice) (fresh : position.pnl = 0) :
    (position.postInit contractSize).pnl = 0 := by
  rw [PaperPosition.postInit]
  split
  case isTrue =>
    have unmoved : position.priceDiff = 0 := by simp [PaperPosition.priceDiff, atEntry]
    simp [PaperPosition.updatePnl, unmoved]
  case isFalse => exact fresh

theorem getTotalPnl_addPosition (account : PaperAccount) (position : PaperPosition) :
    (account.addPosition position).getTotalPnl = account.getTotalPnl + position.pnl := by
  simp [getTotalPnl, addPosition, updateEquity]

/-- Erasing the position that a search finds takes its profit from the sum. -/
theorem sum_pnl_eraseP {positions : List PaperPosition} {wanted : PaperPosition → Bool}
    {position : PaperPosition} (found : positions.find? wanted = some position) :
    ((positions.eraseP wanted).map PaperPosition.pnl).sum =
      (positions.map PaperPosition.pnl).sum - position.pnl := by
  obtain ⟨holds, before, behind, split, others⟩ := List.find?_eq_some_iff_append.mp found
  have skipped : ∀ other ∈ before, ¬ wanted other := by simpa using others
  rw [split, List.eraseP_append_right _ skipped, List.eraseP_cons_of_pos holds]
  simp only [List.map_append, List.map_cons, List.sum_append, List.sum_cons]
  ring

/-! ## What an operation changes -/

/-- The equity has grown by an amount and the margins are as they were. -/
structure Grown (account other : PaperAccount) (amount : ℚ) : Prop where
  usedMargin : other.usedMargin = account.usedMargin
  freeMargin : other.freeMargin = account.freeMargin
  equity : other.equity = account.equity + amount

theorem Grown.refl (account : PaperAccount) : Grown account account 0 :=
  ⟨rfl, rfl, (add_zero _).symm⟩

/-- The books stay right when a simulated order is taken over. -/
theorem balanced_updateAccount {account : PaperAccount} (balanced : account.Balanced)
    (contractSize : String → ℚ) (result : SimulatedResult) (equityChange : ℚ) :
    (Paper.updateAccount contractSize account result equityChange).Balanced := by
  rw [Paper.updateAccount]
  split
  case h_1 opened _ _ =>
    by_cases change : equityChange ≠ 0
    · simp only [if_pos change]
      exact balanced_updateEquity (recorded_book_addTrade balanced.recorded rfl)
    · simp only [if_neg change]
      apply balanced_updateEquity
      rw [recordedPnl_addTrade]
      exact balanced.recorded.trans (add_zero _).symm
  case h_2 => exact balanced

/-- A simulated order that is taken over changes the equity by what it brings in. -/
theorem grown_updateAccount {account : PaperAccount} (balanced : account.Balanced)
    (contractSize : String → ℚ) (result : SimulatedResult) (equityChange : ℚ) :
    Grown account (Paper.updateAccount contractSize account result equityChange)
      (account.gain (.updateAccount contractSize result equityChange)) := by
  rw [Paper.updateAccount]
  split
  case h_1 opened success isOpened =>
    have gains : account.gain (.updateAccount contractSize result equityChange) =
        equityChange := by
      simp [gain, success, isOpened]
    rw [gains]
    have unrealised := getTotalPnl_addPosition account
      (PaperPosition.postInit contractSize
        { symbol := opened.symbol, entryPrice := opened.entryPrice, size := opened.size,
          side := opened.side, currentPrice := opened.entryPrice, stopLoss := opened.stopLoss,
          takeProfit := opened.takeProfit, pnl := 0, pnlPct := 0 })
    rw [postInit_pnl contractSize _ rfl rfl, add_zero] at unrealised
    by_cases change : equityChange ≠ 0
    · simp only [if_pos change]
      refine ⟨rfl, rfl, ?_⟩
      show account.balance + equityChange + PaperAccount.getTotalPnl (account.addPosition _) = _
      rw [unrealised, balanced.equity]
      ring
    · simp only [if_neg change]
      refine ⟨rfl, rfl, ?_⟩
      show account.balance + PaperAccount.getTotalPnl (account.addPosition _) = _
      rw [unrealised, balanced.equity, not_not.mp change, add_zero]
  case h_2 fails =>
    have gains : account.gain (.updateAccount contractSize result equityChange) = 0 := by
      rw [gain]
      apply if_neg
      rintro ⟨success, isOpened⟩
      obtain ⟨opened, isOpened⟩ := Option.isSome_iff_exists.mp isOpened
      exact fails opened success isOpened
    rw [gains]
    exact .refl account

/-- The books stay right when a position is closed. -/
theorem balanced_closePosition {account : PaperAccount} (balanced : account.Balanced)
    (contractSize : String → ℚ) (spread : ℚ) (symbol side : String) (closePrice : ℚ) :
    (Paper.closePosition contractSize spread account symbol side closePrice).2.Balanced := by
  rw [Paper.closePosition, removePosition]
  cases account.positions.find? (PaperPosition.isOf symbol side) with
  | none => exact balanced
  | some position =>
      apply balanced_updateEquity
      apply recorded_book_addTrade
      · exact balanced.recorded
      · rfl

/-- Closing a position puts what it realises in the place of what it was worth. -/
theorem grown_closePosition {account : PaperAccount} (balanced : account.Balanced)
    (contractSize : String → ℚ) (spread : ℚ) (symbol side : String) (closePrice : ℚ) :
    Grown account (Paper.closePosition contractSize spread account symbol side closePrice).2
      (account.gain (.closePosition contractSize spread symbol side closePrice)) := by
  rw [Paper.closePosition, removePosition, gain]
  cases found : account.positions.find? (PaperPosition.isOf symbol side) with
  | none => exact .refl account
  | some position =>
      refine ⟨rfl, rfl, ?_⟩
      show account.balance + position.realised (contractSize symbol) closePrice +
        ((account.positions.eraseP (PaperPosition.isOf symbol side)).map PaperPosition.pnl).sum = _
      rw [sum_pnl_eraseP found, balanced.equity, getTotalPnl]
      ring

/-- Prices that move change the equity by what the positions gain. -/
theorem grown_updatePrices {account : PaperAccount} (balanced : account.Balanced)
    (contractSize : String → ℚ) (changes : List (Nat × ℚ)) :
    Grown account (account.step (.updatePrices contractSize changes))
      (account.gain (.updatePrices contractSize changes)) := by
  refine ⟨rfl, rfl, ?_⟩
  show account.balance +
    ((Paper.updatePrices contractSize account.positions changes).map PaperPosition.pnl).sum = _
  rw [gain, balanced.equity, getTotalPnl]
  ring

/-- Every operation keeps the books right. -/
theorem balanced_step {account : PaperAccount} (balanced : account.Balanced)
    (operation : PaperOperation) : (account.step operation).Balanced := by
  cases operation with
  | updateAccount contractSize result equityChange =>
      exact balanced_updateAccount balanced contractSize result equityChange
  | closePosition contractSize spread symbol side closePrice =>
      exact balanced_closePosition balanced contractSize spread symbol side closePrice
  | updatePrices contractSize changes => exact balanced_updateEquity balanced.recorded
  | updateMargin used => exact ⟨balanced.equity, balanced.peak, balanced.recorded⟩

/-- The books are right after every operation of every run. -/
theorem balanced_after {account : PaperAccount} (balanced : account.Balanced)
    (operations : List PaperOperation) : (Run.after step account operations).Balanced := by
  induction operations generalizing account with
  | nil => exact balanced
  | cons operation rest ih => exact ih (balanced_step balanced operation)

/-- Every operation but setting the used margin leaves the margins as they are. -/
theorem grown_step {account : PaperAccount} (balanced : account.Balanced)
    {operation : PaperOperation} (other : ∀ used, operation ≠ .updateMargin used) :
    Grown account (account.step operation) (account.gain operation) := by
  cases operation with
  | updateAccount contractSize result equityChange =>
      exact grown_updateAccount balanced contractSize result equityChange
  | closePosition contractSize spread symbol side closePrice =>
      exact grown_closePosition balanced contractSize spread symbol side closePrice
  | updatePrices contractSize changes => exact grown_updatePrices balanced contractSize changes
  | updateMargin used => exact absurd rfl (other used)

/-! ## The free margin -/

/-- Two equities leave the same free margin exactly when they are the same or both lie within the
used margin. -/
theorem free_margin_eq_iff (equity used amount : ℚ) :
    max 0 (equity - used) = max 0 (equity + amount - used) ↔
      amount = 0 ∨ equity ≤ used ∧ equity + amount ≤ used := by
  constructor
  · intro same
    rcases le_total equity used with within | beyond
    · rw [max_eq_left (sub_nonpos.mpr within), eq_comm, max_eq_left_iff, sub_nonpos] at same
      exact .inr ⟨within, same⟩
    · rw [max_eq_right (sub_nonneg.mpr beyond)] at same
      rcases le_total (equity + amount) used with back | onwards
      · rw [max_eq_left (sub_nonpos.mpr back), sub_eq_zero] at same
        exact .inr ⟨same.le, back⟩
      · rw [max_eq_right (sub_nonneg.mpr onwards)] at same
        exact .inl (by linarith)
  · rintro (rfl | ⟨before, later⟩)
    · rw [add_zero]
    · rw [max_eq_left (sub_nonpos.mpr before), max_eq_left (sub_nonpos.mpr later)]

/-- What holds of an account in every run that keeps the free margin right: only a new account
can show a negative free margin. -/
def Kept (account : PaperAccount) : Prop :=
  account.Balanced ∧ (0 ≤ account.freeMargin → account.MarginRight)

theorem kept_create (initialBalance : ℚ) : (create initialBalance).Kept := by
  have amounts : create initialBalance =
      ⟨initialBalance, initialBalance, initialBalance, initialBalance, 0, initialBalance,
        [], [], 0, 0⟩ := by
    simp [create, postInit]
  rw [amounts]
  refine ⟨⟨?_, le_rfl, ?_⟩, ?_⟩
  · exact (add_zero initialBalance).symm
  · exact sub_self initialBalance
  · intro nonneg
    show initialBalance = max 0 (initialBalance - 0)
    rw [sub_zero, max_eq_right nonneg]

/-- Setting the used margin makes the free margin right. -/
theorem rightAfter_updateMargin {account : PaperAccount} (balanced : account.Balanced) (used : ℚ) :
    account.RightAfter (.updateMargin used) :=
  ⟨balanced_step balanced _, rfl⟩

/-- Any other operation finds the free margin right only by leaving it so. -/
theorem rightAfter_iff_of_ne {account : PaperAccount} (kept : account.Kept)
    {operation : PaperOperation} (other : ∀ used, operation ≠ .updateMargin used) :
    account.RightAfter operation ↔
      0 ≤ account.freeMargin ∧
        (account.gain operation = 0 ∨
          account.equity ≤ account.usedMargin ∧
            account.equity + account.gain operation ≤ account.usedMargin) := by
  obtain ⟨balanced, marginRight⟩ := kept
  have grown := grown_step balanced other
  have right : account.RightAfter operation ↔
      account.freeMargin =
        max 0 (account.equity + account.gain operation - account.usedMargin) := by
    rw [RightAfter, and_iff_right (balanced_step balanced operation), MarginRight,
      grown.freeMargin, grown.equity, grown.usedMargin]
  rw [right]
  constructor
  · intro same
    have nonneg : 0 ≤ account.freeMargin := same ▸ le_max_left 0 _
    rw [marginRight nonneg] at same
    exact ⟨nonneg, (free_margin_eq_iff _ _ _).mp same⟩
  · rintro ⟨nonneg, leaves⟩
    exact (marginRight nonneg).trans ((free_margin_eq_iff _ _ _).mpr leaves)

/-- An operation leaves the books and the free margin right exactly when it sets the used margin
or leaves the free margin what it was. -/
theorem rightAfter_iff {account : PaperAccount} (kept : account.Kept)
    (operation : PaperOperation) :
    account.RightAfter operation ↔ account.LeavesMargin operation := by
  cases operation with
  | updateMargin used => exact iff_of_true (rightAfter_updateMargin kept.1 used) trivial
  | updateAccount => exact rightAfter_iff_of_ne kept nofun
  | closePosition => exact rightAfter_iff_of_ne kept nofun
  | updatePrices => exact rightAfter_iff_of_ne kept nofun

/-- In every run on a new account, all four equations hold after every operation exactly when
every operation sets the used margin or leaves the free margin what it was. -/
theorem right_throughout_iff (initialBalance : ℚ) (operations : List PaperOperation) :
    Run.Every step RightAfter (create initialBalance) operations ↔
      Run.Every step LeavesMargin (create initialBalance) operations := by
  refine Run.every_iff_of_kept Kept ?_ ?_ (kept_create initialBalance)
  · intro account operation _ kept leaves
    obtain ⟨balanced, marginRight⟩ := (rightAfter_iff kept operation).mpr leaves
    exact ⟨balanced, fun _ => marginRight⟩
  · intro account operation _ kept
    exact rightAfter_iff kept operation

/-- A position is opened and its price rises: the equity grows and the free margin does not. -/
theorem free_margin_stale :
    ¬ Run.Every step RightAfter (create 10000)
      [.updateAccount (fun _ => 100000)
          ⟨true, some 1, some ⟨"EURUSD", 11/10, 1/10, "BUY", 1, 12/10, 0, 0⟩⟩ 0,
        .updatePrices (fun _ => 100000) [(0, 111/100)]] := by
  decide +kernel

end PaperAccount

end EaBot.Paper
