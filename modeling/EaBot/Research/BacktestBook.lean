import EaBot.Research.LookAhead

/-!
# The book of the realistic backtester

Every trade closes one position: the positions that were opened and the trades follow each
other in the same order, and at most one position is still open.  A backtest that no
exception breaks off has a trade for every level, signal or last bar that closes a position,
and no other trades.

What is said of all trades can therefore be said of the closings, where the state before the
bar and the bar are known.
-/

namespace EaBot.Research

open EaBot.Foundation

/-! ## Positions and trades -/

section Trade

variable {config : BacktestConfig} {bars : List Bar} {position : Position} {bar : Bar} {price : ℚ}
  {reason : ExitReason} {trade : SimTrade}

/-- The size of a position in units of the contract. -/
def Position.size (config : BacktestConfig) (position : Position) : ℚ :=
  position.lot * config.spec.contractSize

/-- How far the price has moved for a position. -/
def Position.moved (config : BacktestConfig) (position : Position) (price : ℚ) : ℚ :=
  (config.spec.roundPrice price - position.entryPrice) * position.direction

/-- The nights that a position was held. -/
def SimTrade.nights (trade : SimTrade) : Int :=
  max (trade.holdHours / 24).floor 0

theorem netPnl_of_closePosition
    (closes : closePosition config bars position bar price reason = .ok trade) :
    trade.netPnl = position.moved config price * position.size config -
      config.costs.commissionPerLot * position.lot * 2 +
      config.costs.swapPerNightPerLot * position.lot * trade.nights := by
  unfold closePosition at closes
  rcases of_bind_eq_ok closes with ⟨hours, -, closes⟩
  cases closes
  rfl

theorem rMultiple_of_closePosition
    (closes : closePosition config bars position bar price reason = .ok trade) :
    trade.rMultiple =
      if 0 < position.size config * position.riskPerUnit / 2 then
        trade.netPnl / (position.size config * position.riskPerUnit / 2)
      else 0 := by
  unfold closePosition at closes
  rcases of_bind_eq_ok closes with ⟨hours, -, closes⟩
  cases closes
  rfl

/-- The trade of a position has its direction and its lot, and lasts until the bar. -/
theorem fields_of_closePosition
    (closes : closePosition config bars position bar price reason = .ok trade) :
    trade.entryTime = position.entryTime ∧ trade.exitTime = bar.time ∧
      trade.direction = position.direction ∧ trade.lot = position.lot ∧
      trade.exitReason = reason := by
  unfold closePosition at closes
  rcases of_bind_eq_ok closes with ⟨hours, -, closes⟩
  cases closes
  exact ⟨rfl, rfl, rfl, rfl, rfl⟩

/-- What a position is opened with. -/
theorem openPosition_eq_ok {balance : ℚ} {direction : Int} {index : Nat}
    (opens : openPosition config balance direction index bar = .ok position) :
    ∃ lot, lotFor config balance (config.stopMultiplier * barRange config bar) = .ok lot ∧
      position = {
        direction := direction
        entryPrice := fillPrice config direction bar
        entryTime := bar.time
        entryIndex := index
        lot := lot
        stopPrice := fillPrice config direction bar -
          direction * config.stopMultiplier * (config.stopMultiplier * barRange config bar) / 2
        targetPrice := fillPrice config direction bar +
          direction * config.stopMultiplier * config.rewardRisk *
            (config.stopMultiplier * barRange config bar) / 2
        riskPerUnit := config.stopMultiplier * barRange config bar } := by
  unfold openPosition at opens
  rcases of_bind_eq_ok opens with ⟨lot, sized, opens⟩
  cases opens
  exact ⟨lot, sized, rfl⟩

end Trade

/-! ## The book -/

/-- What a backtest has booked. -/
structure Book where
  balance : ℚ
  position : Option Position
  opened : List Position
  trades : List (Nat × SimTrade)

namespace Book

/-- The book of an account without trades. -/
def empty (balance : ℚ) : Book :=
  ⟨balance, none, [], []⟩

/-- Book a position that is opened. -/
def «open» (book : Book) (position : Position) : Book :=
  { book with position := some position, opened := book.opened ++ [position] }

/-- Book the trade of the open position. -/
def close (book : Book) (index : Nat) (trade : SimTrade) : Book :=
  { book with
    balance := book.balance + trade.netPnl, position := none,
    trades := book.trades ++ [(index, trade)] }

/-- The positions that were closed, each with its trade and the index of the bar that ended
it. -/
def deals (book : Book) : List (Position × Nat × SimTrade) :=
  book.opened.zip book.trades

/-- The positions that were closed are those before the open one, as many as there are
trades. -/
def Paired (book : Book) : Prop :=
  ∃ closed : List Position, closed.length = book.trades.length ∧
    book.opened = closed ++ book.position.toList

variable {book : Book} {position : Position}

theorem paired_empty (balance : ℚ) : (empty balance).Paired :=
  ⟨[], rfl, rfl⟩

theorem Paired.open (paired : book.Paired) (free : book.position = none) (position : Position) :
    (book.open position).Paired := by
  rcases paired with ⟨closed, counted, opened⟩
  rw [free] at opened
  exact ⟨closed, counted, by simp [Book.open, opened]⟩

theorem Paired.close (paired : book.Paired) (held : book.position = some position)
    (index : Nat) (trade : SimTrade) : (book.close index trade).Paired := by
  rcases paired with ⟨closed, counted, opened⟩
  rw [held] at opened
  exact ⟨closed ++ [position], by simp [Book.close, counted], by simp [Book.close, opened]⟩

theorem zip_concat_left {α β : Type} {firsts : List α} {seconds : List β}
    (counted : firsts.length = seconds.length) (more : α) :
    (firsts ++ [more]).zip seconds = firsts.zip seconds := by
  have zipped := @List.zip_append α β firsts [more] seconds [] counted
  simpa using zipped

/-- A position that is opened is not a deal yet. -/
theorem deals_open (paired : book.Paired) (free : book.position = none) (position : Position) :
    (book.open position).deals = book.deals := by
  rcases paired with ⟨closed, counted, opened⟩
  rw [free, Option.toList_none, List.append_nil] at opened
  rw [deals, deals, Book.open, opened]
  exact zip_concat_left counted position

/-- A position that is closed is a deal. -/
theorem deals_close (paired : book.Paired) (held : book.position = some position)
    (index : Nat) (trade : SimTrade) :
    (book.close index trade).deals = book.deals ++ [(position, index, trade)] := by
  rcases paired with ⟨closed, counted, opened⟩
  rw [held, Option.toList_some] at opened
  rw [deals, deals, Book.close, opened, List.zip_append counted, zip_concat_left counted]
  simp

/-- Without an open position the deals have all the trades. -/
theorem Paired.map_deals (paired : book.Paired) (free : book.position = none) :
    book.deals.map Prod.snd = book.trades := by
  rcases paired with ⟨closed, counted, opened⟩
  rw [free, Option.toList_none, List.append_nil] at opened
  rw [deals, List.map_snd_zip]
  rw [opened, counted]

/-- What holds of a book before the bar of an index. -/
structure Kept (starting : ℚ) (index : Nat) (book : Book) : Prop where
  paired : book.Paired
  balance : book.balance = starting + (book.trades.map fun exit => exit.2.netPnl).sum
  opened : ∀ position ∈ book.opened, position.entryIndex < index
  ended : ∀ exit ∈ book.trades, exit.1 < index
  since : ∀ position, book.position = some position →
    ∀ exit ∈ book.trades, exit.1 < position.entryIndex
  spans : ∀ deal ∈ book.deals, deal.1.entryIndex ≤ deal.2.1
  apart : book.deals.Pairwise fun first second => first.2.1 < second.1.entryIndex

theorem kept_empty (starting : ℚ) : (empty starting).Kept starting 0 where
  paired := paired_empty starting
  balance := by simp [empty]
  opened := by simp [empty]
  ended := by simp [empty]
  since := by simp [empty]
  spans := by simp [empty, deals]
  apart := by simp [empty, deals]

variable {starting : ℚ} {index : Nat}

theorem Kept.later (kept : book.Kept starting index) : book.Kept starting (index + 1) :=
  { kept with
    opened := fun position member => Nat.lt_succ_of_lt (kept.opened position member)
    ended := fun exit member => Nat.lt_succ_of_lt (kept.ended exit member) }

theorem Kept.open (kept : book.Kept starting index) (free : book.position = none)
    (here : position.entryIndex = index) : (book.open position).Kept starting (index + 1) where
  paired := kept.paired.open free position
  balance := kept.balance
  opened := by
    intro other member
    rcases List.mem_append.mp member with earlier | new
    · exact Nat.lt_succ_of_lt (kept.opened other earlier)
    · rw [List.mem_singleton.mp new, here]
      exact Nat.lt_succ_self index
  ended := kept.later.ended
  since := by
    intro other opened exit member
    cases opened
    rw [here]
    exact kept.ended exit member
  spans := by
    rw [deals_open kept.paired free position]
    exact kept.spans
  apart := by
    rw [deals_open kept.paired free position]
    exact kept.apart

theorem Kept.mem_opened (kept : book.Kept starting index) (held : book.position = some position) :
    position ∈ book.opened := by
  rcases kept.paired with ⟨closed, -, opened⟩
  simp [opened, held]

theorem Kept.close (kept : book.Kept starting (index + 1)) (held : book.position = some position)
    (trade : SimTrade) : (book.close index trade).Kept starting (index + 1) where
  paired := kept.paired.close held index trade
  balance := by
    simp only [Book.close, kept.balance, List.map_append, List.map_cons, List.map_nil,
      List.sum_append, List.sum_singleton]
    ring
  opened := kept.opened
  ended := by
    intro exit member
    rcases List.mem_append.mp member with earlier | new
    · exact kept.ended exit earlier
    · rw [List.mem_singleton.mp new]
      exact Nat.lt_succ_self index
  since := by
    intro other opened
    cases opened
  spans := by
    intro deal member
    rw [deals_close kept.paired held index trade] at member
    rcases List.mem_append.mp member with earlier | new
    · exact kept.spans deal earlier
    · rw [List.mem_singleton.mp new]
      exact Nat.le_of_lt_succ (kept.opened position (kept.mem_opened held))
  apart := by
    rw [deals_close kept.paired held index trade, List.pairwise_append]
    refine ⟨kept.apart, List.pairwise_singleton _ _, ?_⟩
    intro first earlier second new
    rw [List.mem_singleton.mp new]
    exact kept.since position held first.2 (List.of_mem_zip earlier).2

end Book

namespace Backtest

/-- The book of a backtest. -/
def book (state : Backtest) : Book :=
  ⟨state.balance, state.position, state.opened, state.trades⟩

/-! ## What a bar books -/

section Bar

variable {config : BacktestConfig} {signal : SignalFn} {bars : List Bar} {index : Nat} {bar : Bar}

theorem book_awaitSignal (state : Backtest) :
    (state.awaitSignal config signal bars index bar).book = state.book := by
  unfold awaitSignal
  split_ifs <;> rfl

theorem book_enter {state : Backtest} (settled : Settled index state) :
    (state.enter config index bar).book = state.book ∨
      ∃ direction position, (direction = 1 ∨ direction = -1) ∧ state.position = none ∧
        openPosition config state.balance direction index bar = .ok position ∧
        (state.enter config index bar).book = state.book.open position := by
  unfold enter
  cases isDue : state.due config index with
  | none => exact Or.inl rfl
  | some direction =>
      cases opens : openPosition config state.balance direction index bar with
      | error raised => exact Or.inl (by simp [opens, book])
      | ok position =>
          right
          have pending : state.position = none ∧
              ∃ since, state.pending = some (direction, since) := by
            unfold due at isDue
            split at isDue
            · rename_i free pending
              split_ifs at isDue
              cases isDue
              exact ⟨free, _, pending⟩
            · cases isDue
          rcases pending with ⟨free, since, pending⟩
          refine ⟨direction, position, settled.pending _ _ pending, free, opens, ?_⟩
          simp [opens, book, Book.open]

theorem book_manage (config : BacktestConfig) (signal : SignalFn) (bars : List Bar) (index : Nat)
    (bar : Bar) (state : Backtest) :
    ((state.manage config signal bars index bar).book = state.book ∧
        ((state.manage config signal bars index bar).raised = none →
          ∀ position, state.position = some position →
            exitAt signal bars index bar position = none)) ∨
      ∃ position price reason trade, state.position = some position ∧
        exitAt signal bars index bar position = some (price, reason) ∧
        closePosition config bars position bar price reason = .ok trade ∧
        (state.manage config signal bars index bar).book = state.book.close index trade := by
  unfold manage
  cases held : state.position with
  | none => exact Or.inl ⟨rfl, by simp⟩
  | some position =>
      cases reached : exitAt signal bars index bar position with
      | none => exact Or.inl ⟨by simp [reached], by simp [reached]⟩
      | some exit =>
          rcases exit with ⟨price, reason⟩
          cases closes : closePosition config bars position bar price reason with
          | error raised =>
              exact Or.inl ⟨by simp [reached, closes, book, held], by simp [reached, closes]⟩
          | ok trade =>
              right
              exact ⟨position, price, reason, trade, rfl, reached, closes,
                by simp [reached, closes, book, Book.close]⟩

theorem andThen_of_raised {state : Backtest} {next : Backtest → Backtest}
    (returned : (state.andThen next).raised = none) :
    state.raised = none ∧ state.andThen next = next state := by
  unfold andThen at returned ⊢
  split_ifs at returned ⊢ with broken
  · simp [returned] at broken
  · exact ⟨by simpa using broken, rfl⟩

end Bar

/-! ## The backtest at a bar -/

section Loop

variable (config : BacktestConfig) (signal : SignalFn) (bars : List Bar)

/-- The backtest at a bar, when a position that is due has been opened. -/
def filled (index : Nat) (bar : Bar) : Backtest :=
  ((before config signal bars index).andThen
    (awaitSignal config signal bars index bar)).andThen (enter config index bar)

variable {config signal bars} {index : Nat} {bar : Bar}

theorem before_succ (found : bars[index]? = some bar) :
    before config signal bars (index + 1) =
      (filled config signal bars index bar).andThen (manage config signal bars index bar) := by
  have within : index < bars.length := (List.getElem?_eq_some_iff.mp found).1
  have length : (bars.take index).length = index := by
    rw [List.length_take]
    omega
  have parts : bars.take (index + 1) = bars.take index ++ [bar] := by
    rw [List.take_add_one, found, Option.toList_some]
  rw [before, parts, loop_append, length, Nat.zero_add]
  rfl

theorem before_succ_of_none (past : bars[index]? = none) :
    before config signal bars (index + 1) = before config signal bars index := by
  have length := List.getElem?_eq_none_iff.mp past
  rw [before, before, List.take_of_length_le length, List.take_of_length_le (by omega)]

theorem settled_before_of_found (found : bars[index]? = some bar) :
    Settled index (before config signal bars index) := by
  have within : index < bars.length := (List.getElem?_eq_some_iff.mp found).1
  have settled := settled_before config signal bars index
  rwa [List.length_take, Nat.min_eq_left (Nat.le_of_lt within)] at settled

variable (config signal)

/-- A bar opens a position or leaves the book. -/
theorem book_filled (found : bars[index]? = some bar) :
    (filled config signal bars index bar).book = (before config signal bars index).book ∨
      ∃ direction position, (direction = 1 ∨ direction = -1) ∧
        (before config signal bars index).position = none ∧
        openPosition config (before config signal bars index).balance direction index bar =
          .ok position ∧
        (filled config signal bars index bar).book =
          (before config signal bars index).book.open position := by
  have settled : Settled index
      (awaitSignal config signal bars index bar (before config signal bars index)) :=
    (settled_before_of_found found).awaitSignal bars index bar
  have asked : (awaitSignal config signal bars index bar (before config signal bars index)).book =
      (before config signal bars index).book :=
    book_awaitSignal _
  unfold filled andThen
  split_ifs with broken raised
  · exact Or.inl rfl
  · exact Or.inl asked
  · have kept := congrArg Book.position asked
    have balanced := congrArg Book.balance asked
    simp only [book] at kept balanced
    rcases book_enter settled with same | opened
    · exact Or.inl (same.trans asked)
    · rw [kept, balanced, asked] at opened
      exact Or.inr opened

/-- A bar then closes the open position or leaves the book. -/
theorem book_succ (found : bars[index]? = some bar) :
    ((before config signal bars (index + 1)).book = (filled config signal bars index bar).book ∧
        ((before config signal bars (index + 1)).raised = none →
          ∀ position, (filled config signal bars index bar).position = some position →
            exitAt signal bars index bar position = none)) ∨
      ∃ position price reason trade,
        (filled config signal bars index bar).position = some position ∧
        exitAt signal bars index bar position = some (price, reason) ∧
        closePosition config bars position bar price reason = .ok trade ∧
        (before config signal bars (index + 1)).book =
          (filled config signal bars index bar).book.close index trade := by
  rw [before_succ found]
  have managed := book_manage config signal bars index bar (filled config signal bars index bar)
  unfold andThen
  split_ifs with broken
  · refine Or.inl ⟨rfl, fun returned => ?_⟩
    simp [returned] at broken
  · exact managed

/-- What opening and closing positions keeps holds of the book before every bar, and of the
book at a bar. -/
theorem book_keeps (inv : Nat → Book → Prop)
    (starts : inv 0 (Book.empty config.risk.startingBalance))
    (later : ∀ index book, inv index book → inv (index + 1) book)
    (opens : ∀ index bar direction position, bars[index]? = some bar →
      (direction = 1 ∨ direction = -1) → (before config signal bars index).position = none →
      openPosition config (before config signal bars index).balance direction index bar =
        .ok position →
      inv index (before config signal bars index).book →
      inv (index + 1) ((before config signal bars index).book.open position))
    (closes : ∀ index bar position trade, bars[index]? = some bar →
      (filled config signal bars index bar).position = some position →
      inv (index + 1) (filled config signal bars index bar).book →
      inv (index + 1) ((filled config signal bars index bar).book.close index trade))
    (index : Nat) :
    inv index (before config signal bars index).book ∧
      ∀ bar, bars[index]? = some bar →
        inv (index + 1) (filled config signal bars index bar).book := by
  have fills : ∀ index bar, bars[index]? = some bar →
      inv index (before config signal bars index).book →
      inv (index + 1) (filled config signal bars index bar).book := by
    intro index bar found holds
    rcases book_filled config signal found with same |
      ⟨direction, position, directed, free, opened, same⟩
    · rw [same]
      exact later index _ holds
    · rw [same]
      exact opens index bar direction position found directed free opened holds
  have holds : inv index (before config signal bars index).book := by
    induction index with
    | zero => exact starts
    | succ index ih =>
        cases found : bars[index]? with
        | none =>
            rw [before_succ_of_none found]
            exact later index _ ih
        | some bar =>
            have held := fills index bar found ih
            rcases book_succ config signal found with ⟨same, -⟩ |
              ⟨position, price, reason, trade, open_, -, -, same⟩
            · rwa [same]
            · rw [same]
              exact closes index bar position trade found open_ held
  exact ⟨holds, fun bar found => fills index bar found holds⟩

/-- The opening of a position at its bar, on the balance before it. -/
def OpenedAt (bars : List Bar) (position : Position) : Prop :=
  ∃ bar direction, bars[position.entryIndex]? = some bar ∧ (direction = 1 ∨ direction = -1) ∧
    openPosition config (before config signal bars position.entryIndex).balance direction
      position.entryIndex bar = .ok position

variable {signal config}

/-- Every position of the book was opened at its bar. -/
theorem openedAt_book (index : Nat) :
    (∀ position ∈ (before config signal bars index).book.opened,
        OpenedAt config signal bars position) ∧
      ∀ bar, bars[index]? = some bar →
        ∀ position ∈ (filled config signal bars index bar).book.opened,
          OpenedAt config signal bars position := by
  apply book_keeps config signal fun _ book =>
    ∀ position ∈ book.opened, OpenedAt config signal bars position
  · simp [Book.empty]
  · exact fun _ _ holds => holds
  · intro index bar direction new found directed _ opens earlier position member
    rcases List.mem_append.mp member with old | last
    · exact earlier position old
    · cases List.mem_singleton.mp last
      have here := openPosition_index opens
      rw [← here] at opens found
      exact ⟨bar, direction, found, directed, opens⟩
  · exact fun _ _ _ _ _ _ holds => holds

/-- The book is kept before every bar and at every bar. -/
theorem kept_book (index : Nat) :
    (before config signal bars index).book.Kept config.risk.startingBalance index ∧
      ∀ bar, bars[index]? = some bar →
        (filled config signal bars index bar).book.Kept config.risk.startingBalance
          (index + 1) := by
  apply book_keeps config signal (Book.Kept config.risk.startingBalance)
  · exact Book.kept_empty config.risk.startingBalance
  · exact fun _ _ kept => kept.later
  · exact fun index bar direction position _ _ free opens kept =>
      kept.open free (openPosition_index opens)
  · exact fun index bar position trade _ held kept => kept.close held trade

theorem kept_before (bars : List Bar) (index : Nat) :
    (before config signal bars index).book.Kept config.risk.startingBalance index :=
  (kept_book index).1

theorem kept_filled (found : bars[index]? = some bar) :
    (filled config signal bars index bar).book.Kept config.risk.startingBalance (index + 1) :=
  (kept_book index).2 bar found

variable (config signal bars)

/-- Where a position is closed, at what price and why: at a level or by a signal at a bar,
or with the last bar. -/
inductive Closes : Nat → Bar → Position → ℚ → ExitReason → Prop
  | exit {index : Nat} {bar : Bar} {position : Position} {price : ℚ} {reason : ExitReason}
      (found : bars[index]? = some bar)
      (held : (filled config signal bars index bar).position = some position)
      (reached : exitAt signal bars index bar position = some (price, reason)) :
      Closes index bar position price reason
  | last {bar : Bar} {position : Position} (found : bars.getLast? = some bar)
      (held : (before config signal bars bars.length).position = some position) :
      Closes (bars.length - 1) bar position bar.close .endOfData

variable {config signal bars}

theorem deals_filled (found : bars[index]? = some bar) :
    (filled config signal bars index bar).book.deals =
      (before config signal bars index).book.deals := by
  rcases book_filled config signal found with same | ⟨direction, position, -, free, -, same⟩
  · rw [same]
  · rw [same]
    exact Book.deals_open (kept_before bars index).paired free position

/-- A bar makes a deal of the position that it closes. -/
theorem deals_succ (found : bars[index]? = some bar) :
    ((before config signal bars (index + 1)).book.deals =
          (before config signal bars index).book.deals ∧
        ((before config signal bars (index + 1)).raised = none →
          ∀ position, (filled config signal bars index bar).position = some position →
            exitAt signal bars index bar position = none)) ∨
      ∃ position price reason trade,
        (filled config signal bars index bar).position = some position ∧
        exitAt signal bars index bar position = some (price, reason) ∧
        closePosition config bars position bar price reason = .ok trade ∧
        (before config signal bars (index + 1)).book.deals =
          (before config signal bars index).book.deals ++ [(position, index, trade)] := by
  rcases book_succ config signal found with ⟨same, still⟩ |
    ⟨position, price, reason, trade, held, reached, closes, same⟩
  · left
    rw [same, deals_filled found]
    exact ⟨rfl, still⟩
  · right
    refine ⟨position, price, reason, trade, held, reached, closes, ?_⟩
    have kept : (filled config signal bars index bar).book.Paired :=
      (kept_filled found).paired
    rw [same, Book.deals_close kept held, deals_filled found]

theorem closes_before (index : Nat) {position : Position} {exit : Nat × SimTrade}
    (dealt : (position, exit) ∈ (before config signal bars index).book.deals) :
    ∃ bar price reason, Closes config signal bars exit.1 bar position price reason ∧
      closePosition config bars position bar price reason = .ok exit.2 := by
  induction index with
  | zero => simp [before, loop, start, book, Book.deals] at dealt
  | succ index ih =>
      cases found : bars[index]? with
      | none =>
          rw [before_succ_of_none found] at dealt
          exact ih dealt
      | some bar =>
          rcases deals_succ found with ⟨same, -⟩ |
            ⟨closed, price, reason, trade, held, reached, closes, same⟩
          · rw [same] at dealt
            exact ih dealt
          · rw [same] at dealt
            rcases List.mem_append.mp dealt with earlier | new
            · exact ih earlier
            · cases List.mem_singleton.mp new
              exact ⟨bar, price, reason, .exit found held reached, closes⟩

theorem raised_before {later : Nat} (within : index ≤ later)
    (returned : (before config signal bars later).raised = none) :
    (before config signal bars index).raised = none := by
  induction later, within using Nat.le_induction with
  | base => exact returned
  | succ later within ih =>
      apply ih
      cases found : bars[later]? with
      | none => rwa [before_succ_of_none found] at returned
      | some bar =>
          rw [before_succ found] at returned
          have unbroken := (andThen_of_raised returned).1
          exact (andThen_of_raised (andThen_of_raised unbroken).1).1

theorem deals_before_of_closed {later : Nat} (within : index < later)
    (returned : (before config signal bars later).raised = none)
    (found : bars[index]? = some bar) {position : Position} {price : ℚ} {reason : ExitReason}
    (held : (filled config signal bars index bar).position = some position)
    (reached : exitAt signal bars index bar position = some (price, reason)) :
    ∃ trade, closePosition config bars position bar price reason = .ok trade ∧
      (position, index, trade) ∈ (before config signal bars later).book.deals := by
  induction later, within using Nat.le_induction with
  | base =>
      rcases deals_succ found with ⟨-, still⟩ |
        ⟨closed, cost, why, trade, holds, reaches, closes, same⟩
      · rw [still returned position held] at reached
        cases reached
      · rw [held] at holds
        cases holds
        rw [reached] at reaches
        cases reaches
        exact ⟨trade, closes, by rw [same]; simp⟩
  | succ later within ih =>
      rcases ih (raised_before (Nat.le_succ later) returned) with ⟨trade, closes, dealt⟩
      refine ⟨trade, closes, ?_⟩
      cases other : bars[later]? with
      | none => rwa [before_succ_of_none other]
      | some next =>
          rcases deals_succ other with ⟨same, -⟩ | ⟨_, _, _, _, -, -, -, same⟩
          · rwa [same]
          · rw [same]
            exact List.mem_append_left _ dealt

/-! ## The whole backtest -/

theorem run_eq : run config signal bars =
    (before config signal bars bars.length).andThen (finish config bars) := by
  rw [run, before, List.take_length]

theorem unbroken_of_run (returned : (run config signal bars).raised = none) :
    (before config signal bars bars.length).raised = none := by
  rw [run_eq] at returned
  exact (andThen_of_raised returned).1

/-- A backtest that ends without an open position ends with its last bar. -/
theorem run_of_free (free : (before config signal bars bars.length).position = none) :
    run config signal bars = before config signal bars bars.length := by
  rw [run_eq]
  unfold andThen
  split_ifs
  · rfl
  · rw [finish, free]

/-- A position that is still open is closed with the last bar. -/
theorem run_of_held (returned : (run config signal bars).raised = none) {position : Position}
    (held : (before config signal bars bars.length).position = some position) :
    ∃ last trade, bars.getLast? = some last ∧
      closePosition config bars position last last.close .endOfData = .ok trade ∧
      run config signal bars =
        { before config signal bars bars.length with
          trades :=
            (before config signal bars bars.length).trades ++ [(bars.length - 1, trade)] } := by
  cases found : bars.getLast? with
  | none =>
      rw [List.getLast?_eq_none_iff] at found
      subst found
      simp [before, loop, start] at held
  | some last =>
      rw [run_eq] at returned ⊢
      have ends := (andThen_of_raised returned).2
      rw [ends] at returned ⊢
      unfold finish at returned ⊢
      rw [held, found] at returned ⊢
      dsimp only at returned ⊢
      cases closes : closePosition config bars position last last.close .endOfData with
      | error raised => simp [closes] at returned
      | ok trade => exact ⟨last, trade, rfl, closes, by rw [held]⟩

theorem deals_run_of_held (returned : (run config signal bars).raised = none)
    {position : Position}
    (held : (before config signal bars bars.length).position = some position) :
    ∃ last trade, bars.getLast? = some last ∧
      closePosition config bars position last last.close .endOfData = .ok trade ∧
      (run config signal bars).book.deals =
        (before config signal bars bars.length).book.deals ++
          [(position, bars.length - 1, trade)] := by
  rcases run_of_held returned held with ⟨last, trade, found, closes, same⟩
  have kept : (before config signal bars bars.length).book.Paired :=
    (kept_before bars bars.length).paired
  refine ⟨last, trade, found, closes, ?_⟩
  rw [same, ← Book.deals_close kept held (bars.length - 1) trade]
  rfl

/-- Every deal of a backtest closes a position. -/
theorem closes_of_deal (returned : (run config signal bars).raised = none) {position : Position}
    {exit : Nat × SimTrade} (dealt : (position, exit) ∈ (run config signal bars).book.deals) :
    ∃ bar price reason, Closes config signal bars exit.1 bar position price reason ∧
      closePosition config bars position bar price reason = .ok exit.2 := by
  cases held : (before config signal bars bars.length).position with
  | none =>
      rw [run_of_free held] at dealt
      exact closes_before bars.length dealt
  | some open_ =>
      rcases deals_run_of_held returned held with ⟨last, trade, found, closes, same⟩
      rw [same] at dealt
      rcases List.mem_append.mp dealt with earlier | new
      · exact closes_before bars.length earlier
      · cases List.mem_singleton.mp new
        exact ⟨last, last.close, .endOfData, .last found held, closes⟩

/-- Every closing of a position makes a deal. -/
theorem deal_of_closes (returned : (run config signal bars).raised = none) {position : Position}
    {price : ℚ} {reason : ExitReason}
    (closing : Closes config signal bars index bar position price reason) :
    ∃ trade, closePosition config bars position bar price reason = .ok trade ∧
      (position, index, trade) ∈ (run config signal bars).book.deals := by
  cases closing with
  | exit found held reached =>
      have within : index < bars.length := (List.getElem?_eq_some_iff.mp found).1
      rcases deals_before_of_closed within (unbroken_of_run returned) found held reached with
        ⟨trade, closes, dealt⟩
      refine ⟨trade, closes, ?_⟩
      cases open_ : (before config signal bars bars.length).position with
      | none => rwa [run_of_free open_]
      | some other =>
          rcases deals_run_of_held returned open_ with ⟨_, _, -, -, same⟩
          rw [same]
          exact List.mem_append_left _ dealt
  | last found held =>
      rcases deals_run_of_held returned held with ⟨last, trade, other, closes, same⟩
      rw [found] at other
      cases other
      exact ⟨trade, closes, by rw [same]; simp⟩

/-- What holds of all deals is what holds of all closings. -/
theorem deals_iff (returned : (run config signal bars).raised = none)
    (holds : Position → SimTrade → Prop) :
    (∀ position exit, (position, exit) ∈ (run config signal bars).book.deals →
        holds position exit.2) ↔
      ∀ index bar position price reason trade,
        Closes config signal bars index bar position price reason →
        closePosition config bars position bar price reason = .ok trade →
        holds position trade := by
  constructor
  · intro all index bar position price reason trade closing closes
    rcases deal_of_closes returned closing with ⟨other, same, dealt⟩
    rw [closes] at same
    cases same
    exact all position _ dealt
  · intro all position exit dealt
    rcases closes_of_deal returned dealt with ⟨bar, price, reason, closing, closes⟩
    exact all exit.1 bar position price reason exit.2 closing closes

theorem found_of_closes {position : Position} {price : ℚ} {reason : ExitReason}
    (closing : Closes config signal bars index bar position price reason) :
    bars[index]? = some bar := by
  cases closing with
  | exit found held reached => exact found
  | last found held => rwa [List.getLast?_eq_getElem?] at found

/-- Every position that is closed was opened at its bar. -/
theorem openedAt_of_closes {position : Position} {price : ℚ} {reason : ExitReason}
    (closing : Closes config signal bars index bar position price reason) :
    OpenedAt config signal bars position := by
  cases closing with
  | exit found held reached =>
      have kept : (filled config signal bars index bar).book.Kept
          config.risk.startingBalance (index + 1) := kept_filled found
      exact (openedAt_book index).2 bar found position (kept.mem_opened held)
  | last found held =>
      have kept : (before config signal bars bars.length).book.Kept
          config.risk.startingBalance bars.length := kept_before bars bars.length
      exact (openedAt_book bars.length).1 position (kept.mem_opened held)

end Loop

end Backtest

end EaBot.Research
