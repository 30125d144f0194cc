import EaBot.Execution.ReconciliationProviders
import EaBot.Orchestration.Proposal

/-!
# The account context

The risk gate and the guards of a cycle work on an account state, a list of open
positions and market data that are read from the terminal.  The provider keeps what it
has read for a while, under the symbol of the event: within that time a second event of
the symbol gets the positions of the first one.
-/

namespace EaBot.Orchestration

open EaBot.Execution EaBot.Foundation EaBot.Mt5

/-- What the terminal says about the account. -/
structure AccountInfo where
  balance : ℚ
  equity : ℚ
  margin : ℚ
  freeMargin : ℚ
  marginLevel : ℚ

/-- What the terminal says about a symbol. -/
structure SymbolInfo where
  point : ℚ
  contractSize : ℚ
  tickSize : ℚ
  tickValue : ℚ
  volumeStep : ℚ
  volumeMin : ℚ
  volumeMax : ℚ

/-- A quote. -/
structure Quote where
  bid : ℚ
  ask : ℚ

/-- The answers of the terminal.  A read that raises has none. -/
structure TerminalReads where
  account : Option AccountInfo
  positions : RawRead
  symbolInfo : String → Option SymbolInfo
  tick : String → Option Quote

/-- What a context says about the account and the market. -/
structure AccountContext where
  accountState : Option Record
  currentPositions : Option (List Record)
  marketInfo : Option Record

/-! ## Reading the terminal -/

section Reading

variable (render : ℚ → String)

/-- A number as a value. -/
def numberVal (value : ℚ) : Val :=
  .num ⟨value, render value⟩

/-- The account state. -/
def accountStateOf (account : AccountInfo) : Record :=
  let number := numberVal render
  Dict.empty.update [("equity", number account.equity), ("balance", number account.balance),
    ("peak_equity", number account.equity), ("daily_pnl", number 0),
    ("used_margin", number account.margin), ("free_margin", number account.freeMargin),
    ("margin_level", number account.marginLevel)]

/-- The number in the first of several fields that is there. -/
def presentNumber (record : Record) (names : List String) : Except String ℚ :=
  (((names.findSome? record.get).getD (.int 0)).orElse (.int 0)).toFloat

/-- The position with the contract size of its symbol. -/
def withContractSize (symbolInfo : String → Option SymbolInfo) (position : Record) : Record :=
  let symbol := (((position.get "symbol").getD .none).orElse (.str "")).text
  let size := (symbolInfo symbol).elim 0 SymbolInfo.contractSize
  if position.contains "contract_size" = false ∧ symbol ≠ "" ∧ 0 < size then
    position.set "contract_size" (numberVal render size)
  else position

/-- The position with its notional value, where all of its factors are known. -/
def withNotional (size currentPrice : ℚ) (position : Record) : Record :=
  let contractSize := (numberOf position ["contract_size"]).toOption.getD 0
  if 0 < size ∧ 0 < currentPrice ∧ 0 < contractSize then
    (position.set "notional_value" (numberVal render (size * currentPrice * contractSize))).set
      "_notional_valid" (.bool true)
  else position.set "_notional_valid" (.bool false)

/-- A position as the risk gate reads it. -/
def enrichPosition (symbolInfo : String → Option SymbolInfo) (position : Record) : Record :=
  match presentNumber position ["size", "quantity", "volume"],
      presentNumber position ["current_price", "price_current", "entry_price", "price_open"] with
  | .ok size, .ok currentPrice =>
      let sized := (position.set "size" (numberVal render size)).set "current_price"
        (numberVal render currentPrice)
      withNotional render size currentPrice (withContractSize render symbolInfo sized)
  | _, _ => position.set "_notional_valid" (.bool false)

/-- The quote with what the symbol's metadata says about its spread. -/
def marketInfoOf (quote : Quote) (info : Option SymbolInfo) : Record :=
  let number := numberVal render
  let quoted : Record := Dict.empty.update [("bid", number quote.bid), ("ask", number quote.ask)]
  if quote.bid ≤ 0 then quoted
  else
    let read (field : SymbolInfo → ℚ) : ℚ := info.elim 0 field
    let spread := |quote.ask - quote.bid|
    let point := if read SymbolInfo.point ≤ 0 then 1 / 100000 else read SymbolInfo.point
    let tickSize := if read SymbolInfo.tickSize ≤ 0 then point else read SymbolInfo.tickSize
    let tickValue := read SymbolInfo.tickValue
    let contractSize := read SymbolInfo.contractSize
    let positive (name : String) (value : ℚ) : List (String × Val) :=
      if 0 < value then [(name, number value)] else []
    let costs : List (String × Val) :=
      if 0 < contractSize then
        [("contract_size", number contractSize),
          ("spread_cost_per_lot", number (if 0 < tickValue then spread / tickSize * tickValue
            else spread * contractSize))]
      else []
    quoted.update ([("spread_price", number spread), ("point_value", number point),
      ("tick_size", number tickSize), ("tick_value", number tickValue),
      ("spread_points", number (spread / point)), ("spread_ticks", number (spread / tickSize)),
      ("spread_atr", .none)] ++ positive "volume_step" (read SymbolInfo.volumeStep) ++
      positive "volume_min" (read SymbolInfo.volumeMin) ++
      positive "volume_max" (read SymbolInfo.volumeMax) ++ costs ++
      [("spread_pips", number (spread / (point * 10)))])

/-- The symbol whose quote is read.  The loop over the positions leaves the symbol of the
last one in the variable of the requested symbol. -/
def quotedSymbol (symbol : String) (positions : List Position) : String :=
  positions.getLast?.elim symbol Position.symbol

/-- Read the context of a symbol. -/
def buildConnectorAccountContext (liveMode : Bool) (reads : TerminalReads) (symbol : String) :
    AccountContext :=
  let positions := Mt5.getPositions liveMode reads.positions
  let quoted := quotedSymbol symbol positions
  { accountState := reads.account.map (accountStateOf render),
    currentPositions := some (positions.map fun position =>
      enrichPosition render reads.symbolInfo (recordOfPosition render position)),
    marketInfo :=
      if quoted = "" then none
      else (reads.tick quoted).map fun quote =>
        marketInfoOf render quote (reads.symbolInfo quoted) }

end Reading

/-! ## The provider -/

/-- The provider: what it has read for each symbol and when, and for how long that is
served. -/
structure AccountContextProvider where
  cacheTtl : ℚ
  cache : Dict String (ℚ × AccountContext)

namespace AccountContextProvider

/-- A provider that has read nothing. -/
def create (cacheTtl : ℚ) : AccountContextProvider :=
  ⟨max 0 cacheTtl, Dict.empty⟩

/-- The context that is served without a read. -/
def cached (provider : AccountContextProvider) (symbol : String) (now : ℚ) :
    Option AccountContext :=
  match provider.cache.get symbol with
  | none => none
  | some (built, context) => if now - built < provider.cacheTtl then some context else none

/-- The context of an event, and the provider afterwards.  `fresh` is what a read
gives. -/
def call (provider : AccountContextProvider) (symbol : String) (now : ℚ)
    (fresh : AccountContext) : AccountContext × AccountContextProvider :=
  match provider.cached symbol now with
  | some context => (context, provider)
  | none => (fresh, { provider with cache := provider.cache.set symbol (now, fresh) })

end AccountContextProvider

/-- The context of a cycle with what the provider says. -/
def AnalysisContext.withAccount (context : AnalysisContext) (account : AccountContext) :
    AnalysisContext :=
  { context with
    accountState := account.accountState.or context.accountState
    currentPositions := account.currentPositions.or context.currentPositions
    marketInfo := account.marketInfo.or context.marketInfo }

/-! ## The magic number of a position -/

theorem get_set_magic {record : Record} {name : String} (value : Val) (other : name ≠ "magic") :
    (record.set name value).get "magic" = record.get "magic" :=
  Dict.get_set_of_ne _ other.symm _

/-- What is added to a position leaves its magic number alone. -/
theorem enrichPosition_magic (render : ℚ → String) (symbolInfo : String → Option SymbolInfo)
    (position : Record) :
    (enrichPosition render symbolInfo position).get "magic" = position.get "magic" := by
  have contracted (record : Record) :
      (withContractSize render symbolInfo record).get "magic" = record.get "magic" := by
    unfold withContractSize
    dsimp only
    split
    · exact get_set_magic _ (by decide)
    · rfl
  have valued (size price : ℚ) (record : Record) :
      (withNotional render size price record).get "magic" = record.get "magic" := by
    unfold withNotional
    dsimp only
    split
    · rw [get_set_magic _ (by decide), get_set_magic _ (by decide)]
    · exact get_set_magic _ (by decide)
  unfold enrichPosition
  split
  · dsimp only
    rw [valued, contracted, get_set_magic _ (by decide), get_set_magic _ (by decide)]
  · exact get_set_magic _ (by decide)

/-- A row that is read is shown with everything that is added to it. -/
theorem mem_currentPositions (render : ℚ → String) (symbol : String) {reads : TerminalReads}
    {rows : List BrokerRow} {row : BrokerRow}
    (live : reads.positions = .rows rows) (listed : row ∈ rows) :
    enrichPosition render reads.symbolInfo (recordOfPosition render (positionOfRow row)) ∈
      (buildConnectorAccountContext render true reads symbol).currentPositions.getD [] := by
  unfold buildConnectorAccountContext
  rw [live]
  exact List.mem_map_of_mem (List.mem_map_of_mem listed)

/-- A live row with our magic number makes the context show a position of ours.  Zero
counts as no magic number. -/
theorem ownPositionTicket_of_row {render : ℚ → String} {reads : TerminalReads}
    {rows : List BrokerRow} {row : BrokerRow} {entryMagic : Int} (symbol : String)
    (live : reads.positions = .rows rows) (listed : row ∈ rows)
    (labelled : row.magic = some entryMagic) (nonzero : entryMagic ≠ 0) :
    ownPositionTicket entryMagic
      ((buildConnectorAccountContext render true reads symbol).currentPositions.getD []) ≠
        none := by
  have magic : (positionOfRow row).magic = some entryMagic := by
    simp [positionOfRow, labelled, nonzero]
  have number : ((enrichPosition render reads.symbolInfo
      (recordOfPosition render (positionOfRow row))).get "magic").getD .none =
        .int entryMagic := by
    rw [enrichPosition_magic, recordOfPosition_magic, magic, Option.getD_some, Val.ofInt?]
  rw [← Option.isSome_iff_ne_none, ownPositionTicket_isSome_iff]
  refine ⟨_, mem_currentPositions render symbol live listed, ?_, ?_⟩
  · rw [number]
    exact Val.noConfusion
  · rw [number]
    rfl

end EaBot.Orchestration
