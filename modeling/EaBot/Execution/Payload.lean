import EaBot.Execution.ExecuteOrder

/-!
# What a payload tells the broker

Three builders write the payload of a request, one for each way to a broker.  A payload is
read back as the order that it asks for, with its side and its kind.

The payload asks for what was validated when the request already names the resolved
symbol, except that the connector's own method is not told the magic number and that the
native library knows no orders but those of the market.
-/

namespace EaBot.Execution

open EaBot.Foundation

/-- The side of an order. -/
inductive OrderSide
  | buy
  | sell
deriving DecidableEq

/-- The kind of an order. -/
inductive OrderKind
  | market
  | limit
  | stop
  | stopLimit
deriving DecidableEq

/-- The side and the kind that an order type names. -/
def orderTypes : List (String × OrderSide × OrderKind) :=
  [("BUY", .buy, .market), ("BUY_LIMIT", .buy, .limit), ("BUY_STOP", .buy, .stop),
    ("BUY_STOP_LIMIT", .buy, .stopLimit), ("SELL", .sell, .market),
    ("SELL_LIMIT", .sell, .limit), ("SELL_STOP", .sell, .stop),
    ("SELL_STOP_LIMIT", .sell, .stopLimit)]

/-- What an order type means, as validation cleans it. -/
def meaning? (orderType : String) : Option (OrderSide × OrderKind) :=
  Entries.get (Text.upper (Text.strip orderType)) orderTypes

/-- The way to a broker. -/
inductive Transport
  | orderSend
  | executeOrder
  | native
deriving DecidableEq

namespace Payload

/-! ## The builders -/

/-- The numbers that the native library gives to a deal, to its two types and to an order
without a time limit. -/
def tradeActionDeal : Int := 1

def orderTypeBuy : Int := 0

def orderTypeSell : Int := 1

def orderTimeGtc : Int := 0

/-- The payload for the connector's `order_send`. -/
def orderSend (request : OrderRequest) : Record :=
  Dict.empty.update [("symbol", .str request.symbol), ("volume", .num request.volume),
    ("order_type", .str request.orderType), ("price", .num request.price),
    ("sl", .num request.sl), ("tp", .num request.tp), ("magic", .int request.magic),
    ("comment", .str request.comment)]

/-- The payload for the connector's `execute_order`. -/
def executeOrder (request : OrderRequest) : Record :=
  Dict.empty.update [("symbol", .str request.symbol), ("side", .str (connectorSide request)),
    ("order_type", .str request.orderType), ("quantity", .num request.volume),
    ("price", .num request.price), ("sl", .num request.sl), ("tp", .num request.tp),
    ("comment", .str request.comment)]

/-- The payload for the native `order_send`. -/
def native (request : OrderRequest) (price : Val) : Record :=
  Dict.empty.update [("action", .int tradeActionDeal), ("symbol", .str request.symbol),
    ("volume", .num request.volume),
    ("type", .int (if Text.upper request.orderType = "BUY" then orderTypeBuy else orderTypeSell)),
    ("price", price), ("sl", .num request.sl), ("tp", .num request.tp),
    ("magic", .int request.magic), ("comment", .str request.comment),
    ("type_time", .int orderTimeGtc)]

/-- The payload that is handed to a broker, unless its price cannot be read. -/
def build (transport : Transport) (request : OrderRequest) (tick : Except String (Option Tick)) :
    Except String Record :=
  match transport with
  | .orderSend => .ok (orderSend request)
  | .executeOrder => .ok (executeOrder request)
  | .native => (nativePrice request tick).map (native request)

/-! ## Reading -/

/-- An order as a broker reads it. -/
structure Reading where
  symbol : Option Val
  meaning : Option (OrderSide × OrderKind)
  volume : Option Val
  price : Option Val
  sl : Option Val
  tp : Option Val
  magic : Option Val

/-- The side that a text names. -/
def side? : Val → Option OrderSide
  | .str "BUY" => some .buy
  | .str "SELL" => some .sell
  | _ => none

/-- The meaning of an order type in a payload. -/
def typed? : Val → Option (OrderSide × OrderKind)
  | .str orderType => meaning? orderType
  | _ => none

/-- The meaning of the type of a deal. -/
def deal? (type : Val) : Option (OrderSide × OrderKind) :=
  if type = .int orderTypeBuy then some (.buy, .market)
  else if type = .int orderTypeSell then some (.sell, .market)
  else none

/-- The order that a payload asks for. -/
def read (transport : Transport) (payload : Record) : Reading :=
  { symbol := payload.get "symbol"
    meaning :=
      match transport with
      | .orderSend => (payload.get "order_type").bind typed?
      | .executeOrder => do
          let side ← (payload.get "side").bind side?
          let typed ← (payload.get "order_type").bind typed?
          return (side, typed.2)
      | .native => (payload.get "type").bind deal?
    volume := payload.get (if transport = .executeOrder then "quantity" else "volume")
    price := payload.get "price"
    sl := payload.get "sl"
    tp := payload.get "tp"
    magic := payload.get "magic" }

/-- The value of an attribute. -/
def attribute? : Attribute → Option Val
  | .number value => some (.num value)
  | .none => some .none
  | .missing => none

/-- The quote at which a market order of a side is filled. -/
def quote? (side : OrderSide) (tick : Except String (Option Tick)) : Option Val :=
  match tick with
  | .ok (some quotes) => attribute? (if side = .buy then quotes.ask else quotes.bid)
  | _ => none

/-- A payload asks for the request as it was validated.  Where the request desires no price,
the current quote of its side may stand for it. -/
structure Carries (market : MarketView) (request : OrderRequest)
    (tick : Except String (Option Tick)) (reading : Reading) : Prop where
  symbol : reading.symbol = some (.str (resolveSymbol market request.symbol))
  meaning : reading.meaning = meaning? request.orderType
  volume : reading.volume = some (.num request.volume)
  price : reading.price = some (.num request.price) ∨
    request.price.value ≤ 0 ∧ ∃ side kind, meaning? request.orderType = some (side, kind) ∧
      reading.price = quote? side tick
  sl : reading.sl = some (.num request.sl)
  tp : reading.tp = some (.num request.tp)
  magic : reading.magic = some (.int request.magic)

/-- The type of a request survives a way to a broker. -/
def Expressible (request : OrderRequest) : Transport → Prop
  | .orderSend => True
  | .executeOrder => False
  | .native =>
      Text.upper request.orderType = "BUY" ∨ Text.upper (Text.strip request.orderType) = "SELL"

/-! ## What each payload asks for -/

variable {market : MarketView} {request : OrderRequest} {tick : Except String (Option Tick)}

theorem read_orderSend (request : OrderRequest) :
    read .orderSend (orderSend request) =
      ⟨some (.str request.symbol), meaning? request.orderType, some (.num request.volume),
        some (.num request.price), some (.num request.sl), some (.num request.tp),
        some (.int request.magic)⟩ := by
  simp [read, orderSend, typed?]

theorem magic_executeOrder (request : OrderRequest) :
    (read .executeOrder (executeOrder request)).magic = none := rfl

theorem read_native (request : OrderRequest) (price : Val) :
    read .native (native request price) =
      ⟨some (.str request.symbol),
        some (if Text.upper request.orderType = "BUY" then .buy else .sell, .market),
        some (.num request.volume), some price, some (.num request.sl), some (.num request.tp),
        some (.int request.magic)⟩ := by
  have type : deal? (.int (if Text.upper request.orderType = "BUY" then orderTypeBuy
      else orderTypeSell)) =
        some (if Text.upper request.orderType = "BUY" then .buy else .sell, .market) := by
    split <;> rfl
  rw [← type]
  unfold native
  generalize (if Text.upper request.orderType = "BUY" then orderTypeBuy else orderTypeSell) = number
  rfl

/-- White space has no upper case. -/
theorem toUpper_of_isSpace {char : Char} (space : Text.isSpace char = true) :
    char.toUpper = char := by
  unfold Char.toUpper
  split
  · rename_i lower
    have range : 97 ≤ char.toNat ∧ char.toNat ≤ 122 := lower
    unfold Text.isSpace at space
    simp only [Bool.or_eq_true, Bool.and_eq_true, decide_eq_true_eq, beq_iff_eq] at space
    omega
  · rfl

theorem stripChars_of_forall {chars : List Char}
    (letters : ∀ char ∈ chars, Text.isSpace char = false) : Text.stripChars chars = chars := by
  have kept : ∀ chars : List Char, (∀ char ∈ chars, Text.isSpace char = false) →
      chars.dropWhile Text.isSpace = chars := by
    intro chars letters
    cases chars with
    | nil => rfl
    | cons char rest =>
        exact List.dropWhile_cons_of_neg (by simp [letters char List.mem_cons_self])
  rw [Text.stripChars, kept chars letters, kept chars.reverse, List.reverse_reverse]
  intro char member
  exact letters char (List.mem_reverse.mp member)

/-- A text whose upper case is `BUY` has no white space around it. -/
theorem strip_buy {text : String} (buy : Text.upper text = "BUY") :
    Text.upper (Text.strip text) = "BUY" := by
  have chars : text.toList.map Char.toUpper = ['B', 'U', 'Y'] := by
    have list := congrArg String.toList buy
    rwa [Text.upper, String.toList_ofList] at list
  have letters : ∀ char ∈ text.toList, Text.isSpace char = false := by
    intro char member
    by_contra space
    have same := toUpper_of_isSpace (Bool.eq_true_of_not_eq_false space)
    have upper : char ∈ ['B', 'U', 'Y'] := by
      rw [← chars, ← same]
      exact List.mem_map_of_mem member
    simp only [List.mem_cons, List.not_mem_nil, or_false] at upper
    rcases upper with rfl | rfl | rfl <;> exact space (by decide)
  have whole : Text.stripChars text.toList = text.toList :=
    stripChars_of_forall letters
  rw [Text.strip, whole, String.ofList_toList, buy]

/-- Market orders are the only ones that mean a deal. -/
theorem meaning?_eq_market_iff {side : OrderSide} (orderType : String) :
    meaning? orderType = some (side, .market) ↔
      Text.upper (Text.strip orderType) = if side = .buy then "BUY" else "SELL" := by
  unfold meaning?
  generalize Text.upper (Text.strip orderType) = clean
  constructor
  · intro found
    have listed : (clean, side, OrderKind.market) ∈ orderTypes :=
      (Entries.mem_iff_get (by decide) _ _).mpr found
    simp only [orderTypes, List.mem_cons, Prod.mk.injEq, reduceCtorEq, and_false, and_true,
      List.not_mem_nil, or_false, false_or] at listed
    rcases listed with ⟨rfl, rfl⟩ | ⟨rfl, rfl⟩ <;> rfl
  · rintro rfl
    cases side <;> rfl

/-- The type of a native payload is that of the request exactly when the request is a buy of
the market without white space around it, or a sell of the market. -/
theorem native_meaning_iff (request : OrderRequest) :
    some ((if Text.upper request.orderType = "BUY" then .buy else .sell : OrderSide),
        OrderKind.market) = meaning? request.orderType ↔ Expressible request .native := by
  unfold Expressible
  by_cases buy : Text.upper request.orderType = "BUY"
  · have meant := (@meaning?_eq_market_iff .buy request.orderType).mpr (strip_buy buy)
    simp [buy, meant]
  · rw [if_neg buy, eq_comm, meaning?_eq_market_iff]
    simp [buy]

/-- A native payload has the price of the request or, where it desires none, the quote of the
side that the payload has. -/
theorem native_price {payload : Record} (built : build .native request tick = .ok payload) :
    ∃ price, payload = native request price ∧
      (price = .num request.price ∨ request.price.value ≤ 0 ∧
        some price =
          quote? (if Text.upper request.orderType = "BUY" then .buy else .sell) tick) := by
  unfold build at built
  dsimp only at built
  cases read : nativePrice request tick with
  | error text =>
      rw [read] at built
      cases built
  | ok price =>
      rw [read] at built
      refine ⟨price, (Except.ok.inj built).symm, ?_⟩
      unfold nativePrice at read
      by_cases desired : 0 < request.price.value
      · rw [if_pos desired] at read
        exact .inl (Except.ok.inj read).symm
      rw [if_neg desired] at read
      cases tick with
      | error text => cases read
      | ok quotes =>
          cases quotes with
          | none => exact .inl (Except.ok.inj read).symm
          | some quotes =>
              refine .inr ⟨not_lt.mp desired, ?_⟩
              dsimp only [ok_bind] at read
              by_cases buy : Text.upper request.orderType = "BUY"
              · simp only [buy, decide_true, if_true] at read
                cases ask : quotes.ask <;> rw [ask] at read <;> cases read <;>
                  simp [quote?, buy, ask, attribute?]
              · simp only [buy, decide_false, if_false] at read
                cases bid : quotes.bid <;> rw [bid] at read <;> cases read <;>
                  simp [quote?, buy, bid, attribute?]

/-- A payload asks for the validated request exactly when the request names the resolved symbol
and its type survives the way to the broker. -/
theorem carries_iff {transport : Transport} {payload : Record}
    (built : build transport request tick = .ok payload) :
    Carries market request tick (read transport payload) ↔
      request.symbol = resolveSymbol market request.symbol ∧ Expressible request transport := by
  cases transport with
  | orderSend =>
      cases built
      rw [read_orderSend]
      constructor
      · intro carries
        exact ⟨Val.str.inj (Option.some.inj carries.symbol), trivial⟩
      · rintro ⟨resolved, -⟩
        refine ⟨congrArg (some ∘ Val.str) resolved, ?_, rfl, .inl rfl, rfl, rfl, rfl⟩
        dsimp only
  | executeOrder =>
      cases built
      constructor
      · intro carries
        cases (magic_executeOrder request).symm.trans carries.magic
      · rintro ⟨-, never⟩
        cases never
  | native =>
      rcases native_price built with ⟨price, rfl, quoted⟩
      rw [read_native]
      constructor
      · intro carries
        exact ⟨Val.str.inj (Option.some.inj carries.symbol),
          (native_meaning_iff request).mp carries.meaning⟩
      · rintro ⟨resolved, expressible⟩
        refine ⟨congrArg (some ∘ Val.str) resolved, (native_meaning_iff request).mpr expressible,
          rfl, ?_, rfl, rfl, rfl⟩
        rcases quoted with own | ⟨market, quote⟩
        · exact .inl (congrArg some own)
        · exact .inr ⟨market, _, _, ((native_meaning_iff request).mpr expressible).symm, quote⟩

theorem build_native_of_priced (desired : 0 < request.price.value) :
    build .native request tick = .ok (native request (.num request.price)) := by
  unfold build nativePrice
  dsimp only
  rw [if_pos desired]
  rfl

/-- A sell of the market at a desired price. -/
private def marketSell : OrderRequest :=
  { Sample.request with orderType := "SELL", price := ⟨12 / 10, "1.2"⟩ }

theorem carries_marketSell :
    Carries Sample.surroundings.market marketSell (.ok none)
      (read .native (native marketSell (.num marketSell.price))) :=
  (carries_iff (build_native_of_priced (by decide +kernel))).mpr
    ⟨by decide +kernel, .inr (by decide +kernel)⟩

/-- A buy limit. -/
private def buyLimit : OrderRequest :=
  { Sample.request with orderType := "BUY_LIMIT", price := ⟨12 / 10, "1.2"⟩ }

/-- A valid buy limit is sent natively as a sell of the market. -/
theorem native_sells_buyLimit :
    validateOrder Sample.config Sample.surroundings.market buyLimit = .ok [] ∧
      build .native buyLimit (.ok none) = .ok (native buyLimit (.num buyLimit.price)) ∧
        (read .native (native buyLimit (.num buyLimit.price))).meaning = some (.sell, .market) ∧
          ¬ Carries Sample.surroundings.market buyLimit (.ok none)
            (read .native (native buyLimit (.num buyLimit.price))) := by
  have sells : (read .native (native buyLimit (.num buyLimit.price))).meaning =
      some (.sell, .market) := by
    decide +kernel
  refine ⟨by decide +kernel, build_native_of_priced (by decide +kernel), sells, ?_⟩
  intro carries
  have buys : meaning? buyLimit.orderType = some (.buy, .limit) := by decide +kernel
  cases (buys.symm.trans carries.meaning.symm).trans sells

/-! ## The dispatched submission -/

/-- The entries of a payload that its recorded submission names too. -/
def sharedEntries (payload : Record) : List (Option Val) :=
  [payload.get "symbol", payload.get "price", payload.get "sl", payload.get "tp",
    payload.get "magic", payload.get "comment"]

/-- The same entries of a submission. -/
def submissionEntries (submission : Submission) : List (Option Val) :=
  [some (.str submission.symbol), some submission.price, some (.num submission.sl),
    some (.num submission.tp), submission.magic.map Val.int, some (.str submission.comment)]

/-- Every route records a submission with the entries of its payload. -/
theorem sharedEntries_eq (request : OrderRequest) (side : String) (price : Val) :
    sharedEntries (orderSend request) = submissionEntries
        (submissionOf request request.orderType (.num request.price) (some request.magic)) ∧
      sharedEntries (executeOrder request) = submissionEntries
        (submissionOf request (connectorSide request) (.num request.price) none) ∧
      sharedEntries (native request price) = submissionEntries
        (submissionOf request side price (some request.magic)) := by
  unfold sharedEntries submissionEntries submissionOf
  refine ⟨?_, ?_, ?_⟩
  · simp [orderSend]
  · simp [executeOrder]
  · simp [native]

end Payload

end EaBot.Execution
