import EaBot.Execution.Request

/-!
# Order validation

The pre-flight checks of a request: its symbol, its order type, the bounds of its
volume, the distance of its price from the market, and the side of its stop loss
and take profit.  The market is read through a view whose lookups may fail; a
failed lookup leaves the checks by an exception, which is a different exit from a
rejected request.
-/

namespace EaBot.Execution

open EaBot.Foundation

/-- An attribute of a foreign object. -/
inductive Attribute
  | missing
  | none
  | number (value : Number)
deriving DecidableEq

/-- The quotes of a symbol. -/
structure Tick where
  ask : Attribute
  bid : Attribute

/-- The volume bounds of a symbol, where the broker names them. -/
structure SymbolInfo where
  volumeMin : Option Number
  volumeMax : Option Number

/-- What validation can ask about the market. -/
structure MarketView where
  resolveSymbol : String → Option String
  hasSymbolLookup : Bool
  symbolInfo : String → Except String (Option SymbolInfo)
  tick : String → Except String (Option Tick)

/-- The order types that the engine accepts, in sorted order. -/
def validOrderTypes : List String :=
  ["BUY", "BUY_LIMIT", "BUY_STOP", "BUY_STOP_LIMIT", "SELL", "SELL_LIMIT", "SELL_STOP",
    "SELL_STOP_LIMIT"]

/-- The broker's name for a symbol, or the cleaned symbol itself. -/
def resolveSymbol (market : MarketView) (symbol : String) : String :=
  let clean := Text.upper (Text.strip symbol)
  if clean = "" then clean
  else
    match present (market.resolveSymbol clean) with
    | some resolved => Text.upper resolved
    | none => clean

/-- The bound that a symbol names, unless it is missing or zero. -/
def boundOr (bound : Option Number) (default : Number) : Number :=
  match bound with
  | some number => if number.value = 0 then default else number
  | none => default

/-- The error of a comparison with a missing number. -/
def noneComparison : String :=
  "'>' not supported between instances of 'NoneType' and 'int'"

/-- The lot size check. -/
def volumeErrors (volume minVolume maxVolume : Number) : List String :=
  if volume.value ≤ 0 then
    [s!"Volume must be greater than 0, got {volume.shown}"]
  else if volume.value < minVolume.value then
    [s!"Volume {volume.shown} is below minimum allowed lot size {minVolume.shown}"]
  else if maxVolume.value < volume.value then
    [s!"Volume {volume.shown} exceeds maximum allowed lot size {maxVolume.shown}"]
  else
    []

/-- The check of a desired price against the current quotes. -/
def spreadErrors (config : EngineConfig) (price : Number) (isBuy : Bool) (tick : Tick) :
    List String :=
  match tick.ask, tick.bid with
  | .number ask, .number bid =>
      let market := if isBuy then ask.value else bid.value
      let difference := |price.value - market|
      let allowed := max config.spreadTolerance (|ask.value - bid.value| * 2)
      if allowed < difference then
        [s!"Price {price.shown} exceeds spread tolerance " ++
          s!"(diff {Text.fixed 5 difference} > allowed {Text.fixed 5 allowed})"]
      else
        []
  | _, _ => []

/-- The price that the stop levels are compared with. -/
def effectivePrice (price : Number) (isBuy : Bool) (tick : Option Tick) :
    Except String Number :=
  match tick with
  | some quotes =>
      if price.value ≤ 0 then
        match if isBuy then quotes.ask else quotes.bid with
        | .number quote => .ok quote
        | .missing => .ok ⟨0, "0.0"⟩
        | .none => .error noneComparison
      else .ok price
  | none => .ok price

/-- The check of the stop levels against the price of the order. -/
def stopErrors (sl tp price : Number) (orderType : String) : List String :=
  if price.value ≤ 0 then []
  else if Text.contains orderType "BUY" then
    (if 0 < sl.value ∧ price.value ≤ sl.value then
      [s!"Buy order SL ({sl.shown}) must be strictly below price ({price.shown})"] else []) ++
    (if 0 < tp.value ∧ tp.value ≤ price.value then
      [s!"Buy order TP ({tp.shown}) must be strictly above price ({price.shown})"] else [])
  else if Text.contains orderType "SELL" then
    (if 0 < sl.value ∧ sl.value ≤ price.value then
      [s!"Sell order SL ({sl.shown}) must be strictly above price ({price.shown})"] else []) ++
    (if 0 < tp.value ∧ price.value ≤ tp.value then
      [s!"Sell order TP ({tp.shown}) must be strictly below price ({price.shown})"] else [])
  else
    []

/-- The errors of a request; a failed lookup is an exception. -/
def validateOrder (config : EngineConfig) (market : MarketView) (request : OrderRequest) :
    Except String (List String) := do
  let blank := Text.strip request.symbol = ""
  let symbol := if blank then "" else resolveSymbol market request.symbol
  let emptyErrors := if blank then ["Symbol cannot be empty"] else []
  let info ←
    if symbol ≠ "" ∧ market.hasSymbolLookup then market.symbolInfo symbol else pure none
  let unknownErrors :=
    if symbol ≠ "" ∧ market.hasSymbolLookup ∧ info.isNone then
      [s!"Invalid symbol '{symbol}': not available in MT5"] else []
  let orderType := Text.upper (Text.strip request.orderType)
  let typeErrors :=
    if validOrderTypes.contains orderType then []
    else [s!"Invalid order_type '{request.orderType}'. " ++
      "Must be one of: " ++ ", ".intercalate validOrderTypes]
  let minVolume := boundOr (info.bind SymbolInfo.volumeMin) config.minVolume
  let maxVolume := boundOr (info.bind SymbolInfo.volumeMax) config.maxVolume
  let tick ← if symbol ≠ "" then market.tick symbol else pure none
  let isBuy := Text.contains orderType "BUY"
  let priceErrors :=
    match tick with
    | some quotes =>
        if 0 < request.price.value then spreadErrors config request.price isBuy quotes else []
    | none => []
  let price ← effectivePrice request.price isBuy tick
  return emptyErrors ++ unknownErrors ++ typeErrors ++
    volumeErrors request.volume minVolume maxVolume ++ priceErrors ++
    stopErrors request.sl request.tp price orderType

end EaBot.Execution
