import EaBot.Execution.ExecuteOrder

/-!
# Dispatching one decision to several terminals

The fan-out attaches to every armed terminal in turn, prices and sizes the order for
that terminal's account, and sends it there.  A failure at one terminal becomes a row
of the result and never stops the others.  The path shares the approval check with
the single path; it neither reads nor writes the ledger or the engine's registries.
-/

namespace EaBot.Execution

open EaBot.Foundation Program

/-- A terminal that may receive orders, with its sizing. -/
structure Target where
  id : Val
  label : Val
  fixedLot : Option ℚ
  maxLotPerTrade : Option ℚ
  riskPerTradePct : Option ℚ

/-- What sizing reads about a symbol; a missing value is zero. -/
structure SizingInfo where
  tradeTickValue : ℚ
  tradeTickSize : ℚ
  volumeStep : ℚ
  volumeMin : ℚ

/-- What the dispatch to one terminal meets. -/
structure TerminalVisit where
  attached : Except String Bool
  resolved : Except String String
  tick : Except String (Option Tick)
  equity : Except String (Option ℚ)
  sizing : Except String (Option SizingInfo)
  clamping : Except String (Option SizingInfo)
  reply : Except String RawReply

/-- What a fan-out meets. -/
structure FanoutSurroundings where
  nativeAvailable : Bool
  knownTargets : List Target
  visits : Nat → TerminalVisit
  clockMs : Nat → Nat

/-- One row of a fan-out result. -/
structure FanoutRow where
  terminalId : Val
  label : Val
  symbol : Option String
  volume : Option ℚ
  success : Bool
  ticket : Option Int
  errorCode : Option Int
  errorMessage : String
  price : Option ℚ
  simulated : Bool

/-- The outcome of a fan-out. -/
structure FanoutResult where
  results : List FanoutRow
  succeeded : Nat
  failed : Nat
  targetCount : Nat

/-! ## Sizing -/

/-- The number, unless it is missing or zero. -/
def numberOr (number : Option ℚ) (default : ℚ) : ℚ :=
  match number with
  | some value => if value = 0 then default else value
  | none => default

/-- The lot that risks a percentage of the account's equity. -/
def riskLot (visit : TerminalVisit) (riskPct riskPrice : ℚ) : Except String ℚ := do
  let equity := (← visit.equity).getD 0
  if equity ≤ 0 then return 0
  let money := equity * riskPct / 100
  match ← visit.sizing with
  | none => return 0
  | some info =>
      if 0 < info.tradeTickValue ∧ 0 < info.tradeTickSize then
        let riskPerLot := riskPrice / info.tradeTickSize * info.tradeTickValue
        return if 0 < riskPerLot then money / riskPerLot else 0
      else
        return 0

/-- The lot within the broker's bounds and steps. -/
def clampLot (lot : ℚ) (info : SizingInfo) : ℚ :=
  let raised := if 0 < info.volumeMin then max lot info.volumeMin else lot
  if 0 < info.volumeStep then
    let stepped := Text.roundHalfEven (raised / info.volumeStep) * info.volumeStep
    if 0 < info.volumeMin ∧ stepped < info.volumeMin then info.volumeMin else stepped
  else
    raised

/-- Size the lot for one terminal.  The broker's bounds are read only after sizing by
risk: on the other paths the native module's name is unbound at that point and the
error is dropped with the bounds. -/
def sizeForTerminal (config : EngineConfig) (visit : TerminalVisit) (target : Target)
    (riskPrice : ℚ) (fallbackVolume : ℚ) : ℚ :=
  let maxLot := numberOr target.maxLotPerTrade config.maxVolume.value
  let byRisk := 0 < numberOr target.riskPerTradePct 0 ∧ 0 < riskPrice
  let fixed := numberOr target.fixedLot 0
  let sized : Except String (ℚ × Bool) :=
    if 0 < fixed then .ok (fixed, false)
    else if byRisk then
      (riskLot visit (numberOr target.riskPerTradePct 0) riskPrice).map fun lot => (lot, true)
    else .ok (fallbackVolume, false)
  match sized with
  | .error _ => 0
  | .ok (lot, bound) =>
      if lot ≤ 0 then 0
      else
        let lot := max config.minVolume.value (min lot maxLot)
        let lot :=
          match bound, visit.clamping with
          | true, .ok info => clampLot lot (info.getD ⟨0, 0, 0, 0⟩)
          | _, _ => lot
        Text.roundTo 4 lot

/-! ## One terminal -/

/-- The entry price of a side. -/
def entryPrice (isBuy : Bool) (tick : Tick) : Except String ℚ :=
  match if isBuy then tick.ask else tick.bid with
  | .number quote => .ok quote.value
  | .none => .error "float() argument must be a string or a real number, not 'NoneType'"
  | .missing => .error s!"'Tick' object has no attribute '{quoteSide isBuy}'"

/-- A number that a computation produced. -/
def computed (value : ℚ) : Number :=
  ⟨value, Text.fixed 5 value⟩

/-- The row of a terminal before anything has been done there. -/
def startRow (target : Target) (request : OrderRequest) : FanoutRow where
  terminalId := target.id
  label := target.label.orElse target.id
  symbol := some request.symbol
  volume := some request.volume.value
  success := false
  ticket := none
  errorCode := some (-1)
  errorMessage := ""
  price := none
  simulated := false

/-- The row after an exception, whose text is cut off. -/
def raisedRow (row : FanoutRow) (text : String) : FanoutRow :=
  { row with errorMessage := String.ofList (text.toList.take 200) }

/-- What is sent to a terminal, with the row as it stands then. -/
structure TerminalOrder where
  row : FanoutRow
  submission : Submission

/-- Prepare the order for one terminal, or end with its row. -/
def prepareTerminal (config : EngineConfig) (visit : TerminalVisit) (target : Target)
    (request : OrderRequest) (riskPrice tpPrice : ℚ) : Except FanoutRow TerminalOrder := do
  let row := startRow target request
  let attached ← visit.attached.mapError (raisedRow row)
  if !attached then
    throw { row with errorMessage := s!"Gagal attach ke terminal '{target.id.text}'." }
  let resolved ← visit.resolved.mapError (raisedRow row)
  let symbol := if resolved = "" then request.symbol else resolved
  let row := { row with symbol := some symbol }
  match ← visit.tick.mapError (raisedRow row) with
  | none => throw { row with errorMessage := s!"Tidak ada tick untuk simbol '{symbol}'." }
  | some tick =>
      let isBuy := Text.upper request.orderType = "BUY"
      let entry ← (entryPrice isBuy tick).mapError (raisedRow row)
      let sign : ℚ := if isBuy then 1 else -1
      let sl := if 0 < riskPrice then entry - sign * riskPrice else 0
      let tp := if 0 < tpPrice then entry + sign * tpPrice else 0
      let volume := sizeForTerminal config visit target riskPrice request.volume.value
      let row := { row with price := some entry, volume := some volume }
      if volume ≤ 0 then
        throw { row with errorMessage := "Volume lot tidak valid (0)." }
      return {
        row := row
        submission := {
          symbol := symbol
          side := if isBuy then "BUY" else "SELL"
          volume := computed volume
          price := .num (computed entry)
          sl := computed sl
          tp := computed tp
          magic := some request.magic
          comment := request.comment } }

/-- The row of an order that was sent. -/
def sentRow (row : FanoutRow) : Except String SendReply → FanoutRow
  | .error text => raisedRow row text
  | .ok reply =>
      { row with
        success := reply.success
        ticket := reply.ticket
        errorCode := some reply.errorCode
        errorMessage := if reply.message.truthy then reply.message.text else "" }

/-- Attach to one terminal and send it the order. -/
def dispatchToTerminal (config : EngineConfig) (visit : TerminalVisit) (target : Target)
    (caller : Nat) (request : OrderRequest) (riskPrice tpPrice : ℚ) :
    Program World FanoutRow :=
  match prepareTerminal config visit target request riskPrice tpPrice with
  | .error row => return row
  | .ok order => do
      dispatch caller request.idempotencyKey .terminal order.submission
      return sentRow order.row (visit.reply.bind parseSendResult)

/-- Visit the terminals in turn. -/
def visitTerminals (config : EngineConfig) (surroundings : FanoutSurroundings) (caller : Nat)
    (request : OrderRequest) (riskPrice tpPrice : ℚ) :
    Nat → List Target → Program World (List FanoutRow)
  | _, [] => return []
  | number, target :: rest => do
      let row ← dispatchToTerminal config (surroundings.visits number) target caller request
        riskPrice tpPrice
      let rows ← visitTerminals config surroundings caller request riskPrice tpPrice
        (number + 1) rest
      return row :: rows

/-- A simulated fill for every target. -/
def simulateTerminals (surroundings : FanoutSurroundings) (caller : Nat)
    (request : OrderRequest) : Nat → List Target → Program World (List FanoutRow)
  | _, [] => return []
  | number, target :: rest => do
      let ticket ← nextSimulatedTicket (surroundings.clockMs number)
      dispatch caller request.idempotencyKey .simulated
        (submissionOf request request.orderType (.num request.price) (some request.magic))
      let rows ← simulateTerminals surroundings caller request (number + 1) rest
      return {
        terminalId := target.id
        label := target.label
        symbol := some request.symbol
        volume := some request.volume.value
        success := true
        ticket := some ticket
        errorCode := some 0
        errorMessage := "Simulated fan-out fill"
        price := some request.price.value
        simulated := true } :: rows

/-- A row that belongs to no terminal. -/
def blankRow (code : Option Int) (message : String) : FanoutRow :=
  ⟨.none, .none, none, none, false, none, code, message, none, false⟩

/-- Dispatch an approved decision to the targets. -/
def fanOut (config : EngineConfig) (surroundings : FanoutSurroundings) (caller : Nat)
    (request : OrderRequest) (targets : List Target) (riskPrice tpPrice : ℚ) :
    Program World FanoutResult :=
  if targets.isEmpty then
    return ⟨[], 0, 0, 0⟩
  else if surroundings.nativeAvailable then do
    let rows ← visitTerminals config surroundings caller request riskPrice tpPrice 0 targets
    return ⟨rows, rows.countP FanoutRow.success, rows.countP fun row => !row.success,
      targets.length⟩
  else if config.simulationMode then do
    let rows ← simulateTerminals surroundings caller request 0 targets
    return ⟨rows, rows.length, 0, targets.length⟩
  else
    return ⟨[blankRow none "No MT5 and simulation off"], 0, targets.length, targets.length⟩

/-- Dispatch a decision to every target; without a list of targets, to the known ones. -/
def executeOrderFanout (config : EngineConfig) (surroundings : FanoutSurroundings)
    (caller : Nat) (request : OrderRequest) (targets : Option (List Target))
    (riskPrice tpPrice : ℚ) : Program World FanoutResult :=
  if config.requireApproval && !request.approved then
    return ⟨[blankRow (some 403)
      ("Fan-out rejected: require_approval is enabled but the order " ++
        "carries no gate-issued approval_token (fail-closed).")], 0, 1, 0⟩
  else
    fanOut config surroundings caller request (targets.getD surroundings.knownTargets) riskPrice
      tpPrice

/-! ## When a fan-out reaches a broker -/

/-- Whether an order can be prepared for one of the targets. -/
def anyPrepared (config : EngineConfig) (surroundings : FanoutSurroundings)
    (request : OrderRequest) (riskPrice tpPrice : ℚ) : Nat → List Target → Bool
  | _, [] => false
  | number, target :: rest =>
      (prepareTerminal config (surroundings.visits number) target request riskPrice
        tpPrice).isOk ||
      anyPrepared config surroundings request riskPrice tpPrice (number + 1) rest

/-- Whether a fan-out sends an order to some terminal. -/
def reachesTerminal (config : EngineConfig) (surroundings : FanoutSurroundings)
    (request : OrderRequest) (targets : Option (List Target)) (riskPrice tpPrice : ℚ) : Bool :=
  !(config.requireApproval && !request.approved) && surroundings.nativeAvailable &&
    anyPrepared config surroundings request riskPrice tpPrice 0
      (targets.getD surroundings.knownTargets)

end EaBot.Execution
