import EaBot.Foundation.Value

/-!
# The limits of the risk engine

The engine compares an account and its open positions with hard limits.  A position
counts with its notional value in the currency of the account; where the units of a
position are unknown, the exposure of the whole book is unknown and every check of it
fails.
-/

namespace EaBot.Risk

open EaBot.Foundation

/-- The hard limits; all but the number of positions are fractions. -/
structure RiskEngine where
  maxDrawdown : ℚ
  dailyLossLimit : ℚ
  maxExposure : ℚ
  marginThreshold : ℚ
  maxPositions : Int
  maxPositionSize : ℚ

/-! ## Positions -/

/-- The first listed field that the record has. -/
def firstPresent (record : Record) : List String → Option Val
  | [] => none
  | name :: rest => (record.get name).or (firstPresent record rest)

/-- The price of a position. -/
def positionPrice (position : Record) : Val :=
  (firstPresent position ["current_price", "price_current", "entry_price", "price_open"]).getD
    (.int 0)

/-- The notional value of a position whose size is given; `broker` tells lots from
units. -/
def sizedNotional (position : Record) (size : Val) (broker : Bool) :
    Except String (Option ℚ) := do
  let size ← (size.orElse (.int 0)).toFloat
  let price ← ((positionPrice position).orElse (.int 0)).toFloat
  let contractSize ← numberOf position ["contract_size"]
  if size < 0 ∨ price < 0 then return none
  if broker ∧ contractSize ≤ 0 then return none
  return some (size * price * if contractSize ≤ 0 then 1 else contractSize)

/-- The verified notional value of a position, when its units are known. -/
def positionNotional (position : Record) : Option ℚ :=
  if position.get "_notional_valid" = some (.bool false) then none
  else
    let explicit := (position.get "notional_value").getD .none
    let size := (position.get "size").getD .none
    if explicit ≠ .none then explicit.toFloat.toOption.filter fun value => 0 ≤ value
    else if size ≠ .none then (sizedNotional position size false).toOption.join
    else
      let lots := firstPresent position ["quantity", "volume"]
      (sizedNotional position (lots.getD (.int 0)) lots.isSome).toOption.join

/-- The risk of a book of positions. -/
structure PortfolioRisk where
  totalNotional : ℚ
  totalExposurePct : ℚ
  exposureValid : Bool

/-- Add up the notional values of the open positions. -/
def calculatePortfolioRisk (positions : List Record) (equity : ℚ) : PortfolioRisk :=
  if positions.isEmpty ∨ equity ≤ 0 then ⟨0, 0, 0 < equity⟩
  else
    let notionals := positions.map positionNotional
    let total := (notionals.map fun notional => notional.getD 0).sum
    ⟨total, total / equity, notionals.all Option.isSome⟩

namespace RiskEngine

/-! ## Checks -/

/-- Whether the drawdown is within its limit. -/
def checkDrawdown (engine : RiskEngine) (account : Record) : Except String Bool := do
  let equity ← floatOr account "equity" 0
  let peakEquity ← floatOr account "peak_equity" equity
  return decide (0 < peakEquity ∧ (peakEquity - equity) / peakEquity ≤ engine.maxDrawdown)

/-- Whether the loss of the day is within its limit. -/
def checkDailyLoss (engine : RiskEngine) (account : Record) : Except String Bool := do
  let balance ← floatOr account "balance" 0
  let dailyPnl ← floatOr account "daily_pnl" 0
  return decide (0 < balance ∧ |min dailyPnl 0| / balance ≤ engine.dailyLossLimit)

/-- Whether the margin in use is within its limit. -/
def checkMargin (engine : RiskEngine) (account : Record) : Except String Bool := do
  let equity ← floatOr account "equity" 0
  let usedMargin ← floatOr account "used_margin" 0
  let marginCallLevel ← floatOr account "margin_call_level" 0
  return decide (0 < equity ∧ ¬ (0 < marginCallLevel ∧ equity ≤ marginCallLevel) ∧
    usedMargin / equity ≤ engine.marginThreshold)

/-- Whether the exposure stays within its limit, together with a proposed trade of a
given notional value when there is one. -/
def checkProjectedExposure (engine : RiskEngine) (positions : List Record) (equity : ℚ)
    (proposed : Option ℚ) : Bool :=
  let current := calculatePortfolioRisk positions equity
  if equity ≤ 0 then false
  else if !current.exposureValid then false
  else
    match proposed with
    | none => current.totalExposurePct ≤ engine.maxExposure
    | some notional =>
        0 < notional && (current.totalNotional + notional) / equity ≤ engine.maxExposure

end RiskEngine

end EaBot.Risk
