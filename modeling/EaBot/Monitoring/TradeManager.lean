import EaBot.Execution.StopLadder
import EaBot.Foundation.Value
import EaBot.Mt5.Connector

/-!
# The trade manager

On every call the manager reads the open positions and moves the stop of each along the
ladder.  The risk of a position is the distance of its initial stop, which a registry
remembers; when the registry has lost the trade the manager takes the stop in force in
its place, although it may have moved that stop before.

A stop is applied too early exactly by that replacement: the price has reached a rung in
multiples of the risk in use that it has not reached in multiples of the initial one.
-/

namespace EaBot.Monitoring

open EaBot.Foundation EaBot.Execution EaBot.Mt5

/-- The two sides of a quote; either may be missing. -/
structure TickQuote where
  bid : Option ℚ
  ask : Option ℚ

/-- What the broker answers to a modification. -/
structure ModifyResult where
  success : Bool
  simulated : Bool
  errorCode : Int
  message : String

/-- A position with the stop that it was opened with. -/
structure Trade where
  position : Position
  initialSl : ℚ
deriving DecidableEq

/-- What one call finds: the live switch and configuration, the positions that the broker
lists with their prices, the market, the trades that the registry remembers, and what the
broker answers. -/
structure ManageCall where
  enabled : Option Bool
  config : Option SLTPConfig
  listed : Int → Bool
  mark : Int → ℚ
  tick : String → Except String (Option TickQuote)
  atr : String → Option ℚ
  recalls : Int → Bool
  modify : Int → String → ℚ → Option ℚ → Except String ModifyResult

/-- A change of a stop that has been sent. -/
structure StopChange where
  ticket : Int
  symbol : String
  side : String
  oldSl : Option ℚ
  newSl : ℚ
  reason : StopReason
  lockedR : ℚ
  sent : Bool
  simulated : Bool
  errorCode : Int
  message : String
deriving DecidableEq

/-- The manager with its static configuration. -/
structure TradeManager where
  config : SLTPConfig

namespace TradeManager

variable (manager : TradeManager) (call : ManageCall)

/-- The configuration of a call. -/
def liveConfig : SLTPConfig :=
  call.config.getD manager.config

/-- The master switch of a call. -/
def isEnabled : Bool :=
  call.enabled.getD manager.config.enabled

/-- The price at which a position would be closed. -/
def priceOf (position : Position) (side : String) (tick : Option TickQuote) : ℚ :=
  let quoted := tick.bind fun quote => if side = "buy" then quote.bid else quote.ask
  quoted.getD position.priceCurrent

/-- The initial risk of a position: the distance of the stop that the registry remembers
or, when it remembers none, of the stop in force. -/
def initialRiskOf (position : Position) (remembered : ℚ) : Option ℚ :=
  let initialSl := if remembered = 0 then position.sl.getD 0 else remembered
  if initialSl = 0 then none else some |position.priceOpen - initialSl|

/-- The desired stop of a position at a price. -/
def decisionFor (position : Position) (remembered : ℚ) (side : String) (price : ℚ) :
    Option SLTPDecision :=
  decideStopLoss side (some position.priceOpen) position.sl (some price)
    (some ((call.atr position.symbol).getD 0)) (initialRiskOf position remembered)
    (some (manager.liveConfig call))

/-- Decide on a position and send the change; a read or a modification may raise. -/
def evaluateAndApply (position : Position) (remembered : ℚ) : Except String (Option StopChange) :=
  if position.ticket = 0 ∨ position.symbol = "" then .ok none
  else
    let side := Text.lower position.side
    if side ≠ "buy" ∧ side ≠ "sell" then .ok none
    else do
      let tick ← call.tick position.symbol
      let price := priceOf position side tick
      match manager.decisionFor call position remembered side price with
      | none => pure none
      | some decision =>
          let result ← call.modify position.ticket position.symbol decision.newSl
            (position.tp.filter fun level => level ≠ 0)
          pure (some ⟨position.ticket, position.symbol, side, position.sl, decision.newSl,
            decision.reason, decision.lockedR, result.success, result.simulated,
            result.errorCode, result.message⟩)

/-- The snapshot of a trade that the broker lists. -/
def snapshotOf (trade : Trade) : Position :=
  { trade.position with priceCurrent := call.mark trade.position.ticket }

/-- The initial stop that the registry gives for a trade, zero when it has lost it. -/
def rememberedFor (trade : Trade) : ℚ :=
  if call.recalls trade.position.ticket then trade.initialSl else 0

/-- The change that a call makes for a trade.  An error of one position never blocks the
others. -/
def changeOf (trade : Trade) : Option StopChange :=
  if manager.isEnabled call ∧ call.listed trade.position.ticket then
    match manager.evaluateAndApply call (snapshotOf call trade) (rememberedFor call trade) with
    | .ok change => change
    | .error _ => none
  else none

/-- A trade after a call: a change that succeeded is the stop in force. -/
def afterChange (trade : Trade) : Trade :=
  match manager.changeOf call trade with
  | none => trade
  | some change =>
      if change.sent then { trade with position.sl := level? change.newSl } else trade

/-- The changes of a call and the trades after it. -/
def manage (book : List Trade) : List StopChange × List Trade :=
  (book.filterMap (manager.changeOf call), book.map (manager.afterChange call))

/-- The trades after a call. -/
def step (book : List Trade) (call : ManageCall) : List Trade :=
  (manager.manage call book).2

/-! ## Rungs and the initial risk -/

/-- The price at which a call would close a trade, unless the quote cannot be read. -/
def priceSeen (trade : Trade) : Option ℚ :=
  match call.tick trade.position.symbol with
  | .ok tick => some (priceOf (snapshotOf call trade) (Text.lower trade.position.side) tick)
  | .error _ => none

/-- How far the price of a call has moved in favour of a trade. -/
def favourOf (trade : Trade) : Option ℚ := do
  let direction ← Direction.ofText? (Text.lower trade.position.side)
  let price ← priceSeen call trade
  pure (direction.gain trade.position.priceOpen price)

/-- The distance between the entry and the initial stop. -/
def initialDistance (trade : Trade) : ℚ :=
  |trade.position.priceOpen - trade.initialSl|

/-- The trigger of the rung that a price has reached. -/
def rungTrigger (cfg : SLTPConfig) (risk favour : ℚ) : ℚ :=
  if cfg.tp1LockEnabled ∧ cfg.tp2TriggerR * risk ≤ favour then cfg.tp2TriggerR
  else cfg.tp1TriggerR

/-- A change is made at a price that has reached the first trigger of the initial risk,
and one beyond break-even at a price that has reached the second. -/
def Timely (trade : Trade) : Prop :=
  ∀ change, manager.changeOf call trade = some change →
    ∃ favour, favourOf call trade = some favour ∧
    (manager.liveConfig call).tp1TriggerR * initialDistance trade ≤ favour ∧
    (change.reason ≠ .breakeven →
      (manager.liveConfig call).tp2TriggerR * initialDistance trade ≤ favour)

/-- The risk that a call measures a trade with. -/
def riskInUse (trade : Trade) : ℚ :=
  riskOf trade.position.priceOpen (trade.position.sl.getD 0)
    ((call.atr trade.position.symbol).getD 0)
    (initialRiskOf trade.position (rememberedFor call trade))

/-- Where the call manages a trade, the triggers are in order, and a rung that the price
has reached in multiples of the risk in use, and whose level improves the stop, has also
been reached in multiples of the initial risk. -/
def Anchored (trade : Trade) : Prop :=
  let cfg := manager.liveConfig call
  let risk := riskInUse call trade
  let entry := trade.position.priceOpen
  manager.isEnabled call ∧ call.listed trade.position.ticket →
    cfg.tp1TriggerR ≤ cfg.tp2TriggerR ∧
    ∀ direction ∈ Direction.ofText? (Text.lower trade.position.side),
      ∀ price ∈ priceSeen call trade,
        ∀ level ∈ reachedLevels cfg direction entry price
            ((call.atr trade.position.symbol).getD 0) risk,
          staysPut cfg direction risk (trade.position.sl.getD 0) level = false →
            rungTrigger cfg risk (direction.gain entry price) * initialDistance trade ≤
              direction.gain entry price

instance (trade : Trade) : Decidable (manager.Anchored call trade) :=
  inferInstanceAs (Decidable (_ → _ ∧ _))

variable {manager call} {trade : Trade}

/-- A change that is sent for a position rests on a decision at the price of its tick. -/
theorem of_evaluateAndApply {position : Position} {remembered : ℚ} {change : StopChange}
    (evaluated : manager.evaluateAndApply call position remembered = .ok (some change)) :
    ∃ tick decision, call.tick position.symbol = .ok tick ∧
      manager.decisionFor call position remembered (Text.lower position.side)
        (priceOf position (Text.lower position.side) tick) = some decision ∧
      change.reason = decision.reason := by
  unfold evaluateAndApply at evaluated
  split at evaluated
  · cases evaluated
  · dsimp only at evaluated
    split at evaluated
    · cases evaluated
    · rcases of_bind_eq_ok evaluated with ⟨tick, quoted, decided⟩
      split at decided
      · cases decided
      · rename_i decision found
        rcases of_bind_eq_ok decided with ⟨result, sent, same⟩
        cases same
        exact ⟨tick, decision, quoted, found, rfl⟩

/-- A change rests on a proposal at the price that the call sees, measured with the risk
in use. -/
theorem stopDecision_of_changeOf {change : StopChange}
    (changed : manager.changeOf call trade = some change) :
    (manager.isEnabled call ∧ call.listed trade.position.ticket) ∧
      ∃ direction ∈ Direction.ofText? (Text.lower trade.position.side),
        ∃ price ∈ priceSeen call trade, ∃ best decision, change.reason = best.reason ∧
          StopDecision (manager.liveConfig call) direction trade.position.priceOpen
            (trade.position.sl.getD 0) price ((call.atr trade.position.symbol).getD 0)
            (riskInUse call trade) best decision := by
  unfold changeOf at changed
  split at changed
  · rename_i managed
    refine ⟨managed, ?_⟩
    split at changed
    · rename_i evaluated
      rw [changed] at evaluated
      rcases of_evaluateAndApply evaluated with ⟨tick, decision, quoted, found, same⟩
      rcases stopDecision_of_some found with ⟨direction, best, named, decides⟩
      simp only [Option.getD_some] at decides
      refine ⟨direction, named, _, ?_, best, decision, ?_, decides⟩
      · rw [priceSeen, show call.tick trade.position.symbol = .ok tick from quoted]
        exact Option.mem_some_self _
      · rw [same, decides.rounded]
    · cases changed
  · cases changed

/-- The rung of a level that a price reaches. -/
theorem rungTrigger_of_mem {cfg : SLTPConfig} {direction : Direction}
    {entry price atr risk level : ℚ}
    (reached : level ∈ reachedLevels cfg direction entry price atr risk) :
    rungTrigger cfg risk (direction.gain entry price) * risk ≤ direction.gain entry price := by
  unfold reachedLevels at reached
  unfold rungTrigger
  split_ifs at reached ⊢ with locks trails breaks
  · exact locks.2
  · exact locks.2
  · exact breaks.2
  · cases reached

/-- A trade that a call measures with its initial risk is anchored. -/
theorem anchored_of_riskInUse
    (ordered : (manager.liveConfig call).tp1TriggerR ≤ (manager.liveConfig call).tp2TriggerR)
    (measured : riskInUse call trade = initialDistance trade) : manager.Anchored call trade := by
  refine fun _ => ⟨ordered, ?_⟩
  intro direction _ price _ level reached _
  rw [← measured]
  exact rungTrigger_of_mem reached

/-- A call measures a trade with its initial risk when the registry remembers the trade or
its stop has not been moved. -/
theorem riskInUse_of_remembered (placed : trade.initialSl ≠ 0)
    (apart : trade.position.priceOpen ≠ trade.initialSl)
    (remembered : call.recalls trade.position.ticket = true ∨
      trade.position.sl = some trade.initialSl) :
    riskInUse call trade = initialDistance trade := by
  have risk : initialRiskOf trade.position (rememberedFor call trade) =
      some (initialDistance trade) := by
    unfold initialRiskOf rememberedFor initialDistance
    rcases remembered with recalled | unmoved
    · simp [recalled, placed]
    · by_cases recalled : call.recalls trade.position.ticket = true
      · simp [recalled, placed]
      · simp [recalled, unmoved, placed]
  have positive : 0 < initialDistance trade := abs_pos.mpr (sub_ne_zero.mpr apart)
  rw [riskInUse, risk, riskOf]
  simp [positive]

/-- An anchored trade is not moved too early. -/
theorem Anchored.timely (anchored : manager.Anchored call trade) : manager.Timely call trade := by
  intro change changed
  obtain ⟨managed, direction, named, price, seen, best, decision, reason, decides⟩ :=
    stopDecision_of_changeOf changed
  rcases anchored managed with ⟨ordered, rungs⟩
  have reached := mem_reachedLevels decides.risky decides.proposed
  have rung := rungs direction named price seen best.newSl reached decides.moves
  have lower := mul_le_mul_of_nonneg_right ordered (abs_nonneg _ : 0 ≤ initialDistance trade)
  refine ⟨direction.gain trade.position.priceOpen price, ?_, ?_⟩
  · rw [favourOf, Option.mem_def.mp named, Option.mem_def.mp seen]
    rfl
  · rw [reason]
    unfold rungTrigger at rung
    rcases candidates_cases decides.risky decides.proposed with
      ⟨locks, -⟩ | ⟨below, -, breakeven, -⟩
    · rw [if_pos locks] at rung
      exact ⟨lower.trans rung, fun _ => rung⟩
    · rw [if_neg below] at rung
      exact ⟨rung, fun other => absurd breakeven other⟩

/-! ## Every run -/

/-- The registry remembers each trade whose stop has been moved. -/
def Remembers (book : List Trade) (call : ManageCall) : Prop :=
  ∀ trade ∈ book, call.recalls trade.position.ticket = true ∨
    trade.position.sl = some trade.initialSl

/-- Trades that were opened with a stop keep their entry and their initial stop. -/
def Opened (book : List Trade) : Prop :=
  ∀ trade ∈ book, trade.initialSl ≠ 0 ∧ trade.position.priceOpen ≠ trade.initialSl

theorem Opened.step {book : List Trade} (opened : Opened book) (manager : TradeManager)
    (call : ManageCall) : Opened (manager.step book call) := by
  intro trade member
  rcases List.mem_map.mp member with ⟨before, held, rfl⟩
  unfold afterChange
  split
  · exact opened before held
  · split <;> exact opened before held

/-- While the registry remembers the trades that have been moved, every call is anchored. -/
theorem every_anchored_of_remembers (manager : TradeManager) {book : List Trade}
    (opened : Opened book) {calls : List ManageCall}
    (remembers : Run.Every manager.step (fun book call => Remembers book call ∧
      (manager.liveConfig call).tp1TriggerR ≤ (manager.liveConfig call).tp2TriggerR) book calls) :
    Run.Every manager.step (fun book call => ∀ trade ∈ book, manager.Anchored call trade)
      book calls := by
  apply remembers.of_invariant Opened opened
  · intro book call opened _
    exact opened.step manager call
  · intro book call opened condition trade member
    rcases opened trade member with ⟨placed, apart⟩
    exact anchored_of_riskInUse condition.2
      (riskInUse_of_remembered placed apart (condition.1 trade member))

/-- In every run of calls, a stop is applied only at a price that has reached its trigger
in multiples of the initial risk, when every call finds its trades anchored. -/
theorem every_timely_of_anchored (manager : TradeManager) (book : List Trade)
    (calls : List ManageCall)
    (anchored : Run.Every manager.step
      (fun book call => ∀ trade ∈ book, manager.Anchored call trade) book calls) :
    Run.Every manager.step (fun book call => ∀ trade ∈ book, manager.Timely call trade)
      book calls :=
  anchored.mono fun _ _ every trade member => (every trade member).timely

/-- A position in gold with a risk of ten dollars. -/
def gold : Trade :=
  ⟨⟨77, "XAUUSD", "BUY", 1, 2000, 2000, 0, 0, 0, 0, none, some 1990, some 2030⟩, 1990⟩

/-- A call at a price, with a range of two dollars. -/
def callAt (price : ℚ) (recalls : Bool) : ManageCall where
  enabled := none
  config := none
  listed := fun _ => true
  mark := fun _ => price
  tick := fun _ => .ok (some ⟨some price, some price⟩)
  atr := fun _ => some 2
  recalls := fun _ => recalls
  modify := fun _ _ _ _ => .ok ⟨true, false, 0, "done"⟩

/-- While the registry remembers the position, its stop goes to break-even and trails the
price beyond the second target. -/
theorem every_timely_gold :
    Run.Every (TradeManager.mk {}).step
      (fun book call => ∀ trade ∈ book, (TradeManager.mk {}).Timely call trade) [gold]
      [callAt 2010 true, callAt 2021 true, callAt 2025 true] := by
  apply every_timely_of_anchored
  exact ⟨by decide +kernel, by decide +kernel, by decide +kernel, trivial⟩

/-- Once the registry has lost the position, the stop trails a price that has gained less
than half of the initial risk. -/
theorem forgotten_trade_trails :
    ((TradeManager.mk {}).manage (callAt (20046 / 10) false)
        ((TradeManager.mk {}).step [gold] (callAt 2010 true))).1.map
          (fun change => (change.reason, change.newSl)) = [(.trailing, 20016 / 10)] ∧
      ¬Run.Every (TradeManager.mk {}).step
        (fun book call => ∀ trade ∈ book, (TradeManager.mk {}).Timely call trade) [gold]
        [callAt 2010 true, callAt (20046 / 10) false] := by
  refine ⟨by decide +kernel, ?_⟩
  rintro ⟨-, late, -⟩
  have favour : favourOf (callAt (20046 / 10) false)
      ((TradeManager.mk {}).afterChange (callAt 2010 true) gold) = some (46 / 10) := by
    decide +kernel
  have trailing : ((TradeManager.mk {}).changeOf (callAt (20046 / 10) false)
      ((TradeManager.mk {}).afterChange (callAt 2010 true) gold)).map StopChange.reason =
        some .trailing := by
    decide +kernel
  rcases Option.map_eq_some_iff.mp trailing with ⟨change, changed, reason⟩
  rcases late _ List.mem_cons_self change changed with ⟨seen, found, -, second⟩
  rw [favour] at found
  cases found
  have early := second (by rw [reason]; decide)
  revert early
  decide +kernel

end TradeManager

end EaBot.Monitoring
