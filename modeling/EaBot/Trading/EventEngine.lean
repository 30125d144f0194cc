import EaBot.Trading.MarketSnapshot

/-!
# Market events and their queue

Detected events wait in a bounded queue.  The event with the highest priority leaves it
first, and among events of one priority the one that came first.
-/

namespace EaBot.Trading

open EaBot.Foundation

/-- The events that can be detected. -/
inductive EventType
  | trendBullish | trendBearish | trendNeutral | trendStrengthening | trendWeakening
  | momentumBullish | momentumBearish | momentumDivergence
  | volatilityExpanding | volatilityContracting | volatilitySpike
  | breakout | breakdown | reversal | doji | gapUp | gapDown
  | emaCrossover | macdCrossover | rsiOverbought | rsiOversold | stochOverbought | stochOversold
  | drawdownWarning | exposureLimitReached | liquidityWarning
  | tradeClose | riskDrawdown | riskExposure | riskMargin
deriving DecidableEq

namespace EventType

/-- The name of an event. -/
def value : EventType → String
  | trendBullish => "TREND_BULLISH"
  | trendBearish => "TREND_BEARISH"
  | trendNeutral => "TREND_NEUTRAL"
  | trendStrengthening => "TREND_STRENGTHENING"
  | trendWeakening => "TREND_WEAKENING"
  | momentumBullish => "MOMENTUM_BULLISH"
  | momentumBearish => "MOMENTUM_BEARISH"
  | momentumDivergence => "MOMENTUM_DIVERGENCE"
  | volatilityExpanding => "VOLATILITY_EXPANDING"
  | volatilityContracting => "VOLATILITY_CONTRACTING"
  | volatilitySpike => "VOLATILITY_SPIKE"
  | breakout => "BREAKOUT"
  | breakdown => "BREAKDOWN"
  | reversal => "REVERSAL"
  | doji => "DOJI"
  | gapUp => "GAP_UP"
  | gapDown => "GAP_DOWN"
  | emaCrossover => "EMA_CROSSOVER"
  | macdCrossover => "MACD_CROSSOVER"
  | rsiOverbought => "RSI_OVERBOUGHT"
  | rsiOversold => "RSI_OVERSOLD"
  | stochOverbought => "STOCH_OVERBOUGHT"
  | stochOversold => "STOCH_OVERSOLD"
  | drawdownWarning => "DRAWDOWN_WARNING"
  | exposureLimitReached => "EXPOSURE_LIMIT_REACHED"
  | liquidityWarning => "LIQUIDITY_WARNING"
  | tradeClose => "TRADE_CLOSE"
  | riskDrawdown => "RISK_DRAWDOWN"
  | riskExposure => "RISK_EXPOSURE"
  | riskMargin => "RISK_MARGIN"

end EventType

/-- The priority of an event, from the lowest to the highest. -/
inductive EventPriority
  | background | low | normal | medium | high | critical
deriving DecidableEq

namespace EventPriority

/-- The rank of a priority. -/
def value : EventPriority → Nat
  | background => 0
  | low => 1
  | normal => 2
  | medium => 3
  | high => 4
  | critical => 5

end EventPriority

/-- The priority of the events of a type. -/
def getPriority : EventType → EventPriority
  | .drawdownWarning | .exposureLimitReached | .liquidityWarning => .critical
  | .breakout | .breakdown | .reversal | .gapUp | .gapDown | .volatilitySpike => .high
  | .emaCrossover | .macdCrossover => .high
  | .volatilityExpanding | .volatilityContracting => .medium
  | .momentumBullish | .momentumBearish | .momentumDivergence => .medium
  | .trendBullish | .trendBearish | .trendStrengthening | .trendWeakening => .medium
  | .trendNeutral => .normal
  | .rsiOverbought | .rsiOversold | .stochOverbought | .stochOversold => .medium
  | .doji => .background
  | .tradeClose => .normal
  | .riskDrawdown | .riskExposure | .riskMargin => .critical

/-- A detected event.  The time and the number of its bar are attributes that an event may
lack. -/
structure DetectedEvent (α : Type) where
  eventType : EventType
  timestamp : String
  symbol : String
  time : Val
  barTime : Val
  barIndex : Val
  marketSnapshot : MarketSnapshot α

/-- An event in the queue. -/
structure PrioritizedEvent (α : Type) where
  event : DetectedEvent α
  priority : EventPriority
  sequence : Nat

/-- The queue of events. -/
structure EventQueue (α : Type) where
  maxSize : Nat
  queue : List (PrioritizedEvent α)
  sequence : Nat

namespace EventQueue

variable {α : Type}

/-- A queue without events. -/
def empty (maxSize : Nat) : EventQueue α :=
  ⟨maxSize, [], 0⟩

/-- Add an event, unless the queue is full. -/
def enqueue (queue : EventQueue α) (event : DetectedEvent α) : Option (EventQueue α) :=
  if queue.maxSize ≤ queue.queue.length then none
  else some { queue with
    queue := queue.queue ++ [⟨event, getPriority event.eventType, queue.sequence⟩]
    sequence := queue.sequence + 1 }

/-- Whether an event leaves the queue before another one. -/
def Precedes (first second : PrioritizedEvent α) : Prop :=
  second.priority.value < first.priority.value ∨
    first.priority.value = second.priority.value ∧ first.sequence < second.sequence

instance (first second : PrioritizedEvent α) : Decidable (Precedes first second) :=
  inferInstanceAs (Decidable (_ ∨ _))

/-- The event that leaves first, and the others. -/
def takeBest : List (PrioritizedEvent α) → Option (PrioritizedEvent α × List (PrioritizedEvent α))
  | [] => none
  | entry :: rest =>
      match takeBest rest with
      | none => some (entry, [])
      | some (best, others) =>
          if Precedes best entry then some (best, entry :: others) else some (entry, rest)

/-- Remove the event that leaves first. -/
def dequeue (queue : EventQueue α) : Option (DetectedEvent α × EventQueue α) :=
  (takeBest queue.queue).map fun taken => (taken.1.event, { queue with queue := taken.2 })

/-- What leaves the queue and what stays were in it. -/
theorem takeBest_perm {entries rest : List (PrioritizedEvent α)} {best : PrioritizedEvent α}
    (taken : takeBest entries = some (best, rest)) : entries.Perm (best :: rest) := by
  induction entries generalizing best rest with
  | nil => cases taken
  | cons entry others ih =>
      rw [takeBest] at taken
      cases inner : takeBest others with
      | none =>
          rw [inner] at taken
          cases others with
          | nil =>
              cases Option.some.inj taken
              exact .refl _
          | cons other others =>
              rw [takeBest] at inner
              split at inner
              · cases inner
              · split at inner <;> cases inner
      | some found =>
          rw [inner] at taken
          dsimp only at taken
          have split := ih inner
          by_cases earlier : Precedes found.1 entry
          · rw [if_pos earlier] at taken
            cases Option.some.inj taken
            exact (split.cons entry).trans (.swap _ _ _)
          · rw [if_neg earlier] at taken
            cases Option.some.inj taken
            exact .refl _

end EventQueue

end EaBot.Trading
