import EaBot.Risk.KillSwitch
import Mathlib.Data.Rat.Defs
import Mathlib.Algebra.Order.Ring.Rat

/-!
# Circuit breakers

A breaker counts failures in a row and opens when they reach its threshold.  An
opening breaker triggers and locks the kill switch it is wired to, and both calls may
raise: the breaker is open by then, and what the first call did to the switch stays.

The registry holds one breaker for each external dependency, and the execution guard
puts the breaker of the execution in line with the switch.
-/

namespace EaBot.Risk

open EaBot.Foundation

/-- The operational state of a breaker. -/
inductive BreakerState
  | closed
  | opened
  | halfOpen
deriving DecidableEq

/-- Why a breaker counts a failure. -/
inductive BreakerTripReason
  | riskBreach
  | executionError
  | rejection
  | connectionLost
  | manual
deriving DecidableEq

/-- The text of a reason. -/
def BreakerTripReason.value : BreakerTripReason → String
  | riskBreach => "risk_breach"
  | executionError => "execution_error"
  | rejection => "rejection"
  | connectionLost => "connection_lost"
  | manual => "manual"

/-- A failure or success that a breaker has seen. -/
structure BreakerEvent where
  timestamp : String
  failure : Bool
  reason : Option BreakerTripReason
  detail : String
deriving DecidableEq

/-- What one operation reads from the clocks: the wall clock as often as it asks, the
monotonic one once. -/
structure Clock where
  iso : Nat → String
  epoch : ℚ

/-- A circuit breaker. -/
structure CircuitBreaker where
  failureThreshold : Int
  resetWindowSeconds : ℚ
  state : BreakerState
  consecutiveFailures : Int
  lastFailureAt : Option String
  events : List BreakerEvent
  lastFailureEpoch : Option ℚ
deriving DecidableEq

namespace CircuitBreaker

/-- A breaker that has seen nothing. -/
def fresh (failureThreshold : Int) (resetWindowSeconds : ℚ) : CircuitBreaker :=
  ⟨failureThreshold, resetWindowSeconds, .closed, 0, none, [], none⟩

/-- Trigger the switch and lock it.  What has been done stays when a call raises. -/
def halt (switch : KillSwitch) (clock : Clock) (reason triggeredBy : String) :
    Except String Unit × KillSwitch :=
  match switch.trigger (clock.iso 2) reason triggeredBy with
  | .error raised => (.error raised, switch)
  | .ok (_, triggered) =>
      match triggered.lock (clock.iso 3) KillSwitch.automaticLock with
      | .error raised => (.error raised, triggered)
      | .ok (_, locked) => (.ok (), locked)

/-- Halt the switch that a breaker is wired to, when there is one. -/
def haltWired (switch : Option KillSwitch) (clock : Clock) (reason triggeredBy : String) :
    Except String Unit × Option KillSwitch :=
  match switch with
  | none => (.ok (), none)
  | some switch =>
      let halted := halt switch clock reason triggeredBy
      (halted.1, some halted.2)

/-- Record a failure; the breaker opens when the threshold is reached. -/
def recordFailure (breaker : CircuitBreaker) (switch : Option KillSwitch) (clock : Clock)
    (reason : BreakerTripReason) (detail : String) :
    Except String BreakerState × CircuitBreaker × Option KillSwitch :=
  if breaker.state = .opened then
    let seen := { breaker with
      events := breaker.events ++ [⟨clock.iso 0, true, some reason, detail⟩] }
    (.ok seen.state, seen, switch)
  else
    let seen := { breaker with
      consecutiveFailures := breaker.consecutiveFailures + 1
      lastFailureAt := some (clock.iso 0)
      lastFailureEpoch := some clock.epoch
      events := breaker.events ++ [⟨clock.iso 1, true, some reason, detail⟩] }
    if seen.consecutiveFailures ≥ seen.failureThreshold then
      let tripped := { seen with state := .opened }
      let halted := haltWired switch clock s!"Circuit breaker tripped: {reason.value}"
        "circuit_breaker"
      (halted.1.map fun _ => tripped.state, tripped, halted.2)
    else (.ok seen.state, seen, switch)

/-- Record a success. -/
def recordSuccess (breaker : CircuitBreaker) (clock : Clock) : BreakerState × CircuitBreaker :=
  let seen := { breaker with
    consecutiveFailures := 0
    events := breaker.events ++ [⟨clock.iso 0, false, none, ""⟩]
    state := if breaker.state = .halfOpen then .closed else breaker.state }
  (seen.state, seen)

/-- Whether a call is allowed as the breaker stands. -/
def allow (breaker : CircuitBreaker) : Bool :=
  breaker.state = .closed

/-- Whether the reset window has passed since the last failure. -/
def cooldownElapsed (breaker : CircuitBreaker) (clock : Clock) : Bool :=
  match breaker.lastFailureEpoch with
  | none => true
  | some epoch => clock.epoch - epoch ≥ breaker.resetWindowSeconds

/-- Whether a call is allowed; an open breaker lets a trial through after its
cooldown. -/
def checkAllow (breaker : CircuitBreaker) (clock : Clock) : Bool × CircuitBreaker :=
  if breaker.state = .opened then
    if breaker.cooldownElapsed clock then (true, { breaker with state := .halfOpen })
    else (false, breaker)
  else (true, breaker)

/-- Reset the breaker by hand. -/
def reset (breaker : CircuitBreaker) (clock : Clock) : CircuitBreaker :=
  { breaker with
    state := .closed
    consecutiveFailures := 0
    events := breaker.events ++ [⟨clock.iso 0, false, some .manual, "manual reset"⟩] }

/-- Trip the breaker by hand. -/
def tripManual (breaker : CircuitBreaker) (switch : Option KillSwitch) (clock : Clock) :
    Except String Unit × CircuitBreaker × Option KillSwitch :=
  let tripped := { breaker with
    state := .opened
    consecutiveFailures := breaker.failureThreshold
    events := breaker.events ++ [⟨clock.iso 0, true, some .manual, "manual trip"⟩] }
  let halted := haltWired switch clock "Manual breaker trip" "operator"
  (halted.1, tripped, halted.2)

/-! ## Halting the switch -/

/-- A switch that can be triggered and locked in a row. -/
def Haltable (switch : KillSwitch) : Prop :=
  (switch.state = .active ∨ switch.state = .resetPending) ∧ switch.locked = false

instance (switch : KillSwitch) : Decidable (Haltable switch) :=
  inferInstanceAs (Decidable (_ ∧ _))

section Halt

variable (switch : KillSwitch) (clock : Clock) (reason triggeredBy : String)

/-- Whatever the switch answers, trading is blocked after an attempt to halt it. -/
theorem isBlocked_halt : (halt switch clock reason triggeredBy).2.isBlocked = true := by
  unfold halt KillSwitch.trigger
  split_ifs with locked triggered
  · simp [KillSwitch.isBlocked, locked]
  · simp [KillSwitch.isBlocked, triggered]
  · simp only [KillSwitch.lock, ne_eq, not_true_eq_false, if_false]
    split_ifs <;> rfl

variable {switch}

/-- A switch that can be halted is locked afterwards. -/
theorem halt_of_haltable (haltable : Haltable switch) :
    (halt switch clock reason triggeredBy).1 = .ok () ∧
      (halt switch clock reason triggeredBy).2.locked = true := by
  rcases haltable with ⟨state, unlocked⟩
  rcases state with state | state <;>
    simp [halt, KillSwitch.trigger, KillSwitch.lock, state, unlocked]

/-- Any other switch raises. -/
theorem halt_of_not_haltable (stuck : ¬Haltable switch) :
    (halt switch clock reason triggeredBy).1 ≠ .ok () := by
  unfold halt KillSwitch.trigger
  split_ifs with locked triggered
  · simp
  · simp
  · have held : switch.locked = true := by
      by_contra unlocked
      apply stuck
      refine ⟨?_, Bool.eq_false_iff.mpr unlocked⟩
      cases state : switch.state <;> simp_all
    simp [KillSwitch.lock, held]

/-- What halting keeps of a sound switch. -/
theorem sound_halt (sound : switch.Sound) :
    (halt switch clock reason triggeredBy).2.Sound := by
  unfold halt
  cases triggers : switch.trigger (clock.iso 2) reason triggeredBy with
  | error raised => exact sound
  | ok result =>
      rcases result with ⟨record, triggered⟩
      have moved : KillSwitch.Moves switch (.trigger reason triggeredBy) record triggered :=
        KillSwitch.moves_of_perform triggers
      dsimp only
      cases locks : triggered.lock (clock.iso 3) KillSwitch.automaticLock with
      | error raised => exact moved.sound
      | ok result =>
          rcases result with ⟨record, locked⟩
          have moved : KillSwitch.Moves triggered (.lock KillSwitch.automaticLock) record locked :=
            KillSwitch.moves_of_perform locks
          exact moved.sound

end Halt

/-! ## What a failure does -/

/-- Whether a failure opens the breaker. -/
def FailureOpens (breaker : CircuitBreaker) : Prop :=
  breaker.state ≠ .opened ∧ breaker.consecutiveFailures + 1 ≥ breaker.failureThreshold

instance (breaker : CircuitBreaker) : Decidable breaker.FailureOpens :=
  inferInstanceAs (Decidable (_ ∧ _))

section Failure

variable {breaker : CircuitBreaker} (switch : KillSwitch) (clock : Clock)
  (reason : BreakerTripReason) (detail : String)

/-- A failure that opens the breaker halts the switch. -/
theorem recordFailure_of_opens (opens : breaker.FailureOpens) :
    let failed := breaker.recordFailure (some switch) clock reason detail
    let halted := halt switch clock s!"Circuit breaker tripped: {reason.value}" "circuit_breaker"
    failed.1 = halted.1.map (fun _ => .opened) ∧ failed.2.1.state = .opened ∧
      failed.2.2 = some halted.2 := by
  rcases opens with ⟨other, reached⟩
  have exceeded : breaker.failureThreshold ≤ breaker.consecutiveFailures + 1 := reached
  simp [recordFailure, other, exceeded, haltWired]

/-- Any other failure leaves the switch and the state of the breaker alone. -/
theorem recordFailure_of_not_opens (quiet : ¬breaker.FailureOpens) :
    let failed := breaker.recordFailure (some switch) clock reason detail
    failed.1 = .ok breaker.state ∧ failed.2.1.state = breaker.state ∧ failed.2.2 = some switch := by
  unfold recordFailure
  by_cases opened : breaker.state = .opened
  · simp [opened]
  · have below : ¬breaker.failureThreshold ≤ breaker.consecutiveFailures + 1 :=
      fun reached => quiet ⟨opened, reached⟩
    simp [opened, below]

end Failure

end CircuitBreaker

end EaBot.Risk
