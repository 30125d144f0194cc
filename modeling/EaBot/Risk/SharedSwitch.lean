import EaBot.Foundation.Run
import EaBot.Risk.CircuitBreaker
import Mathlib.Logic.Function.Basic

/-!
# Breakers that share a switch

Any number of breakers are wired to one kill switch, which an operator works on as
well.  A step is one operation on the switch or on one of the breakers.  A breaker
that opens can halt the switch only when the switch is active or waits for the
confirmation of a reset without being locked; in every other state the call raises
out of the breaker, which is then open with a switch that may not be locked.
-/

namespace EaBot.Risk

open EaBot.Foundation

/-- A kill switch and the breakers that are wired to it. -/
structure Station (ι : Type) where
  switch : KillSwitch
  breakers : ι → CircuitBreaker

namespace Station

/-- An operation on the switch or on a breaker. -/
inductive Operation (ι : Type)
  | onSwitch (operation : KillSwitch.Operation)
  | recordFailure (index : ι) (reason : BreakerTripReason) (detail : String)
  | recordSuccess (index : ι)
  | checkAllow (index : ι)
  | reset (index : ι)
  | tripManual (index : ι)

variable {ι : Type} [DecidableEq ι]

/-- Put back a breaker, and the switch when the breaker worked on it. -/
def replace (station : Station ι) (index : ι) (breaker : CircuitBreaker)
    (switch : Option KillSwitch) : Station ι :=
  ⟨switch.getD station.switch, Function.update station.breakers index breaker⟩

/-- Carry out an operation: whether it returns, and the station afterwards. -/
def perform (station : Station ι) (clock : Clock) :
    Operation ι → Except String Unit × Station ι
  | .onSwitch operation =>
      ((station.switch.perform (clock.iso 0) operation).map fun _ => (),
        { station with switch := station.switch.attempt (clock.iso 0) operation })
  | .recordFailure index reason detail =>
      let failed :=
        (station.breakers index).recordFailure (some station.switch) clock reason detail
      (failed.1.map fun _ => (), station.replace index failed.2.1 failed.2.2)
  | .recordSuccess index =>
      (.ok (), station.replace index ((station.breakers index).recordSuccess clock).2 none)
  | .checkAllow index =>
      (.ok (), station.replace index ((station.breakers index).checkAllow clock).2 none)
  | .reset index => (.ok (), station.replace index ((station.breakers index).reset clock) none)
  | .tripManual index =>
      let tripped := (station.breakers index).tripManual (some station.switch) clock
      (tripped.1, station.replace index tripped.2.1 tripped.2.2)

/-- The station after an operation, whether it returned or raised. -/
def step (station : Station ι) (request : Clock × Operation ι) : Station ι :=
  (station.perform request.1 request.2).2

/-- Whether an operation is one that may trip a breaker. -/
def Operation.trips : Operation ι → Option ι
  | .recordFailure index _ _ => some index
  | .tripManual index => some index
  | _ => none

/-- The operation takes a breaker to the open state. -/
def Opens (station : Station ι) (request : Clock × Operation ι) : Prop :=
  ∃ index, request.2.trips = some index ∧ ((station.step request).breakers index).state = .opened ∧
    ((station.breakers index).state ≠ .opened ∨ request.2 = .tripManual index)

/-- What makes a step fail safe: recording a failure and tripping by hand return, a
breaker that opens leaves the switch blocked and locked, and the switch is unblocked
only by the confirmation of a reset that was its last event. -/
structure FailsSafe (station : Station ι) (request : Clock × Operation ι) : Prop where
  returns : request.2.trips ≠ none → (station.perform request.1 request.2).1 = .ok ()
  halts : station.Opens request →
    (station.step request).switch.isBlocked = true ∧ (station.step request).switch.locked = true
  confirmed : station.switch.isBlocked = true → (station.step request).switch.isBlocked = false →
    request.2 = .onSwitch .confirmReset ∧ ∃ earlier reset, reset.event = .resetRequest ∧
      station.switch.history = earlier ++ [reset]

/-- A breaker that the operation opens finds a switch that it can halt. -/
def FindsHaltable (station : Station ι) (request : Clock × Operation ι) : Prop :=
  match request.2 with
  | .recordFailure index _ _ =>
      (station.breakers index).FailureOpens → CircuitBreaker.Haltable station.switch
  | .tripManual _ => CircuitBreaker.Haltable station.switch
  | _ => True

/-! ## One step -/

variable {station : Station ι} {clock : Clock}

/-- What happens to a breaker that halts the switch: whether the call returns, and the
switch and the breaker afterwards. -/
structure Halts (station : Station ι) (request : Clock × Operation ι) (index : ι)
    (halted : Except String Unit × KillSwitch) : Prop where
  answer : (station.perform request.1 request.2).1 = halted.1
  switch : (station.step request).switch = halted.2
  opened : ((station.step request).breakers index).state = .opened

theorem halts_of_failure {index : ι} (reason : BreakerTripReason) (detail : String)
    (opens : (station.breakers index).FailureOpens) :
    Halts station (clock, .recordFailure index reason detail) index
      (CircuitBreaker.halt station.switch clock s!"Circuit breaker tripped: {reason.value}"
        "circuit_breaker") := by
  obtain ⟨answer, state, switch⟩ :=
    CircuitBreaker.recordFailure_of_opens station.switch clock reason detail opens
  constructor
  · simp only [perform, answer]
    cases (CircuitBreaker.halt station.switch clock _ _).1 <;> rfl
  · simp only [step, perform, replace, switch, Option.getD_some]
  · simp only [step, perform, replace, Function.update_self]
    exact state

theorem halts_of_tripManual (index : ι) :
    Halts station (clock, .tripManual index) index
      (CircuitBreaker.halt station.switch clock "Manual breaker trip" "operator") := by
  constructor
  · rfl
  · rfl
  · simp [step, perform, replace, CircuitBreaker.tripManual]

/-- A step that does not reach the switch. -/
structure Passes (station : Station ι) (request : Clock × Operation ι) : Prop where
  answer : (station.perform request.1 request.2).1 = .ok ()
  switch : (station.step request).switch = station.switch
  quiet : ∀ index, request.2.trips = some index →
    ((station.step request).breakers index).state = (station.breakers index).state ∧
      request.2 ≠ .tripManual index

theorem passes_of_failure {index : ι} (reason : BreakerTripReason) (detail : String)
    (quiet : ¬(station.breakers index).FailureOpens) :
    Passes station (clock, .recordFailure index reason detail) := by
  obtain ⟨answer, state, switch⟩ :=
    CircuitBreaker.recordFailure_of_not_opens station.switch clock reason detail quiet
  constructor
  · simp only [perform, answer]
    rfl
  · simp only [step, perform, replace, switch, Option.getD_some]
  · intro other same
    cases same
    simp only [step, perform, replace, Function.update_self]
    exact ⟨state, nofun⟩

/-- The switch after a step: halted, kept, or moved by an operation of its own. -/
theorem switch_step (station : Station ι) (request : Clock × Operation ι) :
    (∃ reason triggeredBy, (station.step request).switch =
        (CircuitBreaker.halt station.switch request.1 reason triggeredBy).2) ∨
      (station.step request).switch = station.switch ∨
      ∃ operation, request.2 = .onSwitch operation ∧
        (station.step request).switch = station.switch.attempt (request.1.iso 0) operation := by
  rcases request with ⟨clock, operation⟩
  cases operation with
  | onSwitch operation => exact .inr (.inr ⟨operation, rfl, rfl⟩)
  | recordFailure index reason detail =>
      by_cases opens : (station.breakers index).FailureOpens
      · exact .inl ⟨_, _, (halts_of_failure reason detail opens).switch⟩
      · exact .inr (.inl (passes_of_failure reason detail opens).switch)
  | tripManual index => exact .inl ⟨_, _, (halts_of_tripManual index).switch⟩
  | recordSuccess index => exact .inr (.inl rfl)
  | checkAllow index => exact .inr (.inl rfl)
  | reset index => exact .inr (.inl rfl)

/-- A step keeps the switch sound. -/
theorem sound_step (sound : station.switch.Sound) (request : Clock × Operation ι) :
    (station.step request).switch.Sound := by
  rcases switch_step station request with ⟨_, _, halted⟩ | kept | ⟨operation, _, moved⟩
  · rw [halted]
    exact CircuitBreaker.sound_halt request.1 _ _ sound
  · rw [kept]
    exact sound
  · rw [moved]
    exact sound.attempt _ operation

/-- A blocked switch is unblocked only by a confirmation that follows the request. -/
theorem confirmed_of_unblocked (sound : station.switch.Sound) {request : Clock × Operation ι}
    (blocked : station.switch.isBlocked = true)
    (unblocked : (station.step request).switch.isBlocked = false) :
    request.2 = .onSwitch .confirmReset ∧ ∃ earlier reset, reset.event = .resetRequest ∧
      station.switch.history = earlier ++ [reset] := by
  rcases switch_step station request with ⟨_, _, halted⟩ | kept | ⟨operation, own, moved⟩
  · rw [halted, CircuitBreaker.isBlocked_halt] at unblocked
    cases unblocked
  · rw [kept, blocked] at unblocked
    cases unblocked
  · rw [moved] at unblocked
    rcases KillSwitch.attempt_cases station.switch (request.1.iso 0) operation with
      ⟨record, next, performed, happened⟩ | ⟨-, kept⟩
    · have moves := KillSwitch.moves_of_perform performed
      rw [happened] at unblocked
      obtain rfl := moves.unblocks unblocked
      rcases sound.requested moves.permitted with ⟨earlier, reset, history, event⟩
      exact ⟨own, earlier, reset, event, history⟩
    · rw [kept, blocked] at unblocked
      cases unblocked

/-- A halt is safe exactly when the switch can be halted. -/
theorem Halts.failsSafe_iff {request : Clock × Operation ι} {index : ι}
    {reason triggeredBy : String} (halts : Halts station request index
      (CircuitBreaker.halt station.switch request.1 reason triggeredBy))
    (trips : request.2.trips = some index) (sound : station.switch.Sound) :
    station.FailsSafe request ↔ CircuitBreaker.Haltable station.switch := by
  constructor
  · intro safe
    by_contra stuck
    apply CircuitBreaker.halt_of_not_haltable request.1 reason triggeredBy stuck
    rw [← halts.answer]
    exact safe.returns (by simp [trips])
  · intro haltable
    have returned := CircuitBreaker.halt_of_haltable request.1 reason triggeredBy haltable
    have blocked := CircuitBreaker.isBlocked_halt station.switch request.1 reason triggeredBy
    constructor
    · intro _
      rw [halts.answer, returned.1]
    · intro _
      rw [halts.switch]
      exact ⟨blocked, returned.2⟩
    · exact confirmed_of_unblocked sound

/-- A step that does not reach the switch is safe. -/
theorem Passes.failsSafe {request : Clock × Operation ι} (passes : Passes station request)
    (sound : station.switch.Sound) : station.FailsSafe request := by
  constructor
  · intro _
    exact passes.answer
  · rintro ⟨index, trips, opened, other | manual⟩
    · rw [(passes.quiet index trips).1] at opened
      exact absurd opened other
    · exact absurd manual (passes.quiet index trips).2
  · exact confirmed_of_unblocked sound

/-- An operation on the switch itself is safe. -/
theorem failsSafe_onSwitch (sound : station.switch.Sound) (operation : KillSwitch.Operation) :
    station.FailsSafe (clock, .onSwitch operation) := by
  constructor
  · intro trips
    exact absurd rfl trips
  · rintro ⟨index, trips, -⟩
    cases trips
  · exact confirmed_of_unblocked sound

/-- A step on a station with a sound switch is safe exactly when a breaker that opens
finds a switch that it can halt. -/
theorem failsSafe_iff (sound : station.switch.Sound) (request : Clock × Operation ι) :
    station.FailsSafe request ↔ station.FindsHaltable request := by
  rcases request with ⟨clock, operation⟩
  cases operation with
  | onSwitch operation => exact iff_of_true (failsSafe_onSwitch sound operation) trivial
  | recordFailure index reason detail =>
      by_cases opens : (station.breakers index).FailureOpens
      · rw [(halts_of_failure reason detail opens).failsSafe_iff rfl sound]
        exact ⟨fun haltable _ => haltable, fun finds => finds opens⟩
      · have passes : Passes station (clock, .recordFailure index reason detail) :=
          passes_of_failure reason detail opens
        exact iff_of_true (passes.failsSafe sound) fun now => absurd now opens
  | tripManual index => exact (halts_of_tripManual index).failsSafe_iff rfl sound
  | recordSuccess index => exact iff_of_true (Passes.failsSafe ⟨rfl, rfl, nofun⟩ sound) trivial
  | checkAllow index => exact iff_of_true (Passes.failsSafe ⟨rfl, rfl, nofun⟩ sound) trivial
  | reset index => exact iff_of_true (Passes.failsSafe ⟨rfl, rfl, nofun⟩ sound) trivial

/-! ## Every run -/

/-- A run without a confirmation keeps a blocked switch blocked. -/
theorem blocked_after (sound : station.switch.Sound) (blocked : station.switch.isBlocked = true)
    {requests : List (Clock × Operation ι)}
    (unconfirmed : ∀ request ∈ requests, request.2 ≠ .onSwitch .confirmReset) :
    (Run.after step station requests).switch.isBlocked = true := by
  have every : Run.Every step (fun _ request => request.2 ≠ .onSwitch .confirmReset) station
      requests := (Run.every_iff_forall_mem station).mpr unconfirmed
  have kept := every.after
    (fun station => station.switch.Sound ∧ station.switch.isBlocked = true) ⟨sound, blocked⟩ ?_
  · exact kept.2
  · rintro station request ⟨sound, blocked⟩ other
    refine ⟨sound_step sound request, ?_⟩
    by_contra unblocked
    exact other (confirmed_of_unblocked sound blocked (Bool.eq_false_iff.mpr unblocked)).1

/-- From a switch that has never been used, with any breakers, every step of a run
fails safe exactly when every breaker that opens finds the switch active, or waiting
for the confirmation of a reset, and not locked. -/
theorem every_failsSafe_iff (breakers : ι → CircuitBreaker)
    (requests : List (Clock × Operation ι)) :
    Run.Every step FailsSafe ⟨KillSwitch.fresh, breakers⟩ requests ↔
      Run.Every step FindsHaltable ⟨KillSwitch.fresh, breakers⟩ requests :=
  Run.every_iff_of_invariant (fun station => station.switch.Sound)
    (fun _ request sound => sound_step sound request)
    (fun _ request sound => failsSafe_iff sound request) KillSwitch.sound_fresh requests

/-- Two breakers that open one after the other: the second one raises. -/
theorem second_breaker_raises :
    let clock : Clock := ⟨fun _ => "2026-01-01T00:00:00+00:00", 0⟩
    let station : Station Bool := ⟨KillSwitch.fresh, fun _ => CircuitBreaker.fresh 1 60⟩
    ¬Run.Every step FailsSafe station
      [(clock, .recordFailure true .executionError ""),
        (clock, .recordFailure false .connectionLost "")] := by
  rintro clock station ⟨-, second, -⟩
  have returned := second.returns (by simp [Operation.trips])
  revert returned
  decide +kernel

end Station

end EaBot.Risk
