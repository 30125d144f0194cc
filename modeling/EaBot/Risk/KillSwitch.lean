import EaBot.Foundation.Json

/-!
# The kill switch

The emergency stop for all trading.  An operation either raises and leaves the switch
as it was, or moves it to a new state and adds a record to its history.  The switch
is blocked in every state but the active one, and the lock is a flag beside the
state: only the confirmation of a reset takes it back.
-/

namespace EaBot.Risk

open EaBot.Foundation

/-- The operational state of the kill switch. -/
inductive KillSwitchState
  | active
  | triggered
  | locked
  | resetPending
deriving DecidableEq

/-- The text of a state. -/
def KillSwitchState.value : KillSwitchState → String
  | active => "active"
  | triggered => "triggered"
  | locked => "locked"
  | resetPending => "reset_pending"

/-- The state with a text. -/
def KillSwitchState.ofValue? (value : String) : Option KillSwitchState :=
  if value = "active" then some .active
  else if value = "triggered" then some .triggered
  else if value = "locked" then some .locked
  else if value = "reset_pending" then some .resetPending
  else none

theorem KillSwitchState.ofValue_value (state : KillSwitchState) :
    ofValue? state.value = some state := by
  cases state <;> rfl

/-- What moves the kill switch to another state. -/
inductive KillSwitchEvent
  | trigger
  | resetRequest
  | confirmReset
  | lock
deriving DecidableEq

/-- The text of an event. -/
def KillSwitchEvent.value : KillSwitchEvent → String
  | trigger => "trigger"
  | resetRequest => "reset_request"
  | confirmReset => "confirm_reset"
  | lock => "lock"

/-- The record of an event. -/
structure KillSwitchRecord where
  event : KillSwitchEvent
  timestamp : String
  reason : String
  triggeredBy : String
deriving DecidableEq

/-- The kill switch.  A stamp is a text or null unless a file held something else. -/
structure KillSwitch where
  state : KillSwitchState
  triggeredAt : Json
  resetAt : Json
  history : List KillSwitchRecord
  locked : Bool
  lockedAt : Json

namespace KillSwitch

/-- A switch that has never been used. -/
def fresh : KillSwitch :=
  ⟨.active, .null, .null, [], false, .null⟩

/-- Activate the switch. -/
def trigger (switch : KillSwitch) (now reason triggeredBy : String) :
    Except String (KillSwitchRecord × KillSwitch) :=
  if switch.state = .locked then
    .error "Kill switch is locked — cannot re-trigger without reset."
  else if switch.state = .triggered then .error "Kill switch already triggered."
  else
    let record : KillSwitchRecord := ⟨.trigger, now, reason, triggeredBy⟩
    .ok (record, { switch with
      state := .triggered
      triggeredAt := .str now
      history := switch.history ++ [record] })

/-- Lock the switch after a trigger. -/
def lock (switch : KillSwitch) (now reason : String) :
    Except String (KillSwitchRecord × KillSwitch) :=
  if switch.state ≠ .triggered then .error "Cannot lock — kill switch not triggered."
  else if switch.locked then .error "Kill switch already locked."
  else
    let record : KillSwitchRecord := ⟨.lock, now, reason, "system"⟩
    .ok (record, { switch with
      state := .locked
      locked := true
      lockedAt := .str now
      history := switch.history ++ [record] })

/-- The reason of a lock that names none. -/
def automaticLock : String :=
  "Automatic lock after trigger"

/-- Ask for a reset. -/
def requestReset (switch : KillSwitch) (now requestedBy : String) :
    Except String (KillSwitchRecord × KillSwitch) :=
  if switch.state = .active then .error "Kill switch is already active — no reset needed."
  else if switch.state = .resetPending then
    .error "Reset already pending — awaiting confirmation."
  else
    let record : KillSwitchRecord :=
      ⟨.resetRequest, now, "Reset requested by operator", requestedBy⟩
    .ok (record, { switch with
      state := .resetPending
      history := switch.history ++ [record] })

/-- Confirm a reset. -/
def confirmReset (switch : KillSwitch) (now : String) :
    Except String (KillSwitchRecord × KillSwitch) :=
  if switch.state ≠ .resetPending then
    .error "Cannot confirm reset — kill switch not in reset_pending state."
  else
    let record : KillSwitchRecord :=
      ⟨.confirmReset, now, "Reset confirmed by operator", "operator"⟩
    .ok (record, { switch with
      state := .active
      resetAt := .str now
      locked := false
      lockedAt := .null
      history := switch.history ++ [record] })

/-- Whether trading is blocked. -/
def isBlocked (switch : KillSwitch) : Bool :=
  switch.state ∈ [.triggered, .locked, .resetPending]

theorem isBlocked_iff (switch : KillSwitch) : switch.isBlocked = true ↔ switch.state ≠ .active := by
  cases state : switch.state <;> simp [isBlocked, state]

/-! ## Operations -/

/-- An operation on the switch. -/
inductive Operation
  | trigger (reason triggeredBy : String)
  | lock (reason : String)
  | requestReset (requestedBy : String)
  | confirmReset
deriving DecidableEq

/-- Carry out an operation. -/
def perform (switch : KillSwitch) (now : String) :
    Operation → Except String (KillSwitchRecord × KillSwitch)
  | .trigger reason triggeredBy => switch.trigger now reason triggeredBy
  | .lock reason => switch.lock now reason
  | .requestReset requestedBy => switch.requestReset now requestedBy
  | .confirmReset => switch.confirmReset now

/-- The event that an operation records. -/
def Operation.event : Operation → KillSwitchEvent
  | .trigger _ _ => .trigger
  | .lock _ => .lock
  | .requestReset _ => .resetRequest
  | .confirmReset => .confirmReset

/-- The state that an operation moves to. -/
def Operation.target : Operation → KillSwitchState
  | .trigger _ _ => .triggered
  | .lock _ => .locked
  | .requestReset _ => .resetPending
  | .confirmReset => .active

/-- Whether the switch lets an operation happen. -/
def Permits (switch : KillSwitch) : Operation → Prop
  | .trigger _ _ => switch.state = .active ∨ switch.state = .resetPending
  | .lock _ => switch.state = .triggered ∧ switch.locked = false
  | .requestReset _ => switch.state = .triggered ∨ switch.state = .locked
  | .confirmReset => switch.state = .resetPending

/-- The lock after an operation that happens. -/
def lockedAfter (switch : KillSwitch) : Operation → Bool
  | .lock _ => true
  | .confirmReset => false
  | _ => switch.locked

section Perform

variable {switch next : KillSwitch} {now : String} {operation : Operation}
  {record : KillSwitchRecord}

/-- What an operation that happens does to the switch. -/
structure Moves (switch : KillSwitch) (operation : Operation) (record : KillSwitchRecord)
    (next : KillSwitch) : Prop where
  permitted : switch.Permits operation
  event : record.event = operation.event
  state : next.state = operation.target
  locked : next.locked = switch.lockedAfter operation
  history : next.history = switch.history ++ [record]

theorem moves_of_perform (performed : switch.perform now operation = .ok (record, next)) :
    Moves switch operation record next := by
  cases operation with
  | trigger reason triggeredBy =>
      simp only [perform, trigger] at performed
      split_ifs at performed with locked triggered
      cases performed
      refine ⟨?_, rfl, rfl, rfl, rfl⟩
      cases state : switch.state <;> simp_all [Permits]
  | lock reason =>
      simp only [perform, lock] at performed
      split_ifs at performed with other locked
      cases performed
      exact ⟨⟨not_not.mp other, Bool.eq_false_iff.mpr locked⟩, rfl, rfl, rfl, rfl⟩
  | requestReset requestedBy =>
      simp only [perform, requestReset] at performed
      split_ifs at performed with active pending
      cases performed
      refine ⟨?_, rfl, rfl, rfl, rfl⟩
      cases state : switch.state <;> simp_all [Permits]
  | confirmReset =>
      simp only [perform, confirmReset] at performed
      split_ifs at performed with other
      cases performed
      exact ⟨not_not.mp other, rfl, rfl, rfl, rfl⟩

/-- A permitted operation happens. -/
theorem perform_of_permits (now : String) (permitted : switch.Permits operation) :
    ∃ record next, switch.perform now operation = .ok (record, next) := by
  cases operation with
  | trigger reason triggeredBy =>
      rcases permitted with state | state <;>
        exact ⟨_, _, by simp only [perform, trigger, state]; rfl⟩
  | lock reason =>
      rcases permitted with ⟨state, unlocked⟩
      exact ⟨_, _, by simp only [perform, lock, state, unlocked]; rfl⟩
  | requestReset requestedBy =>
      rcases permitted with state | state <;>
        exact ⟨_, _, by simp only [perform, requestReset, state]; rfl⟩
  | confirmReset =>
      have state : switch.state = .resetPending := permitted
      exact ⟨_, _, by simp only [perform, confirmReset, state]; rfl⟩

/-- An operation that is not permitted raises. -/
theorem perform_of_not_permits (forbidden : ¬switch.Permits operation) :
    ∃ raised, switch.perform now operation = .error raised := by
  cases performed : switch.perform now operation with
  | error raised => exact ⟨raised, rfl⟩
  | ok result => exact absurd (moves_of_perform performed).permitted forbidden

end Perform

/-- The switch after an attempt at an operation. -/
def attempt (switch : KillSwitch) (now : String) (operation : Operation) : KillSwitch :=
  match switch.perform now operation with
  | .ok (_, next) => next
  | .error _ => switch

/-- An attempt moves the switch or leaves it as it was. -/
theorem attempt_cases (switch : KillSwitch) (now : String) (operation : Operation) :
    (∃ record next, switch.perform now operation = .ok (record, next) ∧
      switch.attempt now operation = next) ∨
      (∃ raised, switch.perform now operation = .error raised) ∧
        switch.attempt now operation = switch := by
  unfold attempt
  cases performed : switch.perform now operation with
  | ok result => exact .inl ⟨result.1, result.2, rfl, rfl⟩
  | error raised => exact .inr ⟨⟨raised, rfl⟩, rfl⟩

/-! ## What every operation keeps -/

/-- An active switch is not locked, and a pending reset is the last event. -/
structure Sound (switch : KillSwitch) : Prop where
  unlocked : switch.state = .active → switch.locked = false
  requested : switch.state = .resetPending →
    ∃ earlier request, switch.history = earlier ++ [request] ∧ request.event = .resetRequest

theorem sound_fresh : fresh.Sound :=
  ⟨fun _ => rfl, nofun⟩

namespace Moves

variable {switch next : KillSwitch} {operation : Operation} {record : KillSwitchRecord}

theorem sound (moves : Moves switch operation record next) : next.Sound := by
  have state := moves.state
  have locked := moves.locked
  constructor
  · intro active
    rw [state] at active
    cases operation <;> first | exact locked | cases active
  · intro pending
    rw [state] at pending
    cases operation <;> first | exact ⟨_, _, moves.history, moves.event⟩ | cases pending

/-- Only the confirmation of a reset unblocks the switch. -/
theorem unblocks (moves : Moves switch operation record next) (unblocked : next.isBlocked = false) :
    operation = .confirmReset := by
  have active : next.state = .active := by
    by_contra other
    rw [(isBlocked_iff next).mpr other] at unblocked
    cases unblocked
  rw [moves.state] at active
  cases operation <;> first | rfl | cases active

end Moves

theorem Sound.attempt {switch : KillSwitch} (sound : switch.Sound) (now : String)
    (operation : Operation) : (switch.attempt now operation).Sound := by
  rcases attempt_cases switch now operation with ⟨record, next, performed, after⟩ | ⟨-, after⟩
  · rw [after]
    exact (moves_of_perform performed).sound
  · rw [after]
    exact sound

end KillSwitch

end EaBot.Risk
