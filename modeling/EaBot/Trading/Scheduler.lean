import EaBot.Trading.EventGate
import EaBot.Trading.MarketFeed

/-!
# The scheduler

The scheduler takes the queued events one after the other.  An event that passes the gate
is handed to the pipeline, and its result is reported to the gate.

A pass takes events until the queue is empty or enough of them were handed on.
-/

namespace EaBot.Trading

open EaBot.Foundation

variable {α : Type}

/-- The fingerprint of an event: its symbol, its type and the first that it has of the time
of its bar, the number of its bar and the times of its own. -/
def eventFingerprint (event : DetectedEvent α) : EventFingerprint :=
  (Text.upper event.symbol, Text.upper event.eventType.value,
    (event.barTime.orElse (event.barIndex.orElse
      ((Val.str event.timestamp).orElse (event.time.orElse (.str ""))))).text)

/-- An event that was handed to the pipeline. -/
structure Handed (α : Type) where
  event : DetectedEvent α
  time : ℚ

/-- The scheduler with the feed that fills its queue, and what it has handed on, newest
first. -/
structure Scheduler (α : Type) where
  feed : MarketFeed α
  eventGate : EventGate
  backpressure : Bool
  clock : ℚ
  handed : List (Handed α)

/-- How long the scheduler waits before it takes an event, how long the pipeline runs, and
its result when it does not raise. -/
structure Turn where
  waited : ℚ
  lasted : ℚ
  result : Option String
  forward : 0 ≤ waited ∧ 0 ≤ lasted

/-- A poll of the feed, or a turn of the scheduler. -/
inductive SchedulerStep (α : Type)
  | poll (poll : Poll α)
  | turn (turn : Turn)

namespace Scheduler

/-- A scheduler with nothing done. -/
def initial (feed : MarketFeed α) (gate : EventGate) (backpressure : Bool) : Scheduler α :=
  ⟨feed, gate, backpressure, 0, []⟩

/-- Run the pipeline for an event, unless the gate stops it. -/
def processEvent (scheduler : Scheduler α) (event : DetectedEvent α) (turn : Turn) :
    Scheduler α × Bool :=
  let now := scheduler.clock + turn.waited
  let checked := scheduler.eventGate.check event.eventType.value event.symbol
    (eventFingerprint event) now
  if checked.1.1 then
    let later := now + turn.lasted
    let gate := match turn.result with
      | none => checked.2
      | some result =>
          if event.symbol = "" then checked.2
          else checked.2.recordResult event.eventType.value event.symbol
            (eventFingerprint event) result later
    ({ scheduler with
      eventGate := gate, clock := later, handed := ⟨event, now⟩ :: scheduler.handed }, true)
  else ({ scheduler with eventGate := checked.2, clock := now }, false)

/-- Whether an event gives way to the others. -/
def isBackground (event : DetectedEvent α) : Bool :=
  getPriority event.eventType = .background

/-- Take the next event, and say whether it was handed on.  Nothing is taken from an empty
queue. -/
def takeNext (scheduler : Scheduler α) (turn : Turn) : Option (Scheduler α × Bool) :=
  scheduler.feed.queue.dequeue.map fun taken =>
    let scheduler := { scheduler with feed := { scheduler.feed with queue := taken.2 } }
    if scheduler.backpressure && isBackground taken.1 then (scheduler, false)
    else scheduler.processEvent taken.1 turn

/-- A pass over the queue, with a turn for each of its events.  A limit of zero is none. -/
def processAvailable (maxEvents processed : Nat) (scheduler : Scheduler α) :
    List Turn → Scheduler α
  | [] => scheduler
  | turn :: rest =>
      if maxEvents ≠ 0 ∧ maxEvents ≤ processed then scheduler
      else
        match scheduler.takeNext turn with
        | none => scheduler
        | some (after, true) => processAvailable maxEvents (processed + 1) after rest
        | some (after, false) => processAvailable maxEvents processed after rest

/-- The scheduler after a step. -/
def step [Structured α] (scheduler : Scheduler α) : SchedulerStep α → Scheduler α
  | .poll poll => { scheduler with feed := scheduler.feed.pollSymbol poll }
  | .turn turn => match scheduler.takeNext turn with
      | none => scheduler
      | some (after, _) => after

section Process

variable (scheduler : Scheduler α) (event : DetectedEvent α) (turn : Turn) {now : ℚ}

/-- An event that passes is handed on, and the gate is told its result or nothing. -/
theorem processEvent_passed (current : scheduler.clock + turn.waited = now)
    (passed : (scheduler.eventGate.check event.eventType.value event.symbol
      (eventFingerprint event) now).1.1 = true) :
    ∃ gate, (scheduler.processEvent event turn).1 = { scheduler with
        eventGate := gate
        clock := now + turn.lasted
        handed := ⟨event, now⟩ :: scheduler.handed } ∧
      let checked := (scheduler.eventGate.check event.eventType.value event.symbol
        (eventFingerprint event) now).2
      (gate = checked ∨ ∃ result, gate = checked.recordResult event.eventType.value event.symbol
        (eventFingerprint event) result (now + turn.lasted)) := by
  subst current
  unfold processEvent
  rw [if_pos passed]
  refine ⟨_, rfl, ?_⟩
  cases turn.result with
  | none => exact .inl rfl
  | some result =>
      dsimp only
      split
      · exact .inl rfl
      · exact .inr ⟨result, rfl⟩

theorem processEvent_stopped (current : scheduler.clock + turn.waited = now)
    (stopped : (scheduler.eventGate.check event.eventType.value event.symbol
      (eventFingerprint event) now).1.1 = false) :
    (scheduler.processEvent event turn).1 = { scheduler with
      eventGate := (scheduler.eventGate.check event.eventType.value event.symbol
        (eventFingerprint event) now).2
      clock := now } := by
  subst current
  unfold processEvent
  rw [if_neg (by simp [stopped])]

end Process

/-- A pass is a sequence of turns. -/
theorem processAvailable_eq_after [Structured α] (maxEvents processed : Nat)
    (scheduler : Scheduler α) (turns : List Turn) :
    ∃ used, used <+: turns ∧ processAvailable maxEvents processed scheduler turns =
      Run.after step scheduler (used.map .turn) := by
  induction turns generalizing scheduler processed with
  | nil => exact ⟨[], List.prefix_rfl, rfl⟩
  | cons turn rest ih =>
      rw [processAvailable]
      split
      · exact ⟨[], List.nil_prefix, rfl⟩
      · have stepped : ∀ after flag, scheduler.takeNext turn = some (after, flag) →
            scheduler.step (.turn turn) = after := by
          intro after flag taken
          rw [step, taken]
        split
        · exact ⟨[], List.nil_prefix, rfl⟩
        · rename_i after taken
          rcases ih (processed + 1) after with ⟨used, within, same⟩
          refine ⟨turn :: used, List.cons_prefix_cons.mpr ⟨rfl, within⟩, ?_⟩
          rw [same, List.map_cons, Run.after, Run.after, List.foldl_cons, stepped _ _ taken]
        · rename_i after taken
          rcases ih processed after with ⟨used, within, same⟩
          refine ⟨turn :: used, List.cons_prefix_cons.mpr ⟨rfl, within⟩, ?_⟩
          rw [same, List.map_cons, Run.after, Run.after, List.foldl_cons, stepped _ _ taken]

end Scheduler

end EaBot.Trading
