import EaBot.Foundation.Dict
import EaBot.Foundation.Run
import EaBot.Foundation.Selection
import EaBot.Trading.EventEngine

/-!
# The order in which queued events leave

Producers hand over detected events as objects and as dictionaries.  The queue ranks an event
by the type that it names, and an event of an unknown type has the normal priority.  An event
leaves by a scan of the unsorted queue, and the listing of the queue is a sort of it.

Over any sequence of operations the scan returns what a queue would that always removes the
first of the events with the highest priority, nothing is lost or returned twice, and the
listing shows the events in the order in which they leave.
-/

namespace EaBot.Trading.AnyEvent

open EaBot.Foundation

variable {α : Type}

/-! ## Events of any producer -/

/-- What an attribute or an entry holds. -/
inductive Field (α : Type)
  | member (eventType : EventType)
  | text (text : String)
  | other (value : α)

/-- An event as its producer hands it over. -/
inductive Payload (α : Type)
  | object (attributes : Dict String (Field α))
  | dict (entries : Dict String (Field α))

/-- The members of the enumeration. -/
def eventTypes : List EventType :=
  [.trendBullish, .trendBearish, .trendNeutral, .trendStrengthening, .trendWeakening,
    .momentumBullish, .momentumBearish, .momentumDivergence,
    .volatilityExpanding, .volatilityContracting, .volatilitySpike,
    .breakout, .breakdown, .reversal, .doji, .gapUp, .gapDown,
    .emaCrossover, .macdCrossover, .rsiOverbought, .rsiOversold, .stochOverbought, .stochOversold,
    .drawdownWarning, .exposureLimitReached, .liquidityWarning,
    .tradeClose, .riskDrawdown, .riskExposure, .riskMargin]

/-- The member with a name. -/
def ofValue? (raw : String) : Option EventType :=
  eventTypes.find? fun eventType => eventType.value = raw

/-- A member is found under its name. -/
theorem ofValue?_value (eventType : EventType) : ofValue? eventType.value = some eventType := by
  cases eventType <;> decide +kernel

/-- The priority of an event.  Without a known type it is normal. -/
def eventPriority (event : Payload α) : EventPriority :=
  let raw := match event with
    | .object attributes => attributes.get "event_type"
    | .dict entries => entries.get "event_type"
  match raw with
  | some (.member eventType) => getPriority eventType
  | some (.text text) =>
      match ofValue? text with
      | some eventType => getPriority eventType
      | none => .normal
  | _ => .normal

/-! ## The queue -/

/-- An event in the queue. -/
structure PrioritizedEvent (α : Type) where
  event : Payload α
  priority : EventPriority
  sequence : Nat

/-- The queue, with the counters of its pressure. -/
structure EventQueue (α : Type) where
  maxSize : Int
  queue : List (PrioritizedEvent α)
  sequence : Nat
  highWater : Nat
  rejected : Nat

namespace EventQueue

/-- A new queue. -/
def init (maxSize : Int) : EventQueue α :=
  ⟨maxSize, [], 0, 0, 0⟩

/-- Add an event, unless the queue is full. -/
def enqueue (queue : EventQueue α) (event : Payload α) : Bool × EventQueue α :=
  if queue.maxSize ≤ queue.queue.length then
    (false, { queue with rejected := queue.rejected + 1 })
  else
    let entries := queue.queue ++ [⟨event, eventPriority event, queue.sequence⟩]
    (true, { queue with
      queue := entries
      sequence := queue.sequence + 1
      highWater := max queue.highWater entries.length })

/-- A candidate is taken instead of the best entry so far. -/
def Better (cand best : PrioritizedEvent α) : Prop :=
  best.priority.value < cand.priority.value ∨
    cand.priority.value = best.priority.value ∧ cand.sequence < best.sequence

instance (cand best : PrioritizedEvent α) : Decidable (Better cand best) :=
  inferInstanceAs (Decidable (_ ∨ _))

/-- The scan of the entries from an index on, with the best entry so far and its index. -/
def scan (bestIdx : Nat) (best : PrioritizedEvent α) :
    Nat → List (PrioritizedEvent α) → Nat × PrioritizedEvent α
  | _, [] => (bestIdx, best)
  | i, cand :: rest =>
      if Better cand best then scan i cand (i + 1) rest else scan bestIdx best (i + 1) rest

/-- Remove the event with the highest priority. -/
def dequeue (queue : EventQueue α) : Option (Payload α × EventQueue α) :=
  match queue.queue with
  | [] => none
  | first :: rest =>
      let bestIdx := (scan 0 first 1 rest).1
      (queue.queue[bestIdx]?).map fun entry =>
        (entry.event, { queue with queue := queue.queue.eraseIdx bestIdx })

/-- The order of the listing: falling priorities, then rising numbers. -/
def listed (first second : PrioritizedEvent α) : Bool :=
  decide (second.priority.value < first.priority.value ∨
    first.priority.value = second.priority.value ∧ first.sequence ≤ second.sequence)

/-- The events, the highest priority first. -/
def peek (queue : EventQueue α) : List (Payload α) :=
  (queue.queue.mergeSort listed).map PrioritizedEvent.event

/-- The events in the order of their arrival. -/
def waiting (queue : EventQueue α) : List (Payload α) :=
  queue.queue.map PrioritizedEvent.event

/-- What so many calls return, one after another. -/
def dequeues : Nat → EventQueue α → List (Payload α)
  | 0, _ => []
  | times + 1, queue =>
      match queue.dequeue with
      | none => []
      | some (event, queue) => event :: dequeues times queue

end EventQueue

/-! ## Operations -/

/-- A call of the queue. -/
inductive Operation (α : Type)
  | enqueue (event : Payload α)
  | dequeue

/-- What a call returns. -/
inductive Answer (α : Type)
  | accepted (accepted : Bool)
  | returned (event : Option (Payload α))

/-- The events that a call adds, by what it returns. -/
def Answer.added : Operation α → Answer α → List (Payload α)
  | .enqueue event, .accepted true => [event]
  | _, _ => []

/-- The events that a call removes, by what it returns. -/
def Answer.removed : Answer α → List (Payload α)
  | .returned event => event.toList
  | _ => []

namespace EventQueue

/-- The queue after a call. -/
def next (queue : EventQueue α) : Operation α → EventQueue α
  | .enqueue event => (queue.enqueue event).2
  | .dequeue => (queue.dequeue.map Prod.snd).getD queue

/-- What a call returns. -/
def answer (queue : EventQueue α) : Operation α → Answer α
  | .enqueue event => .accepted (queue.enqueue event).1
  | .dequeue => .returned (queue.dequeue.map Prod.fst)

/-- What the calls of a run return. -/
def answers (queue : EventQueue α) (operations : List (Operation α)) : List (Answer α) :=
  Run.emitted next (fun queue operation => [queue.answer operation]) queue operations

/-- The events that a run accepts. -/
def accepted (queue : EventQueue α) (operations : List (Operation α)) : List (Payload α) :=
  Run.emitted next (fun queue operation => (queue.answer operation).added operation) queue
    operations

/-- The events that a run returns. -/
def dequeued (queue : EventQueue α) (operations : List (Operation α)) : List (Payload α) :=
  Run.emitted next (fun queue operation => (queue.answer operation).removed) queue operations

end EventQueue

/-! ## The reference -/

/-- The rank of an event. -/
def rank (event : Payload α) : Nat :=
  (eventPriority event).value

/-- A bounded queue that keeps the events in the order of their arrival. -/
structure Reference (α : Type) where
  maxSize : Int
  waiting : List (Payload α)

namespace Reference

/-- A call of the reference: an event arrives while there is room, and the first of the
highest leaves. -/
def call (queue : Reference α) : Operation α → Answer α × Reference α
  | .enqueue event =>
      if (queue.waiting.length : Int) < queue.maxSize then
        (.accepted true, { queue with waiting := queue.waiting ++ [event] })
      else (.accepted false, queue)
  | .dequeue =>
      match Selection.takeHighest rank queue.waiting with
      | some (event, others) => (.returned (some event), { queue with waiting := others })
      | none => (.returned none, queue)

/-- What the calls of a run return. -/
def answers (queue : Reference α) (operations : List (Operation α)) : List (Answer α) :=
  Run.emitted (fun queue operation => (queue.call operation).2)
    (fun queue operation => [(queue.call operation).1]) queue operations

end Reference

/-! ## The scan -/

namespace EventQueue

/-- The rank of an entry. -/
def entryRank (entry : PrioritizedEvent α) : Nat :=
  entry.priority.value

/-- Entries that were added one after another. -/
def InOrder (entries : List (PrioritizedEvent α)) : Prop :=
  entries.Pairwise fun first second => first.sequence < second.sequence

/-- The scan of the entries behind those seen finds the first of the highest of them all, when
it starts with the first of the highest of those seen. -/
theorem scan_firstHighest {before after rest : List (PrioritizedEvent α)}
    {best : PrioritizedEvent α} {i : Nat} (seen : i = (before ++ best :: after).length)
    (inOrder : InOrder (before ++ best :: after ++ rest))
    (highest : Selection.FirstHighest entryRank before best after) :
    ∃ before' best' after', scan before.length best i rest = (before'.length, best') ∧
      before ++ best :: after ++ rest = before' ++ best' :: after' ∧
      Selection.FirstHighest entryRank before' best' after' := by
  induction rest generalizing before best after i with
  | nil => exact ⟨before, best, after, rfl, List.append_nil _, highest⟩
  | cons cand rest ih =>
      have later : best.sequence < cand.sequence := by
        rw [InOrder, List.pairwise_append] at inOrder
        exact inOrder.2.2 best (by simp) cand (by simp)
      rw [scan]
      by_cases better : Better cand best
      · have higher : best.priority.value < cand.priority.value := by
          rcases better with higher | ⟨-, earlier⟩
          · exact higher
          · omega
        have top : Selection.FirstHighest entryRank (before ++ best :: after) cand [] := by
          refine ⟨?_, by simp⟩
          intro entry member
          rcases List.mem_append.mp member with early | late
          · exact (highest.lower entry early).trans higher
          · rcases List.mem_cons.mp late with rfl | late
            · exact higher
            · exact (highest.noHigher entry late).trans_lt higher
        have same : before ++ best :: after ++ cand :: rest =
            (before ++ best :: after) ++ cand :: [] ++ rest := by simp
        rw [if_pos better, same, seen]
        exact ih (by simp [Nat.add_assoc]) (same ▸ inOrder) top
      · have noHigher : cand.priority.value ≤ best.priority.value := by
          rw [Better] at better
          omega
        have top : Selection.FirstHighest entryRank before best (after ++ [cand]) := by
          refine ⟨highest.lower, ?_⟩
          intro entry member
          rcases List.mem_append.mp member with early | late
          · exact highest.noHigher entry early
          · rw [List.mem_singleton.mp late]
            exact noHigher
        have same : before ++ best :: after ++ cand :: rest =
            before ++ best :: (after ++ [cand]) ++ rest := by simp
        rw [if_neg better, same]
        exact ih (by simp [seen]; omega) (same ▸ inOrder) top

/-- What leaves the queue is the first of the highest. -/
theorem dequeue_eq_takeHighest {queue : EventQueue α} (inOrder : InOrder queue.queue) :
    queue.dequeue = (Selection.takeHighest entryRank queue.queue).map fun taken =>
      (taken.1.event, { queue with queue := taken.2 }) := by
  rcases queue with ⟨maxSize, entries, sequence, highWater, rejected⟩
  cases entries with
  | nil => rfl
  | cons first rest =>
      have top : Selection.FirstHighest entryRank [] first [] := ⟨by simp, by simp⟩
      rcases scan_firstHighest rfl inOrder top with ⟨before, best, after, found, same, highest⟩
      have listSame : first :: rest = before ++ best :: after := same
      have scanned : scan 0 first 1 rest = (before.length, best) := found
      simp only [dequeue, scanned, listSame, Selection.takeHighest_of_firstHighest highest,
        Option.map_some, List.getElem?_append_right (le_refl before.length), Nat.sub_self,
        List.getElem?_cons_zero, List.eraseIdx_append_of_length_le (le_refl before.length),
        List.eraseIdx_cons_zero]

/-- The listing is the order in which the entries leave. -/
theorem mergeSort_eq_drain {entries : List (PrioritizedEvent α)} (inOrder : InOrder entries) :
    entries.mergeSort listed = Selection.drain entryRank entries.length entries := by
  refine Selection.eq_drain_of_sorted inOrder (List.mergeSort_perm _ _) ?_
  have sorted : (entries.mergeSort listed).Pairwise fun first second => listed first second := by
    refine List.pairwise_mergeSort ?_ ?_ entries
    · intro first second third
      simp only [listed, decide_eq_true_eq]
      omega
    · intro first second
      simp only [listed, Bool.or_eq_true, decide_eq_true_eq]
      omega
  refine sorted.imp ?_
  intro first second before ahead
  simp only [listed, decide_eq_true_eq] at before
  simp only [Selection.Ahead, entryRank] at ahead
  omega

/-! ## The invariant -/

/-- What holds of a queue from its construction on. -/
structure WellFormed (queue : EventQueue α) : Prop where
  inOrder : InOrder queue.queue
  numbered : ∀ entry ∈ queue.queue, entry.sequence < queue.sequence
  ranked : ∀ entry ∈ queue.queue, entry.priority = eventPriority entry.event
  bounded : (queue.queue.length : Int) ≤ max 0 queue.maxSize

theorem wellFormed_init (maxSize : Int) : (init maxSize : EventQueue α).WellFormed :=
  ⟨.nil, by simp [init], by simp [init], by simp [init]⟩

/-- A full queue refuses, and one with room takes the event behind the others. -/
theorem enqueue_cases (queue : EventQueue α) (event : Payload α) :
    (queue.maxSize ≤ queue.queue.length ∧
      queue.enqueue event = (false, { queue with rejected := queue.rejected + 1 })) ∨
    ((queue.queue.length : Int) < queue.maxSize ∧ ∃ highWater, queue.enqueue event =
      (true, { queue with
        queue := queue.queue ++ [⟨event, eventPriority event, queue.sequence⟩]
        sequence := queue.sequence + 1
        highWater := highWater })) := by
  unfold enqueue
  by_cases full : queue.maxSize ≤ queue.queue.length
  · exact .inl ⟨full, if_pos full⟩
  · exact .inr ⟨not_le.mp full, _, if_neg full⟩

theorem WellFormed.enqueue {queue : EventQueue α} (wellFormed : queue.WellFormed)
    (event : Payload α) : (queue.enqueue event).2.WellFormed := by
  rcases enqueue_cases queue event with ⟨-, same⟩ | ⟨room, highWater, same⟩
  · rw [same]
    exact ⟨wellFormed.inOrder, wellFormed.numbered, wellFormed.ranked, wellFormed.bounded⟩
  · rw [same]
    constructor
    · refine List.pairwise_append.mpr ⟨wellFormed.inOrder, List.pairwise_singleton _ _, ?_⟩
      intro entry member added isAdded
      rw [List.mem_singleton.mp isAdded]
      exact wellFormed.numbered entry member
    · intro entry member
      rcases List.mem_append.mp member with early | late
      · exact (wellFormed.numbered entry early).trans (Nat.lt_succ_self _)
      · rw [List.mem_singleton.mp late]
        exact Nat.lt_succ_self _
    · intro entry member
      rcases List.mem_append.mp member with early | late
      · exact wellFormed.ranked entry early
      · rw [List.mem_singleton.mp late]
    · simp only [List.length_append, List.length_singleton]
      omega

/-- What leaves was in the queue, and the others stay. -/
theorem dequeue_cases {queue : EventQueue α} (wellFormed : queue.WellFormed) :
    (queue.queue = [] ∧ queue.dequeue = none) ∨
    ∃ before best after, queue.queue = before ++ best :: after ∧
      queue.dequeue = some (best.event, { queue with queue := before ++ after }) ∧
      Selection.FirstHighest entryRank before best after := by
  rw [dequeue_eq_takeHighest wellFormed.inOrder]
  cases taken : Selection.takeHighest entryRank queue.queue with
  | none => exact .inl ⟨Selection.takeHighest_eq_none_iff.mp taken, rfl⟩
  | some found =>
      rcases Selection.exists_of_takeHighest taken with ⟨before, after, same, left, highest⟩
      exact .inr ⟨before, found.1, after, same, by rw [← left]; rfl, highest⟩

theorem WellFormed.without {queue : EventQueue α} (wellFormed : queue.WellFormed)
    {before after : List (PrioritizedEvent α)} {best : PrioritizedEvent α}
    (same : queue.queue = before ++ best :: after) :
    ({ queue with queue := before ++ after } : EventQueue α).WellFormed := by
  have fewer : (before ++ after).Sublist queue.queue := by
    rw [same]
    exact (List.Sublist.refl before).append (List.sublist_cons_self best after)
  constructor
  · exact wellFormed.inOrder.sublist fewer
  · exact fun entry member => wellFormed.numbered entry (fewer.subset member)
  · exact fun entry member => wellFormed.ranked entry (fewer.subset member)
  · have shorter := fewer.length_le
    have bounded := wellFormed.bounded
    dsimp only
    omega

/-- Every call keeps the invariant. -/
theorem WellFormed.next {queue : EventQueue α} (wellFormed : queue.WellFormed)
    (operation : Operation α) : (queue.next operation).WellFormed := by
  cases operation with
  | enqueue event => exact wellFormed.enqueue event
  | dequeue =>
      rcases dequeue_cases wellFormed with ⟨-, same⟩ | ⟨before, best, after, split, same, -⟩
      · rw [EventQueue.next, same]
        exact wellFormed
      · rw [EventQueue.next, same]
        exact wellFormed.without split

theorem maxSize_next {queue : EventQueue α} (wellFormed : queue.WellFormed)
    (operation : Operation α) : (queue.next operation).maxSize = queue.maxSize := by
  cases operation with
  | enqueue event =>
      rcases enqueue_cases queue event with ⟨-, same⟩ | ⟨-, highWater, same⟩ <;>
        rw [EventQueue.next, same]
  | dequeue =>
      rcases dequeue_cases wellFormed with ⟨-, same⟩ | ⟨before, best, after, -, same, -⟩ <;>
        rw [EventQueue.next, same] <;> rfl

/-! ## The queue and the reference -/

/-- The events of a queue in the order of their arrival. -/
def abstract (queue : EventQueue α) : Reference α :=
  ⟨queue.maxSize, queue.waiting⟩

/-- A call returns what the reference returns, and leaves the events that it leaves. -/
theorem call_abstract {queue : EventQueue α} (wellFormed : queue.WellFormed)
    (operation : Operation α) :
    queue.abstract.call operation = (queue.answer operation, (queue.next operation).abstract) := by
  cases operation with
  | enqueue event =>
      rcases enqueue_cases queue event with ⟨full, same⟩ | ⟨room, highWater, same⟩
      · have noRoom : ¬ (queue.abstract.waiting.length : Int) < queue.abstract.maxSize := by
          simpa [abstract, waiting] using full
        simp only [Reference.call, if_neg noRoom, answer, next, same]
        rfl
      · have room : (queue.abstract.waiting.length : Int) < queue.abstract.maxSize := by
          simpa [abstract, waiting] using room
        simp only [Reference.call, if_pos room, answer, next, same]
        simp [abstract, waiting]
  | dequeue =>
      rcases dequeue_cases wellFormed with
        ⟨empty, same⟩ | ⟨before, best, after, split, same, highest⟩
      · simp [Reference.call, abstract, waiting, empty, answer, next, same, Selection.takeHighest]
      · have ranks : ∀ entry ∈ queue.queue, rank entry.event = entryRank entry := by
          intro entry member
          rw [rank, entryRank, wellFormed.ranked entry member]
        rw [split] at ranks
        have top : Selection.FirstHighest rank (before.map PrioritizedEvent.event) best.event
            (after.map PrioritizedEvent.event) := by
          constructor
          · intro event member
            rcases List.mem_map.mp member with ⟨entry, early, rfl⟩
            rw [ranks entry (by simp [early]), ranks best (by simp)]
            exact highest.lower entry early
          · intro event member
            rcases List.mem_map.mp member with ⟨entry, late, rfl⟩
            rw [ranks entry (by simp [late]), ranks best (by simp)]
            exact highest.noHigher entry late
        simp only [Reference.call, abstract, waiting, split, List.map_append, List.map_cons,
          Selection.takeHighest_of_firstHighest top, answer, next, same, Option.map_some,
          Option.getD_some]

/-- A run returns what the reference returns. -/
theorem answers_eq_reference {queue : EventQueue α} (wellFormed : queue.WellFormed)
    (operations : List (Operation α)) :
    queue.answers operations = queue.abstract.answers operations := by
  induction operations generalizing queue with
  | nil => rfl
  | cons operation rest ih =>
      have called := call_abstract wellFormed operation
      have onwards := ih (wellFormed.next operation)
      rw [answers, Run.emitted, Reference.answers, Run.emitted, called]
      exact congrArg (queue.answer operation :: ·) onwards

/-- A call neither loses an event nor returns one twice. -/
theorem step_perm {queue : EventQueue α} (wellFormed : queue.WellFormed)
    (operation : Operation α) :
    (queue.waiting ++ (queue.answer operation).added operation).Perm
      ((queue.answer operation).removed ++ (queue.next operation).waiting) := by
  cases operation with
  | enqueue event =>
      rcases enqueue_cases queue event with ⟨-, same⟩ | ⟨-, highWater, same⟩
      · simp [answer, next, same, Answer.added, Answer.removed, waiting]
      · simp [answer, next, same, Answer.added, Answer.removed, waiting]
  | dequeue =>
      rcases dequeue_cases wellFormed with ⟨empty, same⟩ | ⟨before, best, after, split, same, -⟩
      · simp [answer, next, same, Answer.added, Answer.removed]
      · simp only [answer, next, same, Answer.added, Answer.removed, waiting, split,
          Option.map_some, Option.getD_some, Option.toList_some, List.map_append, List.map_cons,
          List.append_nil, List.singleton_append]
        exact List.perm_middle

/-- A run neither loses an event nor returns one twice. -/
theorem run_perm {queue : EventQueue α} (wellFormed : queue.WellFormed)
    (operations : List (Operation α)) :
    (queue.waiting ++ queue.accepted operations).Perm
      (queue.dequeued operations ++ (Run.after next queue operations).waiting) := by
  induction operations generalizing queue with
  | nil => simp [accepted, dequeued, Run.emitted, Run.after]
  | cons operation rest ih =>
      have step := step_perm wellFormed operation
      have onwards := ih (wellFormed.next operation)
      rw [accepted, Run.emitted, dequeued, Run.emitted, ← List.append_assoc, List.append_assoc _ _
        (Run.after next queue (operation :: rest)).waiting]
      refine (step.append_right _).trans ?_
      rw [List.append_assoc]
      exact onwards.append_left _

/-- Calls one after another return what the listing shows first. -/
theorem dequeues_eq_take_peek {queue : EventQueue α} (wellFormed : queue.WellFormed)
    (times : Nat) : queue.dequeues times = queue.peek.take times := by
  have drained : queue.dequeues times =
      (Selection.drain entryRank times queue.queue).map PrioritizedEvent.event := by
    induction times generalizing queue with
    | zero => rfl
    | succ times ih =>
        rw [dequeues, Selection.drain]
        rcases dequeue_cases wellFormed with
          ⟨empty, same⟩ | ⟨before, best, after, split, same, highest⟩
        · rw [same, empty]
          rfl
        · rw [same, split, Selection.takeHighest_of_firstHighest highest]
          exact congrArg (best.event :: ·) (ih (wellFormed.without split))
  rw [drained, peek, mergeSort_eq_drain wellFormed.inOrder,
    Selection.drain_eq_take (le_refl queue.queue.length), List.map_take]

/-- A run keeps the invariant and the size. -/
theorem wellFormed_after {queue : EventQueue α} (wellFormed : queue.WellFormed)
    (operations : List (Operation α)) :
    (Run.after next queue operations).WellFormed ∧
      (Run.after next queue operations).maxSize = queue.maxSize := by
  induction operations generalizing queue with
  | nil => exact ⟨wellFormed, rfl⟩
  | cons operation rest ih =>
      rcases ih (wellFormed.next operation) with ⟨kept, size⟩
      exact ⟨kept, size.trans (maxSize_next wellFormed operation)⟩

end EventQueue

/-! ## The queue of the market feed -/

section Detected

/-- What the queue reads of a detected event. -/
def shown (event : DetectedEvent α) : Payload Unit :=
  .object (Dict.empty.set "event_type" (.member event.eventType))

/-- A queue of detected events as a queue of any events. -/
def ofDetected (queue : Trading.EventQueue α) : EventQueue Unit where
  maxSize := queue.maxSize
  queue := queue.queue.map fun entry => ⟨shown entry.event, entry.priority, entry.sequence⟩
  sequence := queue.sequence
  highWater := 0
  rejected := 0

/-- Among detected events that were added one after another the first of the highest leaves. -/
theorem takeBest_eq_takeHighest {entries : List (Trading.PrioritizedEvent α)}
    (inOrder : entries.Pairwise fun first second => first.sequence < second.sequence) :
    Trading.EventQueue.takeBest entries =
      Selection.takeHighest (fun entry => entry.priority.value) entries := by
  induction entries with
  | nil => rfl
  | cons entry rest ih =>
      rcases List.pairwise_cons.mp inOrder with ⟨behind, inOrder⟩
      rw [Trading.EventQueue.takeBest, Selection.takeHighest, ih inOrder]
      cases taken : Selection.takeHighest (fun entry => entry.priority.value) rest with
      | none => rfl
      | some found =>
          have later : entry.sequence < found.1.sequence :=
            behind found.1 ((Selection.takeHighest_perm taken).mem_iff.mpr (by simp))
          have precedes : Trading.EventQueue.Precedes found.1 entry ↔
              entry.priority.value < found.1.priority.value := by
            rw [Trading.EventQueue.Precedes]
            omega
          simp only [precedes]

/-- A detected event enters the queue of any events as it enters its own. -/
theorem enqueue_ofDetected (queue : Trading.EventQueue α) (event : DetectedEvent α) :
    ((ofDetected queue).enqueue (shown event)).1 = (queue.enqueue event).isSome ∧
      ∀ after, queue.enqueue event = some after →
        ((ofDetected queue).enqueue (shown event)).2.queue = (ofDetected after).queue := by
  unfold EventQueue.enqueue Trading.EventQueue.enqueue
  by_cases full : queue.maxSize ≤ queue.queue.length
  · simp [ofDetected, full]
  · simp only [ofDetected, List.length_map, Nat.cast_le, full, if_false, Option.isSome_some,
      Option.some.injEq, true_and]
    rintro after rfl
    simp [shown, eventPriority]

/-- It leaves as it leaves its own. -/
theorem dequeue_ofDetected {queue : Trading.EventQueue α}
    (inOrder : queue.queue.Pairwise fun first second => first.sequence < second.sequence) :
    (ofDetected queue).dequeue =
      queue.dequeue.map fun taken => (shown taken.1, ofDetected taken.2) := by
  have mapped : EventQueue.InOrder (ofDetected queue).queue := List.pairwise_map.mpr inOrder
  rw [EventQueue.dequeue_eq_takeHighest mapped, Trading.EventQueue.dequeue,
    takeBest_eq_takeHighest inOrder, ofDetected, Selection.takeHighest_map, Option.map_map,
    Option.map_map]
  rfl

end Detected

end EaBot.Trading.AnyEvent
