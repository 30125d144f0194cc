import EaBot.Trading.Scheduler

/-!
# One cycle for an event and a bar

The gate knows an event again by its fingerprint, and keeps one fingerprint for a symbol and
a type.  An event of a bar that was handed on before is therefore stopped exactly when the
last event of its symbol and type had the same fingerprint.

The detector gives its events the time of the detection and no time of a bar, so that the
events of two polls of one bar have different fingerprints.
-/

namespace EaBot.Trading

open EaBot.Foundation

variable {α : Type}

/-- The time of the newest bar of the evidence that an event carries. -/
def newestBar (event : DetectedEvent α) : Option String :=
  match event.marketSnapshot.get "bar_timestamp" with
  | some (.scalar (.str time)) => some time
  | _ => none

/-- Two events are of one symbol, one type and one newest bar. -/
structure SameBar (first second : DetectedEvent α) : Prop where
  symbol : first.symbol = second.symbol
  eventType : first.eventType = second.eventType
  bar : ∃ time, newestBar first = some time ∧ newestBar second = some time

/-- What the gate remembers an event under. -/
def eventKey (event : DetectedEvent α) : String × String :=
  EventFingerprintGuillotine.key event.symbol (Text.upper event.eventType.value)

theorem SameBar.key {first second : DetectedEvent α} (same : SameBar first second) :
    eventKey first = eventKey second := by
  rw [eventKey, eventKey, same.symbol, same.eventType]

/-- The newest bar of an event is the one that its poll has read last. -/
theorem newestBar_of_builds [Structured α] {timeframe : String} {poll : Poll α} {last : Bar α}
    {event : DetectedEvent α}
    (builds : MarketFeed.Builds timeframe poll last event.marketSnapshot) :
    newestBar event = (MarketFeed.barTimestamp last).map Datetime.isoformat := by
  rcases builds.builds with ⟨evidence, built⟩
  rw [newestBar, built, MarketFeed.snapshotOf_get _ _ _ _ (by decide), MarketFeed.buildSnapshot_bar]
  cases MarketFeed.barTimestamp last with
  | none => rfl
  | some time => rfl

/-- An event without the time or the number of a bar is known by the time of its detection. -/
theorem fingerprint_of_detected {event : DetectedEvent α} (noTime : event.barTime.truthy = false)
    (noIndex : event.barIndex.truthy = false) (stamped : event.timestamp ≠ "") :
    eventFingerprint event =
      (Text.upper event.symbol, Text.upper event.eventType.value, event.timestamp) := by
  have known : (Val.str event.timestamp).truthy = true := by simp [Val.truthy, stamped]
  rw [eventFingerprint, Val.orElse, if_neg (by simp [noTime]), Val.orElse,
    if_neg (by simp [noIndex]), Val.orElse, if_pos known]
  rfl

namespace Scheduler

variable {scheduler : Scheduler α}

/-- The last event with a symbol and type that was handed on. -/
def lastHanded (scheduler : Scheduler α) (key : String × String) : Option (Handed α) :=
  scheduler.handed.find? fun entry => eventKey entry.event = key

/-- For a time after an event was handed on, no other one of its bar is. -/
def OncePerBar (ttl : ℚ) (scheduler : Scheduler α) : Prop :=
  scheduler.handed.Pairwise fun later earlier =>
    SameBar earlier.event later.event → earlier.time + ttl ≤ later.time

/-- An event of a bar that was handed on a short time before has the fingerprint of the last
event of its symbol and type. -/
def KnownAgain (ttl : ℚ) (scheduler : Scheduler α) : SchedulerStep α → Prop
  | .poll _ => True
  | .turn turn => ∀ event queue, scheduler.feed.queue.dequeue = some (event, queue) →
      ∀ earlier ∈ scheduler.handed, SameBar earlier.event event →
        scheduler.clock + turn.waited < earlier.time + ttl →
          ∀ last, scheduler.lastHanded (eventKey event) = some last →
            eventFingerprint last.event = eventFingerprint event

/-- The gate has room for the next event, or the symbols are written in capitals. -/
def Roomy (scheduler : Scheduler α) : SchedulerStep α → Prop
  | .poll _ => True
  | .turn _ => ∀ event queue, scheduler.feed.queue.dequeue = some (event, queue) →
      4 * ((scheduler.eventGate.fingerprints.count : Int) + 1) ≤
          3 * scheduler.eventGate.fingerprints.maxSize ∨
        Text.upper event.symbol = event.symbol ∧
          WellKeyed scheduler.eventGate.fingerprints.records

/-- An event of the type is handed on when it is new. -/
def Qualifies (scheduler : Scheduler α) (eventType : EventType) : Prop :=
  classifyEventClass (Text.upper eventType.value) = .tradeTrigger ∧
    (scheduler.backpressure && decide (getPriority eventType = .background)) = false

/-- The last event of every symbol and type is remembered for its time. -/
def Recorded (ttl : ℚ) (handed : List (Handed α)) (clock : ℚ)
    (records : Dict (String × String) DuplicateRecord) : Prop :=
  ∀ key last, (handed.find? fun entry => eventKey entry.event = key) = some last →
    clock < last.time + ttl → ∃ record, records.get key = some record ∧
      record.fingerprint = eventFingerprint last.event ∧ last.time ≤ record.timestamp ∧
        record.ttlSeconds = ttl

/-- What was handed on is known in its order, and the gate remembers it. -/
structure Remembers (ttl : ℚ) (scheduler : Scheduler α) : Prop where
  lasting : scheduler.eventGate.fingerprints.defaultTtl = ttl
  past : ∀ entry ∈ scheduler.handed, entry.time ≤ scheduler.clock
  sorted : scheduler.handed.Pairwise fun later earlier => earlier.time ≤ later.time
  qualified : ∀ entry ∈ scheduler.handed, scheduler.Qualifies entry.event.eventType
  recorded : Recorded ttl scheduler.handed scheduler.clock
    scheduler.eventGate.fingerprints.records

/-! ## What is remembered -/

section Recorded

variable {ttl clock now later : ℚ} {handed : List (Handed α)}
  {before after : Dict (String × String) DuplicateRecord}

/-- Forgetting old events keeps what is still needed. -/
theorem Recorded.compacted (recorded : Recorded ttl handed clock before)
    (compacted : Compacted now before after) (started : clock ≤ now) (onwards : now ≤ later) :
    Recorded ttl handed later after := by
  intro key last found running
  have soon : now < last.time + ttl := onwards.trans_lt running
  rcases recorded key last found (started.trans_lt soon) with ⟨record, held, same, since, lasts⟩
  have alive : now < record.timestamp + record.ttlSeconds := by
    rw [lasts]
    linarith
  exact ⟨record, compacted.get_live held alive, same, since, lasts⟩

/-- Another record of the last event of a symbol and type. -/
theorem Recorded.set (recorded : Recorded ttl handed clock before) {key : String × String}
    {fresh : DuplicateRecord} (lasts : fresh.ttlSeconds = ttl)
    (newest : ∀ last, (handed.find? fun entry => eventKey entry.event = key) = some last →
      fresh.fingerprint = eventFingerprint last.event ∧ last.time ≤ fresh.timestamp) :
    Recorded ttl handed clock (before.set key fresh) := by
  intro other last found running
  rw [Dict.get_set]
  split
  · rename_i same
    subst same
    rcases newest last found with ⟨fingerprint, since⟩
    exact ⟨fresh, rfl, fingerprint, since, lasts⟩
  · exact recorded other last found running

/-- An event that is handed on and recorded. -/
theorem Recorded.hand (recorded : Recorded ttl handed clock before) (entry : Handed α)
    {fresh : DuplicateRecord} (lasts : fresh.ttlSeconds = ttl)
    (fingerprint : fresh.fingerprint = eventFingerprint entry.event)
    (since : entry.time ≤ fresh.timestamp) :
    Recorded ttl (entry :: handed) clock (before.set (eventKey entry.event) fresh) := by
  intro other last found running
  rw [List.find?_cons] at found
  rw [Dict.get_set]
  split at found
  · rename_i same
    cases found
    rw [if_pos (of_decide_eq_true same).symm]
    exact ⟨fresh, rfl, fingerprint, since, lasts⟩
  · rename_i different
    rw [if_neg (Ne.symm (of_decide_eq_false different))]
    exact recorded other last found running

end Recorded

/-! ## One turn -/

/-- The gate remembers the fingerprint of an event. -/
def Repeated (scheduler : Scheduler α) (event : DetectedEvent α) (now : ℚ) : Prop :=
  ∃ record, scheduler.eventGate.fingerprints.records.get (eventKey event) = some record ∧
    now ≤ record.timestamp + record.ttlSeconds ∧ record.fingerprint = eventFingerprint event

theorem upper_value (eventType : EventType) :
    Text.upper (Text.upper eventType.value) = Text.upper eventType.value := by
  cases eventType <;> decide +kernel

/-- The guillotine of a gate with room for an event, or with symbols in capitals, forgets
nothing too early, also after it has checked the event. -/
structure RoomFor (guillotine : EventFingerprintGuillotine) (event : DetectedEvent α) : Prop where
  here : guillotine.Orderly
  after : ∀ fresh now outcome, fresh.symbol = event.symbol →
    fresh.eventType = Text.upper event.eventType.value →
    guillotine.Checked (eventKey event) fresh now outcome → outcome.2.Orderly

theorem roomFor {guillotine : EventFingerprintGuillotine} {event : DetectedEvent α}
    (roomy : 4 * ((guillotine.count : Int) + 1) ≤ 3 * guillotine.maxSize ∨
      Text.upper event.symbol = event.symbol ∧ WellKeyed guillotine.records) :
    RoomFor guillotine event := by
  rcases roomy with room | ⟨capitals, keyed⟩
  · constructor
    · left
      unfold EventFingerprintGuillotine.Crowded EventFingerprintGuillotine.Full
      constructor <;> omega
    · intro fresh now outcome _ _ checked
      left
      have more := checked.count_le
      unfold EventFingerprintGuillotine.Crowded EventFingerprintGuillotine.Full
      rw [checked.keeps.2]
      constructor <;> omega
  · constructor
    · exact .inr keyed
    · intro fresh now outcome symbol eventType checked
      right
      apply checked.wellKeyed keyed
      rw [eventKey, EventFingerprintGuillotine.key, capitals, upper_value, symbol, eventType]

variable {ttl : ℚ} {event : DetectedEvent α}

/-- The times of what was handed on, with an event that is handed on now. -/
theorem Remembers.hand (remembers : Remembers ttl scheduler) {now later : ℚ}
    (started : scheduler.clock ≤ now) (onwards : now ≤ later) :
    (∀ entry ∈ (⟨event, now⟩ : Handed α) :: scheduler.handed, entry.time ≤ later) ∧
      ((⟨event, now⟩ : Handed α) :: scheduler.handed).Pairwise
        fun later earlier => earlier.time ≤ later.time := by
  constructor
  · rw [List.forall_mem_cons]
    exact ⟨onwards, fun entry member => (remembers.past entry member).trans
      (started.trans onwards)⟩
  · rw [List.pairwise_cons]
    exact ⟨fun entry member => (remembers.past entry member).trans started, remembers.sorted⟩

/-- A check of the event that was handed on last keeps what is remembered. -/
theorem Recorded.again {handed : List (Handed α)} (entry : Handed α) {now later : ℚ}
    {guillotine : EventFingerprintGuillotine} (orderly : guillotine.Orderly)
    (lasting : guillotine.defaultTtl = ttl) (onwards : now ≤ later) (since : entry.time ≤ later)
    (recorded : Recorded ttl (entry :: handed) now guillotine.records) (result : Option String) :
    let after := (guillotine.checkAndRecord entry.event.symbol
      (Text.upper entry.event.eventType.value) (eventFingerprint entry.event) later none result).2
    after.defaultTtl = ttl ∧ Recorded ttl (entry :: handed) later after.records := by
  intro after
  have checked := orderly.checkAndRecord entry.event.symbol
    (Text.upper entry.event.eventType.value) (eventFingerprint entry.event) later result
  rcases checked.leaves with ⟨tidy, compacted, left⟩
  refine ⟨checked.keeps.1.trans lasting, ?_⟩
  rw [left]
  have tidied := recorded.compacted compacted onwards le_rfl
  split
  · apply tidied.set lasting
    intro last found
    rw [List.find?_cons_of_pos (by simp [eventKey])] at found
    cases found
    exact ⟨rfl, since⟩
  · exact tidied

/-- An event that qualifies is handed on when the gate does not remember its fingerprint. -/
theorem Remembers.processEvent (remembers : Remembers ttl scheduler)
    (qualifies : scheduler.Qualifies event.eventType)
    (room : RoomFor scheduler.eventGate.fingerprints event) (turn : Turn) {now : ℚ}
    (current : scheduler.clock + turn.waited = now) :
    Remembers ttl (scheduler.processEvent event turn).1 ∧
      (scheduler.Repeated event now ∧
          (scheduler.processEvent event turn).1.handed = scheduler.handed ∨
        ¬ scheduler.Repeated event now ∧
          (scheduler.processEvent event turn).1.handed = ⟨event, now⟩ :: scheduler.handed) := by
  have started : scheduler.clock ≤ now := by linarith [turn.forward.1]
  have onwards : now ≤ now + turn.lasted := le_add_of_nonneg_right turn.forward.2
  have checked := room.here.checkAndRecord event.symbol (Text.upper event.eventType.value)
    (eventFingerprint event) now none
  have passes := EventGate.check_of_trigger scheduler.eventGate event.symbol
    (eventFingerprint event) now qualifies.1
  dsimp only at passes
  revert checked passes
  generalize scheduler.eventGate.fingerprints.checkAndRecord event.symbol
    (Text.upper event.eventType.value) (eventFingerprint event) now none none = outcome
  intro checked passes
  have orderly := room.after _ _ _ rfl rfl checked
  have lasting := checked.keeps.1.trans remembers.lasting
  rcases checked.leaves with ⟨tidy, compacted, left⟩
  by_cases new : outcome.1 = true
  · have recorded : ∀ later, now ≤ later →
        Recorded ttl (⟨event, now⟩ :: scheduler.handed) later outcome.2.records := by
      intro later waited
      rw [left, if_pos new]
      exact (remembers.recorded.compacted compacted started waited).hand ⟨event, now⟩
        remembers.lasting rfl le_rfl
    rcases processEvent_passed scheduler event turn current (passes.1.trans new) with
      ⟨gate, processed, told⟩
    have kept : gate.fingerprints.defaultTtl = ttl ∧
        Recorded ttl (⟨event, now⟩ :: scheduler.handed) (now + turn.lasted)
          gate.fingerprints.records := by
      dsimp only at told
      rw [passes.2] at told
      rcases told with rfl | ⟨result, rfl⟩
      · exact ⟨lasting, recorded (now + turn.lasted) onwards⟩
      · exact Recorded.again ⟨event, now⟩ orderly lasting onwards onwards (recorded now le_rfl)
          (some result)
    have times := @Remembers.hand _ _ _ event remembers _ _ started onwards
    rw [processed]
    constructor
    · exact ⟨kept.1, times.1, times.2,
        List.forall_mem_cons.mpr ⟨qualifies, remembers.qualified⟩, kept.2⟩
    · right
      refine ⟨?_, rfl⟩
      intro repeated
      rw [checked.repeated.mpr repeated] at new
      cases new
  · have stopped := Bool.eq_false_of_not_eq_true new
    rw [processEvent_stopped scheduler event turn current (passes.1.trans stopped), passes.2]
    rw [if_neg new] at left
    constructor
    · refine ⟨lasting, fun entry member => (remembers.past entry member).trans started,
        remembers.sorted, remembers.qualified, ?_⟩
      change Recorded ttl scheduler.handed now outcome.2.records
      rw [left]
      exact remembers.recorded.compacted compacted started le_rfl
    · exact .inl ⟨checked.repeated.mp stopped, rfl⟩

/-- The last event with a symbol and type was not handed on before another one of them. -/
theorem Remembers.latest (remembers : Remembers ttl scheduler) {earlier : Handed α}
    (member : earlier ∈ scheduler.handed) :
    ∃ last, scheduler.lastHanded (eventKey earlier.event) = some last ∧
      earlier.time ≤ last.time := by
  have present : (scheduler.lastHanded (eventKey earlier.event)).isSome = true := by
    rw [lastHanded, List.find?_isSome]
    exact ⟨earlier, member, decide_eq_true rfl⟩
  rcases Option.isSome_iff_exists.mp present with ⟨last, found⟩
  refine ⟨last, found, ?_⟩
  rcases List.find?_eq_some_iff_append.mp found with ⟨-, newer, older, handed, skipped⟩
  have sorted := remembers.sorted
  rw [handed] at member sorted
  rcases List.mem_append.mp member with before | after
  · have other := skipped earlier before
    simp at other
  · rcases List.mem_cons.mp after with rfl | behind
    · exact le_rfl
    · exact (List.pairwise_cons.mp (List.pairwise_append.mp sorted).2.1).1 earlier behind

/-- While the time of an event runs, the gate remembers the last one of its symbol and
type. -/
theorem Remembers.running (remembers : Remembers ttl scheduler) {earlier : Handed α}
    (member : earlier ∈ scheduler.handed) (same : SameBar earlier.event event) {now : ℚ}
    (started : scheduler.clock ≤ now) (soon : now < earlier.time + ttl) :
    ∃ last, scheduler.lastHanded (eventKey event) = some last ∧
      (scheduler.Repeated event now ↔
        eventFingerprint last.event = eventFingerprint event) := by
  rcases remembers.latest member with ⟨last, found, since⟩
  rw [same.key] at found
  have running : now < last.time + ttl := soon.trans_le (by linarith)
  rcases remembers.recorded _ _ found (started.trans_lt running) with
    ⟨record, held, fingerprint, after, lasts⟩
  refine ⟨last, found, ?_⟩
  constructor
  · rintro ⟨other, present, -, known⟩
    cases held.symm.trans present
    rw [← fingerprint, known]
  · intro known
    refine ⟨record, held, ?_, fingerprint.trans known⟩
    rw [lasts]
    linarith

/-- An event that qualifies keeps to one cycle for its bar when it is known again. -/
theorem Remembers.once_iff (remembers : Remembers ttl scheduler) (once : OncePerBar ttl scheduler)
    {after : Scheduler α} {now : ℚ} (started : scheduler.clock ≤ now)
    (handed : scheduler.Repeated event now ∧ after.handed = scheduler.handed ∨
      ¬ scheduler.Repeated event now ∧ after.handed = ⟨event, now⟩ :: scheduler.handed) :
    OncePerBar ttl after ↔ ∀ earlier ∈ scheduler.handed, SameBar earlier.event event →
      now < earlier.time + ttl → ∀ last, scheduler.lastHanded (eventKey event) = some last →
        eventFingerprint last.event = eventFingerprint event := by
  have decided : ∀ earlier ∈ scheduler.handed, SameBar earlier.event event →
      now < earlier.time + ttl → (scheduler.Repeated event now ↔
        ∀ last, scheduler.lastHanded (eventKey event) = some last →
          eventFingerprint last.event = eventFingerprint event) := by
    intro earlier member same soon
    rcases remembers.running member same started soon with ⟨last, found, known⟩
    rw [known, found]
    simp
  unfold OncePerBar
  rcases handed with ⟨repeated, kept⟩ | ⟨fresh, added⟩
  · rw [kept]
    apply iff_of_true once
    intro earlier member same soon
    exact (decided earlier member same soon).mp repeated
  · rw [added, List.pairwise_cons]
    constructor
    · rintro ⟨apart, -⟩ earlier member same soon
      exact absurd (apart earlier member same) (not_le.mpr soon)
    · intro known
      refine ⟨?_, once⟩
      intro earlier member same
      by_contra soon
      rw [not_le] at soon
      exact fresh ((decided earlier member same soon).mpr (known earlier member same soon))

/-- A turn with an event keeps to one cycle for it and its bar when it is known again. -/
theorem Remembers.turn (remembers : Remembers ttl scheduler) (once : OncePerBar ttl scheduler)
    (room : RoomFor scheduler.eventGate.fingerprints event) (turn : Turn) {after : Scheduler α}
    (taken : after = if scheduler.backpressure && isBackground event then scheduler
      else (scheduler.processEvent event turn).1) :
    Remembers ttl after ∧
      (OncePerBar ttl after ↔ ∀ earlier ∈ scheduler.handed, SameBar earlier.event event →
        scheduler.clock + turn.waited < earlier.time + ttl →
          ∀ last, scheduler.lastHanded (eventKey event) = some last →
            eventFingerprint last.event = eventFingerprint event) := by
  have started : scheduler.clock ≤ scheduler.clock + turn.waited :=
    le_add_of_nonneg_right turn.forward.1
  by_cases qualifies : scheduler.Qualifies event.eventType
  · have stays : ¬ (scheduler.backpressure && isBackground event) = true := by
      rw [isBackground, qualifies.2]
      exact Bool.false_ne_true
    rw [if_neg stays] at taken
    have processed := remembers.processEvent qualifies room turn rfl
    rw [← taken] at processed
    exact ⟨processed.1, remembers.once_iff once started processed.2⟩
  · have unlike : ∀ earlier ∈ scheduler.handed, ¬ SameBar earlier.event event := by
      intro earlier member same
      apply qualifies
      rw [← same.eventType]
      exact remembers.qualified earlier member
    have vacuous : ∀ earlier ∈ scheduler.handed, SameBar earlier.event event →
        scheduler.clock + turn.waited < earlier.time + ttl →
          ∀ last, scheduler.lastHanded (eventKey event) = some last →
            eventFingerprint last.event = eventFingerprint event :=
      fun earlier member same => absurd same (unlike earlier member)
    by_cases dropped : (scheduler.backpressure && isBackground event) = true
    · rw [taken, if_pos dropped]
      exact ⟨remembers, iff_of_true once vacuous⟩
    · rw [if_neg dropped] at taken
      have other : classifyEventClass (Text.upper event.eventType.value) ≠ .tradeTrigger :=
        fun trigger => qualifies ⟨trigger, Bool.eq_false_of_not_eq_true dropped⟩
      have stopped := EventGate.check_of_not_trigger scheduler.eventGate event.symbol
        (eventFingerprint event) (scheduler.clock + turn.waited) other
      rw [taken, processEvent_stopped scheduler event turn rfl stopped.1, stopped.2]
      exact ⟨⟨remembers.lasting,
        fun entry member => (remembers.past entry member).trans started, remembers.sorted,
        remembers.qualified, remembers.recorded.compacted (Compacted.refl _ _) started le_rfl⟩,
        iff_of_true once vacuous⟩

/-- The scheduler with another feed. -/
theorem Remembers.feed (remembers : Remembers ttl scheduler) (feed : MarketFeed α) :
    Remembers ttl { scheduler with feed := feed } :=
  ⟨remembers.lasting, remembers.past, remembers.sorted, remembers.qualified,
    remembers.recorded⟩

/-- A step keeps to one cycle for an event and a bar when its event is known again. -/
theorem Remembers.step [Structured α] (remembers : Remembers ttl scheduler)
    (once : OncePerBar ttl scheduler) {step : SchedulerStep α} (roomy : scheduler.Roomy step) :
    Remembers ttl (scheduler.step step) ∧
      (OncePerBar ttl (scheduler.step step) ↔ scheduler.KnownAgain ttl step) := by
  cases step with
  | poll poll => exact ⟨remembers.feed _, iff_of_true once trivial⟩
  | turn turn =>
      cases taken : scheduler.feed.queue.dequeue with
      | none =>
          have idle : scheduler.step (.turn turn) = scheduler := by
            rw [Scheduler.step, takeNext, taken, Option.map_none]
          rw [idle]
          refine ⟨remembers, iff_of_true once ?_⟩
          rintro event queue found
          cases taken.symm.trans found
      | some next =>
          rcases next with ⟨event, queue⟩
          have stepped : scheduler.step (.turn turn) =
              if scheduler.backpressure && isBackground event then
                { scheduler with feed := { scheduler.feed with queue := queue } }
              else ({ scheduler with
                feed := { scheduler.feed with queue := queue } }.processEvent event turn).1 := by
            rw [Scheduler.step, takeNext, taken, Option.map_some]
            dsimp only
            split <;> rfl
          rcases (remembers.feed { scheduler.feed with queue := queue }).turn once
            (roomFor (roomy event queue taken)) turn stepped with ⟨kept, known⟩
          refine ⟨kept, known.trans ?_⟩
          constructor
          · rintro known other rest found
            cases taken.symm.trans found
            exact known
          · intro known
            exact known event queue taken

/-! ## Runs -/

theorem remembers_initial (feed : MarketFeed α) (ttl : ℚ) (maxRecords : Int)
    (backpressure : Bool) :
    Remembers ttl (initial feed (EventGate.initial ttl maxRecords) backpressure) := by
  constructor
  · rfl
  · exact fun entry member => absurd member List.not_mem_nil
  · exact .nil
  · exact fun entry member => absurd member List.not_mem_nil
  · rintro key last found
    cases found

/-- Where the gate has room or the symbols are in capitals, a run keeps to one cycle for an
event and a bar exactly when every event of a bar is known again. -/
theorem every_oncePerBar_iff [Structured α] (feed : MarketFeed α) (ttl : ℚ) (maxRecords : Int)
    (backpressure : Bool) {steps : List (SchedulerStep α)}
    (roomy : Run.Every step Roomy
      (initial feed (EventGate.initial ttl maxRecords) backpressure) steps) :
    Run.Every step (fun scheduler input => OncePerBar ttl (scheduler.step input))
        (initial feed (EventGate.initial ttl maxRecords) backpressure) steps ↔
      Run.Every step (KnownAgain ttl)
        (initial feed (EventGate.initial ttl maxRecords) backpressure) steps := by
  apply Run.every_iff_of_assumed
    (fun scheduler => Remembers ttl scheduler ∧ OncePerBar ttl scheduler) roomy
  · rintro scheduler input ⟨remembers, once⟩ room known
    have stepped := remembers.step once room
    exact ⟨stepped.1, stepped.2.mpr known⟩
  · rintro scheduler input ⟨remembers, once⟩ room
    exact (remembers.step once room).2
  · exact ⟨remembers_initial feed ttl maxRecords backpressure, .nil⟩

/-! ## Two polls of one bar -/

instance (first second : DetectedEvent α) : Decidable (SameBar first second) :=
  decidable_of_iff (first.symbol = second.symbol ∧ first.eventType = second.eventType ∧
      newestBar first = newestBar second ∧ (newestBar first).isSome = true) <| by
    constructor
    · rintro ⟨symbol, eventType, same, known⟩
      rcases Option.isSome_iff_exists.mp known with ⟨time, bar⟩
      exact ⟨symbol, eventType, time, bar, same ▸ bar⟩
    · rintro ⟨symbol, eventType, time, bar, other⟩
      exact ⟨symbol, eventType, bar.trans other.symm, by rw [bar]; rfl⟩

instance (ttl : ℚ) (scheduler : Scheduler α) : Decidable (OncePerBar ttl scheduler) :=
  inferInstanceAs (Decidable (List.Pairwise _ _))

/-- Ten o'clock on the first of January 2026. -/
private def tenOnNewYear : Datetime :=
  ⟨2026, 1, 1, ⟨10, 0, 0, 0⟩, some 0, by decide⟩

/-- A poll of gold in which the bar of ten o'clock is the newest and closes at a price, with a
rising trend that was detected at a time. -/
private def goldPoll (close : Int) (timestamp : String) (time : Val) :
    SchedulerStep Empty :=
  .poll
    { symbol := "XAUUSD", session := none, bars := some [⟨.moment tenOnNewYear, .int close⟩],
      receivedAt := tenOnNewYear,
      events := some [⟨.trendBullish, timestamp, "XAUUSD", time, .none, .none, Dict.empty⟩],
      evidence := some [], now := 0 }

/-- A turn half a minute later. -/
private def laterTurn : SchedulerStep Empty :=
  .turn ⟨30, 1, some "HOLD_REJECTED", by norm_num, by norm_num⟩

/-- A feed that does not wait between events of one type. -/
private def eagerFeed : MarketFeed Empty :=
  MarketFeed.initial "M5" 0 1000

/-- The trend is detected in two polls of the bar. -/
private def detectedTwice (time : Val) : List (SchedulerStep Empty) :=
  [goldPoll 2600 "2026-01-01T10:00:05+00:00" time, laterTurn,
    goldPoll 2601 "2026-01-01T10:00:35+00:00" time, laterTurn]

private theorem detectedTwice_roomy (time : Val) (known : time = .none ∨ time = .str "10:00") :
    Run.Every step Roomy (initial eagerFeed (EventGate.initial 300 10000) false)
      (detectedTwice time) := by
  rcases known with rfl | rfl
  · exact ⟨trivial, fun _ _ _ => .inl (by decide +kernel), trivial,
      fun _ _ _ => .inl (by decide +kernel), trivial⟩
  · exact ⟨trivial, fun _ _ _ => .inl (by decide +kernel), trivial,
      fun _ _ _ => .inl (by decide +kernel), trivial⟩

/-- A detector that stamps its events with the time of the bar is known again. -/
theorem every_oncePerBar_stamped :
    Run.Every step (fun scheduler input => OncePerBar 300 (scheduler.step input))
      (initial eagerFeed (EventGate.initial 300 10000) false)
      (detectedTwice (.str "10:00")) := by
  apply (every_oncePerBar_iff eagerFeed 300 10000 false
    (detectedTwice_roomy (.str "10:00") (.inr rfl))).mpr
  refine ⟨trivial, ?_, trivial, ?_, trivial⟩
  · intro event queue taken earlier member
    exact absurd member List.not_mem_nil
  · intro event queue taken earlier member same soon last found
    have stamped : ∀ entry ∈ (Run.after step
        (initial eagerFeed (EventGate.initial 300 10000) false)
        ((detectedTwice (.str "10:00")).take 3)).handed,
        eventFingerprint entry.event = ("XAUUSD", "TREND_BULLISH", "10:00") := by
      decide +kernel
    have next : (Run.after step (initial eagerFeed (EventGate.initial 300 10000) false)
        ((detectedTwice (.str "10:00")).take 3)).feed.queue.dequeue.map
          (fun taken => eventFingerprint taken.1) = some ("XAUUSD", "TREND_BULLISH", "10:00") := by
      decide +kernel
    simp only [Run.after, detectedTwice, List.take_succ_cons, List.take_zero, List.foldl_cons,
      List.foldl_nil] at next
    rw [taken] at next
    have dequeued :
        some (eventFingerprint event) = some ("XAUUSD", "TREND_BULLISH", "10:00") := next
    rw [stamped last (List.mem_of_find?_eq_some found)]
    exact (Option.some.inj dequeued).symm

/-- Half a minute after the trend was handed on, it is handed on for the same bar. -/
theorem trend_handed_twice :
    Run.Every step Roomy (initial eagerFeed (EventGate.initial 300 10000) false)
        (detectedTwice .none) ∧
      ¬ Run.Every step (fun scheduler input => OncePerBar 300 (scheduler.step input))
        (initial eagerFeed (EventGate.initial 300 10000) false) (detectedTwice .none) := by
  refine ⟨detectedTwice_roomy .none (.inl rfl), ?_⟩
  rintro ⟨-, -, -, once, -⟩
  revert once
  decide +kernel

end Scheduler

end EaBot.Trading
