import EaBot.Trading.MarketFeed

/-!
# Events that a full queue refused

The feed does not stamp the cooldown of an event that the full queue refused, so that a later
poll may queue it.  The same poll has already stored the identity of the bars, though, and a
later poll that reads the same bars is skipped.  Such a poll queues nothing, whatever room the
queue has by then.
-/

namespace EaBot.Trading.MarketFeed

open EaBot.Foundation

variable {α : Type} [Structured α]

/-! ## What a poll routes -/

/-- The identity of the bars that a poll reads. -/
def identity? (poll : Poll α) : Option BarsFingerprint :=
  (poll.bars.filter fun _ => Poll.open poll).bind fun bars =>
    bars.getLast?.map fun last => fingerprint bars.length last

/-- What a poll routes: the feed from which it starts, the snapshot and the events. -/
def routing? (feed : MarketFeed α) (poll : Poll α) :
    Option (MarketFeed α × MarketSnapshot α × List (DetectedEvent α)) :=
  match poll.bars.filter fun _ => Poll.open poll with
  | none => none
  | some bars =>
      match bars.getLast? with
      | none => none
      | some last =>
          let identity := fingerprint bars.length last
          if feed.fingerprints.get poll.symbol = some identity then none
          else
            match poll.events, poll.evidence with
            | some events, some evidence =>
                let snapshot := snapshotOf feed.timeframe poll last evidence
                some
                  ({ feed with
                      fingerprints := feed.fingerprints.set poll.symbol identity
                      snapshots := SnapshotCache.setLatestSnapshot feed.snapshots
                        ⟨.str poll.symbol, some snapshot⟩ },
                    snapshot, events)
            | _, _ => none

/-- The types of the events for which the queue answers that it is full. -/
def refusals (feed : MarketFeed α) (symbol : String) (snapshot : MarketSnapshot α) (now : ℚ) :
    List (DetectedEvent α) → List EventType
  | [] => []
  | event :: rest =>
      let cooling := (feed.lastEmitted.get (symbol, event.eventType)).any fun last =>
        decide (now - last < feed.cooldown)
      if cooling then refusals feed symbol snapshot now rest
      else
        match feed.queue.enqueue event with
        | none => event.eventType :: refusals feed symbol snapshot now rest
        | some _ => refusals (routeEvents feed symbol snapshot now [event]) symbol snapshot now rest

/-- A poll detects an event of a type, and the queue refuses it. -/
def Refuses (feed : MarketFeed α) (poll : Poll α) (eventType : EventType) : Prop :=
  ∃ start snapshot events, routing? feed poll = some (start, snapshot, events) ∧
    eventType ∈ refusals start poll.symbol snapshot poll.now events

/-- The entries that a poll adds to the queue. -/
def added (feed : MarketFeed α) (poll : Poll α) : List (PrioritizedEvent α) :=
  (feed.pollSymbol poll).queue.queue.drop feed.queue.queue.length

/-- A poll enqueues an event of a type. -/
def Enqueues (feed : MarketFeed α) (poll : Poll α) (eventType : EventType) : Prop :=
  ∃ entry ∈ added feed poll, entry.event.eventType = eventType

omit [Structured α] in
theorem routeEvents_fingerprints (feed : MarketFeed α) (symbol : String)
    (snapshot : MarketSnapshot α) (now : ℚ) (events : List (DetectedEvent α)) :
    (routeEvents feed symbol snapshot now events).fingerprints = feed.fingerprints := by
  induction events generalizing feed with
  | nil => rfl
  | cons event rest ih =>
      unfold routeEvents
      dsimp only
      split
      · exact ih feed
      · split
        · exact ih feed
        · exact ih _

/-- What a poll does: it leaves the feed, it stores the identity of the bars alone, or it
stores it and routes the events. -/
theorem pollSymbol_cases (feed : MarketFeed α) (poll : Poll α) :
    (feed.pollSymbol poll = feed ∧ routing? feed poll = none) ∨
    ∃ identity, identity? poll = some identity ∧
      feed.fingerprints.get poll.symbol ≠ some identity ∧
      (feed.pollSymbol poll).fingerprints = feed.fingerprints.set poll.symbol identity ∧
      ((routing? feed poll = none ∧ (feed.pollSymbol poll).queue = feed.queue) ∨
        ∃ start snapshot events, routing? feed poll = some (start, snapshot, events) ∧
          feed.pollSymbol poll = routeEvents start poll.symbol snapshot poll.now events) := by
  unfold pollSymbol routing? identity?
  cases read : poll.bars.filter fun _ => Poll.open poll with
  | none => exact .inl ⟨rfl, rfl⟩
  | some bars =>
      cases newest : bars.getLast? with
      | none => exact .inl ⟨by simp only [newest], by simp only [newest]⟩
      | some last =>
          simp only [newest, Option.bind_some, Option.map_some]
          by_cases same : feed.fingerprints.get poll.symbol = some (fingerprint bars.length last)
          · exact .inl ⟨if_pos same, if_pos same⟩
          · simp only [if_neg same]
            cases poll.events with
            | none => exact .inl ⟨rfl, rfl⟩
            | some events =>
                cases poll.evidence with
                | none => exact .inr ⟨_, rfl, same, rfl, .inl ⟨rfl, rfl⟩⟩
                | some evidence =>
                    refine .inr ⟨_, rfl, same, ?_, .inr ⟨_, _, _, rfl, rfl⟩⟩
                    exact routeEvents_fingerprints _ _ _ _ _

/-- A poll that reads the bars of the poll before is skipped. -/
theorem pollSymbol_of_same {feed : MarketFeed α} {poll : Poll α}
    (same : identity? poll = none ∨ identity? poll = feed.fingerprints.get poll.symbol) :
    feed.pollSymbol poll = feed := by
  rcases pollSymbol_cases feed poll with ⟨kept, -⟩ | ⟨identity, read, other, -⟩
  · exact kept
  · rcases same with unread | held
    · cases read.symm.trans unread
    · exact absurd (held.symm.trans read) other

/-! ## Runs of polls and drains -/

/-- A step of the feed and of the consumer of its queue. -/
inductive Step (α : Type)
  | poll (poll : Poll α)
  | drain

/-- The feed after a step.  A drain takes one event out of the queue. -/
def step (feed : MarketFeed α) : Step α → MarketFeed α
  | .poll poll => feed.pollSymbol poll
  | .drain =>
      match feed.queue.dequeue with
      | none => feed
      | some (_, queue) => { feed with queue := queue }

/-- A step does not bring other bars of a symbol: a poll of it reads nothing, or the same. -/
def Unchanged (symbol : String) (identity : Option BarsFingerprint) : Step α → Prop
  | .poll poll => poll.symbol = symbol → identity? poll = none ∨ identity? poll = identity
  | .drain => True

/-- Steps without other bars of a symbol leave the identity that is stored for it. -/
theorem fingerprint_step {feed : MarketFeed α} {symbol : String} {input : Step α}
    (unchanged : Unchanged symbol (feed.fingerprints.get symbol) input) :
    (feed.step input).fingerprints.get symbol = feed.fingerprints.get symbol := by
  cases input with
  | drain =>
      rw [step]
      split <;> rfl
  | poll poll =>
      rw [step]
      by_cases own : poll.symbol = symbol
      · have same := unchanged own
        rw [← own] at same
        rw [pollSymbol_of_same same]
      · rcases pollSymbol_cases feed poll with ⟨kept, -⟩ | ⟨identity, -, -, stored, -⟩
        · rw [kept]
        · rw [stored, Dict.get_set_of_ne _ (Ne.symm own)]

theorem fingerprint_after {feed : MarketFeed α} {symbol : String} {inputs : List (Step α)}
    (unchanged : ∀ input ∈ inputs, Unchanged symbol (feed.fingerprints.get symbol) input) :
    (Run.after step feed inputs).fingerprints.get symbol = feed.fingerprints.get symbol := by
  induction inputs generalizing feed with
  | nil => rfl
  | cons input rest ih =>
      have now := fingerprint_step (unchanged input List.mem_cons_self)
      refine (ih ?_).trans now
      intro other member
      rw [now]
      exact unchanged other (.tail _ member)

/-- What is asked of a retry: an event was refused, the bars of its symbol are still the same at
a later poll, the queue has room again, and no such event was emitted within the cooldown. -/
structure Retry (feed : MarketFeed α) (eventType : EventType) (refusing : Poll α)
    (between : List (Step α)) (later : MarketFeed α) (retrying : Poll α) : Prop where
  refused : Refuses feed refusing eventType
  reached : later = Run.after step (feed.pollSymbol refusing) between
  unchanged : ∀ input ∈ between, Unchanged refusing.symbol (identity? refusing) input
  symbol : retrying.symbol = refusing.symbol
  sameBars : identity? retrying = identity? refusing
  room : later.queue.queue.length < later.queue.maxSize
  calm : ∀ last, later.lastEmitted.get (retrying.symbol, eventType) = some last →
    later.cooldown ≤ retrying.now - last

/-- A poll whose event was refused has stored the identity of the bars. -/
theorem fingerprint_of_refuses {feed : MarketFeed α} {poll : Poll α} {eventType : EventType}
    (refused : Refuses feed poll eventType) :
    (feed.pollSymbol poll).fingerprints.get poll.symbol = identity? poll := by
  rcases refused with ⟨start, snapshot, events, routed, -⟩
  rcases pollSymbol_cases feed poll with ⟨-, unrouted⟩ | ⟨identity, read, -, stored, -⟩
  · cases routed.symm.trans unrouted
  · rw [stored, Dict.get_set_self, read]

/-- The later poll of an unchanged series leaves the feed as it is. -/
theorem Retry.skipped {feed later : MarketFeed α} {eventType : EventType}
    {refusing retrying : Poll α} {between : List (Step α)}
    (retry : Retry feed eventType refusing between later retrying) :
    later.pollSymbol retrying = later := by
  have stored := fingerprint_of_refuses retry.refused
  have kept : later.fingerprints.get refusing.symbol = identity? refusing := by
    rw [retry.reached, fingerprint_after, stored]
    rw [stored]
    exact retry.unchanged
  apply pollSymbol_of_same
  rw [retry.symbol, kept]
  exact .inr retry.sameBars

/-- In no run does a later poll of the same bars enqueue the event that the full queue
refused. -/
theorem refused_event_never_enqueued (timeframe : String) (cooldown : ℚ) (maxSize : Nat)
    (before : List (Step α)) (eventType : EventType) (refusing : Poll α)
    (between : List (Step α)) (later : MarketFeed α) (retrying : Poll α)
    (retry : Retry (Run.after step (initial timeframe cooldown maxSize) before) eventType refusing
      between later retrying) :
    ¬ Enqueues later retrying eventType := by
  rintro ⟨entry, member, -⟩
  rw [added, retry.skipped, List.drop_length] at member
  exact absurd member List.not_mem_nil

/-! ### A lost event -/

namespace Sample

/-- A poll that reads one bar with a close and detects a doji on it. -/
def dojiPoll (symbol : String) (close : Int) (now : ℚ) : Poll Empty where
  symbol := symbol
  session := none
  bars := some [⟨.scalar (.str "2026-09-14T08:00:00+00:00"), .int close⟩]
  receivedAt := ⟨2026, 9, 14, ⟨8, 0, 7, 0⟩, some 0, by decide⟩
  events := some [⟨.doji, "2026-09-14T08:00:07+00:00", symbol, .none, .none, .none, Dict.empty⟩]
  evidence := some []
  now := now

/-- Another symbol has filled the queue of one event. -/
def filling : List (Step Empty) :=
  [.poll (dojiPoll "EURUSD" 1 0)]

/-- The feed with the full queue. -/
def full : MarketFeed Empty :=
  Run.after step (initial "M1" 300 1) filling

/-- The feed after the refusal and a drain. -/
def drained : MarketFeed Empty :=
  Run.after step (full.pollSymbol (dojiPoll "XAUUSD" 2400 5)) [.drain]

end Sample

/-- The queue refuses the doji of the second symbol, and after a drain the next poll of the same
bar could be queued. -/
theorem Sample.retry : Retry Sample.full .doji (Sample.dojiPoll "XAUUSD" 2400 5) [.drain]
    Sample.drained (Sample.dojiPoll "XAUUSD" 2400 65) where
  refused := by
    refine ⟨_, _, _, rfl, ?_⟩
    decide
  reached := rfl
  unchanged := by
    intro input member
    rw [List.mem_singleton.mp member]
    trivial
  symbol := rfl
  sameBars := rfl
  room := by decide
  calm := by
    intro last stamped
    have never : Sample.drained.lastEmitted.get ("XAUUSD", .doji) = none := by decide
    cases never.symm.trans stamped

/-- It is not. -/
theorem refused_event_never_enqueued_doji :
    ¬ Enqueues Sample.drained (Sample.dojiPoll "XAUUSD" 2400 65) .doji :=
  refused_event_never_enqueued "M1" 300 1 Sample.filling .doji _ _ _ _ Sample.retry

/-- A refused event is not always enqueued by a later poll of the same bars. -/
theorem not_refused_event_enqueued : ¬ ∀ (timeframe : String) (cooldown : ℚ) (maxSize : Nat)
    (before : List (Step Empty)) (eventType : EventType) (refusing : Poll Empty)
    (between : List (Step Empty)) (later : MarketFeed Empty) (retrying : Poll Empty),
    Retry (Run.after step (initial timeframe cooldown maxSize) before) eventType refusing
      between later retrying → Enqueues later retrying eventType := by
  intro enqueued
  have doji := enqueued "M1" 300 1 Sample.filling .doji _ _ _ _ Sample.retry
  rcases doji with ⟨entry, member, -⟩
  have none : added Sample.drained (Sample.dojiPoll "XAUUSD" 2400 65) = [] := by
    rw [added, Sample.retry.skipped, List.drop_length]
  rw [none] at member
  exact absurd member List.not_mem_nil

end EaBot.Trading.MarketFeed
