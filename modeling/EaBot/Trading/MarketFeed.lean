import EaBot.Trading.EventEngine
import EaBot.Trading.MarketFreshness

/-!
# The market feed

A poll of a symbol reads its bars, and skips them when their number, the time and the
close of the last bar are those of the poll before.  Otherwise it detects events, builds
the snapshot of the bars, caches it and queues the events that are not cooling down.

A poll that is skipped leaves the cached snapshot as it is.
-/

namespace EaBot.Trading

open EaBot.Foundation

/-- A bar, with what is read of it. -/
structure Bar (α : Type) where
  time : Evidence α
  close : Val

/-- The identity of a series of bars.  Closes are compared as numbers where they are some. -/
structure BarsFingerprint where
  length : Nat
  time : String
  close : Sum ℚ Val
deriving DecidableEq

/-- The feed, with the cache and the queue that it writes. -/
structure MarketFeed (α : Type) where
  timeframe : String
  cooldown : ℚ
  fingerprints : Dict String BarsFingerprint
  lastEmitted : Dict (String × EventType) ℚ
  snapshots : SnapshotCache α
  queue : EventQueue α

/-- What a poll of a symbol meets.  Bars are missing when they cannot be read, and the
events or the other evidence when computing them raises. -/
structure Poll (α : Type) where
  symbol : String
  session : Option (Bool × Evidence α)
  bars : Option (List (Bar α))
  receivedAt : Datetime
  events : Option (List (DetectedEvent α))
  evidence : Option (List (String × Evidence α))
  now : ℚ

namespace MarketFeed

variable {α : Type} [Structured α]

/-- The identity of the bars that end with a bar. -/
def fingerprint (length : Nat) (last : Bar α) : BarsFingerprint :=
  { length := length, time := last.time.text,
    close := match last.close.number? with
      | some value => .inl value
      | none => .inr last.close }

/-- The time of a bar.  Without an offset it is universal time. -/
def barTimestamp (bar : Bar α) : Option Datetime :=
  MarketFreshness.parseTs bar.time

/-- The snapshot of a poll.  The series and the states computed from the bars are its other
evidence. -/
def buildSnapshot (timeframe symbol : String) (last : Bar α) (receivedAt : Datetime)
    (evidence : List (String × Evidence α)) : MarketSnapshot α :=
  (Dict.empty.update evidence).update
    [("symbol", .scalar (.str symbol)),
      ("timeframe", .scalar (.str timeframe)),
      ("bar_timestamp", .scalar (match barTimestamp last with
        | some time => .str time.isoformat
        | none => .none)),
      ("received_at", .scalar (.str receivedAt.isoformat))]

/-- Queue the events that are not cooling down, each with the snapshot. -/
def routeEvents (feed : MarketFeed α) (symbol : String) (snapshot : MarketSnapshot α) (now : ℚ) :
    List (DetectedEvent α) → MarketFeed α
  | [] => feed
  | event :: rest =>
      let cooling := (feed.lastEmitted.get (symbol, event.eventType)).any fun last =>
        decide (now - last < feed.cooldown)
      if cooling then routeEvents feed symbol snapshot now rest
      else
        let event := { event with
          marketSnapshot := snapshot
          barTime := if event.barTime.truthy then event.barTime
            else .str (event.time.orElse (.str "")).text }
        match feed.queue.enqueue event with
        | none => routeEvents feed symbol snapshot now rest
        | some queue =>
            routeEvents
              { feed with
                queue := queue
                lastEmitted := feed.lastEmitted.set (symbol, event.eventType) now }
              symbol snapshot now rest

/-- The session of a poll lets it read.  Without a session it does. -/
def Poll.open (poll : Poll α) : Bool :=
  match poll.session with
  | some (isOpen, _) => isOpen
  | none => true

/-- The entries of a snapshot that come from its session. -/
def sessionEntries (poll : Poll α) : List (String × Evidence α) :=
  match poll.session with
  | some (_, session) => [("session", session)]
  | none => []

/-- The snapshot of a poll with the last of its bars and its session. -/
def snapshotOf (timeframe : String) (poll : Poll α) (last : Bar α)
    (evidence : List (String × Evidence α)) : MarketSnapshot α :=
  (buildSnapshot timeframe poll.symbol last poll.receivedAt evidence).update (sessionEntries poll)

/-- Poll a symbol. -/
def pollSymbol (feed : MarketFeed α) (poll : Poll α) : MarketFeed α :=
  match poll.bars.filter fun _ => Poll.open poll with
  | none => feed
  | some bars =>
      match bars.getLast? with
      | none => feed
      | some last =>
          let identity := fingerprint bars.length last
          if feed.fingerprints.get poll.symbol = some identity then feed
          else
            match poll.events with
            | none => feed
            | some events =>
                let seen := { feed with
                  fingerprints := feed.fingerprints.set poll.symbol identity }
                match poll.evidence with
                | none => seen
                | some evidence =>
                    let snapshot := snapshotOf feed.timeframe poll last evidence
                    routeEvents
                      { seen with
                        snapshots := SnapshotCache.setLatestSnapshot feed.snapshots
                          ⟨.str poll.symbol, some snapshot⟩ }
                      poll.symbol snapshot poll.now events

/-- A feed that has not polled. -/
def initial (timeframe : String) (cooldown : ℚ) (maxSize : Nat) : MarketFeed α :=
  ⟨timeframe, cooldown, Dict.empty, Dict.empty, Dict.empty, EventQueue.empty maxSize⟩

/-! ## Where snapshots come from -/

section Provenance

variable {feed : MarketFeed α} {poll : Poll α} {snapshot : MarketSnapshot α}

/-- A poll reads a bar last and builds the snapshot from it. -/
structure Builds (timeframe : String) (poll : Poll α) (last : Bar α)
    (snapshot : MarketSnapshot α) : Prop where
  reads : ∃ bars, poll.bars = some bars ∧ bars.getLast? = some last
  builds : ∃ evidence, snapshot = snapshotOf timeframe poll last evidence

/-- Every snapshot of the feed, cached or on its way to a cycle, was built by a poll. -/
structure FromPolls (feed : MarketFeed α) : Prop where
  cached : ∀ name snapshot, feed.snapshots.get name = some snapshot →
    ∃ poll last, Builds feed.timeframe poll last snapshot
  queued : ∀ entry ∈ feed.queue.queue,
    ∃ poll last, Builds feed.timeframe poll last entry.event.marketSnapshot

theorem snapshotOf_get (timeframe : String) (poll : Poll α) (last : Bar α)
    (evidence : List (String × Evidence α)) {name : String} (other : name ≠ "session") :
    (snapshotOf timeframe poll last evidence).get name =
      (buildSnapshot timeframe poll.symbol last poll.receivedAt evidence).get name := by
  unfold snapshotOf sessionEntries
  cases poll.session with
  | none => rfl
  | some session => exact Dict.get_set_of_ne _ other _

theorem buildSnapshot_bar (timeframe symbol : String) (last : Bar α) (receivedAt : Datetime)
    (evidence : List (String × Evidence α)) :
    (buildSnapshot timeframe symbol last receivedAt evidence).get "bar_timestamp" =
      some (.scalar (match barTimestamp last with
        | some time => .str time.isoformat
        | none => .none)) := by
  unfold buildSnapshot
  simp only [Dict.update_cons, Dict.update_nil]
  rw [Dict.get_set_of_ne _ (by decide), Dict.get_set_self]

theorem buildSnapshot_received (timeframe symbol : String) (last : Bar α) (receivedAt : Datetime)
    (evidence : List (String × Evidence α)) :
    (buildSnapshot timeframe symbol last receivedAt evidence).get "received_at" =
      some (.scalar (.str receivedAt.isoformat)) := by
  unfold buildSnapshot
  simp only [Dict.update_cons, Dict.update_nil]
  exact Dict.get_set_self _ _ _

/-- The time of the newest bar is read back from the snapshot of a poll. -/
theorem barTimestamp_snapshotOf (timeframe : String) (poll : Poll α) (last : Bar α)
    (evidence : List (String × Evidence α)) :
    MarketFreshness.parseTs
        (MarketFreshness.field (snapshotOf timeframe poll last evidence) "bar_timestamp") =
      (barTimestamp last).map Datetime.assumeUtc := by
  rw [MarketFreshness.field, snapshotOf_get _ _ _ _ (by decide), buildSnapshot_bar,
    Option.getD_some]
  cases barTimestamp last with
  | none => rfl
  | some time => exact MarketFreshness.parseTs_isoformat time

theorem receivedAt_snapshotOf (timeframe : String) (poll : Poll α) (last : Bar α)
    (evidence : List (String × Evidence α)) :
    MarketFreshness.parseTs
        (MarketFreshness.field (snapshotOf timeframe poll last evidence) "received_at") =
      some poll.receivedAt.assumeUtc := by
  rw [MarketFreshness.field, snapshotOf_get _ _ _ _ (by decide), buildSnapshot_received,
    Option.getD_some]
  exact MarketFreshness.parseTs_isoformat _

omit [Structured α] in
theorem routeEvents_keeps (feed : MarketFeed α) (symbol : String) (snapshot : MarketSnapshot α)
    (now : ℚ) (events : List (DetectedEvent α)) :
    (routeEvents feed symbol snapshot now events).timeframe = feed.timeframe ∧
      (routeEvents feed symbol snapshot now events).snapshots = feed.snapshots := by
  induction events generalizing feed with
  | nil => exact ⟨rfl, rfl⟩
  | cons event rest ih =>
      unfold routeEvents
      dsimp only
      split
      · exact ih feed
      · split
        · exact ih feed
        · exact ih _

omit [Structured α] in
/-- An event that was routed carries the snapshot. -/
theorem routeEvents_queue (feed : MarketFeed α) (symbol : String) (snapshot : MarketSnapshot α)
    (now : ℚ) (events : List (DetectedEvent α)) :
    ∀ entry ∈ (routeEvents feed symbol snapshot now events).queue.queue,
      entry ∈ feed.queue.queue ∨ entry.event.marketSnapshot = snapshot := by
  induction events generalizing feed with
  | nil => exact fun entry member => .inl member
  | cons event rest ih =>
      unfold routeEvents
      dsimp only
      split
      · exact ih feed
      · split
        · exact ih feed
        · rename_i queue queued
          intro entry member
          rcases ih _ entry member with before | carries
          · unfold EventQueue.enqueue at queued
            split at queued
            · cases queued
            · cases queued
              rcases List.mem_append.mp before with old | new
              · exact .inl old
              · rw [List.mem_singleton.mp new]
                exact .inr rfl
          · exact .inr carries

theorem fromPolls_initial (timeframe : String) (cooldown : ℚ) (maxSize : Nat) :
    (initial timeframe cooldown maxSize : MarketFeed α).FromPolls := by
  constructor
  · intro name snapshot held
    cases (Dict.get_empty name).symm.trans held
  · intro entry member
    exact absurd member List.not_mem_nil

/-- A poll caches and queues the snapshot that it builds. -/
theorem FromPolls.pollSymbol (built : feed.FromPolls) (poll : Poll α) :
    (feed.pollSymbol poll).FromPolls := by
  unfold MarketFeed.pollSymbol
  split
  · exact built
  rename_i bars opened
  have read : poll.bars = some bars := (Option.filter_eq_some_iff.mp opened).1
  split
  · exact built
  rename_i last final
  dsimp only
  split
  · exact built
  split
  · exact built
  split
  · exact ⟨built.cached, built.queued⟩
  rename_i events _ evidence _
  have builds : Builds feed.timeframe poll last (snapshotOf feed.timeframe poll last evidence) :=
    ⟨⟨bars, read, final⟩, ⟨evidence, rfl⟩⟩
  constructor
  · intro name snapshot held
    rw [(routeEvents_keeps _ _ _ _ _).2] at held
    rw [(routeEvents_keeps _ _ _ _ _).1]
    dsimp only at held ⊢
    rcases SnapshotCache.setLatestSnapshot_cases held with same | before
    · cases same
      exact ⟨poll, last, builds⟩
    · exact built.cached name snapshot before
  · intro entry member
    rw [(routeEvents_keeps _ _ _ _ _).1]
    rcases routeEvents_queue _ _ _ _ _ entry member with before | carries
    · exact built.queued entry before
    · rw [carries]
      exact ⟨poll, last, builds⟩

/-- Taking an event out of the queue leaves the others. -/
theorem FromPolls.dequeue (built : feed.FromPolls) {event : DetectedEvent α} {queue : EventQueue α}
    (taken : feed.queue.dequeue = some (event, queue)) :
    ({ feed with queue := queue } : MarketFeed α).FromPolls ∧
      ∃ poll last, Builds feed.timeframe poll last event.marketSnapshot := by
  rcases Option.map_eq_some_iff.mp taken with ⟨⟨best, rest⟩, first, same⟩
  cases same
  have split := EventQueue.takeBest_perm first
  refine ⟨⟨built.cached, fun entry member => built.queued entry ?_⟩, built.queued best ?_⟩
  · exact split.mem_iff.mpr (List.mem_cons_of_mem _ member)
  · exact split.mem_iff.mpr List.mem_cons_self

end Provenance

end MarketFeed

end EaBot.Trading
