import EaBot.Orchestration.MarketEvidence
import EaBot.Trading.MarketFeed

/-!
# Stale evidence

The age of a snapshot is fixed when its bars are received.  A feed that reads the same
bars again, or none, leaves the snapshot in the cache, and the cycles after it find the
age that the bars had then, however late they come.

A run uses no stale snapshot exactly when every cycle follows the receipt of its bars
within the time that their age had left of the limit.
-/

namespace EaBot.Orchestration

open EaBot.Foundation EaBot.Trading EaBot.Trading.MarketFreshness

namespace MarketEvidence

variable {α : Type} [Structured α]

/-- A poll of the feed, a cycle that is started by hand, or one that takes the next event
out of the queue. -/
inductive MarketStep (α : Type)
  | poll (poll : Poll α)
  | manual (symbol : Val) (context : CycleContext α) (now : Datetime)
  | scheduled (context : CycleContext α) (now : Datetime)

/-- A cycle that runs. -/
structure Cycle (α : Type) where
  event : MarketEvent α
  context : CycleContext α
  now : Datetime

/-- The cycle of a step, with the queue after it. -/
def cycleOf (feed : MarketFeed α) : MarketStep α → Option (Cycle α)
  | .poll _ => none
  | .manual symbol context now => some ⟨⟨symbol, none⟩, context, now⟩
  | .scheduled context now => feed.queue.dequeue.map fun taken =>
      ⟨⟨.str taken.1.symbol, some taken.1.marketSnapshot⟩, context, now⟩

/-- The feed after a step. -/
def step (feed : MarketFeed α) : MarketStep α → MarketFeed α
  | .poll poll => feed.pollSymbol poll
  | .manual _ _ _ => feed
  | .scheduled _ _ =>
      match feed.queue.dequeue with
      | none => feed
      | some taken => { feed with queue := taken.2 }

/-- The snapshot that a cycle resolves. -/
def Cycle.resolved (cycle : Cycle α) (feed : MarketFeed α) : Option (MarketSnapshot α) :=
  resolveMarketSnapshot cycle.event (eventSymbol cycle.event cycle.context) feed.snapshots

/-- The snapshot that the caller of a cycle gives. -/
def Cycle.explicit (cycle : Cycle α) : Option (MarketSnapshot α) :=
  nonempty? (contextField cycle.context "market_snapshot").snapshot?

/-- The reason to reject the snapshot of a cycle. -/
def Cycle.staleReason (cycle : Cycle α) (feed : MarketFeed α) : String :=
  staleSnapshotReason cycle.event (eventSymbol cycle.event cycle.context) cycle.context
    feed.snapshots cycle.now

/-- The limit for a snapshot in a cycle. -/
def Cycle.limit (cycle : Cycle α) (snapshot : MarketSnapshot α) : ℚ :=
  threshold snapshot (judgedTimeframe snapshot cycle.context) none

/-- A cycle that accepts a snapshot finds its newest bar within the limit of the timeframe and
the tolerance of the clocks. -/
def AcceptsFresh (feed : MarketFeed α) (input : MarketStep α) : Prop :=
  ∀ cycle, cycleOf feed input = some cycle →
    ∀ snapshot, (cycle.resolved feed).or cycle.explicit = some snapshot →
      cycle.staleReason feed = "" →
        ∀ bar, parseTs (field snapshot "bar_timestamp") = some bar →
          seconds (cycle.now.instant - bar.instant) ≤
            cycle.limit snapshot + clockSkewToleranceSeconds

/-- Bars that pass on receipt are used within the time that their age left of a limit. -/
def InTime (bar received now : Int) (limit : ℚ) : Prop :=
  Passes bar received now limit →
    seconds (now - received) ≤ limit - seconds (received - bar) + clockSkewToleranceSeconds

/-- A cycle follows the poll that built its snapshot in time, or the times in the snapshot
that its caller gives. -/
def FollowsInTime (feed : MarketFeed α) (input : MarketStep α) : Prop :=
  ∀ cycle, cycleOf feed input = some cycle →
    match cycle.resolved feed with
    | some snapshot =>
        ∀ poll last, MarketFeed.Builds feed.timeframe poll last snapshot →
          ∀ bar, MarketFeed.barTimestamp last = some bar →
            InTime bar.instant poll.receivedAt.instant cycle.now.instant (cycle.limit snapshot)
    | none =>
        ∀ snapshot, cycle.explicit = some snapshot →
          ∀ bar received, parseTs (field snapshot "bar_timestamp") = some bar →
            parseTs (field snapshot "received_at") = some received →
              InTime bar.instant received.instant cycle.now.instant (cycle.limit snapshot)

/-! ## One cycle -/

theorem seconds_add (first second : Int) :
    seconds (first + second) = seconds first + seconds second := by
  unfold seconds
  push_cast
  ring

/-- The age at receipt and the time since add up. -/
theorem inTime_iff {bar received now : Int} {limit : ℚ} :
    InTime bar received now limit ↔
      (Passes bar received now limit →
        seconds (now - bar) ≤ limit + clockSkewToleranceSeconds) := by
  have total : seconds (now - bar) = seconds (now - received) + seconds (received - bar) := by
    rw [← seconds_add]
    congr 1
    ring
  unfold InTime
  rw [total]
  constructor <;> intro within passes <;> linarith [within passes]

omit [Structured α] in
theorem nonempty?_of_nonempty? {given : Option (MarketSnapshot α)} {snapshot : MarketSnapshot α}
    (found : nonempty? given = some snapshot) : nonempty? (some snapshot) = some snapshot :=
  Option.filter_eq_some_iff.mpr ⟨rfl, (Option.filter_eq_some_iff.mp found).2⟩

omit [Structured α] in
theorem resolved_nonempty {event : MarketEvent α} {symbol : String} {cache : SnapshotCache α}
    {snapshot : MarketSnapshot α}
    (found : resolveMarketSnapshot event symbol cache = some snapshot) :
    nonempty? (some snapshot) = some snapshot := by
  rcases Option.or_eq_some_iff.mp found with carried | ⟨-, cached⟩
  · exact nonempty?_of_nonempty? carried
  · exact nonempty?_of_nonempty? cached

/-- A cycle accepts its snapshot exactly when both times of it are known and pass. -/
theorem staleReason_eq_empty_iff {feed : MarketFeed α} {cycle : Cycle α}
    {snapshot : MarketSnapshot α}
    (judged : (cycle.resolved feed).or cycle.explicit = some snapshot) :
    cycle.staleReason feed = "" ↔
      ∃ bar received, parseTs (field snapshot "bar_timestamp") = some bar ∧
        parseTs (field snapshot "received_at") = some received ∧
          Passes bar.instant received.instant cycle.now.instant (cycle.limit snapshot) := by
  have filled : nonempty? (some snapshot) = some snapshot := by
    rcases Option.or_eq_some_iff.mp judged with resolved | ⟨-, given⟩
    · exact resolved_nonempty resolved
    · exact nonempty?_of_nonempty? given
  have same : judgedSnapshot cycle.event (eventSymbol cycle.event cycle.context) cycle.context
      feed.snapshots = some snapshot := judged
  unfold Cycle.staleReason staleSnapshotReason Cycle.limit
  rw [same]
  dsimp only
  generalize (if eventSymbol cycle.event cycle.context = "" then none
    else some (.scalar (.str (eventSymbol cycle.event cycle.context))) : Option (Evidence α)) =
      named
  rw [← evaluateFreshness_accepted_iff filled _ named]
  generalize evaluateFreshness (some snapshot) (judgedTimeframe snapshot cycle.context) named
    cycle.now none = verdict
  constructor
  · intro silent
    by_contra rejected
    rw [if_neg rejected] at silent
    by_cases unnamed : verdict.reason = ""
    · rw [if_pos unnamed] at silent
      exact absurd silent (by decide)
    · rw [if_neg unnamed] at silent
      exact unnamed silent
  · intro accepted
    rw [if_pos accepted]

/-! ## Whole runs -/

theorem fromPolls_step {feed : MarketFeed α} (built : feed.FromPolls) (input : MarketStep α) :
    (step feed input).FromPolls := by
  cases input with
  | poll poll => exact built.pollSymbol poll
  | manual symbol context now => exact built
  | scheduled context now =>
      unfold step
      dsimp only
      split
      · exact built
      · rename_i taken found
        exact (built.dequeue found).1

/-- What a cycle resolves was built by a poll. -/
theorem exists_builds_resolved {feed : MarketFeed α} (built : feed.FromPolls)
    {input : MarketStep α} {cycle : Cycle α} (runs : cycleOf feed input = some cycle)
    {snapshot : MarketSnapshot α} (resolved : cycle.resolved feed = some snapshot) :
    ∃ poll last, MarketFeed.Builds feed.timeframe poll last snapshot := by
  have cached : ∀ symbol, SnapshotCache.getLatestSnapshot feed.snapshots symbol = some snapshot →
      ∃ poll last, MarketFeed.Builds feed.timeframe poll last snapshot := by
    intro symbol found
    rcases SnapshotCache.held_of_getLatestSnapshot found with ⟨name, held⟩
    exact built.cached name snapshot held
  have carried : nonempty? cycle.event.marketSnapshot = some snapshot →
      ∃ poll last, MarketFeed.Builds feed.timeframe poll last snapshot := by
    intro carries
    have payload := (Option.filter_eq_some_iff.mp carries).1
    cases input with
    | poll poll => cases runs
    | manual symbol context now =>
        cases runs
        cases payload
    | scheduled context now =>
        rcases Option.map_eq_some_iff.mp runs with ⟨taken, found, same⟩
        cases same
        cases payload
        exact (built.dequeue found).2
  rcases Option.or_eq_some_iff.mp resolved with carries | ⟨-, found⟩
  · exact carried carries
  · exact cached _ (Option.filter_eq_some_iff.mp found).1

/-- The times of a snapshot are those of the poll that built it. -/
theorem times_of_builds {timeframe : String} {poll : Poll α} {last : Bar α}
    {snapshot : MarketSnapshot α} (builds : MarketFeed.Builds timeframe poll last snapshot) :
    parseTs (field snapshot "bar_timestamp") =
        (MarketFeed.barTimestamp last).map Datetime.assumeUtc ∧
      parseTs (field snapshot "received_at") = some poll.receivedAt.assumeUtc := by
  rcases builds.builds with ⟨evidence, rfl⟩
  exact ⟨MarketFeed.barTimestamp_snapshotOf _ _ _ _, MarketFeed.receivedAt_snapshotOf _ _ _ _⟩

/-- A cycle accepts no stale snapshot exactly when it follows the receipt of its bars in
time. -/
theorem acceptsFresh_iff {feed : MarketFeed α} (built : feed.FromPolls) (input : MarketStep α) :
    AcceptsFresh feed input ↔ FollowsInTime feed input := by
  refine forall₂_congr fun cycle runs => ?_
  cases resolved : cycle.resolved feed with
  | some snapshot =>
      rcases exists_builds_resolved built runs resolved with ⟨poll, last, builds⟩
      have accepts := staleReason_eq_empty_iff
        (show (cycle.resolved feed).or cycle.explicit = some snapshot by
          rw [resolved, Option.some_or])
      simp only [Option.some_or, Option.some.injEq, forall_eq']
      constructor
      · intro fresh poll last builds bar known
        rcases times_of_builds builds with ⟨barRead, receiptRead⟩
        rw [known, Option.map_some] at barRead
        exact inTime_iff.mpr fun passes =>
          fresh (accepts.mpr ⟨_, _, barRead, receiptRead, passes⟩) bar.assumeUtc barRead
      · intro inTime accepted bar parsed
        rcases accepts.mp accepted with ⟨_, received, same, receipt, passes⟩
        cases same.symm.trans parsed
        rcases times_of_builds builds with ⟨barRead, receiptRead⟩
        cases receiptRead.symm.trans receipt
        rcases Option.map_eq_some_iff.mp (barRead.symm.trans parsed) with ⟨time, known, rfl⟩
        exact inTime_iff.mp (inTime poll last builds time known) passes
  | none =>
      simp only [Option.none_or]
      refine forall₂_congr fun snapshot given => ?_
      have accepts := staleReason_eq_empty_iff
        (show (cycle.resolved feed).or cycle.explicit = some snapshot by
          rw [resolved, given, Option.none_or])
      constructor
      · intro fresh bar received barRead receiptRead
        exact inTime_iff.mpr fun passes =>
          fresh (accepts.mpr ⟨bar, received, barRead, receiptRead, passes⟩) bar barRead
      · intro inTime accepted bar parsed
        rcases accepts.mp accepted with ⟨_, received, same, receipt, passes⟩
        cases same.symm.trans parsed
        exact inTime_iff.mp (inTime bar received parsed receipt) passes

theorem every_acceptsFresh_iff (timeframe : String) (cooldown : ℚ) (maxSize : Nat)
    (inputs : List (MarketStep α)) :
    Run.Every step AcceptsFresh (MarketFeed.initial timeframe cooldown maxSize) inputs ↔
      Run.Every step FollowsInTime (MarketFeed.initial timeframe cooldown maxSize) inputs :=
  Run.every_iff_of_invariant MarketFeed.FromPolls (fun _ input built => fromPolls_step built input)
    (fun _ input built => acceptsFresh_iff built input) (MarketFeed.fromPolls_initial _ _ _) inputs

/-! ## A feed that stalls -/

/-- A time of the first of January 2026. -/
private def newYear (hour : Nat) (within : hour < 24) : Datetime :=
  ⟨2026, 1, 1, ⟨hour, 0, 0, 0⟩, some 0, by
    refine ⟨by decide, by decide, by decide, ⟨within, ?_⟩, ?_⟩
    · exact ⟨Nat.zero_lt_succ _, Nat.zero_lt_succ _, Nat.zero_lt_succ _⟩
    · intro micros same
      cases same
      decide⟩

/-- A poll of gold at ten o'clock whose newest bar is of that time, and a cycle at eleven. -/
private def stalledHour : List (MarketStep Empty) :=
  [.poll
    { symbol := "XAUUSD", session := none,
      bars := some [⟨.moment (newYear 10 (by decide)), .int 2600⟩],
      receivedAt := newYear 10 (by decide), events := some [], evidence := some [], now := 0 },
    .manual (.str "XAUUSD") Dict.empty (newYear 11 (by decide))]

/-- The cycle at eleven accepts five-minute bars of ten o'clock. -/
theorem stalled_hour_accepted :
    ¬ Run.Every step AcceptsFresh (MarketFeed.initial "M5" 300 1000) stalledHour := by
  rintro ⟨-, accepts, -⟩
  have late := accepts _ rfl _ rfl (by decide +kernel) (newYear 10 (by decide)) (by decide +kernel)
  revert late
  decide +kernel

end MarketEvidence

end EaBot.Orchestration
