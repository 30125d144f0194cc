import EaBot.Foundation.Text
import EaBot.Trading.EventEngine
import Mathlib.Data.List.Perm.Subperm

/-!
# The gate of the events

Only the events that can trigger a trade pass.  For a time after an event has passed,
another one of its symbol and type passes only when it has another fingerprint, which then
takes the place of the first.

When many events are remembered the old ones are forgotten, and the others are kept under
their symbols as they were written.
-/

namespace EaBot.Trading

open EaBot.Foundation

/-- What an event may lead to. -/
inductive EventClassKind
  | tradeTrigger | contextUpdate | housekeeping | tradeClose
deriving DecidableEq

namespace EventClassKind

/-- The name of a class. -/
def value : EventClassKind → String
  | tradeTrigger => "TRADE_TRIGGER"
  | contextUpdate => "CONTEXT_UPDATE"
  | housekeeping => "HOUSEKEEPING"
  | tradeClose => "TRADE_CLOSE"

end EventClassKind

/-- The types that trigger a trade. -/
def tradeTriggerTypes : List String :=
  ["BREAKOUT", "BREAKDOWN", "REVERSAL", "STRUCTURE_SHIFT", "MOMENTUM_CONFIRMATION", "ZONE_ENTRY",
    "VOLATILITY_EXPANSION", "TRIGGER_APPROACHING", "SETUP_FORMED", "SETUP_INVALIDATED",
    "MOMENTUM_BULLISH", "MOMENTUM_BEARISH", "MOMENTUM_DIVERGENCE", "EMA_CROSSOVER",
    "MACD_CROSSOVER", "RSI_OVERBOUGHT", "RSI_OVERSOLD", "STOCH_OVERBOUGHT", "STOCH_OVERSOLD",
    "GAP_UP", "GAP_DOWN", "VOLATILITY_SPIKE", "VOLATILITY_EXPANDING", "DOJI"]

/-- The beginnings of the types that never lead to a trade. -/
def housekeepingPrefixes : List String :=
  ["RISK_", "DRAWDOWN_", "EXPOSURE_", "MARGIN_", "PORTFOLIO_", "CORRELATION", "RECONCILIATION",
    "HEALTH_CHECK", "METRICS"]

/-- The other types that never lead to a trade. -/
def housekeepingTypes : List String :=
  ["LIQUIDITY_WARNING", "POSITION_OPENED", "POSITION_CLOSED"]

/-- The beginnings of the types that only inform. -/
def contextUpdatePrefixes : List String :=
  ["NEWS_", "ECONOMIC_", "MACRO_", "SOCIAL_"]

/-- The other types that only inform. -/
def contextUpdateTypes : List String :=
  ["REGIME_CHANGE", "VOLATILITY_CHANGE"]

/-- The beginnings of the trends that trigger a trade. -/
def trendTriggerPrefixes : List String :=
  ["TREND_"]

/-- Whether a text begins with one of the texts. -/
def startsWithAny (text : String) (beginnings : List String) : Bool :=
  beginnings.any fun beginning => beginning.toList.isPrefixOf text.toList

/-- The class of a type.  A type that is not known only informs. -/
def classifyEventClass (eventType : String) : EventClassKind :=
  let raw := Text.strip (Text.upper eventType)
  if startsWithAny raw housekeepingPrefixes then .housekeeping
  else if raw ∈ housekeepingTypes then .housekeeping
  else if raw ∈ ["TRADE_CLOSE", "POST_TRADE_REVIEW"] then .tradeClose
  else if startsWithAny raw contextUpdatePrefixes then .contextUpdate
  else if raw ∈ contextUpdateTypes then .contextUpdate
  else if raw ∈ tradeTriggerTypes then .tradeTrigger
  else if startsWithAny raw trendTriggerPrefixes then .tradeTrigger
  else .contextUpdate

/-- The symbol, the type and the marker of the bar of an event. -/
abbrev EventFingerprint : Type :=
  String × String × String

/-- An event that has passed. -/
structure DuplicateRecord (φ : Type := EventFingerprint) where
  symbol : String
  eventType : String
  fingerprint : φ
  timestamp : ℚ
  ttlSeconds : ℚ
  result : Option String

/-- The events that have passed, under their symbols and types. -/
structure EventFingerprintGuillotine (φ : Type := EventFingerprint) where
  defaultTtl : ℚ
  maxSize : Int
  records : Dict (String × String) (DuplicateRecord φ)

namespace EventFingerprintGuillotine

variable {φ : Type}

/-- What an event is remembered under. -/
def key (symbol eventType : String) : String × String :=
  (Text.upper symbol, Text.upper eventType)

/-- The number of events. -/
def count (guillotine : EventFingerprintGuillotine φ) : Nat :=
  guillotine.records.entries.length

/-- More than three quarters of the room is taken. -/
def Crowded (guillotine : EventFingerprintGuillotine φ) : Prop :=
  3 * guillotine.maxSize < 4 * (guillotine.count : Int)

instance (guillotine : EventFingerprintGuillotine φ) : Decidable guillotine.Crowded :=
  inferInstanceAs (Decidable (_ < _))

/-- No room is left. -/
def Full (guillotine : EventFingerprintGuillotine φ) : Prop :=
  guillotine.maxSize ≤ (guillotine.count : Int)

instance (guillotine : EventFingerprintGuillotine φ) : Decidable guillotine.Full :=
  inferInstanceAs (Decidable (_ ≤ _))

/-- Forget the events whose time is over.  The others are kept under their symbols and types
as they were written. -/
def evictStale (guillotine : EventFingerprintGuillotine φ) (now : ℚ) :
    EventFingerprintGuillotine φ :=
  { guillotine with
    records := Dict.empty.update (guillotine.records.values.filterMap fun record =>
      if now < record.timestamp + record.ttlSeconds then
        some ((record.symbol, record.eventType), record)
      else none) }

/-- Remember an event, after the old ones are forgotten where no room is left. -/
def record (guillotine : EventFingerprintGuillotine φ) (key : String × String)
    (entry : DuplicateRecord φ) (now : ℚ) :
    EventFingerprintGuillotine φ :=
  let roomy := if guillotine.Full then guillotine.evictStale now else guillotine
  { roomy with records := roomy.records.set key entry }

/-- Whether an event is new.  A new event is remembered, and one that is not leaves what is
remembered. -/
def checkAndRecord [DecidableEq φ] (guillotine : EventFingerprintGuillotine φ)
    (symbol eventType : String) (fingerprint : φ) (now : ℚ) (ttlSeconds : Option ℚ)
    (result : Option String) :
    Bool × EventFingerprintGuillotine φ :=
  let ttl := match ttlSeconds with
    | some given => if given = 0 then guillotine.defaultTtl else given
    | none => guillotine.defaultTtl
  let fresh : DuplicateRecord φ := ⟨symbol, eventType, fingerprint, now, ttl, result⟩
  match guillotine.records.get (key symbol eventType) with
  | none => (true, guillotine.record (key symbol eventType) fresh now)
  | some existing =>
      let tidy := if guillotine.Crowded then guillotine.evictStale now else guillotine
      if existing.timestamp + existing.ttlSeconds < now then
        (true, tidy.record (key symbol eventType) fresh now)
      else if existing.fingerprint = fingerprint then (false, tidy)
      else (true, { tidy with records := tidy.records.set (key symbol eventType) fresh })

end EventFingerprintGuillotine

/-- The gate. -/
structure EventGate where
  fingerprints : EventFingerprintGuillotine

namespace EventGate

/-- A gate through which nothing has passed. -/
def initial (duplicateTtlSeconds : ℚ) (maxDedupRecords : Int) : EventGate :=
  ⟨⟨duplicateTtlSeconds, maxDedupRecords, Dict.empty⟩⟩

/-- Whether an event may pass, and why not. -/
def check (gate : EventGate) (eventType symbol : String) (fingerprint : EventFingerprint)
    (now : ℚ) : (Bool × String) × EventGate :=
  let kind := classifyEventClass (Text.upper eventType)
  if kind ≠ .tradeTrigger then
    ((false, "non-qualifying event class (" ++ kind.value ++ "); skipping committee"), gate)
  else
    let checked := gate.fingerprints.checkAndRecord symbol (Text.upper eventType) fingerprint now
      none none
    if checked.1 then ((true, ""), ⟨checked.2⟩)
    else ((false, "duplicate event suppressed within TTL window"), ⟨checked.2⟩)

/-- Remember the result of an event that has passed. -/
def recordResult (gate : EventGate) (eventType symbol : String) (fingerprint : EventFingerprint)
    (result : String) (now : ℚ) : EventGate :=
  ⟨(gate.fingerprints.checkAndRecord symbol (Text.upper eventType) fingerprint now none
    (some result)).2⟩

end EventGate

/-! ## What a check does -/

section Checks

variable {φ : Type}

/-- Every event is under its symbol and type as they were written. -/
def WellKeyed (records : Dict (String × String) (DuplicateRecord φ)) : Prop :=
  ∀ key record, records.get key = some record → key = (record.symbol, record.eventType)

/-- Every event whose time is not over is under its symbol and type as they were written. -/
def LiveKeyed (now : ℚ) (records : Dict (String × String) (DuplicateRecord φ)) : Prop :=
  ∀ key record, records.get key = some record → now < record.timestamp + record.ttlSeconds →
    key = (record.symbol, record.eventType)

theorem WellKeyed.live {records : Dict (String × String) (DuplicateRecord φ)}
    (keyed : WellKeyed records) (now : ℚ) : LiveKeyed now records :=
  fun key record held _ => keyed key record held

/-- An event is still there, or it has been forgotten after its time was over. -/
def Compacted (now : ℚ) (before after : Dict (String × String) (DuplicateRecord φ)) : Prop :=
  ∀ key, after.get key = before.get key ∨
    after.get key = none ∧ ∃ record, before.get key = some record ∧
      record.timestamp + record.ttlSeconds ≤ now

section Compaction

variable {now : ℚ} {before middle after : Dict (String × String) (DuplicateRecord φ)}

theorem Compacted.refl (now : ℚ) (records : Dict (String × String) (DuplicateRecord φ)) :
    Compacted now records records :=
  fun _ => .inl rfl

theorem Compacted.trans (first : Compacted now before middle)
    (second : Compacted now middle after) : Compacted now before after := by
  intro key
  rcases second key with same | ⟨gone, record, held, past⟩
  · rw [same]
    exact first key
  · rcases first key with kept | ⟨lost, -⟩
    · exact .inr ⟨gone, record, kept ▸ held, past⟩
    · cases lost.symm.trans held

/-- What is left was there before. -/
theorem Compacted.of_get (compacted : Compacted now before after) {key : String × String}
    {record : DuplicateRecord φ} (held : after.get key = some record) :
    before.get key = some record := by
  rcases compacted key with same | ⟨gone, -⟩
  · rw [← same, held]
  · cases gone.symm.trans held

/-- An event whose time is not over stays. -/
theorem Compacted.get_live (compacted : Compacted now before after) {key : String × String}
    {record : DuplicateRecord φ} (held : before.get key = some record)
    (running : now < record.timestamp + record.ttlSeconds) : after.get key = some record := by
  rcases compacted key with same | ⟨-, other, found, past⟩
  · rw [same, held]
  · cases held.symm.trans found
    exact absurd past (not_le.mpr running)

theorem Compacted.wellKeyed (compacted : Compacted now before after) (keyed : WellKeyed before) :
    WellKeyed after :=
  fun key record held => keyed key record (compacted.of_get held)

theorem Compacted.liveKeyed (compacted : Compacted now before after)
    (keyed : LiveKeyed now before) : LiveKeyed now after :=
  fun key record held => keyed key record (compacted.of_get held)

end Compaction

namespace EventFingerprintGuillotine

variable {guillotine : EventFingerprintGuillotine φ}

/-- Forgetting old events leaves those whose time is not over, when they are well keyed. -/
theorem evictStale_get {now : ℚ} (keyed : LiveKeyed now guillotine.records)
    (key : String × String) :
    (guillotine.evictStale now).records.get key = (guillotine.records.get key).filter fun record =>
      decide (now < record.timestamp + record.ttlSeconds) := by
  have kept : ∀ other record,
      (other, record) ∈ (guillotine.records.values.filterMap fun record =>
        if now < record.timestamp + record.ttlSeconds then
          some ((record.symbol, record.eventType), record)
        else none) ↔
      guillotine.records.get other = some record ∧
        now < record.timestamp + record.ttlSeconds := by
    intro other record
    simp only [List.mem_filterMap, Dict.mem_values_iff]
    constructor
    · rintro ⟨found, ⟨place, held⟩, listed⟩
      split at listed
      · rename_i running
        cases listed
        rw [← keyed place record held running]
        exact ⟨held, running⟩
      · cases listed
    · rintro ⟨held, running⟩
      refine ⟨record, ⟨other, held⟩, ?_⟩
      rw [if_pos running, ← keyed other record held running]
  unfold evictStale
  by_cases live : ∃ record, guillotine.records.get key = some record ∧
      now < record.timestamp + record.ttlSeconds
  · rcases live with ⟨record, held, running⟩
    rw [held, Option.filter_some, if_pos (decide_eq_true running)]
    apply Dict.get_update_of_mem _ ((kept _ _).mpr ⟨held, running⟩)
    intro other listed
    exact (Option.some.inj (held.symm.trans ((kept _ _).mp listed).1)).symm
  · have gone : (guillotine.records.get key).filter (fun record =>
        decide (now < record.timestamp + record.ttlSeconds)) = none := by
      rw [Option.filter_eq_none_iff]
      intro record held running
      exact live ⟨record, held, of_decide_eq_true running⟩
    rw [gone, Dict.get_update_of_notMem, Dict.get_empty]
    intro member
    rcases List.mem_map.mp member with ⟨⟨other, found⟩, listed, same⟩
    cases same
    exact live ⟨found, (kept _ _).mp listed⟩

/-- Forgetting old events forgets only those when the others are well keyed. -/
theorem evictStale_compacted {now : ℚ} (keyed : LiveKeyed now guillotine.records) :
    Compacted now guillotine.records (guillotine.evictStale now).records := by
  intro key
  rw [evictStale_get keyed]
  cases held : guillotine.records.get key with
  | none => exact .inl rfl
  | some record =>
      by_cases running : now < record.timestamp + record.ttlSeconds
      · rw [Option.filter_some, if_pos (decide_eq_true running)]
        exact .inl rfl
      · rw [Option.filter_some, if_neg (by simpa using running)]
        exact .inr ⟨rfl, record, rfl, not_lt.mp running⟩

/-- Old events need not be forgotten, or forgetting them is harmless. -/
def Orderly (guillotine : EventFingerprintGuillotine φ) : Prop :=
  (¬ guillotine.Crowded ∧ ¬ guillotine.Full) ∨ WellKeyed guillotine.records

/-- At a time old events need not be forgotten, or forgetting them is harmless then. -/
def OrderlyAt (guillotine : EventFingerprintGuillotine φ) (now : ℚ) : Prop :=
  (¬ guillotine.Crowded ∧ ¬ guillotine.Full) ∨ LiveKeyed now guillotine.records

theorem Orderly.orderlyAt (orderly : guillotine.Orderly) (now : ℚ) : guillotine.OrderlyAt now :=
  orderly.imp_right fun keyed => keyed.live now

theorem OrderlyAt.record {now : ℚ} (orderly : guillotine.OrderlyAt now) (key : String × String)
    (entry : DuplicateRecord φ) :
    ∃ tidy, Compacted now guillotine.records tidy ∧
      (guillotine.record key entry now).records = tidy.set key entry := by
  unfold EventFingerprintGuillotine.record
  by_cases full : guillotine.Full
  · rcases orderly with ⟨-, room⟩ | keyed
    · exact absurd full room
    · rw [if_pos full]
      exact ⟨_, evictStale_compacted keyed, rfl⟩
  · rw [if_neg full]
    exact ⟨_, Compacted.refl now _, rfl⟩

/-- What a check leaves, and when an event is not new. -/
structure Checked (guillotine : EventFingerprintGuillotine φ) (key : String × String)
    (fresh : DuplicateRecord φ) (now : ℚ) (outcome : Bool × EventFingerprintGuillotine φ) :
    Prop where
  keeps : outcome.2.defaultTtl = guillotine.defaultTtl ∧ outcome.2.maxSize = guillotine.maxSize
  repeated : outcome.1 = false ↔ ∃ record, guillotine.records.get key = some record ∧
    now ≤ record.timestamp + record.ttlSeconds ∧ record.fingerprint = fresh.fingerprint
  leaves : ∃ tidy, Compacted now guillotine.records tidy ∧
    outcome.2.records = if outcome.1 then tidy.set key fresh else tidy

/-- The guillotine without the old events, where it is crowded. -/
theorem OrderlyAt.tidy {now : ℚ} (orderly : guillotine.OrderlyAt now) :
    let tidy := if guillotine.Crowded then guillotine.evictStale now else guillotine
    tidy.OrderlyAt now ∧ Compacted now guillotine.records tidy.records ∧
      tidy.defaultTtl = guillotine.defaultTtl ∧ tidy.maxSize = guillotine.maxSize := by
  by_cases crowded : guillotine.Crowded
  · rcases orderly with ⟨room, -⟩ | keyed
    · exact absurd crowded room
    · rw [if_pos crowded]
      have compacted := evictStale_compacted keyed
      exact ⟨.inr (compacted.liveKeyed keyed), compacted, rfl, rfl⟩
  · rw [if_neg crowded]
    exact ⟨orderly, Compacted.refl now _, rfl, rfl⟩

theorem record_keeps (guillotine : EventFingerprintGuillotine φ) (key : String × String)
    (entry : DuplicateRecord φ) (now : ℚ) :
    (guillotine.record key entry now).defaultTtl = guillotine.defaultTtl ∧
      (guillotine.record key entry now).maxSize = guillotine.maxSize := by
  unfold EventFingerprintGuillotine.record
  by_cases full : guillotine.Full
  · rw [if_pos full]
    exact ⟨rfl, rfl⟩
  · rw [if_neg full]
    exact ⟨rfl, rfl⟩

/-- The time for which a check remembers an event.  Without one, or with zero, it is the
default. -/
def ttlOf (guillotine : EventFingerprintGuillotine φ) (ttlSeconds : Option ℚ) : ℚ :=
  match ttlSeconds with
  | some given => if given = 0 then guillotine.defaultTtl else given
  | none => guillotine.defaultTtl

theorem OrderlyAt.checkAndRecord [DecidableEq φ] {now : ℚ} (orderly : guillotine.OrderlyAt now)
    (symbol eventType : String) (fingerprint : φ) (ttlSeconds : Option ℚ)
    (result : Option String) :
    guillotine.Checked (key symbol eventType)
      ⟨symbol, eventType, fingerprint, now, guillotine.ttlOf ttlSeconds, result⟩ now
      (guillotine.checkAndRecord symbol eventType fingerprint now ttlSeconds result) := by
  have checks : guillotine.checkAndRecord symbol eventType fingerprint now ttlSeconds result =
      match guillotine.records.get (key symbol eventType) with
      | none => (true, guillotine.record (key symbol eventType)
          ⟨symbol, eventType, fingerprint, now, guillotine.ttlOf ttlSeconds, result⟩ now)
      | some existing =>
          let tidy := if guillotine.Crowded then guillotine.evictStale now else guillotine
          if existing.timestamp + existing.ttlSeconds < now then
            (true, tidy.record (key symbol eventType)
              ⟨symbol, eventType, fingerprint, now, guillotine.ttlOf ttlSeconds, result⟩ now)
          else if existing.fingerprint = fingerprint then (false, tidy)
          else (true, { tidy with
            records := tidy.records.set (key symbol eventType)
              ⟨symbol, eventType, fingerprint, now, guillotine.ttlOf ttlSeconds, result⟩ }) := rfl
  rw [checks]
  generalize fresh_eq :
    (⟨symbol, eventType, fingerprint, now, guillotine.ttlOf ttlSeconds, result⟩ :
      DuplicateRecord φ) = fresh
  have own : fresh.fingerprint = fingerprint := by rw [← fresh_eq]
  cases held : guillotine.records.get (key symbol eventType) with
  | none =>
      refine ⟨record_keeps _ _ _ _, ?_, ?_⟩
      · simp [held]
      · rcases orderly.record (key symbol eventType) fresh with ⟨tidy, compacted, left⟩
        exact ⟨tidy, compacted, left⟩
  | some existing =>
      rcases orderly.tidy with ⟨tidyOrderly, compacted, ttl, size⟩
      dsimp only
      split
      · rename_i expired
        rcases tidyOrderly.record (key symbol eventType) fresh with ⟨tidy, again, left⟩
        have keeps := record_keeps
          (if guillotine.Crowded then guillotine.evictStale now else guillotine)
          (key symbol eventType) fresh now
        refine ⟨⟨keeps.1.trans ttl, keeps.2.trans size⟩, ?_, tidy, compacted.trans again, left⟩
        simp [held, not_le.mpr expired]
      · rename_i running
        split
        · rename_i same
          refine ⟨⟨ttl, size⟩, ?_, _, compacted, rfl⟩
          simp [held, not_lt.mp running, same, own]
        · rename_i different
          refine ⟨⟨ttl, size⟩, ?_, _, compacted, rfl⟩
          simp [held, different, own]

theorem Orderly.checkAndRecord [DecidableEq φ] (orderly : guillotine.Orderly)
    (symbol eventType : String) (fingerprint : φ) (now : ℚ) (result : Option String) :
    guillotine.Checked (key symbol eventType)
      ⟨symbol, eventType, fingerprint, now, guillotine.defaultTtl, result⟩ now
      (guillotine.checkAndRecord symbol eventType fingerprint now none result) :=
  (orderly.orderlyAt now).checkAndRecord symbol eventType fingerprint none result

/-- A check remembers at most one more event. -/
theorem Checked.count_le {key : String × String} {fresh : DuplicateRecord φ} {now : ℚ}
    {outcome : Bool × EventFingerprintGuillotine φ}
    (checked : guillotine.Checked key fresh now outcome) :
    outcome.2.count ≤ guillotine.count + 1 := by
  have known : outcome.2.records.keys ⊆ key :: guillotine.records.keys := by
    rcases checked.leaves with ⟨tidy, compacted, left⟩
    have kept : ∀ other ∈ tidy.keys, other ∈ guillotine.records.keys := by
      intro other member
      rcases (Dict.mem_keys_iff _ _).mp member with ⟨record, held⟩
      exact (Dict.mem_keys_iff _ _).mpr ⟨record, compacted.of_get held⟩
    intro other member
    rw [left] at member
    split at member
    · rcases (Dict.mem_keys_set _ _ _ _).mp member with rfl | before
      · exact List.mem_cons_self
      · exact .tail _ (kept other before)
    · exact .tail _ (kept other member)
  have shorter := (List.subperm_of_subset outcome.2.records.distinct known).length_le
  rw [Dict.keys, List.length_cons] at shorter
  simpa [count] using shorter

/-- Events under their own symbols and types stay there. -/
theorem Checked.wellKeyed {key : String × String} {fresh : DuplicateRecord φ} {now : ℚ}
    {outcome : Bool × EventFingerprintGuillotine φ}
    (checked : guillotine.Checked key fresh now outcome)
    (keyed : WellKeyed guillotine.records) (own : key = (fresh.symbol, fresh.eventType)) :
    WellKeyed outcome.2.records := by
  rcases checked.leaves with ⟨tidy, compacted, left⟩
  intro other record held
  rw [left] at held
  split at held
  · rw [Dict.get_set] at held
    split at held
    · rename_i same
      cases held
      rw [same, own]
    · exact compacted.wellKeyed keyed other record held
  · exact compacted.wellKeyed keyed other record held

end EventFingerprintGuillotine

end Checks

/-- An event that can trigger a trade passes when it is new. -/
theorem EventGate.check_of_trigger (gate : EventGate) {eventType : String} (symbol : String)
    (fingerprint : EventFingerprint) (now : ℚ)
    (trigger : classifyEventClass (Text.upper eventType) = .tradeTrigger) :
    let checked := gate.fingerprints.checkAndRecord symbol (Text.upper eventType) fingerprint now
      none none
    (gate.check eventType symbol fingerprint now).1.1 = checked.1 ∧
      (gate.check eventType symbol fingerprint now).2 = ⟨checked.2⟩ := by
  intro checked
  unfold EventGate.check
  rw [if_neg (by simp [trigger])]
  dsimp only
  split
  · rename_i passes
    exact ⟨passes.symm, rfl⟩
  · rename_i stopped
    exact ⟨(Bool.eq_false_of_not_eq_true stopped).symm, rfl⟩

/-- Another event is stopped, and the gate stays as it is. -/
theorem EventGate.check_of_not_trigger (gate : EventGate) {eventType : String} (symbol : String)
    (fingerprint : EventFingerprint) (now : ℚ)
    (other : classifyEventClass (Text.upper eventType) ≠ .tradeTrigger) :
    (gate.check eventType symbol fingerprint now).1.1 = false ∧
      (gate.check eventType symbol fingerprint now).2 = gate := by
  unfold EventGate.check
  rw [if_pos other]
  exact ⟨rfl, rfl⟩

end EaBot.Trading
