import EaBot.Foundation.Run
import EaBot.Trading.EventGate

/-!
# Duplicate suppression over a history

The guard is asked about events with any symbols, types, fingerprints and times to live, while
the clock does not run backwards.  An event that it accepted and whose time is not over is owed a
refusal, as long as fewer keys than the guard has room for were recorded since.

The guard holds one record for each symbol and type, and it moves the records to their symbols
as written when it forgets old ones.  So the refusal comes when the last accepted event of the
key has the fingerprint and no move takes a record away, and the size holds when a new key finds
room.
-/

namespace EaBot.Trading.DuplicateGuard

open EaBot.Foundation

variable {φ : Type}

/-! ## Histories -/

/-- A call of the guard and the time at which it is made. -/
structure Call (φ : Type) where
  symbol : String
  eventType : String
  fingerprint : φ
  ttlSeconds : Option ℚ
  result : Option String
  now : ℚ

/-- What the event of a call is remembered under. -/
def Call.key (call : Call φ) : String × String :=
  EventFingerprintGuillotine.key call.symbol call.eventType

/-- An event that was accepted, and the end of its time. -/
structure Accepted (φ : Type) where
  key : String × String
  fingerprint : φ
  ends : ℚ
deriving DecidableEq

/-- The guard and the events that it accepted, the newest first. -/
structure Watched (φ : Type) where
  guillotine : EventFingerprintGuillotine φ
  accepted : List (Accepted φ)

/-- A guard that has accepted nothing. -/
def start (defaultTtl : ℚ) (maxSize : Int) : Watched φ :=
  ⟨⟨defaultTtl, maxSize, Dict.empty⟩, []⟩

/-- The record of a call that is accepted. -/
def fresh (guillotine : EventFingerprintGuillotine φ) (call : Call φ) : DuplicateRecord φ :=
  ⟨call.symbol, call.eventType, call.fingerprint, call.now, guillotine.ttlOf call.ttlSeconds,
    call.result⟩

/-- A record's event and the end of its time. -/
def acceptedOf (key : String × String) (record : DuplicateRecord φ) : Accepted φ :=
  ⟨key, record.fingerprint, record.timestamp + record.ttlSeconds⟩

variable [DecidableEq φ]

/-- What the guard answers to a call. -/
def ask (guillotine : EventFingerprintGuillotine φ) (call : Call φ) :
    Bool × EventFingerprintGuillotine φ :=
  guillotine.checkAndRecord call.symbol call.eventType call.fingerprint call.now call.ttlSeconds
    call.result

/-- A call of the guard. -/
def step (watched : Watched φ) (call : Call φ) : Watched φ :=
  let asked := ask watched.guillotine call
  { guillotine := asked.2
    accepted :=
      if asked.1 then acceptedOf call.key (fresh watched.guillotine call) :: watched.accepted
      else watched.accepted }

/-! ## What is asked of the guard -/

/-- The event of a call was accepted less than its time to live ago, and fewer keys than the
guard has room for were recorded since. -/
def Owed (watched : Watched φ) (call : Call φ) : Prop :=
  ∃ newer event older, watched.accepted = newer ++ event :: older ∧
    event.key = call.key ∧ event.fingerprint = call.fingerprint ∧ call.now < event.ends ∧
    ((newer.map Accepted.key).dedup.length : Int) < watched.guillotine.maxSize

/-- A call is refused where a refusal is owed, and leaves no more records than there is room
for. -/
def Right (watched : Watched φ) (call : Call φ) : Prop :=
  (Owed watched call → (ask watched.guillotine call).1 = false) ∧
    ((ask watched.guillotine call).2.count : Int) ≤ watched.guillotine.maxSize

/-- The condition on the state that a call finds. -/
structure Meets (watched : Watched φ) (call : Call φ) : Prop where
  /-- No old records need to be forgotten, or those whose time is not over stay in place. -/
  orderly : watched.guillotine.OrderlyAt call.now
  /-- Where a refusal is owed, the last event of the key that was accepted has the fingerprint,
  and its time is not over. -/
  newest : Owed watched call →
    ∃ last, (watched.accepted.find? fun event => event.key = call.key) = some last ∧
      last.fingerprint = call.fingerprint ∧ call.now < last.ends
  /-- There is room, or the key is known, or the time of some record is over. -/
  room : ¬ watched.guillotine.Full ∨ call.key ∈ watched.guillotine.records.keys ∨
    ∃ key record, watched.guillotine.records.get key = some record ∧
      record.timestamp + record.ttlSeconds ≤ call.now

/-! ## What is remembered -/

omit [DecidableEq φ] in
theorem count_le_of_subset {guillotine : EventFingerprintGuillotine φ}
    {keys : List (String × String)} (within : guillotine.records.keys ⊆ keys) :
    guillotine.count ≤ keys.length := by
  have shorter := (List.subperm_of_subset guillotine.records.distinct within).length_le
  simpa [EventFingerprintGuillotine.count, Dict.keys] using shorter

omit [DecidableEq φ] in
theorem length_keys (guillotine : EventFingerprintGuillotine φ) :
    guillotine.records.keys.length = guillotine.count :=
  List.length_map _

omit [DecidableEq φ] in
/-- Forgetting old events makes room when the time of one is over. -/
theorem count_evictStale_lt {guillotine : EventFingerprintGuillotine φ} {now : ℚ}
    (keyed : LiveKeyed now guillotine.records) {key : String × String}
    {record : DuplicateRecord φ} (held : guillotine.records.get key = some record)
    (past : record.timestamp + record.ttlSeconds ≤ now) :
    (guillotine.evictStale now).count < guillotine.count := by
  have known : key ∈ guillotine.records.keys := (Dict.mem_keys_iff _ _).mpr ⟨record, held⟩
  have within : (guillotine.evictStale now).records.keys ⊆ guillotine.records.keys.erase key := by
    intro other member
    rcases (Dict.mem_keys_iff _ _).mp member with ⟨left, stays⟩
    rw [EventFingerprintGuillotine.evictStale_get keyed, Option.filter_eq_some_iff] at stays
    have apart : other ≠ key := by
      rintro rfl
      cases held.symm.trans stays.1
      exact absurd (of_decide_eq_true stays.2) (not_lt.mpr past)
    exact (List.mem_erase_of_ne apart).mpr ((Dict.mem_keys_iff _ _).mpr ⟨left, stays.1⟩)
  have shorter := count_le_of_subset within
  have some := List.length_pos_of_mem known
  rw [List.length_erase_of_mem known, length_keys] at shorter
  rw [length_keys] at some
  omega

/-- A call leaves no more records than there is room for. -/
theorem count_ask {watched : Watched φ} {call : Call φ} (meets : Meets watched call)
    (bounded : (watched.guillotine.count : Int) ≤ watched.guillotine.maxSize) :
    ((ask watched.guillotine call).2.count : Int) ≤ watched.guillotine.maxSize := by
  have checked : watched.guillotine.Checked call.key (fresh watched.guillotine call) call.now
      (ask watched.guillotine call) :=
    meets.orderly.checkAndRecord call.symbol call.eventType call.fingerprint call.ttlSeconds
      call.result
  by_cases known : call.key ∈ watched.guillotine.records.keys
  · have within :
        (ask watched.guillotine call).2.records.keys ⊆ watched.guillotine.records.keys := by
      rcases checked.leaves with ⟨tidy, compacted, left⟩
      have kept : ∀ other ∈ tidy.keys, other ∈ watched.guillotine.records.keys := by
        intro other member
        rcases (Dict.mem_keys_iff _ _).mp member with ⟨record, held⟩
        exact (Dict.mem_keys_iff _ _).mpr ⟨record, compacted.of_get held⟩
      intro other member
      rw [left] at member
      split at member
      · rcases (Dict.mem_keys_set _ _ _ _).mp member with rfl | before
        · exact known
        · exact kept other before
      · exact kept other member
    have shorter := count_le_of_subset within
    rw [length_keys] at shorter
    omega
  · have more := checked.count_le
    by_cases full : watched.guillotine.Full
    · rcases meets.room with notFull | isKnown | ⟨key, record, held, past⟩
      · exact absurd full notFull
      · exact absurd isKnown known
      · have keyed : LiveKeyed call.now watched.guillotine.records := by
          rcases meets.orderly with ⟨-, notFull⟩ | keyed
          · exact absurd full notFull
          · exact keyed
        have fewer := count_evictStale_lt keyed held past
        have unknown := (Dict.get_eq_none_iff _ _).mpr known
        have recorded : (ask watched.guillotine call).2.records =
            (watched.guillotine.evictStale call.now).records.set call.key
              (fresh watched.guillotine call) := by
          unfold ask EventFingerprintGuillotine.checkAndRecord
          rw [Call.key] at unknown
          simp only [unknown]
          unfold EventFingerprintGuillotine.record
          rw [if_pos full]
          rfl
        have atMost : (ask watched.guillotine call).2.records.keys ⊆
            call.key :: (watched.guillotine.evictStale call.now).records.keys := by
          intro other member
          rw [recorded] at member
          rcases (Dict.mem_keys_set _ _ _ _).mp member with rfl | before
          · exact List.mem_cons_self
          · exact .tail _ before
        have shorter := count_le_of_subset atMost
        rw [List.length_cons, length_keys] at shorter
        omega
    · unfold EventFingerprintGuillotine.Full at full
      omega

/-- The last event of every key that was accepted is remembered for its time. -/
def Recorded (clock : ℚ) (accepted : List (Accepted φ))
    (records : Dict (String × String) (DuplicateRecord φ)) : Prop :=
  ∀ key last, (accepted.find? fun event => event.key = key) = some last → clock < last.ends →
    ∃ record, records.get key = some record ∧ acceptedOf key record = last

omit [DecidableEq φ] in
/-- Forgetting old events keeps what is still needed. -/
theorem Recorded.compacted {clock now : ℚ} {accepted : List (Accepted φ)}
    {before after : Dict (String × String) (DuplicateRecord φ)}
    (recorded : Recorded clock accepted before) (onwards : clock ≤ now)
    (compacted : Compacted now before after) : Recorded now accepted after := by
  intro key last found running
  rcases recorded key last found (onwards.trans_lt running) with ⟨record, held, same⟩
  refine ⟨record, compacted.get_live held ?_, same⟩
  rw [← same] at running
  exact running

/-- A call keeps the last event of every key. -/
theorem Recorded.step {clock : ℚ} {watched : Watched φ} {call : Call φ}
    (recorded : Recorded clock watched.accepted watched.guillotine.records)
    (onwards : clock ≤ call.now) (meets : Meets watched call) :
    Recorded call.now (step watched call).accepted (step watched call).guillotine.records := by
  have checked : watched.guillotine.Checked call.key (fresh watched.guillotine call) call.now
      (ask watched.guillotine call) :=
    meets.orderly.checkAndRecord call.symbol call.eventType call.fingerprint call.ttlSeconds
      call.result
  rcases checked.leaves with ⟨tidy, compacted, left⟩
  have kept := recorded.compacted onwards compacted
  unfold DuplicateGuard.step
  dsimp only
  rw [left]
  cases answer : (ask watched.guillotine call).1 with
  | false => simpa using kept
  | true =>
      simp only [if_true]
      intro key last found running
      rw [List.find?_cons] at found
      rw [Dict.get_set]
      split at found
      case h_1 same =>
          cases found
          have here : call.key = key := of_decide_eq_true same
          subst here
          rw [if_pos rfl]
          exact ⟨_, rfl, rfl⟩
      case h_2 different =>
          have apart : key ≠ call.key := Ne.symm (of_decide_eq_false different)
          rw [if_neg apart]
          exact kept key last found running

/-- A call is refused where the last event of its key is recorded and has its fingerprint. -/
theorem right_of_meets {clock : ℚ} {watched : Watched φ} {call : Call φ}
    (recorded : Recorded clock watched.accepted watched.guillotine.records)
    (bounded : (watched.guillotine.count : Int) ≤ watched.guillotine.maxSize)
    (onwards : clock ≤ call.now) (meets : Meets watched call) : Right watched call := by
  refine ⟨?_, count_ask meets bounded⟩
  intro owed
  have checked : watched.guillotine.Checked call.key (fresh watched.guillotine call) call.now
      (ask watched.guillotine call) :=
    meets.orderly.checkAndRecord call.symbol call.eventType call.fingerprint call.ttlSeconds
      call.result
  rcases meets.newest owed with ⟨last, found, same, running⟩
  rcases recorded call.key last found (onwards.trans_lt running) with ⟨record, held, isLast⟩
  rw [← isLast] at running same
  exact checked.repeated.mpr ⟨record, held, running.le, same⟩

/-! ## Runs -/

theorem maxSize_step {watched : Watched φ} {call : Call φ} (meets : Meets watched call) :
    (step watched call).guillotine.maxSize = watched.guillotine.maxSize :=
  (meets.orderly.checkAndRecord call.symbol call.eventType call.fingerprint call.ttlSeconds
    call.result).keeps.2

/-- In a run from a state that remembers what it accepted, calls that meet the condition are
answered rightly. -/
theorem every_right {clock : ℚ} {watched : Watched φ} {calls : List (Call φ)}
    (recorded : Recorded clock watched.accepted watched.guillotine.records)
    (bounded : (watched.guillotine.count : Int) ≤ watched.guillotine.maxSize)
    (onwards : ∀ call ∈ calls, clock ≤ call.now)
    (inTime : calls.Pairwise fun first second => first.now ≤ second.now)
    (meets : Run.Every step Meets watched calls) : Run.Every step Right watched calls := by
  induction calls generalizing clock watched with
  | nil => trivial
  | cons call rest ih =>
      rcases meets with ⟨now, later⟩
      rcases List.pairwise_cons.mp inTime with ⟨ahead, inTime⟩
      have here := onwards call List.mem_cons_self
      have right := right_of_meets recorded bounded here now
      refine ⟨right, ih (recorded.step here now) ?_ ahead inTime later⟩
      rw [maxSize_step now]
      exact right.2

/-- Over every history with a clock that does not run backwards, a guard whose calls all meet the
condition refuses what it owes a refusal and stays within its size. -/
theorem duplicates_suppressed (defaultTtl : ℚ) (maxSize : Int) (calls : List (Call φ))
    (sized : 0 ≤ maxSize)
    (inTime : calls.Pairwise fun first second => first.now ≤ second.now)
    (meets : Run.Every step Meets (start defaultTtl maxSize) calls) :
    Run.Every step Right (start defaultTtl maxSize) calls := by
  cases calls with
  | nil => trivial
  | cons call rest =>
      have onwards : ∀ later ∈ call :: rest, call.now ≤ later.now := by
        intro later member
        rcases List.mem_cons.mp member with rfl | member
        · exact le_refl _
        · exact (List.pairwise_cons.mp inTime).1 later member
      refine every_right ?_ ?_ onwards inTime meets
      · intro key last found
        cases found
      · exact sized

/-! ### Repeated and alternating events -/

namespace Sample

/-- A breakout of gold with a fingerprint. -/
def breakout (fingerprint : Nat) (now : ℚ) : Call Nat :=
  ⟨"XAUUSD", "BREAKOUT", fingerprint, none, none, now⟩

end Sample

/-- A guard that is asked about the same event twice meets the condition. -/
theorem duplicates_suppressed_breakout :
    Run.Every step Right (start 300 10) [Sample.breakout 1 0, Sample.breakout 1 60] := by
  refine duplicates_suppressed 300 10 _ (by decide) (by decide) ?_
  refine ⟨⟨.inl (by decide), ?_, .inl (by decide)⟩,
    ⟨.inl (by decide), ?_, .inl (by decide)⟩, trivial⟩
  · rintro ⟨newer, event, older, same, -⟩
    exact absurd same.symm (by simp [start])
  · intro _
    exact ⟨_, rfl, rfl, by decide +kernel⟩

/-- Not every history is answered rightly: an event is accepted again when another fingerprint of
its key came between. -/
theorem not_duplicates_suppressed : ¬ ∀ (defaultTtl : ℚ) (maxSize : Int) (calls : List (Call Nat)),
    0 ≤ maxSize → (calls.Pairwise fun first second => first.now ≤ second.now) →
      Run.Every step Right (start defaultTtl maxSize) calls := by
  intro suppressed
  have alternating := suppressed 300 10
    [Sample.breakout 1 0, Sample.breakout 2 1, Sample.breakout 1 2] (by decide) (by decide)
  rcases alternating with ⟨-, -, ⟨refused, -⟩, -⟩
  have owed : Owed (step (step (start 300 10) (Sample.breakout 1 0)) (Sample.breakout 2 1))
      (Sample.breakout 1 2) := by
    refine ⟨[⟨("XAUUSD", "BREAKOUT"), 2, 301⟩], ⟨("XAUUSD", "BREAKOUT"), 1, 300⟩, [], ?_, ?_, rfl,
      ?_, ?_⟩ <;> decide +kernel
  exact absurd (refused owed) (by decide +kernel)

end EaBot.Trading.DuplicateGuard
