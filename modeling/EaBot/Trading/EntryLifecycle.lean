import EaBot.Foundation.Dict
import EaBot.Foundation.Rounding
import EaBot.Foundation.Run

/-!
# The lifecycle of entries

A setup is registered once and may then be claimed for an entry, once for each trigger and
candle.  The claims that were granted are remembered in the record of the setup.  The registry
is bounded: when it is full, the oldest record makes room for a new one.  A setup ends when its
time is over or when a candle closes beyond its zone.
-/

namespace EaBot.Trading

open Foundation Foundation.Text

/-! ## Zones of setups -/

/-- The zone of a setup. -/
structure SetupZone where
  direction : String
  invalidationPrice : ℚ
  invalidationRule : String
  expiresAtTs : ℚ
  mitigation : String
  invalidationReason : Option String
deriving DecidableEq

namespace SetupZone

/-- Whether a close is beyond the boundary of a zone, with the reason. -/
def evaluateInvalidation (shown : ℚ → String) (zone : SetupZone) (closePrice : ℚ) :
    Bool × String :=
  let isLong := ["LONG", "BUY", "BULLISH"].contains (upper zone.direction)
  let boundary := shown zone.invalidationPrice ++ " (" ++ zone.invalidationRule ++ ")"
  if closePrice ≤ 0 then (false, "no close price")
  else if isLong ∧ closePrice < zone.invalidationPrice then
    (true, "LONG invalidated: close " ++ shown closePrice ++ " below invalidation " ++ boundary)
  else if ¬ isLong ∧ zone.invalidationPrice < closePrice then
    (true, "SHORT invalidated: close " ++ shown closePrice ++ " above invalidation " ++ boundary)
  else (false, "close inside invalidation boundary")

/-- Whether the time of a zone is over. -/
def isZoneExpired (zone : SetupZone) (now : ℚ) : Bool :=
  decide (zone.expiresAtTs ≠ 0) && decide (zone.expiresAtTs < now)

/-- The zone that a close has invalidated. -/
def markInvalidated (zone : SetupZone) (reason : String) : SetupZone :=
  { zone with
    mitigation := "INVALIDATED"
    invalidationReason := if reason = "" then zone.invalidationReason else some reason }

end SetupZone

/-! ## The registry -/

/-- The record of a setup. -/
structure SetupRecord where
  setupId : String
  symbol : String
  direction : String
  zone : Option SetupZone
  expiresTs : ℚ
  status : String
  firedKeys : List String
deriving DecidableEq

/-- The statuses of a setup that is over. -/
def terminalStatuses : List String :=
  ["INVALID", "EXPIRED", "CLOSED"]

/-- The registry of the setups. -/
structure EntryLifecycleManager where
  maxRecords : Nat
  records : Dict String SetupRecord

namespace EntryLifecycleManager

section Operations

variable (manager : EntryLifecycleManager)

/-- A registry without setups. -/
def init (maxRecords : Int) : EntryLifecycleManager :=
  ⟨(max 1 maxRecords).toNat, Dict.empty⟩

/-- The records with room for another one. -/
def withRoom : Dict String SetupRecord :=
  if manager.maxRecords ≤ manager.records.entries.length then
    match manager.records.entries with
    | [] => manager.records
    | (oldest, _) :: _ => manager.records.erase oldest
  else manager.records

/-- Register a setup, unless it is registered. -/
def register (setupId symbol direction : String) (zone : Option SetupZone) (expiresTs : ℚ) :
    EntryLifecycleManager :=
  match manager.records.get setupId with
  | some _ => manager
  | none =>
      { manager with
        records := manager.withRoom.set setupId
          { setupId := setupId
            symbol := symbol
            direction := direction
            zone := zone
            expiresTs := expiresTs
            status := "CANDIDATE"
            firedKeys := [] } }

/-- The status of a record at a time, with the reason, and the record with that status. -/
def evaluated (shown : ℚ → String) (record : SetupRecord) (closePrice now : ℚ) :
    (String × String) × SetupRecord :=
  if record.expiresTs ≠ 0 ∧ record.expiresTs < now then
    (("EXPIRED", "setup time expired"), { record with status := "EXPIRED" })
  else
    match record.zone with
    | none => ((record.status, "ok"), record)
    | some zone =>
        if zone.isZoneExpired now then
          (("EXPIRED", "zone time expired"), { record with status := "EXPIRED" })
        else
          let verdict := zone.evaluateInvalidation shown closePrice
          if verdict.1 then
            (("INVALID", verdict.2),
              { record with zone := some (zone.markInvalidated verdict.2), status := "INVALID" })
          else ((record.status, "ok"), record)

/-- The status of a setup, with the reason. -/
def evaluateLifecycle (shown : ℚ → String) (setupId : String) (closePrice now : ℚ) :
    (String × String) × EntryLifecycleManager :=
  match manager.records.get setupId with
  | none => (("UNKNOWN", "setup not registered"), manager)
  | some record =>
      let outcome := evaluated shown record closePrice now
      (outcome.1, { manager with records := manager.records.set setupId outcome.2 })

/-- What a claim is remembered under. -/
def claimKey (triggerId : String) (candleTs : ℚ) : String :=
  triggerId ++ "@" ++ fixedSigned 3 candleTs

/-- Claim the entry of a setup for a trigger and a candle. -/
def claimEntry (setupId triggerId : String) (candleTs : ℚ) : Bool × EntryLifecycleManager :=
  let key := claimKey triggerId candleTs
  match manager.records.get setupId with
  | none => (false, manager)
  | some record =>
      if key ∈ record.firedKeys then (false, manager)
      else
        (true, { manager with
          records := manager.records.set setupId
            { record with firedKeys := record.firedKeys ++ [key] } })

/-- Give a status to a setup. -/
def markStatus (setupId status : String) : EntryLifecycleManager :=
  match manager.records.get setupId with
  | none => manager
  | some record =>
      { manager with records := manager.records.set setupId { record with status := status } }

end Operations

/-! ## What the operations do to a record -/

variable {manager : EntryLifecycleManager}

theorem get_of_get_withRoom {setupId : String} {record : SetupRecord}
    (held : manager.withRoom.get setupId = some record) :
    manager.records.get setupId = some record := by
  unfold withRoom at held
  split at held
  · split at held
    case h_1 => exact held
    case h_2 oldest _ _ _ =>
        rw [Dict.get_erase] at held
        by_cases first : setupId = oldest
        · rw [if_pos first] at held
          exact absurd held (by simp)
        · rwa [if_neg first] at held
  · exact held

/-- The status of a record stays, or the record is over. -/
theorem evaluated_cases (shown : ℚ → String) (record : SetupRecord) (closePrice now : ℚ) :
    let outcome := evaluated shown record closePrice now
    outcome.2.firedKeys = record.firedKeys ∧ outcome.1.1 = outcome.2.status ∧
      (outcome.2.status = record.status ∨ outcome.2.status ∈ terminalStatuses) := by
  unfold evaluated
  dsimp only
  split
  · exact ⟨rfl, rfl, .inr (by simp [terminalStatuses])⟩
  · split
    · exact ⟨rfl, rfl, .inl rfl⟩
    · split
      · exact ⟨rfl, rfl, .inr (by simp [terminalStatuses])⟩
      · split
        · exact ⟨rfl, rfl, .inr (by simp [terminalStatuses])⟩
        · exact ⟨rfl, rfl, .inl rfl⟩

theorem get_set_changed (records : Dict String SetupRecord) (setupId : String)
    (before : SetupRecord) (change : SetupRecord → SetupRecord) (other : String) :
    (records.set setupId (change before)).get other =
      if other = setupId then (some before).map change else records.get other :=
  Dict.get_set _ _ _ _

theorem get_unchanged {records : Dict String SetupRecord} {setupId : String}
    {before : Option SetupRecord} (held : records.get setupId = before)
    {change : SetupRecord → SetupRecord} (same : before.map change = before) (other : String) :
    records.get other = if other = setupId then before.map change else records.get other := by
  by_cases hit : other = setupId
  · rw [if_pos hit, hit, held, same]
  · rw [if_neg hit]

theorem get_evaluateLifecycle (shown : ℚ → String) (setupId : String) (closePrice now : ℚ)
    (other : String) :
    (manager.evaluateLifecycle shown setupId closePrice now).2.records.get other =
      if other = setupId then
        (manager.records.get setupId).map fun record => (evaluated shown record closePrice now).2
      else manager.records.get other := by
  unfold evaluateLifecycle
  cases held : manager.records.get setupId with
  | none => exact get_unchanged held rfl other
  | some before =>
      exact get_set_changed _ _ before
        (fun record => (evaluated shown record closePrice now).2) other

theorem get_markStatus (setupId status other : String) :
    (manager.markStatus setupId status).records.get other =
      if other = setupId then
        (manager.records.get setupId).map fun record => { record with status := status }
      else manager.records.get other := by
  unfold markStatus
  cases held : manager.records.get setupId with
  | none => exact get_unchanged held rfl other
  | some before =>
      exact get_set_changed _ _ before (fun record => { record with status := status }) other

/-- The record after a claim. -/
def claimed (key : String) (record : SetupRecord) : SetupRecord :=
  if key ∈ record.firedKeys then record
  else { record with firedKeys := record.firedKeys ++ [key] }

theorem mem_firedKeys_claimed (key : String) (record : SetupRecord) :
    key ∈ (claimed key record).firedKeys := by
  unfold claimed
  split
  · assumption
  · exact List.mem_append_right _ List.mem_cons_self

theorem firedKeys_subset_claimed (key : String) (record : SetupRecord) :
    record.firedKeys ⊆ (claimed key record).firedKeys := by
  unfold claimed
  split
  · exact List.Subset.refl _
  · exact List.subset_append_left _ _

theorem status_claimed (key : String) (record : SetupRecord) :
    (claimed key record).status = record.status := by
  unfold claimed
  split <;> rfl

theorem get_claimEntry (setupId triggerId : String) (candleTs : ℚ) (other : String) :
    (manager.claimEntry setupId triggerId candleTs).2.records.get other =
      if other = setupId then
        (manager.records.get setupId).map (claimed (claimKey triggerId candleTs))
      else manager.records.get other := by
  unfold claimEntry
  dsimp only
  cases held : manager.records.get setupId with
  | none => exact get_unchanged held rfl other
  | some before =>
      dsimp only
      by_cases fired : claimKey triggerId candleTs ∈ before.firedKeys
      · rw [if_pos fired]
        exact get_unchanged held (by rw [Option.map_some, claimed, if_pos fired]) other
      · have changed := get_set_changed manager.records setupId before
          (claimed (claimKey triggerId candleTs)) other
        rw [if_neg fired]
        rwa [claimed, if_neg fired] at changed

/-- A claim is granted when the record of the setup does not remember it. -/
theorem claimEntry_eq_true {setupId triggerId : String} {candleTs : ℚ}
    (granted : (manager.claimEntry setupId triggerId candleTs).1 = true) :
    ∃ record, manager.records.get setupId = some record ∧
      claimKey triggerId candleTs ∉ record.firedKeys := by
  unfold claimEntry at granted
  dsimp only at granted
  cases held : manager.records.get setupId with
  | none =>
      rw [held] at granted
      exact absurd granted (by simp)
  | some record =>
      rw [held] at granted
      refine ⟨record, rfl, fun fired => ?_⟩
      simp only [if_pos fired] at granted
      exact absurd granted (by simp)

end EntryLifecycleManager

/-! ## Runs of the registry -/

namespace EntryClaims

/-- The calls of the registry. -/
inductive Call
  | register (setupId symbol direction : String) (zone : Option SetupZone) (expiresTs : ℚ)
  | evaluateLifecycle (setupId : String) (closePrice now : ℚ)
  | markStatus (setupId status : String)
  | claimEntry (setupId triggerId : String) (candleTs : ℚ)

/-- A claim that was granted, with the time of its candle in milliseconds. -/
structure Grant where
  setupId : String
  triggerId : String
  candleTs : ℚ
deriving DecidableEq

/-- The registry, the claims that it granted, and the setups that were over at some time. -/
structure Watched where
  manager : EntryLifecycleManager
  granted : List Grant
  ended : List String

/-- A registry without setups. -/
def start (maxRecords : Int) : Watched :=
  ⟨EntryLifecycleManager.init maxRecords, [], []⟩

/-- The registry after a call. -/
def perform (shown : ℚ → String) (manager : EntryLifecycleManager) :
    Call → EntryLifecycleManager
  | .register setupId symbol direction zone expiresTs =>
      manager.register setupId symbol direction zone expiresTs
  | .evaluateLifecycle setupId closePrice now =>
      (manager.evaluateLifecycle shown setupId closePrice now).2
  | .markStatus setupId status => manager.markStatus setupId status
  | .claimEntry setupId triggerId candleTs => (manager.claimEntry setupId triggerId candleTs).2

/-- The claim that a call is granted. -/
def grants (manager : EntryLifecycleManager) : Call → List Grant
  | .claimEntry setupId triggerId candleTs =>
      if (manager.claimEntry setupId triggerId candleTs).1 then
        [⟨setupId, triggerId, roundTo 3 candleTs⟩]
      else []
  | _ => []

/-- The setups that are over. -/
def overSetups (manager : EntryLifecycleManager) : List String :=
  (manager.records.entries.filter fun entry => entry.2.status ∈ terminalStatuses).map Prod.fst

/-- A call of the registry. -/
def step (shown : ℚ → String) (watched : Watched) (call : Call) : Watched :=
  let manager := perform shown watched.manager call
  ⟨manager, grants watched.manager call ++ watched.granted, overSetups manager ++ watched.ended⟩

/-- The answer for a setup that is registered and not over. -/
def Live (answer : String × String) : Prop :=
  answer ≠ ("UNKNOWN", "setup not registered") ∧ answer.1 ∉ terminalStatuses

/-- A claim is granted once, and not for a setup that is over; a setup that was over is never
found alive. -/
def Exclusive (shown : ℚ → String) (watched : Watched) : Call → Prop
  | .claimEntry setupId triggerId candleTs =>
      (watched.manager.claimEntry setupId triggerId candleTs).1 = true →
        ⟨setupId, triggerId, roundTo 3 candleTs⟩ ∉ watched.granted ∧
        ∀ record ∈ watched.manager.records.get setupId, record.status ∉ terminalStatuses
  | .evaluateLifecycle setupId closePrice now =>
      setupId ∈ watched.ended →
        ¬ Live (watched.manager.evaluateLifecycle shown setupId closePrice now).1
  | _ => True

instance (shown : ℚ → String) (watched : Watched) : DecidablePred (Exclusive shown watched)
  | .register _ _ _ _ _ => isTrue trivial
  | .evaluateLifecycle setupId closePrice now =>
      inferInstanceAs (Decidable (setupId ∈ watched.ended →
        ¬ (_ ≠ ("UNKNOWN", "setup not registered") ∧
          (watched.manager.evaluateLifecycle shown setupId closePrice now).1.1 ∉
            terminalStatuses)))
  | .markStatus _ _ => isTrue trivial
  | .claimEntry setupId triggerId candleTs =>
      inferInstanceAs (Decidable (_ = true →
        (⟨setupId, triggerId, roundTo 3 candleTs⟩ : Grant) ∉ watched.granted ∧
        ∀ record ∈ watched.manager.records.get setupId, record.status ∉ terminalStatuses))

/-- A time that is not a negative one that becomes zero. -/
def Timed (candleTs : ℚ) : Prop :=
  ¬ (candleTs < 0 ∧ roundTo 3 candleTs = 0)

instance : DecidablePred Timed :=
  fun _ => inferInstanceAs (Decidable (¬ _))

/-- A setup that was granted a claim or that was over is not registered anew; a claim is made
for a setup that is not over, or again; and no setup that is over gets another kind of
status. -/
def Allowed (watched : Watched) : Call → Prop
  | .register setupId _ _ _ _ =>
      watched.manager.records.get setupId = none →
        (∀ grant ∈ watched.granted, grant.setupId ≠ setupId) ∧ setupId ∉ watched.ended
  | .evaluateLifecycle _ _ _ => True
  | .markStatus setupId status =>
      ∀ record ∈ watched.manager.records.get setupId,
        record.status ∈ terminalStatuses → status ∈ terminalStatuses
  | .claimEntry setupId triggerId candleTs =>
      Timed candleTs ∧
      ∀ record ∈ watched.manager.records.get setupId,
        record.status ∈ terminalStatuses →
          EntryLifecycleManager.claimKey triggerId candleTs ∈ record.firedKeys

instance (watched : Watched) : DecidablePred (Allowed watched)
  | .register setupId _ _ _ _ =>
      inferInstanceAs (Decidable (watched.manager.records.get setupId = none →
        (∀ grant ∈ watched.granted, grant.setupId ≠ setupId) ∧ setupId ∉ watched.ended))
  | .evaluateLifecycle _ _ _ => isTrue trivial
  | .markStatus setupId status =>
      inferInstanceAs (Decidable (∀ record ∈ watched.manager.records.get setupId,
        record.status ∈ terminalStatuses → status ∈ terminalStatuses))
  | .claimEntry setupId triggerId candleTs =>
      inferInstanceAs (Decidable (Timed candleTs ∧
        ∀ record ∈ watched.manager.records.get setupId,
          record.status ∈ terminalStatuses →
            EntryLifecycleManager.claimKey triggerId candleTs ∈ record.firedKeys))

/-- The registry remembers the claims and the ends of the setups that it holds. -/
structure Remembers (watched : Watched) : Prop where
  fired : ∀ grant ∈ watched.granted, ∃ candleTs, roundTo 3 candleTs = grant.candleTs ∧
    Timed candleTs ∧ ∀ record, watched.manager.records.get grant.setupId = some record →
      EntryLifecycleManager.claimKey grant.triggerId candleTs ∈ record.firedKeys
  ended : ∀ setupId ∈ watched.ended, ∀ record,
    watched.manager.records.get setupId = some record → record.status ∈ terminalStatuses

variable {shown : ℚ → String} {watched : Watched}

/-- A record has kept its claims, and its status when the setup was over. -/
structure Grows (before record : SetupRecord) : Prop where
  fired : before.firedKeys ⊆ record.firedKeys
  ended : before.status ∈ terminalStatuses → record.status ∈ terminalStatuses

theorem Grows.refl (record : SetupRecord) : Grows record record :=
  ⟨List.Subset.refl _, id⟩

/-- A record of a registry in which one record has changed. -/
theorem exists_grows_of_changed {records : Dict String SetupRecord} {changedId setupId : String}
    {change : SetupRecord → SetupRecord} {record : SetupRecord}
    (grows : ∀ before, records.get changedId = some before → Grows before (change before))
    (held : (if setupId = changedId then (records.get changedId).map change
      else records.get setupId) = some record) :
    ∃ before, records.get setupId = some before ∧ Grows before record := by
  by_cases hit : setupId = changedId
  · subst hit
    rw [if_pos rfl, Option.map_eq_some_iff] at held
    obtain ⟨before, present, rfl⟩ := held
    exact ⟨before, present, grows before present⟩
  · rw [if_neg hit] at held
    exact ⟨record, held, Grows.refl record⟩

theorem grows_evaluated (record : SetupRecord) (closePrice now : ℚ) :
    Grows record (EntryLifecycleManager.evaluated shown record closePrice now).2 := by
  obtain ⟨fired, -, same | ended⟩ :=
    EntryLifecycleManager.evaluated_cases shown record closePrice now
  · exact ⟨fired ▸ List.Subset.refl _, fun over_ => same ▸ over_⟩
  · exact ⟨fired ▸ List.Subset.refl _, fun _ => ended⟩

/-- A record after a call has grown from the one before, or its setup was never granted a claim
and never over. -/
theorem record_source {call : Call} (allowed : Allowed watched call) {setupId : String}
    {record : SetupRecord}
    (held : (perform shown watched.manager call).records.get setupId = some record) :
    (∃ before, watched.manager.records.get setupId = some before ∧ Grows before record) ∨
    ((∀ grant ∈ watched.granted, grant.setupId ≠ setupId) ∧ setupId ∉ watched.ended) := by
  cases call with
  | register registered symbol direction zone expiresTs =>
      simp only [perform, EntryLifecycleManager.register] at held
      cases present : watched.manager.records.get registered with
      | some _ =>
          rw [present] at held
          exact .inl ⟨record, held, Grows.refl record⟩
      | none =>
          rw [present] at held
          dsimp only at held
          rw [Dict.get_set] at held
          by_cases same : setupId = registered
          · subst same
            exact .inr (allowed present)
          · rw [if_neg same] at held
            exact .inl ⟨record, EntryLifecycleManager.get_of_get_withRoom held, Grows.refl record⟩
  | evaluateLifecycle evaluated closePrice now =>
      rw [perform, EntryLifecycleManager.get_evaluateLifecycle] at held
      exact .inl (exists_grows_of_changed (fun before _ => grows_evaluated before closePrice now)
        held)
  | markStatus marked status =>
      rw [perform, EntryLifecycleManager.get_markStatus] at held
      have grows (before) (present : watched.manager.records.get marked = some before) :
          Grows before { before with status := status } :=
        ⟨List.Subset.refl _, allowed before present⟩
      exact .inl (exists_grows_of_changed grows held)
  | claimEntry claimed triggerId candleTs =>
      rw [perform, EntryLifecycleManager.get_claimEntry] at held
      refine .inl (exists_grows_of_changed (fun before _ => ⟨?_, fun over_ => ?_⟩) held)
      · exact EntryLifecycleManager.firedKeys_subset_claimed _ before
      · rwa [EntryLifecycleManager.status_claimed]

theorem mem_overSetups {manager : EntryLifecycleManager} {setupId : String} :
    setupId ∈ overSetups manager ↔
      ∃ record, manager.records.get setupId = some record ∧
        record.status ∈ terminalStatuses := by
  unfold overSetups
  rw [List.mem_map]
  constructor
  · rintro ⟨⟨key, record⟩, member, rfl⟩
    obtain ⟨present, over_⟩ := List.mem_filter.mp member
    exact ⟨record, (Dict.mem_entries_iff _ _ _).mp present, of_decide_eq_true over_⟩
  · rintro ⟨record, held, over_⟩
    exact ⟨(setupId, record), List.mem_filter.mpr
      ⟨(Dict.mem_entries_iff _ _ _).mpr held, decide_eq_true over_⟩, rfl⟩

theorem Remembers.start (maxRecords : Int) : Remembers (start maxRecords) :=
  ⟨fun _ member => absurd member List.not_mem_nil, fun _ member => absurd member List.not_mem_nil⟩

theorem Remembers.grant {call : Call} (allowed : Allowed watched call) {grant : Grant}
    (granted : grant ∈ grants watched.manager call) :
    ∃ candleTs, roundTo 3 candleTs = grant.candleTs ∧ Timed candleTs ∧
      ∀ record, (perform shown watched.manager call).records.get grant.setupId = some record →
        EntryLifecycleManager.claimKey grant.triggerId candleTs ∈ record.firedKeys := by
  cases call with
  | claimEntry setupId triggerId candleTs =>
      simp only [grants] at granted
      split at granted
      · rw [List.mem_singleton] at granted
        subst granted
        refine ⟨candleTs, rfl, allowed.1, fun record held => ?_⟩
        rw [perform, EntryLifecycleManager.get_claimEntry, if_pos rfl,
          Option.map_eq_some_iff] at held
        obtain ⟨before, -, rfl⟩ := held
        exact EntryLifecycleManager.mem_firedKeys_claimed _ before
      · exact absurd granted List.not_mem_nil
  | register | evaluateLifecycle | markStatus => exact absurd granted List.not_mem_nil

theorem Remembers.step (remembers : Remembers watched) {call : Call}
    (allowed : Allowed watched call) : Remembers (step shown watched call) where
  fired := by
    intro grant member
    rcases List.mem_append.mp member with new | earlier
    · exact Remembers.grant allowed new
    · obtain ⟨candleTs, rounded, timed, fired⟩ := remembers.fired grant earlier
      refine ⟨candleTs, rounded, timed, fun record held => ?_⟩
      rcases record_source allowed held with ⟨before, present, grows⟩ | ⟨unclaimed, -⟩
      · exact grows.fired (fired before present)
      · exact absurd rfl (unclaimed grant earlier)
  ended := by
    intro setupId member record held
    rcases List.mem_append.mp member with now | earlier
    · obtain ⟨other, present, over_⟩ := mem_overSetups.mp now
      have same : record = other := Option.some.inj (held.symm.trans present)
      exact same ▸ over_
    · rcases record_source allowed held with ⟨before, present, grows⟩ | ⟨-, alive⟩
      · exact grows.ended (remembers.ended setupId earlier before present)
      · exact absurd earlier alive

/-- A registry that remembers its claims and ends grants nothing twice and finds nothing that was
over alive. -/
theorem Remembers.exclusive (remembers : Remembers watched) {call : Call}
    (allowed : Allowed watched call) : Exclusive shown watched call := by
  cases call with
  | register | markStatus => trivial
  | evaluateLifecycle setupId closePrice now =>
      intro ended live
      unfold EntryLifecycleManager.evaluateLifecycle at live
      cases held : watched.manager.records.get setupId with
      | none =>
          rw [held] at live
          exact live.1 rfl
      | some record =>
          rw [held] at live
          obtain ⟨-, shownStatus, -⟩ :=
            EntryLifecycleManager.evaluated_cases shown record closePrice now
          apply live.2
          rw [shownStatus]
          exact (grows_evaluated record closePrice now).ended
            (remembers.ended setupId ended record held)
  | claimEntry setupId triggerId candleTs =>
      intro granted
      obtain ⟨record, held, unclaimed⟩ := EntryLifecycleManager.claimEntry_eq_true granted
      constructor
      · intro earlier
        obtain ⟨claimedTs, rounded, timed, fired⟩ := remembers.fired _ earlier
        apply unclaimed
        have sameKey : EntryLifecycleManager.claimKey triggerId candleTs =
            EntryLifecycleManager.claimKey triggerId claimedTs := by
          unfold EntryLifecycleManager.claimKey
          rw [fixedSigned_congr rounded.symm allowed.1 timed]
        rw [sameKey]
        exact fired record held
      · intro other present over_
        rw [held] at present
        cases present
        exact unclaimed (allowed.2 record held over_)

/-- In every run of allowed calls, each claim is granted once at most and to no setup that is
over, and no setup that was over is found alive. -/
theorem every_exclusive (shown : ℚ → String) (maxRecords : Int) (calls : List Call)
    (allowed : Run.Every (step shown) Allowed (start maxRecords) calls) :
    Run.Every (step shown) (Exclusive shown) (start maxRecords) calls :=
  allowed.of_invariant Remembers (Remembers.start maxRecords)
    (fun _ _ remembers allowed => remembers.step allowed)
    (fun _ _ remembers allowed => remembers.exclusive allowed)

/-! ### A setup that ends, and registries that forget -/

/-- The zone of a long setup. -/
def longZone : SetupZone :=
  ⟨"LONG", 51 / 5, "close below OB low", 0, "FRESH", none⟩

/-- Two setups with room for one record: the first one is claimed twice, ends, and makes room for
the second one. -/
def orderlyCalls : List Call :=
  [.register "s1" "XAUUSD" "LONG" (some longZone) 0, .claimEntry "s1" "micro_bos" 1000,
    .claimEntry "s1" "micro_bos" 1000, .claimEntry "s1" "micro_bos" 1001,
    .evaluateLifecycle "s1" 10 1010, .claimEntry "s1" "micro_bos" 1000,
    .evaluateLifecycle "s1" 12 1020, .markStatus "s1" "CLOSED",
    .register "s2" "XAUUSD" "LONG" (some longZone) 0, .claimEntry "s2" "micro_bos" 1000]

theorem every_exclusive_orderlyCalls :
    Run.Every (step fun _ => "10.0") (Exclusive fun _ => "10.0") (start 1) orderlyCalls :=
  every_exclusive _ 1 orderlyCalls (by decide +kernel)

/-- A claim that is granted twice after the record of its setup made room for another one; a
claim that is granted to a setup that is over; a setup that is over and found alive. -/
theorem not_exclusive :
    ¬ Run.Every (step fun _ => "10.0") (Exclusive fun _ => "10.0") (start 1)
        [.register "s1" "XAUUSD" "LONG" none 0, .claimEntry "s1" "micro_bos" 1000,
          .register "s2" "XAUUSD" "LONG" none 0, .register "s1" "XAUUSD" "LONG" none 0,
          .claimEntry "s1" "micro_bos" 1000] ∧
      ¬ Run.Every (step fun _ => "10.0") (Exclusive fun _ => "10.0") (start 500)
        [.register "s1" "XAUUSD" "LONG" (some longZone) 0, .evaluateLifecycle "s1" 10 1010,
          .claimEntry "s1" "micro_bos" 1000] ∧
      ¬ Run.Every (step fun _ => "10.0") (Exclusive fun _ => "10.0") (start 500)
        [.register "s1" "XAUUSD" "LONG" (some longZone) 0, .evaluateLifecycle "s1" 10 1010,
          .markStatus "s1" "ARMED", .evaluateLifecycle "s1" 12 1020] := by
  refine ⟨?_, ?_, ?_⟩
  · decide +kernel
  · decide +kernel
  · decide +kernel

end EntryClaims

end EaBot.Trading
