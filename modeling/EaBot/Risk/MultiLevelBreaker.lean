import EaBot.Foundation.Run
import Mathlib.Data.Rat.Defs

/-!
# The breaker with several levels

The levels of operation are ordered, and the upper three are latched: they are meant to be
left through a recovery alone.  A trigger raises the level to the one that the policy gives
it, an escalation sets a level, and a recovery sets a lower one.

Escalations and recoveries guard against a wrong direction by the latch.  An escalation is
refused only when it would lower a latched level, and a recovery has nothing to do only when
the level is not latched.
-/

namespace EaBot.Risk

open EaBot.Foundation

/-! ## Levels and triggers -/

/-- The levels of operation. -/
inductive BreakerLevel
  | normal
  | caution
  | riskReduced
  | entryBlocked
  | emergencyFlatten
  | halted
deriving DecidableEq

namespace BreakerLevel

/-- The place of a level in the order of severity. -/
def index : BreakerLevel → Nat
  | normal => 0
  | caution => 1
  | riskReduced => 2
  | entryBlocked => 3
  | emergencyFlatten => 4
  | halted => 5

/-- Whether the level is latched. -/
def latches : BreakerLevel → Bool
  | normal | caution | riskReduced => false
  | entryBlocked | emergencyFlatten | halted => true

theorem latches_iff (level : BreakerLevel) :
    level.latches = true ↔ entryBlocked.index ≤ level.index := by
  cases level <;> simp [latches, index]

end BreakerLevel

/-- What a transition was triggered by. -/
inductive TriggerType
  | spreadSpike
  | feedStale
  | mt5Disconnected
  | dailyLoss
  | drawdown
  | consecutiveLosses
  | abnormalOrderFrequency
  | reconciliationMismatch
  | executionRejectionSpike
  | databaseUnavailable
  | modelFailure
  | manual
  | recovery
deriving DecidableEq

namespace TriggerType

/-- The text of a trigger. -/
def value : TriggerType → String
  | spreadSpike => "spread_spike"
  | feedStale => "feed_stale"
  | mt5Disconnected => "mt5_disconnected"
  | dailyLoss => "daily_loss"
  | drawdown => "drawdown"
  | consecutiveLosses => "consecutive_losses"
  | abnormalOrderFrequency => "abnormal_order_frequency"
  | reconciliationMismatch => "reconciliation_mismatch"
  | executionRejectionSpike => "execution_rejection_spike"
  | databaseUnavailable => "database_unavailable"
  | modelFailure => "model_failure"
  | manual => "manual"
  | recovery => "recovery"

/-- The level that the policy gives a trigger, caution where it names none. -/
def level : TriggerType → BreakerLevel
  | spreadSpike => .riskReduced
  | feedStale => .caution
  | mt5Disconnected => .entryBlocked
  | dailyLoss => .entryBlocked
  | drawdown => .emergencyFlatten
  | consecutiveLosses => .riskReduced
  | abnormalOrderFrequency => .riskReduced
  | reconciliationMismatch => .entryBlocked
  | executionRejectionSpike => .entryBlocked
  | databaseUnavailable => .halted
  | modelFailure => .caution
  | manual => .halted
  | recovery => .caution

end TriggerType

/-! ## The breaker -/

/-- The record of a transition. -/
structure LevelRecord where
  fromLevel : BreakerLevel
  toLevel : BreakerLevel
  trigger : TriggerType
  reason : String
  timestamp : String
  source : String
deriving DecidableEq

/-- A breaker with several levels. -/
structure MultiLevelBreaker where
  level : BreakerLevel
  riskMultiplier : ℚ
  history : List LevelRecord
  latched : Bool
  currentTrigger : Option TriggerType
  currentReason : String
  since : String
deriving DecidableEq

namespace MultiLevelBreaker

/-- A breaker that starts at a level.  The latch is open whatever the level is. -/
def fresh (level : BreakerLevel) (riskMultiplier : ℚ) (now : String) : MultiLevelBreaker :=
  ⟨level, riskMultiplier, [], false, none, "", now⟩

/-- Go to a level. -/
def set (breaker : MultiLevelBreaker) (now : String) (toLevel : BreakerLevel)
    (trigger : TriggerType) (reason source : String) : LevelRecord × MultiLevelBreaker :=
  let record : LevelRecord := ⟨breaker.level, toLevel, trigger, reason, now, source⟩
  (record, { breaker with
    level := toLevel
    currentTrigger := some trigger
    currentReason := reason
    since := now
    latched := toLevel.latches
    history := breaker.history ++ [record] })

/-- Note an observation that leaves the level. -/
def observe (breaker : MultiLevelBreaker) (now : String) (trigger : TriggerType)
    (reason source : String) : LevelRecord × MultiLevelBreaker :=
  let record : LevelRecord := ⟨breaker.level, breaker.level, trigger, reason, now, source⟩
  (record, { breaker with history := breaker.history ++ [record] })

/-- Raise the level to the one of a trigger.  A level that is as severe stays. -/
def trigger (breaker : MultiLevelBreaker) (now : String) (cause : TriggerType)
    (reason source : String) : LevelRecord × MultiLevelBreaker :=
  let reason := if reason = "" then s!"trigger: {cause.value}" else reason
  if cause.level.index ≤ breaker.level.index ∧ breaker.latched = true then
    breaker.observe now cause s!"observed while latched: {reason}" source
  else if cause.level.index ≤ breaker.level.index then breaker.observe now cause reason source
  else breaker.set now cause.level cause reason source

/-- Set a level by force; a latched level is not lowered. -/
def escalate (breaker : MultiLevelBreaker) (now : String) (toLevel : BreakerLevel)
    (reason source : String) : Except String (LevelRecord × MultiLevelBreaker) :=
  if toLevel.index < breaker.level.index ∧ breaker.latched = true then
    .error "Cannot lower a latched level without recovery."
  else
    .ok (breaker.set now toLevel (if source ≠ "recovery" then .manual else .recovery) reason source)

/-- Recover to a level, when the condition for it is met. -/
def recover (breaker : MultiLevelBreaker) (now : String) (conditionOk : Bool) (reason : String)
    (target : BreakerLevel) : Except String (LevelRecord × MultiLevelBreaker) :=
  if conditionOk = false then .error "Recovery refused — recovery condition not met."
  else if breaker.level.index ≤ target.index ∧ breaker.latched = false then
    .ok (breaker.observe now .recovery s!"no-op recovery: {reason}" "recovery")
  else .ok (breaker.set now target .recovery reason "recovery")

/-! ## What the level says -/

/-- Whether new entries are allowed. -/
def allowsNewEntries (breaker : MultiLevelBreaker) : Bool :=
  breaker.level.index < BreakerLevel.entryBlocked.index

/-- Whether the open positions must be closed. -/
def mustFlatten (breaker : MultiLevelBreaker) : Bool :=
  BreakerLevel.emergencyFlatten.index ≤ breaker.level.index

/-- The factor of the size of a position. -/
def sizeMultiplier (breaker : MultiLevelBreaker) : ℚ :=
  if breaker.level = .riskReduced then breaker.riskMultiplier
  else if BreakerLevel.entryBlocked.index ≤ breaker.level.index then 0
  else 1

/-! ## Runs -/

end MultiLevelBreaker

/-- A call of the breaker. -/
inductive LevelCall
  | trigger (cause : TriggerType) (reason source : String)
  | escalate (toLevel : BreakerLevel) (reason source : String)
  | recover (conditionOk : Bool) (reason : String) (target : BreakerLevel)
deriving DecidableEq

/-- The record of a call and the breaker after it, or the exception that it raises. -/
def LevelCall.perform (breaker : MultiLevelBreaker) (now : String) :
    LevelCall → Except String (LevelRecord × MultiLevelBreaker)
  | trigger cause reason source => .ok (breaker.trigger now cause reason source)
  | escalate toLevel reason source => breaker.escalate now toLevel reason source
  | recover conditionOk reason target => breaker.recover now conditionOk reason target

namespace MultiLevelBreaker

/-- The breaker after a call at an instant.  A call that raises has changed nothing. -/
def step (breaker : MultiLevelBreaker) (request : String × LevelCall) : MultiLevelBreaker :=
  match request.2.perform breaker request.1 with
  | .ok done => done.2
  | .error _ => breaker

/-- The latch is closed from the level on at which entries are blocked. -/
def Coherent (breaker : MultiLevelBreaker) : Prop :=
  breaker.latched = true ↔ BreakerLevel.entryBlocked.index ≤ breaker.level.index

/-- The law of the levels: triggers and escalations never lower the level, recoveries never
raise it, a latched level is lowered by a recovery whose condition is met, and the breaker
is latched at the levels that block entries. -/
structure Obeys (breaker : MultiLevelBreaker) (request : String × LevelCall) : Prop where
  raises : (∀ conditionOk reason target, request.2 ≠ .recover conditionOk reason target) →
    breaker.level.index ≤ (breaker.step request).level.index
  lowers : ∀ conditionOk reason target, request.2 = .recover conditionOk reason target →
    (breaker.step request).level.index ≤ breaker.level.index
  guarded : breaker.latched = true → (breaker.step request).level.index < breaker.level.index →
    ∃ reason target, request.2 = .recover true reason target
  latched : (breaker.step request).Coherent

/-- The call goes the way that it is meant for: an escalation of a level that is not latched
names no lower one, and a recovery of a latched level no higher one. -/
def Directed (breaker : MultiLevelBreaker) (request : String × LevelCall) : Prop :=
  match request.2 with
  | .trigger _ _ _ => True
  | .escalate toLevel _ _ => breaker.latched = false → breaker.level.index ≤ toLevel.index
  | .recover conditionOk _ target =>
      conditionOk = true → breaker.latched = true → target.index ≤ breaker.level.index

instance (breaker : MultiLevelBreaker) (request : String × LevelCall) :
    Decidable (breaker.Directed request) := by
  unfold Directed
  split <;> infer_instance

/-! ## One call -/

/-- Nothing changes that a later call would see. -/
def Stays (breaker after : MultiLevelBreaker) : Prop :=
  after.level = breaker.level ∧ after.latched = breaker.latched

/-- The breaker is at a level, and latched when this level is. -/
def Lands (level : BreakerLevel) (after : MultiLevelBreaker) : Prop :=
  after.level = level ∧ after.latched = level.latches

section Call

variable {breaker after : MultiLevelBreaker}

theorem Stays.coherent (stays : Stays breaker after) (coherent : breaker.Coherent) :
    after.Coherent := by
  rw [Coherent, stays.1, stays.2]
  exact coherent

theorem Lands.coherent {level : BreakerLevel} (lands : Lands level after) : after.Coherent := by
  rw [Coherent, lands.1, lands.2]
  exact level.latches_iff

variable (breaker) (now reason source : String)

/-- A trigger changes the level only to a higher one. -/
theorem step_trigger (cause : TriggerType) :
    (cause.level.index ≤ breaker.level.index ∧
        Stays breaker (breaker.step (now, .trigger cause reason source))) ∨
      (breaker.level.index < cause.level.index ∧
        Lands cause.level (breaker.step (now, .trigger cause reason source))) := by
  rw [step, LevelCall.perform]
  dsimp only [trigger]
  by_cases within : cause.level.index ≤ breaker.level.index
  · left
    refine ⟨within, ?_⟩
    by_cases latched : breaker.latched = true
    · rw [if_pos ⟨within, latched⟩]
      exact ⟨rfl, rfl⟩
    · rw [if_neg (fun observed => latched observed.2), if_pos within]
      exact ⟨rfl, rfl⟩
  · right
    rw [if_neg (fun observed => within observed.1), if_neg within]
    exact ⟨not_le.mp within, rfl, rfl⟩

/-- An escalation is refused when it would lower a latched level, and is carried out
otherwise. -/
theorem step_escalate (toLevel : BreakerLevel) :
    (toLevel.index < breaker.level.index ∧ breaker.latched = true ∧
        Stays breaker (breaker.step (now, .escalate toLevel reason source))) ∨
      (¬(toLevel.index < breaker.level.index ∧ breaker.latched = true) ∧
        Lands toLevel (breaker.step (now, .escalate toLevel reason source))) := by
  rw [step, LevelCall.perform, escalate]
  by_cases refused : toLevel.index < breaker.level.index ∧ breaker.latched = true
  · rw [if_pos refused]
    exact .inl ⟨refused.1, refused.2, rfl, rfl⟩
  · rw [if_neg refused]
    exact .inr ⟨refused, rfl, rfl⟩

/-- A recovery is refused without its condition, leaves a level that is low enough and not
latched, and is carried out otherwise. -/
theorem step_recover (conditionOk : Bool) (target : BreakerLevel) :
    ((conditionOk = false ∨ breaker.level.index ≤ target.index ∧ breaker.latched = false) ∧
        Stays breaker (breaker.step (now, .recover conditionOk reason target))) ∨
      (conditionOk = true ∧
        ¬(breaker.level.index ≤ target.index ∧ breaker.latched = false) ∧
        Lands target (breaker.step (now, .recover conditionOk reason target))) := by
  rw [step, LevelCall.perform, recover]
  cases conditionOk with
  | false =>
      rw [if_pos rfl]
      exact .inl ⟨.inl rfl, rfl, rfl⟩
  | true =>
      rw [if_neg (by simp)]
      by_cases idle : breaker.level.index ≤ target.index ∧ breaker.latched = false
      · rw [if_pos idle]
        exact .inl ⟨.inr idle, rfl, rfl⟩
      · rw [if_neg idle]
        exact .inr ⟨rfl, idle, rfl, rfl⟩

end Call

section Law

variable {breaker : MultiLevelBreaker}

/-- Every call keeps the latch in line with the level. -/
theorem Coherent.step (coherent : breaker.Coherent) (request : String × LevelCall) :
    (breaker.step request).Coherent := by
  rcases request with ⟨now, call⟩
  cases call with
  | trigger cause reason source =>
      rcases breaker.step_trigger now reason source cause with ⟨-, stays⟩ | ⟨-, lands⟩
      · exact stays.coherent coherent
      · exact lands.coherent
  | escalate toLevel reason source =>
      rcases breaker.step_escalate now reason source toLevel with ⟨-, -, stays⟩ | ⟨-, lands⟩
      · exact stays.coherent coherent
      · exact lands.coherent
  | recover conditionOk reason target =>
      rcases breaker.step_recover now reason conditionOk target with ⟨-, stays⟩ | ⟨-, -, lands⟩
      · exact stays.coherent coherent
      · exact lands.coherent

/-- A call obeys the law exactly when it goes the way that it is meant for. -/
theorem obeys_iff_directed (coherent : breaker.Coherent) (request : String × LevelCall) :
    breaker.Obeys request ↔ breaker.Directed request := by
  have latched := coherent.step request
  rcases request with ⟨now, call⟩
  cases call with
  | trigger cause reason source =>
      apply iff_of_true _ trivial
      have raises : breaker.level.index ≤
          (breaker.step (now, .trigger cause reason source)).level.index := by
        rcases breaker.step_trigger now reason source cause with ⟨-, stays⟩ | ⟨higher, lands⟩
        · rw [stays.1]
        · rw [lands.1]
          exact higher.le
      exact ⟨fun _ => raises, nofun, fun _ lower => absurd raises (not_le.mpr lower), latched⟩
  | escalate toLevel reason source =>
      rcases breaker.step_escalate now reason source toLevel with
        ⟨lower, held, stays⟩ | ⟨carried, lands⟩
      · apply iff_of_true
        · refine ⟨fun _ => stays.1.symm ▸ le_rfl, nofun, fun _ lower => ?_, latched⟩
          rw [stays.1] at lower
          exact absurd lower (lt_irrefl _)
        · exact fun unlatched => absurd (held.symm.trans unlatched) (by simp)
      · constructor
        · intro obeys _
          have raised := obeys.raises nofun
          rwa [lands.1] at raised
        · intro directed
          have higher : breaker.level.index ≤ toLevel.index := by
            cases held : breaker.latched with
            | false => exact directed held
            | true => exact not_lt.mp fun lower => carried ⟨lower, held⟩
          refine ⟨fun _ => lands.1.symm ▸ higher, nofun, fun _ lower => ?_, latched⟩
          rw [lands.1] at lower
          exact absurd higher (not_le.mpr lower)
  | recover conditionOk reason target =>
      rcases breaker.step_recover now reason conditionOk target with
        ⟨idle, stays⟩ | ⟨met, active, lands⟩
      · apply iff_of_true
        · refine ⟨fun other => absurd rfl (other conditionOk reason target),
            fun _ _ _ _ => stays.1.symm ▸ le_rfl, fun _ lower => ?_, latched⟩
          rw [stays.1] at lower
          exact absurd lower (lt_irrefl _)
        · intro met held
          rcases idle with unmet | idle
          · exact absurd (met.symm.trans unmet) (by simp)
          · exact absurd (held.symm.trans idle.2) (by simp)
      · subst met
        constructor
        · intro obeys _ _
          have lowered := obeys.lowers true reason target rfl
          rwa [lands.1] at lowered
        · intro directed
          have lower : target.index ≤ breaker.level.index := by
            cases held : breaker.latched with
            | true => exact directed rfl held
            | false => exact (not_le.mp fun higher => active ⟨higher, held⟩).le
          exact ⟨fun other => absurd rfl (other true reason target),
            fun _ _ _ _ => lands.1.symm ▸ lower, fun _ _ => ⟨reason, target, rfl⟩, latched⟩

/-- Entries are allowed exactly while a breaker in line with its level is not latched. -/
theorem Coherent.allowsNewEntries_eq (coherent : breaker.Coherent) :
    breaker.allowsNewEntries = !breaker.latched := by
  have blocked : breaker.latched = true ↔ ¬breaker.level.index < BreakerLevel.entryBlocked.index :=
    coherent.trans not_lt.symm
  rw [allowsNewEntries]
  cases held : breaker.latched with
  | false => simpa [held] using blocked
  | true => simpa [held] using blocked

/-- A latched breaker leaves no size to a position. -/
theorem Coherent.sizeMultiplier_eq_zero (coherent : breaker.Coherent)
    (latched : breaker.latched = true) : breaker.sizeMultiplier = 0 := by
  have blocked := coherent.mp latched
  have other : breaker.level ≠ .riskReduced := by
    intro reduced
    rw [reduced] at blocked
    simp [BreakerLevel.index] at blocked
  rw [sizeMultiplier, if_neg other, if_pos blocked]

end Law

/-! ## Runs -/

section Runs

variable (level : BreakerLevel) (riskMultiplier : ℚ) (now : String)

theorem coherent_fresh_iff :
    (fresh level riskMultiplier now).Coherent ↔ level.index < BreakerLevel.entryBlocked.index := by
  simp [Coherent, fresh]

/-- The law holds in a run exactly when the breaker starts below the levels that block
entries and every call goes the way that it is meant for. -/
theorem run_obeys_iff (requests : List (String × LevelCall)) :
    ((fresh level riskMultiplier now).Coherent ∧
        Run.Every step Obeys (fresh level riskMultiplier now) requests) ↔
      (level.index < BreakerLevel.entryBlocked.index ∧
        Run.Every step Directed (fresh level riskMultiplier now) requests) := by
  rw [← coherent_fresh_iff level riskMultiplier now]
  apply and_congr_right
  intro coherent
  exact Run.every_iff_of_invariant Coherent (fun _ request coherent => coherent.step request)
    (fun _ request coherent => obeys_iff_directed coherent request) coherent requests

end Runs

/-- An escalation to the normal level lowers a breaker that is at caution, and a recovery to
the halted level raises one that is blocked. -/
theorem directions_reversed :
    ¬(Run.Every step Obeys (fresh .normal (1 / 2) "09:00")
        [("09:01", .trigger .feedStale "" "system"), ("09:02", .escalate .normal "" "operator")]) ∧
      ¬(Run.Every step Obeys (fresh .normal (1 / 2) "09:00")
        [("09:01", .trigger .mt5Disconnected "" "system"),
          ("09:02", .recover true "reconnected" .halted)]) := by
  constructor
  · rintro ⟨-, obeys, -⟩
    have raised := obeys.raises nofun
    simp [step, LevelCall.perform, trigger, escalate, fresh, set, TriggerType.level,
      BreakerLevel.index, BreakerLevel.latches] at raised
  · rintro ⟨-, obeys, -⟩
    have lowered := obeys.lowers true "reconnected" .halted rfl
    simp [step, LevelCall.perform, trigger, recover, fresh, set, TriggerType.level,
      BreakerLevel.index, BreakerLevel.latches] at lowered

end MultiLevelBreaker

end EaBot.Risk
