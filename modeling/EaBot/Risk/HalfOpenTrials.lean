import EaBot.Foundation.Run
import EaBot.Risk.CircuitBreaker
import Mathlib.Tactic.Ring

/-!
# The trial of a half-open breaker

A run of calls on one breaker.  Beside the breaker a watcher keeps when it was opened
last, and whether an operator did it.

A trial is meant to end with the next result: a failure opens the breaker again, a
success closes it.  The breaker opens again through its counter of failures, and a success
that is reported while it is open takes the counter back, so that the next failure may
leave the trial running.
-/

namespace EaBot.Risk

open EaBot.Foundation

/-- A call on a breaker. -/
inductive BreakerCall
  | recordFailure (reason : BreakerTripReason) (detail : String)
  | recordSuccess
  | checkAllow
  | tripManual
  | reset
deriving DecidableEq

namespace BreakerCall

/-- The breaker and its switch after a call, whether it returned or raised. -/
def perform (breaker : CircuitBreaker) (switch : Option KillSwitch) (clock : Clock) :
    BreakerCall → CircuitBreaker × Option KillSwitch
  | recordFailure reason detail => (breaker.recordFailure switch clock reason detail).2
  | recordSuccess => ((breaker.recordSuccess clock).2, switch)
  | checkAllow => ((breaker.checkAllow clock).2, switch)
  | tripManual => (breaker.tripManual switch clock).2
  | reset => (breaker.reset clock, switch)

/-- The call records a failure. -/
def fails : BreakerCall → Bool
  | recordFailure _ _ => true
  | _ => false

end BreakerCall

/-- When a breaker was opened, and whether an operator did it. -/
structure Opening where
  epoch : ℚ
  byHand : Bool

/-- A breaker, its switch and its last opening. -/
structure BreakerWatch where
  breaker : CircuitBreaker
  switch : Option KillSwitch
  opening : Option Opening

namespace BreakerWatch

/-- A breaker that has seen nothing. -/
def start (failureThreshold : Int) (resetWindowSeconds : ℚ) (switch : Option KillSwitch) :
    BreakerWatch :=
  ⟨CircuitBreaker.fresh failureThreshold resetWindowSeconds, switch, none⟩

/-- Carry out a call and note when it opens the breaker. -/
def step (watch : BreakerWatch) (request : Clock × BreakerCall) : BreakerWatch :=
  let done := request.2.perform watch.breaker watch.switch request.1
  { breaker := done.1
    switch := done.2
    opening :=
      if watch.breaker.state ≠ .opened ∧ done.1.state = .opened then
        some ⟨request.1.epoch, request.2 = .tripManual⟩
      else watch.opening }

/-- The reset window has passed since the breaker was opened.  An opening by hand counts
as the failure that opened it, or it does not. -/
def Rested (counting : Bool) (watch : BreakerWatch) (clock : Clock) : Prop :=
  ∃ opening, watch.opening = some opening ∧
    ((opening.byHand = true → counting = true) →
      watch.breaker.resetWindowSeconds ≤ clock.epoch - opening.epoch)

/-- The law of a trial: a failure opens the breaker again, a success closes it, and an open
breaker is left through a reset, or through a check after the reset window. -/
structure Obeys (counting : Bool) (watch : BreakerWatch) (request : Clock × BreakerCall) :
    Prop where
  reopens : request.2.fails = true → watch.breaker.state = .halfOpen →
    (watch.step request).breaker.state = .opened
  closes : request.2 = .recordSuccess → watch.breaker.state = .halfOpen →
    (watch.step request).breaker.state = .closed
  leaves : watch.breaker.state = .opened → (watch.step request).breaker.state ≠ .opened →
    request.2 = .reset ∨ request.2 = .checkAllow ∧ watch.Rested counting request.1

/-- What a call must find for the law to hold: a failure during a trial finds the counter
where it reaches the threshold, and a check that ends the cooldown of a breaker opened by
hand comes after the window since then, when such an opening counts. -/
structure Armed (counting : Bool) (watch : BreakerWatch) (request : Clock × BreakerCall) :
    Prop where
  counted : request.2.fails = true → watch.breaker.state = .halfOpen →
    watch.breaker.failureThreshold ≤ watch.breaker.consecutiveFailures + 1
  waited : counting = true → request.2 = .checkAllow → watch.breaker.state = .opened →
    watch.breaker.cooldownElapsed request.1 = true →
      ∀ opening, watch.opening = some opening → opening.byHand = true →
        watch.breaker.resetWindowSeconds ≤ request.1.epoch - opening.epoch

/-- The last opening of an open breaker is known, and when a failure opened it, it is the
failure whose time the breaker keeps. -/
def Tracked (watch : BreakerWatch) : Prop :=
  watch.breaker.state = .opened →
    ∃ opening, watch.opening = some opening ∧
      (opening.byHand = false → watch.breaker.lastFailureEpoch = some opening.epoch)

/-- A success is not recorded while the breaker is open. -/
def Prompt (watch : BreakerWatch) (request : Clock × BreakerCall) : Prop :=
  request.2 = .recordSuccess → watch.breaker.state ≠ .opened

/-- A breaker that is not closed has counted up to its threshold. -/
def Counted (watch : BreakerWatch) : Prop :=
  watch.breaker.state ≠ .closed →
    watch.breaker.failureThreshold ≤ watch.breaker.consecutiveFailures

end BreakerWatch

/-! ## What a call does to the state -/

namespace CircuitBreaker

variable (breaker : CircuitBreaker) (switch : Option KillSwitch) (clock : Clock)
  (reason : BreakerTripReason) (detail : String)

/-- A failure is only noted while the breaker is open. -/
theorem recordFailure_of_opened (opened : breaker.state = .opened) :
    (breaker.recordFailure switch clock reason detail).2.1 =
      { breaker with events := breaker.events ++ [⟨clock.iso 0, true, some reason, detail⟩] } := by
  simp [recordFailure, opened]

/-- Any other failure is counted, and opens the breaker at the threshold. -/
theorem recordFailure_of_not_opened (other : breaker.state ≠ .opened) :
    (breaker.recordFailure switch clock reason detail).2.1 =
      { breaker with
        consecutiveFailures := breaker.consecutiveFailures + 1
        lastFailureAt := some (clock.iso 0)
        lastFailureEpoch := some clock.epoch
        events := breaker.events ++ [⟨clock.iso 1, true, some reason, detail⟩]
        state :=
          if breaker.failureThreshold ≤ breaker.consecutiveFailures + 1 then .opened
          else breaker.state } := by
  by_cases reached : breaker.failureThreshold ≤ breaker.consecutiveFailures + 1
  · simp [recordFailure, other, reached]
  · simp [recordFailure, other, reached]

@[simp] theorem tripManual_state :
    (breaker.tripManual switch clock).2.1.state = .opened :=
  rfl

@[simp] theorem reset_state : (breaker.reset clock).state = .closed :=
  rfl

/-- A check changes the state of an open breaker whose cooldown has elapsed only. -/
theorem checkAllow_state :
    (breaker.checkAllow clock).2.state =
      if breaker.state = .opened ∧ breaker.cooldownElapsed clock = true then .halfOpen
      else breaker.state := by
  by_cases opened : breaker.state = .opened
  · by_cases elapsed : breaker.cooldownElapsed clock = true
    · simp [checkAllow, opened, elapsed]
    · simp [checkAllow, opened, elapsed]
  · simp [checkAllow, opened]

theorem recordSuccess_state :
    (breaker.recordSuccess clock).2.state =
      if breaker.state = .halfOpen then .closed else breaker.state :=
  rfl

end CircuitBreaker

namespace BreakerWatch

variable {counting : Bool} {watch : BreakerWatch} {request : Clock × BreakerCall}

/-- Only a reset, or a check after the cooldown, leaves the open state. -/
theorem of_leaves (opened : watch.breaker.state = .opened)
    (left : (watch.step request).breaker.state ≠ .opened) :
    request.2 = .reset ∨
      request.2 = .checkAllow ∧ watch.breaker.cooldownElapsed request.1 = true := by
  rcases request with ⟨clock, call⟩
  cases call with
  | recordFailure reason detail =>
      apply absurd _ left
      change (watch.breaker.recordFailure watch.switch clock reason detail).2.1.state = .opened
      rw [CircuitBreaker.recordFailure_of_opened _ _ _ _ _ opened]
      exact opened
  | recordSuccess =>
      apply absurd _ left
      change (watch.breaker.recordSuccess clock).2.state = .opened
      rw [CircuitBreaker.recordSuccess_state, opened]
      simp
  | checkAllow =>
      refine .inr ⟨rfl, ?_⟩
      by_contra running
      apply left
      change (watch.breaker.checkAllow clock).2.state = .opened
      rw [CircuitBreaker.checkAllow_state, if_neg fun both => running both.2]
      exact opened
  | tripManual => exact absurd rfl left
  | reset => exact .inl rfl

/-- A check after the cooldown leaves the open state. -/
theorem leaves_of_elapsed {clock : Clock} (opened : watch.breaker.state = .opened)
    (elapsed : watch.breaker.cooldownElapsed clock = true) :
    (watch.step (clock, .checkAllow)).breaker.state = .halfOpen := by
  change (watch.breaker.checkAllow clock).2.state = .halfOpen
  rw [CircuitBreaker.checkAllow_state, if_pos ⟨opened, elapsed⟩]

/-- A failure during a trial opens the breaker exactly when the counter reaches the
threshold. -/
theorem reopens_iff {clock : Clock} {reason : BreakerTripReason} {detail : String}
    (trial : watch.breaker.state = .halfOpen) :
    (watch.step (clock, .recordFailure reason detail)).breaker.state = .opened ↔
      watch.breaker.failureThreshold ≤ watch.breaker.consecutiveFailures + 1 := by
  change (watch.breaker.recordFailure watch.switch clock reason detail).2.1.state = .opened ↔ _
  rw [CircuitBreaker.recordFailure_of_not_opened _ _ _ _ _ (by simp [trial])]
  simp [trial]

/-- A success during a trial closes the breaker. -/
theorem closes_of_success {clock : Clock} (trial : watch.breaker.state = .halfOpen) :
    (watch.step (clock, .recordSuccess)).breaker.state = .closed := by
  change (watch.breaker.recordSuccess clock).2.state = .closed
  rw [CircuitBreaker.recordSuccess_state, if_pos trial]

/-! ## What every call keeps -/

/-- A call that leaves an open breaker open leaves its time alone. -/
theorem lastFailureEpoch_of_opened (opened : watch.breaker.state = .opened) :
    (watch.step request).breaker.lastFailureEpoch = watch.breaker.lastFailureEpoch := by
  rcases request with ⟨clock, call⟩
  cases call with
  | recordFailure reason detail =>
      change (watch.breaker.recordFailure watch.switch clock reason detail).2.1.lastFailureEpoch = _
      rw [CircuitBreaker.recordFailure_of_opened _ _ _ _ _ opened]
  | checkAllow =>
      change (watch.breaker.checkAllow clock).2.lastFailureEpoch = _
      unfold CircuitBreaker.checkAllow
      split_ifs <;> rfl
  | recordSuccess => rfl
  | tripManual => rfl
  | reset => rfl

/-- A call that opens the breaker is a failure at its time, or an opening by hand. -/
theorem lastFailureEpoch_of_opens (other : watch.breaker.state ≠ .opened)
    (opens : (watch.step request).breaker.state = .opened) :
    request.2 = .tripManual ∨
      (watch.step request).breaker.lastFailureEpoch = some request.1.epoch := by
  rcases request with ⟨clock, call⟩
  cases call with
  | recordFailure reason detail =>
      right
      change (watch.breaker.recordFailure watch.switch clock reason detail).2.1.lastFailureEpoch = _
      rw [CircuitBreaker.recordFailure_of_not_opened _ _ _ _ _ other]
  | checkAllow =>
      change (watch.breaker.checkAllow clock).2.state = .opened at opens
      rw [CircuitBreaker.checkAllow_state, if_neg fun both => other both.1] at opens
      exact absurd opens other
  | recordSuccess =>
      change (watch.breaker.recordSuccess clock).2.state = .opened at opens
      rw [CircuitBreaker.recordSuccess_state] at opens
      split at opens
      · cases opens
      · exact absurd opens other
  | tripManual => exact .inl rfl
  | reset => cases opens

theorem Tracked.step (tracked : watch.Tracked) (request : Clock × BreakerCall) :
    (watch.step request).Tracked := by
  intro opened
  by_cases before : watch.breaker.state = .opened
  · rcases tracked before with ⟨opening, known, since⟩
    refine ⟨opening, ?_, ?_⟩
    · exact (if_neg fun both => both.1 before).trans known
    · rw [lastFailureEpoch_of_opened before]
      exact since
  · refine ⟨⟨request.1.epoch, request.2 = .tripManual⟩, if_pos ⟨before, opened⟩, ?_⟩
    intro failed
    rcases lastFailureEpoch_of_opens before opened with tripped | kept
    · simp [tripped] at failed
    · exact kept

/-- With the last opening known, the law holds of a call that finds what it needs. -/
theorem Tracked.obeys_iff (tracked : watch.Tracked) :
    watch.Obeys counting request ↔ watch.Armed counting request := by
  rcases request with ⟨clock, call⟩
  constructor
  · intro obeys
    constructor
    · intro fails trial
      cases call with
      | recordFailure reason detail => exact (reopens_iff trial).mp (obeys.reopens rfl trial)
      | _ => cases fails
    · intro counts check opened elapsed opening known byHand
      cases check
      have left : (watch.step (clock, .checkAllow)).breaker.state ≠ .opened := by
        rw [leaves_of_elapsed opened elapsed]
        decide
      rcases obeys.leaves opened left with reset | ⟨-, other, found, rested⟩
      · cases reset
      · cases found.symm.trans known
        exact rested fun _ => counts
  · intro armed
    constructor
    · intro fails trial
      cases call with
      | recordFailure reason detail => exact (reopens_iff trial).mpr (armed.counted rfl trial)
      | _ => cases fails
    · intro success trial
      cases success
      exact closes_of_success trial
    · intro opened left
      rcases of_leaves opened left with reset | ⟨check, elapsed⟩
      · exact .inl reset
      · refine .inr ⟨check, ?_⟩
        rcases tracked opened with ⟨opening, known, since⟩
        refine ⟨opening, known, ?_⟩
        intro counts
        cases byHand : opening.byHand with
        | true => exact armed.waited (counts byHand) check opened elapsed opening known byHand
        | false =>
            unfold CircuitBreaker.cooldownElapsed at elapsed
            rw [since byHand] at elapsed
            exact of_decide_eq_true elapsed

/-- Until a success is recorded by an open breaker, the counter of a breaker that is not
closed stays at the threshold. -/
theorem Counted.step (counted : watch.Counted) (prompt : watch.Prompt request) :
    (watch.step request).Counted := by
  rcases request with ⟨clock, call⟩
  intro unclosed
  cases call with
  | recordFailure reason detail =>
      change (watch.breaker.recordFailure watch.switch clock reason detail).2.1.state ≠ .closed
        at unclosed
      change (watch.breaker.recordFailure watch.switch clock reason detail).2.1.failureThreshold ≤
        (watch.breaker.recordFailure watch.switch clock reason detail).2.1.consecutiveFailures
      by_cases opened : watch.breaker.state = .opened
      · rw [CircuitBreaker.recordFailure_of_opened _ _ _ _ _ opened]
        exact counted (by simp [opened])
      · rw [CircuitBreaker.recordFailure_of_not_opened _ _ _ _ _ opened] at unclosed ⊢
        dsimp only at unclosed ⊢
        by_contra below
        rw [if_neg below] at unclosed
        have reached : watch.breaker.failureThreshold ≤ watch.breaker.consecutiveFailures :=
          counted unclosed
        omega
  | recordSuccess =>
      change (watch.breaker.recordSuccess clock).2.state ≠ .closed at unclosed
      rw [CircuitBreaker.recordSuccess_state] at unclosed
      cases state : watch.breaker.state with
      | closed => simp [state] at unclosed
      | halfOpen => simp [state] at unclosed
      | opened => exact absurd state (prompt rfl)
  | checkAllow =>
      have before : watch.breaker.state ≠ .closed := by
        intro closed
        apply unclosed
        change (watch.breaker.checkAllow clock).2.state = .closed
        rw [CircuitBreaker.checkAllow_state, if_neg fun both => nomatch closed ▸ both.1]
        exact closed
      change (watch.breaker.checkAllow clock).2.failureThreshold ≤
        (watch.breaker.checkAllow clock).2.consecutiveFailures
      unfold CircuitBreaker.checkAllow
      split_ifs <;> exact counted before
  | tripManual => exact le_rfl
  | reset => exact absurd rfl unclosed

/-! ## Runs -/

section Runs

variable (failureThreshold : Int) (resetWindowSeconds : ℚ) (switch : Option KillSwitch)
  (requests : List (Clock × BreakerCall))

/-- While no success is recorded by an open breaker, every failure during a trial finds
the counter where it opens the breaker again. -/
theorem counted_of_prompt
    (prompt : Run.Every step Prompt (start failureThreshold resetWindowSeconds switch) requests) :
    Run.Every step (Armed false) (start failureThreshold resetWindowSeconds switch) requests := by
  apply prompt.of_invariant Counted
  · intro unclosed
    exact absurd rfl unclosed
  · intro watch request counted prompt
    exact counted.step prompt
  · intro watch request counted _
    constructor
    · intro _ trial
      have reached : watch.breaker.failureThreshold ≤ watch.breaker.consecutiveFailures :=
        counted (by simp [trial])
      omega
    · intro counts
      cases counts

/-- The law of a trial holds throughout a run exactly when every call finds what it
needs, whether or not an opening by hand counts as the failure that opened the breaker. -/
theorem trials_obey_iff (counting : Bool) :
    Run.Every step (Obeys counting) (start failureThreshold resetWindowSeconds switch) requests ↔
      Run.Every step (Armed counting) (start failureThreshold resetWindowSeconds switch)
        requests := by
  apply Run.every_iff_of_invariant Tracked
  · intro watch request tracked
    exact tracked.step request
  · intro watch request tracked
    exact tracked.obeys_iff
  · rintro ⟨⟩

end Runs

/-! ## A success that is reported late -/

/-- A call at a time. -/
def call (epoch : ℚ) (call : BreakerCall) : Clock × BreakerCall :=
  (⟨fun _ => "", epoch⟩, call)

/-- Three failures open a breaker.  A success that is reported afterwards takes its counter
back, and the failure of the trial leaves the trial running. -/
def lateSuccess : List (Clock × BreakerCall) :=
  [call 0 (.recordFailure .executionError ""), call 1 (.recordFailure .executionError ""),
    call 2 (.recordFailure .executionError ""), call 3 .recordSuccess, call 62 .checkAllow,
    call 63 (.recordFailure .executionError "")]

theorem trial_survives_failure :
    lateSuccess.Pairwise (fun earlier later => earlier.1.epoch ≤ later.1.epoch) ∧
      (∀ counting, ¬Run.Every step (Obeys counting) (start 3 60 none) lateSuccess) ∧
      (Run.after step (start 3 60 none) lateSuccess).breaker.state = .halfOpen := by
  have trial : (Run.after step (start 3 60 none) (lateSuccess.take 5)).breaker.state = .halfOpen :=
    by decide +kernel
  have after : (Run.after step (start 3 60 none) lateSuccess).breaker.state = .halfOpen := by
    decide +kernel
  refine ⟨by decide +kernel, ?_, after⟩
  rintro counting ⟨-, -, -, -, -, obeys, -⟩
  have reopened : (Run.after step (start 3 60 none) lateSuccess).breaker.state = .opened :=
    obeys.reopens rfl trial
  rw [after] at reopened
  cases reopened

end BreakerWatch

end EaBot.Risk
