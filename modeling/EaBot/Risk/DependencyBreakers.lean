import EaBot.Risk.SharedSwitch

/-!
# The breakers of the dependencies

One breaker for each external dependency, all wired to the switch of the execution
guard.  The guard refuses new orders while the switch is blocked and, when it is not,
while the breaker of the execution is open.  It swallows what recording a failure
raises: the switch is blocked by then.
-/

namespace EaBot.Risk

open EaBot.Foundation

/-- An external dependency. -/
inductive Dependency
  | llm
  | marketData
  | mt5
  | db
  | queue
  | execution
deriving DecidableEq

/-- The name of a dependency. -/
def Dependency.value : Dependency → String
  | llm => "llm"
  | marketData => "market_data"
  | mt5 => "mt5"
  | db => "db"
  | queue => "queue"
  | execution => "execution"

/-- The dependencies whose open breaker blocks new orders. -/
def executionCritical : List Dependency :=
  [.execution]

/-- The guard: the switch and the breakers that are wired to it. -/
abbrev ExecutionGuard : Type :=
  Station Dependency

namespace ExecutionGuard

/-- A guard with breakers of one threshold and reset window. -/
def build (failureThreshold : Int) (resetWindowSeconds : ℚ) : ExecutionGuard :=
  ⟨KillSwitch.fresh, fun _ => CircuitBreaker.fresh failureThreshold resetWindowSeconds⟩

/-- Whether the breaker of a dependency is open; asking may start its trial. -/
def isOpen (self : ExecutionGuard) (clock : Clock) (dependency : Dependency) :
    Bool × ExecutionGuard :=
  (!((self.breakers dependency).checkAllow clock).1, self.step (clock, .checkAllow dependency))

/-- Whether the breakers allow a new order. -/
def breakersAllow (self : ExecutionGuard) (clock : Clock) :
    List Dependency → (Bool × String) × ExecutionGuard
  | [] => ((true, ""), self)
  | dependency :: rest =>
      let asked := self.isOpen clock dependency
      if asked.1 then
        ((false, s!"execution blocked — {dependency.value} circuit breaker is OPEN"), asked.2)
      else breakersAllow asked.2 clock rest

/-- Whether a new order may be placed, and why not. -/
def checkCanExecute (self : ExecutionGuard) (clock : Clock) : (Bool × String) × ExecutionGuard :=
  if self.switch.isBlocked then
    ((false, s!"execution blocked — kill switch is {self.switch.state.value}"), self)
  else self.breakersAllow clock executionCritical

/-- Record the outcome of an execution.  What a failure raises is swallowed. -/
def recordExecutionResult (self : ExecutionGuard) (clock : Clock) (success : Bool)
    (detail : String) : ExecutionGuard :=
  if success then self.step (clock, .recordSuccess .execution)
  else self.step (clock, .recordFailure .execution .executionError detail)

variable {self : ExecutionGuard}

/-- The guard refuses while the switch is blocked. -/
theorem checkCanExecute_of_blocked (clock : Clock) (blocked : self.switch.isBlocked = true) :
    (self.checkCanExecute clock).1.1 = false := by
  simp [checkCanExecute, blocked]

/-- Whatever happened to a guard before, a failed execution that opens the breaker of the
execution closes it, also when the switch raises, and it stays closed until a reset is
confirmed. -/
theorem refuses_after_opening (failureThreshold : Int) (resetWindowSeconds : ℚ)
    (before : List (Clock × Station.Operation Dependency)) (clock later : Clock) (detail : String)
    {requests : List (Clock × Station.Operation Dependency)}
    (opens : ((Run.after Station.step (build failureThreshold resetWindowSeconds)
      before).breakers .execution).FailureOpens)
    (unconfirmed : ∀ request ∈ requests, request.2 ≠ .onSwitch .confirmReset) :
    let guard : ExecutionGuard :=
      Run.after Station.step (build failureThreshold resetWindowSeconds) before
    (checkCanExecute (Run.after Station.step (guard.recordExecutionResult clock false detail)
      requests) later).1.1 = false := by
  intro guard
  have every : Run.Every Station.step (fun _ _ => True) (build failureThreshold resetWindowSeconds)
      before := (Run.every_iff_forall_mem _).mpr fun _ _ => trivial
  have sound : guard.switch.Sound :=
    every.after (fun station => station.switch.Sound) KillSwitch.sound_fresh
      fun _ request sound _ => Station.sound_step sound request
  have halts : Station.Halts guard (clock, .recordFailure .execution .executionError detail)
      .execution _ := Station.halts_of_failure .executionError detail opens
  apply checkCanExecute_of_blocked
  apply Station.blocked_after _ _ unconfirmed
  · exact Station.sound_step sound _
  · change (guard.step (clock, .recordFailure .execution .executionError detail)).switch.isBlocked
      = true
    rw [halts.switch]
    exact CircuitBreaker.isBlocked_halt _ _ _ _

/-- A reset that is requested but not confirmed does not open the guard. -/
theorem refuses_after_opening_requested :
    let clock : Clock := ⟨fun _ => "2026-01-01T00:00:00+00:00", 0⟩
    let later : Clock := ⟨fun _ => "2026-01-01T00:02:00+00:00", 120⟩
    let guard : ExecutionGuard := Run.after Station.step (build 1 60) []
    (checkCanExecute (Run.after Station.step (guard.recordExecutionResult clock false "timeout")
      [(later, .onSwitch (.requestReset "operator")), (later, .checkAllow .execution)])
      later).1.1 = false :=
  refuses_after_opening 1 60 [] _ _ "timeout" (by decide) (by simp)

end ExecutionGuard

end EaBot.Risk
