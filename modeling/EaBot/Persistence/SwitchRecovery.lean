import EaBot.Foundation.Run
import EaBot.Persistence.KillSwitchStore

/-!
# Restarts of the kill switch

A process works on a kill switch whose store is attached.  When every line has been
written whole, the switch that a restart rebuilds agrees with the live one, and a
crash in the middle of an operation leaves the snapshot before it or after it.  The
exception is a crash that cuts a character: the store then cannot be opened, and the
restart begins with a switch that is active.
-/

namespace EaBot.Persistence

open EaBot.Foundation EaBot.Risk

/-- A process: its switch and the attached store. -/
structure SwitchProcess where
  switch : KillSwitch
  store : KillSwitchStateStore

/-- An operation, the instants it is stamped with, and the number of bytes of its line
that reach the file, all when none is given. -/
structure SwitchRequest where
  operation : KillSwitch.Operation
  now : String
  timestamp : String
  bytes : Option Nat

/-- The switch that a restart on a file begins with. -/
def rebuilt (file : TextFile) : KillSwitch :=
  loadKillSwitch (KillSwitchStateStore.open? file none)

namespace SwitchProcess

/-- Start on a file; opening the store may raise. -/
def start? (file : TextFile) : Option SwitchProcess :=
  (KillSwitchStateStore.open? file none).map fun store => ⟨loadKillSwitch (some store), store⟩

/-- Carry out one operation and persist the switch when it has changed. -/
def step (process : SwitchProcess) (request : SwitchRequest) : SwitchProcess :=
  match process.switch.perform request.now request.operation with
  | .error _ => process
  | .ok (_, next) => ⟨next, process.store.saveState next request.timestamp request.bytes⟩

/-- The file after a crash at a number of bytes of the line of an operation. -/
def crash (process : SwitchProcess) (request : SwitchRequest) (bytes : Nat) : TextFile :=
  (process.step { request with bytes := some bytes }).store.file

/-- The crash cuts a character of the line that the operation writes. -/
def CutsCharacter (process : SwitchProcess) (request : SwitchRequest) (bytes : Nat) : Prop :=
  match process.switch.perform request.now request.operation with
  | .error _ => False
  | .ok (_, next) => TextFile.Splits
      (Json.objectLines.line (KillSwitchStateStore.entryOf next request.timestamp)) bytes

instance (process : SwitchProcess) (request : SwitchRequest) (bytes : Nat) :
    Decidable (process.CutsCharacter request bytes) :=
  match performed : process.switch.perform request.now request.operation with
  | .error _ => .isFalse (by simp [CutsCharacter, performed])
  | .ok (_, next) =>
      decidable_of_iff (TextFile.Splits (Json.objectLines.line
        (KillSwitchStateStore.entryOf next request.timestamp)) bytes)
        (by simp [CutsCharacter, performed])

/-- The rebuilt switch agrees with the live one. -/
def Agrees (process : SwitchProcess) : Prop :=
  (rebuilt process.store.file).state = process.switch.state ∧
    (rebuilt process.store.file).locked = process.switch.locked

/-- A blocked switch is still blocked after a crash in any operation but the
confirmation of a reset. -/
def Survives (process : SwitchProcess) (request : SwitchRequest) (bytes : Nat) : Prop :=
  process.switch.isBlocked = true → request.operation ≠ .confirmReset →
    (rebuilt (process.crash request bytes)).isBlocked = true

/-! ## Snapshots -/

/-- A snapshot gives back the state and the lock. -/
theorem switchOf_entryOf (switch : KillSwitch) (timestamp : String) :
    (switchOf (KillSwitchStateStore.entryOf switch timestamp)).state = switch.state ∧
      (switchOf (KillSwitchStateStore.entryOf switch timestamp)).locked = switch.locked := by
  constructor
  · simp [switchOf, stateOf, fieldOf, Json.get, KillSwitchStateStore.entryOf,
      KillSwitchStateStore.toDict, KillSwitchState.ofValue_value]
  · simp [switchOf, fieldOf, Json.get, KillSwitchStateStore.entryOf,
      KillSwitchStateStore.toDict, Json.truthy]

/-- What a restart rebuilds depends on the last snapshot of a file that can be
decoded. -/
theorem rebuilt_of_latest {file : TextFile} {switch : KillSwitch} {timestamp : String}
    (whole : file.torn = false)
    (latest : Json.objectLines.latest file =
      some (KillSwitchStateStore.entryOf switch timestamp)) :
    (rebuilt file).state = switch.state ∧ (rebuilt file).locked = switch.locked := by
  have same : rebuilt file = switchOf (KillSwitchStateStore.entryOf switch timestamp) := by
    simp only [rebuilt, KillSwitchStateStore.open?, whole, Bool.false_eq_true, if_false, latest]
    rfl
  rw [same]
  exact switchOf_entryOf switch timestamp

theorem rebuilt_congr {first second : TextFile} (whole : first.torn = false)
    (also : second.torn = false)
    (same : Json.objectLines.latest first = Json.objectLines.latest second) :
    rebuilt first = rebuilt second := by
  simp only [rebuilt, KillSwitchStateStore.open?, whole, also, Bool.false_eq_true, if_false, same]
  rfl

/-! ## One step -/

/-- The file is ended, and a restart agrees with the live switch. -/
structure Durable (process : SwitchProcess) : Prop where
  ended : process.store.file.Ended
  agrees : process.Agrees

theorem durable_start {file : TextFile} (ended : file.Ended) {process : SwitchProcess}
    (started : start? file = some process) : process.Durable := by
  have whole : file.torn = false := ended.1
  simp only [start?, KillSwitchStateStore.open?, whole, Bool.false_eq_true, if_false,
    Option.map_some, Option.some.injEq] at started
  subst started
  refine ⟨ended, ?_⟩
  simp only [Agrees, rebuilt, KillSwitchStateStore.open?, whole, Bool.false_eq_true, if_false,
    and_self]

/-- An operation whose line is written whole keeps the process durable. -/
theorem Durable.step {process : SwitchProcess} (durable : process.Durable)
    {request : SwitchRequest} (whole : request.bytes = none) : (process.step request).Durable := by
  unfold SwitchProcess.step
  cases performed : process.switch.perform request.now request.operation with
  | error raised => exact durable
  | ok result =>
      have ended := durable.ended.append (Json.objectLines.write
        (KillSwitchStateStore.entryOf result.2 request.timestamp))
      have latest := Json.objectLines.latest_append durable.ended
        (KillSwitchStateStore.entryOf result.2 request.timestamp)
      simp only [KillSwitchStateStore.saveState, whole]
      exact ⟨ended, rebuilt_of_latest ended.1 latest⟩

/-- A crash in an operation of a durable process cuts a character, or leaves the
snapshot before the operation or after it. -/
theorem Durable.survives_iff {process : SwitchProcess} (durable : process.Durable)
    (request : SwitchRequest) (bytes : Nat) (blocked : process.switch.isBlocked = true)
    (other : request.operation ≠ .confirmReset) :
    (rebuilt (process.crash request bytes)).isBlocked = true ↔
      ¬process.CutsCharacter request bytes := by
  have before : (rebuilt process.store.file).isBlocked = true := by
    rw [KillSwitch.isBlocked_iff, durable.agrees.1]
    exact (KillSwitch.isBlocked_iff _).mp blocked
  unfold crash SwitchProcess.step CutsCharacter
  cases performed : process.switch.perform request.now request.operation with
  | error raised => simpa using before
  | ok result =>
      rcases result with ⟨record, next⟩
      have moves := KillSwitch.moves_of_perform performed
      have held : next.isBlocked = true := by
        by_contra unblocked
        exact other (moves.unblocks (Bool.eq_false_iff.mpr unblocked))
      have whole : process.store.file.torn = false := durable.ended.1
      generalize entered : KillSwitchStateStore.entryOf next request.timestamp = entry
      have cut := Json.objectLines.latest_append_cut durable.ended entry bytes
      have torn : (process.store.file.append (Json.objectLines.line entry) (some bytes)).torn =
          (TextFile.takeBytes bytes (Json.objectLines.line entry)).2 := by
        simp [TextFile.append, whole]
      simp only [KillSwitchStateStore.saveState, entered]
      cases splits : (TextFile.takeBytes bytes (Json.objectLines.line entry)).2 with
      | true =>
          rw [splits] at torn
          have lost : rebuilt (process.store.file.append (Json.objectLines.line entry)
              (some bytes)) = KillSwitch.fresh := by
            simp only [rebuilt, KillSwitchStateStore.open?, torn, if_true]
            rfl
          simp [lost, TextFile.Splits, splits, KillSwitch.fresh, KillSwitch.isBlocked]
      | false =>
          rw [splits] at torn
          have kept : (rebuilt (process.store.file.append (Json.objectLines.line entry)
              (some bytes))).isBlocked = true := by
            rcases cut with new | old
            · rw [← entered] at new torn
              rw [← entered, KillSwitch.isBlocked_iff, (rebuilt_of_latest torn new).1]
              exact (KillSwitch.isBlocked_iff next).mp held
            · rw [rebuilt_congr torn whole old]
              exact before
          simp [kept, TextFile.Splits, splits]

/-! ## Every run -/

/-- From a file whose last line is ended, with every line written whole, a restart
agrees with the live switch after every run of operations, and a crash in a further
operation but a confirmation leaves a blocked switch blocked exactly when it does not
cut a character. -/
theorem recovers {file : TextFile} {process : SwitchProcess} (ended : file.Ended)
    (started : start? file = some process) (requests : List SwitchRequest)
    (whole : ∀ request ∈ requests, request.bytes = none) :
    (Run.after step process requests).Agrees ∧
      ∀ request bytes, ¬(Run.after step process requests).CutsCharacter request bytes →
        (Run.after step process requests).Survives request bytes := by
  have every : Run.Every step (fun _ request => request.bytes = none) process requests :=
    (Run.every_iff_forall_mem process).mpr whole
  have durable : (Run.after step process requests).Durable :=
    every.after Durable (durable_start ended started)
      fun _ _ kept unbroken => kept.step unbroken
  refine ⟨durable.agrees, ?_⟩
  intro request bytes kept blocked other
  exact (durable.survives_iff request bytes blocked other).mpr kept

/-- A process on a new file that has halted trading. -/
def halted (reason : String) : SwitchProcess :=
  Run.after step ⟨KillSwitch.fresh, ⟨none, TextFile.empty⟩⟩
    [⟨.trigger reason "operator", "10:00", "10:00", none⟩]

/-- An operator locks the switch. -/
def locking : SwitchRequest :=
  ⟨.lock "manual", "10:01", "10:01", none⟩

/-- A restart after a halt, and a restart after a crash in the lock that follows. -/
theorem recovers_halted :
    (halted "drawdown").Agrees ∧ (halted "drawdown").Survives locking 100 := by
  have ended : TextFile.empty.Ended := ⟨rfl, .inl rfl⟩
  have recovered := recovers ended
    (show start? TextFile.empty = some ⟨KillSwitch.fresh, ⟨none, TextFile.empty⟩⟩ from rfl)
    [⟨.trigger "drawdown" "operator", "10:00", "10:00", none⟩] (by simp)
  refine ⟨recovered.1, recovered.2 locking 100 ?_⟩
  have whole : ¬((halted "drawdown").CutsCharacter locking 100) := by decide +kernel
  exact whole

/-- A crash that cuts the dash in the reason of the halt unblocks trading. -/
theorem cut_character_unblocks :
    start? TextFile.empty = some ⟨KillSwitch.fresh, ⟨none, TextFile.empty⟩⟩ ∧
      ¬(halted "—").Survives locking 214 := by
  refine ⟨rfl, ?_⟩
  intro survives
  have rebuilt := survives (by decide +kernel) (by decide)
  revert rebuilt
  decide +kernel

end SwitchProcess

end EaBot.Persistence
