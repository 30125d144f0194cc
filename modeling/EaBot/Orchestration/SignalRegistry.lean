import EaBot.Foundation.Value

/-!
# The signal registry

One record per symbol says whether a trade signal is live for it.  A record is
opened as pending, moves between phases and is never removed by a transition.  A
symbol with an active record, or with a recently failed one, is not analysed
again.

Every operation that stamps a record takes the instant of the registry's clock at
which it runs.
-/

namespace EaBot.Orchestration

open EaBot.Foundation

/-- Phases of a signal. -/
inductive SignalPhase
  | pending
  | executing
  | opened
  | closed
  | failed
  | skipped
deriving DecidableEq

namespace SignalPhase

/-- The phase as it is written in records and messages. -/
def value : SignalPhase → String
  | pending => "PENDING"
  | executing => "EXECUTING"
  | opened => "OPEN"
  | closed => "CLOSED"
  | failed => "FAILED"
  | skipped => "SKIPPED"

/-- Whether a signal in this phase is still live. -/
def isActive : SignalPhase → Bool
  | pending => true
  | executing => true
  | opened => true
  | closed => false
  | failed => false
  | skipped => false

end SignalPhase

/-- The price levels of a signal, each where it is given as a number. -/
structure Levels where
  entry : Option ℚ
  sl : Option ℚ
  tp1 : Option ℚ
  tp2 : Option ℚ
  tpmax : Option ℚ
deriving DecidableEq

namespace Levels

/-- No level at all. -/
def empty : Levels :=
  ⟨none, none, none, none, none⟩

/-- The levels with the given ones filled in. -/
def fill (levels given : Levels) : Levels :=
  ⟨given.entry.or levels.entry, given.sl.or levels.sl, given.tp1.or levels.tp1,
    given.tp2.or levels.tp2, given.tpmax.or levels.tpmax⟩

end Levels

/-- The current trade signal of one symbol. -/
structure ActiveSignal where
  symbol : String
  direction : String
  phase : SignalPhase
  confidence : ℚ
  levels : Levels
  ticket : Val
  reason : String
  proposalId : String
  createdAt : ℚ
  updatedAt : ℚ
deriving DecidableEq

/-- The registry: the signal of each symbol, and how long a failure blocks it. -/
structure SignalRegistry where
  signals : Dict String ActiveSignal
  failureCooldown : ℚ

/-- The cooldown after a failed execution, in seconds. -/
def defaultFailureCooldown : ℚ := 900

namespace SignalRegistry

/-- A registry without signals. -/
def initial : SignalRegistry :=
  ⟨Dict.empty, defaultFailureCooldown⟩

/-- The key of a symbol. -/
def key (symbol : String) : String :=
  Text.upper (Text.strip symbol)

/-- The record of a symbol. -/
def get (registry : SignalRegistry) (symbol : String) : Option ActiveSignal :=
  registry.signals.get (key symbol)

/-- The record of a symbol while it is live. -/
def active (registry : SignalRegistry) (symbol : String) : Option ActiveSignal :=
  (registry.get symbol).filter fun signal => signal.phase.isActive

/-- The time since a record was last stamped. -/
def elapsed (signal : ActiveSignal) (now : ℚ) : ℚ :=
  now - if signal.updatedAt ≠ 0 then signal.updatedAt else signal.createdAt

/-- Whether a symbol is inside the cooldown after a failure. -/
def inFailureCooldown (registry : SignalRegistry) (symbol : String) (now : ℚ) : Bool :=
  match registry.get symbol with
  | none => false
  | some signal => signal.phase = .failed ∧ elapsed signal now < registry.failureCooldown

/-- The seconds left of a cooldown, without their fraction. -/
def secondsLeft (registry : SignalRegistry) (signal : ActiveSignal) (now : ℚ) : Nat :=
  (registry.failureCooldown - elapsed signal now).floor.toNat

/-- Whether a symbol may be analysed now, and otherwise why not. -/
def shouldConvene (registry : SignalRegistry) (symbol : String) (now : ℚ) : Bool × String :=
  match registry.get symbol with
  | none => (true, "")
  | some signal =>
      if signal.phase.isActive then
        (false, "sinyal " ++ signal.direction ++ " untuk " ++ signal.symbol ++
          " masih aktif (" ++ signal.phase.value ++ "); tidak perlu rapat ulang")
      else if signal.phase = .failed ∧ registry.inFailureCooldown symbol now then
        (false, "eksekusi sinyal " ++ signal.symbol ++ " baru gagal (" ++
          (if signal.reason = "" then "tidak diketahui" else signal.reason) ++ "); tunggu " ++
          toString (registry.secondsLeft signal now) ++ "s sebelum analisa ulang")
      else
        (true, "")

/-- Open the signal of a symbol, or refresh it when the same signal is live. -/
def openSignal (registry : SignalRegistry) (symbol direction : String) (confidence : ℚ)
    (levels : Levels) (proposalId : String) (now : ℚ) : SignalRegistry :=
  let fresh : ActiveSignal :=
    { symbol := key symbol, direction := Text.upper direction, phase := .pending,
      confidence := confidence, levels := levels, ticket := .none, reason := "",
      proposalId := proposalId, createdAt := now, updatedAt := now }
  let record :=
    match registry.signals.get (key symbol) with
    | none => fresh
    | some existing =>
        if existing.phase.isActive ∧ existing.direction = direction then
          { existing with
            confidence := max existing.confidence confidence
            levels := existing.levels.fill levels
            updatedAt := now
            proposalId := if proposalId = "" then existing.proposalId else proposalId }
        else fresh
  { registry with signals := registry.signals.set (key symbol) record }

/-- Move the record of a symbol to a phase.  A symbol without a record is left
alone. -/
def transition (registry : SignalRegistry) (symbol : String) (phase : SignalPhase)
    (reason : String) (now : ℚ) : SignalRegistry :=
  match registry.signals.get (key symbol) with
  | none => registry
  | some record =>
      let moved := { record with phase := phase, reason := reason, updatedAt := now }
      { registry with signals := registry.signals.set (key symbol) moved }

/-- An order has been submitted. -/
def markExecuting (registry : SignalRegistry) (symbol reason : String) (now : ℚ) :
    SignalRegistry :=
  registry.transition symbol .executing reason now

/-- A position is live. -/
def markOpen (registry : SignalRegistry) (symbol : String) (ticket : Val) (reason : String)
    (now : ℚ) : SignalRegistry :=
  let moved := registry.transition symbol .opened reason now
  match moved.signals.get (key symbol) with
  | none => moved
  | some record =>
      { moved with signals := moved.signals.set (key symbol) { record with ticket := ticket } }

/-- The position has been closed. -/
def markClosed (registry : SignalRegistry) (symbol reason : String) (now : ℚ) :
    SignalRegistry :=
  registry.transition symbol .closed reason now

/-- The execution has failed. -/
def markFailed (registry : SignalRegistry) (symbol reason : String) (now : ℚ) :
    SignalRegistry :=
  registry.transition symbol .failed reason now

/-- The signal is not worth executing. -/
def markSkipped (registry : SignalRegistry) (symbol reason : String) (now : ℚ) :
    SignalRegistry :=
  registry.transition symbol .skipped reason now

/-- Forget the record of a symbol. -/
def clear (registry : SignalRegistry) (symbol : String) : SignalRegistry :=
  { registry with signals := registry.signals.erase (key symbol) }

/-! ## What the transitions do -/

section Transitions

variable (registry : SignalRegistry) (symbol : String) (reason : String) (now : ℚ)

/-- A transition moves the record under the symbol's key and keeps every other. -/
theorem transition_get (phase : SignalPhase) (other : String) :
    (registry.transition symbol phase reason now).signals.get other =
      if other = key symbol then
        (registry.signals.get other).map fun record =>
          { record with phase := phase, reason := reason, updatedAt := now }
      else registry.signals.get other := by
  unfold transition
  split
  · rename_i absent
    by_cases same : other = key symbol
    · rw [if_pos same, same, absent, Option.map_none]
    · rw [if_neg same]
  · rename_i record present
    rw [Dict.get_set]
    by_cases same : other = key symbol
    · rw [if_pos same, if_pos same, same, present, Option.map_some]
    · rw [if_neg same, if_neg same]

/-- A position that goes live puts the record into the open phase with its ticket. -/
theorem markOpen_get (ticket : Val) (other : String) :
    (registry.markOpen symbol ticket reason now).signals.get other =
      if other = key symbol then
        (registry.signals.get other).map fun record =>
          { record with phase := .opened, reason := reason, updatedAt := now, ticket := ticket }
      else registry.signals.get other := by
  unfold markOpen
  dsimp only
  cases found : registry.signals.get (key symbol) with
  | none =>
      have moved : (registry.transition symbol .opened reason now).signals.get (key symbol) =
          none := by
        rw [transition_get, if_pos rfl, found, Option.map_none]
      rw [moved]
      exact transition_get registry symbol reason now .opened other |>.trans (by
        by_cases same : other = key symbol <;> simp [same, found])
  | some record =>
      have moved : (registry.transition symbol .opened reason now).signals.get (key symbol) =
          some { record with phase := .opened, reason := reason, updatedAt := now } := by
        rw [transition_get, if_pos rfl, found, Option.map_some]
      rw [moved]
      dsimp only
      rw [Dict.get_set, transition_get]
      by_cases same : other = key symbol
      · rw [if_pos same, if_pos same, same, found, Option.map_some]
      · rw [if_neg same, if_neg same, if_neg same]

end Transitions

/-! ## When a symbol is analysed again -/

section Convening

variable {registry : SignalRegistry} {symbol : String} {record : ActiveSignal} {now : ℚ}

/-- A symbol that may be analysed has no live signal. -/
theorem not_active_of_shouldConvene (convenes : (registry.shouldConvene symbol now).1 = true)
    (found : registry.get symbol = some record) : record.phase.isActive = false := by
  unfold shouldConvene at convenes
  rw [found] at convenes
  cases active : record.phase.isActive with
  | false => rfl
  | true => simp [active] at convenes

/-- A symbol whose signal is not live is analysed again after some time. -/
theorem eventually_shouldConvene (found : registry.get symbol = some record)
    (idle : record.phase.isActive = false) :
    ∃ bound, ∀ now, bound ≤ now → (registry.shouldConvene symbol now).1 = true := by
  let stamp := if record.updatedAt ≠ 0 then record.updatedAt else record.createdAt
  refine ⟨registry.failureCooldown + stamp, fun now late => ?_⟩
  have elapsedEnough : ¬ elapsed record now < registry.failureCooldown := by
    change ¬ now - stamp < registry.failureCooldown
    linarith
  have cooled : registry.inFailureCooldown symbol now = false := by
    simp [inFailureCooldown, found, elapsedEnough]
  simp [shouldConvene, found, idle, cooled]

/-- Opening the signal of a symbol without a live one makes a pending record. -/
theorem openSignal_pending (convenes : (registry.shouldConvene symbol now).1 = true)
    (direction : String) (confidence : ℚ) (levels : Levels) (proposalId : String)
    (opened : ℚ) :
    ∃ record, (registry.openSignal symbol direction confidence levels proposalId opened).get
      symbol = some record ∧ record.phase = .pending := by
  unfold openSignal get
  dsimp only
  rw [Dict.get_set, if_pos rfl]
  cases found : registry.signals.get (key symbol) with
  | none => exact ⟨_, rfl, rfl⟩
  | some existing =>
      have idle := not_active_of_shouldConvene convenes found
      simp [idle]

/-- A transition finds the record of its own symbol. -/
theorem transition_get_self (found : registry.get symbol = some record) (phase : SignalPhase)
    (reason : String) (now : ℚ) :
    (registry.transition symbol phase reason now).get symbol =
      some { record with phase := phase, reason := reason, updatedAt := now } := by
  unfold get at found ⊢
  rw [transition_get, if_pos rfl, found, Option.map_some]

end Convening

end SignalRegistry

end EaBot.Orchestration
