import EaBot.Execution.StateMachine
import EaBot.Foundation.Run
import EaBot.Foundation.Watch
import EaBot.Monitoring.PositionMonitor
import EaBot.Orchestration.SignalRegistry

/-!
# Position monitoring in the runtime

The runtime builds its position monitor without a connector of its own, with a
close detector whose hook frees the signal of the closed position's symbol, and
with the order store that is attached to the ledger.  Once per cycle it has the
monitor observe the open positions.  The other entry point of the same monitor is
part of the wiring as well.

Between two cycles the rest of the service changes the registry and the ledger; a
cycle carries that change.
-/

namespace EaBot.Orchestration

open EaBot.Execution EaBot.Foundation EaBot.Monitoring EaBot.Mt5 EaBot.Review

/-- What a close does. -/
inductive EffectKind
  | onClose
  | signalClosed
  | ledgerClosed
deriving DecidableEq

/-- A close of a ticket that has taken effect. -/
structure Effect where
  kind : EffectKind
  ticket : Int
deriving DecidableEq

/-- The entry points of the position monitor. -/
inductive EntryPoint
  | monitorAllPositions
  | detectPositionChanges
deriving DecidableEq

/-- How the terminal answers the read of a cycle. -/
inductive ReadOutcome
  | succeeds
  | fails (answer : RawRead) (failed : ∀ rows, answer ≠ .rows rows)

/-- The parts of the runtime that monitoring works on. -/
structure Runtime where
  monitor : PositionMonitor
  registry : SignalRegistry
  ledger : Ledger

/-- One monitoring cycle: the entry point, what the rest of the service has done
since the last cycle, the true book, how the terminal answers, and what is known
about closes. -/
structure Cycle where
  entry : EntryPoint
  meanwhile : SignalRegistry × Ledger → SignalRegistry × Ledger
  rows : List BrokerRow
  outcome : ReadOutcome
  sources : CloseSources
  now : ℚ

namespace Cycle

/-- The answer of the terminal. -/
def read (cycle : Cycle) : RawRead :=
  match cycle.outcome with
  | .succeeds => .rows cycle.rows
  | .fails answer _ => answer

/-- The open positions that a successful read gives. -/
def book (liveMode : Bool) (cycle : Cycle) : List Position :=
  if liveMode then cycle.rows.map positionOfRow else simulatedPositions

/-- The tickets of the book. -/
def tickets (liveMode : Bool) (cycle : Cycle) : List Int :=
  (cycle.book liveMode).map Position.ticket

/-- Whether the read of the cycle fails.  Without a terminal no read fails. -/
def ReadFails (liveMode : Bool) (cycle : Cycle) : Prop :=
  completeList liveMode cycle.read = none

/-- The positions that the monitor gets. -/
def positions (liveMode : Bool) (cycle : Cycle) : List Position :=
  Mt5.getPositions liveMode cycle.read

theorem positions_of_fails {liveMode : Bool} {cycle : Cycle} (fails : cycle.ReadFails liveMode) :
    cycle.positions liveMode = [] := by
  rw [positions, getPositions_eq, fails, Option.getD_none]

theorem positions_of_not_fails {liveMode : Bool} {cycle : Cycle}
    (succeeds : ¬ cycle.ReadFails liveMode) :
    cycle.positions liveMode = cycle.book liveMode := by
  unfold ReadFails completeList read at succeeds
  unfold positions book Mt5.getPositions read
  cases liveMode with
  | false => rfl
  | true =>
      cases outcome : cycle.outcome with
      | succeeds => rfl
      | fails answer failed =>
          rw [outcome] at succeeds
          cases answer with
          | raised => exact absurd rfl succeeds
          | none => exact absurd rfl succeeds
          | rows rows => exact absurd rfl (failed rows)

end Cycle

namespace Runtime

/-- The runtime as it is wired: the monitor has seen nothing and restores the levels
of its store. -/
def build (reconciliationStore : Option PositionReconciliationStore)
    (registry : SignalRegistry) (ledger : Ledger) : Runtime :=
  ⟨PositionMonitor.build (some .initial) reconciliationStore, registry, ledger⟩

/-- The hook of the close detector frees the signal of the closed symbol.  The answer
says whether there was one. -/
def onCloseEmitTradeEvent (registry : SignalRegistry) (now : ℚ) (record : CloseRecord) :
    Bool × SignalRegistry :=
  if record.symbol ≠ "" then
    ((registry.get record.symbol).isSome,
      registry.markClosed record.symbol "posisi ditutup" now)
  else (false, registry)

/-- Hand the close records to the hook, one after the other. -/
def fireHooks (registry : SignalRegistry) (now : ℚ) :
    List CloseRecord → List Effect × SignalRegistry
  | [] => ([], registry)
  | record :: rest =>
      let fired := onCloseEmitTradeEvent registry now record
      let later := fireHooks fired.2 now rest
      (⟨.onClose, record.ticket⟩ ::
        ((if fired.1 then [⟨.signalClosed, record.ticket⟩] else []) ++ later.1), later.2)

/-- The runtime after the rest of the service has worked. -/
def meet (runtime : Runtime) (cycle : Cycle) : Runtime :=
  let shared := cycle.meanwhile (runtime.registry, runtime.ledger)
  ⟨runtime.monitor, shared.1, shared.2⟩

/-- Observe the open positions: the effects of the closes and the runtime
afterwards. -/
def monitorPositions (runtime : Runtime) (sources : CloseSources) (now : ℚ)
    (positions : List Position) : List Effect × Runtime :=
  let monitored := runtime.monitor.monitorAllPositions sources positions
  let fired := fireHooks runtime.registry now monitored.1
  (fired.1, ⟨monitored.2.2, fired.2, runtime.ledger⟩)

/-- Compare the open positions with the remembered levels: the effects of the closes
and the runtime afterwards. -/
def detectChanges (runtime : Runtime) (read : Bool × List Position) : List Effect × Runtime :=
  let detected := runtime.monitor.detectPositionChanges runtime.ledger.store read
  (detected.closed.map fun ticket => ⟨.ledgerClosed, ticket⟩,
    ⟨detected.monitor, runtime.registry, { runtime.ledger with store := detected.store }⟩)

/-- One cycle.  Without a connector of its own the monitor's plain read counts as a
verified one. -/
def cycle (liveMode : Bool) (runtime : Runtime) (cycle : Cycle) : List Effect × Runtime :=
  let runtime := runtime.meet cycle
  match cycle.entry with
  | .monitorAllPositions =>
      match Monitoring.getPositions none (cycle.positions liveMode) with
      | none => ([], runtime)
      | some positions => runtime.monitorPositions cycle.sources cycle.now positions
  | .detectPositionChanges =>
      match Monitoring.getPositionsEx none (cycle.positions liveMode) with
      | none => ([], runtime)
      | some read => runtime.detectChanges read

/-- The runtime after a cycle. -/
def step (liveMode : Bool) (runtime : Runtime) (cycle : Cycle) : Runtime :=
  (runtime.cycle liveMode cycle).2

/-- The effects of a cycle. -/
def effects (liveMode : Bool) (runtime : Runtime) (cycle : Cycle) : List Effect :=
  (runtime.cycle liveMode cycle).1

/-- The tickets that the close detector knows. -/
def knownTickets (runtime : Runtime) : List Int :=
  runtime.monitor.closeDetector.elim [] PositionCloseDetector.tickets

/-- The tickets whose levels are remembered. -/
def trackedTickets (runtime : Runtime) : List Int :=
  runtime.monitor.tracked.tickets

end Runtime

end EaBot.Orchestration
