import EaBot.Execution.ReconciliationProviders
import EaBot.Orchestration.VerifiedClose

/-!
# Whether a closed position is released

A position that has left the book should no longer be held by the ledger that the
reconciler reads.  Monitoring never reaches that ledger: the entry point that the
runtime calls leaves every record alone, and the other one writes to the attached
store only.  A confirmed position that leaves the book is therefore reported, and
found missing at the broker, after every later cycle.
-/

namespace EaBot.Orchestration

open EaBot.Execution EaBot.Foundation EaBot.Monitoring EaBot.Mt5

namespace Runtime

/-- A ticket that an earlier cycle of the run has seen and that is not in the book of the
cycle any more. -/
def Gone (liveMode : Bool) (earlier : List Cycle) (cycle : Cycle) (ticket : Int) : Prop :=
  (∃ before ∈ earlier, ticket ∈ before.tickets liveMode) ∧ ticket ∉ cycle.tickets liveMode

/-- The in-memory ledger holds the ticket as a confirmed position. -/
def HoldsConfirmed (runtime : Runtime) (ticket : Int) : Prop :=
  HoldsIn runtime.ledger.orderStore ticket .positionConfirmed

/-- The ticket does not block: the internal side does not report it, and no comparison
with the book of the cycle lists it as missing. -/
def Released (liveMode : Bool) (render : ℚ → String) (runtime : Runtime) (cycle : Cycle)
    (ticket : Int) : Prop :=
  ¬ Reports runtime.ledger.orderStore ticket ∧
    ∀ brokerOrders report,
      Reconciler.compare Reconciler.volumeTolerance
          (internalPositionsFromStore runtime.ledger.orderStore)
          (brokerPositions render (cycle.book liveMode)) [] brokerOrders = .ok report →
        ticket ∉ report.missingInBroker

/-- The state in which the cycle of a run finds the runtime. -/
def metAt (liveMode : Bool) (runtime : Runtime) (earlier : List Cycle) (cycle : Cycle) :
    Runtime :=
  (Run.after (step liveMode) runtime earlier).meet cycle

/-- After every cycle, every confirmed ticket that is gone is released. -/
def ReleasesClosed (liveMode : Bool) (render : ℚ → String) (runtime : Runtime)
    (cycles : List Cycle) : Prop :=
  ∀ earlier cycle later, cycles = earlier ++ cycle :: later → ∀ ticket,
    Gone liveMode earlier cycle ticket →
      (runtime.metAt liveMode earlier cycle).HoldsConfirmed ticket →
        Released liveMode render
          ((Run.after (step liveMode) runtime earlier).step liveMode cycle) cycle ticket

/-- No confirmed ticket is ever gone. -/
def NoConfirmedGone (liveMode : Bool) (runtime : Runtime) (cycles : List Cycle) : Prop :=
  ∀ earlier cycle later, cycles = earlier ++ cycle :: later → ∀ ticket,
    Gone liveMode earlier cycle ticket →
      ¬ (runtime.metAt liveMode earlier cycle).HoldsConfirmed ticket

/-- Neither entry point of the monitor changes the in-memory ledger. -/
theorem orderStore_step (liveMode : Bool) (runtime : Runtime) (cycle : Cycle) :
    (runtime.step liveMode cycle).ledger.orderStore =
      (runtime.meet cycle).ledger.orderStore := by
  cases entry : cycle.entry with
  | monitorAllPositions =>
      rw [step_monitorAll _ _ _ entry]
      rfl
  | detectPositionChanges =>
      rw [step_detect _ _ _ entry]
      rfl

/-- A confirmed ticket is reported after the cycle, and every comparison with a book that
does not have it lists it as missing. -/
theorem blocks_of_holdsConfirmed {liveMode : Bool} (render : ℚ → String) {runtime : Runtime}
    {cycle : Cycle} {ticket : Int} (holds : (runtime.meet cycle).HoldsConfirmed ticket)
    (absent : ticket ∉ cycle.tickets liveMode) :
    Reports (runtime.step liveMode cycle).ledger.orderStore ticket ∧
      ∀ brokerOrders report,
        Reconciler.compare Reconciler.volumeTolerance
            (internalPositionsFromStore (runtime.step liveMode cycle).ledger.orderStore)
            (brokerPositions render (cycle.book liveMode)) [] brokerOrders = .ok report →
          ticket ∈ report.missingInBroker := by
  have reported : Reports (runtime.step liveMode cycle).ledger.orderStore ticket := by
    rw [orderStore_step]
    exact holds.reports
  constructor
  · exact reported
  · intro brokerOrders report compared
    apply Reconciler.mem_missingInBroker compared reported
    rw [exists_brokerPositions_iff]
    exact absent

end Runtime

/-- A run releases its closed positions exactly when no position that the ledger holds as
confirmed ever leaves the book: whenever one does, it is still reported after the cycle and
missing in every comparison with the book. -/
theorem releasesClosed_iff (liveMode : Bool) (render : ℚ → String) (runtime : Runtime)
    (cycles : List Cycle) :
    (runtime.ReleasesClosed liveMode render cycles ↔ runtime.NoConfirmedGone liveMode cycles) ∧
      ∀ earlier cycle later, cycles = earlier ++ cycle :: later → ∀ ticket,
        Runtime.Gone liveMode earlier cycle ticket →
          (runtime.metAt liveMode earlier cycle).HoldsConfirmed ticket →
            ¬ Runtime.Released liveMode render
              ((Run.after (Runtime.step liveMode) runtime earlier).step liveMode cycle)
              cycle ticket := by
  have blocked : ∀ earlier cycle ticket, Runtime.Gone liveMode earlier cycle ticket →
      (runtime.metAt liveMode earlier cycle).HoldsConfirmed ticket →
        ¬ Runtime.Released liveMode render
          ((Run.after (Runtime.step liveMode) runtime earlier).step liveMode cycle)
          cycle ticket := by
    intro earlier cycle ticket gone holds released
    exact released.1 (Runtime.blocks_of_holdsConfirmed render holds gone.2).1
  constructor
  · constructor
    · intro releases earlier cycle later split ticket gone holds
      exact blocked earlier cycle ticket gone holds
        (releases earlier cycle later split ticket gone holds)
    · intro none earlier cycle later split ticket gone holds
      exact absurd holds (none earlier cycle later split ticket gone)
  · intro earlier cycle later _ ticket gone holds
    exact blocked earlier cycle ticket gone holds

namespace Sample

/-- An empty order file on a host that never fails. -/
def orderFile : Persistence.OrderFile :=
  ⟨[], 0, fun _ => false, fun _ => "2025-01-01T00:00:00+00:00"⟩

/-- A runtime with an attached store whose ledger holds a confirmed position. -/
def confirmedRuntime : Runtime :=
  Runtime.build none .initial
    ((Ledger.boot orderFile none).setOrder "order-1" OrderState.positionConfirmed.value
      [("ticket", .int 5)]).2

end Sample

/-- A confirmed position that is closed between two cycles keeps blocking. -/
theorem closed_position_blocks :
    ¬ Sample.confirmedRuntime.ReleasesClosed true (Text.fixed 5)
      [Sample.goodCycle [Sample.row], Sample.goodCycle []] := by
  intro releases
  have gone : Runtime.Gone true [Sample.goodCycle [Sample.row]] (Sample.goodCycle []) 5 :=
    ⟨⟨_, List.mem_singleton_self _, List.mem_singleton_self _⟩, List.not_mem_nil⟩
  have holds : (Sample.confirmedRuntime.metAt true [Sample.goodCycle [Sample.row]]
      (Sample.goodCycle [])).HoldsConfirmed 5 :=
    ⟨_, rfl, rfl, rfl⟩
  have released := releases [Sample.goodCycle [Sample.row]] (Sample.goodCycle []) [] rfl 5 gone
    holds
  exact released.1 holds.reports

end EaBot.Orchestration
