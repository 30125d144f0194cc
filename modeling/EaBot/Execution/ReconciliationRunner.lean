import EaBot.Execution.ReconciliationProviders
import EaBot.Foundation.Run

/-!
# The reconciliation runner and its guard

The runner compares the ledger with the terminal once every few cycles and remembers
whether the last comparison was clean; the guard blocks new orders while it was not.
A failed read of the terminal comes back as an empty list, so a blocked guard can be
released by a run that has read nothing.
-/

namespace EaBot.Execution

open EaBot.Foundation EaBot.Mt5

/-- What a run of the reconciliation finds: the ledger, and the terminal's answers. -/
structure BrokerReads where
  ledger : Dict String Record
  liveMode : Bool
  positions : RawRead
  orders : RawOrders

namespace BrokerReads

/-- Both reads of the terminal have succeeded. -/
def Complete (reads : BrokerReads) : Prop :=
  completeList reads.liveMode reads.positions ≠ none ∧
    completeOrders reads.liveMode reads.orders ≠ none

end BrokerReads

/-- The runner. -/
structure ReconciliationRunner where
  interval : Int
  tolerance : ℚ
  historyLimit : Int
  history : List ReconciliationReport
  cycles : Int
  runs : Nat
  errors : Nat
  lastOk : Bool

namespace ReconciliationRunner

/-- A runner that has not run yet. -/
def build (interval historyLimit : Int) (tolerance : ℚ) : ReconciliationRunner :=
  ⟨max 1 interval, tolerance, max 1 historyLimit, [], 0, 0, 0, true⟩

variable (render : ℚ → String)

/-- The comparison of one run. -/
def reconcile (runner : ReconciliationRunner) (reads : BrokerReads) :
    Except String ReconciliationReport :=
  Reconciler.compare runner.tolerance (internalPositionsFromStore reads.ledger)
    (brokerPositions render (getPositions reads.liveMode reads.positions)) []
    (brokerOrders render (getOrders reads.liveMode reads.orders))

/-- Run the reconciliation now.  An error counts as a comparison that is not clean. -/
def runOnce (runner : ReconciliationRunner) (reads : BrokerReads) :
    Option ReconciliationReport × ReconciliationRunner :=
  let started := { runner with runs := runner.runs + 1 }
  match runner.reconcile render reads with
  | .error _ => (none, { started with errors := runner.errors + 1, lastOk := false })
  | .ok report =>
      let history := runner.history ++ [report]
      (some report, { started with
        lastOk := !report.hasCritical
        history := history.drop (history.length - runner.historyLimit.toNat) })

/-- Count a cycle, and run the reconciliation when the interval is reached. -/
def tick (runner : ReconciliationRunner) (reads : BrokerReads) :
    Option ReconciliationReport × ReconciliationRunner :=
  let counted := { runner with cycles := runner.cycles + 1 }
  if counted.cycles % counted.interval ≠ 0 then (none, counted)
  else counted.runOnce render reads

/-- The guard: whether a new order may be placed, and why not. -/
def checkCanExecute (runner : ReconciliationRunner) : Bool × String :=
  if runner.lastOk then (true, "")
  else (false, "execution blocked — reconciliation mismatch (internal state != MT5)")

/-- A cycle, or a run that is forced. -/
structure Turn where
  forced : Bool
  reads : BrokerReads

/-- The runner after a turn. -/
def step (runner : ReconciliationRunner) (turn : Turn) : ReconciliationRunner :=
  if turn.forced then (runner.runOnce render turn.reads).2
  else (runner.tick render turn.reads).2

/-- Whether the turn makes the reconciliation run. -/
def Runs (runner : ReconciliationRunner) (turn : Turn) : Prop :=
  turn.forced = true ∨ (runner.cycles + 1) % runner.interval = 0

instance (runner : ReconciliationRunner) (turn : Turn) : Decidable (runner.Runs turn) :=
  inferInstanceAs (Decidable (_ ∨ _))

/-- A blocked guard allows orders again only after a run in which both reads have
succeeded and which compares clean. -/
def FailsClosed (runner : ReconciliationRunner) (turn : Turn) : Prop :=
  runner.checkCanExecute.1 = false → (runner.step render turn).checkCanExecute.1 = true →
    runner.Runs turn ∧ turn.reads.Complete ∧
      ∃ report, runner.reconcile render turn.reads = .ok report ∧ report.hasCritical = false

/-- What is left after a failed read still shows a mismatch: without positions a ticket
of the ledger or a pending order, without orders a mismatch of the positions. -/
structure Telling (tolerance : ℚ) (reads : BrokerReads) : Prop where
  positions : completeList reads.liveMode reads.positions = none →
    (∃ ticket, Reports reads.ledger ticket) ∨ getOrders reads.liveMode reads.orders ≠ []
  orders : completeOrders reads.liveMode reads.orders = none →
    completeList reads.liveMode reads.positions ≠ none →
      Reconciler.comparesClean tolerance (internalPositionsFromStore reads.ledger)
        (brokerPositions render (getPositions reads.liveMode reads.positions)) [] [] = false

/-- A blocked guard is not shown a book that a failed read has emptied. -/
def ReadsTell (runner : ReconciliationRunner) (turn : Turn) : Prop :=
  runner.checkCanExecute.1 = false → runner.Runs turn →
    Telling render runner.tolerance turn.reads

/-! ## One turn -/

variable {render} {runner : ReconciliationRunner} {turn : Turn}

theorem checkCanExecute_eq (runner : ReconciliationRunner) :
    runner.checkCanExecute.1 = runner.lastOk := by
  unfold checkCanExecute
  cases runner.lastOk <;> rfl

theorem runOnce_lastOk (runner : ReconciliationRunner) (reads : BrokerReads) :
    (runner.runOnce render reads).2.lastOk = true ↔
      ∃ report, runner.reconcile render reads = .ok report ∧ report.hasCritical = false := by
  unfold runOnce
  cases compared : runner.reconcile render reads with
  | error raised => simp
  | ok report => simp

theorem reconcile_clean_iff (runner : ReconciliationRunner) (reads : BrokerReads) :
    (∃ report, runner.reconcile render reads = .ok report ∧ report.hasCritical = false) ↔
      Reconciler.comparesClean runner.tolerance (internalPositionsFromStore reads.ledger)
        (brokerPositions render (getPositions reads.liveMode reads.positions)) []
        (brokerOrders render (getOrders reads.liveMode reads.orders)) = true := by
  unfold Reconciler.comparesClean reconcile
  cases Reconciler.compare runner.tolerance (internalPositionsFromStore reads.ledger)
      (brokerPositions render (getPositions reads.liveMode reads.positions)) []
      (brokerOrders render (getOrders reads.liveMode reads.orders)) with
  | error raised => simp
  | ok report => simp

/-- A turn that runs decides the guard anew, and any other turn leaves it alone. -/
theorem step_lastOk (runner : ReconciliationRunner) (turn : Turn) :
    (runner.step render turn).lastOk = true ↔
      if runner.Runs turn then
        ∃ report, runner.reconcile render turn.reads = .ok report ∧ report.hasCritical = false
      else runner.lastOk = true := by
  unfold step Runs
  by_cases forced : turn.forced = true
  · simp only [forced, if_true, true_or]
    exact runOnce_lastOk runner turn.reads
  · by_cases due : (runner.cycles + 1) % runner.interval = 0
    · simp only [forced, due, if_true, or_true, tick, ne_eq, not_true_eq_false, if_false,
        Bool.false_eq_true]
      exact runOnce_lastOk _ turn.reads
    · simp [forced, due, tick]

/-- The records of pending orders all carry a ticket. -/
theorem brokerOrders_ticketless_iff (orders : List PendingOrder) :
    (∀ item ∈ brokerOrders render orders, Reconciler.ticketOf item = none) ↔ orders = [] := by
  rw [List.eq_nil_iff_forall_not_mem]
  simp [brokerOrders, ticketOf_recordOfOrder]

/-- A run is complete whenever it is clean exactly when what a failed read leaves still
shows a mismatch. -/
theorem telling_iff (tolerance : ℚ) (reads : BrokerReads) :
    Telling render tolerance reads ↔
      (Reconciler.comparesClean tolerance (internalPositionsFromStore reads.ledger)
        (brokerPositions render (getPositions reads.liveMode reads.positions)) []
        (brokerOrders render (getOrders reads.liveMode reads.orders)) = true →
          reads.Complete) := by
  cases positions : completeList reads.liveMode reads.positions with
  | none =>
      have absent : brokerPositions render (getPositions reads.liveMode reads.positions) = [] := by
        rw [getPositions_eq, positions]
        rfl
      rw [absent, Reconciler.comparesClean_of_empty, brokerOrders_ticketless_iff]
      constructor
      · rintro ⟨telling, -⟩ ⟨unreported, noOrders⟩
        rcases telling positions with ⟨ticket, item, member, known⟩ | orders
        · rw [unreported item member] at known
          cases known
        · exact absurd noOrders orders
      · intro complete
        refine ⟨fun _ => ?_, fun _ present => absurd positions present⟩
        by_contra silent
        rw [not_or, not_not] at silent
        apply (complete ⟨?_, silent.2⟩).1 positions
        intro item member
        cases known : Reconciler.ticketOf item with
        | none => rfl
        | some ticket => exact absurd ⟨ticket, item, member, known⟩ silent.1
  | some book =>
      have present : completeList reads.liveMode reads.positions ≠ none := by simp [positions]
      cases orders : completeOrders reads.liveMode reads.orders with
      | none =>
          have absent : brokerOrders render (getOrders reads.liveMode reads.orders) = [] := by
            rw [getOrders_eq, orders]
            rfl
          rw [absent]
          constructor
          · rintro ⟨-, telling⟩ clean
            rw [telling orders present] at clean
            cases clean
          · intro complete
            refine ⟨fun lost => absurd lost present, fun _ _ => ?_⟩
            by_contra clean
            exact (complete (Bool.not_eq_false _ ▸ clean)).2 orders
      | some others =>
          have also : completeOrders reads.liveMode reads.orders ≠ none := by simp [orders]
          exact iff_of_true
            ⟨fun lost => absurd lost present, fun lost => absurd lost also⟩
            fun _ => ⟨present, also⟩

/-- A turn fails closed exactly when the reads of a blocked guard tell. -/
theorem failsClosed_iff (runner : ReconciliationRunner) (turn : Turn) :
    runner.FailsClosed render turn ↔ runner.ReadsTell render turn := by
  unfold FailsClosed ReadsTell
  rw [checkCanExecute_eq, checkCanExecute_eq, step_lastOk]
  by_cases runs : runner.Runs turn
  · rw [if_pos runs, telling_iff, reconcile_clean_iff]
    constructor
    · intro closed blocked _ clean
      exact (closed blocked clean).2.1
    · intro tells blocked clean
      exact ⟨runs, tells blocked runs clean, clean⟩
  · rw [if_neg runs]
    apply iff_of_true
    · intro blocked allowed
      rw [blocked] at allowed
      cases allowed
    · exact fun _ now => absurd now runs

/-! ## Every run -/

/-- The guard fails closed over a run exactly when no failed read empties the book in
front of a blocked guard. -/
theorem every_failsClosed_iff (render : ℚ → String) (interval historyLimit : Int)
    (tolerance : ℚ) (turns : List Turn) :
    Run.Every (step render) (FailsClosed render) (build interval historyLimit tolerance) turns ↔
      Run.Every (step render) (ReadsTell render) (build interval historyLimit tolerance) turns :=
  Run.every_iff_of_invariant (fun _ => True) (fun _ _ _ => trivial)
    (fun runner turn _ => failsClosed_iff runner turn) trivial turns

/-- A position that the ledger does not know blocks the guard, and the next read, which
fails, releases it. -/
theorem failed_read_releases :
    let row : BrokerRow := ⟨77, "EURUSD", 0, 1, 1, 1, 0, 0, none, 0, 0⟩
    ¬Run.Every (step fun _ => "") (FailsClosed fun _ => "") (build 1 50 Reconciler.volumeTolerance)
      [⟨true, ⟨Dict.empty, true, .rows [row], .rows []⟩⟩,
        ⟨true, ⟨Dict.empty, true, .none, .rows []⟩⟩] := by
  rintro row ⟨-, second, -⟩
  rcases second (by decide +kernel) (by decide +kernel) with ⟨-, complete, -⟩
  have lost : completeList true .none = none := rfl
  exact complete.1 lost

end ReconciliationRunner

end EaBot.Execution
