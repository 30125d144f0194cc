import EaBot.Foundation.Answer
import EaBot.Foundation.Run
import EaBot.Foundation.Value

/-!
# Recovery after a restart

The coordinator works through the restart sequence: load the intents, connect, read
the positions and the orders, reconcile, rebuild, and only then permit execution.  It
is built from callables of unknown behaviour.  Most stages catch what they raise, but
what a read returns is listed outside the handlers, and so is the state of every
intent: an error there leaves the method, and the report of an earlier run stays.
-/

namespace EaBot.Execution

open EaBot.Foundation

namespace RestartRecovery

/-! ## Values of unknown behaviour -/

/-- An item that a callable returned: its fields by name. -/
structure Item where
  field : String → Answer (Option Val)

/-- A value that is tested for truth and listed. -/
structure Loose where
  truth : Answer Bool
  elements : Answer (List Item)

/-- The list of a value, the empty one when the value does not count as true. -/
def Loose.list (loose : Loose) : Answer (List Item) := do
  if ← loose.truth then loose.elements else return []

/-- What a reader returns: a pair that says whether the read succeeded, or the items. -/
inductive Reply
  | pair (ok : Answer Bool) (items : Loose)
  | bare (items : Loose)

/-- What a reconciler returns: whether it is missing, its two methods when they can be
called, and its entries when it is a dictionary. -/
structure Reconciled where
  isNone : Bool
  hasCritical : Answer (Option (Answer Bool))
  totalMismatches : Answer (Option (Answer Int))
  dict : Option (Option (Answer Bool) × Option (Answer Bool × Answer Int))

/-! ## Helpers -/

/-- A field of an item, with a default for a missing one. -/
def field (item : Item) (name : String) (default : Val) : Answer Val := do
  return (← item.field name).getD default

/-- The states of an order that is not yet closed. -/
def openStates : List String :=
  ["position_confirmed", "filled", "submitted", "acknowledged", "unknown", "submitting"]

/-- Whether an intent stands for an order that is not yet closed. -/
def intentIsOpen (record : Item) : Answer Bool := do
  let state ← field record "state" (.str "")
  return openStates.contains (Text.lower state.text)

/-- The intents that are open. -/
def openIntents : List Item → Answer (List Item)
  | [] => return []
  | intent :: rest => do
      let isOpen ← intentIsOpen intent
      let later ← openIntents rest
      return if isOpen then intent :: later else later

/-- Read the broker, and whether the read is verified. -/
def readWithVerification (reader : Answer Reply) : Answer (List Item × Bool) := do
  match ← reader.attempt with
  | .error _ => return ([], false)
  | .ok (.pair ok items) => do
      let listed ← items.list
      return (listed, ← ok)
  | .ok (.bare items) => do
      let listed ← items.list
      return (listed, true)

/-- Whether a reconciliation report carries a critical mismatch. -/
def isCritical (report : Reconciled) : Answer Bool :=
  if report.isNone then return true
  else do
    match ← report.hasCritical with
    | some call =>
        match ← call.attempt with
        | .ok critical => return critical
        | .error _ => return true
    | none =>
        match report.dict with
        | some (some critical, _) => critical
        | some (none, some (total, _)) => total
        | some (none, none) => return false
        | none => return false

/-- The number of mismatches that a report names. -/
def mismatchCount (report : Reconciled) : Answer Int :=
  if report.isNone then return 0
  else do
    match ← report.totalMismatches with
    | some call =>
        match ← call.attempt with
        | .ok total => return total
        | .error _ => return 0
    | none =>
        match report.dict with
        | some (_, some (truth, total)) => do
            if ← truth then total else return 0
        | some (_, none) => return 0
        | none => return 0

/-- The first of several fields that holds something, as a text. -/
def firstTicket (item : Item) : List String → Answer (Option String)
  | [] => return none
  | name :: rest => do
      let value ← field item name .none
      if value ≠ .none ∧ value ≠ .str "" then return some value.text else firstTicket item rest

/-- All tickets that an item of the broker names. -/
def ticketsOf (item : Item) : List String → Answer (List String)
  | [] => return []
  | name :: rest => do
      let value ← field item name .none
      let later ← ticketsOf item rest
      return if value ≠ .none ∧ value ≠ .str "" then value.text :: later else later

/-- All tickets that the items of the broker name. -/
def brokerTickets : List Item → Answer (List String)
  | [] => return []
  | item :: rest => do
      let own ← ticketsOf item ["ticket", "order", "deal", "position_id", "position"]
      let later ← brokerTickets rest
      return own ++ later

/-- The identities of the intents whose ticket is among those of the broker. -/
def adoptedAmong (tickets : List String) : List Item → Answer (List String)
  | [] => return []
  | intent :: rest => do
      let ticket ← firstTicket intent ["broker_position_ticket", "broker_order_ticket",
        "broker_deal_ticket", "ticket"]
      let adopted := ticket.any fun text => text ≠ "" && tickets.contains text
      let identity ←
        if adopted then do
          let value ← field intent "intent_id" (.str "")
          pure [(value.orElse (.str "")).text]
        else pure []
      let later ← adoptedAmong tickets rest
      return identity ++ later

/-- The identities of the intents that already have a counterpart at the broker.  The
deals are listed last. -/
def matchIntentsToBroker (intents positions orders : List Item) (deals : Answer (List Item)) :
    Answer (List String) := do
  let known ← brokerTickets (positions ++ orders)
  let dealt ← brokerTickets (← deals)
  adoptedAmong (known ++ dealt) intents

/-! ## The sequence -/

/-- How far a recovery has come. -/
inductive RecoveryState
  | pending
  | reconciled
  | blocked
deriving DecidableEq

/-- The result of one recovery. -/
structure RestartRecoveryReport where
  state : RecoveryState
  steps : List String
  mt5Connected : Bool
  brokerReadVerified : Bool
  openPositions : Nat
  openOrders : Nat
  recoveredIntents : Nat
  adoptedIntents : List String
  reconciliationOk : Bool
  criticalMismatches : Int
  reason : String
deriving DecidableEq

namespace RestartRecoveryReport

/-- A report of a sequence that has not run. -/
def initial : RestartRecoveryReport :=
  ⟨.pending, [], false, false, 0, 0, 0, [], false, 0, ""⟩

/-- Whether the recovery has completed. -/
def permitsExecution (report : RestartRecoveryReport) : Bool :=
  report.state = .reconciled

/-- Note a step. -/
def step (report : RestartRecoveryReport) (name : String) : RestartRecoveryReport :=
  { report with steps := report.steps ++ [name] }

end RestartRecoveryReport

/-- How the callables of a coordinator behave in one run. -/
structure Callables where
  loadIntents : Answer Loose
  connectMt5 : Answer Bool
  readPositions : Answer Reply
  readOrders : Answer Reply
  readDeals : Option (Answer Loose)
  reconcile : Option (Answer Reconciled)
  rebuildState : Option (Answer Unit)

namespace Callables

variable (callables : Callables)

/-- The durable intents. -/
def intents : Answer (List Item) := do
  (← callables.loadIntents).list

/-- The intents that the deals show to be at the broker. -/
def adopted (opened positions orders : List Item) : Option (Answer (List String)) :=
  callables.readDeals.map fun readDeals => do
    let deals ← readDeals
    let nonempty ← deals.truth
    matchIntentsToBroker opened positions orders (if nonempty then deals.elements else pure [])

/-- What the reconciler returns, and whether it is critical. -/
def verdict : Option (Answer (Reconciled × Bool)) :=
  callables.reconcile.map fun reconcile => do
    let report ← reconcile
    return (report, ← isCritical report)

end Callables

/-! ## The run -/

/-- The last stages: rebuild the internal state and permit execution. -/
def rebuild (callables : Callables) (report : RestartRecoveryReport) :
    Answer RestartRecoveryReport := do
  let done (report : RestartRecoveryReport) : RestartRecoveryReport :=
    { (report.step "rebuild_internal_state").step "reconciled" with
      state := .reconciled
      reason := "restart recovery complete — broker and internal state converged" }
  match callables.rebuildState with
  | none => return done report
  | some rebuildState =>
      match ← rebuildState.attempt with
      | .error text =>
          return { report with reason := s!"state rebuild failed: {text} (fail-closed)" }
      | .ok () => return done report

/-- The reconciliation stage. -/
def reconcile (callables : Callables) (report : RestartRecoveryReport) :
    Answer RestartRecoveryReport := do
  let report := report.step "reconcile"
  let failed (report : RestartRecoveryReport) (text : String) : RestartRecoveryReport :=
    { report with reason := s!"reconciliation failed: {text} (fail-closed)" }
  match callables.verdict with
  | none => rebuild callables { report with reconciliationOk := true }
  | some verdict =>
      match ← verdict.attempt with
      | .error text => return failed report text
      | .ok (found, critical) =>
          let report := { report with reconciliationOk := !critical }
          match ← (mismatchCount found).attempt with
          | .error text => return failed report text
          | .ok count =>
              let report := { report with criticalMismatches := count }
              if critical then
                return { report with
                  reason := s!"reconciliation found {toString count} critical mismatch(es) — " ++
                    "new orders blocked until state converges" }
              else rebuild callables report

/-- The broker reads. -/
def readBroker (callables : Callables) (opened : List Item) (report : RestartRecoveryReport) :
    Answer RestartRecoveryReport := do
  let (positions, positionsOk) ← readWithVerification callables.readPositions
  let report := report.step "read_open_positions"
  if !positionsOk then
    return { report with
      reason := "broker positions read failed — cannot prove broker=empty " ++
        "(fail-closed, internal-empty != broker-empty)" }
  else do
    let report := { report with brokerReadVerified := true, openPositions := positions.length }
    let (orders, ordersOk) ← readWithVerification callables.readOrders
    let report := report.step "read_orders_deals"
    if !ordersOk then
      return { report with
        reason := "broker orders read failed — state uncertain (fail-closed)" }
    else do
      let report := { report with openOrders := orders.length }
      match callables.adopted opened positions orders with
      | none => reconcile callables report
      | some adopted =>
          match ← adopted.attempt with
          | .error _ => reconcile callables report
          | .ok identities => reconcile callables { report with adoptedIntents := identities }

/-- One recovery. -/
def run (callables : Callables) : Answer RestartRecoveryReport := do
  let report := { RestartRecoveryReport.initial with state := .blocked, steps := ["start"] }
  match ← callables.intents.attempt with
  | .error text =>
      return { report with reason := s!"failed to load durable intents: {text}" }
  | .ok intents => do
      let report := report.step "load_durable_intents"
      let opened ← openIntents intents
      let report := { report with recoveredIntents := opened.length }
      let connected :=
        match ← callables.connectMt5.attempt with
        | .ok connected => connected
        | .error _ => false
      let report := { report with mt5Connected := connected }.step "connect_mt5"
      if !connected then
        return { report with
          reason := "MT5 not connected — broker state unverified (fail-closed)" }
      else readBroker callables opened report

/-- The coordinator after a run: an error that leaves the method keeps its report. -/
def afterRun (report : RestartRecoveryReport) (callables : Callables) : RestartRecoveryReport :=
  match run callables with
  | .value done => done
  | .raised _ => report
  | .interrupted => report

/-- The readiness gate: whether a new order may be placed, and why not. -/
def checkCanExecute (report : RestartRecoveryReport) : Bool × String :=
  if report.permitsExecution then (true, "")
  else if report.state = .blocked then
    (false, if report.reason = "" then "restart recovery blocked new orders" else report.reason)
  else (false, "restart recovery pending — broker state not yet reconciled")

/-! ## What a run depends on -/

section Run

variable (callables : Callables)

/-- The reader answers with a read that is verified. -/
def Verified (reader : Answer Reply) : Prop :=
  ∃ items, readWithVerification reader = .value (items, true)

/-- The reconciler, if there is one, reports no critical mismatch. -/
def ReportsNoCritical : Prop :=
  ∀ verdict, callables.verdict = some verdict → ∃ found, verdict = .value (found, false)

/-- The rebuild of the internal state, if there is one, succeeds. -/
def Rebuilds : Prop :=
  ∀ rebuildState, callables.rebuildState = some rebuildState → rebuildState = .value ()

/-- What the recovery has to establish before it permits execution. -/
def Established : Prop :=
  callables.intents.Returns ∧ callables.connectMt5 = .value true ∧
    Verified callables.readPositions ∧ Verified callables.readOrders ∧
      ReportsNoCritical callables ∧ Rebuilds callables

/-- The run does not raise, and permits execution afterwards exactly when everything has
been established in it. -/
def FailsClosed (report : RestartRecoveryReport) : Prop :=
  (run callables).Returns ∧
    ((afterRun report callables).permitsExecution = true ↔ Established callables)

/-! ### What a run can cope with -/

/-- The rebuild is not interrupted. -/
def RebuildTractable : Prop :=
  ∀ rebuildState, callables.rebuildState = some rebuildState → rebuildState ≠ .interrupted

/-- The reconciliation is not interrupted, and a report that is not critical names a
number of mismatches whenever the rebuild would succeed. -/
def ReconcileTractable : Prop :=
  ∀ verdict, callables.verdict = some verdict →
    verdict ≠ .interrupted ∧ ∀ found critical, verdict = .value (found, critical) →
      mismatchCount found ≠ .interrupted ∧
        (critical = false → Rebuilds callables → (mismatchCount found).Returns)

/-- The rebuild is reached: no reconciler, or a readable report that is not critical. -/
def ReachesRebuild : Prop :=
  ∀ verdict, callables.verdict = some verdict →
    ∃ found, verdict = .value (found, false) ∧ (mismatchCount found).Returns

/-- What the broker reads return can be listed, and nothing after them is interrupted. -/
def BrokerTractable (opened : List Item) : Prop :=
  (readWithVerification callables.readPositions).Returns ∧
    ∀ positions, readWithVerification callables.readPositions = .value (positions, true) →
      (readWithVerification callables.readOrders).Returns ∧
        ∀ orders, readWithVerification callables.readOrders = .value (orders, true) →
          (∀ adopted, callables.adopted opened positions orders = some adopted →
            adopted ≠ .interrupted) ∧ ReconcileTractable callables ∧
              (ReachesRebuild callables → RebuildTractable callables)

/-- Every value that the run comes to use outside a handler can be used, and no callable
that it reaches is interrupted. -/
def Tractable : Prop :=
  callables.intents ≠ .interrupted ∧ ∀ intents, callables.intents = .value intents →
    ∃ opened, openIntents intents = .value opened ∧ callables.connectMt5 ≠ .interrupted ∧
      (callables.connectMt5 = .value true → BrokerTractable callables opened)

end Run

/-! ## Stage by stage -/

/-- A stage returns a report that permits execution exactly when a goal holds. -/
def Settles (answer : Answer RestartRecoveryReport) (goal : Prop) : Prop :=
  ∃ report, answer = .value report ∧ (report.permitsExecution = true ↔ goal)

theorem settles_value {report : RestartRecoveryReport} {goal : Prop} :
    Settles (.value report) goal ↔ (report.permitsExecution = true ↔ goal) := by
  simp [Settles]

theorem not_settles_interrupted {goal : Prop} : ¬Settles .interrupted goal := by
  simp [Settles]

theorem not_settles_raised {text : String} {goal : Prop} : ¬Settles (.raised text) goal := by
  simp [Settles]

/-- A stage that ends in a blocked report settles a goal that fails. -/
theorem settles_blocked {report : RestartRecoveryReport} {goal : Prop}
    (blocked : report.state = .blocked) (fails : ¬goal) : Settles (.value report) goal := by
  rw [settles_value]
  simp [RestartRecoveryReport.permitsExecution, blocked, fails]

section Stages

variable {callables : Callables} {report : RestartRecoveryReport}

theorem settles_rebuild (blocked : report.state = .blocked) :
    Settles (rebuild callables report) (Rebuilds callables) ↔ RebuildTractable callables := by
  unfold rebuild Rebuilds RebuildTractable
  cases callables.rebuildState with
  | none => simp [settles_value, RestartRecoveryReport.permitsExecution]
  | some rebuildState =>
      cases rebuildState with
      | value result => simp [settles_value, RestartRecoveryReport.permitsExecution]
      | raised text =>
          simp [settles_value, RestartRecoveryReport.permitsExecution, blocked]
      | interrupted => simp [not_settles_interrupted]

theorem settles_reconcile (blocked : report.state = .blocked) :
    Settles (reconcile callables report)
        (ReportsNoCritical callables ∧ Rebuilds callables) ↔
      ReconcileTractable callables ∧ (ReachesRebuild callables → RebuildTractable callables) := by
  unfold reconcile ReportsNoCritical ReconcileTractable ReachesRebuild
  cases callables.verdict with
  | none =>
      have onwards : Settles (rebuild callables
          { report.step "reconcile" with reconciliationOk := true }) (Rebuilds callables) ↔
            RebuildTractable callables := settles_rebuild blocked
      simpa using onwards
  | some verdict =>
      cases verdict with
      | interrupted => simp [not_settles_interrupted]
      | raised text =>
          have settled : Settles (.value { report.step "reconcile" with
              reason := s!"reconciliation failed: {text} (fail-closed)" }) False :=
            settles_blocked blocked id
          simpa using settled
      | value result =>
          rcases result with ⟨found, critical⟩
          cases counted : mismatchCount found with
          | interrupted =>
              apply iff_of_false
              · simp [counted, not_settles_interrupted]
              · rintro ⟨tractable, -⟩
                exact ((tractable _ rfl).2 found critical rfl).1 counted
          | raised text =>
              cases critical with
              | true =>
                  simp [counted, settles_value, RestartRecoveryReport.permitsExecution,
                    RestartRecoveryReport.step, blocked]
              | false =>
                  simp [counted, settles_value, RestartRecoveryReport.permitsExecution,
                    RestartRecoveryReport.step, blocked]
          | value count =>
              cases critical with
              | true =>
                  simp [counted, settles_value, RestartRecoveryReport.permitsExecution,
                    RestartRecoveryReport.step, blocked]
              | false =>
                  have onwards : Settles (rebuild callables { report.step "reconcile" with
                      reconciliationOk := true, criticalMismatches := count })
                        (Rebuilds callables) ↔ RebuildTractable callables :=
                    settles_rebuild blocked
                  simpa [counted] using onwards

/-- What the broker reads and the stages after them establish. -/
def BrokerEstablished (callables : Callables) : Prop :=
  Verified callables.readPositions ∧ Verified callables.readOrders ∧
    ReportsNoCritical callables ∧ Rebuilds callables

theorem settles_readBroker (blocked : report.state = .blocked) (opened : List Item) :
    Settles (readBroker callables opened report) (BrokerEstablished callables) ↔
      BrokerTractable callables opened := by
  unfold readBroker BrokerEstablished BrokerTractable Verified
  cases positionsRead : readWithVerification callables.readPositions with
  | interrupted => exact iff_of_false not_settles_interrupted fun tractable => by simp at tractable
  | raised text => exact iff_of_false not_settles_raised fun tractable => by simp at tractable
  | value result =>
      rcases result with ⟨positions, positionsOk⟩
      rw [Answer.value_bind]
      dsimp only
      cases positionsOk with
      | false =>
          rw [Bool.not_false, if_pos rfl]
          exact iff_of_true (settles_blocked blocked (by simp)) (by simp)
      | true =>
          rw [Bool.not_true, if_neg Bool.false_ne_true]
          cases ordersRead : readWithVerification callables.readOrders with
          | interrupted =>
              exact iff_of_false not_settles_interrupted fun tractable => by simp at tractable
          | raised text =>
              exact iff_of_false not_settles_raised fun tractable => by simp at tractable
          | value result =>
              rcases result with ⟨orders, ordersOk⟩
              rw [Answer.value_bind]
              dsimp only
              cases ordersOk with
              | false =>
                  rw [Bool.not_false, if_pos rfl]
                  exact iff_of_true (settles_blocked blocked (by simp)) (by simp)
              | true =>
                  rw [Bool.not_true, if_neg Bool.false_ne_true]
                  have onwards (later : RestartRecoveryReport) (still : later.state = .blocked) :
                      Settles (reconcile callables later)
                          (ReportsNoCritical callables ∧ Rebuilds callables) ↔
                        ReconcileTractable callables ∧
                          (ReachesRebuild callables → RebuildTractable callables) :=
                    settles_reconcile still
                  simp only [Answer.value.injEq, Prod.mk.injEq, and_true, exists_eq', true_and,
                    Answer.returns_value, forall_eq']
                  cases matched : callables.adopted opened positions orders with
                  | none =>
                      simp only [reduceCtorEq, false_implies, implies_true, true_and]
                      exact onwards _ blocked
                  | some adopted =>
                      simp only [Option.some.injEq, forall_eq']
                      cases adopted with
                      | interrupted => exact iff_of_false not_settles_interrupted (by simp)
                      | raised text =>
                          simp only [ne_eq, reduceCtorEq, not_false_eq_true, true_and]
                          exact onwards _ blocked
                      | value identities =>
                          simp only [ne_eq, reduceCtorEq, not_false_eq_true, true_and]
                          exact onwards _ blocked

theorem settles_run (callables : Callables) :
    Settles (run callables) (Established callables) ↔ Tractable callables := by
  unfold run Established Tractable
  cases loaded : callables.intents with
  | interrupted => exact iff_of_false not_settles_interrupted (by simp)
  | raised text =>
      rw [Answer.attempt_raised, Answer.value_bind]
      exact iff_of_true (settles_blocked rfl (by simp)) (by simp)
  | value intents =>
      rw [Answer.attempt_value, Answer.value_bind]
      simp only [ne_eq, reduceCtorEq, not_false_eq_true, true_and, Answer.value.injEq, forall_eq',
        Answer.returns_value]
      cases listed : openIntents intents with
      | interrupted => exact iff_of_false not_settles_interrupted (by simp)
      | raised text => exact iff_of_false not_settles_raised (by simp)
      | value opened =>
          rw [Answer.value_bind]
          simp only [Answer.value.injEq, exists_eq_left']
          cases connects : callables.connectMt5 with
          | interrupted => exact iff_of_false not_settles_interrupted (by simp)
          | raised text =>
              rw [Answer.attempt_raised, Answer.value_bind]
              exact iff_of_true (settles_blocked rfl (by simp)) (by simp)
          | value connected =>
              rw [Answer.attempt_value, Answer.value_bind]
              cases connected with
              | false => exact iff_of_true (settles_blocked rfl (by simp)) (by simp)
              | true =>
                  simp only [not_false_eq_true, true_and, forall_const, reduceCtorEq]
                  exact settles_readBroker rfl opened

theorem failsClosed_iff (callables : Callables) (report : RestartRecoveryReport) :
    FailsClosed callables report ↔ Tractable callables := by
  rw [← settles_run, FailsClosed, Settles, afterRun]
  cases run callables with
  | value done => simp
  | raised text => simp
  | interrupted => simp

end Stages

/-! ## Every sequence of runs -/

/-- Whatever report the coordinator starts with, every run of a sequence returns and
permits execution exactly when it has established everything, if and only if every value
that a run comes to use outside a handler can be used. -/
theorem every_run_failsClosed_iff (report : RestartRecoveryReport) (runs : List Callables) :
    Run.Every afterRun (fun report callables => FailsClosed callables report) report runs ↔
      ∀ callables ∈ runs, Tractable callables := by
  have inputs : Run.Every afterRun (fun _ callables => Tractable callables) report runs ↔
      ∀ callables ∈ runs, Tractable callables := Run.every_iff_forall_mem report
  rw [← inputs]
  apply Run.every_congr_of_mem
  intro report callables _
  exact failsClosed_iff callables report

/-- Callables that find nothing anywhere. -/
def quietCallables : Callables where
  loadIntents := .value ⟨.value false, .value []⟩
  connectMt5 := .value true
  readPositions := .value (.bare ⟨.value false, .value []⟩)
  readOrders := .value (.bare ⟨.value false, .value []⟩)
  readDeals := none
  reconcile := none
  rebuildState := none

/-- A positions reader that returns a number after a clean run: the method raises and the
clean report stays. -/
theorem number_keeps_permission :
    let number : Loose := ⟨.value true, .raised "'int' object is not iterable"⟩
    let broken := { quietCallables with readPositions := .value (.bare number) }
    (afterRun RestartRecoveryReport.initial quietCallables).permitsExecution = true ∧
      run broken = .raised "'int' object is not iterable" ∧
      (afterRun (afterRun RestartRecoveryReport.initial quietCallables) broken).permitsExecution
        = true ∧
      ¬FailsClosed broken (afterRun RestartRecoveryReport.initial quietCallables) := by
  intro number broken
  have raises : run broken = .raised "'int' object is not iterable" := rfl
  refine ⟨rfl, raises, rfl, ?_⟩
  rintro ⟨returns, -⟩
  rw [raises] at returns
  exact Answer.not_returns_raised _ returns

end RestartRecovery

end EaBot.Execution
