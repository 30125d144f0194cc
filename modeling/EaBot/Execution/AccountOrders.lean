import EaBot.Execution.CanonicalFanout

/-!
# One order for each signal and account

The ledger is shared by all fan-outs.  Whatever signals are fanned out to whatever
targets, and however attaching, the gate, the builder and the engine come out, an
account receives at most one order for a signal, and a record that has come to an end
stays as it is.

The argument follows the visit of one target.  Until its last change the record of the
account is open and at most one order goes out; the last change settles the record, and
a settled record is not visited again.
-/

namespace EaBot.Execution

open EaBot.Foundation EaBot.Orchestration CanonicalFanout

/-- The key of a record. -/
def AccountDispatch.key (dispatch : AccountDispatch) : String × String :=
  (dispatch.signalId, dispatch.accountId)

namespace FanoutEvent

/-- The record that an event leaves in the ledger. -/
def recorded : FanoutEvent → Option AccountDispatch
  | upserted dispatch => some dispatch
  | changed dispatch => some dispatch
  | registered _ | judged _ _ _ | executed _ _ => none

/-- The signal and the account whose order an event sends. -/
def order : FanoutEvent → Option (String × String)
  | executed dispatch _ => some dispatch.key
  | registered _ | upserted _ | changed _ | judged _ _ _ => none

end FanoutEvent

/-- The signals and accounts whose orders the events send. -/
def orders (events : List FanoutEvent) : List (String × String) :=
  events.filterMap FanoutEvent.order

/-- The ledger after the events. -/
def FanoutLedger.replay (ledger : FanoutLedger) (events : List FanoutEvent) : FanoutLedger :=
  events.foldl FanoutLedger.apply ledger

namespace FanoutLedger

/-- The record under a key. -/
def recordAt (ledger : FanoutLedger) (key : String × String) : Option AccountDispatch :=
  ledger.getAccountDispatch key.1 key.2

theorem replay_append (ledger : FanoutLedger) (first second : List FanoutEvent) :
    ledger.replay (first ++ second) = (ledger.replay first).replay second :=
  List.foldl_append

theorem contains_registerSignal (ledger : FanoutLedger) (signal : CanonicalSignal) :
    (ledger.registerSignal signal).signals.contains signal.signalId = true := by
  unfold registerSignal
  split
  · assumption
  · simp [Dict.contains]

theorem contains_apply (ledger : FanoutLedger) (event : FanoutEvent) {signalId : String}
    (registered : ledger.signals.contains signalId = true) :
    (ledger.apply event).signals.contains signalId = true := by
  have kept : ∀ other change,
      (ledger.changeEntry other change).signals.contains signalId = true := by
    intro other change
    unfold changeEntry
    split
    · by_cases same : signalId = other
      · simp [Dict.contains, same]
      · rw [Dict.contains, Dict.get_set_of_ne _ same]
        exact registered
    · exact registered
  cases event with
  | registered signal =>
      simp only [apply, registerSignal]
      split
      · exact registered
      · by_cases same : signalId = signal.signalId
        · simp [Dict.contains, same]
        · rw [Dict.contains, Dict.get_set_of_ne _ same]
          exact registered
  | upserted dispatch => exact kept _ _
  | changed dispatch => exact kept _ _
  | judged accountId proposal approved => exact registered
  | executed dispatch request => exact registered

theorem contains_replay (ledger : FanoutLedger) (events : List FanoutEvent) {signalId : String}
    (registered : ledger.signals.contains signalId = true) :
    (ledger.replay events).signals.contains signalId = true := by
  induction events generalizing ledger with
  | nil => exact registered
  | cons event rest ih => exact ih _ (contains_apply ledger event registered)

/-- Taking over a record changes what is under its key and nothing else. -/
theorem recordAt_changeEntry (ledger : FanoutLedger) (dispatch : AccountDispatch)
    (change : SignalEntry → SignalEntry)
    (takes : ∀ entry, (change entry).accounts = entry.accounts.set dispatch.accountId dispatch)
    (key : String × String) :
    (ledger.changeEntry dispatch.signalId change).recordAt key =
      if key = dispatch.key ∧ ledger.signals.contains dispatch.signalId = true then some dispatch
      else ledger.recordAt key := by
  rcases key with ⟨signalId, accountId⟩
  unfold changeEntry recordAt getAccountDispatch AccountDispatch.key Dict.contains
  cases found : ledger.signals.get dispatch.signalId with
  | none => simp
  | some entry =>
      by_cases same : signalId = dispatch.signalId
      · subst same
        by_cases here : accountId = dispatch.accountId
        · subst here
          simp [takes]
        · simp [takes, here, found]
      · simp [same]

/-- What an event leaves under a key. -/
theorem recordAt_apply (ledger : FanoutLedger) (event : FanoutEvent) (key : String × String) :
    (ledger.apply event).recordAt key = ledger.recordAt key ∨
      ∃ dispatch, event.recorded = some dispatch ∧ key = dispatch.key ∧
        (ledger.apply event).recordAt key = some dispatch := by
  have taken : ∀ (dispatch : AccountDispatch) (change : SignalEntry → SignalEntry),
      (∀ entry, (change entry).accounts = entry.accounts.set dispatch.accountId dispatch) →
      (ledger.changeEntry dispatch.signalId change).recordAt key = ledger.recordAt key ∨
        key = dispatch.key ∧
          (ledger.changeEntry dispatch.signalId change).recordAt key = some dispatch := by
    intro dispatch change takes
    rw [recordAt_changeEntry _ _ _ takes]
    split
    · rename_i here
      exact Or.inr ⟨here.1, rfl⟩
    · exact Or.inl rfl
  cases event with
  | registered signal =>
      left
      simp only [apply, registerSignal]
      split
      · rfl
      · rename_i unknown
        by_cases same : key.1 = signal.signalId
        · have absent : ledger.signals.get signal.signalId = none := by
            simpa [Dict.contains] using unknown
          simp [recordAt, getAccountDispatch, same, absent]
        · simp [recordAt, getAccountDispatch, Dict.get_set_of_ne _ same]
  | upserted dispatch =>
      rcases taken dispatch (fun entry => (entry.setAccount dispatch).rollup) (fun _ => rfl) with
        unchanged | ⟨here, there⟩
      · exact Or.inl unchanged
      · exact Or.inr ⟨dispatch, rfl, here, there⟩
  | changed dispatch =>
      rcases taken dispatch (fun entry => entry.setAccount dispatch) (fun _ => rfl) with
        unchanged | ⟨here, there⟩
      · exact Or.inl unchanged
      · exact Or.inr ⟨dispatch, rfl, here, there⟩
  | judged accountId proposal approved => exact Or.inl rfl
  | executed dispatch request => exact Or.inl rfl

theorem recordAt_upserted {ledger : FanoutLedger} {dispatch : AccountDispatch}
    (registered : ledger.signals.contains dispatch.signalId = true) :
    (ledger.apply (.upserted dispatch)).recordAt dispatch.key = some dispatch := by
  have stored := recordAt_changeEntry ledger dispatch
    (fun entry => (entry.setAccount dispatch).rollup) (fun _ => rfl) dispatch.key
  rw [if_pos ⟨rfl, registered⟩] at stored
  exact stored

end FanoutLedger

/-! ## EndStatus records -/

/-- The event does not replace a settled record by another one. -/
def Respects (ledger : FanoutLedger) (event : FanoutEvent) : Prop :=
  ∀ dispatch, event.recorded = some dispatch → ∀ held,
    ledger.recordAt dispatch.key = some held → held.status.terminal = true → dispatch = held

/-- None of the events replaces a settled record by another one. -/
def RespectsAll (ledger : FanoutLedger) : List FanoutEvent → Prop
  | [] => True
  | event :: rest => Respects ledger event ∧ RespectsAll (ledger.apply event) rest

theorem respectsAll_append (ledger : FanoutLedger) (first second : List FanoutEvent) :
    RespectsAll ledger (first ++ second) ↔
      RespectsAll ledger first ∧ RespectsAll (ledger.replay first) second := by
  induction first generalizing ledger with
  | nil => simp [RespectsAll, FanoutLedger.replay]
  | cons event rest ih =>
      simp only [List.cons_append, RespectsAll, ih, and_assoc]
      rfl

theorem Respects.recordAt_apply {ledger : FanoutLedger} {event : FanoutEvent}
    (respects : Respects ledger event) {key : String × String} {held : AccountDispatch}
    (found : ledger.recordAt key = some held) (settled : held.status.terminal = true) :
    (ledger.apply event).recordAt key = some held := by
  rcases FanoutLedger.recordAt_apply ledger event key with
    unchanged | ⟨dispatch, recorded, here, there⟩
  · rw [unchanged, found]
  · subst here
    rw [there, respects dispatch recorded held found settled]

/-- A settled record is the same after every sequence of such events. -/
theorem RespectsAll.recordAt_replay {ledger : FanoutLedger} {events : List FanoutEvent}
    (respects : RespectsAll ledger events) {key : String × String} {held : AccountDispatch}
    (found : ledger.recordAt key = some held) (settled : held.status.terminal = true) :
    (ledger.replay events).recordAt key = some held := by
  induction events generalizing ledger with
  | nil => exact found
  | cons event rest ih => exact ih respects.2 (respects.1.recordAt_apply found settled)

/-! ## One visit -/

section Visit

variable {key : String × String} {sent : Bool}

/-- The record is open, every event so far concerns its key, and an order is `sent` or
not. -/
structure Underway (key : String × String) (sent : Bool) (process : AccountProcess) : Prop where
  names : process.dispatch.key = key
  unsettled : process.dispatch.status.terminal = false
  records : ∀ event ∈ process.events, ∀ dispatch, event.recorded = some dispatch →
    dispatch.key = key ∧ dispatch.status.terminal = false
  orders : orders process.events = if sent then [key] else []

/-- How an order can come out. -/
inductive EndStatus : AccountStatus → Prop
  | rejected : EndStatus .rejected
  | failed : EndStatus .failed
  | filled : EndStatus .filled

theorem EndStatus.terminal {status : AccountStatus} (settled : EndStatus status) :
    status.terminal = true := by
  cases settled <;> rfl

/-- The last change of the process settles its record. -/
def Concluded (key : String × String) (process : AccountProcess) : Prop :=
  ∃ sent earlier dispatch, Underway key sent earlier ∧ process = earlier.change dispatch ∧
    dispatch.key = key ∧ EndStatus dispatch.status

/-- An outcome with a settled record or with an exception on the way to it. -/
def Finishes (key : String × String) (outcome : AccountOutcome) : Prop :=
  match outcome.raised with
  | none => Concluded key outcome.process
  | some _ => ∃ sent, Underway key sent outcome.process

theorem orders_append (first second : List FanoutEvent) :
    orders (first ++ second) = orders first ++ orders second := by
  simp [orders]

theorem Underway.change {process : AccountProcess} (underway : Underway key sent process)
    (dispatch : AccountDispatch) (names : dispatch.key = key)
    (unsettled : dispatch.status.terminal = false) :
    Underway key sent (process.change dispatch) := by
  constructor
  · exact names
  · exact unsettled
  · intro event member other recorded
    rcases List.mem_append.mp member with before | last
    · exact underway.records event before other recorded
    · cases List.mem_singleton.mp last
      cases recorded
      exact ⟨names, unsettled⟩
  · rw [AccountProcess.change, orders_append, underway.orders]
    simp [EaBot.Execution.orders, FanoutEvent.order]

theorem Underway.setStatus {process : AccountProcess} (underway : Underway key sent process)
    {status : AccountStatus} (unsettled : status.terminal = false) (reason : String) :
    Underway key sent (process.setStatus status reason) :=
  underway.change _ underway.names unsettled

theorem Underway.judged {process : AccountProcess} (underway : Underway key sent process)
    (accountId : String) (proposal : AccountProposal) (approved : Bool) :
    Underway key sent (process.note (.judged accountId proposal approved)) := by
  constructor
  · exact underway.names
  · exact underway.unsettled
  · intro event member other recorded
    rcases List.mem_append.mp member with before | last
    · exact underway.records event before other recorded
    · cases List.mem_singleton.mp last
      cases recorded
  · rw [AccountProcess.note, orders_append, underway.orders]
    simp [EaBot.Execution.orders, FanoutEvent.order]

theorem Underway.executed {process : AccountProcess} (underway : Underway key false process)
    (request : OrderRequest) :
    Underway key true (process.note (.executed process.dispatch request)) := by
  constructor
  · exact underway.names
  · exact underway.unsettled
  · intro event member other recorded
    rcases List.mem_append.mp member with before | last
    · exact underway.records event before other recorded
    · cases List.mem_singleton.mp last
      cases recorded
  · rw [AccountProcess.note, orders_append, underway.orders]
    simp [EaBot.Execution.orders, FanoutEvent.order, underway.names]

theorem Underway.concludes {process : AccountProcess} (underway : Underway key sent process)
    {status : AccountStatus} (settled : EndStatus status) (reason : String) :
    Concluded key (process.setStatus status reason) :=
  ⟨sent, process, _, underway, rfl, underway.names, settled⟩

variable (parts : FanoutParts) (signal : CanonicalSignal) (target : FanoutTarget)

theorem passAccountGate_finishes (proposal : AccountProposal) {process : AccountProcess}
    (underway : Underway key false process) :
    (passAccountGate parts target proposal process).Satisfies (Finishes key)
      (Underway key false) := by
  unfold passAccountGate
  dsimp only
  split
  · exact (underway.judged _ _ _).setStatus rfl _
  · exact (underway.judged _ _ _).concludes .rejected _

theorem findEngine_finishes {process : AccountProcess} (underway : Underway key false process) :
    (findEngine parts process).Satisfies (Finishes key)
      (fun found => Underway key false found.2) := by
  unfold findEngine
  split
  · exact underway.concludes .rejected _
  · exact underway.setStatus rfl _

theorem findRequest_finishes (accountId : String) (proposal : AccountProposal)
    {process : AccountProcess} (underway : Underway key false process) :
    (findRequest parts signal accountId proposal process).Satisfies (Finishes key)
      (fun _ => True) := by
  unfold findRequest
  split
  · exact underway.concludes .failed _
  · trivial

theorem passFinalGate_finishes (request : OrderRequest) (proposal : AccountProposal)
    {process : AccountProcess} (underway : Underway key false process) :
    (passFinalGate parts target request proposal process).Satisfies (Finishes key)
      (fun passed => Underway key false passed.2) := by
  unfold passFinalGate
  dsimp only
  split
  · split
    · exact underway.judged _ _ _
    · exact (underway.judged _ _ _).concludes .rejected _
  · exact underway

theorem send_finishes (execute : OrderRequest → Except String ExecutionReply)
    (request : OrderRequest) {process : AccountProcess} (underway : Underway key false process) :
    Finishes key (send execute request process) := by
  have gone := underway.executed request
  unfold send
  dsimp only
  split
  · exact ⟨true, gone⟩
  · rename_i reply replied
    have answered := gone.change { process.dispatch with ticket := reply.ticket }
      underway.names underway.unsettled
    split
    · exact answered.concludes .filled _
    · exact answered.concludes .failed _

theorem processAccount_finishes (raw : Option RawProposal) (dispatch : AccountDispatch)
    (names : dispatch.key = key) (unsettled : dispatch.status.terminal = false) :
    Finishes key (processAccount parts signal target raw dispatch) := by
  have start : Underway key false ⟨dispatch, []⟩ := by
    constructor
    · exact names
    · exact unsettled
    · intro event absent
      cases absent
    · rfl
  have recorded : Underway key false
      (recordProposal (normalize parts signal raw) ⟨dispatch, []⟩) :=
    start.change _ names unsettled
  apply Stage.Satisfies.outcome
  refine Stage.Satisfies.bind (passAccountGate_finishes parts target _ recorded) ?_
  intro process underway
  apply Stage.Satisfies.bind (findEngine_finishes parts underway)
  rintro ⟨execute, process⟩ underway
  apply Stage.Satisfies.bind (findRequest_finishes parts signal _ _ underway)
  intro request _
  apply Stage.Satisfies.bind (passFinalGate_finishes parts target request _ underway)
  rintro ⟨proposal, process⟩ underway
  exact send_finishes execute request (underway.change _ underway.names underway.unsettled)

/-- Visiting a target settles the record of its account. -/
theorem visitTarget_concluded (connected : Bool) (raw : Option RawProposal) :
    Concluded (placeholder signal target).key
      (visitTarget connected parts signal target raw) := by
  unfold visitTarget
  dsimp only
  split
  · have underway : Underway (placeholder signal target).key false
        ⟨placeholder signal target, []⟩ := by
      constructor
      · rfl
      · rfl
      · intro event absent
        cases absent
      · rfl
    exact underway.concludes .failed _
  · have finished := processAccount_finishes parts signal target raw
      (placeholder signal target) rfl rfl
    unfold Finishes at finished
    split
    · rename_i returned
      rwa [returned] at finished
    · rename_i raised broken
      rw [broken] at finished
      obtain ⟨sent, underway⟩ := finished
      exact underway.concludes .failed _

end Visit

/-! ## Every visit -/

/-- What holds of the events so far: they lead to the ledger, they respect settled
records, no order is sent twice, and every order that is sent has a settled record. -/
structure OneOrderEach (events : List FanoutEvent) (ledger : FanoutLedger) : Prop where
  replayed : FanoutLedger.empty.replay events = ledger
  respects : RespectsAll FanoutLedger.empty events
  nodup : (orders events).Nodup
  settled : ∀ key ∈ orders events, ∃ dispatch, ledger.recordAt key = some dispatch ∧
    dispatch.status.terminal = true

/-- No record of the key is settled. -/
def Unsettled (ledger : FanoutLedger) (key : String × String) : Prop :=
  ∀ held, ledger.recordAt key = some held → held.status.terminal = false

theorem Unsettled.respects {ledger : FanoutLedger} {event : FanoutEvent}
    {key : String × String} (unsettled : Unsettled ledger key)
    (names : ∀ dispatch, event.recorded = some dispatch → dispatch.key = key) :
    Respects ledger event := by
  intro dispatch recorded held found settled
  rw [names dispatch recorded] at found
  rw [unsettled held found] at settled
  cases settled

/-- Events on open records of one key respect a ledger in which that key is open. -/
theorem Unsettled.respectsAll {key : String × String} {ledger : FanoutLedger}
    {events : List FanoutEvent} (unsettled : Unsettled ledger key)
    (records : ∀ event ∈ events, ∀ dispatch, event.recorded = some dispatch →
      dispatch.key = key ∧ dispatch.status.terminal = false) :
    RespectsAll ledger events ∧ Unsettled (ledger.replay events) key := by
  induction events generalizing ledger with
  | nil => exact ⟨trivial, unsettled⟩
  | cons event rest ih =>
      have here := records event List.mem_cons_self
      have after : Unsettled (ledger.apply event) key := by
        intro held found
        rcases FanoutLedger.recordAt_apply ledger event key with
          unchanged | ⟨dispatch, recorded, -, there⟩
        · exact unsettled held (unchanged ▸ found)
        · cases there.symm.trans found
          exact (here held recorded).2
      have first := unsettled.respects fun dispatch recorded => (here dispatch recorded).1
      have others := ih after fun other member => records other (List.mem_cons_of_mem _ member)
      exact ⟨⟨first, others.1⟩, others.2⟩

/-- An open record is changed to a settled one, which is then stored again. -/
theorem Unsettled.respectsAll_settle {ledger : FanoutLedger} {final : AccountDispatch}
    (unsettled : Unsettled ledger final.key)
    (known : ledger.signals.contains final.signalId = true) :
    RespectsAll ledger [.changed final, .upserted final] := by
  constructor
  · apply unsettled.respects
    intro dispatch recorded
    cases recorded
    rfl
  · constructor
    · intro dispatch recorded held found settled
      cases recorded
      have stored := FanoutLedger.recordAt_changeEntry ledger final
        (fun entry => entry.setAccount final) (fun _ => rfl) final.key
      rw [if_pos ⟨rfl, known⟩] at stored
      exact Option.some.inj (stored.symm.trans found)
    · trivial

/-- Further events send orders for open records only, and settle each. -/
theorem OneOrderEach.append {events later : List FanoutEvent} {ledger : FanoutLedger}
    (ordered : OneOrderEach events ledger) (respects : RespectsAll ledger later)
    (nodup : (orders later).Nodup) (fresh : ∀ key ∈ orders later, Unsettled ledger key)
    (settled : ∀ key ∈ orders later, ∃ dispatch,
      (ledger.replay later).recordAt key = some dispatch ∧ dispatch.status.terminal = true) :
    OneOrderEach (events ++ later) (ledger.replay later) := by
  constructor
  · rw [FanoutLedger.replay_append, ordered.replayed]
  · rw [respectsAll_append, ordered.replayed]
    exact ⟨ordered.respects, respects⟩
  · rw [orders_append, List.nodup_append']
    refine ⟨ordered.nodup, nodup, ?_⟩
    intro key before now
    obtain ⟨held, found, terminal⟩ := ordered.settled key before
    rw [fresh key now held found] at terminal
    cases terminal
  · intro key member
    rw [orders_append] at member
    rcases List.mem_append.mp member with before | now
    · obtain ⟨held, found, terminal⟩ := ordered.settled key before
      exact ⟨held, respects.recordAt_replay found terminal, terminal⟩
    · exact settled key now

/-- The events of a visit to a target whose record is open. -/
theorem OneOrderEach.visit {events : List FanoutEvent} {ledger : FanoutLedger}
    (ordered : OneOrderEach events ledger) (dispatch : AccountDispatch)
    {process : AccountProcess}
    (registered : ledger.signals.contains dispatch.signalId = true)
    (unsettled : Unsettled ledger dispatch.key)
    (opening : dispatch.status.terminal = false)
    (concluded : Concluded dispatch.key process) :
    OneOrderEach
      (events ++ (.upserted dispatch :: process.events ++ [.upserted process.dispatch]))
      (ledger.replay (.upserted dispatch :: process.events ++ [.upserted process.dispatch])) := by
  obtain ⟨sent, earlier, final, underway, rfl, names, settled⟩ := concluded
  -- The visit is its opening, the settling change, and the upsert of the settled record.
  let opened := FanoutEvent.upserted dispatch :: earlier.events
  have split : FanoutEvent.upserted dispatch :: (earlier.change final).events ++
      [.upserted (earlier.change final).dispatch] =
      opened ++ [.changed final, .upserted final] := by
    simp [opened, AccountProcess.change]
  have openRecords : ∀ event ∈ opened, ∀ other, event.recorded = some other →
      other.key = dispatch.key ∧ other.status.terminal = false := by
    intro event member other recorded
    rcases List.mem_cons.mp member with first | later
    · subst first
      cases recorded
      exact ⟨rfl, opening⟩
    · exact underway.records event later other recorded
  obtain ⟨beginning, still⟩ := unsettled.respectsAll openRecords
  have known : (ledger.replay opened).signals.contains final.signalId = true := by
    have same : final.signalId = dispatch.signalId := congrArg Prod.fst names
    rw [same]
    exact FanoutLedger.contains_replay _ _ registered
  have ending : RespectsAll (ledger.replay opened) [.changed final, .upserted final] := by
    apply Unsettled.respectsAll_settle
    · rw [names]
      exact still
    · exact known
  have stored : (ledger.replay (opened ++ [.changed final, .upserted final])).recordAt
      dispatch.key = some final := by
    rw [← names, FanoutLedger.replay_append]
    exact FanoutLedger.recordAt_upserted (FanoutLedger.contains_apply _ _ known)
  have sends : orders (opened ++ [.changed final, .upserted final]) =
      if sent then [dispatch.key] else [] := by
    have ends : orders [FanoutEvent.changed final, FanoutEvent.upserted final] = [] := rfl
    have opens : orders opened = orders earlier.events := rfl
    rw [orders_append, ends, List.append_nil, opens, underway.orders]
  have its : ∀ key ∈ orders (opened ++ [.changed final, .upserted final]),
      key = dispatch.key := by
    intro key member
    rw [sends] at member
    cases sent with
    | false => cases member
    | true => exact List.mem_singleton.mp member
  rw [split]
  apply ordered.append
  · exact (respectsAll_append _ _ _).mpr ⟨beginning, ending⟩
  · rw [sends]
    cases sent with
    | false => exact List.nodup_nil
    | true => exact List.nodup_singleton _
  · intro key member
    rw [its key member]
    exact unsettled
  · intro key member
    rw [its key member]
    exact ⟨final, stored, settled.terminal⟩

/-! ## One fan-out -/

/-- What holds in the course of a fan-out that comes after some events. -/
structure InOrder (before : List FanoutEvent) (signal : CanonicalSignal) (course : FanoutCourse) :
    Prop where
  ordered : OneOrderEach (before ++ course.events) course.ledger
  registered : course.ledger.signals.contains signal.signalId = true
  counted : course.executed + course.rejected + course.failed + course.duplicates =
    course.rows.length

theorem count_settled (course : FanoutCourse) {status : AccountStatus}
    (settled : EndStatus status) :
    (course.count status).executed + (course.count status).rejected +
        (course.count status).failed + (course.count status).duplicates =
      course.executed + course.rejected + course.failed + course.duplicates + 1 := by
  cases settled <;> simp [FanoutCourse.count, AccountStatus.executed] <;> omega

section Course

variable (connected : Bool) (signal : CanonicalSignal) (raw : Option RawProposal)
variable {before : List FanoutEvent}

theorem InOrder.fanOutTo {course : FanoutCourse} (inOrder : InOrder before signal course)
    (parts : FanoutParts) (target : FanoutTarget) :
    InOrder before signal (fanOutTo connected parts signal raw course target) := by
  unfold CanonicalFanout.fanOutTo
  split
  · exact inOrder
  · split
    · constructor
      · exact inOrder.ordered
      · exact inOrder.registered
      · have counted := inOrder.counted
        simp only [FanoutCourse.addRow, List.length_append, List.length_singleton]
        omega
    · rename_i unsettled
      have concluded := visitTarget_concluded parts signal target connected raw
      have status : EndStatus (visitTarget connected parts signal target raw).dispatch.status := by
        obtain ⟨_, _, _, _, ended, _, settled⟩ := concluded
        rw [ended]
        exact settled
      have visited := inOrder.ordered.visit (placeholder signal target)
        inOrder.registered ?_ rfl concluded
      · dsimp only
        generalize visitTarget connected parts signal target raw = visit at status visited ⊢
        have same := FanoutCourse.count_keeps (course.emit (.upserted (placeholder signal target) ::
          visit.events ++ [.upserted visit.dispatch])) visit.dispatch.status
        constructor
        · simp only [FanoutCourse.addRow]
          rw [same.1, same.2.1, FanoutCourse.emit, ← List.append_assoc]
          exact visited
        · simp only [FanoutCourse.addRow]
          rw [same.1]
          exact FanoutLedger.contains_replay _ _ inOrder.registered
        · have counted := inOrder.counted
          have more := count_settled (course.emit (.upserted (placeholder signal target) ::
            visit.events ++ [.upserted visit.dispatch])) status
          simp only [FanoutCourse.addRow, List.length_append, List.length_singleton]
          rw [same.2.2]
          simp only [FanoutCourse.emit] at more counted ⊢
          omega
      · intro held found
        have open_ := unsettled
        unfold FanoutLedger.recordAt at found
        simp only [placeholder, AccountDispatch.key] at found
        rw [found] at open_
        simpa using open_

theorem InOrder.fanOutFrom {course : FanoutCourse} (inOrder : InOrder before signal course)
    (parts : Nat → FanoutParts) (position : Nat) (targets : List FanoutTarget) :
    InOrder before signal
      (fanOutFrom connected parts signal raw course position targets) := by
  induction targets generalizing course position with
  | nil => exact inOrder
  | cons target rest ih => exact ih (inOrder.fanOutTo connected signal raw _ target) _

theorem inOrder_startCourse {ledger : FanoutLedger} (ordered : OneOrderEach before ledger) :
    InOrder before signal (startCourse ledger signal) := by
  have respects : RespectsAll ledger [.registered signal] := by
    constructor
    · intro dispatch recorded
      cases recorded
    · trivial
  have registers : OneOrderEach (before ++ [.registered signal])
      (ledger.replay [.registered signal]) := by
    apply ordered.append respects
    · exact List.nodup_nil
    · intro key absent
      cases absent
    · intro key absent
      cases absent
  constructor
  · exact registers
  · exact ledger.contains_registerSignal signal
  · rfl

end Course

/-! ## All fan-outs on one ledger -/

/-- One call of the coordinator. -/
structure FanoutCall where
  connected : Bool
  parts : Nat → FanoutParts
  signal : CanonicalSignal
  targets : List FanoutTarget
  raw : Option RawProposal

/-- The ledger, what has happened on it, and the answers of the calls. -/
structure FanoutHistory where
  ledger : FanoutLedger
  events : List FanoutEvent
  summaries : List FanoutSummary

namespace FanoutHistory

/-- The next call on the ledger. -/
def call (history : FanoutHistory) (call : FanoutCall) : FanoutHistory :=
  let course := CanonicalFanout.fanOut call.connected call.parts call.signal call.targets
    call.raw history.ledger
  ⟨course.ledger, history.events ++ course.events,
    history.summaries ++ [course.summary call.signal]⟩

/-- The calls one after another, on a ledger that starts empty. -/
def ofCalls (calls : List FanoutCall) : FanoutHistory :=
  calls.foldl call ⟨FanoutLedger.empty, [], []⟩

/-- The counts of a summary add up to its rows. -/
def Counted (summary : FanoutSummary) : Prop :=
  summary.executed + summary.rejected + summary.failed + summary.duplicates =
    summary.accounts.length

/-- What holds after every call. -/
structure Orderly (history : FanoutHistory) : Prop where
  ordered : OneOrderEach history.events history.ledger
  counted : ∀ summary ∈ history.summaries, Counted summary

theorem Orderly.call {history : FanoutHistory} (orderly : Orderly history) (next : FanoutCall) :
    Orderly (history.call next) := by
  have course := (inOrder_startCourse next.signal orderly.ordered).fanOutFrom next.connected
    next.signal next.raw next.parts 0 next.targets
  constructor
  · exact course.ordered
  · intro summary member
    rcases List.mem_append.mp member with before | last
    · exact orderly.counted summary before
    · cases List.mem_singleton.mp last
      exact course.counted

theorem orderly_ofCalls (calls : List FanoutCall) : Orderly (ofCalls calls) := by
  have start : Orderly ⟨FanoutLedger.empty, [], []⟩ := by
    constructor
    · constructor
      · rfl
      · trivial
      · exact List.nodup_nil
      · intro key absent
        cases absent
    · intro summary absent
      cases absent
  unfold ofCalls
  generalize (⟨FanoutLedger.empty, [], []⟩ : FanoutHistory) = history at start
  induction calls generalizing history with
  | nil => exact start
  | cons next rest ih => exact ih _ (start.call next)

end FanoutHistory

/-- However many signals are fanned out to whatever targets, the engine is called at most
once for a signal and an account, a record that has come to an end is never changed
again, and the counts of every summary add up to its rows. -/
theorem one_order_per_signal_and_account (calls : List FanoutCall) :
    (orders (FanoutHistory.ofCalls calls).events).Nodup ∧
    (∀ earlier between later,
      earlier ++ between ++ later = (FanoutHistory.ofCalls calls).events →
      ∀ signalId accountId dispatch,
        (FanoutLedger.empty.replay earlier).getAccountDispatch signalId accountId =
          some dispatch → dispatch.status.terminal = true →
        (FanoutLedger.empty.replay (earlier ++ between)).getAccountDispatch signalId accountId =
          some dispatch) ∧
    ∀ summary ∈ (FanoutHistory.ofCalls calls).summaries,
      summary.executed + summary.rejected + summary.failed + summary.duplicates =
        summary.accounts.length := by
  have orderly := FanoutHistory.orderly_ofCalls calls
  refine ⟨orderly.ordered.nodup, ?_, orderly.counted⟩
  intro earlier between later whole signalId accountId dispatch found terminal
  have respects := orderly.ordered.respects
  rw [← whole, respectsAll_append, respectsAll_append] at respects
  have kept : ((FanoutLedger.empty.replay earlier).replay between).recordAt
      (signalId, accountId) = some dispatch := respects.1.2.recordAt_replay found terminal
  rw [FanoutLedger.replay_append]
  exact kept

end EaBot.Execution
