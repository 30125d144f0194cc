import EaBot.Execution.CanonicalFanout

/-!
# What a fan-out sends and what the gates have approved

The gate of an account is asked on the normalised order, and again on the built request
where the request differs.  The comparison covers the symbol, the volume and the price
levels.  It leaves out the direction, so that a request for the other side of the market
goes out on the approval of this one.
-/

namespace EaBot.Execution

open EaBot.Foundation EaBot.Orchestration CanonicalFanout

/-- The request is the order that was approved. -/
structure OrderRequest.Matches (request : OrderRequest) (approved : AccountProposal) : Prop where
  symbol : request.symbol = approved.symbol
  orderType : request.orderType = approved.orderType
  volume : Close request.volume.value approved.volume
  price : Close request.price.value approved.price
  sl : Close request.sl.value approved.stopLoss
  tp : Close request.tp.value approved.takeProfit

/-- The record has the values of the request. -/
structure AccountDispatch.Carries (dispatch : AccountDispatch) (request : OrderRequest) :
    Prop where
  volume : dispatch.volume = request.volume.value
  price : dispatch.price = request.price.value
  sl : dispatch.sl = request.sl.value
  tp : dispatch.tp = request.tp.value

/-- The proposals that the gates have approved last, by account. -/
abbrev Approvals := String → Option AccountProposal

/-- The approvals after an event. -/
def Approvals.after (approvals : Approvals) : FanoutEvent → Approvals
  | .judged accountId proposal true => Function.update approvals accountId (some proposal)
  | _ => approvals

/-- An order that the event sends is the one approved last for its account, and the
record shows it. -/
def AsApproved (approvals : Approvals) : FanoutEvent → Prop
  | .executed dispatch request =>
      ∃ approved, approvals dispatch.accountId = some approved ∧ request.Matches approved ∧
        dispatch.Carries request
  | _ => True

/-- Every order that the events send is the one approved last for its account. -/
def SentAsApproved (approvals : Approvals) : List FanoutEvent → Prop
  | [] => True
  | event :: rest => AsApproved approvals event ∧ SentAsApproved (approvals.after event) rest

/-- The event sends an order. -/
def FanoutEvent.Sends : FanoutEvent → Prop
  | executed _ _ => True
  | _ => False

/-- The built request is labelled as the approved order is, and names no zero for a level
that the approved order has.  The second gate looks at the final values, but asks for the
label in upper case. -/
def KeepsOrder (approved : AccountProposal) (request : OrderRequest) : Prop :=
  if differsFromApproved (proposalFromRequest request approved) approved then
    Text.upper request.orderType = request.orderType
  else
    request.orderType = approved.orderType ∧
      (request.sl.value = 0 → approved.stopLoss = 0) ∧
      (request.tp.value = 0 → approved.takeProfit = 0)

instance (request : OrderRequest) (approved : AccountProposal) :
    Decidable (request.Matches approved) :=
  decidable_of_iff
    (request.symbol = approved.symbol ∧ request.orderType = approved.orderType ∧
      Close request.volume.value approved.volume ∧ Close request.price.value approved.price ∧
      Close request.sl.value approved.stopLoss ∧ Close request.tp.value approved.takeProfit)
    ⟨fun ⟨symbol, orderType, volume, price, sl, tp⟩ =>
        ⟨symbol, orderType, volume, price, sl, tp⟩,
      fun same => ⟨same.symbol, same.orderType, same.volume, same.price, same.sl, same.tp⟩⟩

instance (dispatch : AccountDispatch) (request : OrderRequest) :
    Decidable (dispatch.Carries request) :=
  decidable_of_iff
    (dispatch.volume = request.volume.value ∧ dispatch.price = request.price.value ∧
      dispatch.sl = request.sl.value ∧ dispatch.tp = request.tp.value)
    ⟨fun ⟨volume, price, sl, tp⟩ => ⟨volume, price, sl, tp⟩,
      fun same => ⟨same.volume, same.price, same.sl, same.tp⟩⟩

instance (approvals : Approvals) : (event : FanoutEvent) → Decidable (AsApproved approvals event)
  | .executed dispatch request =>
      inferInstanceAs (Decidable (∃ approved, approved ∈ approvals dispatch.accountId ∧
        request.Matches approved ∧ dispatch.Carries request))
  | .registered _ => isTrue trivial
  | .upserted _ => isTrue trivial
  | .changed _ => isTrue trivial
  | .judged _ _ _ => isTrue trivial

/-- Whether every order is sent as approved can be read off the events. -/
def decideSentAsApproved : (approvals : Approvals) → (events : List FanoutEvent) →
    Decidable (SentAsApproved approvals events)
  | _, [] => isTrue trivial
  | approvals, event :: rest =>
      have := decideSentAsApproved (approvals.after event) rest
      inferInstanceAs (Decidable (_ ∧ _))

instance (approvals : Approvals) (events : List FanoutEvent) :
    Decidable (SentAsApproved approvals events) :=
  decideSentAsApproved approvals events

/-! ## Events -/

/-- The approvals after several events. -/
def Approvals.afterAll (approvals : Approvals) (events : List FanoutEvent) : Approvals :=
  events.foldl Approvals.after approvals

theorem sentAsApproved_append (approvals : Approvals) (first second : List FanoutEvent) :
    SentAsApproved approvals (first ++ second) ↔
      SentAsApproved approvals first ∧ SentAsApproved (approvals.afterAll first) second := by
  induction first generalizing approvals with
  | nil => simp [SentAsApproved, Approvals.afterAll]
  | cons event rest ih =>
      simp only [List.cons_append, SentAsApproved, ih, and_assoc]
      rfl

theorem sentAsApproved_of_silent {events : List FanoutEvent}
    (silent : ∀ event ∈ events, ¬ event.Sends) (approvals : Approvals) :
    SentAsApproved approvals events := by
  induction events generalizing approvals with
  | nil => trivial
  | cons event rest ih =>
      constructor
      · have quiet := silent event List.mem_cons_self
        cases event with
        | executed dispatch request => exact absurd trivial quiet
        | _ => trivial
      · exact ih (fun other member => silent other (List.mem_cons_of_mem _ member)) _

theorem not_differs_iff (final approved : AccountProposal) :
    differsFromApproved final approved = false ↔
      final.symbol = approved.symbol ∧ Close final.volume approved.volume ∧
        Close final.price approved.price ∧ Close final.stopLoss approved.stopLoss ∧
        Close final.takeProfit approved.takeProfit := by
  simp [differsFromApproved, Close, and_assoc]

theorem nonzeroOr_eq_iff (number fallback : ℚ) :
    nonzeroOr number fallback = number ↔ (number = 0 → fallback = 0) := by
  unfold nonzeroOr
  split
  · rename_i zero
    simp [zero]
  · rename_i nonzero
    simp [nonzero]

/-! ## One account -/

section Account

variable (parts : FanoutParts) (signal : CanonicalSignal) (target : FanoutTarget)

/-- Nothing has been sent yet, and `approved` is what the gate of the account has approved
last. -/
structure Approves (accountId : String) (approved : AccountProposal) (process : AccountProcess) :
    Prop where
  account : process.dispatch.accountId = accountId
  silent : ∀ event ∈ process.events, ¬ event.Sends
  latest : ∀ approvals : Approvals,
    approvals.afterAll process.events accountId = some approved

/-- The request of the account meets the condition. -/
def KeepsRequest (raw : Option RawProposal) : Prop :=
  ∀ request, buildRequest parts (normalize parts signal raw) signal target.accountId =
    some request → KeepsOrder (normalize parts signal raw) request

theorem silent_append {first second : List FanoutEvent}
    (firstSilent : ∀ event ∈ first, ¬ event.Sends)
    (secondSilent : ∀ event ∈ second, ¬ event.Sends) :
    ∀ event ∈ first ++ second, ¬ event.Sends := by
  intro event member
  rcases List.mem_append.mp member with before | behind
  · exact firstSilent event before
  · exact secondSilent event behind

theorem silent_singleton {event : FanoutEvent} (quiet : ¬ event.Sends) :
    ∀ other ∈ [event], ¬ other.Sends := by
  intro other member
  cases List.mem_singleton.mp member
  exact quiet

theorem silent_changes (first second : AccountDispatch) :
    ∀ event ∈ [FanoutEvent.changed first, .changed second], ¬ event.Sends := by
  have before : ∀ event ∈ [FanoutEvent.changed first], ¬ event.Sends :=
    silent_singleton not_false
  have behind : ∀ event ∈ [FanoutEvent.changed second], ¬ event.Sends :=
    silent_singleton not_false
  exact silent_append before behind

theorem Approves.change {accountId : String} {approved : AccountProposal}
    {process : AccountProcess} (approves : Approves accountId approved process)
    {dispatch : AccountDispatch} (account : dispatch.accountId = accountId) :
    Approves accountId approved (process.change dispatch) := by
  constructor
  · exact account
  · exact silent_append approves.silent (silent_singleton not_false)
  · intro approvals
    rw [AccountProcess.change, Approvals.afterAll, List.foldl_append]
    exact approves.latest approvals

theorem change_change_events (process : AccountProcess) (first second : AccountDispatch) :
    ((process.change first).change second).events =
      process.events ++ [.changed first, .changed second] :=
  List.append_assoc _ _ _

/-- Sending is followed by changes of the record only. -/
theorem send_events (execute : OrderRequest → Except String ExecutionReply)
    (request : OrderRequest) (process : AccountProcess) :
    ∃ rest, (∀ event ∈ rest, ¬ event.Sends) ∧
      (send execute request process).process.events =
        process.events ++ (.executed process.dispatch request :: rest) := by
  unfold send
  dsimp only
  split
  · exact ⟨[], by simp, rfl⟩
  · split
    · exact ⟨[.changed _, .changed _], silent_changes _ _,
        (change_change_events _ _ _).trans (List.append_assoc _ _ _)⟩
    · exact ⟨[.changed _, .changed _], silent_changes _ _,
        (change_change_events _ _ _).trans (List.append_assoc _ _ _)⟩

/-- What the account is sent, once `approved` has passed the last gate. -/
theorem send_sentAsApproved_iff (execute : OrderRequest → Except String ExecutionReply)
    (request : OrderRequest) {accountId : String} {approved : AccountProposal}
    {process : AccountProcess} (approves : Approves accountId approved process)
    (approvals : Approvals) :
    SentAsApproved approvals (send execute request process).process.events ↔
      request.Matches approved ∧ process.dispatch.Carries request := by
  obtain ⟨rest, quiet, sends⟩ := send_events execute request process
  rw [sends, sentAsApproved_append]
  simp only [SentAsApproved, AsApproved, sentAsApproved_of_silent approves.silent,
    sentAsApproved_of_silent quiet, true_and, and_true, approves.account, approves.latest,
    Option.some.injEq, exists_eq_left']

/-- A request that the gate has not been asked on again. -/
theorem sent_unchanged_iff {approved : AccountProposal} {request : OrderRequest}
    {dispatch : AccountDispatch} {process : AccountProcess}
    (recorded : (recordRequest request approved process).dispatch = dispatch)
    (unchanged : differsFromApproved (proposalFromRequest request approved) approved = false) :
    request.Matches approved ∧ dispatch.Carries request ↔ KeepsOrder approved request := by
  obtain ⟨symbol, volume, price, sl, tp⟩ := (not_differs_iff _ _).mp unchanged
  subst recorded
  rw [KeepsOrder, if_neg (by simp [unchanged]), ← nonzeroOr_eq_iff, ← nonzeroOr_eq_iff]
  constructor
  · rintro ⟨same, carries⟩
    exact ⟨same.orderType, carries.sl, carries.tp⟩
  · rintro ⟨orderType, slKept, tpKept⟩
    exact ⟨⟨symbol, orderType, volume, price, sl, tp⟩, ⟨rfl, rfl, slKept, tpKept⟩⟩

/-- A request that the gate has approved itself. -/
theorem sent_final_iff {approved : AccountProposal} {request : OrderRequest}
    {process : AccountProcess}
    (changed : differsFromApproved (proposalFromRequest request approved) approved = true) :
    request.Matches (proposalFromRequest request approved) ∧
        (recordRequest request (proposalFromRequest request approved) process).dispatch.Carries
          request ↔ KeepsOrder approved request := by
  rw [KeepsOrder, if_pos changed]
  constructor
  · rintro ⟨same, -⟩
    exact same.orderType.symm
  · intro orderType
    constructor
    · exact ⟨rfl, orderType.symm, close_self _, close_self _, close_self _, close_self _⟩
    · exact ⟨rfl, rfl, (nonzeroOr_eq_iff _ _).mpr id, (nonzeroOr_eq_iff _ _).mpr id⟩

/-! ### The stages -/

/-- Whether an outcome sends what was approved is a question of the condition. -/
def Decides (raw : Option RawProposal) (outcome : AccountOutcome) : Prop :=
  ∀ approvals, SentAsApproved approvals outcome.process.events ↔
    ((∃ event ∈ outcome.process.events, event.Sends) → KeepsRequest parts signal target raw)

theorem decides_of_silent (raw : Option RawProposal) {outcome : AccountOutcome}
    (silent : ∀ event ∈ outcome.process.events, ¬ event.Sends) :
    Decides parts signal target raw outcome := by
  intro approvals
  refine iff_of_true (sentAsApproved_of_silent silent approvals) ?_
  rintro ⟨event, member, sends⟩
  exact absurd sends (silent event member)

/-- Nothing has been judged or sent yet. -/
structure Opens (accountId : String) (process : AccountProcess) : Prop where
  account : process.dispatch.accountId = accountId
  silent : ∀ event ∈ process.events, ¬ event.Sends

theorem passAccountGate_decides (raw : Option RawProposal) (proposal : AccountProposal)
    {process : AccountProcess} (opens : Opens target.accountId process) :
    (passAccountGate parts target proposal process).Satisfies
      (Decides parts signal target raw) (Approves target.accountId proposal) := by
  have judged : ∀ approved, ∀ event ∈ process.events ++ [.judged target.accountId proposal
      approved], ¬ event.Sends := fun approved =>
    silent_append opens.silent (silent_singleton not_false)
  unfold passAccountGate
  dsimp only
  split
  · rename_i approved
    apply Approves.change
    · constructor
      · exact opens.account
      · exact judged _
      · intro approvals
        rw [AccountProcess.note, approved, Approvals.afterAll, List.foldl_append]
        simp [Approvals.after]
    · exact opens.account
  · exact decides_of_silent _ _ _ _
      (silent_append (judged _) (silent_singleton not_false))

theorem findEngine_decides (raw : Option RawProposal) {proposal : AccountProposal}
    {process : AccountProcess} (approves : Approves target.accountId proposal process) :
    (findEngine parts process).Satisfies (Decides parts signal target raw)
      (fun found => Approves target.accountId proposal found.2) := by
  unfold findEngine
  split
  · exact decides_of_silent _ _ _ _
      (silent_append approves.silent (silent_singleton not_false))
  · exact approves.change approves.account

theorem findRequest_decides (raw : Option RawProposal) {proposal : AccountProposal}
    {process : AccountProcess} (approves : Approves target.accountId proposal process) :
    (findRequest parts signal target.accountId proposal process).Satisfies
      (Decides parts signal target raw)
      (fun request => buildRequest parts proposal signal target.accountId = some request) := by
  unfold findRequest
  split
  · exact decides_of_silent _ _ _ _
      (silent_append approves.silent (silent_singleton not_false))
  · rename_i request built
    exact built

/-- The proposal that goes on is the approved one, or the final one when it differs. -/
theorem passFinalGate_decides (raw : Option RawProposal) (request : OrderRequest)
    {proposal : AccountProposal} {process : AccountProcess}
    (approves : Approves target.accountId proposal process) :
    (passFinalGate parts target request proposal process).Satisfies
      (Decides parts signal target raw)
      (fun passed => Approves target.accountId passed.1 passed.2 ∧
        passed.1 =
          if differsFromApproved (proposalFromRequest request proposal) proposal then
            proposalFromRequest request proposal
          else proposal) := by
  have judged : ∀ approved, ∀ event ∈ process.events ++ [.judged target.accountId
      (proposalFromRequest request proposal) approved], ¬ event.Sends := fun approved =>
    silent_append approves.silent (silent_singleton not_false)
  unfold passFinalGate
  dsimp only
  split
  · split
    · rename_i differs approved
      refine ⟨?_, rfl⟩
      constructor
      · exact approves.account
      · exact judged _
      · intro approvals
        rw [AccountProcess.note, approved, Approvals.afterAll, List.foldl_append]
        simp [Approvals.after]
    · exact decides_of_silent _ _ _ _
        (silent_append (judged _) (silent_singleton not_false))
  · exact ⟨approves, rfl⟩

/-- What one account is sent. -/
theorem processAccount_decides (raw : Option RawProposal) (dispatch : AccountDispatch)
    (account : dispatch.accountId = target.accountId) :
    Decides parts signal target raw (processAccount parts signal target raw dispatch) := by
  have opens : Opens target.accountId
      (recordProposal (normalize parts signal raw) ⟨dispatch, []⟩) :=
    ⟨account, silent_singleton not_false⟩
  apply Stage.Satisfies.outcome
  refine Stage.Satisfies.bind
    (passAccountGate_decides parts signal target raw (normalize parts signal raw) opens) ?_
  intro process approves
  refine Stage.Satisfies.bind (findEngine_decides parts signal target raw approves) ?_
  rintro ⟨execute, process⟩ approves
  refine Stage.Satisfies.bind (findRequest_decides parts signal target raw approves) ?_
  intro request built
  refine Stage.Satisfies.bind (passFinalGate_decides parts signal target raw request approves) ?_
  rintro ⟨proposal, process⟩ ⟨approves, chosen⟩ approvals
  have recorded : Approves target.accountId proposal (recordRequest request proposal process) :=
    approves.change approves.account
  have sends : ∃ event ∈ (send execute request (recordRequest request proposal
      process)).process.events, event.Sends := by
    obtain ⟨rest, -, events⟩ := send_events execute request
      (recordRequest request proposal process)
    exact ⟨.executed _ request, events ▸ List.mem_append_right _ List.mem_cons_self, trivial⟩
  have keeps : KeepsRequest parts signal target raw ↔
      KeepsOrder (normalize parts signal raw) request := by
    constructor
    · intro kept
      exact kept request built
    · intro kept other found
      cases built.symm.trans found
      exact kept
  dsimp only at chosen
  refine (send_sentAsApproved_iff execute request recorded approvals).trans ?_
  rw [forall_prop_of_true sends, keeps, chosen]
  split
  · rename_i changed
    exact sent_final_iff changed
  · rename_i unchanged
    exact sent_unchanged_iff rfl (Bool.eq_false_iff.mpr unchanged)

end Account

/-! ## Every account -/

/-- A target that is visited, with the parts that the visit meets. -/
structure FanoutVisit where
  parts : FanoutParts
  target : FanoutTarget

section Fanout

variable (connected : Bool) (signal : CanonicalSignal) (raw : Option RawProposal)

/-- What happens during a visit. -/
def FanoutVisit.events (visit : FanoutVisit) : List FanoutEvent :=
  let visited := visitTarget connected visit.parts signal visit.target raw
  .upserted (placeholder signal visit.target) :: visited.events ++ [.upserted visited.dispatch]

/-- The visit sends an order. -/
def FanoutVisit.Sends (visit : FanoutVisit) : Prop :=
  ∃ event ∈ visit.events connected signal raw, event.Sends

/-- The visits of a fan-out: a target without an account, or whose record has come to an
end, is passed by. -/
def visits (parts : Nat → FanoutParts) (course : FanoutCourse) :
    Nat → List FanoutTarget → List FanoutVisit
  | _, [] => []
  | position, target :: rest =>
      let later := visits parts (fanOutTo connected (parts position) signal raw course target)
        (position + 1) rest
      if target.accountId = "" ∨ course.ledger.isTerminal signal.signalId target.accountId then
        later
      else ⟨parts position, target⟩ :: later

/-- The events of a fan-out are those of its visits. -/
theorem fanOutFrom_events (parts : Nat → FanoutParts) (course : FanoutCourse) (position : Nat)
    (targets : List FanoutTarget) :
    (fanOutFrom connected parts signal raw course position targets).events =
      course.events ++ (visits connected signal raw parts course position targets).flatMap
        (FanoutVisit.events connected signal raw) := by
  induction targets generalizing course position with
  | nil => exact (List.append_nil _).symm
  | cons target rest ih =>
      rw [fanOutFrom, ih, visits]
      by_cases nameless : target.accountId = ""
      · simp [fanOutTo, nameless]
      · cases held : (course.ledger.getAccountDispatch signal.signalId target.accountId).filter
          fun dispatch => dispatch.status.terminal with
        | some existing =>
            have ended : course.ledger.isTerminal signal.signalId target.accountId = true := by
              obtain ⟨found, terminal⟩ := Option.filter_eq_some_iff.mp held
              simp [FanoutLedger.isTerminal, found, terminal]
            simp [fanOutTo, nameless, held, ended, FanoutCourse.addRow]
        | none =>
            have opened : course.ledger.isTerminal signal.signalId target.accountId = false := by
              rw [Option.filter_eq_none_iff] at held
              cases found : course.ledger.getAccountDispatch signal.signalId target.accountId with
              | none => simp [FanoutLedger.isTerminal, found]
              | some dispatch => simpa [FanoutLedger.isTerminal, found] using held dispatch found
            simp [fanOutTo, nameless, held, opened, FanoutCourse.addRow,
              (FanoutCourse.count_keeps _ _).2.1, FanoutCourse.emit, FanoutVisit.events]

/-- What happens during a visit is decided by the request of the account. -/
theorem visit_sentAsApproved_iff (visit : FanoutVisit) (approvals : Approvals) :
    SentAsApproved approvals (visit.events connected signal raw) ↔
      (visit.Sends connected signal raw → KeepsRequest visit.parts signal visit.target raw) := by
  have decided : Decides visit.parts signal visit.target raw
      ⟨visitTarget connected visit.parts signal visit.target raw, none⟩ := by
    unfold visitTarget
    dsimp only
    split
    · exact decides_of_silent _ _ _ _ (silent_singleton not_false)
    · have processed := processAccount_decides visit.parts signal visit.target raw
        (placeholder signal visit.target) rfl
      split
      · exact processed
      · intro approvals
        simp only [AccountProcess.setStatus, AccountProcess.change]
        rw [sentAsApproved_append, processed approvals]
        simp [SentAsApproved, AsApproved, FanoutEvent.Sends, or_and_right, exists_or]
  have quiet : ∀ dispatch, ¬ (FanoutEvent.upserted dispatch).Sends := fun _ => not_false
  unfold FanoutVisit.Sends FanoutVisit.events
  dsimp only
  rw [List.cons_append, SentAsApproved, sentAsApproved_append, decided _]
  simp [SentAsApproved, AsApproved, quiet, or_and_right, exists_or]

theorem visits_sentAsApproved_iff (list : List FanoutVisit) (approvals : Approvals) :
    SentAsApproved approvals (list.flatMap (FanoutVisit.events connected signal raw)) ↔
      ∀ visit ∈ list, visit.Sends connected signal raw →
        KeepsRequest visit.parts signal visit.target raw := by
  induction list generalizing approvals with
  | nil => simp [SentAsApproved]
  | cons visit rest ih =>
      rw [List.flatMap_cons, sentAsApproved_append, visit_sentAsApproved_iff, ih,
        List.forall_mem_cons]

/-- A fan-out sends what the gates have approved, and records it, exactly when every
request that it sends keeps to the approved order. -/
theorem fanout_sends_as_approved_iff (parts : Nat → FanoutParts) (targets : List FanoutTarget)
    (ledger : FanoutLedger) :
    SentAsApproved (fun _ => none)
        (CanonicalFanout.fanOut connected parts signal targets raw ledger).events ↔
      ∀ visit ∈ visits connected signal raw parts (startCourse ledger signal) 0 targets,
        visit.Sends connected signal raw →
          KeepsRequest visit.parts signal visit.target raw := by
  rw [CanonicalFanout.fanOut, fanOutFrom_events, sentAsApproved_append,
    visits_sentAsApproved_iff]
  exact and_iff_right ⟨trivial, trivial⟩

end Fanout

namespace Sample

/-- A coordinator whose builder turns the order around. -/
def reversingParts : FanoutParts :=
  { fanoutParts with orderBuilder := some fun _ _ => .ok (fanoutRequest "SELL") }

end Sample

/-- A builder that turns the order around: the approval to buy sends an order to sell. -/
theorem reversed_order_is_sent :
    ¬ SentAsApproved (fun _ => none)
      (CanonicalFanout.fanOut false (fun _ => Sample.reversingParts) Sample.signal
        [Sample.fanoutTarget] (some Sample.rawProposal) FanoutLedger.empty).events := by
  decide +kernel

end EaBot.Execution
