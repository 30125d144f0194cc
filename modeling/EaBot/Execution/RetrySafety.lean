import EaBot.Execution.RestartRecovery
import EaBot.Execution.SendRuns

/-!
# What the sends of a call lead to

A call resends an order only after a failure that is transient and leaves nothing uncertain,
and never more often than its retries allow.  What follows an accepted reply runs under the
same handler as the send, so that an error there turns an accepted order into an uncertain
one.  A call that has sent its order and fails leaves the record in a state that a restart
counts as open: the exhausted exit writes none.
-/

namespace EaBot.Execution

open EaBot.Foundation EaBot.Persistence Program

section Calls

variable (config : EngineConfig) (surroundings : Surroundings) (caller : Nat)
variable (request : OrderRequest) (world : World)

/-- What a call returns, and the world afterwards. -/
def called : Except String ExecutionResult × World :=
  (executeOrder config surroundings caller request).run world

/-! ## Resending -/

/-- A failure that is certain in its literal reading: neither its code nor any word of its
message says that the broker may have accepted the order. -/
structure PlainlyCertain (reply : SendReply) : Prop where
  code : reply.errorCode ≠ -1 ∧ reply.errorCode ≠ 10012 ∧ reply.errorCode ≠ 10031
  words : ∀ message, messageLower reply.message = .ok message →
    ∀ word ∈ ambiguousKeywords, Text.contains message word = false

/-- A failure that is transient and not ambiguous is certain in its literal reading. -/
theorem plainlyCertain_of_transient {reply : SendReply}
    (transient : isTransientError reply.errorCode reply.message = .ok true)
    (certain : isAmbiguousExecution reply.errorCode reply.message = .ok false) :
    PlainlyCertain reply := by
  unfold isTransientError at transient
  unfold isAmbiguousExecution at certain
  cases lowered : messageLower reply.message with
  | error text =>
      rw [lowered] at transient
      cases transient
  | ok message =>
      rw [lowered, ok_bind] at transient certain
      by_cases unsent : saysNotSent message = true
      · rw [if_pos unsent] at transient
        cases transient
      · rw [if_neg unsent] at certain
        by_cases coded : (ambiguousRetcodes.contains reply.errorCode || reply.errorCode == -1) =
            true
        · rw [if_pos coded] at certain
          cases certain
        · rw [if_neg coded] at certain
          have worded : ambiguousKeywords.any (Text.contains message) = false :=
            Except.ok.inj certain
          simp [ambiguousRetcodes] at coded
          refine ⟨⟨coded.2, coded.1.1, coded.1.2⟩, ?_⟩
          intro found same word member
          have equal : found = message := Except.ok.inj (same.symm.trans lowered)
          rw [equal]
          simpa using List.any_eq_false.mp worded word member

/-- A call sends an order at most once more than its retries, and again only after a reply
that is a failure, transient and not ambiguous, with no landed order found. -/
theorem sends_bounded_and_certain :
    ∃ sent, sends (called config surroundings caller request world).2.log =
        sends world.log + sent ∧ sent ≤ config.maxRetries + 1 ∧
      ∀ number, number + 1 < sent →
        (∃ reply, (surroundings.attempts number).reply.bind parseSendResult = .ok reply ∧
          reply.success = false ∧
          isTransientError reply.errorCode reply.message = .ok true ∧
          isAmbiguousExecution reply.errorCode reply.message = .ok false ∧
          PlainlyCertain reply) ∧
        (config.hasOrderLocator = true →
          ∀ found, (surroundings.attempts number).located ≠ .ok (some found)) := by
  rcases executeOrder_ends config surroundings caller request world with
    silent | ⟨last, within, earlier, ended⟩
  · exact ⟨0, silent, Nat.zero_le _, fun number more => absurd more (Nat.not_lt_zero _)⟩
  · have resent : ∀ number < last, (∃ reply,
        (surroundings.attempts number).reply.bind parseSendResult = .ok reply ∧
          reply.success = false ∧
          isTransientError reply.errorCode reply.message = .ok true ∧
          isAmbiguousExecution reply.errorCode reply.message = .ok false ∧
          PlainlyCertain reply) ∧
        (config.hasOrderLocator = true →
          ∀ found, (surroundings.attempts number).located ≠ .ok (some found)) := by
      intro number before
      rcases (earlier number before).answered with
        ⟨reply, -, answered, failed, transient, certain⟩
      exact ⟨⟨reply, answered, failed, transient, certain,
        plainlyCertain_of_transient transient certain⟩, (earlier number before).notLanded⟩
    cases ended with
    | unsaved given kept memory returned failed =>
        refine ⟨last, kept, Nat.le_succ_of_le within, ?_⟩
        intro number more
        exact resent number (Nat.lt_of_succ_lt more)
    | decided state kept memory decided =>
        have once := Bool.toNat_le (handsOver config (surroundings.attempts last)
          (identified surroundings request) surroundings.nativeAvailable)
        refine ⟨last + _, kept.trans (Nat.add_assoc _ _ _), by omega, ?_⟩
        intro number more
        exact resent number (by omega)

/-! ## Accepted orders -/

/-- The send of pass `number` was answered by a fill with a ticket. -/
structure Accepted (number : Nat) (reply : SendReply) (ticket : Int) : Prop where
  sent : sends world.log + number < sends (called config surroundings caller request world).2.log
  answer : sendAnswer config (surroundings.attempts number) (identified surroundings request)
    surroundings.nativeAvailable world.simTicketSeq = .ok reply
  success : reply.success = true
  ticketed : reply.ticket = some ticket

/-- The states of an order that the broker has accepted. -/
def acceptedStates : List OrderState :=
  [.submitted, .acknowledged, .filled, .positionConfirmed]

/-- The call returns the ticket as a success, and the record is in a state of an accepted
order. -/
structure Reported (ticket : Int) : Prop where
  returned : ∃ given, (called config surroundings caller request world).1 = .ok given ∧
    given.success = true ∧ given.ticket = some ticket
  recorded : ∃ state ∈ acceptedStates,
    (called config surroundings caller request world).2.ledger.memoryState
      (callKey surroundings request) = some (.str state.value)

theorem Reported.success {config : EngineConfig} {surroundings : Surroundings} {caller : Nat}
    {request : OrderRequest} {world : World} {ticket : Int}
    (reported : Reported config surroundings caller request world ticket) :
    (called config surroundings caller request world).1.toOption.map ExecutionResult.success =
      some true := by
  rcases reported.returned with ⟨given, returned, success, -⟩
  rw [returned]
  exact congrArg some success

/-- Nothing that follows an accepted reply raises: the position reads for the confirmation and
for the summary succeed, and the price of the fill is a number. -/
structure Undisturbed (market : MarketView) (attempt : Attempt) (request : OrderRequest)
    (reply : SendReply) : Prop where
  confirms : ∃ confirmed, confirmExecution attempt reply.ticket = .ok confirmed
  syncs : ∃ summary, syncPosition market attempt.synced request.symbol attempt.isoNow = .ok summary
  priced : checkFillPrice request reply = .ok ()

/-- What raised after the reply leaves acceptance uncertain, and the locator finds the order
with the ticket of the reply. -/
def Readopted (market : MarketView) (attempt : Attempt) (request : OrderRequest)
    (reply : SendReply) (ticket : Int) : Prop :=
  ∃ text adopted, (settleOutcome market attempt request reply).2 = some text ∧
    isAmbiguousExecution (-1) (exceptionMessage text) = .ok true ∧
    adoptLostResponse config market attempt request = .ok (some adopted) ∧
    adopted.ticket = some ticket

theorem undisturbed_iff (market : MarketView) (attempt : Attempt) (request : OrderRequest)
    (reply : SendReply) :
    Undisturbed market attempt request reply ↔
      (settleOutcome market attempt request reply).2 = none := by
  have filled : fillFailure market attempt request reply = none ↔
      (∃ summary, syncPosition market attempt.synced request.symbol attempt.isoNow =
        .ok summary) ∧ checkFillPrice request reply = .ok () := by
    unfold fillFailure
    cases syncPosition market attempt.synced request.symbol attempt.isoNow with
    | error text => simp
    | ok summary => cases checkFillPrice request reply <;> simp
  unfold settleOutcome
  cases confirmed : confirmExecution attempt reply.ticket with
  | error text =>
      constructor
      · intro undisturbed
        rcases undisturbed.confirms with ⟨_, absent⟩
        rw [confirmed] at absent
        cases absent
      · intro absent
        cases absent
  | ok found =>
      have either : ((match found with
          | false => (OrderState.acknowledged, fillFailure market attempt request reply)
          | true => (.positionConfirmed, fillFailure market attempt request reply)) :
            OrderState × Option String).2 = fillFailure market attempt request reply := by
        cases found <;> rfl
      constructor
      · intro undisturbed
        have none := filled.mpr ⟨undisturbed.syncs, undisturbed.priced⟩
        cases found <;> exact none
      · intro none
        have parts := filled.mp (by cases found <;> exact none)
        exact ⟨⟨found, confirmed⟩, parts.1, parts.2⟩

theorem settleOutcome_accepted (market : MarketView) (attempt : Attempt)
    (request : OrderRequest) (reply : SendReply) :
    (settleOutcome market attempt request reply).1 ∈ acceptedStates := by
  unfold settleOutcome
  cases confirmExecution attempt reply.ticket with
  | error text => simp [acceptedStates]
  | ok found => cases found <;> simp [acceptedStates]

variable {config surroundings caller request world}

/-- The pass that was answered by a fill decides the call. -/
theorem Accepted.decided {number : Nat} {reply : SendReply} {ticket : Int}
    (accepted : Accepted config surroundings caller request world number reply ticket) :
    ∃ state, (called config surroundings caller request world).2.ledger.memoryState
        (callKey surroundings request) = some (.str state.value) ∧
      Decided config surroundings (identified surroundings request) world.simTicketSeq number
        (called config surroundings caller request world).1 state := by
  have final : ¬ Resendable config surroundings (identified surroundings request)
      world.simTicketSeq number := by
    intro resendable
    rcases resendable.answered with ⟨failure, answer, -, failed, -⟩
    have same := Except.ok.inj (answer.symm.trans accepted.answer)
    rw [same, accepted.success] at failed
    cases failed
  rcases executeOrder_ends config surroundings caller request world with
    silent | ⟨last, within, earlier, ended⟩
  · have sent := accepted.sent
    rw [called, silent] at sent
    exact absurd sent (by omega)
  · have reached : last ≤ number := Nat.not_lt.mp fun before => final (earlier number before)
    have sent := accepted.sent
    cases ended with
    | unsaved given kept memory returned failed =>
        rw [called, kept] at sent
        exact absurd sent (by omega)
    | decided state kept memory decided =>
        have once := Bool.toNat_le (handsOver config (surroundings.attempts last)
          (identified surroundings request) surroundings.nativeAvailable)
        rw [called, kept] at sent
        have same : last = number := by omega
        rw [same] at decided
        exact ⟨state, memory, decided⟩

theorem success_of_adopted {market : MarketView} {attempt : Attempt} {adopted : ExecutionResult}
    (found : adoptLostResponse config market attempt request = .ok (some adopted)) :
    adopted.success = true := by
  unfold adoptLostResponse at found
  split at found
  · cases found
  · split at found
    · cases found
    · cases found
    · rcases of_bind_eq_ok found with ⟨ticket, -, rest⟩
      rcases of_bind_eq_ok rest with ⟨summary, -, built⟩
      cases built
      rfl

/-- What raises after an accepted reply is an exception of the attempt. -/
theorem passVerdict_of_accepted {seq number : Nat} {left : Bool} {reply : SendReply}
    {top : OrderState} {verdict : Verdict}
    (answer : sendAnswer config (surroundings.attempts number) request
      surroundings.nativeAvailable seq = .ok reply) (success : reply.success = true)
    (failure : passVerdict config surroundings request seq number left = some (top, verdict)) :
    ∃ text, (settleOutcome surroundings.market (surroundings.attempts number) request reply).2 =
        some text ∧
      verdict = failureVerdict config surroundings.market (surroundings.attempts number) request
        (-1) (exceptionMessage text) left := by
  unfold passVerdict at failure
  rw [answer, attemptFailure, if_pos success, Option.map_map] at failure
  rcases Option.map_eq_some_iff.mp failure with ⟨text, raised, same⟩
  exact ⟨text, raised, (Prod.mk.inj same).2.symm⟩

/-- An exception is adopted, left unknown or given up, and only an ambiguous one is adopted. -/
theorem failureVerdict_of_exception {market : MarketView} {attempt : Attempt} (text : String)
    (left : Bool) {adopted : ExecutionResult} :
    failureVerdict config market attempt request (-1) (exceptionMessage text) left =
        .adopt adopted ↔
      isAmbiguousExecution (-1) (exceptionMessage text) = .ok true ∧
        adoptLostResponse config market attempt request = .ok (some adopted) := by
  unfold failureVerdict adoptVerdict
  cases ambiguity : isAmbiguousExecution (-1) (exceptionMessage text) with
  | error raised => simp
  | ok ambiguous =>
      cases ambiguous with
      | true =>
          cases adoptLostResponse config market attempt request with
          | error raised => simp
          | ok found => cases found <;> simp
      | false =>
          rw [not_transient_of_not_ambiguous ambiguity]
          simp

/-- An accepted order is reported exactly when nothing raises after the reply, or what raises
is uncertain and the locator finds the order. -/
theorem Accepted.reported_iff {number : Nat} {reply : SendReply} {ticket : Int}
    (accepted : Accepted config surroundings caller request world number reply ticket) :
    Reported config surroundings caller request world ticket ↔
      Undisturbed surroundings.market (surroundings.attempts number)
          (identified surroundings request) reply ∨
        Readopted config surroundings.market (surroundings.attempts number)
          (identified surroundings request) reply ticket := by
  rw [undisturbed_iff]
  rcases accepted.decided with ⟨state, memory, decided⟩
  cases decided with
  | reported found given answer success undisturbed returned fulfilled ticketed =>
      have same : found = reply := Except.ok.inj (answer.symm.trans accepted.answer)
      subst same
      refine iff_of_true ⟨⟨given, returned, fulfilled, ticketed.trans accepted.ticketed⟩, ?_⟩
        (.inl undisturbed)
      exact ⟨_, settleOutcome_accepted _ _ _ _, memory⟩
  | failed left top verdict state failure ends =>
      rcases passVerdict_of_accepted accepted.answer accepted.success failure with
        ⟨text, raised, same⟩
      rw [same] at ends
      have disturbed : (settleOutcome surroundings.market (surroundings.attempts number)
          (identified surroundings request) reply).2 ≠ none := by
        rw [raised]
        exact Option.some_ne_none text
      constructor
      · rintro ⟨⟨given, returned, success, ticketed⟩, -⟩
        right
        generalize verdict : failureVerdict config surroundings.market
          (surroundings.attempts number) (identified surroundings request) (-1)
          (exceptionMessage text) left = outcome at ends
        cases outcome with
        | stop => exact absurd success (Bool.eq_false_iff.mp (ends.2 given returned))
        | retry => exact ends.elim
        | unknown =>
            rcases ends.2 with ⟨refusal, refused, failed⟩
            have same := Except.ok.inj (refused.symm.trans returned)
            rw [same] at failed
            exact absurd success (Bool.eq_false_iff.mp failed)
        | adopt adopted =>
            rcases (failureVerdict_of_exception text left).mp verdict with ⟨ambiguous, found⟩
            have same := Except.ok.inj (ends.2.symm.trans returned)
            rw [← same] at ticketed
            exact ⟨text, adopted, raised, ambiguous, found, ticketed⟩
      · rintro (undisturbed | ⟨other, adopted, again, ambiguous, found, ticketed⟩)
        · exact absurd undisturbed disturbed
        · have same : text = other := Option.some.inj (raised.symm.trans again)
          subst same
          rw [(failureVerdict_of_exception text left).mpr ⟨ambiguous, found⟩] at ends
          rcases ends with ⟨rfl, returned⟩
          exact ⟨⟨adopted, returned, success_of_adopted found, ticketed⟩,
            ⟨.positionConfirmed, by simp [acceptedStates], memory⟩⟩

variable (config surroundings caller request world)

/-- A call reports every order that the broker has accepted exactly when, for the send that was
accepted, nothing raises after the reply, or what raises is uncertain and the locator finds the
order under its ticket. -/
theorem accepted_orders_reported_iff :
    (∀ number reply ticket,
      Accepted config surroundings caller request world number reply ticket →
        Reported config surroundings caller request world ticket) ↔
      ∀ number reply ticket,
        Accepted config surroundings caller request world number reply ticket →
          Undisturbed surroundings.market (surroundings.attempts number)
              (identified surroundings request) reply ∨
            Readopted config surroundings.market (surroundings.attempts number)
              (identified surroundings request) reply ticket :=
  forall_congr' fun _ => forall_congr' fun _ => forall_congr' fun _ =>
    forall_congr' fun accepted => accepted.reported_iff

/-! ## Orders that have failed -/

/-- A restart counts the record of an order as open. -/
def CountsAsOpen (ledger : Ledger) (key : String) : Prop :=
  ∃ record, ledger.orderStore.get key = some record ∧
    RestartRecovery.intentIsOpen ⟨fun name => .value (record.get name)⟩ = .value true

/-- The states in which a call can leave a record that it has sent. -/
theorem countsAsOpen_of_memoryState {ledger : Ledger} {key : String} {state : OrderState}
    (memory : ledger.memoryState key = some (.str state.value))
    (listed : RestartRecovery.openStates.contains state.value = true) :
    CountsAsOpen ledger key := by
  rcases Option.bind_eq_some_iff.mp memory with ⟨record, stored, held⟩
  refine ⟨record, stored, ?_⟩
  have lowered : Text.lower (Val.str state.value).text = state.value := state.lower_value
  simp only [RestartRecovery.intentIsOpen, RestartRecovery.field, held]
  change Answer.value _ = _
  rw [Option.getD_some, lowered, listed]

/-- A pass that decides a call leaves a state that counts as open. -/
theorem Decided.listed {seq number : Nat} {result : Except String ExecutionResult}
    {state : OrderState}
    (decided : Decided config surroundings request seq number result state) :
    RestartRecovery.openStates.contains state.value = true := by
  cases decided with
  | reported reply given answer accepted undisturbed returned success ticket =>
      have member := settleOutcome_accepted surroundings.market (surroundings.attempts number)
        request reply
      generalize (settleOutcome surroundings.market (surroundings.attempts number) request
        reply).1 = state at member
      revert state
      decide
  | failed left top verdict state failure ends =>
      rcases Option.map_eq_some_iff.mp failure with ⟨⟨reached, code, message⟩, fails, same⟩
      rcases Prod.mk.inj same with ⟨rfl, -⟩
      cases verdict with
      | stop =>
          rw [ends.1]
          rcases attemptFailure_top fails with rfl | rfl | rfl <;> decide
      | adopt adopted =>
          rw [ends.1]
          decide
      | unknown =>
          rw [ends.1]
          decide
      | retry => exact ends.elim

/-- Whatever a call that has sent its order returns, a restart counts its record as open: no
exit writes a state in which a failed order rests. -/
theorem sent_order_counts_as_open
    (sent : sends world.log < sends (called config surroundings caller request world).2.log) :
    CountsAsOpen (called config surroundings caller request world).2.ledger
      (callKey surroundings request) := by
  rcases executeOrder_ends config surroundings caller request world with
    silent | ⟨last, within, earlier, ended⟩
  · rw [called, silent] at sent
    exact absurd sent (Nat.lt_irrefl _)
  · cases ended with
    | unsaved given kept memory returned failed =>
        exact countsAsOpen_of_memoryState memory (by decide)
    | decided state kept memory decided =>
        exact countsAsOpen_of_memoryState memory decided.listed

/-- A call that has sent its order and returns a failure that leaves nothing uncertain leaves a
record that a restart does not count as open. -/
def RestsAfterFailure : Prop :=
  ∀ given, sends world.log < sends (called config surroundings caller request world).2.log →
    (called config surroundings caller request world).1 = .ok given → given.success = false →
    isAmbiguousExecution given.errorCode given.errorMessage = .ok false →
      ¬ CountsAsOpen (called config surroundings caller request world).2.ledger
        (callKey surroundings request)

/-- A failed order never comes to rest: a call meets the requirement only where it does not
apply. -/
theorem rests_after_failure_iff :
    RestsAfterFailure config surroundings caller request world ↔
      ¬ ∃ given, sends world.log < sends (called config surroundings caller request world).2.log ∧
        (called config surroundings caller request world).1 = .ok given ∧
        given.success = false ∧
        isAmbiguousExecution given.errorCode given.errorMessage = .ok false := by
  constructor
  · rintro rests ⟨given, sent, returned, failed, certain⟩
    exact rests given sent returned failed certain
      (sent_order_counts_as_open config surroundings caller request world sent)
  · intro none given sent returned failed certain
    exact absurd ⟨given, sent, returned, failed, certain⟩ none

end Calls

/-! ## Concrete calls -/

/-- Surroundings whose broker fills the order, and whose positions then have no symbol. -/
def namelessPositions : Surroundings :=
  { Sample.surroundings with
    attempts := fun _ =>
      { Sample.attempt with synced := .error "'NoneType' object has no attribute 'upper'" } }

/-- An order that the broker has accepted is reported as failed. -/
theorem accepted_order_reported_as_failed :
    ¬ ∀ number reply ticket,
      Accepted Sample.config namelessPositions 0 Sample.request (World.start Ledger.initial)
          number reply ticket →
        Reported Sample.config namelessPositions 0 Sample.request (World.start Ledger.initial)
          ticket := by
  intro reports
  have accepted : Accepted Sample.config namelessPositions 0 Sample.request
      (World.start Ledger.initial) 0 ⟨true, some 7, 0, .str "", .none⟩ 7 :=
    ⟨by decide +kernel, by rfl, rfl, rfl⟩
  have failed : (called Sample.config namelessPositions 0 Sample.request
      (World.start Ledger.initial)).1.toOption.map ExecutionResult.success = some false := by
    decide +kernel
  have succeeded := (reports 0 _ 7 accepted).success
  cases failed.symm.trans succeeded

/-- Surroundings whose broker refuses the order for want of money. -/
def noMoney : Surroundings :=
  { Sample.surroundings with
    attempts := fun _ =>
      { Sample.attempt with
        reply := .ok (.mapping (Dict.empty.update [("success", .bool false),
          ("retcode", .int 10019), ("message", .str "No money")])) } }

/-- A refused order stays submitting, and a restart counts it as open. -/
theorem refused_order_stays_submitting :
    (called Sample.config noMoney 0 Sample.request
        (World.start Ledger.initial)).2.ledger.memoryState "order-1" = some (.str "submitting") ∧
      ¬ RestsAfterFailure Sample.config noMoney 0 Sample.request
        (World.start Ledger.initial) := by
  constructor
  · decide +kernel
  · intro rests
    have sent : sends (World.start Ledger.initial).log <
        sends (called Sample.config noMoney 0 Sample.request
          (World.start Ledger.initial)).2.log := by
      decide +kernel
    have refusal : (called Sample.config noMoney 0 Sample.request
        (World.start Ledger.initial)).1.toOption.map (fun given =>
          (given.success, given.errorCode, given.errorMessage)) =
        some (false, 10019, .str "No money") := by
      decide +kernel
    have stays := sent_order_counts_as_open Sample.config noMoney 0 Sample.request
      (World.start Ledger.initial) sent
    cases returned : (called Sample.config noMoney 0 Sample.request
        (World.start Ledger.initial)).1 with
    | error text =>
        rw [returned] at refusal
        cases refusal
    | ok given =>
        rw [returned] at refusal
        have parts := Option.some.inj refusal
        have failed : given.success = false := congrArg Prod.fst parts
        have code : given.errorCode = 10019 := congrArg (fun part => part.2.1) parts
        have message : given.errorMessage = .str "No money" :=
          congrArg (fun part => part.2.2) parts
        have certain : isAmbiguousExecution given.errorCode given.errorMessage = .ok false := by
          rw [code, message]
          decide +kernel
        exact rests given sent returned failed certain stays

end EaBot.Execution
