import EaBot.Execution.Legality

/-!
# The sends of one call

The retry loop is a sequence of passes.  Every pass but the last one has sent the order once
and was answered by a failure that is transient and leaves nothing uncertain, with no order
found at the broker.  The last pass decides the result of the call and the state in which it
leaves the record.
-/

namespace EaBot.Execution

open EaBot.Foundation EaBot.Persistence Program

/-- Whether an event hands a submission over. -/
def Event.isSend : Event → Bool
  | dispatched .. => true
  | _ => false

/-- The number of submissions in a log. -/
def sends (log : List Event) : Nat :=
  (log.filter Event.isSend).length

/-! ## Parts that send nothing -/

/-- A part of the method that hands nothing over. -/
def SendsNone {α : Type} (program : Program World α) : Prop :=
  ∀ world, sends (program.run world).2.log = sends world.log

namespace SendsNone

variable {α β : Type}

theorem done (result : α) : SendsNone (pure result : Program World α) :=
  fun _ => rfl

theorem bind {program : Program World α} {next : α → Program World β}
    (first : SendsNone program) (second : ∀ result, SendsNone (next result)) :
    SendsNone (program >>= next) := by
  intro world
  rw [run_bind]
  exact (second _ _).trans (first world)

/-- An action that leaves the log alone. -/
theorem keep {action : World → α × World} (log : ∀ world, (action world).2.log = world.log) :
    SendsNone (perform action) :=
  fun world => congrArg sends (log world)

theorem setOrder (caller : Nat) (key : String) (state : OrderState)
    (extra : List (String × Val)) : SendsNone (setOrder caller key state extra) :=
  fun _ => rfl

theorem clearPending (key : String) : SendsNone (clearPending key) :=
  fun _ => rfl

theorem recordCompleted (key : String) (result : ExecutionResult) :
    SendsNone (recordCompleted key result) :=
  fun _ => rfl

end SendsNone

section Parts

variable (config : EngineConfig) (market : MarketView) (attempt : Attempt) (caller : Nat)
variable (request : OrderRequest)

theorem sendsNone_keepUnknown (key : String) : SendsNone (keepUnknown caller key) := by
  refine .bind (.keep fun _ => rfl) fun final => ?_
  split
  · exact .bind (.setOrder _ _ _ _) fun _ => .done _
  · exact .done _

theorem sendsNone_finishFill (retries : Nat) (reply : SendReply) (confirmed : Bool) :
    SendsNone (finishFill market attempt caller request retries reply confirmed) := by
  unfold finishFill
  dsimp only
  split
  · exact .done _
  · refine .bind (.clearPending _) fun _ => .bind (sendsNone_keepUnknown caller _) fun _ => ?_
    split
    · exact .done _
    · exact .bind (.recordCompleted _ _) fun _ => .done _

theorem sendsNone_settle (retries : Nat) (reply : SendReply) :
    SendsNone (settle market attempt caller request retries reply) := by
  refine .bind (.setOrder _ _ _ _) fun _ => .bind (.setOrder _ _ _ _) fun _ => ?_
  split
  · exact .done _
  · exact sendsNone_finishFill market attempt caller request retries reply false
  · refine .bind (.bind (.setOrder _ _ _ _) fun _ => .bind (.setOrder _ _ _ _) fun _ => ?_) ?_
    · exact .done _
    · exact fun _ => sendsNone_finishFill market attempt caller request retries reply true

theorem sendsNone_recordAdopted (adopted : ExecutionResult) :
    SendsNone (recordAdoptedLostResponse caller request adopted) :=
  .bind (.clearPending _) fun _ => .bind (.setOrder _ _ _ _) fun _ => .recordCompleted _ _

theorem sendsNone_persistRetry (number : Nat) :
    SendsNone (persistRetry config caller request number) := by
  unfold persistRetry
  split
  · exact .setOrder _ _ _ _
  · exact .done _

end Parts

/-! ## One attempt -/

section Attempts

variable (config : EngineConfig) (attempt : Attempt) (request : OrderRequest)
variable (nativeAvailable : Bool)

/-- Whether an attempt hands the order over: the native path does so only when the terminal is
armed and a price is known. -/
def handsOver : Bool :=
  match config.connector with
  | .orderSend => true
  | .executeOrder => true
  | _ =>
      if config.simulationMode && !config.requireApproval then true
      else if nativeAvailable then
        attempt.armed && (nativePrice request attempt.nativeTick).toOption.isSome
      else config.simulationMode

variable {config attempt request nativeAvailable} {caller : Nat} {world : World}

theorem sends_sendNative :
    sends ((sendNative attempt caller request).run world).2.log =
      sends world.log +
        (attempt.armed && (nativePrice request attempt.nativeTick).toOption.isSome).toNat := by
  unfold sendNative
  by_cases armed : attempt.armed = true
  · simp only [armed, Bool.not_true, Bool.false_eq_true, if_false, Bool.true_and]
    cases nativePrice request attempt.nativeTick with
    | error text => rfl
    | ok price =>
        cases attempt.reply.bind parseSendResult <;> rfl
  · rw [Bool.not_eq_true] at armed
    simp only [armed, Bool.not_false, if_true, Bool.false_and]
    rfl

/-- A submission is handed over once, or not at all. -/
theorem sends_sendToMt5 :
    sends ((sendToMt5 config nativeAvailable attempt caller request).run world).2.log =
      sends world.log + (handsOver config attempt request nativeAvailable).toNat := by
  unfold sendToMt5 handsOver
  cases config.connector with
  | orderSend => rfl
  | executeOrder => rfl
  | absent | noSubmission =>
      dsimp only
      split
      · rfl
      · split
        · exact sends_sendNative
        · split
          · rename_i simulated
            rw [simulated]
            rfl
          · rename_i live
            rw [Bool.not_eq_true] at live
            rw [live]
            rfl

theorem sends_attemptOnce (surroundings : Surroundings) (retries : Nat) :
    sends ((attemptOnce config surroundings attempt caller request retries).run world).2.log =
      sends world.log + (handsOver config attempt request surroundings.nativeAvailable).toNat := by
  have sent := @sends_sendToMt5 config attempt request surroundings.nativeAvailable caller world
  unfold attemptOnce
  dsimp only
  rw [run_bind, ← sent]
  cases ((sendToMt5 config surroundings.nativeAvailable attempt caller request).run world).1 with
  | error text => rfl
  | ok reply =>
      dsimp only
      split
      · refine SendsNone.bind (sendsNone_settle surroundings.market attempt caller request _ _)
          (fun settled => ?_) _
        cases settled with
        | error text => exact .done _
        | ok result => exact .done _
      · rfl

end Attempts

/-! ## What decides a pass -/

section Verdicts

variable {config : EngineConfig} {surroundings : Surroundings} {market : MarketView}
variable {attempt : Attempt} {caller : Nat} {request : OrderRequest} {world : World}
variable {top : OrderState} {earlier : List OrderState}

/-- A fill that is reported has the ticket of the reply. -/
theorem result_of_finishFill {retries : Nat} {reply : SendReply} {confirmed : Bool}
    {result : ExecutionResult}
    (ended : ((finishFill market attempt caller request retries reply confirmed).run world).1 =
      .ok result) : result.success = true ∧ result.ticket = reply.ticket := by
  unfold finishFill at ended
  dsimp only at ended
  cases synced : syncPosition market attempt.synced request.symbol attempt.isoNow with
  | error text =>
      rw [synced] at ended
      cases ended
  | ok summary =>
      rw [synced, clearPending, Program.modify, run_perform_bind, run_bind] at ended
      cases checked : checkFillPrice request reply with
      | error text =>
          rw [checked] at ended
          cases ended
      | ok price =>
          rw [checked] at ended
          cases ended
          exact ⟨rfl, rfl⟩

theorem result_of_settle {retries : Nat} {reply : SendReply} {result : ExecutionResult}
    (ended : ((settle market attempt caller request retries reply).run world).1 = .ok result) :
    result.success = true ∧ result.ticket = reply.ticket := by
  unfold settle at ended
  dsimp only at ended
  rw [Execution.setOrder, run_perform_bind, Execution.setOrder, run_perform_bind] at ended
  cases confirmed : confirmExecution attempt reply.ticket with
  | error text =>
      rw [confirmed] at ended
      cases ended
  | ok found =>
      rw [confirmed] at ended
      cases found with
      | false => exact result_of_finishFill ended
      | true =>
          dsimp only at ended
          rw [run_bind] at ended
          exact result_of_finishFill ended

/-- An attempt that does not fail was answered by a fill, and reports its ticket. -/
theorem run_attemptOnce_reported (config : EngineConfig) (surroundings : Surroundings)
    (attempt : Attempt) (caller retries : Nat)
    (recording : Recording request.idempotencyKey .submitting earlier world)
    (reported : attemptFailure surroundings.market attempt request
      (sendAnswer config attempt request surroundings.nativeAvailable world.simTicketSeq) =
        none) :
    let ended := (attemptOnce config surroundings attempt caller request retries).run world
    ∃ reply, sendAnswer config attempt request surroundings.nativeAvailable world.simTicketSeq =
        .ok reply ∧ reply.success = true ∧
      ended.2.ledger.memoryState request.idempotencyKey =
        some (.str (settleOutcome surroundings.market attempt request reply).1.value) ∧
      ∃ result, ended.1 = .inl result ∧ result.success = true ∧
        result.ticket = reply.ticket := by
  obtain ⟨answered, ledger, log⟩ := silent_sendToMt5 config attempt caller request world
    surroundings.nativeAvailable
  have sent := recording.frame ledger log
  cases answer : sendAnswer config attempt request surroundings.nativeAvailable
      world.simTicketSeq with
  | error text =>
      rw [answer] at reported
      cases reported
  | ok reply =>
      rw [answer] at reported answered
      by_cases accepted : reply.success = true
      · obtain ⟨before, settled, -, ended⟩ := run_settle surroundings.market attempt caller
          retries reply sent
        rw [attemptFailure, if_pos accepted, Option.map_eq_none_iff] at reported
        rw [reported] at ended
        obtain ⟨result, returned⟩ := ended
        refine ⟨reply, rfl, accepted, ?_⟩
        unfold attemptOnce
        dsimp only
        rw [run_bind, answered]
        dsimp only
        rw [if_pos accepted, run_bind, returned]
        exact ⟨settled.memory, result, rfl, result_of_settle returned⟩
      · rw [attemptFailure, if_neg accepted] at reported
        cases reported

/-- The result of a call after a failure that is not retried, and the state in which it leaves
the record. -/
def EndsWith (top : OrderState) (verdict : Verdict) (result : Except String ExecutionResult)
    (state : OrderState) : Prop :=
  match verdict with
  | .stop => state = top ∧ ∀ given, result = .ok given → given.success = false
  | .adopt adopted => state = .positionConfirmed ∧ result = .ok adopted
  | .unknown => state = .unknown ∧ ∃ given, result = .ok given ∧ given.success = false
  | .retry => False

/-- What follows a failure that is not retried. -/
theorem afterFailure_ends (config : EngineConfig) (market : MarketView) (attempt : Attempt)
    (caller retries : Nat) (code : Int) (message : Val)
    (again : Option (Program World (Except String ExecutionResult)))
    (recording : Recording request.idempotencyKey top earlier world)
    (ends : failureVerdict config market attempt request code message again.isSome ≠ .retry) :
    let ended := (afterFailure config market attempt caller request retries code message
      again).run world
    sends ended.2.log = sends world.log ∧ ∃ state,
      ended.2.ledger.memoryState request.idempotencyKey = some (.str state.value) ∧
        EndsWith top (failureVerdict config market attempt request code message again.isSome)
          ended.1 state := by
  have memory := recording.memory
  have adopting : ∀ adopted,
      let ended := ((recordAdoptedLostResponse caller request adopted).run world).2
      sends ended.log = sends world.log ∧ ended.ledger.memoryState request.idempotencyKey =
        some (.str OrderState.positionConfirmed.value) := by
    intro adopted
    exact ⟨sendsNone_recordAdopted caller request adopted world,
      world.ledger.setOrder_memoryState _ _ (keeps_adoptedFields request adopted)⟩
  have exhausting : ∀ verdict, verdict = Verdict.stop →
      let ended := (do
        let result ← exhausted request retries code message
        return Except.ok (ε := String) result : Program World _).run world
      sends ended.2.log = sends world.log ∧ ∃ state,
        ended.2.ledger.memoryState request.idempotencyKey = some (.str state.value) ∧
          EndsWith top verdict ended.1 state := by
    rintro verdict rfl
    refine ⟨rfl, top, memory, rfl, ?_⟩
    intro given same
    cases same
    rfl
  unfold afterFailure failureVerdict at *
  cases ambiguity : isAmbiguousExecution code message with
  | error text => exact ⟨rfl, top, memory, rfl, fun given absent => nomatch absent⟩
  | ok ambiguous =>
      cases ambiguous with
      | true =>
          unfold adoptOr adoptVerdict
          cases adoptLostResponse config market attempt request with
          | error text => exact ⟨rfl, top, memory, rfl, fun given absent => nomatch absent⟩
          | ok found =>
              cases found with
              | none =>
                  refine ⟨rfl, .unknown, ?_, rfl, _, rfl, rfl⟩
                  exact Ledger.setOrder_memoryState _ _ _
                    (keeps_unknownFields request retries code message)
              | some adopted =>
                  obtain ⟨quiet, state⟩ := adopting adopted
                  exact ⟨quiet, .positionConfirmed, state, rfl, rfl⟩
      | false =>
          cases transient : isTransientError code message with
          | error text => exact ⟨rfl, top, memory, rfl, fun given absent => nomatch absent⟩
          | ok retryable =>
              rw [transient] at ends
              cases retryable with
              | false => exact exhausting _ rfl
              | true =>
                  cases again with
                  | none => exact exhausting _ rfl
                  | some pass =>
                      unfold adoptOr adoptVerdict at *
                      cases found : adoptLostResponse config market attempt request with
                      | error text =>
                          exact ⟨rfl, top, memory, rfl, fun given absent => nomatch absent⟩
                      | ok landed =>
                          cases landed with
                          | none =>
                              rw [ambiguity, found] at ends
                              exact absurd rfl ends
                          | some adopted =>
                              obtain ⟨quiet, state⟩ := adopting adopted
                              exact ⟨quiet, .positionConfirmed, state, rfl, rfl⟩

end Verdicts

/-! ## The retry loop -/

section Loop

variable (config : EngineConfig) (surroundings : Surroundings) (request : OrderRequest)

/-- The order was handed over in pass `number` and the reply is a failure that may be retried:
it is transient, it leaves nothing uncertain, and no order is found at the broker. -/
structure Resendable (seq number : Nat) : Prop where
  answered : ∃ reply, sendAnswer config (surroundings.attempts number) request
      surroundings.nativeAvailable seq = .ok reply ∧
    (surroundings.attempts number).reply.bind parseSendResult = .ok reply ∧
    reply.success = false ∧ isTransientError reply.errorCode reply.message = .ok true ∧
    isAmbiguousExecution reply.errorCode reply.message = .ok false
  notLanded : config.hasOrderLocator = true →
    ∀ found, (surroundings.attempts number).located ≠ .ok (some found)

/-- How the failure of a pass goes on. -/
def passVerdict (seq number : Nat) (left : Bool) : Option (OrderState × Verdict) :=
  (attemptFailure surroundings.market (surroundings.attempts number) request
    (sendAnswer config (surroundings.attempts number) request surroundings.nativeAvailable
      seq)).map fun (top, code, message) =>
        (top, failureVerdict config surroundings.market (surroundings.attempts number) request
          code message left)

variable {config surroundings request}

theorem notLanded_of_adopt_none {market : MarketView} {attempt : Attempt}
    (nothing : adoptLostResponse config market attempt request = .ok none) :
    config.hasOrderLocator = true → ∀ found, attempt.located ≠ .ok (some found) := by
  intro configured found located
  rw [adoptLostResponse, configured, located] at nothing
  simp only [Bool.not_true, Bool.false_eq_true, if_false] at nothing
  cases ticket : toIntUnlessNone found with
  | error text =>
      rw [ticket] at nothing
      cases nothing
  | ok number =>
      rw [ticket] at nothing
      cases synced : syncPosition market attempt.adoptedSync request.symbol attempt.isoNow with
      | error text =>
          simp [synced, Bind.bind, Except.bind] at nothing
      | ok summary =>
          simp [synced, Bind.bind, Except.bind, pure, Except.pure] at nothing

/-- What a retry says about a failure. -/
theorem of_failureVerdict_retry {market : MarketView} {attempt : Attempt} {code : Int}
    {message : Val} {left : Bool}
    (retried : failureVerdict config market attempt request code message left = .retry) :
    isAmbiguousExecution code message = .ok false ∧ isTransientError code message = .ok true ∧
      adoptLostResponse config market attempt request = .ok none := by
  unfold failureVerdict adoptVerdict at retried
  cases ambiguity : isAmbiguousExecution code message with
  | error text =>
      rw [ambiguity] at retried
      cases retried
  | ok ambiguous =>
      rw [ambiguity] at retried
      cases ambiguous with
      | true =>
          dsimp only at retried
          split at retried <;> cases retried
      | false =>
          cases transient : isTransientError code message with
          | error text =>
              rw [transient] at retried
              cases retried
          | ok retryable =>
              rw [transient] at retried
              cases retryable with
              | false => cases retried
              | true =>
                  cases left with
                  | false => cases retried
                  | true =>
                      dsimp only at retried
                      cases found : adoptLostResponse config market attempt request with
                      | error text =>
                          rw [found] at retried
                          cases retried
                      | ok landed =>
                          rw [found] at retried
                          cases landed with
                          | none => exact ⟨rfl, rfl, rfl⟩
                          | some adopted => cases retried

/-- After a failure that is retried the next pass follows. -/
theorem afterFailure_of_retry {market : MarketView} {attempt : Attempt} {caller retries : Nat}
    {code : Int} {message : Val} {pass : Program World (Except String ExecutionResult)}
    (retried : failureVerdict config market attempt request code message true = .retry) :
    afterFailure config market attempt caller request retries code message (some pass) =
      pass := by
  obtain ⟨certain, transient, nothing⟩ := of_failureVerdict_retry retried
  simp only [afterFailure, certain, transient, adoptOr, nothing]

/-- The answer of a terminal that is not armed is not transient. -/
theorem unarmed_not_transient :
    isTransientError 403 (.str ("EXECUTION NOT ARMED — no operator-armed terminal; native " ++
      "order_send is disabled.")) ≠ .ok true := by
  decide +kernel

/-- The answer without a connection is not transient. -/
theorem unconnected_not_transient :
    isTransientError 1 (.str ("No live MT5 connection and simulation_mode is disabled — " ++
      "order not sent (no fabricated fill).")) ≠ .ok true := by
  decide +kernel

/-- A failed answer that is transient and no exception came from a broker that was handed the
order. -/
theorem broker_answered {attempt : Attempt} {nativeAvailable : Bool} {seq : Nat}
    {reply : SendReply}
    (answer : sendAnswer config attempt request nativeAvailable seq = .ok reply)
    (failed : reply.success = false) (certain : reply.errorCode ≠ -1)
    (transient : isTransientError reply.errorCode reply.message = .ok true) :
    handsOver config attempt request nativeAvailable = true ∧
      attempt.reply.bind parseSendResult = .ok reply := by
  have simulated : ∀ price, Except.ok (ε := String) (simulatedReply attempt seq price) ≠
      .ok reply := by
    intro price same
    rw [← Except.ok.inj same] at failed
    cases failed
  unfold sendAnswer at answer
  unfold handsOver
  cases route : config.connector with
  | orderSend =>
      rw [route] at answer
      exact ⟨rfl, answer⟩
  | executeOrder =>
      rw [route] at answer
      exact ⟨rfl, answer⟩
  | absent | noSubmission =>
      rw [route] at answer
      dsimp only at answer ⊢
      split at answer
      · exact absurd answer (simulated _)
      · rename_i plain
        rw [if_neg plain]
        split at answer
        · rename_i native
          rw [if_pos native]
          cases answer
          unfold nativeAnswer at *
          cases armed : attempt.armed with
          | false =>
              simp only [armed, Bool.not_false, if_true] at transient
              exact absurd transient unarmed_not_transient
          | true =>
              simp only [armed, Bool.not_true, Bool.false_eq_true, if_false] at *
              cases price : nativePrice request attempt.nativeTick with
              | error text => simp [price, failedReply] at certain
              | ok quoted =>
                  simp only [price] at *
                  cases parsed : attempt.reply.bind parseSendResult with
                  | error text => simp [parsed, failedReply] at certain
                  | ok broker => exact ⟨rfl, rfl⟩
        · split at answer
          · exact absurd answer (simulated _)
          · cases answer
            exact absurd transient unconnected_not_transient

/-- A pass that is retried has handed the order over and may be followed by another one. -/
theorem resendable_of_retry {seq number : Nat} {left : Bool} {top : OrderState}
    (retried : passVerdict config surroundings request seq number left = some (top, .retry)) :
    top = .submitting ∧
      handsOver config (surroundings.attempts number) request surroundings.nativeAvailable =
        true ∧ Resendable config surroundings request seq number := by
  obtain ⟨⟨state, code, message⟩, fails, same⟩ := Option.map_eq_some_iff.mp retried
  obtain ⟨rfl, verdict⟩ := Prod.mk.inj same
  obtain ⟨certain, transient, nothing⟩ := of_failureVerdict_retry verdict
  have exceptionless := no_exception_of_retry verdict
  have submitting := submitting_of_no_exception fails exceptionless
  cases answer : sendAnswer config (surroundings.attempts number) request
      surroundings.nativeAvailable seq with
  | error text =>
      rw [answer] at fails
      cases fails
      exact absurd rfl exceptionless
  | ok reply =>
      rw [answer, attemptFailure] at fails
      by_cases accepted : reply.success = true
      · rw [if_pos accepted] at fails
        obtain ⟨text, -, excepted⟩ := Option.map_eq_some_iff.mp fails
        exact absurd (congrArg (fun failure => failure.2.1) excepted).symm exceptionless
      · rw [if_neg accepted] at fails
        cases fails
        have failed := Bool.eq_false_iff.mpr accepted
        obtain ⟨sent, broker⟩ := broker_answered answer failed exceptionless transient
        exact ⟨rfl, sent, ⟨reply, answer, broker, failed, transient, certain⟩,
          notLanded_of_adopt_none nothing⟩

/-- The last pass decides a call: its fill is reported, or its failure is not retried. -/
inductive Decided (config : EngineConfig) (surroundings : Surroundings) (request : OrderRequest)
    (seq number : Nat) (result : Except String ExecutionResult) : OrderState → Prop
  | reported (reply : SendReply) (given : ExecutionResult)
      (answer : sendAnswer config (surroundings.attempts number) request
        surroundings.nativeAvailable seq = .ok reply)
      (accepted : reply.success = true)
      (undisturbed : (settleOutcome surroundings.market (surroundings.attempts number) request
        reply).2 = none)
      (returned : result = .ok given) (success : given.success = true)
      (ticket : given.ticket = reply.ticket) :
      Decided config surroundings request seq number result
        (settleOutcome surroundings.market (surroundings.attempts number) request reply).1
  | failed (left : Bool) (top : OrderState) (verdict : Verdict) (state : OrderState)
      (failure : passVerdict config surroundings request seq number left = some (top, verdict))
      (ends : EndsWith top verdict result state) :
      Decided config surroundings request seq number result state

/-- How the retry loop ends in pass `number`, after `sent` submissions: its retry count cannot
be persisted, or the pass decides the call. -/
inductive LoopEnd (config : EngineConfig) (surroundings : Surroundings) (request : OrderRequest)
    (seq number sent : Nat) (ended : Except String ExecutionResult × World) : Prop
  | unsaved (given : ExecutionResult) (kept : sends ended.2.log = sent)
      (memory : ended.2.ledger.memoryState request.idempotencyKey =
        some (.str OrderState.submitting.value))
      (returned : ended.1 = .ok given) (failed : given.success = false)
  | decided (state : OrderState)
      (kept : sends ended.2.log = sent + (handsOver config (surroundings.attempts number) request
        surroundings.nativeAvailable).toNat)
      (memory : ended.2.ledger.memoryState request.idempotencyKey = some (.str state.value))
      (decided : Decided config surroundings request seq number ended.1 state)

/-- A pass ends the loop, or it has sent the order and the next pass follows. -/
theorem attemptPass_ends (config : EngineConfig) (surroundings : Surroundings)
    (caller number : Nat) (again : Option (Program World (Except String ExecutionResult)))
    {world : World} {earlier : List OrderState}
    (recording : Recording request.idempotencyKey .submitting earlier world) :
    let ended := (attemptPass config surroundings caller request number again).run world
    LoopEnd config surroundings request world.simTicketSeq number (sends world.log) ended ∨
      ∃ pass next before, again = some pass ∧
        Resendable config surroundings request world.simTicketSeq number ∧
        Recording request.idempotencyKey .submitting before next ∧
        next.simTicketSeq = world.simTicketSeq ∧ sends next.log = sends world.log + 1 ∧
        ended = pass.run next := by
  obtain ⟨persisted, -, seq, before, recorded, -⟩ :=
    run_persistRetry config caller number recording
  have quiet := sendsNone_persistRetry config caller request number world
  unfold attemptPass
  rw [run_bind, persisted]
  dsimp only
  cases stored : (retryLedger config request number world.ledger).1 with
  | false =>
      rw [if_pos (by rfl), clearPending, Program.modify, run_perform_bind]
      exact .inl (.unsaved _ quiet recorded.memory rfl rfl)
  | true =>
      rw [if_neg (by simp), run_bind]
      have sent := @sends_attemptOnce config (surroundings.attempts number) request caller
        ((persistRetry config caller request number).run world).2 surroundings number
      rw [quiet] at sent
      cases fails : attemptFailure surroundings.market (surroundings.attempts number) request
          (sendAnswer config (surroundings.attempts number) request
            surroundings.nativeAvailable world.simTicketSeq) with
      | none =>
          left
          rw [← seq] at fails
          obtain ⟨reply, answer, accepted, memory, given, returned, success, ticket⟩ :=
            run_attemptOnce_reported config surroundings (surroundings.attempts number) caller
              number recorded fails
          rw [returned]
          rw [seq] at answer fails
          rw [answer, attemptFailure, if_pos accepted, Option.map_eq_none_iff] at fails
          exact .decided _ sent memory
            (.reported reply given answer accepted fails rfl success ticket)
      | some failure =>
          obtain ⟨top, code, message⟩ := failure
          have attempted := run_attemptOnce config surroundings (surroundings.attempts number)
            caller number recorded
          rw [seq, fails] at attempted
          obtain ⟨returned, left, recordedTop, -, unchanged⟩ := attempted
          have verdicts : ∀ left, passVerdict config surroundings request world.simTicketSeq
              number left = some (top, failureVerdict config surroundings.market
                (surroundings.attempts number) request code message left) := by
            intro left
            rw [passVerdict, fails]
            rfl
          rw [returned]
          dsimp only
          by_cases retried : failureVerdict config surroundings.market
              (surroundings.attempts number) request code message again.isSome = .retry
          · right
            obtain ⟨pass, next⟩ := Option.isSome_iff_exists.mp (left_of_retry retried)
            have verdict := verdicts again.isSome
            rw [retried] at verdict
            obtain ⟨rfl, handed, resendable⟩ := resendable_of_retry verdict
            obtain ⟨-, sameSeq⟩ := unchanged (no_exception_of_retry retried)
            rw [handed] at sent
            refine ⟨pass, _, left, next, resendable, recordedTop, sameSeq, sent, ?_⟩
            rw [next] at retried ⊢
            rw [afterFailure_of_retry retried]
          · left
            obtain ⟨quietly, state, memory, ends⟩ := afterFailure_ends config surroundings.market
              (surroundings.attempts number) caller number code message again recordedTop retried
            exact .decided state (quietly.trans sent) memory
              (.failed again.isSome top _ state (verdicts _) ends)

/-- The retry loop ends in some pass, and every pass before it was followed by a resend. -/
theorem attemptLoop_ends (config : EngineConfig) (surroundings : Surroundings)
    (caller number remaining : Nat) {world : World} {earlier : List OrderState}
    (recording : Recording request.idempotencyKey .submitting earlier world) :
    ∃ last ≤ remaining, (∀ pass < last,
        Resendable config surroundings request world.simTicketSeq (number + pass)) ∧
      LoopEnd config surroundings request world.simTicketSeq (number + last)
        (sends world.log + last)
        ((attemptLoop config surroundings caller request number remaining).run world) := by
  induction remaining generalizing number world earlier with
  | zero =>
      rcases attemptPass_ends config surroundings caller number none recording with
        ended | ⟨pass, _, _, absent, -⟩
      · exact ⟨0, Nat.le_refl _, fun _ none => absurd none (Nat.not_lt_zero _), ended⟩
      · cases absent
  | succ remaining ih =>
      rcases attemptPass_ends config surroundings caller number _ recording with
        ended | ⟨pass, next, before, same, resendable, recorded, seq, sent, run⟩
      · exact ⟨0, Nat.zero_le _, fun _ none => absurd none (Nat.not_lt_zero _), ended⟩
      · cases same
        obtain ⟨last, within, earlierPasses, ended⟩ := ih (number + 1) recorded
        refine ⟨last + 1, Nat.succ_le_succ within, ?_, ?_⟩
        · intro pass before
          cases pass with
          | zero => exact resendable
          | succ pass =>
              have later := earlierPasses pass (Nat.lt_of_succ_lt_succ before)
              rw [Nat.add_right_comm, seq] at later
              exact later
        · rw [seq, sent] at ended
          have passes : number + (last + 1) = number + 1 + last := by omega
          have submissions : sends world.log + (last + 1) = sends world.log + 1 + last := by omega
          rw [attemptLoop, run, passes, submissions]
          exact ended

end Loop

/-! ## Whole calls -/

section Calls

variable {config : EngineConfig} {surroundings : Surroundings} {request : OrderRequest}
variable {seq number sent : Nat}

/-- What follows the loop keeps its end when it keeps the result, the record and the sends. -/
theorem LoopEnd.frame {ended after : Except String ExecutionResult × World}
    (ends : LoopEnd config surroundings request seq number sent ended)
    (result : after.1 = ended.1) (ledger : after.2.ledger = ended.2.ledger)
    (log : sends after.2.log = sends ended.2.log) :
    LoopEnd config surroundings request seq number sent after := by
  cases ends with
  | unsaved given kept memory returned failed =>
      rw [← ledger] at memory
      exact .unsaved given (log.trans kept) memory (result.trans returned) failed
  | decided state kept memory decided =>
      rw [← ledger] at memory
      rw [← result] at decided
      exact .decided state (log.trans kept) memory decided

/-- How a call ends: it has sent nothing, or the retry loop has ended. -/
def CallEnds (config : EngineConfig) (surroundings : Surroundings) (request : OrderRequest)
    (world : World) (ended : Except String ExecutionResult × World) : Prop :=
  sends ended.2.log = sends world.log ∨
    ∃ last ≤ config.maxRetries,
      (∀ pass < last, Resendable config surroundings request world.simTicketSeq pass) ∧
      LoopEnd config surroundings request world.simTicketSeq last (sends world.log + last) ended

theorem submitValid_ends (config : EngineConfig) (surroundings : Surroundings) (caller : Nat)
    (request : OrderRequest) (world : World) :
    CallEnds config surroundings request world
      ((submitValid config surroundings caller request).run world) := by
  have approved := Recording.setOrder caller
    (show recordedStates request.idempotencyKey world.log = _ from rfl) .riskApproved
    (keeps_nil request.idempotencyKey)
  have submitting := Recording.setOrder caller approved.states .submitting
    (keeps_identityFields_append request 0)
  unfold submitValid
  dsimp only
  rw [Execution.setOrder, run_perform_bind, Execution.setOrder, run_perform_bind]
  split
  · exact .inl rfl
  · right
    obtain ⟨ledger, log, seq⟩ := run_recordPending request.idempotencyKey
      ((world.setOrder caller request.idempotencyKey .riskApproved []).2.setOrder caller
        request.idempotencyKey .submitting (firstFields request)).2
    obtain ⟨last, within, earlier, ended⟩ := attemptLoop_ends config surroundings caller 0
      config.maxRetries (submitting.frame ledger (congrArg _ log))
    rw [Nat.zero_add, seq, log] at ended
    refine ⟨last, within, ?_, ?_⟩
    · intro pass before
      have resendable := earlier pass before
      rw [Nat.zero_add, seq] at resendable
      exact resendable
    · rw [run_bind, run_bind]
      exact ended.frame rfl rfl rfl

theorem submitOrder_ends (config : EngineConfig) (surroundings : Surroundings) (caller : Nat)
    (request : OrderRequest) (world : World) :
    CallEnds config surroundings request world
      ((submitOrder config surroundings caller request).run world) := by
  unfold submitOrder
  rw [Execution.setOrder, run_perform_bind]
  split
  · exact .inl rfl
  · split
    · exact .inl rfl
    · exact submitValid_ends config surroundings caller request
        (world.setOrder caller request.idempotencyKey .intentCreated (firstFields request)).2
    · exact .inl rfl

theorem executeIdentified_ends (config : EngineConfig) (surroundings : Surroundings)
    (caller : Nat) (request : OrderRequest) (world : World) :
    CallEnds config surroundings request world
      ((executeIdentified config surroundings caller request).run world) := by
  unfold executeIdentified
  dsimp only
  rw [durableReady, Program.read, run_perform_bind]
  split
  · exact .inl rfl
  · split
    · exact .inl rfl
    · rw [isDuplicate, run_perform_bind]
      dsimp only
      split
      · exact .inl rfl
      · rw [run_bind, noteReturned, Program.modify, run_perform_bind]
        have submitted := submitOrder_ends config surroundings caller request
          (world.record (.checked caller request.idempotencyKey
            (world.isDuplicate request.idempotencyKey)))
        rcases submitted with silent | ⟨last, within, earlier, ended⟩
        · exact .inl silent
        · exact .inr ⟨last, within, earlier, ended.frame rfl rfl rfl⟩

/-- A call sends nothing, or it ends with a pass of the retry loop. -/
theorem executeOrder_ends (config : EngineConfig) (surroundings : Surroundings) (caller : Nat)
    (request : OrderRequest) (world : World) :
    CallEnds config surroundings (identified surroundings request) world
      ((executeOrder config surroundings caller request).run world) :=
  executeIdentified_ends config surroundings caller (identified surroundings request) world

end Calls

end EaBot.Execution
