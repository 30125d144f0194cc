import Mathlib.Data.List.Chain
import EaBot.Execution.SettledOrders

/-!
# Lifecycle transitions of one call

A ledger write enforces nothing, so whether the states recorded for an order follow
the lifecycle table depends on the order of the writes on every path of the method.
Three paths leave the table: a refusal for missing approval over a record whose state
does not allow the unknown state, a request that fails validation, and the adoption
of a found order before its position was confirmed.  All other paths stay on it.
-/

namespace EaBot.Execution

open EaBot.Foundation EaBot.Persistence Program

/-- The state that an event records for an order. -/
def Event.recordedState (key : String) : Event → Option OrderState
  | wrote _ name state _ => if name = key then some state else none
  | _ => none

/-- The states recorded for an order, newest first. -/
def recordedStates (key : String) (log : List Event) : List OrderState :=
  log.filterMap (Event.recordedState key)

/-- Whether a state may be recorded right after another one. -/
def MayFollow (later earlier : OrderState) : Prop :=
  later = earlier ∨ later ∈ nextAllowed earlier

instance (later earlier : OrderState) : Decidable (MayFollow later earlier) :=
  inferInstanceAs (Decidable (_ ∨ _))

/-- Whether every recorded state may follow the one before it. -/
def Lawful (states : List OrderState) : Prop :=
  states.IsChain MayFollow

instance (states : List OrderState) : Decidable (Lawful states) :=
  inferInstanceAs (Decidable (List.IsChain _ _))

theorem lawful_cons_cons {later earlier : OrderState} {rest : List OrderState} :
    Lawful (later :: earlier :: rest) ↔
      MayFollow later earlier ∧ Lawful (earlier :: rest) :=
  List.isChain_cons_cons

/-- The state of the lifecycle that the in-memory record of an order is in. -/
def lifecycleState (ledger : Ledger) (key : String) : Option OrderState :=
  match ledger.memoryState key with
  | some (.str text) => OrderState.ofValue? text
  | _ => none

/-! ## What the inputs of a call say about its path -/

section Path

variable (config : EngineConfig) (surroundings : Surroundings) (market : MarketView)
variable (attempt : Attempt) (request : OrderRequest)

/-- The fill that a simulation answers with. -/
def simulatedReply (seq : Nat) (price : Number) : SendReply :=
  ⟨true, some ((attempt.clockMs % 1000000 * 1000 + (seq + 1) % 1000 : Nat) : Int), 0,
    .str "Simulated order execution successful", .num price⟩

/-- The answer to a native submission. -/
def nativeAnswer : SendReply :=
  let failed (text : String) := failedReply (-1) s!"Native MT5 send failed: {text}"
  if !attempt.armed then
    failedReply 403 ("EXECUTION NOT ARMED — no operator-armed terminal; native " ++
      "order_send is disabled.")
  else
    match nativePrice request attempt.nativeTick with
    | .error text => failed text
    | .ok _ =>
        match attempt.reply.bind parseSendResult with
        | .error text => failed text
        | .ok reply => reply

/-- The answer to a submission, given the counter of simulated tickets. -/
def sendAnswer (nativeAvailable : Bool) (seq : Nat) : Except String SendReply :=
  match config.connector with
  | .orderSend => attempt.reply.bind parseSendResult
  | .executeOrder => attempt.reply.bind parseSendResult
  | _ =>
      if config.simulationMode && !config.requireApproval then
        .ok (simulatedReply attempt seq request.price)
      else if nativeAvailable then
        .ok (nativeAnswer attempt request)
      else if config.simulationMode then
        .ok (simulatedReply attempt seq
          (if request.price.value = 0 then ⟨10850 / 10000, "1.085"⟩ else request.price))
      else
        .ok (failedReply 1 ("No live MT5 connection and simulation_mode is disabled — " ++
          "order not sent (no fabricated fill)."))

/-- The error with which a fill ends after its confirmation, when it ends with one. -/
def fillFailure (reply : SendReply) : Option String :=
  match syncPosition market attempt.synced request.symbol attempt.isoNow with
  | .error text => some text
  | .ok _ =>
      match checkFillPrice request reply with
      | .error text => some text
      | .ok () => none

/-- The state in which a reported fill leaves the record, and the error with which it
ends, when it ends with one. -/
def settleOutcome (reply : SendReply) : OrderState × Option String :=
  match confirmExecution attempt reply.ticket with
  | .error text => (.acknowledged, some text)
  | .ok false => (.acknowledged, fillFailure market attempt request reply)
  | .ok true => (.positionConfirmed, fillFailure market attempt request reply)

/-- The message of an exception during an attempt. -/
def exceptionMessage (text : String) : Val :=
  .str s!"Execution exception: {text}"

/-- How an attempt fails: the state in which it leaves the record, the code and the
message.  An attempt that does not fail has none. -/
def attemptFailure : Except String SendReply → Option (OrderState × Int × Val)
  | .error text => some (.submitting, -1, exceptionMessage text)
  | .ok reply =>
      if reply.success then
        (settleOutcome market attempt request reply).2.map fun text =>
          ((settleOutcome market attempt request reply).1, -1, exceptionMessage text)
      else
        some (.submitting, reply.errorCode, reply.message)

/-- What a failed attempt leads to. -/
inductive Verdict
  | stop
  | adopt (adopted : ExecutionResult)
  | unknown
  | retry

/-- What the adoption of a lost reply leads to. -/
def adoptVerdict (otherwise : Verdict) : Verdict :=
  match adoptLostResponse config market attempt request with
  | .error _ => .stop
  | .ok none => otherwise
  | .ok (some adopted) => .adopt adopted

/-- What a failure leads to, given whether another pass is left. -/
def failureVerdict (code : Int) (message : Val) (left : Bool) : Verdict :=
  match isAmbiguousExecution code message with
  | .error _ => .stop
  | .ok true => adoptVerdict config market attempt request .unknown
  | .ok false =>
      match isTransientError code message, left with
      | .ok true, true => adoptVerdict config market attempt request .retry
      | _, _ => .stop

/-- The ledger after a pass has persisted its retry count, and whether it could. -/
def retryLedger (number : Nat) (ledger : Ledger) : Bool × Ledger :=
  if number ≠ 0 ∧ config.requireDurableState then
    ledger.setOrder request.idempotencyKey OrderState.submitting.value
      (request.identityFields ++ [("retry_count", .int number)])
  else
    (true, ledger)

/-- Pass `number` adopts a found order although the record was not left confirmed, or
leads to a later pass that does. -/
def PassAdopts (seq number : Nat) (left : Bool) (later : Ledger → Prop) (ledger : Ledger) :
    Prop :=
  let attempt := surroundings.attempts number
  let stored := retryLedger config request number ledger
  stored.1 = true ∧ ∃ top code message,
    attemptFailure surroundings.market attempt request
        (sendAnswer config attempt request surroundings.nativeAvailable seq) =
      some (top, code, message) ∧
    ((∃ adopted, failureVerdict config surroundings.market attempt request code message left =
        .adopt adopted) ∧ top ≠ .positionConfirmed ∨
      failureVerdict config surroundings.market attempt request code message left = .retry ∧
        later stored.2)

/-- From pass `number` on, with `remaining` passes after it, the retry loop reaches a
pass that adopts a found order although the record was not left confirmed. -/
def AdoptsUnconfirmed (seq number : Nat) : Nat → Ledger → Prop
  | 0 => PassAdopts config surroundings request seq number false fun _ => False
  | remaining + 1 =>
      PassAdopts config surroundings request seq number true
        (AdoptsUnconfirmed seq (number + 1) remaining)

variable {config market attempt request}

theorem attemptFailure_top {answer : Except String SendReply} {top : OrderState} {code : Int}
    {message : Val}
    (fails : attemptFailure market attempt request answer = some (top, code, message)) :
    top = .submitting ∨ top = .acknowledged ∨ top = .positionConfirmed := by
  cases answer with
  | error text =>
      cases fails
      exact .inl rfl
  | ok reply =>
      simp only [attemptFailure] at fails
      by_cases accepted : reply.success = true
      · rw [if_pos accepted] at fails
        obtain ⟨text, -, same⟩ := Option.map_eq_some_iff.mp fails
        have left : (settleOutcome market attempt request reply).1 = top :=
          congrArg Prod.fst same
        rw [← left]
        unfold settleOutcome
        cases confirmExecution attempt reply.ticket with
        | error text => exact .inr (.inl rfl)
        | ok confirmed => cases confirmed <;> simp
      · rw [if_neg accepted] at fails
        cases fails
        exact .inl rfl

/-- A failure that is no exception leaves the record submitting. -/
theorem submitting_of_no_exception {answer : Except String SendReply} {top : OrderState}
    {code : Int} {message : Val}
    (fails : attemptFailure market attempt request answer = some (top, code, message))
    (certain : code ≠ -1) : top = .submitting := by
  cases answer with
  | error text =>
      cases fails
      rfl
  | ok reply =>
      simp only [attemptFailure] at fails
      by_cases accepted : reply.success = true
      · rw [if_pos accepted] at fails
        obtain ⟨text, -, same⟩ := Option.map_eq_some_iff.mp fails
        have exception : -1 = code := congrArg (fun failure => failure.2.1) same
        exact absurd exception.symm certain
      · rw [if_neg accepted] at fails
        cases fails
        rfl

/-- A pass is retried only when another one is left. -/
theorem left_of_retry {code : Int} {message : Val} {left : Bool}
    (retried : failureVerdict config market attempt request code message left = .retry) :
    left = true := by
  by_contra last
  rw [Bool.not_eq_true] at last
  unfold failureVerdict adoptVerdict at retried
  rw [last] at retried
  split at retried
  · cases retried
  · split at retried <;> cases retried
  · revert retried
    rcases isTransientError code message with text | (_ | _) <;>
      exact fun retried => nomatch retried

/-- Only a failure that is no exception is retried. -/
theorem no_exception_of_retry {code : Int} {message : Val} {left : Bool}
    (retried : failureVerdict config market attempt request code message left = .retry) :
    code ≠ -1 := by
  rintro rfl
  unfold failureVerdict at retried
  cases ambiguous : isAmbiguousExecution (-1) message with
  | error text => simp [ambiguous] at retried
  | ok unclear =>
      cases unclear with
      | true =>
          simp only [ambiguous, adoptVerdict] at retried
          split at retried <;> cases retried
      | false => simp [ambiguous, not_transient_of_not_ambiguous ambiguous] at retried

end Path

/-! ## What a program records -/

/-- The record of an order is in the first of the states recorded for it. -/
structure Recording (key : String) (top : OrderState) (earlier : List OrderState)
    (world : World) : Prop where
  states : recordedStates key world.log = top :: earlier
  memory : world.ledger.memoryState key = some (.str top.value)

section Run

variable {config : EngineConfig} {surroundings : Surroundings} {market : MarketView}
variable {attempt : Attempt} {caller : Nat} {request : OrderRequest} {world : World}
variable {key : String} {top : OrderState} {earlier : List OrderState}

@[simp]
theorem recordedStates_setOrder (state : OrderState) (extra : List (String × Val)) :
    recordedStates key (world.setOrder caller key state extra).2.log =
      state :: recordedStates key world.log := by
  simp [World.setOrder, World.record, recordedStates, Event.recordedState]

/-- A ledger write puts its state on top. -/
theorem Recording.setOrder (caller : Nat) {states : List OrderState}
    (before : recordedStates key world.log = states) (state : OrderState)
    {extra : List (String × Val)} (keeps : Keeps key extra) :
    Recording key state states (world.setOrder caller key state extra).2 :=
  ⟨by rw [recordedStates_setOrder, before], world.ledger.setOrder_memoryState key state keeps⟩

/-- Nothing changes when neither the ledger nor the recorded states do. -/
theorem Recording.frame {after : World} (recording : Recording key top earlier world)
    (ledger : after.ledger = world.ledger)
    (log : recordedStates key after.log = recordedStates key world.log) :
    Recording key top earlier after :=
  ⟨log.trans recording.states, by rw [ledger]; exact recording.memory⟩

/-- Whether a program ends with a result and leaves the ledger and the recorded states
as they were. -/
def Silent {α : Type} (key : String) (program : Program World α) (world : World)
    (result : α) : Prop :=
  (program.run world).1 = result ∧ (program.run world).2.ledger = world.ledger ∧
    recordedStates key (program.run world).2.log = recordedStates key world.log

theorem silent_sendNative :
    Silent key (sendNative attempt caller request) world
      (.ok (nativeAnswer attempt request)) := by
  unfold sendNative nativeAnswer
  by_cases armed : attempt.armed = true
  · simp only [armed, Bool.not_true, Bool.false_eq_true, if_false]
    cases nativePrice request attempt.nativeTick with
    | error text => exact ⟨rfl, rfl, rfl⟩
    | ok price =>
        cases answered : attempt.reply.bind parseSendResult with
        | error text => exact ⟨rfl, rfl, rfl⟩
        | ok reply => exact ⟨rfl, rfl, rfl⟩
  · simp only [armed, Bool.not_false, if_true]
    exact ⟨rfl, rfl, rfl⟩

/-- A submission answers as its inputs say and records nothing. -/
theorem silent_sendToMt5 (config : EngineConfig) (attempt : Attempt) (caller : Nat)
    (request : OrderRequest) (world : World) (nativeAvailable : Bool) :
    Silent key (sendToMt5 config nativeAvailable attempt caller request) world
      (sendAnswer config attempt request nativeAvailable world.simTicketSeq) := by
  unfold sendToMt5 sendAnswer
  cases config.connector with
  | orderSend => exact ⟨rfl, rfl, rfl⟩
  | executeOrder => exact ⟨rfl, rfl, rfl⟩
  | absent | noSubmission =>
      dsimp only
      split
      · exact ⟨rfl, rfl, rfl⟩
      · split
        · exact silent_sendNative
        · split <;> exact ⟨rfl, rfl, rfl⟩

/-- Only a simulated fill, which succeeds, advances the counter of simulated tickets. -/
theorem simTicketSeq_sendToMt5 {config : EngineConfig} {attempt : Attempt} {caller : Nat}
    {request : OrderRequest} {world : World} {nativeAvailable : Bool} {reply : SendReply}
    (answered : sendAnswer config attempt request nativeAvailable world.simTicketSeq =
      .ok reply) (failed : reply.success = false) :
    ((sendToMt5 config nativeAvailable attempt caller request).run world).2.simTicketSeq =
      world.simTicketSeq := by
  have native : ((sendNative attempt caller request).run world).2.simTicketSeq =
      world.simTicketSeq := by
    unfold sendNative
    split
    · rfl
    · split
      · rfl
      · cases attempt.reply.bind parseSendResult <;> rfl
  have unsimulated : ∀ price, Except.ok (ε := String)
      (simulatedReply attempt world.simTicketSeq price) ≠ .ok reply := by
    intro price same
    rw [← Except.ok.inj same] at failed
    cases failed
  unfold sendAnswer at answered
  unfold sendToMt5
  cases route : config.connector with
  | orderSend => rfl
  | executeOrder => rfl
  | absent | noSubmission =>
      rw [route] at answered
      dsimp only at answered ⊢
      split
      · rename_i simulated
        rw [if_pos simulated] at answered
        exact absurd answered (unsimulated _)
      · rename_i unsimulatedFirst
        rw [if_neg unsimulatedFirst] at answered
        split
        · exact native
        · rename_i absent
          rw [if_neg absent] at answered
          split
          · rename_i simulated
            rw [if_pos simulated] at answered
            exact absurd answered (unsimulated _)
          · rfl

theorem lawful_acknowledged (lawful : Lawful (.submitting :: earlier)) :
    Lawful (.acknowledged :: .submitted :: .submitting :: earlier) := by
  simp only [lawful_cons_cons]
  exact ⟨by decide, by decide, lawful⟩

theorem lawful_positionConfirmed (lawful : Lawful (.submitting :: earlier)) :
    Lawful (.positionConfirmed :: .filled :: .acknowledged :: .submitted :: .submitting ::
      earlier) := by
  rw [lawful_cons_cons, lawful_cons_cons]
  exact ⟨by decide, by decide, lawful_acknowledged lawful⟩

/-- What follows the confirmation of a fill leaves the ledger alone, unless the record
is unknown. -/
theorem run_finishFill (market : MarketView) (attempt : Attempt) (caller retries : Nat)
    (reply : SendReply) (confirmed : Bool)
    (recording : Recording request.idempotencyKey top earlier world)
    (known : top ≠ .unknown) :
    let ended := (finishFill market attempt caller request retries reply confirmed).run world
    Recording request.idempotencyKey top earlier ended.2 ∧
      match fillFailure market attempt request reply with
      | some text => ended.1 = .error text
      | none => ∃ result, ended.1 = .ok result := by
  have different : Val.str top.value ≠ .str OrderState.unknown.value := by
    intro same
    exact known (OrderState.value_injective (Val.str.inj same))
  have kept : ∀ cleared : World, cleared.ledger = world.ledger →
      (keepUnknown caller request.idempotencyKey).run cleared = ((), cleared) := by
    intro cleared ledger
    have final : ((cleared.ledger.getOrder request.idempotencyKey).bind
        (Dict.get · "state")).getD .none = .str top.value := by
      have memory := recording.memory
      rw [← ledger] at memory
      exact congrArg (Option.getD · Val.none) memory
    rw [keepUnknown, Program.read, run_perform_bind]
    dsimp only
    rw [final, if_neg different]
    rfl
  unfold finishFill fillFailure
  cases syncPosition market attempt.synced request.symbol attempt.isoNow with
  | error text => exact ⟨recording, rfl⟩
  | ok summary =>
      have cleared := kept { world with pending := world.pending.erase request.idempotencyKey } rfl
      dsimp only
      rw [clearPending, Program.modify, run_perform_bind, run_bind, cleared]
      cases checkFillPrice request reply with
      | error text => exact ⟨recording.frame rfl rfl, rfl⟩
      | ok checked => exact ⟨recording.frame rfl rfl, _, rfl⟩

/-- A reported fill stays on the lifecycle table and leaves the record as its inputs
say. -/
theorem run_settle (market : MarketView) (attempt : Attempt) (caller retries : Nat)
    (reply : SendReply)
    (recording : Recording request.idempotencyKey .submitting earlier world) :
    let ended := (settle market attempt caller request retries reply).run world
    ∃ before, Recording request.idempotencyKey (settleOutcome market attempt request reply).1
        before ended.2 ∧
      (Lawful (.submitting :: earlier) →
        Lawful ((settleOutcome market attempt request reply).1 :: before)) ∧
      match (settleOutcome market attempt request reply).2 with
      | some text => ended.1 = .error text
      | none => ∃ result, ended.1 = .ok result := by
  have submitted := Recording.setOrder caller recording.states .submitted
    (keeps_submittedFields request reply.ticket retries)
  have acknowledged := Recording.setOrder caller submitted.states .acknowledged
    (keeps_acknowledgedFields request reply.ticket)
  unfold settle settleOutcome
  dsimp only
  rw [Execution.setOrder, run_perform_bind, Execution.setOrder, run_perform_bind]
  cases confirmExecution attempt reply.ticket with
  | error text => exact ⟨_, acknowledged, lawful_acknowledged, rfl⟩
  | ok confirmed =>
      cases confirmed with
      | false =>
          obtain ⟨final, ended⟩ := run_finishFill market attempt caller retries reply false
            acknowledged (by decide)
          exact ⟨_, final, lawful_acknowledged, ended⟩
      | true =>
          have filled := Recording.setOrder caller acknowledged.states .filled (keeps_nil _)
          have positioned := Recording.setOrder caller filled.states .positionConfirmed
            (keeps_positionFields request reply.ticket (keeps_nil _))
          obtain ⟨final, ended⟩ := run_finishFill market attempt caller retries reply true
            positioned (by decide)
          exact ⟨_, final, lawful_positionConfirmed, ended⟩

/-- An attempt stays on the lifecycle table and fails as its inputs say.  A failure that
is no exception leaves the ledger as it was. -/
theorem run_attemptOnce (config : EngineConfig) (surroundings : Surroundings)
    (attempt : Attempt) (caller retries : Nat)
    (recording : Recording request.idempotencyKey .submitting earlier world) :
    let ended := (attemptOnce config surroundings attempt caller request retries).run world
    match attemptFailure surroundings.market attempt request
        (sendAnswer config attempt request surroundings.nativeAvailable world.simTicketSeq) with
    | none => (∃ result, ended.1 = .inl result) ∧
        (Lawful (.submitting :: earlier) →
          Lawful (recordedStates request.idempotencyKey ended.2.log))
    | some (top, code, message) => ended.1 = .inr (code, message) ∧
        ∃ before, Recording request.idempotencyKey top before ended.2 ∧
          (Lawful (.submitting :: earlier) → Lawful (top :: before)) ∧
          (code ≠ -1 → ended.2.ledger = world.ledger ∧
            ended.2.simTicketSeq = world.simTicketSeq) := by
  obtain ⟨answered, ledger, log⟩ := silent_sendToMt5 config attempt caller request world
    surroundings.nativeAvailable
  have sent := recording.frame ledger log
  unfold attemptOnce attemptFailure
  dsimp only
  rw [run_bind, answered]
  cases answer : sendAnswer config attempt request surroundings.nativeAvailable
      world.simTicketSeq with
  | error text => exact ⟨rfl, _, sent, id, fun exception => absurd rfl exception⟩
  | ok reply =>
      by_cases accepted : reply.success = true
      · obtain ⟨before, settled, lawful, ended⟩ := run_settle surroundings.market attempt caller
          retries reply sent
        dsimp only
        rw [if_pos accepted, if_pos accepted, run_bind]
        cases failed : (settleOutcome surroundings.market attempt request reply).2 with
        | none =>
            rw [failed] at ended
            obtain ⟨result, returned⟩ := ended
            rw [returned]
            refine ⟨⟨result, rfl⟩, fun start => ?_⟩
            have states := settled.states
            have onTable := lawful start
            rw [← states] at onTable
            exact onTable
        | some text =>
            rw [failed] at ended
            rw [ended]
            exact ⟨rfl, before, settled, lawful, fun exception => absurd rfl exception⟩
      · dsimp only
        rw [if_neg accepted, if_neg accepted]
        exact ⟨rfl, _, sent, id, fun _ =>
          ⟨ledger, simTicketSeq_sendToMt5 answer (Bool.eq_false_iff.mpr accepted)⟩⟩

/-- What follows a failed attempt is what its verdict says. -/
theorem run_afterFailure (config : EngineConfig) (market : MarketView) (attempt : Attempt)
    (caller retries : Nat) (code : Int) (message : Val)
    (again : Option (Program World (Except String ExecutionResult)))
    (recording : Recording request.idempotencyKey top earlier world) :
    recordedStates request.idempotencyKey ((afterFailure config market attempt caller request
        retries code message again).run world).2.log =
      match failureVerdict config market attempt request code message again.isSome with
      | .stop => top :: earlier
      | .adopt _ => .positionConfirmed :: top :: earlier
      | .unknown => .unknown :: top :: earlier
      | .retry => recordedStates request.idempotencyKey
          ((again.getD (pure (.error ""))).run world).2.log := by
  have states := recording.states
  unfold afterFailure failureVerdict
  cases isAmbiguousExecution code message with
  | error text => exact states
  | ok ambiguous =>
      cases ambiguous with
      | true =>
          unfold adoptOr adoptVerdict
          cases adoptLostResponse config market attempt request with
          | error text => exact states
          | ok found =>
              cases found with
              | none =>
                  exact (recordedStates_setOrder _ _).trans (congrArg _ states)
              | some adopted =>
                  exact (recordedStates_setOrder _ _).trans (congrArg _ states)
      | false =>
          cases transient : isTransientError code message with
          | error text => exact states
          | ok retryable =>
              cases retryable with
              | false => exact states
              | true =>
                  cases again with
                  | none => exact states
                  | some pass =>
                      unfold adoptOr adoptVerdict
                      cases adoptLostResponse config market attempt request with
                      | error text => exact states
                      | ok found =>
                          cases found with
                          | none => rfl
                          | some adopted =>
                              exact (recordedStates_setOrder _ _).trans (congrArg _ states)

theorem run_persistRetry (config : EngineConfig) (caller number : Nat)
    (recording : Recording request.idempotencyKey .submitting earlier world) :
    let ended := (persistRetry config caller request number).run world
    ended.1 = (retryLedger config request number world.ledger).1 ∧
      ended.2.ledger = (retryLedger config request number world.ledger).2 ∧
      ended.2.simTicketSeq = world.simTicketSeq ∧
      ∃ before, Recording request.idempotencyKey .submitting before ended.2 ∧
        (Lawful (.submitting :: earlier) → Lawful (.submitting :: before)) := by
  unfold persistRetry retryLedger
  split
  · refine ⟨rfl, rfl, rfl, _, Recording.setOrder caller recording.states .submitting
      (keeps_identityFields_append request number), fun lawful => ?_⟩
    exact lawful_cons_cons.mpr ⟨.inl rfl, lawful⟩
  · exact ⟨rfl, rfl, rfl, _, recording, id⟩

theorem run_recordPending (key : String) (world : World) :
    let ended := (recordPending key).run world
    ended.2.ledger = world.ledger ∧ ended.2.log = world.log ∧
      ended.2.simTicketSeq = world.simTicketSeq := by
  unfold recordPending
  rw [run_modify]
  dsimp only
  split <;> exact ⟨rfl, rfl, rfl⟩

/-- The states that may precede a failure admit the unknown state, and the confirmed
state only after itself. -/
theorem mayFollow_after_failure
    (reached : top = .submitting ∨ top = .acknowledged ∨ top = .positionConfirmed) :
    MayFollow .unknown top ∧ (MayFollow .positionConfirmed top ↔ top = .positionConfirmed) := by
  rcases reached with rfl | rfl | rfl <;> decide

/-- After a failure the lifecycle stays on the table exactly when the failure is not
answered by adopting an unconfirmed order, nor by a pass that leaves the table. -/
theorem afterFailure_lawful_iff (config : EngineConfig) (market : MarketView)
    (attempt : Attempt) (caller retries : Nat) (code : Int) (message : Val)
    (again : Option (Program World (Except String ExecutionResult))) (leaves : Prop)
    (recording : Recording request.idempotencyKey top earlier world)
    (reached : top = .submitting ∨ top = .acknowledged ∨ top = .positionConfirmed)
    (lawful : Lawful (top :: earlier))
    (retried : failureVerdict config market attempt request code message again.isSome = .retry →
      (Lawful (recordedStates request.idempotencyKey
        ((again.getD (pure (.error ""))).run world).2.log) ↔ ¬ leaves)) :
    Lawful (recordedStates request.idempotencyKey
        ((afterFailure config market attempt caller request retries code message again).run
          world).2.log) ↔
      ¬ ((∃ adopted, failureVerdict config market attempt request code message again.isSome =
            .adopt adopted) ∧ top ≠ .positionConfirmed ∨
          failureVerdict config market attempt request code message again.isSome = .retry ∧
            leaves) := by
  obtain ⟨unknown, confirmed⟩ := mayFollow_after_failure reached
  rw [run_afterFailure config market attempt caller retries code message again recording]
  cases verdict : failureVerdict config market attempt request code message again.isSome with
  | stop => simpa using lawful
  | unknown => simpa using lawful_cons_cons.mpr ⟨unknown, lawful⟩
  | adopt adopted =>
      rw [lawful_cons_cons, confirmed, and_iff_left lawful]
      simp
  | retry => simpa using retried verdict

/-- One pass of the retry loop stays on the lifecycle table exactly when it does not
adopt an unconfirmed order, nor leads to a pass that does. -/
theorem attemptPass_lawful_iff (config : EngineConfig) (surroundings : Surroundings)
    (caller number : Nat) (again : Option (Program World (Except String ExecutionResult)))
    (later : Ledger → Prop)
    (rest : ∀ pass, again = some pass → ∀ (next : World) (before : List OrderState),
      next.simTicketSeq = world.simTicketSeq →
      Recording request.idempotencyKey .submitting before next →
      Lawful (.submitting :: before) →
      (Lawful (recordedStates request.idempotencyKey (pass.run next).2.log) ↔
        ¬ later next.ledger))
    (recording : Recording request.idempotencyKey .submitting earlier world)
    (lawful : Lawful (.submitting :: earlier)) :
    Lawful (recordedStates request.idempotencyKey
        ((attemptPass config surroundings caller request number again).run world).2.log) ↔
      ¬ PassAdopts config surroundings request world.simTicketSeq number again.isSome later
        world.ledger := by
  obtain ⟨persisted, ledger, seq, before, recorded, onTable⟩ :=
    run_persistRetry config caller number recording
  unfold attemptPass PassAdopts
  rw [run_bind, persisted]
  dsimp only
  cases stored : (retryLedger config request number world.ledger).1 with
  | false =>
      have states : recordedStates request.idempotencyKey
          ((persistRetry config caller request number).run world).2.log = _ := recorded.states
      rw [if_pos (by rfl), clearPending, Program.modify, run_perform_bind]
      simp only [Bool.false_eq_true, false_and, not_false_iff, iff_true]
      have kept := onTable lawful
      rw [← states] at kept
      exact kept
  | true =>
      rw [if_neg (by simp), run_bind]
      have attempted := run_attemptOnce config surroundings (surroundings.attempts number) caller
        number recorded
      rw [seq] at attempted
      cases fails : attemptFailure surroundings.market (surroundings.attempts number) request
          (sendAnswer config (surroundings.attempts number) request surroundings.nativeAvailable
            world.simTicketSeq) with
      | none =>
          rw [fails] at attempted
          obtain ⟨⟨result, returned⟩, kept⟩ := attempted
          rw [returned]
          simp only [reduceCtorEq, false_and, exists_false, and_false, not_false_iff, iff_true]
          exact kept (onTable lawful)
      | some failure =>
          obtain ⟨top, code, message⟩ := failure
          rw [fails] at attempted
          obtain ⟨returned, left, recordedTop, kept, unchanged⟩ := attempted
          have lawfulTop := kept (onTable lawful)
          have after := afterFailure_lawful_iff config surroundings.market
            (surroundings.attempts number) caller number code message again
            (later (retryLedger config request number world.ledger).2) recordedTop
            (attemptFailure_top fails) lawfulTop ?_
          · rw [returned]
            refine after.trans (not_congr ?_)
            constructor
            · intro leaves
              exact ⟨rfl, top, code, message, rfl, leaves⟩
            · rintro ⟨-, _, _, _, ⟨⟩, leaves⟩
              exact leaves
          · intro verdict
            obtain ⟨pass, next⟩ := Option.isSome_iff_exists.mp (left_of_retry verdict)
            have certain := no_exception_of_retry verdict
            obtain ⟨sameLedger, sameSeq⟩ := unchanged certain
            have submitting := submitting_of_no_exception fails certain
            subst submitting
            have afterRetry := rest pass next _ _ sameSeq recordedTop lawfulTop
            rw [sameLedger, ledger] at afterRetry
            rw [next]
            exact afterRetry

/-- The retry loop stays on the lifecycle table exactly when no pass adopts an
unconfirmed order. -/
theorem attemptLoop_lawful_iff (config : EngineConfig) (surroundings : Surroundings)
    (caller number remaining : Nat)
    (recording : Recording request.idempotencyKey .submitting earlier world)
    (lawful : Lawful (.submitting :: earlier)) :
    Lawful (recordedStates request.idempotencyKey
        ((attemptLoop config surroundings caller request number remaining).run world).2.log) ↔
      ¬ AdoptsUnconfirmed config surroundings request world.simTicketSeq number remaining
        world.ledger := by
  induction remaining generalizing number world earlier with
  | zero =>
      exact attemptPass_lawful_iff config surroundings caller number none _
        (fun _ absent => nomatch absent) recording lawful
  | succ remaining ih =>
      refine attemptPass_lawful_iff config surroundings caller number (some _) _ ?_ recording
        lawful
      intro pass same next before seq recorded onTable
      rw [← Option.some.inj same, ← seq]
      exact ih (number + 1) recorded onTable

end Run

/-! ## Whole calls -/

section Call

variable (config : EngineConfig) (surroundings : Surroundings) (request : OrderRequest)
variable (ledger : Ledger)

/-- The request of a call with its identifiers complete. -/
def identified : OrderRequest :=
  request.withIdentity surroundings.freshKey surroundings.freshExecution

/-- Writing the intent: whether it is durable, and the ledger afterwards. -/
def intentWrite : Bool × Ledger :=
  ledger.setOrder request.idempotencyKey OrderState.intentCreated.value (firstFields request)

/-- Writing the submission of a validated request. -/
def submittingWrite : Bool × Ledger :=
  ((intentWrite request ledger).2.setOrder request.idempotencyKey
    OrderState.riskApproved.value []).2.setOrder request.idempotencyKey
      OrderState.submitting.value (firstFields request)

/-- Whether a call passes the checks and can write its intent. -/
def Enters (world : World) : Prop :=
  (config.requireDurableState = true → world.ledger.healthy = true) ∧
    (config.requireApproval = true → request.approved = true) ∧
    world.isDuplicate request.idempotencyKey = false ∧
    (config.requireDurableState = true → (intentWrite request world.ledger).1 = true)

/-- The three ways in which a call leaves the lifecycle table. -/
inductive Lapses (world : World) : Prop
  | refusal {prior : OrderState} (refuses : RefusesApproval config request world.ledger)
      (known : lifecycleState world.ledger (callKey surroundings request) = some prior)
      (final : ¬ MayFollow .unknown prior)
  | invalid {error : String} {errors : List String}
      (enters : Enters config (identified surroundings request) world)
      (rejected : validateOrder config surroundings.market (identified surroundings request) =
        .ok (error :: errors))
  | adoption (enters : Enters config (identified surroundings request) world)
      (valid : validateOrder config surroundings.market (identified surroundings request) =
        .ok [])
      (persisted : config.requireDurableState = true →
        (submittingWrite (identified surroundings request) world.ledger).1 = true)
      (adopts : AdoptsUnconfirmed config surroundings (identified surroundings request)
        world.simTicketSeq 0 config.maxRetries
        (submittingWrite (identified surroundings request) world.ledger).2)

/-- A log that says nothing but the state in which the record of an order is. -/
def priorLog (key : String) (ledger : Ledger) : List Event :=
  (lifecycleState ledger key).toList.map fun prior => .wrote 0 key prior true

/-- The world with that log. -/
def seeded (key : String) (world : World) : World :=
  { world with log := priorLog key world.ledger }

/-- The states of an order from the one its record was in to the last one that a call
recorded, newest first. -/
def callStates (caller : Nat) (world : World) : List OrderState :=
  recordedStates (callKey surroundings request) (afterCall config surroundings caller request
    (seeded (callKey surroundings request) world)).log

variable {config surroundings request ledger} {world : World} {caller : Nat} {key : String}

theorem recordedStates_priorLog :
    recordedStates key (priorLog key ledger) = (lifecycleState ledger key).toList := by
  unfold priorLog
  cases lifecycleState ledger key with
  | none => rfl
  | some prior => simp [recordedStates, Event.recordedState]

theorem recordedStates_seeded :
    recordedStates key (seeded key world).log = (lifecycleState world.ledger key).toList :=
  recordedStates_priorLog

theorem lawful_seeded : Lawful (recordedStates key (seeded key world).log) := by
  rw [recordedStates_seeded]
  cases lifecycleState world.ledger key with
  | none => exact .nil
  | some prior => exact .singleton prior

/-- A record that is not beyond the marker is in no later state. -/
theorem eq_intentCreated_of_not_memoryBeyond {prior : OrderState}
    (fresh : ledger.memoryBeyond key = false) (known : lifecycleState ledger key = some prior) :
    prior = .intentCreated := by
  unfold lifecycleState Ledger.memoryState at known
  cases stored : ledger.orderStore.get key with
  | none => simp [stored] at known
  | some record =>
      rw [stored, Option.bind_some] at known
      split at known
      · rename_i text held
        have named : prior.value = text := by
          have found := List.find?_some known
          simpa using found
        rw [← named] at held
        by_contra later
        have beyond := (beyondIntent_iff held).mpr later
        simp [Ledger.memoryBeyond, stored, beyond] at fresh
      · cases known

/-- The lifecycle of a validated request stays on the table exactly when its submission
cannot be persisted or no pass adopts an unconfirmed order. -/
theorem submitValid_lawful_iff (config : EngineConfig) (surroundings : Surroundings)
    (caller : Nat) {earlier : List OrderState}
    (recording : Recording request.idempotencyKey .intentCreated earlier world)
    (lawful : Lawful (.intentCreated :: earlier)) :
    let approved := (world.ledger.setOrder request.idempotencyKey
      OrderState.riskApproved.value []).2
    let stored := approved.setOrder request.idempotencyKey OrderState.submitting.value
      (firstFields request)
    Lawful (recordedStates request.idempotencyKey
        ((submitValid config surroundings caller request).run world).2.log) ↔
      ¬ ((config.requireDurableState = true → stored.1 = true) ∧
        AdoptsUnconfirmed config surroundings request world.simTicketSeq 0 config.maxRetries
          stored.2) := by
  have approved := Recording.setOrder caller recording.states .riskApproved (keeps_nil _)
  have submitting := Recording.setOrder caller approved.states .submitting
    (keeps_identityFields_append request 0)
  have onTable : Lawful (.submitting :: .riskApproved :: .intentCreated :: earlier) := by
    rw [lawful_cons_cons, lawful_cons_cons]
    exact ⟨by decide, by decide, lawful⟩
  unfold submitValid
  dsimp only
  rw [Execution.setOrder, run_perform_bind, Execution.setOrder, run_perform_bind]
  by_cases blocked : (config.requireDurableState && !((world.setOrder caller
      request.idempotencyKey .riskApproved []).2.setOrder caller request.idempotencyKey
        .submitting (firstFields request)).1) = true
  · rw [if_pos blocked]
    have states := submitting.states
    refine iff_of_true (by rw [← states] at onTable; exact onTable) ?_
    rintro ⟨persisted, -⟩
    rw [Bool.and_eq_true, Bool.not_eq_true'] at blocked
    exact Bool.false_ne_true (blocked.2.symm.trans (persisted blocked.1))
  · have persisted : config.requireDurableState = true →
        ((world.ledger.setOrder request.idempotencyKey
          OrderState.riskApproved.value []).2.setOrder request.idempotencyKey
            OrderState.submitting.value (firstFields request)).1 = true := by
      intro required
      have stored : ((world.setOrder caller request.idempotencyKey .riskApproved []).2.setOrder
          caller request.idempotencyKey .submitting (firstFields request)).1 = true := by
        simpa [required] using blocked
      exact stored
    obtain ⟨ledger, log, seq⟩ := run_recordPending request.idempotencyKey
      ((world.setOrder caller request.idempotencyKey .riskApproved []).2.setOrder caller
        request.idempotencyKey .submitting (firstFields request)).2
    have looped := attemptLoop_lawful_iff config surroundings caller 0 config.maxRetries
      (submitting.frame ledger (congrArg _ log)) onTable
    rw [ledger, seq] at looped
    rw [if_neg blocked, and_iff_right persisted, run_bind, run_bind]
    exact looped

/-- The lifecycle of a request that passed the checks stays on the table exactly when it
is neither rejected by validation nor adopted unconfirmed. -/
theorem submitOrder_lawful_iff (config : EngineConfig) (surroundings : Surroundings)
    (caller : Nat) (request : OrderRequest)
    (lawful : Lawful (.intentCreated :: recordedStates request.idempotencyKey world.log)) :
    Lawful (recordedStates request.idempotencyKey
        ((submitOrder config surroundings caller request).run world).2.log) ↔
      ¬ ((config.requireDurableState = true → (intentWrite request world.ledger).1 = true) ∧
        ((∃ error errors, validateOrder config surroundings.market request =
            .ok (error :: errors)) ∨
          validateOrder config surroundings.market request = .ok [] ∧
            (config.requireDurableState = true →
              (submittingWrite request world.ledger).1 = true) ∧
            AdoptsUnconfirmed config surroundings request world.simTicketSeq 0
              config.maxRetries (submittingWrite request world.ledger).2)) := by
  have created : Recording request.idempotencyKey .intentCreated
      (recordedStates request.idempotencyKey world.log)
      (world.setOrder caller request.idempotencyKey .intentCreated (firstFields request)).2 :=
    .setOrder caller rfl .intentCreated (keeps_identityFields_append request 0)
  have states := created.states
  unfold submitOrder
  rw [Execution.setOrder, run_perform_bind]
  by_cases blocked : (!(world.setOrder caller request.idempotencyKey .intentCreated
      (firstFields request)).1 && config.requireDurableState) = true
  · rw [if_pos blocked]
    refine iff_of_true (by rw [← states] at lawful; exact lawful) ?_
    rintro ⟨persisted, -⟩
    rw [Bool.and_eq_true, Bool.not_eq_true'] at blocked
    exact Bool.false_ne_true (blocked.1.symm.trans (persisted blocked.2))
  · have persisted : config.requireDurableState = true →
        (intentWrite request world.ledger).1 = true := by
      intro required
      have stored : (world.setOrder caller request.idempotencyKey .intentCreated
          (firstFields request)).1 = true := by
        simpa [required] using blocked
      exact stored
    rw [if_neg blocked, and_iff_right persisted]
    cases validated : validateOrder config surroundings.market request with
    | error text =>
        refine iff_of_true (by rw [← states] at lawful; exact lawful) ?_
        rintro (⟨_, _, rejected⟩ | ⟨valid, -⟩)
        · cases rejected
        · cases valid
    | ok errors =>
        cases errors with
        | nil =>
            refine (submitValid_lawful_iff config surroundings caller created lawful).trans ?_
            rw [not_iff_not]
            constructor
            · exact fun adopts => .inr ⟨rfl, adopts⟩
            · rintro (⟨_, _, ⟨⟩⟩ | ⟨-, adopts⟩)
              exact adopts
        | cons error errors =>
            have unknown : MayFollow .unknown .intentCreated ↔ False := by decide
            have rejected : recordedStates request.idempotencyKey
                ((rejectInvalid caller request (error :: errors)).run
                  (world.setOrder caller request.idempotencyKey .intentCreated
                    (firstFields request)).2).2.log =
                .unknown :: .intentCreated :: recordedStates request.idempotencyKey world.log :=
              (recordedStates_setOrder _ _).trans (congrArg _ states)
            refine iff_of_false (fun onTable => ?_) (fun harmless => harmless (.inl ⟨_, _, rfl⟩))
            have changed : Lawful (.unknown :: .intentCreated ::
                recordedStates request.idempotencyKey world.log) := by
              rw [← rejected]
              exact onTable
            exact unknown.mp (lawful_cons_cons.mp changed).1

/-- A call that passes the checks stays on the table exactly when its lifecycle does. -/
theorem callStates_lawful_of_passed
    (ready : config.requireDurableState = true → world.ledger.healthy = true)
    (approved : config.requireApproval = true → request.approved = true)
    (fresh : world.isDuplicate (callKey surroundings request) = false) :
    Lawful (callStates config surroundings request caller world) ↔
      ¬ Lapses config surroundings request world := by
  have noted : recordedStates (callKey surroundings request)
      ((seeded (callKey surroundings request) world).record
        (.checked caller (callKey surroundings request) false)).log =
      (lifecycleState world.ledger (callKey surroundings request)).toList :=
    recordedStates_seeded
  have start : Lawful (.intentCreated ::
      (lifecycleState world.ledger (callKey surroundings request)).toList) := by
    cases known : lifecycleState world.ledger (callKey surroundings request) with
    | none => exact .singleton _
    | some prior =>
        have remembered := memoryBeyond_of_not_duplicate (callKey_nonempty _ _) fresh
        rw [eq_intentCreated_of_not_memoryBeyond remembered known]
        decide
  rw [← noted] at start
  have submitted := submitOrder_lawful_iff config surroundings caller
    (identified surroundings request) start
  unfold callStates
  rw [afterCall_passed surroundings caller (seeded _ world) ready approved fresh]
  refine Iff.trans submitted ?_
  rw [not_iff_not]
  constructor
  · rintro ⟨persisted, ⟨error, errors, rejected⟩ | ⟨valid, stored, adopts⟩⟩
    · exact .invalid ⟨ready, approved, fresh, persisted⟩ rejected
    · exact .adoption ⟨ready, approved, fresh, persisted⟩ valid stored adopts
  · rintro (⟨refuses, known, final⟩ | ⟨enters, rejected⟩ | ⟨enters, valid, stored, adopts⟩)
    · exact absurd (approved refuses.2.1) (by simp [refuses.2.2])
    · exact ⟨enters.2.2.2, .inl ⟨_, _, rejected⟩⟩
    · exact ⟨enters.2.2.2, .inr ⟨valid, stored, adopts⟩⟩

/-- The states that a call records for its order follow the lifecycle table exactly when
the call is not refused over a state that the unknown state may not follow, its request
is not rejected by validation, and it adopts no unconfirmed order. -/
theorem call_lawful_iff :
    Lawful (callStates config surroundings request caller world) ↔
      ¬ Lapses config surroundings request world := by
  by_cases ready : config.requireDurableState = true → world.ledger.healthy = true
  · by_cases approved : config.requireApproval = true → request.approved = true
    · cases fresh : world.isDuplicate (callKey surroundings request) with
      | false => exact callStates_lawful_of_passed ready approved fresh
      | true =>
          refine iff_of_true ?_ ?_
          · unfold callStates
            rw [afterCall_duplicate surroundings caller (seeded _ world) ready approved fresh]
            exact lawful_seeded
          · rintro (⟨refuses, known, final⟩ | ⟨enters, rejected⟩ | ⟨enters, valid, stored, adopts⟩)
            · exact absurd (approved refuses.2.1) (by simp [refuses.2.2])
            · exact Bool.false_ne_true (enters.2.2.1.symm.trans fresh)
            · exact Bool.false_ne_true (enters.2.2.1.symm.trans fresh)
    · rw [Classical.not_imp, Bool.not_eq_true] at approved
      have refuses : RefusesApproval config request world.ledger := ⟨ready, approved⟩
      unfold callStates
      rw [afterCall_refused surroundings caller (seeded _ world) refuses, recordedStates_setOrder,
        recordedStates_seeded]
      constructor
      · intro lawful
        rintro (⟨-, known, final⟩ | ⟨enters, -⟩ | ⟨enters, -, -, -⟩)
        · rw [known] at lawful
          exact final (lawful_cons_cons.mp lawful).1
        · exact absurd (enters.2.1 approved.1) (by simp [identified, approved.2])
        · exact absurd (enters.2.1 approved.1) (by simp [identified, approved.2])
      · intro harmless
        cases known : lifecycleState world.ledger (callKey surroundings request) with
        | none => exact .singleton _
        | some prior =>
            refine lawful_cons_cons.mpr ⟨?_, .singleton _⟩
            by_contra final
            exact harmless (.refusal refuses known final)
  · refine iff_of_true ?_ ?_
    · unfold callStates
      rw [Classical.not_imp, Bool.not_eq_true] at ready
      rw [afterCall_blocked surroundings caller (seeded _ world) ready]
      exact lawful_seeded
    · rintro (⟨refuses, known, final⟩ | ⟨enters, rejected⟩ | ⟨enters, valid, stored, adopts⟩)
      · exact ready refuses.1
      · exact ready enters.1
      · exact ready enters.1

end Call

/-- Surroundings whose broker loses its reply although the order was placed. -/
def lostReplySurroundings : Surroundings :=
  { Sample.surroundings with
    attempts := fun _ =>
      { Sample.attempt with reply := .error "reply timeout", located := .ok (some (.int 9)) } }

/-- A rejected request and an adopted order leave the lifecycle table. -/
theorem calls_leave_lifecycle_table :
    callStates Sample.config Sample.surroundings
        { Sample.request with volume := ⟨0, "0.0"⟩ } 0 (World.start Ledger.initial) =
      [.unknown, .intentCreated] ∧
    callStates { Sample.config with hasOrderLocator := true } lostReplySurroundings
        Sample.request 0 (World.start Ledger.initial) =
      [.positionConfirmed, .submitting, .riskApproved, .intentCreated] ∧
    ¬ Lawful (callStates Sample.config Sample.surroundings
        { Sample.request with volume := ⟨0, "0.0"⟩ } 0 (World.start Ledger.initial)) ∧
    ¬ Lawful (callStates { Sample.config with hasOrderLocator := true } lostReplySurroundings
        Sample.request 0 (World.start Ledger.initial)) := by
  have rejected : callStates Sample.config Sample.surroundings
      { Sample.request with volume := ⟨0, "0.0"⟩ } 0 (World.start Ledger.initial) =
        [.unknown, .intentCreated] := by
    decide +kernel
  have adopted : callStates { Sample.config with hasOrderLocator := true } lostReplySurroundings
      Sample.request 0 (World.start Ledger.initial) =
        [.positionConfirmed, .submitting, .riskApproved, .intentCreated] := by
    decide +kernel
  refine ⟨rejected, adopted, ?_, ?_⟩
  · rw [rejected]
    decide
  · rw [adopted]
    decide

end EaBot.Execution
