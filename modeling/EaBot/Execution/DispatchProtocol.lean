import EaBot.Execution.ExecuteOrder

/-!
# The dispatch protocol of one call

Seen from the ledger, a call of the engine passes through a few phases: it is
admitted, checks for a duplicate, writes the intent, commits to the submission,
and from then on dispatches and only ever writes states beyond the intent marker.
The protocol says which action is possible in which phase.  The method conforms to
it for every configuration, every request and every behaviour of the surroundings,
so whatever follows from the protocol holds for complete calls, for calls that a
crash cuts short and for calls that interleave.
-/

namespace EaBot.Execution

open EaBot.Foundation Program

/-- How far a call has come. -/
inductive Phase
  | opened
  | ready
  | cleared
  | committed
  | dispatching
  | finished
deriving DecidableEq

/-- The phase that a ledger write leads to, where the protocol permits the write. -/
def writeLeads (durable : Bool) : Phase → OrderState → Bool → Option Phase
  | .ready, .unknown, _ => some .finished
  | .cleared, .intentCreated, _ => some .cleared
  | .cleared, .riskApproved, _ => some .committed
  | .cleared, .unknown, _ => some .finished
  | .committed, .submitting, persisted =>
      some (if durable && !persisted then .committed else .dispatching)
  | .dispatching, .intentCreated, _ => none
  | .dispatching, _, _ => some .dispatching
  | _, _, _ => none

/-- What a permitted write says about its phases. -/
theorem writeLeads_cases {durable persisted : Bool} {phase next : Phase} {state : OrderState}
    (leads : writeLeads durable phase state persisted = some next) :
    (next = .finished ∧ state ≠ .intentCreated) ∨
    (phase = .cleared ∧ next = .cleared ∧ state = .intentCreated) ∨
    (phase = .cleared ∧ next = .committed ∧ state ≠ .intentCreated) ∨
    (phase = .committed ∧ state = .submitting ∧
      next = if durable && !persisted then .committed else .dispatching) ∨
    (phase = .dispatching ∧ next = .dispatching ∧ state ≠ .intentCreated) := by
  cases phase <;> cases state <;> simp_all [writeLeads]

/-- The permitted moves of a caller whose order has the given key. -/
inductive Moves (durable : Bool) (caller : Nat) (key : String) :
    Phase → World → Phase → World → Prop
  | keep {phase : Phase} {before after : World} (ledger : after.ledger = before.ledger)
      (log : after.log = before.log) : Moves durable caller key phase before phase after
  | enter {world : World} (healthy : durable = true → world.ledger.healthy = true) :
      Moves durable caller key .opened world .ready world
  | check {world : World} :
      Moves durable caller key .ready world
        (if world.isDuplicate key then .finished else .cleared)
        (world.record (.checked caller key (world.isDuplicate key)))
  | write {phase next : Phase} {world : World} {state : OrderState}
      {extra : List (String × Val)} (keeps : Keeps key extra)
      (leads : writeLeads durable phase state (world.setOrder caller key state extra).1 =
        some next) :
      Moves durable caller key phase world next (world.setOrder caller key state extra).2
  | dispatch {world : World} {route : Route} {submission : Submission} :
      Moves durable caller key .dispatching world .dispatching
        (world.dispatch caller key route submission)
  | leave {phase : Phase} {world : World} :
      Moves durable caller key phase world .finished (world.record (.returned caller))

section Conformance

variable {durable : Bool} {caller : Nat} {key : String} {α β : Type}

/-- A part of the method that starts and ends in the dispatching phase. -/
def Dispatching (durable : Bool) (caller : Nat) (key : String) (program : Program World α) :
    Prop :=
  Conforms (Moves durable caller key) (fun phase _ => phase = .dispatching) program .dispatching

namespace Dispatching

theorem done (result : α) : Dispatching durable caller key (pure result : Program World α) :=
  rfl

theorem bind {program : Program World α} {next : α → Program World β}
    (first : Dispatching durable caller key program)
    (second : ∀ result, Dispatching durable caller key (next result)) :
    Dispatching durable caller key (program >>= next) := by
  refine Conforms.bind first fun phase result ended => ?_
  subst ended
  exact second result

/-- An action on the engine's own registries. -/
theorem keep {action : World → α × World}
    (ledger : ∀ world, (action world).2.ledger = world.ledger)
    (log : ∀ world, (action world).2.log = world.log) :
    Dispatching durable caller key (perform action) :=
  conforms_perform fun world => ⟨_, .keep (ledger world) (log world), rfl⟩

/-- A ledger write of any state beyond the intent marker. -/
theorem setOrder {state : OrderState} {extra : List (String × Val)}
    (keeps : Keeps key extra) (beyond : state ≠ .intentCreated) :
    Dispatching durable caller key (setOrder caller key state extra) :=
  conforms_perform fun world =>
    ⟨.dispatching, .write keeps (by cases state <;> simp_all [writeLeads]), rfl⟩

theorem dispatch (route : Route) (submission : Submission) :
    Dispatching durable caller key (dispatch caller key route submission) :=
  conforms_perform fun _ => ⟨_, .dispatch, rfl⟩

theorem clearPending : Dispatching durable caller key (clearPending key) :=
  keep (fun _ => rfl) fun _ => rfl

theorem recordCompleted (result : ExecutionResult) :
    Dispatching durable caller key (recordCompleted key result) :=
  keep (fun _ => rfl) fun _ => rfl

theorem recordPending : Dispatching durable caller key (recordPending key) :=
  keep (fun _ => by dsimp only; split <;> rfl) fun _ => by dsimp only; split <;> rfl

end Dispatching

end Conformance

/-! ## The method conforms -/

section Method

variable (config : EngineConfig) (surroundings : Surroundings) (market : MarketView)
variable (attempt : Attempt) (caller : Nat) (request : OrderRequest)

/-- The parts of the method that run for the request's own key. -/
abbrev Submits {α : Type} (config : EngineConfig) (caller : Nat) (request : OrderRequest)
    (program : Program World α) : Prop :=
  Dispatching config.requireDurableState caller request.idempotencyKey program

theorem submits_simulatedFill (clockMs : Nat) (price : Number) :
    Submits config caller request (simulatedFill clockMs caller request price) :=
  .bind (.keep (fun _ => rfl) fun _ => rfl) fun _ => .bind (.dispatch _ _) fun _ => .done _

theorem submits_sendNative : Submits config caller request (sendNative attempt caller request) := by
  unfold sendNative
  split
  · exact .done _
  · split
    · exact .done _
    · refine .bind (.dispatch _ _) fun _ => ?_
      split <;> exact .done _

theorem submits_sendToMt5 (nativeAvailable : Bool) :
    Submits config caller request (sendToMt5 config nativeAvailable attempt caller request) := by
  have offline : Submits config caller request
      (if config.simulationMode && !config.requireApproval then
        simulatedFill attempt.clockMs caller request request.price
      else if nativeAvailable then
        sendNative attempt caller request
      else if config.simulationMode then
        simulatedFill attempt.clockMs caller request
          (if request.price.value = 0 then ⟨10850 / 10000, "1.085"⟩ else request.price)
      else
        return .ok (failedReply 1 ("No live MT5 connection and simulation_mode is disabled — " ++
          "order not sent (no fabricated fill)."))) := by
    split
    · exact submits_simulatedFill config caller request _ _
    · split
      · exact submits_sendNative config attempt caller request
      · split
        · exact submits_simulatedFill config caller request _ _
        · exact .done _
  unfold sendToMt5
  cases config.connector with
  | orderSend => exact .bind (.dispatch _ _) fun _ => .done _
  | executeOrder => exact .bind (.dispatch _ _) fun _ => .done _
  | absent => exact offline
  | noSubmission => exact offline

theorem keeps_positionFields (ticket : Option Int) {adopted : List (String × Val)}
    (keeps : Keeps request.idempotencyKey adopted) :
    Keeps request.idempotencyKey (positionFields request ticket adopted) := by
  unfold positionFields
  refine .append (.append (.append (.append ?_ keeps) ?_) request.keeps_identityFields) ?_
  all_goals simp [Keeps]

theorem keeps_submittedFields (ticket : Option Int) (retries : Nat) :
    Keeps request.idempotencyKey (submittedFields request ticket retries) := by
  refine .append (.append ?_ request.keeps_identityFields) ?_
  all_goals simp [Keeps]

theorem keeps_acknowledgedFields (ticket : Option Int) :
    Keeps request.idempotencyKey (acknowledgedFields ticket) := by
  simp [Keeps, acknowledgedFields]

theorem keeps_adoptedFields (adopted : ExecutionResult) :
    Keeps request.idempotencyKey (adoptedFields request adopted) :=
  .append (keeps_positionFields request adopted.ticket (by simp [Keeps])) (by simp [Keeps])

theorem keeps_unknownFields (retries : Nat) (code : Int) (message : Val) :
    Keeps request.idempotencyKey (unknownFields request retries code message) :=
  .append (by simp [Keeps]) request.keeps_identityFields

theorem submits_recordFill (ticket : Option Int) :
    Submits config caller request (recordFill caller request ticket) :=
  .bind (.setOrder (keeps_nil _) (by decide)) fun _ =>
    .bind (.setOrder (keeps_positionFields request ticket (keeps_nil _)) (by decide)) fun _ =>
      .done _

theorem submits_keepUnknown :
    Submits config caller request (keepUnknown caller request.idempotencyKey) := by
  refine .bind (.keep (fun _ => rfl) fun _ => rfl) fun final => ?_
  split
  · exact .bind (.setOrder (keeps_nil _) (by decide)) fun _ => .done _
  · exact .done _

theorem submits_finishFill (retries : Nat) (reply : SendReply) (confirmed : Bool) :
    Submits config caller request
      (finishFill market attempt caller request retries reply confirmed) := by
  unfold finishFill
  dsimp only
  split
  · exact .done _
  · refine .bind .clearPending fun _ => ?_
    refine .bind (submits_keepUnknown config caller request) fun _ => ?_
    split
    · exact .done _
    · exact .bind (.recordCompleted _) fun _ => .done _

theorem submits_settle (retries : Nat) (reply : SendReply) :
    Submits config caller request (settle market attempt caller request retries reply) := by
  refine .bind (.setOrder (keeps_submittedFields request _ _) (by decide)) fun _ =>
    .bind (.setOrder (keeps_acknowledgedFields request _) (by decide)) fun _ => ?_
  split
  · exact .done _
  · exact submits_finishFill config market attempt caller request _ _ _
  · exact .bind (submits_recordFill config caller request _) fun _ =>
      submits_finishFill config market attempt caller request _ _ _

theorem submits_attemptOnce (retries : Nat) :
    Submits config caller request
      (attemptOnce config surroundings attempt caller request retries) := by
  refine .bind (submits_sendToMt5 config attempt caller request _) fun sent => ?_
  cases sent with
  | error text => exact .done _
  | ok reply =>
      dsimp only
      split
      · refine .bind (submits_settle config _ attempt caller request _ _) fun settled => ?_
        cases settled with
        | error text => exact .done _
        | ok result => exact .done _
      · exact .done _

theorem submits_recordAdopted (adopted : ExecutionResult) :
    Submits config caller request (recordAdoptedLostResponse caller request adopted) :=
  .bind .clearPending fun _ =>
    .bind (.setOrder (keeps_adoptedFields request adopted) (by decide)) fun _ =>
      .recordCompleted _

theorem submits_recordUnknown (retries : Nat) (code : Int) (message : Val) :
    Submits config caller request (recordUnknown caller request retries code message) :=
  .bind .clearPending fun _ =>
    .bind (.setOrder (keeps_unknownFields request retries code message) (by decide)) fun _ =>
      .bind (.recordCompleted _) fun _ => .done _

theorem submits_adoptOr {otherwise : Program World (Except String ExecutionResult)}
    (rest : Submits config caller request otherwise) :
    Submits config caller request (adoptOr config market attempt caller request otherwise) := by
  unfold adoptOr
  split
  · exact .done _
  · exact rest
  · exact .bind (submits_recordAdopted config caller request _) fun _ => .done _

theorem submits_afterFailure (retries : Nat) (code : Int) (message : Val)
    {again : Option (Program World (Except String ExecutionResult))}
    (rest : ∀ pass, again = some pass → Submits config caller request pass) :
    Submits config caller request
      (afterFailure config market attempt caller request retries code message again) := by
  have givesUp : Submits config caller request (do
      let result ← exhausted request retries code message
      return Except.ok (ε := String) result) :=
    .bind (.bind .clearPending fun _ => .bind (.recordCompleted _) fun _ => .done _) fun _ =>
      .done _
  unfold afterFailure
  split
  · exact .done _
  · exact submits_adoptOr config market attempt caller request
      (.bind (submits_recordUnknown config caller request _ _ _) fun _ => .done _)
  · split
    · exact .done _
    · exact submits_adoptOr config market attempt caller request (rest _ rfl)
    · exact givesUp

theorem submits_attemptPass (number : Nat)
    {again : Option (Program World (Except String ExecutionResult))}
    (rest : ∀ pass, again = some pass → Submits config caller request pass) :
    Submits config caller request
      (attemptPass config surroundings caller request number again) := by
  have persists : Submits config caller request (persistRetry config caller request number) := by
    unfold persistRetry
    split
    · exact .setOrder (request.keeps_identityFields.append (by simp [Keeps])) (by decide)
    · exact .done _
  refine .bind persists fun persisted => ?_
  split
  · exact .bind .clearPending fun _ => .done _
  · refine .bind (submits_attemptOnce config surroundings _ caller request _) fun outcome => ?_
    rcases outcome with result | ⟨code, message⟩
    · exact .done _
    · exact submits_afterFailure config _ _ caller request _ _ _ rest

/-- The retry loop only dispatches and writes states beyond the intent marker. -/
theorem submits_attemptLoop (number remaining : Nat) :
    Submits config caller request
      (attemptLoop config surroundings caller request number remaining) := by
  induction remaining generalizing number with
  | zero =>
      exact submits_attemptPass config surroundings caller request number
        fun pass absent => nomatch absent
  | succ remaining ih =>
      refine submits_attemptPass config surroundings caller request number fun pass next => ?_
      rw [← Option.some.inj next]
      exact ih (number + 1)

/-- A call of the method from a phase on, ending in any phase. -/
abbrev Follows {α : Type} (config : EngineConfig) (caller : Nat) (request : OrderRequest)
    (program : Program World α) (phase : Phase) : Prop :=
  Conforms (Moves config.requireDurableState caller request.idempotencyKey) (fun _ _ => True)
    program phase

theorem Dispatching.follows {α : Type} {program : Program World α}
    (submits : Submits config caller request program) :
    Follows config caller request program .dispatching :=
  Conforms.mono submits fun _ _ _ => trivial

theorem follows_done {α : Type} (result : α) (phase : Phase) :
    Follows config caller request (pure result : Program World α) phase :=
  trivial

theorem keeps_identityFields_append (count : Int) :
    Keeps request.idempotencyKey (request.identityFields ++ [("retry_count", .int count)]) :=
  request.keeps_identityFields.append (by simp [Keeps])

/-- A validated request is committed before anything is dispatched for it. -/
theorem follows_submitValid :
    Follows config caller request (submitValid config surroundings caller request) .cleared := by
  refine conforms_perform_bind fun approving => ⟨.committed, .write (keeps_nil _) rfl, ?_⟩
  refine conforms_perform_bind fun submitting =>
    ⟨_, .write (keeps_identityFields_append request 0) rfl, ?_⟩
  cases blocked : config.requireDurableState && !(submitting.setOrder caller
      request.idempotencyKey .submitting (firstFields request)).1 with
  | true =>
      rw [if_pos rfl]
      exact follows_done config caller request _ _
  | false =>
      rw [if_neg Bool.false_ne_true, if_neg Bool.false_ne_true]
      exact Dispatching.follows config caller request
        (.bind .recordPending fun _ =>
          .bind (submits_attemptLoop config surroundings caller request 0 config.maxRetries)
            fun _ => .bind .clearPending fun _ => .done _)

theorem follows_submitOrder :
    Follows config caller request (submitOrder config surroundings caller request) .cleared := by
  refine conforms_perform_bind fun creating =>
    ⟨.cleared, .write (keeps_identityFields_append request 0) rfl, ?_⟩
  split
  · exact follows_done config caller request _ _
  · split
    · exact follows_done config caller request _ _
    · exact follows_submitValid config surroundings caller request
    · exact conforms_perform_bind fun rejecting =>
        ⟨.finished, .write (by simp [Keeps]) rfl, trivial⟩

/-- Every call conforms to the protocol. -/
theorem follows_executeIdentified :
    Follows config caller request (executeIdentified config surroundings caller request)
      .opened := by
  refine conforms_perform_bind fun world => ?_
  by_cases blocked : (config.requireDurableState && !world.ledger.healthy) = true
  · refine ⟨.opened, .keep rfl rfl, ?_⟩
    rw [if_pos blocked]
    exact follows_done config caller request _ _
  · have healthy : config.requireDurableState = true → world.ledger.healthy = true := by
      intro required
      simpa [required] using blocked
    refine ⟨.ready, .enter healthy, ?_⟩
    rw [if_neg blocked]
    split
    · exact conforms_perform_bind fun refusing =>
        ⟨.finished, .write (keeps_nil _) rfl, trivial⟩
    · refine conforms_perform_bind fun checking => ⟨_, .check, ?_⟩
      cases duplicate : checking.isDuplicate request.idempotencyKey with
      | true => exact follows_done config caller request _ _
      | false =>
          rw [if_neg Bool.false_ne_true, if_neg Bool.false_ne_true]
          refine Conforms.bind (follows_submitOrder config surroundings caller request) ?_
          intro phase result _ leaving
          exact ⟨.finished, .leave, trivial⟩

end Method

/-- The key under which a call runs. -/
def callKey (surroundings : Surroundings) (request : OrderRequest) : String :=
  (request.withIdentity surroundings.freshKey surroundings.freshExecution).idempotencyKey

theorem callKey_nonempty (surroundings : Surroundings) (request : OrderRequest) :
    callKey surroundings request ≠ "" :=
  request.withIdentity_key_nonempty surroundings.freshKey.2 _

/-- A call of the engine conforms to the dispatch protocol of its key. -/
theorem executeOrder_conforms (config : EngineConfig) (surroundings : Surroundings)
    (caller : Nat) (request : OrderRequest) :
    Conforms (Moves config.requireDurableState caller (callKey surroundings request))
      (fun _ _ => True) (executeOrder config surroundings caller request) .opened :=
  follows_executeIdentified config surroundings caller _

end EaBot.Execution
