import EaBot.Execution.Legality

/-!
# Replies of a broker that took the order

A broker that takes an order answers with one of three return codes: the order is placed, it is
done, or it is done in part.  When the connection is lost the answer is `None`.  None of these
answers says that the order was rejected.

Only a reply that is read as done succeeds.  Every other one is a failure whose return code leaves
nothing uncertain, so its words alone decide whether it counts as ambiguous, and `None` has none.
-/

namespace EaBot.Execution

open EaBot.Foundation

/-! ## Replies -/

/-- The return codes of an order that was taken: placed, done, done in part. -/
def takenRetcodes : List Int :=
  [10008, 10009, 10010]

namespace RawReply

/-- The answer `None`, which has no attributes. -/
def lost : RawReply :=
  .object Dict.empty

/-- The return code that a reply carries. -/
def retcode : RawReply → Val
  | mapping fields => fieldOr fields "retcode" .none
  | object attributes => fieldOr attributes "retcode" .none

/-- The reply carries a return code of an order that was taken. -/
def Taken (reply : RawReply) : Prop :=
  ∃ code ∈ takenRetcodes, reply.retcode.number? = some (code : ℚ)

/-- The reply names its order as done. -/
def done : RawReply → Bool
  | mapping fields => (fieldOr fields "success" (.bool false)).truthy
  | object attributes => (fieldOr attributes "retcode" .none).number? = some 10009

/-- The ticket that a reply carries. -/
def ticket : RawReply → Val
  | mapping fields =>
      ((fieldOr fields "ticket" .none).orElse (fieldOr fields "order_id" .none)).orElse
        (fieldOr fields "order" .none)
  | object attributes =>
      let order := fieldOr attributes "order" (fieldOr attributes "deal" .none)
      if order.truthy then order else .none

/-- The words of a reply. -/
def words : RawReply → Val
  | mapping fields =>
      (fieldOr fields "message" .none).orElse (fieldOr fields "comment" (.str ""))
  | object attributes => fieldOr attributes "comment" (.str "")

end RawReply

/-! ## What the retry loop makes of an answer -/

/-- The words do not say that nothing was submitted. -/
def deniesNothing (message : Val) : Bool :=
  match messageLower message with
  | .ok text => !saysNotSent text
  | .error _ => false

/-- The words leave open whether the order was accepted. -/
def leavesOpen (message : Val) : Bool :=
  match messageLower message with
  | .ok text => !saysNotSent text && ambiguousKeywords.any (Text.contains text)
  | .error _ => false

/-- The retry loop reports a fill with its ticket, or takes the failure for ambiguous. -/
def Recognised : Except String SendReply → Prop
  | .ok reply =>
      if reply.success then reply.ticket.any (· ≠ 0) = true
      else isAmbiguousExecution reply.errorCode reply.message = .ok true
  | .error text => isAmbiguousExecution (-1) (exceptionMessage text) = .ok true

instance : (answer : Except String SendReply) → Decidable (Recognised answer)
  | .ok reply => inferInstanceAs (Decidable (if reply.success then _ else _))
  | .error _ => inferInstanceAs (Decidable (_ = _))

/-- The message of an exception that a reply raises, on the path of its submission. -/
def raisedMessage (config : EngineConfig) (text : String) : Val :=
  match config.connector with
  | .orderSend => exceptionMessage text
  | .executeOrder => exceptionMessage text
  | _ => .str s!"Native MT5 send failed: {text}"

/-- The reply is done and has a ticket, or is not done and its words leave its acceptance open,
or has a ticket that is no number. -/
def RawReply.clear (config : EngineConfig) (reply : RawReply) : Bool :=
  match toIntUnlessNone reply.ticket with
  | .ok ticket => if reply.done then ticket.any (· ≠ 0) else leavesOpen reply.words
  | .error text => deniesNothing (raisedMessage config text)

/-- A submission on which the broker is asked and answers. -/
def asksBroker (config : EngineConfig) (attempt : Attempt) (request : OrderRequest)
    (nativeAvailable : Bool) : Bool :=
  match config.connector with
  | .orderSend => true
  | .executeOrder => true
  | _ =>
      !(config.simulationMode && !config.requireApproval) && nativeAvailable && attempt.armed &&
        (nativePrice request attempt.nativeTick).toOption.isSome

/-! ## Reading a reply -/

theorem toInt_of_number? {value : Val} {code : Int}
    (number : value.number? = some (code : ℚ)) : value.toInt = .ok code := by
  cases value with
  | none | str => cases number
  | bool flag =>
      cases flag with
      | false =>
          have zero : (0 : ℚ) = code := Option.some.inj number
          exact congrArg Except.ok (by exact_mod_cast zero)
      | true =>
          have one : (1 : ℚ) = code := Option.some.inj number
          exact congrArg Except.ok (by exact_mod_cast one)
  | int value =>
      have same : (value : ℚ) = code := Option.some.inj number
      exact congrArg Except.ok (by exact_mod_cast same)
  | num value =>
      have same : value.value = code := Option.some.inj number
      simp only [Val.toInt, same, Rat.floor_intCast, Rat.ceil_intCast, ite_self]

theorem truthy_of_number? {value : Val} {number : ℚ} (given : value.number? = some number)
    (nonzero : number ≠ 0) : value.truthy = true := by
  cases value with
  | none | str => cases given
  | bool flag =>
      cases flag with
      | false => exact absurd (Option.some.inj given).symm nonzero
      | true => rfl
  | int value =>
      cases Option.some.inj given
      simpa [Val.truthy] using nonzero
  | num value =>
      cases Option.some.inj given
      simpa [Val.truthy] using nonzero

theorem toIntUnlessNone_of_truthy {value : Val} (truthy : value.truthy = true) :
    toIntUnlessNone value = value.toInt.map some := by
  cases value with
  | none => cases truthy
  | bool | int | num | str => rfl

theorem RawReply.Taken.code {reply : RawReply} (taken : reply.Taken) :
    ∃ code : Int, ¬ (code ∈ ambiguousRetcodes ∨ code = -1) ∧
      reply.retcode.number? = some (code : ℚ) ∧ (code : ℚ) ≠ 0 := by
  obtain ⟨code, member, number⟩ := taken
  have facts : ∀ code ∈ takenRetcodes, ¬ (code ∈ ambiguousRetcodes ∨ code = -1) ∧ code ≠ 0 := by
    decide
  obtain ⟨certain, nonzero⟩ := facts code member
  exact ⟨code, certain, number, Int.cast_ne_zero.mpr nonzero⟩

/-- A reply that carries a return code of an order that was taken, or the answer `None`, is read
off its fields, and its return code leaves nothing uncertain. -/
theorem parseSendResult_taken {reply : RawReply} (taken : reply.Taken ∨ reply = .lost) :
    ∃ code price, ¬ (code ∈ ambiguousRetcodes ∨ code = -1) ∧
      parseSendResult reply = (toIntUnlessNone reply.ticket).map fun ticket =>
        ⟨reply.done, ticket, code, reply.words, price⟩ := by
  cases reply with
  | mapping fields =>
      have given := taken.resolve_right (fun same => nomatch same)
      obtain ⟨code, certain, number, nonzero⟩ := given.code
      have truthy := truthy_of_number? number nonzero
      refine ⟨code, fieldOr fields "price" .none, certain, ?_⟩
      have kept : (RawReply.mapping fields).retcode ≠ .none := by
        intro none_
        rw [none_] at number
        cases number
      have read : (fieldOr fields "retcode" .none).orElse (fieldOr fields "error_code" .none) =
          (RawReply.mapping fields).retcode :=
        if_pos truthy
      unfold parseSendResult
      dsimp only
      rw [read, if_neg kept, toInt_of_number? number]
      change (toIntUnlessNone (RawReply.mapping fields).ticket >>= _) = _
      cases toIntUnlessNone (RawReply.mapping fields).ticket <;> rfl
  | object attributes =>
      have read : ∃ code : Int, ¬ (code ∈ ambiguousRetcodes ∨ code = -1) ∧
          (fieldOr attributes "retcode" .none).number? ≠ some 0 ∧
          ((fieldOr attributes "retcode" .none).orElse (.int 0)).toInt = .ok code := by
        rcases taken with given | same
        · obtain ⟨code, certain, number, nonzero⟩ := given.code
          have number : (fieldOr attributes "retcode" .none).number? = some (code : ℚ) := number
          refine ⟨code, certain, ?_, ?_⟩
          · rw [number]
            exact fun zero => nonzero (Option.some.inj zero)
          · rw [Val.orElse, if_pos (truthy_of_number? number nonzero), toInt_of_number? number]
        · cases same
          exact ⟨0, by decide, nofun, rfl⟩
      obtain ⟨code, certain, nonzero, read⟩ := read
      have zero : ¬ ((0 : Int) ∈ ambiguousRetcodes ∨ (0 : Int) = -1) := by decide
      have ticket : ∀ order : Val, toIntUnlessNone (if order.truthy then order else .none) =
          if order.truthy then order.toInt.map some else pure none := by
        intro order
        split
        · rename_i truthy
          exact toIntUnlessNone_of_truthy truthy
        · rfl
      unfold parseSendResult RawReply.ticket
      dsimp only
      rw [ticket]
      by_cases done : (fieldOr attributes "retcode" .none).number? = some 10009
      · refine ⟨0, fieldOr attributes "price" .none, zero, ?_⟩
        simp only [RawReply.done, RawReply.words, done, true_or, if_true, decide_true]
        split
        · cases (fieldOr attributes "order" (fieldOr attributes "deal" .none)).toInt <;> rfl
        · rfl
      · refine ⟨code, fieldOr attributes "price" .none, certain, ?_⟩
        simp only [RawReply.done, RawReply.words, done, nonzero, false_and, or_false, if_false,
          decide_false, read]
        split
        · cases (fieldOr attributes "order" (fieldOr attributes "deal" .none)).toInt <;> rfl
        · rfl

/-! ## Classifying -/

theorem isAmbiguousExecution_iff (code : Int) (message : Val) :
    isAmbiguousExecution code message = .ok true ↔
      if code ∈ ambiguousRetcodes ∨ code = -1 then deniesNothing message = true
      else leavesOpen message = true := by
  unfold isAmbiguousExecution deniesNothing leavesOpen
  cases messageLower message with
  | error text => simp [bind, Except.bind]
  | ok text =>
      cases denied : saysNotSent text with
      | true => simp [bind, Except.bind, pure, Except.pure, denied]
      | false =>
          by_cases uncertain : code ∈ ambiguousRetcodes ∨ code = -1
          · have tested : (ambiguousRetcodes.contains code || code == -1) = true := by
              simpa using uncertain
            simp [bind, Except.bind, pure, Except.pure, denied, uncertain]
          · simp [bind, Except.bind, pure, Except.pure, denied, uncertain]

/-- The loop gives an ambiguous failure up for an order found at the broker or for an unknown
state, however many passes are left. -/
theorem afterFailure_of_ambiguous (config : EngineConfig) (market : MarketView)
    (attempt : Attempt) (caller : Nat) (request : OrderRequest) (retries : Nat) {code : Int}
    {message : Val} (ambiguous : isAmbiguousExecution code message = .ok true)
    (again : Option (Program World (Except String ExecutionResult))) :
    afterFailure config market attempt caller request retries code message again =
      adoptOr config market attempt caller request do
        let result ← recordUnknown caller request retries code message
        return .ok result := by
  simp only [afterFailure, ambiguous]

theorem recognised_sendAnswer_iff {config : EngineConfig} {attempt : Attempt}
    {request : OrderRequest} {nativeAvailable : Bool} {reply : RawReply} (seq : Nat)
    (answered : attempt.reply = .ok reply)
    (asked : asksBroker config attempt request nativeAvailable = true) :
    Recognised (sendAnswer config attempt request nativeAvailable seq) ↔
      match parseSendResult reply with
      | .ok parsed => Recognised (.ok parsed)
      | .error text => deniesNothing (raisedMessage config text) = true := by
  have excepted : ∀ message, isAmbiguousExecution (-1) message = .ok true ↔
      deniesNothing message = true := by
    intro message
    rw [isAmbiguousExecution_iff, if_pos (.inr rfl)]
  have parsed : attempt.reply.bind parseSendResult = parseSendResult reply := by
    rw [answered]
    rfl
  unfold asksBroker at asked
  unfold sendAnswer raisedMessage
  cases route : config.connector with
  | orderSend | executeOrder =>
      dsimp only
      rw [parsed]
      cases parseSendResult reply with
      | ok reply => exact Iff.rfl
      | error text => exact excepted _
  | absent | noSubmission =>
      rw [route] at asked
      simp only [Bool.and_eq_true, Bool.not_eq_true', Option.isSome_iff_exists] at asked
      obtain ⟨⟨⟨live, native⟩, armed⟩, price, quoted⟩ := asked
      dsimp only
      rw [live, if_neg Bool.false_ne_true, if_pos native]
      unfold nativeAnswer
      rw [armed, ok_of_toOption quoted, parsed]
      cases parseSendResult reply with
      | ok reply => exact Iff.rfl
      | error text => exact excepted _

/-! ## Replies of a broker that took the order -/

/-- On every path to a broker, a reply that carries a return code of an order that was taken, or
the answer `None`, is a fill with its ticket or an ambiguous failure if and only if it is clear. -/
theorem taken_reply_recognised_iff (config : EngineConfig) (attempt : Attempt)
    (request : OrderRequest) (nativeAvailable : Bool) (seq : Nat) (reply : RawReply)
    (answered : attempt.reply = .ok reply)
    (asked : asksBroker config attempt request nativeAvailable = true)
    (taken : reply.Taken ∨ reply = .lost) :
    Recognised (sendAnswer config attempt request nativeAvailable seq) ↔
      reply.clear config = true := by
  obtain ⟨code, price, certain, parsed⟩ := parseSendResult_taken taken
  rw [recognised_sendAnswer_iff seq answered asked, parsed, RawReply.clear]
  cases toIntUnlessNone reply.ticket with
  | error text => exact Iff.rfl
  | ok ticket =>
      dsimp only [Except.map, Recognised]
      rw [isAmbiguousExecution_iff, if_neg certain]
      split
      · exact Iff.rfl
      · exact Iff.rfl

/-- The answer `None` is never clear. -/
theorem clear_lost (config : EngineConfig) : RawReply.lost.clear config = false := by
  change leavesOpen (.str "") = false
  decide

namespace Sample

/-- A market order that is done. -/
def doneReply : RawReply :=
  .object (Dict.empty.update [("retcode", .int 10009), ("order", .int 12345),
    ("comment", .str "Request executed")])

/-- A market order that is done in part. -/
def partReply : RawReply :=
  .object (Dict.empty.update [("retcode", .int 10010), ("order", .int 12345),
    ("comment", .str "Request executed partially")])

/-- A broker that answers with a reply. -/
def answering (reply : RawReply) : Attempt :=
  { attempt with reply := .ok reply }

end Sample

theorem done_reply_recognised :
    Recognised (sendAnswer Sample.config (Sample.answering Sample.doneReply) Sample.request false
      0) :=
  (taken_reply_recognised_iff Sample.config (Sample.answering Sample.doneReply) Sample.request
    false 0 Sample.doneReply rfl rfl (.inl ⟨10009, by decide, rfl⟩)).mpr (by decide)

/-- An order that is done in part is taken for a definite failure, and so is a lost reply. -/
theorem partial_fill_unrecognised :
    Sample.partReply.Taken ∧
      ¬ Recognised (sendAnswer Sample.config (Sample.answering Sample.partReply) Sample.request
        false 0) ∧
      ¬ Recognised (sendAnswer Sample.config (Sample.answering .lost) Sample.request false 0) :=
  ⟨⟨10010, by decide, rfl⟩, by decide +kernel, by decide +kernel⟩

end EaBot.Execution
