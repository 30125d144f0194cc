import EaBot.Foundation.Value

/-!
# Broker replies

A broker path answers with a mapping or with an object whose attributes may be
missing.  Both are normalized to one structure, which fails where a ticket or a
return code is no number.  A failed reply is then classified: it is ambiguous when
the broker may have accepted the order, and transient when a retry is reasonable.
-/

namespace EaBot.Execution

open EaBot.Foundation

/-- What a submission returned. -/
inductive RawReply
  | mapping (fields : Record)
  | object (attributes : Record)

/-- A normalized reply. -/
structure SendReply where
  success : Bool
  ticket : Option Int
  errorCode : Int
  message : Val
  price : Val

/-- A value of a mapping, with a default for a missing key. -/
def fieldOr (fields : Record) (name : String) (default : Val) : Val :=
  (fields.get name).getD default

/-- The conversion of an optional value to an integer. -/
def toIntUnlessNone : Val → Except String (Option Int)
  | .none => .ok none
  | value => value.toInt.map some

/-- Normalize a reply. -/
def parseSendResult : RawReply → Except String SendReply
  | .mapping fields => do
      let success := (fieldOr fields "success" (.bool false)).truthy
      let ticket := ((fieldOr fields "ticket" .none).orElse
        (fieldOr fields "order_id" .none)).orElse (fieldOr fields "order" .none)
      let retcode := (fieldOr fields "retcode" .none).orElse (fieldOr fields "error_code" .none)
      let retcode := if retcode = .none then .int (if success then 0 else 1) else retcode
      let ticket ← toIntUnlessNone ticket
      let errorCode ← retcode.toInt
      return {
        success := success
        ticket := ticket
        errorCode := errorCode
        message := (fieldOr fields "message" .none).orElse (fieldOr fields "comment" (.str ""))
        price := fieldOr fields "price" .none }
  | .object attributes => do
      let retcode := fieldOr attributes "retcode" .none
      let comment := fieldOr attributes "comment" (.str "")
      let order := fieldOr attributes "order" (fieldOr attributes "deal" .none)
      let isDone := retcode.number? = some 10009 ∨ (retcode.number? = some 0 ∧ order ≠ .none)
      let ticket ← if order.truthy then order.toInt.map some else pure none
      let errorCode ← if isDone then pure 0 else (retcode.orElse (.int 0)).toInt
      return {
        success := isDone
        ticket := ticket
        errorCode := errorCode
        message := comment
        price := fieldOr attributes "price" .none }

/-- Return codes that qualify for a retry. -/
def transientRetcodes : List Int :=
  [10004, 10006, 10007, 10012, 10015, 10018, 10021, 10027, 10031]

/-- Words that indicate a transient condition. -/
def transientKeywords : List String :=
  ["timeout", "requote", "trade_disabled", "trade disabled", "connection", "busy",
    "price changed", "network", "offline", "temporary"]

/-- Return codes after which the order may have been accepted. -/
def ambiguousRetcodes : List Int :=
  [10012, 10031]

/-- Words after which the order may have been accepted. -/
def ambiguousKeywords : List String :=
  ["timeout", "connection", "network", "offline", "lost reply"]

/-- The lower case of a message; a message that counts as missing is empty. -/
def messageLower (message : Val) : Except String String :=
  if message.truthy then
    match message with
    | .str text => .ok (Text.lower text)
    | other => .error s!"'{other.typeName}' object has no attribute 'lower'"
  else
    .ok ""

/-- Whether the message says that nothing was submitted. -/
def saysNotSent (message : String) : Bool :=
  Text.contains message "order not sent" || Text.contains message "no fabricated fill"

/-- Whether an error qualifies for a retry. -/
def isTransientError (code : Int) (message : Val) : Except String Bool := do
  let message ← messageLower message
  if saysNotSent message then return false
  if transientRetcodes.contains code then return true
  return transientKeywords.any (Text.contains message)

/-- Whether an error leaves acceptance by the broker uncertain. -/
def isAmbiguousExecution (code : Int) (message : Val) : Except String Bool := do
  let message ← messageLower message
  if saysNotSent message then return false
  if ambiguousRetcodes.contains code || code == -1 then return true
  return ambiguousKeywords.any (Text.contains message)

/-- An exception that leaves acceptance certain is never retried. -/
theorem not_transient_of_not_ambiguous {message : Val}
    (certain : isAmbiguousExecution (-1) message = .ok false) :
    isTransientError (-1) message = .ok false := by
  unfold isAmbiguousExecution at certain
  unfold isTransientError
  cases lowered : messageLower message with
  | error text => simp [lowered, bind, Except.bind] at certain
  | ok text =>
      simp only [lowered, bind, Except.bind] at certain ⊢
      by_cases notSent : saysNotSent text = true
      · simp [notSent, pure, Except.pure]
      · simp [notSent, pure, Except.pure] at certain

end EaBot.Execution
