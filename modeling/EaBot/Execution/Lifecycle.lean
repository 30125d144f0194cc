import Mathlib.Logic.Basic
import EaBot.Foundation.Value

/-!
# The order lifecycle

An order moves through a fixed table of states.  Records hold a state as text, so
the enumeration comes with its values, their inverse, and the test that decides
whether a record has moved beyond the fresh intent marker.
-/

namespace EaBot.Execution

open EaBot.Foundation

/-- The states of an order. -/
inductive OrderState
  | intentCreated
  | riskApproved
  | submitting
  | submitted
  | acknowledged
  | partiallyFilled
  | filled
  | positionConfirmed
  | closed
  | unknown
deriving DecidableEq

namespace OrderState

/-- The text that a record holds for a state. -/
def value : OrderState → String
  | intentCreated => "intent_created"
  | riskApproved => "risk_approved"
  | submitting => "submitting"
  | submitted => "submitted"
  | acknowledged => "acknowledged"
  | partiallyFilled => "partially_filled"
  | filled => "filled"
  | positionConfirmed => "position_confirmed"
  | closed => "closed"
  | unknown => "unknown"

/-- Every state, in the order of the enumeration. -/
def all : List OrderState :=
  [intentCreated, riskApproved, submitting, submitted, acknowledged, partiallyFilled,
    filled, positionConfirmed, closed, unknown]

/-- The state with the given text. -/
def ofValue? (text : String) : Option OrderState :=
  all.find? fun state => state.value = text

theorem ofValue?_value (state : OrderState) : ofValue? state.value = some state := by
  cases state <;> decide

theorem value_injective : Function.Injective value := by
  intro first second same
  have found := congrArg ofValue? same
  rw [ofValue?_value, ofValue?_value] at found
  exact Option.some.inj found

theorem lower_value (state : OrderState) : Text.lower state.value = state.value := by
  cases state <;> decide

end OrderState

open OrderState in
/-- The states that may follow a state. -/
def nextAllowed : OrderState → List OrderState
  | intentCreated => [riskApproved]
  | riskApproved => [submitting]
  | submitting => [submitted, unknown]
  | submitted => [acknowledged, unknown]
  | acknowledged => [partiallyFilled, filled, unknown]
  | partiallyFilled => [filled, unknown]
  | filled => [positionConfirmed, closed, unknown]
  | positionConfirmed => [closed, unknown]
  | closed => []
  | unknown => []

/-- The text of a record's state in lower case; a missing state is empty. -/
def recordState (record : Record) : String :=
  Text.lower ((record.get "state").getD (.str "")).text

/-- Whether a record has moved beyond the fresh intent marker. -/
def beyondIntent (record : Record) : Bool :=
  let state := recordState record
  state ≠ "" && state ≠ OrderState.intentCreated.value

/-- The fields with which a record starts. -/
def freshRecord (intentId : String) : Record :=
  Dict.empty.set "intent_id" (.str intentId)

/-- The record that a state write leaves: the previous one, or a fresh one, with
the new state, a stamp and the extra fields. -/
def updatedRecord (previous : Option Record) (intentId state : String)
    (stamp extra : List (String × Val)) : Record :=
  ((previous.getD (freshRecord intentId)).update (("state", .str state) :: stamp)).update extra

/-- Extra fields that leave the state and the identity of a record alone. -/
def Keeps (intentId : String) (extra : List (String × Val)) : Prop :=
  "state" ∉ extra.map Prod.fst ∧
    ∀ value, ("intent_id", value) ∈ extra → value = .str intentId

theorem recordState_of_get {record : Record} {state : OrderState}
    (stored : record.get "state" = some (.str state.value)) :
    recordState record = state.value := by
  rw [recordState, stored]
  exact state.lower_value

/-- A record in a proper state is beyond the intent marker exactly when that
state is not the marker. -/
theorem beyondIntent_iff {record : Record} {state : OrderState}
    (stored : record.get "state" = some (.str state.value)) :
    beyondIntent record = true ↔ state ≠ .intentCreated := by
  have nonempty : state.value ≠ "" := by cases state <;> decide
  simp [beyondIntent, recordState_of_get stored, nonempty, OrderState.value_injective.ne_iff]

theorem keeps_nil (intentId : String) : Keeps intentId [] := by
  simp [Keeps]

theorem Keeps.append {intentId : String} {first second : List (String × Val)}
    (left : Keeps intentId first) (right : Keeps intentId second) :
    Keeps intentId (first ++ second) := by
  refine ⟨?_, ?_⟩
  · rw [List.map_append, List.mem_append]
    rintro (listed | listed)
    · exact left.1 listed
    · exact right.1 listed
  · intro value listed
    rcases List.mem_append.mp listed with listed | listed
    · exact left.2 value listed
    · exact right.2 value listed

section UpdatedRecord

variable {previous : Option Record} {intentId state : String}
variable {stamp extra : List (String × Val)}

theorem updatedRecord_state (unstamped : "state" ∉ stamp.map Prod.fst)
    (keeps : Keeps intentId extra) :
    (updatedRecord previous intentId state stamp extra).get "state" = some (.str state) := by
  rw [updatedRecord, Dict.get_update_of_notMem _ _ _ keeps.1, Dict.update_cons,
    Dict.get_update_of_notMem _ _ _ unstamped, Dict.get_set_self]

theorem updatedRecord_identity
    (identified : ∀ record, previous = some record →
      record.get "intent_id" = some (.str intentId))
    (unstamped : "intent_id" ∉ stamp.map Prod.fst) (keeps : Keeps intentId extra) :
    (updatedRecord previous intentId state stamp extra).get "intent_id" =
      some (.str intentId) := by
  have base : (previous.getD (freshRecord intentId)).get "intent_id" =
      some (.str intentId) := by
    cases previous with
    | none => simp [freshRecord]
    | some record => exact identified record rfl
  refine Dict.get_update_of_forall _ _ keeps.2 ?_
  rw [Dict.update_cons, Dict.get_update_of_notMem _ _ _ unstamped,
    Dict.get_set_of_ne _ (by decide), base]

end UpdatedRecord

end EaBot.Execution
