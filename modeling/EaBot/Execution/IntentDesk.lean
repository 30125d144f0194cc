import EaBot.Persistence.IntentStore

/-!
# Intents beside the order ledger

The intents and the orders are two registries with stores of their own.  A new intent is
refused when the registry of the intents knows its identifier, and otherwise its state is
written to the order ledger as well, whatever the ledger holds.

The engine writes orders without an intent, and a restart reads the two stores one by one, so
the ledger may know an order that the intents do not.
-/

namespace EaBot.Execution

open EaBot.Foundation EaBot.Persistence

/-- The intents, whether they are logged, the orders in memory and the store of the orders. -/
structure IntentDesk where
  registry : IntentRegistry
  logged : Bool
  orders : Dict Identity OrderEntry
  store : Option OrderJournal

/-- A call that reaches the two registries, or a restart that reads the order store up to a
failure, if there is one. -/
inductive DeskCall
  | register (intentId : String) (record : IntentRecord)
  | update (intentId : String) (state : OrderState) (extra : Option Extra)
  | setOrder (intentId state : String) (extra : OrderEntry)
  | restart (started : Datetime) (interrupted : Option Nat)

/-- A call, the instant of the clock, and what reaches the file of the order store. -/
structure DeskRequest where
  call : DeskCall
  now : String
  bytes : Option Nat

namespace IntentDesk

/-- The desk of a process that has just started without stores. -/
def initial : IntentDesk :=
  ⟨IntentRegistry.initial, false, Dict.empty, none⟩

/-- Create or update the record of an order. -/
def setOrder (desk : IntentDesk) (now intentId state : String) (extra : OrderEntry)
    (bytes : Option Nat) : IntentDesk :=
  let record := (desk.orders.get (.text intentId)).getD
    (Dict.empty.set "intent_id" (.str intentId))
  { desk with
    orders := desk.orders.set (.text intentId)
      ((record.update [("state", .str state)]).update extra.entries)
    store := desk.store.map fun journal => (journal.setOrder now intentId state extra bytes).2 }

/-- The intents after a call of their registry, which is logged when a log is attached. -/
def note (desk : IntentDesk) (call : IntentCall) (now : String) : IntentRegistry :=
  let noted := desk.registry.step (call, now)
  if desk.logged then noted else { noted with file := desk.registry.file }

/-- Register an intent and mirror its state in the ledger.  An identifier that the intents
know already raises. -/
def registerIntent (desk : IntentDesk) (now intentId : String) (record : IntentRecord)
    (bytes : Option Nat) : IntentDesk :=
  if desk.registry.intents.contains (.text intentId) then desk
  else
    { desk with
      registry := desk.note (.register { record with intentId := .text intentId }) now }.setOrder
        now intentId record.state.value Dict.empty bytes

/-- Change the state of an intent and mirror it with the intent's metadata.  An unknown intent
raises. -/
def updateIntentState (desk : IntentDesk) (now intentId : String) (state : OrderState)
    (extra : Option Extra) (bytes : Option Nat) : IntentDesk :=
  match desk.registry.intents.get (.text intentId) with
  | none => desk
  | some record =>
      let metadata := record.extra.update ((extra.map Dict.entries).getD [])
      { desk with registry := desk.note (.update (.text intentId) state extra) now }.setOrder now
        intentId state.value (Dict.empty.update (fieldsOf metadata)) bytes

section Restart

variable (render : Json → String)

/-- The desk after a restart: each registry holds what its own store has. -/
def restart (desk : IntentDesk) (started : Datetime) (interrupted : Option Nat) : IntentDesk :=
  let stored := if desk.logged then loadIntents desk.registry.file else none
  let store := desk.store.bind fun journal => OrderJournal.open? journal.file interrupted
  { registry :=
      ⟨attach render started (stored.getD Dict.empty).entries Dict.empty, desk.registry.file⟩
    logged := stored.isSome
    orders := (store.map OrderJournal.orders).getD Dict.empty
    store := store }

/-- The desk after a call. -/
def step (desk : IntentDesk) (request : DeskRequest) : IntentDesk :=
  match request.call with
  | .register intentId record => desk.registerIntent request.now intentId record request.bytes
  | .update intentId state extra =>
      desk.updateIntentState request.now intentId state extra request.bytes
  | .setOrder intentId state extra => desk.setOrder request.now intentId state extra request.bytes
  | .restart started interrupted => desk.restart render started interrupted

/-- Whether a record has moved beyond the fresh intent marker. -/
def Beyond (entry : OrderEntry) : Prop :=
  Text.lower (OrderJournal.textOf render ((entry.get "state").getD (.str ""))) ∉
    ["", OrderState.intentCreated.value]

instance (entry : OrderEntry) : Decidable (Beyond render entry) :=
  inferInstanceAs (Decidable (¬_))

/-- Registering an intent leaves the record of an order that has moved on. -/
def Preserves (desk : IntentDesk) (request : DeskRequest) : Prop :=
  ∀ intentId record, request.call = .register intentId record →
    ∀ entry, desk.orders.get (.text intentId) = some entry → Beyond render entry →
      (desk.step render request).orders.get (.text intentId) = some entry

/-- An intent whose order has moved on is known to the intents, or is registered in the state
that its order has. -/
def Known (desk : IntentDesk) (request : DeskRequest) : Prop :=
  ∀ intentId record, request.call = .register intentId record →
    ∀ entry, desk.orders.get (.text intentId) = some entry → Beyond render entry →
      desk.registry.intents.contains (.text intentId) = true ∨
        entry.get "state" = some (.str record.state.value)

end Restart

/-! ## One call -/

section Call

variable (desk : IntentDesk) (now intentId : String) (bytes : Option Nat)

theorem setOrder_orders_get (state : String) (extra : OrderEntry) (other : Identity) :
    (desk.setOrder now intentId state extra bytes).orders.get other =
      if other = .text intentId then
        some ((((desk.orders.get (.text intentId)).getD
          (Dict.empty.set "intent_id" (.str intentId))).update [("state", .str state)]).update
            extra.entries)
      else desk.orders.get other :=
  Dict.get_set _ _ _ _

variable {desk intentId} {entry : OrderEntry}

/-- An intent that is not known leaves its order in its own state. -/
theorem registerIntent_of_unknown {record : IntentRecord}
    (unknown : desk.registry.intents.contains (.text intentId) = false)
    (found : desk.orders.get (.text intentId) = some entry) :
    (desk.registerIntent now intentId record bytes).orders.get (.text intentId) =
      some (entry.set "state" (.str record.state.value)) := by
  rw [registerIntent, if_neg (by simp [unknown]), setOrder_orders_get, if_pos rfl]
  change some ((((desk.orders.get (.text intentId)).getD _).update _).update []) = _
  rw [found]
  rfl

/-- The record of an order stays exactly when its intent is known, or is registered in the
state that the order has. -/
theorem registerIntent_keeps_iff (record : IntentRecord)
    (found : desk.orders.get (.text intentId) = some entry) :
    (desk.registerIntent now intentId record bytes).orders.get (.text intentId) = some entry ↔
      desk.registry.intents.contains (.text intentId) = true ∨
        entry.get "state" = some (.str record.state.value) := by
  cases known : desk.registry.intents.contains (.text intentId) with
  | true =>
      rw [registerIntent, if_pos known, found]
      simp
  | false =>
      rw [registerIntent_of_unknown now bytes known found, Option.some_inj]
      constructor
      · intro same
        right
        rw [← same, Dict.get_set_self]
      · rintro (impossible | held)
        · cases impossible
        · exact entry.set_of_get held

variable (render : Json → String)

/-- A call preserves the orders that have moved on exactly when the intents know them. -/
theorem preserves_iff_known (desk : IntentDesk) (request : DeskRequest) :
    desk.Preserves render request ↔ desk.Known render request := by
  constructor
  · intro preserves intentId record called entry found beyond
    have kept := preserves intentId record called entry found beyond
    rw [step, called] at kept
    exact (registerIntent_keeps_iff request.now request.bytes record found).mp kept
  · intro known intentId record called entry found beyond
    rw [step, called]
    exact (registerIntent_keeps_iff request.now request.bytes record found).mpr
      (known intentId record called entry found beyond)

end Call

/-! ## Runs -/

section Runs

variable (render : Json → String)

/-- In a run the orders that have moved on are preserved by every new intent exactly when the
intents know them. -/
theorem run_preserves_iff (desk : IntentDesk) (requests : List DeskRequest) :
    Run.Every (step render) (Preserves render) desk requests ↔
      Run.Every (step render) (Known render) desk requests :=
  Run.every_iff_of_invariant (fun _ => True) (fun _ _ _ => trivial)
    (fun desk request _ => preserves_iff_known render desk request) trivial requests

/-- Every order has an intent. -/
def Covered (desk : IntentDesk) : Prop :=
  ∀ identity entry, desk.orders.get identity = some entry →
    desk.registry.intents.contains identity = true

/-- The call is one of the intents. -/
def OfIntents (_ : IntentDesk) (request : DeskRequest) : Prop :=
  match request.call with
  | .register _ _ | .update _ _ _ => True
  | .setOrder _ _ _ | .restart _ _ => False

theorem note_contains {desk : IntentDesk} (call : IntentCall) (now : String)
    {identity : Identity} (known : desk.registry.intents.contains identity = true) :
    (desk.note call now).intents.contains identity = true := by
  have stepped : (desk.note call now).intents = (desk.registry.step (call, now)).intents := by
    rw [note]
    split <;> rfl
  rw [stepped]
  unfold Dict.contains at known ⊢
  cases call with
  | register record =>
      rw [IntentRegistry.step]
      dsimp only
      split
      · exact known
      · change ((desk.registry.intents.set _ _).get identity).isSome = true
        rw [Dict.get_set]
        split
        · rfl
        · exact known
  | update intentId state extra =>
      rw [IntentRegistry.step]
      dsimp only
      split
      · exact known
      · change ((desk.registry.intents.set _ _).get identity).isSome = true
        rw [Dict.get_set]
        split
        · rfl
        · exact known

/-- Calls of the intents give every order an intent. -/
theorem Covered.step {desk : IntentDesk} (covered : desk.Covered) {request : DeskRequest}
    (ofIntents : desk.OfIntents request) : (desk.step render request).Covered := by
  rcases request with ⟨call, now, bytes⟩
  cases call with
  | setOrder intentId state extra => exact ofIntents.elim
  | restart started interrupted => exact ofIntents.elim
  | register intentId record =>
      rw [IntentDesk.step]
      dsimp only
      rw [registerIntent]
      split
      · exact covered
      · rename_i unknown
        intro identity entry found
        rw [setOrder_orders_get] at found
        by_cases here : identity = .text intentId
        · subst here
          have added : (desk.note (.register { record with intentId := .text intentId })
              now).intents.get (.text intentId) =
              some { record with intentId := .text intentId } := by
            rw [note, IntentRegistry.step]
            dsimp only
            rw [if_neg unknown]
            split <;> exact Dict.get_set_self _ _ _
          change (IntentRegistry.intents _).contains _ = true
          rw [Dict.contains]
          exact Option.isSome_iff_exists.mpr ⟨_, added⟩
        · rw [if_neg here] at found
          exact note_contains _ now (covered identity entry found)
  | update intentId state extra =>
      rw [IntentDesk.step]
      dsimp only
      rw [updateIntentState]
      split
      · exact covered
      · rename_i record known
        intro identity entry found
        rw [setOrder_orders_get] at found
        by_cases here : identity = .text intentId
        · subst here
          exact note_contains _ now (Option.isSome_iff_exists.mpr ⟨record, known⟩)
        · rw [if_neg here] at found
          exact note_contains _ now (covered identity entry found)

/-- Where only intents write orders and nothing restarts, no order ever goes back. -/
theorem preserves_of_ofIntents {requests : List DeskRequest}
    (ofIntents : Run.Every (step render) OfIntents initial requests) :
    Run.Every (step render) (Preserves render) initial requests := by
  apply ofIntents.of_invariant Covered
  · rintro identity entry ⟨⟩
  · exact fun desk request covered ofIntents => covered.step render ofIntents
  · intro desk request covered _
    apply (preserves_iff_known render desk request).mpr
    intro intentId record _ entry found _
    exact .inl (covered _ entry found)

end Runs

/-- A fresh intent to buy. -/
def freshIntent : IntentRecord :=
  ⟨.text "I-1", "D-1", "v1", "XAUUSD", "BUY", ⟨2026, 7, 1, ⟨9, 0, 0, 0⟩, some 0, by decide⟩,
    .intentCreated, Dict.empty⟩

/-- An order that the engine has filled is taken back to the fresh marker by its intent. -/
theorem filled_order_taken_back :
    ¬Run.Every (step fun _ => "") (Preserves fun _ => "") initial
      [⟨.setOrder "I-1" "filled" Dict.empty, "10:00", none⟩,
        ⟨.register "I-1" freshIntent, "10:01", none⟩] := by
  rintro ⟨-, preserves, -⟩
  have known := (preserves_iff_known (fun _ => "") _ _).mp preserves "I-1" freshIntent rfl _ rfl
    (by decide)
  rcases known with listed | created
  · cases listed
  · have differ : (some (Json.str "filled")) ≠ some (.str "intent_created") := by simp
    exact differ created

end IntentDesk

end EaBot.Execution
