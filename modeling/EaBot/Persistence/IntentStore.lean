import EaBot.Foundation.Datetime
import EaBot.Persistence.OrderJournal

/-!
# The intents and their log

Every intent is kept in memory, and its creation and its changes are appended to a log.
The two kinds of lines have different shapes: a created line holds the metadata of the
intent under one name, an updated line holds the fields of new metadata next to its own.

When the log is read, an updated line is merged into the record of its intent, and an
intent is rebuilt from the record; its metadata comes from the one name.
-/

namespace EaBot.Persistence

open EaBot.Foundation EaBot.Execution

/-! ## Intents -/

/-- Metadata under keys of any kind that can be hashed. -/
abbrev Extra : Type :=
  Dict Identity Json

/-- An intent. -/
structure IntentRecord where
  intentId : Identity
  decisionId : String
  strategyVersion : String
  symbol : String
  direction : String
  createdAt : Datetime
  state : OrderState
  extra : Extra

/-- A key as the name of a field. -/
def keyText : Identity → String
  | .null => "null"
  | .bool true => "true"
  | .bool false => "false"
  | .number value => String.ofList value.chars
  | .text value => value

/-- The entries of a dictionary as fields. -/
def fieldsOf (extra : Extra) : List (String × Json) :=
  extra.entries.map fun entry => (keyText entry.1, entry.2)

/-- The fields of an intent. -/
def IntentRecord.toDict (record : IntentRecord) : List (String × Json) :=
  [("intent_id", record.intentId.json), ("decision_id", .str record.decisionId),
    ("strategy_version", .str record.strategyVersion), ("symbol", .str record.symbol),
    ("direction", .str record.direction), ("created_at", .str record.createdAt.isoformat),
    ("state", .str record.state.value), ("extra", .obj (fieldsOf record.extra))]

/-- The line of a new intent. -/
def createdLine (record : IntentRecord) (now : String) : List (String × Json) :=
  record.toDict ++ [("event", .str "created"), ("timestamp", .str now)]

/-- The line of a change. -/
def updatedLine (intentId : Identity) (state : OrderState) (extra : Option Extra)
    (now : String) : List (String × Json) :=
  fieldsOf ((Dict.empty.update [(.text "intent_id", intentId.json),
    (.text "state", .str state.value), (.text "event", .str "updated"),
    (.text "timestamp", .str now)]).update ((extra.map Dict.entries).getD []))

/-- The intents in memory and the file of their log. -/
structure IntentRegistry where
  intents : Dict Identity IntentRecord
  file : TextFile

/-- A call of the registry. -/
inductive IntentCall
  | register (record : IntentRecord)
  | update (intentId : Identity) (state : OrderState) (extra : Option Extra)

namespace IntentRegistry

/-- A registry without intents, on an empty file. -/
def initial : IntentRegistry :=
  ⟨Dict.empty, TextFile.empty⟩

/-- Append a line to the log. -/
def append (registry : IntentRegistry) (fields : List (String × Json)) : IntentRegistry :=
  { registry with file := registry.file.append (Json.objectLines.line fields) none }

/-- A call at an instant of the clock.  A second intent of one identifier and a change of an
unknown intent raise before anything has changed. -/
def step (registry : IntentRegistry) (request : IntentCall × String) : IntentRegistry :=
  match request.1 with
  | .register record =>
      if registry.intents.contains record.intentId then registry
      else
        { registry with intents := registry.intents.set record.intentId record }.append
          (createdLine record request.2)
  | .update intentId state extra =>
      match registry.intents.get intentId with
      | none => registry
      | some record =>
          let changed := { record with
            state := state, extra := record.extra.update ((extra.map Dict.entries).getD []) }
          { registry with intents := registry.intents.set intentId changed }.append
            (updatedLine intentId state extra request.2)

end IntentRegistry

/-! ## Reading the log -/

/-- Take one line of the log.  An identity that cannot be hashed raises. -/
def takeLine (known : Dict Identity OrderEntry) (line : List Char) :
    Option (Dict Identity OrderEntry) :=
  match Json.readObject line with
  | none => some known
  | some fields =>
      let entry : OrderEntry := Dict.empty.update fields
      match entry.get "intent_id", entry.get "event" with
      | some value, some (.str event) =>
          if event = "created" then
            (Identity.of? value).map fun intentId => known.set intentId entry
          else if event = "updated" then
            (Identity.of? value).map fun intentId =>
              match known.get intentId with
              | some earlier => known.set intentId (earlier.update entry.entries)
              | none => known
          else some known
      | _, _ => some known

/-- The records that a log holds.  A file that cannot be decoded raises. -/
def loadIntents (file : TextFile) : Option (Dict Identity OrderEntry) :=
  if file.torn then none else (TextFile.linesOf file.chars).foldlM takeLine Dict.empty

/-- The key and the value that an item of a sequence stands for. -/
def pairOf : Json → Option (Identity × Json)
  | .arr [key, value] => (Identity.of? key).map fun key => (key, value)
  | .str text =>
      match text.toList with
      | [key, value] => some (.text (String.singleton key), .str (String.singleton value))
      | _ => none
  | .obj fields =>
      match (Dict.empty.update fields : OrderEntry).keys with
      | [key, value] => some (.text key, .str value)
      | _ => none
  | _ => none

/-- The dictionary that a value is turned into, or an exception. -/
def dictOf (value : Json) : Option Extra :=
  match value with
  | .obj fields => some (Dict.empty.update (fields.map fun field => (.text field.1, field.2)))
  | .arr items => (items.mapM pairOf).map (Dict.empty.update ·)
  | other => if other.truthy then none else some Dict.empty

/-- The state that a record holds. -/
def intentState (entry : OrderEntry) : OrderState :=
  match entry.get "state" with
  | none => .intentCreated
  | some (.str text) => (OrderState.ofValue? text).getD .unknown
  | some _ => .unknown

section Rebuild

variable (render : Json → String) (now : Datetime)

/-- A field of a record as a text. -/
def textField (entry : OrderEntry) (name : String) : String :=
  OrderJournal.textOf render ((entry.get name).getD (.str ""))

/-- The intent of a record, or an exception. -/
def rebuild (intentId : Identity) (entry : OrderEntry) : Option IntentRecord :=
  (dictOf (OrderJournal.fieldOf entry "extra")).map fun extra =>
    { intentId := intentId
      decisionId := textField render entry "decision_id"
      strategyVersion := textField render entry "strategy_version"
      symbol := textField render entry "symbol"
      direction := textField render entry "direction"
      createdAt := (Datetime.fromIsoformat
        (OrderJournal.textOf render (OrderJournal.fieldOf entry "created_at"))).getD now
      state := intentState entry
      extra := extra }

/-- Rebuild the intents of records.  What is known stays, and an exception ends the
rebuilding. -/
def attach : List (Identity × OrderEntry) → Dict Identity IntentRecord →
    Dict Identity IntentRecord
  | [], intents => intents
  | (intentId, entry) :: rest, intents =>
      if intents.contains intentId then attach rest intents
      else
        match rebuild render now intentId entry with
        | none => intents
        | some record => attach rest (intents.set intentId record)

/-- The intents have the same decision, strategy, symbol, direction, state and metadata. -/
structure IntentRecord.Same (first second : IntentRecord) : Prop where
  decision : first.decisionId = second.decisionId
  strategy : first.strategyVersion = second.strategyVersion
  symbol : first.symbol = second.symbol
  direction : first.direction = second.direction
  state : first.state = second.state
  extra : ∀ key, first.extra.get key = second.extra.get key

/-- Both are missing, or they are intents that are the same. -/
def SameIntent : Option IntentRecord → Option IntentRecord → Prop
  | none, none => True
  | some first, some second => first.Same second
  | _, _ => False

/-- The log, attached to an empty registry, gives every intent back. -/
def IntentRegistry.Replays (registry : IntentRegistry) : Prop :=
  ∃ stored, loadIntents registry.file = some stored ∧ ∀ intentId,
    SameIntent ((attach render now stored.entries Dict.empty).get intentId)
      (registry.intents.get intentId)

end Rebuild

/-! ## The log and the intents -/

/-- The names that an updated line and the rebuilding use themselves. -/
def reservedNames : List String :=
  ["intent_id", "event", "state", "decision_id", "strategy_version", "symbol", "direction",
    "extra"]

/-- New metadata uses none of those names. -/
def IntentCall.Plain : IntentCall → Prop
  | .register _ => True
  | .update _ _ extra => ∀ metadata, extra = some metadata →
      ∀ name ∈ reservedNames, metadata.get (.text name) = none

/-- A new intent has only texts for keys, and the metadata of a change is in the intent
already. -/
def Restorable (registry : IntentRegistry) : IntentCall → Prop
  | .register record => registry.intents.contains record.intentId = true ∨
      ∀ key ∈ record.extra.keys, ∃ name, key = .text name
  | .update intentId _ extra => ∀ record, registry.intents.get intentId = some record →
      ∀ metadata, extra = some metadata →
        ∀ key value, metadata.get key = some value → record.extra.get key = some value

/-- A key whose text is a reserved name is that name. -/
theorem eq_text_of_reserved {key : Identity} {name : String} (reserved : name ∈ reservedNames)
    (same : keyText key = name) : key = .text name := by
  have numerals : ∀ other ∈ reservedNames, Json.isNumeral other.toList = false := by
    decide
  cases key with
  | null =>
      subst same
      revert reserved
      decide
  | bool value =>
      subst same
      revert reserved
      cases value <;> decide
  | number value =>
      have spelt := numerals name reserved
      rw [← same, keyText, String.toList_ofList, value.valid] at spelt
      cases spelt
  | text value => rw [← same, keyText]

/-- A field of a dictionary that no other key is written as. -/
theorem get_fieldsOf {extra : Extra} {name : String}
    (only : ∀ key, keyText key = name → key = .text name) :
    (Dict.empty.update (fieldsOf extra)).get name = extra.get (.text name) := by
  cases held : extra.get (.text name) with
  | none =>
      rw [Dict.get_update_of_notMem, Dict.get_empty]
      intro member
      rcases List.mem_map.mp member with ⟨field, listed, named⟩
      rcases List.mem_map.mp listed with ⟨entry, present, rfl⟩
      have text := only entry.1 named
      rw [Dict.get_eq_none_iff] at held
      exact held (text ▸ List.mem_map.mpr ⟨entry, present, rfl⟩)
  | some value =>
      apply Dict.get_update_of_mem
      · exact List.mem_map.mpr ⟨(.text name, value), (extra.mem_entries_iff _ _).mpr held, rfl⟩
      · intro other member
        rcases List.mem_map.mp member with ⟨entry, present, written⟩
        have text := only entry.1 (congrArg Prod.fst written)
        have present := (extra.mem_entries_iff entry.1 entry.2).mp present
        rw [text, held] at present
        have assigned : entry.2 = other := congrArg Prod.snd written
        rw [← assigned]
        exact (Option.some.inj present).symm

/-- A reserved name in an updated line has the line's own value. -/
theorem get_updatedLine {intentId : Identity} {state : OrderState} {extra : Option Extra}
    (plain : (IntentCall.update intentId state extra).Plain) (now : String) {name : String}
    (reserved : name ∈ reservedNames) :
    (Dict.empty.update (updatedLine intentId state extra now) : OrderEntry).get name =
      (Dict.empty.update [("intent_id", intentId.json), ("state", .str state.value),
        ("event", .str "updated"), ("timestamp", .str now)] : OrderEntry).get name := by
  unfold updatedLine
  rw [get_fieldsOf fun key => eq_text_of_reserved reserved]
  have own : (Dict.empty.update [(Identity.text "intent_id", intentId.json),
      (.text "state", .str state.value), (.text "event", .str "updated"),
      (.text "timestamp", .str now)] : Extra).get (.text name) =
      (Dict.empty.update [("intent_id", intentId.json), ("state", .str state.value),
        ("event", .str "updated"), ("timestamp", .str now)] : OrderEntry).get name := by
    simp only [Dict.update_cons, Dict.update_nil, Dict.get_set, Dict.get_empty,
      Identity.text.injEq]
  rw [← own]
  cases extra with
  | none => rfl
  | some metadata =>
      change (Dict.update _ metadata.entries).get _ = _
      rw [Dict.get_update_entries, plain metadata rfl name reserved, Option.none_or]

end EaBot.Persistence
