import EaBot.Persistence.IntentStore

/-!
# Rebuilding intents from their log

A created line gives its intent back, where its metadata has texts for keys.  An updated
line is merged into the record next to the metadata, which therefore stays as it was
created: new metadata is lost.

As long as new metadata uses none of the names of a record, every call leaves a log from
which the other intents are rebuilt as before, so that a run is replayed exactly when each
of its calls is.
-/

namespace EaBot.Persistence

open EaBot.Foundation EaBot.Execution

variable (render : Json → String) (now : Datetime)

/-! ## Attaching -/

/-- When every record can be rebuilt, attaching rebuilds each of them. -/
theorem get_attach {stored : List (Identity × OrderEntry)}
    (distinct : (stored.map Prod.fst).Nodup)
    (rebuilds : ∀ entry ∈ stored, (rebuild render now entry.1 entry.2).isSome = true)
    {intents : Dict Identity IntentRecord}
    (fresh : ∀ entry ∈ stored, intents.contains entry.1 = false) (intentId : Identity) :
    (attach render now stored intents).get intentId =
      (intents.get intentId).or
        ((Entries.get intentId stored).bind (rebuild render now intentId)) := by
  induction stored generalizing intents with
  | nil => simp [attach, Entries.get]
  | cons entry rest ih =>
      rcases entry with ⟨first, held⟩
      have here := fresh (first, held) List.mem_cons_self
      rcases Option.isSome_iff_exists.mp (rebuilds (first, held) List.mem_cons_self) with
        ⟨record, rebuilt⟩
      dsimp only at here rebuilt
      have apart := List.nodup_cons.mp distinct
      have later : ∀ entry ∈ rest, (intents.set first record).contains entry.1 = false := by
        intro entry member
        have different : entry.1 ≠ first := by
          rintro rfl
          exact apart.1 (List.mem_map.mpr ⟨entry, member, rfl⟩)
        have before := fresh entry (.tail _ member)
        unfold Dict.contains at before ⊢
        rwa [Dict.get_set_of_ne _ different]
      rw [attach, if_neg (by simp [here]), rebuilt]
      dsimp only
      rw [ih apart.2 (fun entry member => rebuilds entry (.tail _ member)) later, Dict.get_set,
        Entries.get]
      by_cases same : intentId = first
      · subst same
        have missing : intents.get intentId = none := by
          simpa [Dict.contains] using here
        rw [if_pos rfl, if_pos rfl, missing, Option.bind_some, rebuilt]
        rfl
      · rw [if_neg same, if_neg (Ne.symm same)]

/-- Every record can be rebuilt. -/
def Rebuilds (stored : Dict Identity OrderEntry) : Prop :=
  ∀ intentId entry, stored.get intentId = some entry →
    (rebuild render now intentId entry).isSome = true

/-- The intent that is rebuilt from the record of an identity. -/
def rebuiltAt (stored : Dict Identity OrderEntry) (intentId : Identity) : Option IntentRecord :=
  (stored.get intentId).bind (rebuild render now intentId)

theorem get_attach_entries {stored : Dict Identity OrderEntry}
    (rebuilds : Rebuilds render now stored) (intentId : Identity) :
    (attach render now stored.entries Dict.empty).get intentId =
      rebuiltAt render now stored intentId := by
  rw [get_attach render now stored.distinct, Dict.get_empty, Option.none_or]
  · rfl
  · exact fun entry member => rebuilds entry.1 entry.2 ((stored.mem_entries_iff _ _).mp member)
  · exact fun entry _ => rfl

/-! ## Lines -/

theorem loadIntents_append {file : TextFile} (ended : file.Ended)
    (fields : List (String × Json)) :
    loadIntents (file.append (Json.objectLines.line fields) none) =
      (loadIntents file).bind fun known => takeLine known (Json.objectLines.write fields) := by
  have whole : file.torn = false := ended.1
  have after : (file.append (Json.objectLines.line fields) none).torn = false :=
    (ended.append (Json.objectLines.write fields)).1
  unfold loadIntents
  rw [after, whole]
  exact Json.objectLines.foldlM_append ended fields takeLine Dict.empty

/-- A line is taken in as the fields that were written. -/
theorem takeLine_write (known : Dict Identity OrderEntry) (fields : List (String × Json)) :
    takeLine known (Json.objectLines.write fields) =
      match (Dict.empty.update fields : OrderEntry).get "intent_id",
        (Dict.empty.update fields : OrderEntry).get "event" with
      | some value, some (.str event) =>
          if event = "created" then
            (Identity.of? value).map fun intentId => known.set intentId (Dict.empty.update fields)
          else if event = "updated" then
            (Identity.of? value).map fun intentId =>
              match known.get intentId with
              | some earlier =>
                  known.set intentId (earlier.update (Dict.empty.update fields).entries)
              | none => known
          else some known
      | _, _ => some known := by
  have written := Json.objectLines.read_write fields
  change Json.readObject (Json.objectLines.write fields) = some fields at written
  unfold takeLine
  rewrite [written]
  rfl

/-! ## A new intent -/

section Created

variable (record : IntentRecord) (stamp : String)

theorem takeLine_created (known : Dict Identity OrderEntry) :
    takeLine known (Json.objectLines.write (createdLine record stamp)) =
      some (known.set record.intentId (Dict.empty.update (createdLine record stamp))) := by
  have identity : (Dict.empty.update (createdLine record stamp) : OrderEntry).get "intent_id" =
      some record.intentId.json := by
    simp [createdLine, IntentRecord.toDict]
  have event : (Dict.empty.update (createdLine record stamp) : OrderEntry).get "event" =
      some (.str "created") := by
    simp [createdLine, IntentRecord.toDict]
  have hashed : Identity.of? record.intentId.json = some record.intentId :=
    Identity.of?_eq_some.mpr rfl
  rw [takeLine_write, identity, event]
  simp [hashed]

/-- The metadata with texts for its keys. -/
def textual (extra : Extra) : Extra :=
  Dict.empty.update ((fieldsOf extra).map fun field => (.text field.1, field.2))

theorem rebuild_created :
    rebuild render now record.intentId (Dict.empty.update (createdLine record stamp)) =
      some { record with extra := textual record.extra } := by
  have fields : ∀ name value, (name, value) ∈ [("decision_id", Json.str record.decisionId),
      ("strategy_version", .str record.strategyVersion), ("symbol", .str record.symbol),
      ("direction", .str record.direction), ("created_at", .str record.createdAt.isoformat),
      ("state", .str record.state.value), ("extra", .obj (fieldsOf record.extra))] →
      (Dict.empty.update (createdLine record stamp) : OrderEntry).get name = some value := by
    intro name value member
    simp only [List.mem_cons, List.not_mem_nil, or_false, Prod.mk.injEq] at member
    rcases member with ⟨rfl, rfl⟩ | ⟨rfl, rfl⟩ | ⟨rfl, rfl⟩ | ⟨rfl, rfl⟩ | ⟨rfl, rfl⟩ |
      ⟨rfl, rfl⟩ | ⟨rfl, rfl⟩ <;> simp [createdLine, IntentRecord.toDict]
  unfold rebuild textField OrderJournal.fieldOf intentState
  rw [fields "extra" (.obj (fieldsOf record.extra)) (by simp),
    fields "decision_id" (.str record.decisionId) (by simp),
    fields "strategy_version" (.str record.strategyVersion) (by simp),
    fields "symbol" (.str record.symbol) (by simp),
    fields "direction" (.str record.direction) (by simp),
    fields "created_at" (.str record.createdAt.isoformat) (by simp),
    fields "state" (.str record.state.value) (by simp)]
  simp only [Option.getD_some, OrderJournal.textOf, Datetime.fromIsoformat_isoformat,
    OrderState.ofValue?_value, dictOf]
  rfl

/-- Texts for keys are given back, and other keys are not. -/
theorem textual_same_iff :
    (∀ key, (textual record.extra).get key = record.extra.get key) ↔
      ∀ key ∈ record.extra.keys, ∃ name, key = .text name := by
  constructor
  · intro same key member
    rw [Dict.mem_keys_iff] at member
    rcases member with ⟨value, held⟩
    rw [← same key] at held
    rcases Dict.mem_of_get_update _ held with assigned | listed
    · cases assigned
    · rcases List.mem_map.mp listed with ⟨field, -, written⟩
      exact ⟨field.1, (congrArg Prod.fst written).symm⟩
  · intro texts key
    have unchanged : (fieldsOf record.extra).map
        (fun field => ((.text field.1 : Identity), field.2)) = record.extra.entries := by
      unfold fieldsOf
      rw [List.map_map]
      refine (List.map_congr_left ?_).trans (List.map_id _)
      rintro ⟨key, value⟩ member
      rcases texts key (List.mem_map.mpr ⟨_, member, rfl⟩) with ⟨name, rfl⟩
      rfl
    rw [textual, unchanged, Dict.update_empty_entries]

end Created

/-! ## A change of an intent -/

section Updated

variable {intentId : Identity} {state : OrderState} {extra : Option Extra}

theorem takeLine_updated (plain : (IntentCall.update intentId state extra).Plain) (stamp : String)
    {known : Dict Identity OrderEntry} {entry : OrderEntry}
    (found : known.get intentId = some entry) :
    takeLine known (Json.objectLines.write (updatedLine intentId state extra stamp)) =
      some (known.set intentId (entry.update
        (Dict.empty.update (updatedLine intentId state extra stamp) : OrderEntry).entries)) := by
  have names : "intent_id" ∈ reservedNames ∧ "event" ∈ reservedNames := by
    simp [reservedNames]
  have identity := get_updatedLine plain stamp names.1
  have event := get_updatedLine plain stamp names.2
  have hashed : Identity.of? intentId.json = some intentId := Identity.of?_eq_some.mpr rfl
  rw [takeLine_write, identity, event]
  simp [hashed, found]

/-- A change leaves everything but the state of a rebuilt intent, whatever metadata it
brings. -/
theorem rebuild_updated (plain : (IntentCall.update intentId state extra).Plain) (stamp : String)
    {entry : OrderEntry} {record : IntentRecord}
    (rebuilt : rebuild render now intentId entry = some record) :
    ∃ createdAt, rebuild render now intentId (entry.update
        (Dict.empty.update (updatedLine intentId state extra stamp) : OrderEntry).entries) =
      some { record with createdAt := createdAt, state := state } := by
  have kept : ∀ name ∈ ["decision_id", "strategy_version", "symbol", "direction", "extra"],
      (entry.update (Dict.empty.update
        (updatedLine intentId state extra stamp) : OrderEntry).entries).get name =
        entry.get name := by
    intro name member
    have reserved : name ∈ reservedNames := by
      revert member
      simp only [reservedNames, List.mem_cons, List.not_mem_nil, or_false]
      tauto
    rw [Dict.get_update_entries, get_updatedLine plain stamp reserved]
    simp only [List.mem_cons, List.not_mem_nil, or_false] at member
    rcases member with rfl | rfl | rfl | rfl | rfl <;> simp
  have stated : (entry.update (Dict.empty.update
      (updatedLine intentId state extra stamp) : OrderEntry).entries).get "state" =
      some (.str state.value) := by
    rw [Dict.get_update_entries, get_updatedLine plain stamp (by simp [reservedNames])]
    simp
  unfold rebuild at rebuilt
  rcases Option.map_eq_some_iff.mp rebuilt with ⟨metadata, read, rfl⟩
  refine ⟨(Datetime.fromIsoformat (OrderJournal.textOf render (OrderJournal.fieldOf (entry.update
    (Dict.empty.update (updatedLine intentId state extra stamp) : OrderEntry).entries)
    "created_at"))).getD now, ?_⟩
  have metadataKept : dictOf (OrderJournal.fieldOf (entry.update (Dict.empty.update
      (updatedLine intentId state extra stamp) : OrderEntry).entries) "extra") =
      some metadata := by
    rw [OrderJournal.fieldOf, kept "extra" (by simp)]
    exact read
  rw [rebuild, metadataKept, Option.map_some]
  simp only [textField, intentState, kept "decision_id" (by simp),
    kept "strategy_version" (by simp), kept "symbol" (by simp), kept "direction" (by simp),
    stated, OrderState.ofValue?_value, Option.getD_some]

end Updated

/-! ## One call -/

section Call

variable {render now} {stored : Dict Identity OrderEntry} {registry : IntentRegistry}

/-- The log is ended, and the intents in memory are rebuilt from it. -/
structure Mirrored (render : Json → String) (now : Datetime) (registry : IntentRegistry)
    (stored : Dict Identity OrderEntry) : Prop where
  ended : registry.file.Ended
  loaded : loadIntents registry.file = some stored
  rebuilds : Rebuilds render now stored
  same : ∀ intentId, SameIntent (rebuiltAt render now stored intentId)
    (registry.intents.get intentId)

theorem replays_iff_same (loaded : loadIntents registry.file = some stored)
    (rebuilds : Rebuilds render now stored) :
    registry.Replays render now ↔ ∀ intentId,
      SameIntent (rebuiltAt render now stored intentId) (registry.intents.get intentId) := by
  constructor
  · rintro ⟨other, found, same⟩ intentId
    cases loaded.symm.trans found
    rw [← get_attach_entries render now rebuilds]
    exact same intentId
  · intro same
    refine ⟨stored, loaded, ?_⟩
    intro intentId
    rw [get_attach_entries render now rebuilds]
    exact same intentId

theorem Rebuilds.set (rebuilds : Rebuilds render now stored) {intentId : Identity}
    {entry : OrderEntry} {rebuilt : IntentRecord}
    (known : rebuild render now intentId entry = some rebuilt) :
    Rebuilds render now (stored.set intentId entry) := by
  intro other held found
  rw [Dict.get_set] at found
  split at found
  · rename_i same
    cases found
    rw [same, known]
    rfl
  · exact rebuilds other held found

/-- Where the other intents are the same, a new record of one intent decides. -/
theorem same_set_iff (mirrored : Mirrored render now registry stored) {intentId : Identity}
    {entry : OrderEntry} {rebuilt : IntentRecord}
    (known : rebuild render now intentId entry = some rebuilt) (record : IntentRecord) :
    (∀ other, SameIntent (rebuiltAt render now (stored.set intentId entry) other)
        ((registry.intents.set intentId record).get other)) ↔ rebuilt.Same record := by
  constructor
  · intro same
    have here := same intentId
    rw [rebuiltAt, Dict.get_set_self, Dict.get_set_self, Option.bind_some, known] at here
    exact here
  · intro same other
    by_cases here : other = intentId
    · subst here
      rw [rebuiltAt, Dict.get_set_self, Dict.get_set_self, Option.bind_some, known]
      exact same
    · rw [rebuiltAt, Dict.get_set_of_ne _ here, Dict.get_set_of_ne _ here]
      exact mirrored.same other

/-- Appending a line that is taken in as a record of one intent. -/
theorem Mirrored.append (mirrored : Mirrored render now registry stored) {intentId : Identity}
    {entry : OrderEntry} {rebuilt : IntentRecord} (record : IntentRecord)
    {fields : List (String × Json)}
    (taken : takeLine stored (Json.objectLines.write fields) =
      some (stored.set intentId entry))
    (known : rebuild render now intentId entry = some rebuilt) :
    let after := { registry with intents := registry.intents.set intentId record }.append fields
    (after.Replays render now ↔ rebuilt.Same record) ∧
      (rebuilt.Same record → ∃ stored, Mirrored render now after stored) := by
  intro after
  have ended : after.file.Ended := mirrored.ended.append (Json.objectLines.write fields)
  have loaded : loadIntents after.file = some (stored.set intentId entry) := by
    change loadIntents (registry.file.append (Json.objectLines.line fields) none) = _
    rw [loadIntents_append mirrored.ended, mirrored.loaded, Option.bind_some, taken]
  have rebuilds := mirrored.rebuilds.set known
  have decided := same_set_iff mirrored known record
  constructor
  · rw [replays_iff_same loaded rebuilds]
    exact decided
  · exact fun same => ⟨_, ended, loaded, rebuilds, decided.mpr same⟩

/-- A call is replayed when it is restorable, and not otherwise. -/
theorem Mirrored.step (mirrored : Mirrored render now registry stored)
    {request : IntentCall × String} (plain : request.1.Plain) :
    ((registry.step request).Replays render now ↔ Restorable registry request.1) ∧
      (Restorable registry request.1 →
        ∃ stored, Mirrored render now (registry.step request) stored) := by
  have unchanged : registry.Replays render now :=
    (replays_iff_same mirrored.loaded mirrored.rebuilds).mpr mirrored.same
  rcases request with ⟨call, stamp⟩
  cases call with
  | register record =>
      unfold IntentRegistry.step Restorable
      dsimp only
      split
      · rename_i known
        exact ⟨iff_of_true unchanged (Or.inl known), fun _ => ⟨stored, mirrored⟩⟩
      · rename_i unknown
        have appended := mirrored.append record (takeLine_created record stamp stored)
          (rebuild_created render now record stamp)
        have same : ({ record with extra := textual record.extra } : IntentRecord).Same record ↔
            registry.intents.contains record.intentId = true ∨
              ∀ key ∈ record.extra.keys, ∃ name, key = .text name := by
          rw [← textual_same_iff record, or_iff_right unknown]
          exact ⟨fun same => same.extra, fun extra => ⟨rfl, rfl, rfl, rfl, rfl, extra⟩⟩
        rw [← same]
        exact appended
  | update intentId state extra =>
      unfold IntentRegistry.step Restorable
      dsimp only
      cases live : registry.intents.get intentId with
      | none =>
          refine ⟨iff_of_true unchanged ?_, fun _ => ⟨stored, mirrored⟩⟩
          rintro record ⟨⟩
      | some record =>
          have before := mirrored.same intentId
          rw [live] at before
          cases rebuiltBefore : rebuiltAt render now stored intentId with
          | none =>
              rw [rebuiltBefore] at before
              exact before.elim
          | some rebuilt =>
              rw [rebuiltBefore] at before
              rcases Option.bind_eq_some_iff.mp rebuiltBefore with ⟨entry, found, known⟩
              rcases rebuild_updated render now plain stamp known with ⟨createdAt, changed⟩
              have appended := mirrored.append
                { record with
                  state := state
                  extra := record.extra.update ((extra.map Dict.entries).getD []) }
                (takeLine_updated plain stamp found) changed
              have same : ({ rebuilt with createdAt := createdAt, state := state } :
                  IntentRecord).Same { record with
                    state := state
                    extra := record.extra.update ((extra.map Dict.entries).getD []) } ↔
                  ∀ other, some record = some other → ∀ metadata, extra = some metadata →
                    ∀ key value, metadata.get key = some value →
                      other.extra.get key = some value := by
                constructor
                · rintro same other ⟨⟩ metadata rfl key value brought
                  have kept := same.extra key
                  change rebuilt.extra.get key = (record.extra.update metadata.entries).get key
                    at kept
                  rw [before.extra key, Dict.get_update_entries, brought] at kept
                  exact kept
                · intro contained
                  refine ⟨before.decision, before.strategy, before.symbol, before.direction,
                    rfl, ?_⟩
                  intro key
                  change rebuilt.extra.get key = _
                  rw [before.extra key]
                  cases extra with
                  | none => rfl
                  | some metadata =>
                      change _ = (record.extra.update metadata.entries).get key
                      rw [Dict.get_update_entries]
                      cases brought : metadata.get key with
                      | none => rfl
                      | some value => exact contained record rfl metadata rfl key value brought
              rw [← same]
              exact appended

end Call

/-! ## Runs -/

theorem mirrored_initial :
    ∃ stored, Mirrored render now IntentRegistry.initial stored := by
  refine ⟨Dict.empty, ⟨rfl, .inl rfl⟩, rfl, ?_, ?_⟩
  · rintro intentId entry ⟨⟩
  · exact fun intentId => trivial

/-- As long as new metadata uses none of the names of a record, the log of a run gives every
intent back after each call exactly when each call is restorable. -/
theorem every_intent_replays_iff {requests : List (IntentCall × String)}
    (plain : ∀ request ∈ requests, request.1.Plain) :
    Run.Every IntentRegistry.step
        (fun registry request => (registry.step request).Replays render now)
        IntentRegistry.initial requests ↔
      Run.Every IntentRegistry.step
        (fun registry request => Restorable registry request.1)
        IntentRegistry.initial requests := by
  apply Run.every_iff_of_kept (fun registry => ∃ stored, Mirrored render now registry stored)
  · rintro registry request member ⟨stored, mirrored⟩ restorable
    exact (mirrored.step (plain request member)).2 restorable
  · rintro registry request member ⟨stored, mirrored⟩
    exact (mirrored.step (plain request member)).1
  · exact mirrored_initial render now

/-- A ticket. -/
def ticket : Extra :=
  Dict.empty.set (.text "ticket") (.number (.ofNat 7))

/-- Ten o'clock. -/
def tenOClock : Datetime :=
  ⟨2026, 7, 1, ⟨10, 0, 0, 0⟩, some 0, by decide⟩

/-- A new intent. -/
def bought (extra : Extra) : IntentRecord :=
  ⟨.text "I-1", "D-1", "v1", "XAUUSD", "BUY", tenOClock, .intentCreated, extra⟩

/-- The ticket is known from the start and repeated with the fill. -/
def knownTicket : List (IntentCall × String) :=
  [(.register (bought ticket), "10:00"), (.update (.text "I-1") .filled none, "10:01"),
    (.update (.text "I-1") .filled (some ticket), "10:02")]

/-- The ticket comes with the fill. -/
def lateTicket : List (IntentCall × String) :=
  [(.register (bought Dict.empty), "10:00"),
    (.update (.text "I-1") .filled (some ticket), "10:01")]

theorem every_intent_replays_knownTicket :
    Run.Every IntentRegistry.step
      (fun registry request => (registry.step request).Replays (fun _ => "") tenOClock)
      IntentRegistry.initial knownTicket := by
  have plain : ∀ request ∈ knownTicket, request.1.Plain := by
    simp [knownTicket, IntentCall.Plain, ticket, reservedNames]
  apply (every_intent_replays_iff (fun _ => "") tenOClock plain).mpr
  refine ⟨.inr ?_, ?_, ?_, trivial⟩
  · intro key listed
    rcases (Dict.mem_keys_set _ _ _ _).mp listed with rfl | listed
    · exact ⟨"ticket", rfl⟩
    · cases listed
  · rintro record - metadata ⟨⟩
  · rintro record found metadata ⟨⟩ key value brought
    have live : (Run.after IntentRegistry.step IntentRegistry.initial
        (knownTicket.take 2)).intents.get (.text "I-1") =
        some { bought ticket with state := .filled } := rfl
    cases live.symm.trans found
    exact brought

/-- The ticket that comes with the fill is lost. -/
theorem late_ticket_lost :
    (∀ request ∈ lateTicket, request.1.Plain) ∧
      ¬Run.Every IntentRegistry.step
        (fun registry request => (registry.step request).Replays (fun _ => "") tenOClock)
        IntentRegistry.initial lateTicket := by
  constructor
  · simp [lateTicket, IntentCall.Plain, ticket, reservedNames]
  · rintro ⟨-, replays, -⟩
    rcases mirrored_initial (fun _ => "") tenOClock with ⟨_, initial⟩
    have texts : Restorable IntentRegistry.initial (.register (bought Dict.empty)) :=
      .inr (by simp [bought, Dict.mem_keys_iff])
    have registering : ((.register (bought Dict.empty) : IntentCall), "10:00").1.Plain := trivial
    rcases (initial.step registering).2 texts with ⟨_, registered⟩
    have updating : ((.update (.text "I-1") .filled (some ticket) : IntentCall),
        "10:01").1.Plain := by
      simp [IntentCall.Plain, ticket, reservedNames]
    have contained := (registered.step updating).1.mp replays (bought Dict.empty) rfl ticket rfl
      (.text "ticket") (.number (.ofNat 7)) rfl
    cases contained

end EaBot.Persistence
