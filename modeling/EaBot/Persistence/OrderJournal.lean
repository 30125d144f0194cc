import EaBot.Execution.Lifecycle
import EaBot.Foundation.Journal
import EaBot.Foundation.Run

/-!
# The order store as a text file

The order state store down to the text of its file: a record is a JSON object with
values of any kind, an append writes its line, and opening the store reads the lines
back.  A record is cached under the order that a call names and read back under the
identity that its line carries, and an append is only a line of its own when the last
line of the file has been ended.

On an ended file the two agree after a call exactly when the metadata of the call
names no other identity, and then they agree after the next one as well.
-/

namespace EaBot.Persistence

open EaBot.Foundation EaBot.Execution

/-- A record of an order. -/
abbrev OrderEntry : Type :=
  Dict String Json

/-- What a record can be cached under: the value of an identity that can be hashed. -/
inductive Identity
  | null
  | bool (value : Bool)
  | number (value : Json.Numeral)
  | text (value : String)
deriving DecidableEq

namespace Identity

/-- The value of the identity in a record. -/
def json : Identity → Json
  | null => .null
  | bool value => .bool value
  | number value => .number value
  | text value => .str value

/-- The identity that a value is; arrays and objects cannot be hashed. -/
def of? : Json → Option Identity
  | .null => some null
  | .bool value => some (bool value)
  | .number value => some (number value)
  | .str value => some (text value)
  | .arr _ => none
  | .obj _ => none

theorem of?_eq_some {value : Json} {identity : Identity} :
    of? value = some identity ↔ value = identity.json := by
  cases value <;> cases identity <;> simp [of?, json]

end Identity

/-- The store: the cached records, whether durability still holds, and the file. -/
structure OrderJournal where
  orders : Dict Identity OrderEntry
  healthy : Bool
  file : TextFile

namespace OrderJournal

/-- Take one line of the file into the cache.  An identity that cannot be hashed
raises. -/
def loadLine (journal : OrderJournal) (line : List Char) : Option OrderJournal :=
  let text := Text.stripChars line
  if text = [] then some journal
  else
    match Json.read text with
    | none => some { journal with healthy := false }
    | some (.obj fields) =>
        match Json.get fields "intent_id" with
        | none => some journal
        | some value => (Identity.of? value).map fun identity =>
            { journal with orders := journal.orders.set identity (Dict.empty.update fields) }
    | some _ => some journal

/-- Open the store on a file.  A file that cannot be decoded raises, and reading may fail
after a number of lines. -/
def open? (file : TextFile) (interrupted : Option Nat) : Option OrderJournal :=
  let start : OrderJournal := ⟨Dict.empty, true, file⟩
  match interrupted with
  | none => if file.torn then none else (TextFile.linesOf file.chars).foldlM loadLine start
  | some count =>
      (((TextFile.linesOf file.chars).take count).foldlM loadLine start).map fun journal =>
        { journal with healthy := false }

/-- Persist one record, of whose line a number of bytes reach the file, all when none is
given, and report whether it is durable. -/
def appendLine (journal : OrderJournal) (entry : OrderEntry) (bytes : Option Nat) :
    Bool × OrderJournal :=
  if !journal.healthy then (false, journal)
  else
    let file := journal.file.append (Json.objectLines.line entry.entries) bytes
    match bytes with
    | none => (true, { journal with file := file })
    | some _ => (false, { journal with healthy := false, file := file })

/-- The record that a state write caches. -/
def entryFor (journal : OrderJournal) (now intentId state : String) (extra : OrderEntry) :
    OrderEntry :=
  let entry := (journal.orders.get (.text intentId)).getD
    (Dict.empty.set "intent_id" (.str intentId))
  (entry.update [("state", .str state), ("timestamp", .str now)]).update extra.entries

/-- Create or update the record of an order and persist it. -/
def setOrder (journal : OrderJournal) (now intentId state : String) (extra : OrderEntry)
    (bytes : Option Nat) : Bool × OrderJournal :=
  let entry := journal.entryFor now intentId state extra
  { journal with orders := journal.orders.set (.text intentId) entry }.appendLine entry bytes

/-- A value as a text.  The text of an array or an object is given. -/
def textOf (render : Json → String) : Json → String
  | .null => "None"
  | .bool true => "True"
  | .bool false => "False"
  | .number value => String.ofList value.chars
  | .str value => value
  | other => render other

/-- A field of a record, null when the field is missing. -/
def fieldOf (entry : OrderEntry) (name : String) : Json :=
  (entry.get name).getD .null

/-- The last record that carries a ticket, with its identity. -/
def latestFor (render : Json → String) (ticket : Json) :
    List (Identity × OrderEntry) → Option (Identity × OrderEntry)
  | [] => none
  | (identity, entry) :: rest =>
      match latestFor render ticket rest with
      | some found => some found
      | none =>
          if textOf render (fieldOf entry "ticket") = textOf render ticket then
            some (identity, entry)
          else none

/-- The record with which an order is closed. -/
def closedEntry (identity : Identity) (latest : OrderEntry) (ticket : Json)
    (stamp reason : String) : OrderEntry :=
  Dict.empty.update [("intent_id", identity.json), ("state", .str OrderState.closed.value),
    ("ticket", (latest.get "ticket").getD ticket), ("timestamp", .str stamp),
    ("reason", .str reason)]

/-- Append a closed record for the latest record of a ticket.  Nothing happens without a
matching record, when it is closed already, or when its state does not allow it. -/
def markClosed (journal : OrderJournal) (render : Json → String) (now : String) (ticket : Json)
    (reason : String) (closedAt : Option String) (bytes : Option Nat) : Bool × OrderJournal :=
  if ticket.isNull then (false, journal)
  else
    match latestFor render ticket journal.orders.entries with
    | none => (false, journal)
    | some (identity, latest) =>
        match OrderState.ofValue?
            (Text.lower (textOf render ((latest.get "state").getD (.str "")))) with
        | none => (false, journal)
        | some current =>
            if current = .closed then (false, journal)
            else if .closed ∉ nextAllowed current then (false, journal)
            else
              let stamp := if closedAt.getD "" = "" then now else closedAt.getD ""
              let entry := closedEntry identity latest ticket stamp reason
              (true, ({ journal with orders := journal.orders.set identity entry }.appendLine
                entry bytes).2)

/-- A call of the store. -/
inductive Call
  | setOrder (intentId state : String) (extra : OrderEntry)
  | markClosed (ticket : Json) (reason : String) (closedAt : Option String)

/-- A call, the instant of the clock, and what reaches the file of its line. -/
structure Request where
  call : Call
  now : String
  bytes : Option Nat

/-- The store after a call. -/
def step (render : Json → String) (journal : OrderJournal) (request : Request) : OrderJournal :=
  match request.call with
  | .setOrder intentId state extra =>
      (journal.setOrder request.now intentId state extra request.bytes).2
  | .markClosed ticket reason closedAt =>
      (journal.markClosed render request.now ticket reason closedAt request.bytes).2

/-- A new store on the same file has the same record of every order. -/
def Replays (journal : OrderJournal) : Prop :=
  ∃ replayed, open? journal.file none = some replayed ∧
    ∀ identity, replayed.orders.get identity = journal.orders.get identity

/-- The metadata of a call names no other identity than the order's own. -/
def Call.KeepsIdentity : Call → Prop
  | .setOrder intentId _ extra => ∀ value, extra.get "intent_id" = some value →
      value = .str intentId
  | .markClosed _ _ _ => True

/-! ## Reading lines back -/

/-- What is loaded from a line depends on the cached orders alone. -/
theorem loadLine_orders {first second : OrderJournal} (same : first.orders = second.orders)
    (line : List Char) :
    (first.loadLine line).map orders = (second.loadLine line).map orders := by
  unfold loadLine
  dsimp only
  split
  · simp [same]
  · split
    · simp [same]
    · split
      · simp [same]
      · rw [Option.map_map, Option.map_map]
        simp only [Function.comp_def, same]
    · simp [same]

theorem foldlM_loadLine_orders (lines : List (List Char)) {first second : OrderJournal}
    (same : first.orders = second.orders) :
    (lines.foldlM loadLine first).map orders = (lines.foldlM loadLine second).map orders := by
  induction lines generalizing first second with
  | nil => simp [same]
  | cons line rest ih =>
      have now := loadLine_orders same line
      rw [List.foldlM_cons, List.foldlM_cons]
      cases loaded : first.loadLine line with
      | none =>
          rw [loaded, Option.map_none, eq_comm, Option.map_eq_none_iff] at now
          simp [now]
      | some next =>
          rw [loaded, Option.map_some, eq_comm, Option.map_eq_some_iff] at now
          rcases now with ⟨also, found, agree⟩
          rw [found]
          exact ih agree.symm

/-- The orders that a file holds, unless reading it raises. -/
def ordersOf (file : TextFile) : Option (Dict Identity OrderEntry) :=
  ((TextFile.linesOf file.chars).foldlM loadLine ⟨Dict.empty, true, file⟩).map orders

theorem replays_iff {journal : OrderJournal} (whole : journal.file.torn = false) :
    journal.Replays ↔ ∃ held, ordersOf journal.file = some held ∧
      ∀ identity, held.get identity = journal.orders.get identity := by
  simp only [Replays, open?, whole, Bool.false_eq_true, if_false, ordersOf]
  constructor
  · rintro ⟨replayed, opened, agree⟩
    exact ⟨replayed.orders, by rw [opened, Option.map_some], agree⟩
  · rintro ⟨held, found, agree⟩
    rcases Option.map_eq_some_iff.mp found with ⟨replayed, opened, rfl⟩
    exact ⟨replayed, opened, agree⟩

/-- Every record is held under the identity that it carries. -/
def Keyed (orders : Dict Identity OrderEntry) : Prop :=
  ∀ identity entry, orders.get identity = some entry →
    entry.get "intent_id" = some identity.json

theorem get_update_empty (fields : List (String × Json)) (name : String) :
    (Dict.empty.update fields).get name = Json.get fields name := by
  rw [Dict.get_update, Dict.get_empty, Option.or_none]
  rfl

theorem Keyed.set {orders : Dict Identity OrderEntry} (keyed : Keyed orders)
    {identity : Identity} {entry : OrderEntry}
    (own : entry.get "intent_id" = some identity.json) : Keyed (orders.set identity entry) := by
  intro other held present
  rw [Dict.get_set] at present
  split at present
  · rename_i same
    rw [same, ← Option.some.inj present]
    exact own
  · exact keyed other held present

theorem Keyed.loadLine {journal next : OrderJournal} (keyed : Keyed journal.orders)
    {line : List Char} (loaded : journal.loadLine line = some next) : Keyed next.orders := by
  unfold OrderJournal.loadLine at loaded
  dsimp only at loaded
  split at loaded
  · cases loaded
    exact keyed
  · split at loaded
    · cases loaded
      exact keyed
    · split at loaded
      · cases loaded
        exact keyed
      · rename_i fields _ value carried
        rcases Option.map_eq_some_iff.mp loaded with ⟨identity, hashed, rfl⟩
        apply keyed.set
        rw [get_update_empty, carried, Identity.of?_eq_some.mp hashed]
    · cases loaded
      exact keyed

theorem Keyed.foldlM {journal next : OrderJournal} (keyed : Keyed journal.orders)
    {lines : List (List Char)} (loaded : lines.foldlM OrderJournal.loadLine journal = some next) :
    Keyed next.orders := by
  induction lines generalizing journal with
  | nil =>
      cases loaded
      exact keyed
  | cons line rest ih =>
      rw [List.foldlM_cons] at loaded
      rcases Option.bind_eq_some_iff.mp loaded with ⟨middle, first, onwards⟩
      exact ih (keyed.loadLine first) onwards

theorem keyed_ordersOf {file : TextFile} {held : Dict Identity OrderEntry}
    (found : ordersOf file = some held) : Keyed held := by
  rcases Option.map_eq_some_iff.mp found with ⟨journal, loaded, rfl⟩
  have start : Keyed (⟨Dict.empty, true, file⟩ : OrderJournal).orders := by
    intro identity entry present
    cases present
  exact start.foldlM loaded

/-- The line of a record is read back as the record, under the identity it carries. -/
theorem loadLine_write (journal : OrderJournal) {entry : OrderEntry} {value : Json}
    (carried : entry.get "intent_id" = some value) :
    journal.loadLine (Json.write (.obj entry.entries)) =
      (Identity.of? value).map fun identity =>
        { journal with orders := journal.orders.set identity entry } := by
  rcases Json.write_obj_braces entry.entries with ⟨inner, braces⟩
  have stripped := Json.stripChars_braces inner
  rw [← braces] at stripped
  have solid : Json.write (.obj entry.entries) ≠ [] := by simp [braces]
  have identity : Json.get entry.entries "intent_id" = some value := by
    rw [← get_update_empty, Dict.update_empty_entries, carried]
  unfold loadLine
  rw [stripped]
  simp only [solid, if_false, Json.read_write, identity, Dict.update_empty_entries]

/-- An append that is complete adds its record to the orders of an ended file. -/
theorem ordersOf_append {file : TextFile} (ended : file.Ended) {entry : OrderEntry} {value : Json}
    (carried : entry.get "intent_id" = some value) :
    ordersOf (file.append (Json.objectLines.line entry.entries) none) =
      (ordersOf file).bind fun held =>
        (Identity.of? value).map fun identity => held.set identity entry := by
  have whole : file.torn = false := ended.1
  have single : TextFile.linesOf (Json.objectLines.line entry.entries) =
      [Json.write (.obj entry.entries)] :=
    TextFile.linesOf_ended (Json.objectLines.write_not_break entry.entries)
  unfold ordersOf
  simp only [TextFile.append, whole, Bool.false_eq_true, if_false,
    TextFile.linesOf_append ended, single, List.foldlM_append]
  have earlier := foldlM_loadLine_orders (TextFile.linesOf file.chars)
    (show (⟨Dict.empty, true, file⟩ : OrderJournal).orders = OrderJournal.orders
      ⟨Dict.empty, true, { file with
        chars := file.chars ++ Json.objectLines.line entry.entries }⟩ from rfl)
  rw [whole] at earlier
  rw [earlier]
  cases (TextFile.linesOf file.chars).foldlM loadLine _ with
  | none => rfl
  | some loaded =>
      simp only [List.foldlM_cons, List.foldlM_nil, bind_pure, Option.map_some, Option.bind_some]
      change (loaded.loadLine _).map orders = _
      rw [loadLine_write loaded carried]
      cases Identity.of? value <;> rfl

/-! ## One call -/

/-- The store is sound on an ended file, and a new store replays it. -/
structure Durable (journal : OrderJournal) : Prop where
  ended : journal.file.Ended
  sound : journal.healthy = true
  replays : journal.Replays

/-- The store with a record cached and its line appended whole. -/
def record (journal : OrderJournal) (identity : Identity) (entry : OrderEntry) : OrderJournal :=
  ({ journal with orders := journal.orders.set identity entry }.appendLine entry none).2

/-- A record written to a durable store is replayed when it carries the identity that it
is cached under, and not otherwise. -/
theorem Durable.record_replays_iff {journal : OrderJournal} (durable : journal.Durable)
    {identity : Identity} {entry : OrderEntry} {value : Json}
    (carried : entry.get "intent_id" = some value) :
    (journal.record identity entry).Replays ↔ value = identity.json := by
  rcases (replays_iff durable.ended.1).mp durable.replays with ⟨held, found, agree⟩
  have ended : (journal.file.append (Json.objectLines.line entry.entries) none).Ended :=
    durable.ended.append (Json.objectLines.write entry.entries)
  have appended := ordersOf_append durable.ended carried
  rw [found, Option.bind_some] at appended
  have written : journal.record identity entry =
      ⟨journal.orders.set identity entry, true,
        journal.file.append (Json.objectLines.line entry.entries) none⟩ := by
    simp [OrderJournal.record, appendLine, durable.sound]
  rw [written, replays_iff ended.1, appended]
  constructor
  · rintro ⟨replayed, loaded, same⟩
    have keyed := keyed_ordersOf (appended.trans loaded)
    have cached := same identity
    rw [Dict.get_set_self] at cached
    exact Option.some.inj (carried.symm.trans (keyed identity entry cached))
  · rintro rfl
    refine ⟨held.set identity entry, ?_, ?_⟩
    · rw [Identity.of?_eq_some.mpr rfl, Option.map_some]
    · intro other
      rw [Dict.get_set, Dict.get_set, agree other]

theorem Durable.record {journal : OrderJournal} (durable : journal.Durable)
    {identity : Identity} {entry : OrderEntry}
    (own : entry.get "intent_id" = some identity.json) :
    (journal.record identity entry).Durable := by
  have ended : (journal.file.append (Json.objectLines.line entry.entries) none).Ended :=
    durable.ended.append (Json.objectLines.write entry.entries)
  refine ⟨?_, ?_, (durable.record_replays_iff own).mpr rfl⟩
  · simpa [OrderJournal.record, appendLine, durable.sound] using ended
  · simp [OrderJournal.record, appendLine, durable.sound]

theorem Durable.keyed {journal : OrderJournal} (durable : journal.Durable) :
    Keyed journal.orders := by
  rcases (replays_iff durable.ended.1).mp durable.replays with ⟨held, found, agree⟩
  intro identity entry cached
  rw [← agree] at cached
  exact keyed_ordersOf found identity entry cached

/-- The identity in the record that a state write caches: the one that the metadata
names, and otherwise the order's own. -/
theorem entryFor_identity {journal : OrderJournal} (keyed : Keyed journal.orders)
    (now intentId state : String) (extra : OrderEntry) :
    (journal.entryFor now intentId state extra).get "intent_id" =
      some ((extra.get "intent_id").getD (.str intentId)) := by
  have before : ((journal.orders.get (.text intentId)).getD
      (Dict.empty.set "intent_id" (.str intentId))).get "intent_id" = some (.str intentId) := by
    cases cached : journal.orders.get (.text intentId) with
    | none => exact Dict.get_set_self _ _ _
    | some entry => exact keyed (.text intentId) entry cached
  unfold entryFor
  dsimp only
  rw [Dict.get_update_entries, Dict.get_update_of_notMem _ _ _ (by simp), before]
  cases extra.get "intent_id" <;> rfl

/-- A close changes nothing or writes a record under the identity that it carries. -/
theorem markClosed_cases (journal : OrderJournal) (render : Json → String) (now : String)
    (ticket : Json) (reason : String) (closedAt : Option String) :
    (journal.markClosed render now ticket reason closedAt none).2 = journal ∨
      ∃ identity entry, entry.get "intent_id" = some identity.json ∧
        (journal.markClosed render now ticket reason closedAt none).2 =
          journal.record identity entry := by
  unfold markClosed
  split
  · exact .inl rfl
  · split
    · exact .inl rfl
    · rename_i identity latest _
      split
      · exact .inl rfl
      · split
        · exact .inl rfl
        · split
          · exact .inl rfl
          · refine .inr ⟨identity, _, ?_, rfl⟩
            apply Dict.get_update_of_mem _ List.mem_cons_self
            simp

/-- A call whose line is written whole is replayed when its metadata names no other
identity, and not otherwise. -/
theorem Durable.step_replays_iff {journal : OrderJournal} (durable : journal.Durable)
    (render : Json → String) {request : Request} (whole : request.bytes = none) :
    (step render journal request).Replays ↔ request.call.KeepsIdentity := by
  rcases request with ⟨call, now, bytes⟩
  cases whole
  cases call with
  | setOrder intentId state extra =>
      have carried := entryFor_identity durable.keyed now intentId state extra
      refine (durable.record_replays_iff carried).trans ?_
      cases named : extra.get "intent_id" <;> simp [Call.KeepsIdentity, named, Identity.json]
  | markClosed ticket reason closedAt =>
      rcases journal.markClosed_cases render now ticket reason closedAt with
        unchanged | ⟨identity, entry, own, written⟩
      · simp [step, unchanged, durable.replays, Call.KeepsIdentity]
      · simp [step, written, (durable.record own).replays, Call.KeepsIdentity]

/-- Such a call keeps the store durable. -/
theorem Durable.step {journal : OrderJournal} (durable : journal.Durable)
    (render : Json → String) {request : Request} (whole : request.bytes = none)
    (keeps : request.call.KeepsIdentity) : (OrderJournal.step render journal request).Durable := by
  rcases request with ⟨call, now, bytes⟩
  cases whole
  cases call with
  | setOrder intentId state extra =>
      have carried := entryFor_identity durable.keyed now intentId state extra
      change (journal.record (.text intentId) _).Durable
      apply durable.record
      rw [carried]
      cases named : extra.get "intent_id" with
      | none => rfl
      | some value => rw [keeps value named]; rfl
  | markClosed ticket reason closedAt =>
      rcases journal.markClosed_cases render now ticket reason closedAt with
        unchanged | ⟨identity, entry, own, written⟩
      · simpa only [OrderJournal.step, unchanged] using durable
      · simpa only [OrderJournal.step, written] using durable.record own

/-! ## Every run -/

theorem loadLine_file {journal next : OrderJournal} {line : List Char}
    (loaded : journal.loadLine line = some next) : next.file = journal.file := by
  unfold loadLine at loaded
  dsimp only at loaded
  split at loaded
  · cases loaded
    rfl
  · split at loaded
    · cases loaded
      rfl
    · split at loaded
      · cases loaded
        rfl
      · rcases Option.map_eq_some_iff.mp loaded with ⟨identity, -, rfl⟩
        rfl
    · cases loaded
      rfl

theorem foldlM_loadLine_file {journal next : OrderJournal} {lines : List (List Char)}
    (loaded : lines.foldlM loadLine journal = some next) : next.file = journal.file := by
  induction lines generalizing journal with
  | nil =>
      cases loaded
      rfl
  | cons line rest ih =>
      rw [List.foldlM_cons] at loaded
      rcases Option.bind_eq_some_iff.mp loaded with ⟨middle, first, onwards⟩
      exact (ih onwards).trans (loadLine_file first)

/-- A store that is sound when it has been opened on an ended file is durable. -/
theorem durable_open {file : TextFile} (ended : file.Ended) {journal : OrderJournal}
    (opened : open? file none = some journal) (sound : journal.healthy = true) :
    journal.Durable := by
  have same : journal.file = file := by
    simp only [open?, ended.1, Bool.false_eq_true, if_false] at opened
    exact foldlM_loadLine_file opened
  exact ⟨by rw [same]; exact ended, sound, journal, by rw [same]; exact opened, fun _ => rfl⟩

/-- On a file whose last line is ended, a new store replays the live one after every
call of a run with whole appends exactly when no call names another identity in its
metadata. -/
theorem every_replays_iff (render : Json → String) {file : TextFile} (ended : file.Ended)
    {journal : OrderJournal} (opened : open? file none = some journal)
    (sound : journal.healthy = true) (requests : List Request)
    (whole : ∀ request ∈ requests, request.bytes = none) :
    Run.Every (step render) (fun journal request => (step render journal request).Replays)
        journal requests ↔
      ∀ request ∈ requests, request.call.KeepsIdentity := by
  rw [← Run.every_iff_forall_mem journal]
  apply Run.every_iff_of_kept Durable
  · exact fun journal request member durable => durable.step render (whole request member)
  · exact fun journal request member durable =>
      durable.step_replays_iff render (whole request member)
  · exact durable_open ended opened sound

/-- An order is submitted, filled with its ticket, and closed. -/
def lifetime : List Request :=
  [⟨.setOrder "EA-1" "submitted" (Dict.empty.update [("symbol", .str "XAUUSD")]), "10:00", none⟩,
    ⟨.setOrder "EA-1" "filled" (Dict.empty.update [("ticket", .number (.ofNat 77))]), "10:01",
      none⟩,
    ⟨.markClosed (.number (.ofNat 77)) "take profit" none, "11:00", none⟩]

/-- The lifetime of an order is replayed after every call from a new file. -/
theorem every_replays_lifetime :
    Run.Every (step fun _ => "")
      (fun journal request => (step (fun _ => "") journal request).Replays)
      ⟨Dict.empty, true, TextFile.empty⟩ lifetime := by
  have ended : TextFile.empty.Ended := ⟨rfl, .inl rfl⟩
  refine (every_replays_iff (fun _ => "") ended rfl rfl lifetime (by simp [lifetime])).mpr ?_
  simp [lifetime, Call.KeepsIdentity]

/-- A file on which the line break of the last record has been lost. -/
def unended : TextFile :=
  ⟨Json.write (.obj [("intent_id", .str "EA-1"), ("state", .str "filled")]), false⟩

/-- The next order is submitted on it. -/
def submitting : Request :=
  ⟨.setOrder "EA-2" "submitted" Dict.empty, "10:00", none⟩

/-- After a lost line break the next record is reported durable, but a new store finds
neither of the two. -/
theorem lost_break_forgets :
    ∃ journal, open? unended none = some journal ∧ journal.healthy = true ∧
      (journal.setOrder "10:00" "EA-2" "submitted" Dict.empty none).1 = true ∧
      (∀ request ∈ [submitting], request.call.KeepsIdentity) ∧
      ¬(Run.after (step fun _ => "") journal [submitting]).Replays := by
  have some : (open? unended none).isSome = true := by decide +kernel
  rcases Option.isSome_iff_exists.mp some with ⟨journal, opened⟩
  have facts : (open? unended none).any (fun journal =>
      let next := step (fun _ => "") journal submitting
      journal.healthy && (journal.setOrder "10:00" "EA-2" "submitted" Dict.empty none).1 &&
        (next.orders.get (.text "EA-2")).isSome &&
        (open? next.file none).all fun replayed =>
          (replayed.orders.get (.text "EA-2")).isNone) = true := by decide +kernel
  simp only [opened, Option.any_some, Bool.and_eq_true] at facts
  rcases facts with ⟨⟨⟨sound, durable⟩, cached⟩, forgotten⟩
  refine ⟨journal, opened, sound, durable, ?_, ?_⟩
  · simp [submitting, Call.KeepsIdentity]
  · rintro ⟨replayed, reopened, agree⟩
    change open? (step (fun _ => "") journal submitting).file none = _ at reopened
    rw [reopened, Option.all_some, agree] at forgotten
    change (((step (fun _ => "") journal submitting).orders.get _).isNone) = true at forgotten
    rw [Option.isNone_iff_eq_none.mp forgotten] at cached
    cases cached

end OrderJournal

end EaBot.Persistence
