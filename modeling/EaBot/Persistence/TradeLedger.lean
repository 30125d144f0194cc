import EaBot.Foundation.Run
import EaBot.Persistence.RecordLog

/-!
# The trade ledger

A trade is recorded when it is opened and updated until it is closed; every change appends its
whole record to the file.  An update starts from the cached record, and from nothing where the
trade has been dropped from the cache or taken out of it, also when the file still has the
trade.
-/

namespace EaBot.Persistence

open EaBot.Foundation

namespace TradeLedger

/-! ## Records -/

/-- The fields of a trade. -/
def fields : List String :=
  ["trade_id", "signal_id", "opportunity_id", "account_id", "terminal_id", "symbol", "direction",
    "volume", "entry_price", "initial_stop_loss", "initial_take_profit",
    "initial_risk_price_distance", "initial_risk_money", "target_rr", "opened_at", "closed_at",
    "exit_price", "pnl", "r_multiple", "close_reason", "broker_order_ticket",
    "broker_deal_ticket", "broker_position_ticket", "status", "review_status", "created_at",
    "updated_at"]

/-- The fields of a trade that a record has. -/
def slim (trade : OrderEntry) : OrderEntry :=
  Dict.empty.update (fields.filterMap fun name => (trade.get name).map fun value => (name, value))

/-- The updates of fields of a trade. -/
def known (updates : OrderEntry) : OrderEntry :=
  ⟨updates.entries.filter fun entry => entry.1 ∈ fields,
    updates.distinct.sublist (List.filter_sublist.map Prod.fst)⟩

/-- A record with its identity and its stamps.  A creation that is stamped already stays. -/
def stamped (record : OrderEntry) (tradeId : Json) (now : Nat → String) : OrderEntry :=
  let record := record.set "trade_id" tradeId
  let record :=
    if ((record.get "created_at").getD .null).truthy then record
    else record.set "created_at" (.str (now 0))
  record.set "updated_at" (.str (now 1))

/-- A record with updates. -/
def updated (record : OrderEntry) (tradeId : Json) (updates : OrderEntry) (now : Nat → String) :
    OrderEntry :=
  stamped (record.update (known updates).entries) tradeId now

/-- The record of a trade of which nothing is known. -/
def bare (tradeId : Json) : OrderEntry :=
  Dict.empty.set "trade_id" tradeId

/-! ## Calls -/

/-- A call of the ledger. -/
inductive Call
  | addTrade (trade : OrderEntry)
  | updateTrade (tradeId : Json) (updates : OrderEntry)
  | pop (tradeId : Json)

/-- A call, the readings of the clock, and whether its line reaches the file. -/
structure Request where
  call : Call
  now : Nat → String
  saved : Bool

section Calls

variable (render : Json → String)

/-- Record a trade.  Without an identity nothing happens. -/
def addTrade (ledger : RecordLog) (now : Nat → String) (trade : OrderEntry) (saved : Bool) :
    RecordLog :=
  match trade.get "trade_id" with
  | none => ledger
  | some tradeId =>
      if tradeId.isNull then ledger
      else ledger.put (OrderJournal.textOf render tradeId) (stamped (slim trade) tradeId now) saved

/-- Update the record of a trade. -/
def updateTrade (ledger : RecordLog) (now : Nat → String) (tradeId : Json) (updates : OrderEntry)
    (saved : Bool) : RecordLog :=
  if tradeId.isNull then ledger
  else
    let record := (ledger.records.get (OrderJournal.textOf render tradeId)).getD (bare tradeId)
    ledger.put (OrderJournal.textOf render tradeId) (updated record tradeId updates now) saved

/-- Take a trade out of the cache. -/
def pop (ledger : RecordLog) (tradeId : Json) : OrderEntry × RecordLog :=
  if tradeId.isNull then (Dict.empty, ledger)
  else
    let key := OrderJournal.textOf render tradeId
    ((ledger.records.get key).getD Dict.empty,
      { ledger with records := ledger.records.erase key })

/-- The ledger after a call. -/
def step (ledger : RecordLog) (request : Request) : RecordLog :=
  match request.call with
  | .addTrade trade => addTrade render ledger request.now trade request.saved
  | .updateTrade tradeId updates =>
      updateTrade render ledger request.now tradeId updates request.saved
  | .pop tradeId => (pop render ledger tradeId).2

/-- Open the ledger on a file. -/
def open? (maxEntries : Int) (file : TextFile) : Option RecordLog :=
  RecordLog.open? render "trade_id" maxEntries file

/-- The record of a trade that was written last. -/
def lastWritten (ledger : RecordLog) (tradeId : Json) : Option OrderEntry :=
  RecordLog.lastWritten render "trade_id" ledger.file (OrderJournal.textOf render tradeId)

/-- The ledger's own fields, that every record has anew. -/
def ownFields : List String :=
  ["trade_id", "updated_at"]

/-- A record holds the updates and otherwise what the last record held.  A creation that does
not count as true is stamped anew. -/
structure Carries (last : Option OrderEntry) (updates written : OrderEntry) : Prop where
  given : ∀ name ∈ fields, name ∉ ownFields → ∀ value, updates.get name = some value →
    (name = "created_at" → value.truthy = true) → written.get name = some value
  kept : ∀ name, name ∉ ownFields → (name ∈ fields → updates.get name = none) →
    (name = "created_at" → (last.bind fun record => record.get name).any Json.truthy = true) →
      written.get name = last.bind fun record => record.get name

/-- The record that an update writes holds the updates and otherwise what was written for the
trade before. -/
def Remembers (ledger : RecordLog) (request : Request) : Prop :=
  ∀ tradeId updates, request.call = .updateTrade tradeId updates → tradeId.isNull = false →
    ∃ written, lastWritten render (step render ledger request) tradeId = some written ∧
      Carries (lastWritten render ledger tradeId) updates written

/-- The trade of an update is cached, or the update brings every field anew that the last
record of the trade has. -/
def Retained (ledger : RecordLog) (request : Request) : Prop :=
  ∀ tradeId updates, request.call = .updateTrade tradeId updates → tradeId.isNull = false →
    ledger.records.contains (OrderJournal.textOf render tradeId) = true ∨
      ∀ last, lastWritten render ledger tradeId = some last →
        ∀ name, name ∉ ownFields → ∀ value, last.get name = some value →
          (name ∈ fields ∧ (updates.get name).isSome = true) ∨
            (name = "created_at" ∧ (value.truthy = true → value = .str (request.now 0)))

/-- The call takes no trade out of the cache. -/
def Call.keeps : Call → Prop
  | addTrade _ | updateTrade _ _ => True
  | pop _ => False

end Calls

/-! ## What an update writes -/

section Updated

variable {record updates last : OrderEntry} {tradeId : Json} {now : Nat → String} {name : String}

theorem get_known (updates : OrderEntry) (name : String) :
    (known updates).get name = if name ∈ fields then updates.get name else none := by
  apply Option.ext
  intro value
  rw [← Dict.mem_entries_iff]
  change (name, value) ∈ updates.entries.filter _ ↔ _
  rw [List.mem_filter, Dict.mem_entries_iff]
  split <;> simp_all

/-- The field of an updated record before it is stamped. -/
def merged (record updates : OrderEntry) (name : String) : Option Json :=
  (if name ∈ fields then updates.get name else none).or (record.get name)

theorem get_updated (foreign : name ∉ ownFields) :
    (updated record tradeId updates now).get name =
      if name = "created_at" ∧ ((merged record updates name).getD .null).truthy = false then
        some (.str (now 0))
      else merged record updates name := by
  simp only [ownFields, List.mem_cons, List.not_mem_nil, or_false, not_or] at foreign
  rcases foreign with ⟨notIdentity, notStamp⟩
  have inner : ∀ other, other ≠ "trade_id" →
      ((record.update (known updates).entries).set "trade_id" tradeId).get other =
        merged record updates other := by
    intro other different
    rw [Dict.get_set_of_ne _ different, Dict.get_update_entries, get_known, merged]
  rw [updated, stamped, Dict.get_set_of_ne _ notStamp, inner "created_at" (by simp)]
  by_cases creation : name = "created_at"
  · subst creation
    cases held : ((merged record updates "created_at").getD .null).truthy with
    | true => simpa using inner "created_at" (by simp)
    | false => simp
  · have settled : ¬(name = "created_at" ∧
        ((merged record updates name).getD .null).truthy = false) := fun both => creation both.1
    rw [if_neg settled]
    split_ifs
    · exact inner name notIdentity
    · rw [Dict.get_set_of_ne _ creation, inner name notIdentity]

/-- A record bears the identity that it is stamped with. -/
theorem get_stamped_identity : (stamped record tradeId now).get "trade_id" = some tradeId := by
  rw [stamped, Dict.get_set_of_ne _ (by simp)]
  split_ifs
  · exact Dict.get_set_self _ _ _
  · rw [Dict.get_set_of_ne _ (by simp), Dict.get_set_self]

/-- An update brings its fields, whatever record it starts from. -/
theorem given_updated (listed : name ∈ fields) (foreign : name ∉ ownFields) {value : Json}
    (brought : updates.get name = some value)
    (counts : name = "created_at" → value.truthy = true) :
    (updated record tradeId updates now).get name = some value := by
  have merges : merged record updates name = some value := by
    rw [merged, if_pos listed, brought, Option.some_or]
  rw [get_updated foreign, merges, if_neg]
  rintro ⟨creation, missing⟩
  rw [Option.getD_some, counts creation] at missing
  cases missing

/-- A field that an update does not bring is the one of the record that it starts from. -/
theorem get_updated_of_not_brought (foreign : name ∉ ownFields)
    (absent : name ∈ fields → updates.get name = none) :
    (updated record tradeId updates now).get name =
      if name = "created_at" ∧ ((record.get name).getD .null).truthy = false then
        some (.str (now 0))
      else record.get name := by
  have merges : merged record updates name = record.get name := by
    rw [merged]
    split_ifs with listed
    · rw [absent listed, Option.none_or]
    · rw [Option.none_or]
  rw [get_updated foreign, merges]

theorem get_bare (foreign : name ∉ ownFields) : (bare tradeId).get name = none := by
  have other : name ≠ "trade_id" := by
    rintro rfl
    exact foreign (by simp [ownFields])
  rw [bare, Dict.get_set_of_ne _ other, Dict.get_empty]

/-- An update that starts from the last record carries it on. -/
theorem carries_of_last :
    Carries (some last) updates (updated last tradeId updates now) where
  given := fun name listed foreign value brought counts =>
    given_updated listed foreign brought counts
  kept := by
    intro name foreign absent counts
    rw [get_updated_of_not_brought foreign absent, if_neg]
    · rfl
    · rintro ⟨creation, missing⟩
      have held := counts creation
      change (last.get name).any Json.truthy = true at held
      cases present : last.get name with
      | none => simp [present] at held
      | some value =>
          rw [present, Option.getD_some] at missing
          simp [present, missing] at held

/-- An update that starts from nothing carries on a trade that was never written. -/
theorem carries_of_none :
    Carries none updates (updated (bare tradeId) tradeId updates now) where
  given := fun name listed foreign value brought counts =>
    given_updated listed foreign brought counts
  kept := by
    intro name foreign absent counts
    rw [get_updated_of_not_brought foreign absent, get_bare foreign, if_neg]
    · rfl
    · rintro ⟨creation, -⟩
      cases counts creation

/-- An update that starts from nothing carries the last record on exactly when it brings every
field of it. -/
theorem carries_bare_iff :
    Carries (some last) updates (updated (bare tradeId) tradeId updates now) ↔
      ∀ name, name ∉ ownFields → ∀ value, last.get name = some value →
        (name ∈ fields ∧ (updates.get name).isSome = true) ∨
          (name = "created_at" ∧ (value.truthy = true → value = .str (now 0))) := by
  constructor
  · intro carries name foreign value held
    by_cases brought : name ∈ fields ∧ (updates.get name).isSome = true
    · exact .inl brought
    · right
      have absent : name ∈ fields → updates.get name = none := by
        intro listed
        exact Option.not_isSome_iff_eq_none.mp fun some => brought ⟨listed, some⟩
      have kept := carries.kept name foreign absent
      rw [get_updated_of_not_brought foreign absent, get_bare foreign] at kept
      change (name = "created_at" → (last.get name).any Json.truthy = true) →
        _ = last.get name at kept
      rw [held] at kept
      by_cases creation : name = "created_at"
      · refine ⟨creation, fun counts => ?_⟩
        have same := kept fun _ => counts
        rw [if_pos ⟨creation, rfl⟩] at same
        exact (Option.some.inj same).symm
      · have same := kept fun created => absurd created creation
        rw [if_neg fun both => creation both.1] at same
        cases same
  · intro brings
    refine ⟨fun name listed foreign value brought counts =>
      given_updated listed foreign brought counts, ?_⟩
    intro name foreign absent counts
    rw [get_updated_of_not_brought foreign absent, get_bare foreign]
    change _ = last.get name
    cases held : last.get name with
    | none =>
        rw [if_neg]
        rintro ⟨creation, -⟩
        have some := counts creation
        change (last.get name).any Json.truthy = true at some
        rw [held] at some
        cases some
    | some value =>
        rcases brings name foreign value held with ⟨listed, brought⟩ | ⟨creation, stamp⟩
        · rw [absent listed] at brought
          cases brought
        · have counted := counts creation
          change (last.get name).any Json.truthy = true at counted
          rw [held] at counted
          rw [if_pos ⟨creation, rfl⟩, stamp counted]

end Updated

/-! ## One call -/

section Call

variable (render : Json → String) {ledger : RecordLog}

/-- The file is ended, and every cached record is the one that was written last. -/
structure Sound (ledger : RecordLog) : Prop where
  ended : ledger.file.Ended
  last : ∀ key entry, ledger.records.get key = some entry →
    RecordLog.lastWritten render "trade_id" ledger.file key = some entry

variable {render} {tradeId : Json} {entry : OrderEntry}

theorem Sound.lastWritten_put (sound : Sound render ledger)
    (carried : entry.get "trade_id" = some tradeId) (solid : tradeId.isNull = false)
    (key : String) :
    RecordLog.lastWritten render "trade_id"
        (ledger.put (OrderJournal.textOf render tradeId) entry true).file key =
      if key = OrderJournal.textOf render tradeId then some entry
      else RecordLog.lastWritten render "trade_id" ledger.file key := by
  change lastAssigned key (RecordLog.recordsOf render "trade_id" (ledger.file.append _ none)) = _
  rw [RecordLog.recordsOf_append render sound.ended carried solid, lastAssigned_concat]
  rfl

theorem Sound.put (sound : Sound render ledger) (carried : entry.get "trade_id" = some tradeId)
    (solid : tradeId.isNull = false) :
    Sound render (ledger.put (OrderJournal.textOf render tradeId) entry true) where
  ended := RecordLog.ended_put sound.ended _ _ _
  last := by
    intro key held found
    rw [sound.lastWritten_put carried solid]
    change (Dict.remember ledger.limit ledger.records _).get key = some held at found
    have touched := Dict.get_of_get_trim _ found
    rw [Dict.get_touch] at touched
    split at touched
    · rename_i same
      rw [if_pos same]
      exact touched
    · rename_i other
      rw [if_neg other]
      exact sound.last key held touched

theorem Sound.pop (sound : Sound render ledger) (tradeId : Json) :
    Sound render (TradeLedger.pop render ledger tradeId).2 := by
  rw [TradeLedger.pop]
  split_ifs
  · exact sound
  · refine ⟨sound.ended, fun key held found => ?_⟩
    change (ledger.records.erase _).get key = some held at found
    rw [Dict.get_erase] at found
    split at found
    · cases found
    · exact sound.last key held found

variable {request : Request}

/-- A call does nothing, writes a record under its identity, or takes a trade out. -/
theorem step_cases (ledger : RecordLog) (request : Request) :
    TradeLedger.step render ledger request = ledger ∨
      (∃ tradeId record, tradeId.isNull = false ∧ TradeLedger.step render ledger request =
        ledger.put (OrderJournal.textOf render tradeId) (stamped record tradeId request.now)
          request.saved) ∨
      ∃ tradeId, request.call = .pop tradeId ∧
        TradeLedger.step render ledger request = (TradeLedger.pop render ledger tradeId).2 := by
  rcases request with ⟨call, now, saved⟩
  rw [TradeLedger.step]
  cases call with
  | addTrade trade =>
      dsimp only
      rw [addTrade]
      split
      · exact .inl rfl
      · rename_i tradeId _
        split_ifs with null
        · exact .inl rfl
        · exact .inr (.inl ⟨tradeId, slim trade, Bool.eq_false_iff.mpr null, rfl⟩)
  | updateTrade tradeId updates =>
      dsimp only
      rw [updateTrade]
      split_ifs with null
      · exact .inl rfl
      · exact .inr (.inl ⟨tradeId, _, Bool.eq_false_iff.mpr null, rfl⟩)
  | pop tradeId => exact .inr (.inr ⟨tradeId, rfl, rfl⟩)

/-- A call whose line reaches the file keeps the ledger sound. -/
theorem Sound.step (sound : Sound render ledger) (saved : request.saved = true) :
    Sound render (TradeLedger.step render ledger request) := by
  rcases @step_cases render ledger request with
    same | ⟨tradeId, record, solid, same⟩ | ⟨tradeId, -, same⟩
  · rw [same]
    exact sound
  · rw [same, saved]
    exact sound.put get_stamped_identity solid
  · rw [same]
    exact sound.pop tradeId

/-- A call that takes nothing out leaves the cache in line with the file. -/
theorem follows_step (follows : ledger.Follows render "trade_id") (ended : ledger.file.Ended)
    (saved : request.saved = true) (keeps : request.call.keeps) :
    (TradeLedger.step render ledger request).Follows render "trade_id" := by
  rcases @step_cases render ledger request with
    same | ⟨tradeId, record, solid, same⟩ | ⟨tradeId, popped, -⟩
  · rw [same]
    exact follows
  · rw [same, saved]
    exact RecordLog.Follows.put render follows ended get_stamped_identity solid
  · rw [popped] at keeps
    exact keeps.elim

/-- An update writes what was known of the trade exactly when the trade is cached, or its
fields are all brought anew. -/
theorem remembers_iff_retained (sound : Sound render ledger) (saved : request.saved = true) :
    Remembers render ledger request ↔ Retained render ledger request := by
  rcases request with ⟨call, now, _⟩
  subst saved
  -- The record that is written, for the two readings of the cache.
  have writes : ∀ tradeId updates, tradeId.isNull = false →
      lastWritten render (TradeLedger.step render ledger
          ⟨.updateTrade tradeId updates, now, true⟩) tradeId =
        some (updated ((ledger.records.get (OrderJournal.textOf render tradeId)).getD
          (bare tradeId)) tradeId updates now) := by
    intro tradeId updates solid
    rw [lastWritten, TradeLedger.step]
    dsimp only
    rw [updateTrade, if_neg (Bool.eq_false_iff.mp solid)]
    exact (sound.lastWritten_put get_stamped_identity solid _).trans (if_pos rfl)
  have agree : ∀ tradeId updates, tradeId.isNull = false →
      (Carries (lastWritten render ledger tradeId) updates
          (updated ((ledger.records.get (OrderJournal.textOf render tradeId)).getD
            (bare tradeId)) tradeId updates now) ↔
        (ledger.records.contains (OrderJournal.textOf render tradeId) = true ∨
          ∀ last, lastWritten render ledger tradeId = some last →
            ∀ name, name ∉ ownFields → ∀ value, last.get name = some value →
              (name ∈ fields ∧ (updates.get name).isSome = true) ∨
                (name = "created_at" ∧ (value.truthy = true → value = .str (now 0))))) := by
    intro tradeId updates _
    cases cached : ledger.records.get (OrderJournal.textOf render tradeId) with
    | some record =>
        have last : lastWritten render ledger tradeId = some record := sound.last _ _ cached
        rw [last, Option.getD_some]
        exact iff_of_true carries_of_last (.inl (by simp [Dict.contains, cached]))
    | none =>
        have missing : ledger.records.contains (OrderJournal.textOf render tradeId) = false := by
          simp [Dict.contains, cached]
        rw [Option.getD_none, missing]
        cases last : lastWritten render ledger tradeId with
        | none =>
            refine iff_of_true carries_of_none (.inr ?_)
            intro last absent
            cases absent
        | some record =>
            rw [carries_bare_iff]
            simp
  constructor
  · intro remembers tradeId updates called solid
    dsimp only at called
    subst called
    rcases remembers tradeId updates rfl solid with ⟨written, found, carries⟩
    rw [writes tradeId updates solid] at found
    cases found
    exact (agree tradeId updates solid).mp carries
  · intro retained tradeId updates called solid
    dsimp only at called
    subst called
    exact ⟨_, writes tradeId updates solid,
      (agree tradeId updates solid).mpr (retained tradeId updates rfl solid)⟩

end Call

/-! ## Runs -/

section Runs

variable (render : Json → String) {maxEntries : Int} {file : TextFile} {ledger : RecordLog}

theorem sound_of_open? (ended : file.Ended)
    (opened : open? render maxEntries file = some ledger) : Sound render ledger := by
  rcases RecordLog.follows_of_open? render opened with ⟨follows, same, -⟩
  constructor
  · rw [same]
    exact ended
  · intro key entry found
    rw [follows] at found
    exact lastAssigned_of_get_trim found

theorem step_limit (ledger : RecordLog) (request : Request) :
    (step render ledger request).limit = ledger.limit := by
  rcases @step_cases render ledger request with
    same | ⟨tradeId, record, -, same⟩ | ⟨tradeId, -, same⟩
  · rw [same]
  · rw [same]
    rfl
  · rw [same, pop]
    split <;> rfl

/-- In a run whose lines all reach the file, a new ledger on the file is the live one when
nothing is taken out of the cache, and every update carries its trade on exactly when each of
them finds its trade cached or brings the fields of its last record anew. -/
theorem run_remembers_iff (ended : file.Ended)
    (opened : open? render maxEntries file = some ledger) {requests : List Request}
    (saved : ∀ request ∈ requests, request.saved = true) :
    ((∀ request ∈ requests, request.call.keeps) →
        open? render maxEntries (Run.after (step render) ledger requests).file =
          some (Run.after (step render) ledger requests)) ∧
      (Run.Every (step render) (Remembers render) ledger requests ↔
        Run.Every (step render) (Retained render) ledger requests) := by
  have sound := sound_of_open? render ended opened
  rcases RecordLog.follows_of_open? render opened with ⟨follows, -, limit⟩
  constructor
  · intro keeps
    have every : Run.Every (step render) (fun _ request => request.saved = true ∧
        request.call.keeps) ledger requests := by
      apply (Run.every_iff_forall_mem ledger).mpr
      exact fun request member => ⟨saved request member, keeps request member⟩
    have last := every.after (fun ledger => Sound render ledger ∧
        ledger.Follows render "trade_id" ∧ ledger.limit = RecordLog.limitOf maxEntries)
      ⟨sound, follows, limit⟩ (by
        rintro ledger request ⟨sound, follows, limit⟩ ⟨saved, keeps⟩
        exact ⟨sound.step saved, follows_step follows sound.ended saved keeps,
          (step_limit render ledger request).trans limit⟩)
    exact RecordLog.open?_of_follows render last.2.1 last.1.ended last.2.2.symm
  · apply Run.every_iff_of_kept (Sound render)
    · exact fun ledger request member sound _ => sound.step (saved request member)
    · exact fun ledger request member sound => remembers_iff_retained sound (saved request member)
    · exact sound

end Runs

/-- A trade that is opened. -/
def openedTrade (tradeId : String) : OrderEntry :=
  Dict.empty.update [("trade_id", .str tradeId), ("entry_price", .number (.ofNat 2000))]

/-- The profit of a trade that is closed. -/
def closedTrade : OrderEntry :=
  Dict.empty.set "pnl" (.number (.ofNat 7))

/-- A trade that is still cached keeps its entry when it is closed. -/
theorem run_remembers_cached :
    Run.Every (step fun _ => "") (Remembers fun _ => "")
      ⟨1, Nat.one_pos, Dict.empty, TextFile.empty⟩
      [⟨.addTrade (openedTrade "A"), fun _ => "10:00", true⟩,
        ⟨.updateTrade (.str "A") closedTrade, fun _ => "11:00", true⟩] := by
  have ended : TextFile.empty.Ended := ⟨rfl, .inl rfl⟩
  have opened : open? (fun _ => "") 1 TextFile.empty =
      some ⟨1, Nat.one_pos, Dict.empty, TextFile.empty⟩ := rfl
  apply (run_remembers_iff (fun _ => "") ended opened (by simp)).2.mpr
  refine ⟨nofun, ?_, trivial⟩
  rintro tradeId updates ⟨⟩ -
  exact .inl rfl

/-- A trade that a cache of one trade has dropped loses its entry when it is closed. -/
theorem dropped_trade_loses_entry :
    ¬Run.Every (step fun _ => "") (Remembers fun _ => "")
      ⟨1, Nat.one_pos, Dict.empty, TextFile.empty⟩
      [⟨.addTrade (openedTrade "A"), fun _ => "10:00", true⟩,
        ⟨.addTrade (openedTrade "B"), fun _ => "10:30", true⟩,
        ⟨.updateTrade (.str "A") closedTrade, fun _ => "11:00", true⟩] := by
  have ended : TextFile.empty.Ended := ⟨rfl, .inl rfl⟩
  have opened : open? (fun _ => "") 1 TextFile.empty =
      some ⟨1, Nat.one_pos, Dict.empty, TextFile.empty⟩ := rfl
  have sound := sound_of_open? (fun _ => "") ended opened
  have first := @Sound.step _ _ ⟨.addTrade (openedTrade "A"), fun _ => "10:00", true⟩ sound rfl
  have second := @Sound.step _ _ ⟨.addTrade (openedTrade "B"), fun _ => "10:30", true⟩ first rfl
  have written := sound.lastWritten_put
    (@get_stamped_identity (slim (openedTrade "A")) (.str "A") fun _ => "10:00") rfl "A"
  have later := first.lastWritten_put
    (@get_stamped_identity (slim (openedTrade "B")) (.str "B") fun _ => "10:30") rfl "A"
  rintro ⟨-, -, remembers, -⟩
  rcases (remembers_iff_retained second rfl).mp remembers (.str "A") closedTrade rfl rfl with
    cached | brings
  · cases cached
  · rcases brings _ (later.trans written) "entry_price" (by simp [ownFields]) _ rfl with
      ⟨-, brought⟩ | ⟨creation, -⟩
    · cases brought
    · simp at creation

end TradeLedger

end EaBot.Persistence
