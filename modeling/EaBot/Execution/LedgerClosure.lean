import EaBot.Execution.ReconciliationProviders
import EaBot.Foundation.Run

/-!
# Which record of a ticket is closed

The ledger keeps one record for each intent, in the order in which the intents were first
written.  Closing a ticket looks for the last of these records that carries it, and so does
the reconciliation when it lists the open positions.

Writing the record of an intent again does not move it.  The intent that is closed is
therefore the one that was first written last, which need not be the one whose record was
appended last.
-/

namespace EaBot.Execution

open EaBot.Foundation EaBot.Persistence

/-- The last element that a predicate accepts. -/
def lastWhere {α : Type} (accepts : α → Bool) (elements : List α) : Option α :=
  elements.reverse.find? accepts

/-- Whether an entry carries a ticket that reads as the text. -/
def carries (text : String) (entry : String × Record) : Bool :=
  (recordTicket entry.2).text = text

/-- In a log of writes one intent is written before another one is. -/
def FirstBefore (log : List (String × Record)) (first second : String) : Prop :=
  ∃ start, start <+: log ∧ first ∈ start.map Prod.fst ∧ second ∉ start.map Prod.fst

/-- A call on the store. -/
inductive LedgerCall
  | setOrder (intentId state : String) (extra : List (String × Val))
  | markClosed (ticket : Val) (reason : String) (closedAt : Option String)

/-- A store and everything that was written to it, in order. -/
structure LedgerWatch where
  store : OrderStateStore
  log : List (String × Record)

/-- The store lists a position for a ticket that reads as the text. -/
def ListsOpen (orders : Dict String Record) (text : String) : Prop :=
  ∃ item ∈ internalPositionsFromStore orders, (recordTicket item).text = text

/-- A close finds a record that it can close. -/
structure FindsOpen (store : OrderStateStore) (ticket : Val) (intentId : String)
    (record : Record) : Prop where
  given : ticket ≠ .none
  found : OrderStateStore.latestFor ticket store.orders.entries = some (intentId, record)
  allowed : ∃ current, OrderState.ofValue? (recordState record) = some current ∧
    .closed ∈ nextAllowed current

/-- A close finds a record that is closed. -/
structure FindsClosed (store : OrderStateStore) (ticket : Val) (intentId : String)
    (record : Record) : Prop where
  given : ticket ≠ .none
  found : OrderStateStore.latestFor ticket store.orders.entries = some (intentId, record)
  closed : recordState record = OrderState.closed.value

namespace LedgerWatch

/-- The entries that a file holds for a reader. -/
def entriesOf (lines : List Line) : List (String × Record) :=
  lines.filterMap fun
    | .entry record => (OrderStateStore.identityOf record).map fun intentId => (intentId, record)
    | _ => none

/-- A store that has read its file, up to where reading fails. -/
def start (file : OrderFile) (interrupted : Option Nat) : LedgerWatch where
  store := OrderStateStore.load file interrupted
  log := entriesOf (interrupted.elim file.lines fun count => file.lines.take count)

/-- Carry out a call and note what it writes. -/
def step (watch : LedgerWatch) : LedgerCall → LedgerWatch
  | .setOrder intentId state extra =>
      ⟨(watch.store.setOrder intentId state extra).2,
        watch.log ++ [(intentId, watch.store.entryFor intentId extra state)]⟩
  | .markClosed ticket reason closedAt =>
      let closed := watch.store.markClosed ticket reason closedAt
      ⟨closed.2, watch.log ++
        if closed.1 then
          (OrderStateStore.latestFor ticket watch.store.orders.entries).toList.map
            fun (intentId, _) => (intentId, (closed.2.orders.get intentId).getD Dict.empty)
        else []⟩

/-- What a close has to do: it appends its record for the intent whose record of that
ticket was appended last, and no position is listed for a ticket that it has closed or has
found closed. -/
structure Closes (watch : LedgerWatch) (ticket : Val) (reason : String)
    (closedAt : Option String) : Prop where
  latest : (watch.store.markClosed ticket reason closedAt).1 = true →
    (watch.step (.markClosed ticket reason closedAt)).log.getLast?.map Prod.fst =
      (lastWhere (carries ticket.text) watch.log).map Prod.fst
  unlisted : ((watch.store.markClosed ticket reason closedAt).1 = true ∨
      ∃ intentId record, FindsClosed watch.store ticket intentId record) →
    ¬ListsOpen (watch.store.markClosed ticket reason closedAt).2.orders ticket.text

/-- Every close does what it has to do. -/
def ClosesLatest (watch : LedgerWatch) : LedgerCall → Prop
  | .setOrder _ _ _ => True
  | .markClosed ticket reason closedAt => watch.Closes ticket reason closedAt

/-- What a close must find: the intent whose record of the ticket was appended last carries
the ticket still, and none that was first written later carries it; and when the record that
it finds carries no ticket, no position is listed under the text that it was found by. -/
structure Orderly (watch : LedgerWatch) (ticket : Val) : Prop where
  latest : ∀ intentId record, FindsOpen watch.store ticket intentId record →
    ∀ last, lastWhere (carries ticket.text) watch.log = some last →
      (∃ kept, watch.store.orders.get last.1 = some kept ∧
          carries ticket.text (last.1, kept) = true) ∧
        ∀ other kept, watch.store.orders.get other = some kept →
          carries ticket.text (other, kept) = true → ¬FirstBefore watch.log last.1 other
  tracked : ∀ intentId record,
    (FindsOpen watch.store ticket intentId record ∧
        record.get "ticket" = some .none ∨
      FindsClosed watch.store ticket intentId record ∧ recordTicket record = .none) →
    ¬ListsOpen watch.store.orders ticket.text

/-- Every close finds what it must find. -/
def FindsLatest (watch : LedgerWatch) : LedgerCall → Prop
  | .setOrder _ _ _ => True
  | .markClosed ticket _ _ => watch.Orderly ticket

end LedgerWatch

/-- A cache holds records of a log, in the order in which their intents were first
written. -/
structure Ordered (orders : Dict String Record) (log : List (String × Record)) : Prop where
  logged : ∀ intentId record, orders.get intentId = some record → (intentId, record) ∈ log
  known : ∀ intentId ∈ log.map Prod.fst, intentId ∈ orders.keys
  ordered : orders.keys.Pairwise (FirstBefore log)

/-- The record of a close. -/
def closedRecord (intentId : String) (ticket : Val) (stamp reason : String) : Record :=
  Dict.empty.update
    [("intent_id", .str intentId), ("state", .str OrderState.closed.value), ("ticket", ticket),
      ("timestamp", .str stamp), ("reason", .str reason)]

/-! ## The last element that a predicate accepts -/

section LastWhere

variable {α : Type} {accepts : α → Bool}

theorem lastWhere_eq_some_iff {elements : List α} {element : α} :
    lastWhere accepts elements = some element ↔
      accepts element = true ∧ ∃ before after, elements = before ++ element :: after ∧
        ∀ later ∈ after, accepts later = false := by
  rw [lastWhere, List.find?_eq_some_iff_append]
  apply and_congr_right
  intro _
  constructor
  · rintro ⟨after, before, same, none⟩
    refine ⟨before.reverse, after.reverse, ?_, ?_⟩
    · rw [← List.reverse_reverse elements, same]
      simp
    · intro later member
      simpa using none later (List.mem_reverse.mp member)
  · rintro ⟨before, after, rfl, none⟩
    refine ⟨after.reverse, before.reverse, by simp, ?_⟩
    intro later member
    simpa using none later (List.mem_reverse.mp member)

theorem mem_of_lastWhere {elements : List α} {element : α}
    (found : lastWhere accepts elements = some element) : element ∈ elements :=
  List.mem_reverse.mp (List.mem_of_find?_eq_some found)

theorem exists_lastWhere {elements : List α} {element : α} (member : element ∈ elements)
    (accepted : accepts element = true) : ∃ last, lastWhere accepts elements = some last := by
  apply Option.isSome_iff_exists.mp
  rw [lastWhere, List.find?_isSome]
  exact ⟨element, List.mem_reverse.mpr member, accepted⟩

end LastWhere

/-- The search through the ledger finds the last entry that carries the ticket. -/
theorem latestFor_eq (ticket : Val) (entries : List (String × Record)) :
    OrderStateStore.latestFor ticket entries = lastWhere (carries ticket.text) entries := by
  induction entries with
  | nil => rfl
  | cons entry rest ih =>
      rcases entry with ⟨intentId, record⟩
      have split : lastWhere (carries ticket.text) ((intentId, record) :: rest) =
          (lastWhere (carries ticket.text) rest).or
            (if carries ticket.text (intentId, record) = true then some (intentId, record)
              else none) := by
        simp [lastWhere, List.find?_append, List.find?_singleton]
      rw [OrderStateStore.latestFor, ih, split]
      cases lastWhere (carries ticket.text) rest with
      | some found => rfl
      | none =>
          by_cases same : ((record.get "ticket").getD .none).text = ticket.text
          · simp [carries, recordTicket, same]
          · simp [carries, recordTicket, same]

/-! ## Which intent is written first -/

section FirstBefore

variable {log : List (String × Record)} {first second : String}

theorem FirstBefore.asymm (before : FirstBefore log first second) :
    ¬FirstBefore log second first := by
  rintro ⟨other, otherPrefix, hasSecond, noFirst⟩
  rcases before with ⟨start, startPrefix, hasFirst, noSecond⟩
  rcases List.prefix_or_prefix_of_prefix startPrefix otherPrefix with shorter | longer
  · exact noFirst ((shorter.map Prod.fst).subset hasFirst)
  · exact noSecond ((longer.map Prod.fst).subset hasSecond)

theorem FirstBefore.append (before : FirstBefore log first second)
    (written : List (String × Record)) : FirstBefore (log ++ written) first second := by
  rcases before with ⟨start, startPrefix, hasFirst, noSecond⟩
  exact ⟨start, startPrefix.trans (List.prefix_append _ _), hasFirst, noSecond⟩

end FirstBefore

/-! ## Entries in place -/

section Entries

theorem entries_set_of_split {orders : Dict String Record} {intentId : String} {record : Record}
    {before after : List (String × Record)}
    (split : orders.entries = before ++ (intentId, record) :: after) (entry : Record) :
    (orders.set intentId entry).entries = before ++ (intentId, entry) :: after := by
  have absent : intentId ∉ before.map Prod.fst := by
    have distinct := orders.distinct
    rw [split, List.map_append, List.map_cons, List.nodup_append] at distinct
    intro member
    exact distinct.2.2 intentId member intentId List.mem_cons_self rfl
  change Entries.set intentId entry orders.entries = _
  rw [split]
  clear split
  induction before with
  | nil => simp [Entries.set]
  | cons first rest ih =>
      rcases first with ⟨other, old⟩
      simp only [List.map_cons, List.mem_cons, not_or] at absent
      rw [List.cons_append, Entries.set, if_neg (Ne.symm absent.1), ih absent.2, List.cons_append]

theorem keys_set (orders : Dict String Record) (intentId : String) (entry : Record) :
    (orders.set intentId entry).keys =
      if intentId ∈ orders.keys then orders.keys else orders.keys ++ [intentId] := by
  by_cases member : intentId ∈ orders.keys
  · rw [if_pos member]
    rcases (Dict.mem_keys_iff _ _).mp member with ⟨record, held⟩
    rcases List.append_of_mem ((Dict.mem_entries_iff _ _ _).mpr held) with ⟨before, after, split⟩
    rw [Dict.keys, entries_set_of_split split, Dict.keys, split]
    simp
  · rw [if_neg member]
    change (Entries.set intentId entry orders.entries).map Prod.fst = _
    rw [Entries.set_of_notMem member]
    simp [Dict.keys]

end Entries

/-! ## The ledger in the order of its log -/

namespace Ordered

variable {orders : Dict String Record} {log : List (String × Record)}

theorem empty : Ordered Dict.empty [] where
  logged := by
    intro intentId record held
    cases held
  known := by simp
  ordered := List.Pairwise.nil

/-- Writing a record keeps the order. -/
theorem write (mirror : Ordered orders log) (intentId : String) (entry : Record) :
    Ordered (orders.set intentId entry) (log ++ [(intentId, entry)]) where
  logged := by
    intro other record held
    rw [Dict.get_set] at held
    split at held
    · rename_i same
      cases held
      rw [same]
      exact List.mem_append_right _ List.mem_cons_self
    · exact List.mem_append_left _ (mirror.logged other record held)
  known := by
    intro other member
    rw [List.map_append, List.mem_append] at member
    rw [Dict.mem_keys_set]
    rcases member with before | last
    · exact .inr (mirror.known other before)
    · exact .inl (List.mem_singleton.mp last)
  ordered := by
    have earlier : orders.keys.Pairwise (FirstBefore (log ++ [(intentId, entry)])) :=
      mirror.ordered.imp fun before => before.append _
    rw [keys_set]
    split
    · exact earlier
    · rename_i absent
      apply List.pairwise_append.mpr
      refine ⟨earlier, List.pairwise_singleton _ _, ?_⟩
      intro other member last same
      rw [List.mem_singleton.mp same]
      rcases (Dict.mem_keys_iff _ _).mp member with ⟨record, held⟩
      refine ⟨log, List.prefix_append _ _, ?_, fun inside => absent (mirror.known _ inside)⟩
      exact List.mem_map_of_mem (mirror.logged other record held)

/-- Reading a file gives its records in the order of its lines. -/
theorem load (lines : List Line) (file : OrderFile) :
    Ordered (lines.foldl OrderStateStore.loadLine ⟨Dict.empty, true, file⟩).orders
      (LedgerWatch.entriesOf lines) := by
  induction lines using List.reverseRecOn with
  | nil => exact empty
  | append_singleton lines line ih =>
      rw [List.foldl_append, LedgerWatch.entriesOf, List.filterMap_append]
      cases line with
      | entry record =>
          cases identity : OrderStateStore.identityOf record with
          | none => simpa [OrderStateStore.loadLine, identity, LedgerWatch.entriesOf] using ih
          | some intentId =>
              simpa [OrderStateStore.loadLine, identity, LedgerWatch.entriesOf] using
                ih.write intentId record
      | blank => simpa [OrderStateStore.loadLine, LedgerWatch.entriesOf] using ih
      | corrupt => simpa [OrderStateStore.loadLine, LedgerWatch.entriesOf] using ih

theorem start (file : OrderFile) (interrupted : Option Nat) :
    Ordered (LedgerWatch.start file interrupted).store.orders
      (LedgerWatch.start file interrupted).log := by
  cases interrupted with
  | none => exact load file.lines file
  | some count => exact load (file.lines.take count) file

end Ordered

/-! ## What a close writes -/

section MarkClosed

variable {store : OrderStateStore} {ticket : Val} {intentId : String} {record : Record}
  (reason : String) (closedAt : Option String)

/-- A close of a record that it can close replaces this record. -/
theorem markClosed_of_findsOpen (finds : FindsOpen store ticket intentId record) :
    ∃ stamp, (store.markClosed ticket reason closedAt).1 = true ∧
      (store.markClosed ticket reason closedAt).2.orders = store.orders.set intentId
        (closedRecord intentId ((record.get "ticket").getD ticket) stamp reason) := by
  rcases finds.allowed with ⟨current, known, allowed⟩
  have unsettled : current ≠ .closed := by
    rintro rfl
    cases allowed
  unfold OrderStateStore.markClosed
  rw [if_neg finds.given, finds.found]
  dsimp only
  rw [known]
  dsimp only
  rw [if_neg unsettled, if_neg (not_not.mpr allowed)]
  exact ⟨_, rfl, OrderStateStore.appendLine_orders _ _⟩

/-- A close that succeeds has found a record that it can close. -/
theorem findsOpen_of_markClosed (closed : (store.markClosed ticket reason closedAt).1 = true) :
    ∃ intentId record, FindsOpen store ticket intentId record := by
  unfold OrderStateStore.markClosed at closed
  split at closed
  · cases closed
  · rename_i given
    split at closed
    · cases closed
    · rename_i intentId record found
      split at closed
      · cases closed
      · rename_i current known
        split at closed
        · cases closed
        · split at closed
          · cases closed
          · rename_i allowed
            exact ⟨intentId, record, given, found, current, known, not_not.mp allowed⟩

end MarkClosed

/-! ## Which positions are listed -/

section Listed

variable {orders : Dict String Record}

/-- Whether an entry carries a ticket that is given. -/
def tracked (entry : String × Record) : Bool :=
  recordTicket entry.2 ≠ .none

theorem get_latestByTicket (orders : Dict String Record) (text : String) :
    (latestByTicket orders).get text =
      (lastWhere (fun entry => tracked entry && carries text entry) orders.entries).map
        Prod.snd := by
  unfold latestByTicket Dict.indexBy lastWhere
  rw [Dict.get_update, Dict.get_empty, Option.or_none, ← List.map_reverse, List.find?_map,
    ← List.filter_reverse, List.find?_filter, Dict.values, ← List.map_reverse, List.find?_map,
    Option.map_map, Option.map_map]
  simp [Function.comp_def, tracked, carries]

/-- A position is listed for the last entry of a ticket when its state stands for one. -/
theorem listsOpen_iff (orders : Dict String Record) (text : String) :
    ListsOpen orders text ↔
      ∃ entry, lastWhere (fun entry => tracked entry && carries text entry) orders.entries =
        some entry ∧ holdsPosition entry.2 = true := by
  have ticketOf (record : Record) : recordTicket (positionOfRecord record) = recordTicket record :=
    rfl
  constructor
  · rintro ⟨item, member, reads⟩
    rcases List.mem_map.mp member with ⟨record, inside, rfl⟩
    rcases List.mem_filter.mp inside with ⟨value, holds⟩
    rcases (Dict.mem_values_iff _ _).mp value with ⟨key, found⟩
    have named : (recordTicket record).text = key := (Dict.of_get_indexBy found).1
    rw [ticketOf] at reads
    rw [← named, reads, get_latestByTicket] at found
    rcases Option.map_eq_some_iff.mp found with ⟨entry, last, rfl⟩
    exact ⟨entry, last, holds⟩
  · rintro ⟨entry, last, holds⟩
    refine ⟨positionOfRecord entry.2, ?_, ?_⟩
    · apply List.mem_map_of_mem
      apply List.mem_filter.mpr
      refine ⟨(Dict.mem_values_iff _ _).mpr ⟨text, ?_⟩, holds⟩
      rw [get_latestByTicket, last]
      rfl
    · have accepted := (lastWhere_eq_some_iff.mp last).1
      rw [Bool.and_eq_true] at accepted
      exact of_decide_eq_true accepted.2

/-- No position is listed for a ticket whose last entry is closed. -/
theorem not_listsOpen_of_closed {text : String} {entry : String × Record}
    {before after : List (String × Record)} (split : orders.entries = before ++ entry :: after)
    (later : ∀ other ∈ after, carries text other = false) (carried : carries text entry = true)
    (given : tracked entry = true) (closed : holdsPosition entry.2 = false) :
    ¬ListsOpen orders text := by
  have last : lastWhere (fun entry => tracked entry && carries text entry) orders.entries =
      some entry := by
    apply lastWhere_eq_some_iff.mpr
    refine ⟨by rw [given, carried]; rfl, before, after, split, ?_⟩
    intro other member
    rw [later other member, Bool.and_false]
  rw [listsOpen_iff, last]
  rintro ⟨found, same, holds⟩
  cases same
  rw [closed] at holds
  cases holds

/-- Replacing an entry without a ticket by another one changes no list of positions. -/
theorem listsOpen_set_of_untracked {intentId : String} {record entry : Record}
    (held : orders.get intentId = some record) (without : recordTicket record = .none)
    (still : recordTicket entry = .none) (text : String) :
    ListsOpen (orders.set intentId entry) text ↔ ListsOpen orders text := by
  have same : latestByTicket (orders.set intentId entry) = latestByTicket orders := by
    unfold latestByTicket
    rw [Dict.filter_values_set]
    · simp [still]
    · intro old present
      cases held.symm.trans present
      simp [without]
  rw [ListsOpen, internalPositionsFromStore, same]
  rfl

end Listed

/-! ## One close -/

namespace LedgerWatch

variable {watch : LedgerWatch} {ticket : Val} {intentId : String} {record : Record}
  {reason : String} {closedAt : Option String}

/-- The entries that a close has searched: its record and nothing after it carries the
ticket. -/
theorem split_of_found
    (found : OrderStateStore.latestFor ticket watch.store.orders.entries =
      some (intentId, record)) :
    carries ticket.text (intentId, record) = true ∧
      watch.store.orders.get intentId = some record ∧
      ∃ before after, watch.store.orders.entries = before ++ (intentId, record) :: after ∧
        ∀ other ∈ after, carries ticket.text other = false := by
  rw [latestFor_eq] at found
  have member := mem_of_lastWhere found
  rw [Dict.mem_entries_iff] at member
  rcases lastWhere_eq_some_iff.mp found with ⟨carried, before, after, split, later⟩
  exact ⟨carried, member, before, after, split, later⟩

/-- The record that a close writes is no position any more. -/
theorem holdsPosition_closedRecord (intentId : String) (ticket : Val) (stamp reason : String) :
    holdsPosition (closedRecord intentId ticket stamp reason) = false := by
  have state : (closedRecord intentId ticket stamp reason).get "state" =
      some (.str OrderState.closed.value) := rfl
  rw [holdsPosition, state]
  decide

/-- A close that finds the ticket closed leaves the store as it was. -/
theorem markClosed_of_findsClosed (settled : FindsClosed watch.store ticket intentId record) :
    (watch.store.markClosed ticket reason closedAt).2 = watch.store := by
  apply OrderStateStore.markClosed_of_not
  apply Bool.eq_false_iff.mpr
  intro closed
  rcases findsOpen_of_markClosed reason closedAt closed with ⟨other, found, opens⟩
  cases opens.found.symm.trans settled.found
  rcases opens.allowed with ⟨current, known, allowed⟩
  rw [settled.closed, OrderState.ofValue?_value] at known
  cases known
  cases allowed

/-- After a close, or when it finds the ticket closed, a position is listed for the ticket
exactly when the record carries no ticket and one was listed before. -/
theorem unlisted_iff :
    (((watch.store.markClosed ticket reason closedAt).1 = true ∨
        ∃ intentId record, FindsClosed watch.store ticket intentId record) →
      ¬ListsOpen (watch.store.markClosed ticket reason closedAt).2.orders ticket.text) ↔
    ∀ intentId record,
      (FindsOpen watch.store ticket intentId record ∧ record.get "ticket" = some .none ∨
        FindsClosed watch.store ticket intentId record ∧ recordTicket record = .none) →
      ¬ListsOpen watch.store.orders ticket.text := by
  constructor
  · intro unlisted intentId record found
    rcases found with ⟨opens, without⟩ | ⟨settled, without⟩
    · rcases markClosed_of_findsOpen reason closedAt opens with ⟨stamp, closed, orders⟩
      have after := unlisted (.inl closed)
      rw [orders, without] at after
      have untracked : recordTicket record = .none := by
        rw [recordTicket, without]
        rfl
      rwa [listsOpen_set_of_untracked (split_of_found opens.found).2.1 untracked rfl] at after
    · have after := unlisted (.inr ⟨intentId, record, settled⟩)
      rwa [markClosed_of_findsClosed settled] at after
  · intro clear found
    rcases found with closed | ⟨intentId, record, settled⟩
    · rcases findsOpen_of_markClosed reason closedAt closed with ⟨intentId, record, opens⟩
      rcases markClosed_of_findsOpen reason closedAt opens with ⟨stamp, -, orders⟩
      rcases split_of_found opens.found with ⟨carried, held, before, after, split, later⟩
      rw [orders]
      by_cases without : record.get "ticket" = some .none
      · have untracked : recordTicket record = .none := by
          rw [recordTicket, without]
          rfl
        rw [without, listsOpen_set_of_untracked held untracked rfl]
        exact clear intentId record (.inl ⟨opens, without⟩)
      · apply not_listsOpen_of_closed (entries_set_of_split split _) later _ _
          (holdsPosition_closedRecord _ _ _ _)
        · change decide (((record.get "ticket").getD ticket).text = ticket.text) = true
          cases present : record.get "ticket" with
          | none => simp
          | some given => simpa [carries, recordTicket, present] using carried
        · change decide ((record.get "ticket").getD ticket ≠ .none) = true
          cases present : record.get "ticket" with
          | none => simp [opens.given]
          | some given =>
              rw [present, Option.some.injEq] at without
              simp [without]
    · rw [markClosed_of_findsClosed settled]
      rcases split_of_found settled.found with ⟨carried, held, before, after, split, later⟩
      by_cases without : recordTicket record = .none
      · exact clear intentId record (.inr ⟨settled, without⟩)
      · apply not_listsOpen_of_closed split later carried
        · simp [tracked, without]
        · have state : holdsPosition record = positionStates.contains (recordState record) := rfl
          rw [state, settled.closed]
          decide

/-- An intent whose record carries the ticket is the one that a close finds, or was first
written before it. -/
theorem firstBefore_of_carries (mirror : Ordered watch.store.orders watch.log)
    (found : OrderStateStore.latestFor ticket watch.store.orders.entries =
      some (intentId, record)) {other : String} {kept : Record}
    (held : watch.store.orders.get other = some kept)
    (carried : carries ticket.text (other, kept) = true) :
    other = intentId ∨ FirstBefore watch.log other intentId := by
  rcases split_of_found found with ⟨-, -, before, after, split, later⟩
  have member := (Dict.mem_entries_iff _ _ _).mpr held
  have ordered := mirror.ordered
  rw [Dict.keys, split, List.map_append, List.map_cons] at ordered
  rw [split] at member
  rcases List.mem_append.mp member with earlier | rest
  · right
    exact (List.pairwise_append.mp ordered).2.2 other (List.mem_map_of_mem earlier) intentId
      List.mem_cons_self
  · rcases List.mem_cons.mp rest with same | afterwards
    · exact .inl (congrArg Prod.fst same)
    · rw [later _ afterwards] at carried
      cases carried

/-- A close is for the intent whose record was appended last exactly when this intent
carries the ticket still and none that was first written later does. -/
theorem latest_iff (mirror : Ordered watch.store.orders watch.log) :
    ((watch.store.markClosed ticket reason closedAt).1 = true →
      (watch.step (.markClosed ticket reason closedAt)).log.getLast?.map Prod.fst =
        (lastWhere (carries ticket.text) watch.log).map Prod.fst) ↔
    ∀ intentId record, FindsOpen watch.store ticket intentId record →
      ∀ last, lastWhere (carries ticket.text) watch.log = some last →
        (∃ kept, watch.store.orders.get last.1 = some kept ∧
            carries ticket.text (last.1, kept) = true) ∧
          ∀ other kept, watch.store.orders.get other = some kept →
            carries ticket.text (other, kept) = true → ¬FirstBefore watch.log last.1 other := by
  have written {intentId : String} {record : Record}
      (opens : FindsOpen watch.store ticket intentId record) :
      (watch.step (.markClosed ticket reason closedAt)).log.getLast?.map Prod.fst =
        some intentId := by
    rcases markClosed_of_findsOpen reason closedAt opens with ⟨stamp, closed, -⟩
    simp [step, closed, opens.found]
  constructor
  · intro closes intentId record opens last appended
    rcases markClosed_of_findsOpen reason closedAt opens with ⟨stamp, closed, -⟩
    have same := closes closed
    rw [written opens, appended] at same
    have chosen : intentId = last.1 := Option.some.inj same
    subst chosen
    rcases split_of_found opens.found with ⟨carried, held, -⟩
    refine ⟨⟨record, held, carried⟩, ?_⟩
    intro other kept present carries later
    rcases firstBefore_of_carries mirror opens.found present carries with same | before
    · exact (same ▸ later).asymm (same ▸ later)
    · exact before.asymm later
  · intro orderly closed
    rcases findsOpen_of_markClosed reason closedAt closed with ⟨intentId, record, opens⟩
    rcases split_of_found opens.found with ⟨carried, held, -⟩
    rcases exists_lastWhere (mirror.logged intentId record held) carried with ⟨last, appended⟩
    rcases orderly intentId record opens last appended with ⟨⟨kept, present, carries⟩, none⟩
    rw [written opens, appended]
    rcases firstBefore_of_carries mirror opens.found present carries with same | before
    · exact congrArg some same.symm
    · exact absurd before (none intentId record held carried)

theorem closesLatest_iff (mirror : Ordered watch.store.orders watch.log) (call : LedgerCall) :
    watch.ClosesLatest call ↔ watch.FindsLatest call := by
  cases call with
  | setOrder intentId state extra => exact Iff.rfl
  | markClosed ticket reason closedAt =>
      constructor
      · intro closes
        exact ⟨(latest_iff mirror).mp closes.latest, unlisted_iff.mp closes.unlisted⟩
      · intro orderly
        exact ⟨(latest_iff mirror).mpr orderly.latest, unlisted_iff.mpr orderly.tracked⟩

/-- A ticket that only one intent has carried is closed for this intent. -/
theorem orderly_of_single (mirror : Ordered watch.store.orders watch.log)
    (proper : ticket.text ≠ "None")
    (single : ∀ entry ∈ watch.log, ∀ other ∈ watch.log, carries ticket.text entry = true →
      carries ticket.text other = true → entry.1 = other.1) : watch.Orderly ticket := by
  constructor
  · intro intentId record opens last appended
    rcases split_of_found opens.found with ⟨carried, held, -⟩
    have logged := mirror.logged intentId record held
    have lastCarried := (lastWhere_eq_some_iff.mp appended).1
    have chosen : intentId = last.1 :=
      single _ logged _ (mem_of_lastWhere appended) carried lastCarried
    subst chosen
    refine ⟨⟨record, held, carried⟩, ?_⟩
    intro other kept present carries later
    have same : other = last.1 :=
      single _ (mirror.logged other kept present) (last.1, record) logged carries carried
    exact (same ▸ later).asymm (same ▸ later)
  · intro intentId record found listed
    have untracked : recordTicket record = .none ∧ OrderStateStore.latestFor ticket
        watch.store.orders.entries = some (intentId, record) := by
      rcases found with ⟨opens, without⟩ | ⟨settled, without⟩
      · rw [recordTicket, without]
        exact ⟨rfl, opens.found⟩
      · exact ⟨without, settled.found⟩
    have carried := (split_of_found untracked.2).1
    rw [carries, untracked.1] at carried
    exact proper (of_decide_eq_true carried).symm

/-- Every call keeps the cache in the order of the log. -/
theorem ordered_step (mirror : Ordered watch.store.orders watch.log) (call : LedgerCall) :
    Ordered (watch.step call).store.orders (watch.step call).log := by
  cases call with
  | setOrder intentId state extra =>
      have orders : (watch.store.setOrder intentId state extra).2.orders =
          watch.store.orders.set intentId (watch.store.entryFor intentId extra state) :=
        OrderStateStore.appendLine_orders _ _
      simp only [step, orders]
      exact mirror.write _ _
  | markClosed ticket reason closedAt =>
      cases closed : (watch.store.markClosed ticket reason closedAt).1 with
      | false =>
          have same := OrderStateStore.markClosed_of_not closed
          simpa [step, closed, same] using mirror
      | true =>
          rcases findsOpen_of_markClosed reason closedAt closed with ⟨intentId, record, opens⟩
          rcases markClosed_of_findsOpen reason closedAt opens with ⟨stamp, -, orders⟩
          simpa [step, closed, opens.found, orders] using mirror.write intentId _

/-- Throughout every run of a store, each close closes the intent whose record of the
ticket was appended last and leaves no position listed for it exactly when each finds this
intent as the last one. -/
theorem run_closesLatest_iff (file : OrderFile) (interrupted : Option Nat)
    (calls : List LedgerCall) :
    Run.Every step ClosesLatest (start file interrupted) calls ↔
      Run.Every step FindsLatest (start file interrupted) calls := by
  apply Run.every_iff_of_invariant fun watch => Ordered watch.store.orders watch.log
  · intro watch call mirror
    exact ordered_step mirror call
  · intro watch call mirror
    exact closesLatest_iff mirror call
  · exact Ordered.start file interrupted

/-- A file without lines, every write to which succeeds. -/
def emptyFile : OrderFile :=
  ⟨[], 0, fun _ => false, fun _ => ""⟩

/-- Two intents of one ticket, of which the first one is written again before the ticket is
closed. -/
def interleaved : List LedgerCall :=
  [.setOrder "first" "position_confirmed" [("ticket", .int 7)],
    .setOrder "second" "filled" [("ticket", .int 7)],
    .setOrder "first" "position_confirmed" [("volume", .int 1)],
    .markClosed (.int 7) "broker_position_disappeared" none]

/-- The close is for the second intent, although the record of the first one was appended
last. -/
theorem interleaved_closes_earlier :
    ¬Run.Every step ClosesLatest (start emptyFile none) interleaved := by
  rintro ⟨-, -, -, closes, -⟩
  have same := closes.latest (by decide +kernel)
  revert same
  decide +kernel

end LedgerWatch

end EaBot.Execution
