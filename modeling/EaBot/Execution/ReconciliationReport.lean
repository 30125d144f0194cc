import EaBot.Execution.Reconciliation
import Mathlib.Data.List.Perm.Basic

/-!
# What a reconciliation reports

A report is clean exactly when both sides hold the same positions, with the same fields
up to the tolerances, and the same orders.  Of several entries of one ticket the last one
counts.

The counts of a report are put together from its lists.  The list of the tickets that are
missing internally holds tickets of the broker, so that the count under the name of one
side is the size of the other side's book.
-/

namespace EaBot.Execution

open EaBot.Foundation

/-- An entry of the flat list of mismatches. -/
structure MismatchEntry where
  kind : String
  ticket : Int
  symbol : Option String
  detail : String
deriving DecidableEq

namespace FieldMismatch

/-- The values of one side in a text: a single value as it prints, several ones as a
tuple, where texts stand in quotes. -/
def shown (quoted : String → String) : List Val → String
  | [value] => value.text
  | values => "(" ++ ", ".intercalate (values.map fun
      | .str value => quoted value
      | value => value.text) ++ ")"

/-- The text of a difference in a field. -/
def detail (quoted : String → String) (mismatch : FieldMismatch) : String :=
  mismatch.field ++ ": internal=" ++ shown quoted mismatch.internal ++ " broker=" ++
    shown quoted mismatch.broker

end FieldMismatch

namespace ReconciliationReport

/-- The number of mismatches of all kinds. -/
def totalMismatches (report : ReconciliationReport) : Nat :=
  report.missingInBroker.length + report.missingInternal.length +
    report.volumeMismatches.length + report.sltpMismatches.length +
    report.symbolMismatches.length + report.magicMismatches.length +
    report.orphanOrders.length

/-- The kinds of mismatches that are tickets, with their texts. -/
def ticketKinds (report : ReconciliationReport) : List (String × String × List Int) :=
  [("missing_in_broker", "position present internally but missing at broker",
      report.missingInBroker),
    ("missing_internal", "position present at broker but missing internally",
      report.missingInternal),
    ("orphan_orders", "orphan broker order", report.orphanOrders)]

/-- The kinds of mismatches in fields. -/
def fieldKinds (report : ReconciliationReport) : List (String × List FieldMismatch) :=
  [("volume_mismatches", report.volumeMismatches), ("sltp_mismatches", report.sltpMismatches),
    ("symbol_mismatches", report.symbolMismatches), ("magic_mismatches", report.magicMismatches)]

/-- Every mismatch in one list. -/
def mismatchList (quoted : String → String) (report : ReconciliationReport) :
    List MismatchEntry :=
  (report.ticketKinds.flatMap fun (kind, detail, tickets) =>
      tickets.map fun ticket => ⟨kind, ticket, none, detail⟩) ++
    report.fieldKinds.flatMap fun (kind, mismatches) =>
      mismatches.map fun mismatch => ⟨kind, mismatch.ticket, none, mismatch.detail quoted⟩

/-- What a report is sent out as. -/
structure Sent where
  report : ReconciliationReport
  totalMismatches : Nat
  critical : Bool
  internalCount : Nat
  brokerCount : Nat
  mismatches : List MismatchEntry

/-- The report as it is sent out. -/
def toDict (quoted : String → String) (report : ReconciliationReport) : Sent where
  report := report
  totalMismatches := report.totalMismatches
  critical := report.hasCritical
  internalCount := report.matched.length + report.missingInternal.length
  brokerCount := report.matched.length + report.missingInBroker.length
  mismatches := report.mismatchList quoted

variable (report : ReconciliationReport)

/-- The flat list holds every mismatch once. -/
theorem length_mismatchList (quoted : String → String) :
    (report.mismatchList quoted).length = report.totalMismatches := by
  simp only [mismatchList, ticketKinds, fieldKinds, List.length_append, List.length_flatMap,
    List.length_map, List.map_cons, List.map_nil, List.sum_cons, List.sum_nil, totalMismatches]
  omega

/-- A report without a critical mismatch has no mismatch at all. -/
theorem hasCritical_eq_false_iff : report.hasCritical = false ↔
    report.missingInBroker = [] ∧ report.missingInternal = [] ∧ report.volumeMismatches = [] ∧
      report.sltpMismatches = [] ∧ report.symbolMismatches = [] ∧ report.magicMismatches = [] ∧
      report.orphanOrders = [] := by
  simp [hasCritical, and_assoc]

theorem totalMismatches_eq_zero_iff :
    report.totalMismatches = 0 ↔ report.hasCritical = false := by
  rw [hasCritical_eq_false_iff]
  simp only [totalMismatches, Nat.add_eq_zero_iff, List.length_eq_zero_iff, and_assoc]

end ReconciliationReport

namespace Reconciler

/-! ## The entry that counts -/

/-- The last entry of a ticket. -/
def lastOf (items : List Record) (ticket : Int) : Option Record :=
  (items.filter fun item => ticketOf item = some ticket).getLast?

/-- The number of distinct usable tickets. -/
def distinctTickets (items : List Record) : Nat :=
  (items.filterMap ticketOf).dedup.length

theorem lastOf_concat (items : List Record) (item : Record) (ticket : Int) :
    lastOf (items ++ [item]) ticket =
      if ticketOf item = some ticket then some item else lastOf items ticket := by
  by_cases same : ticketOf item = some ticket
  · simp [lastOf, List.filter_append, same]
  · simp [lastOf, List.filter_append, same]

theorem indexByTicket_concat (items : List Record) (item : Record) :
    indexByTicket (items ++ [item]) =
      match ticketOf item with
      | some ticket => (indexByTicket items).set ticket item
      | none => indexByTicket items := by
  cases known : ticketOf item with
  | none => simp [indexByTicket, List.filterMap_append, known]
  | some ticket => simp [indexByTicket, List.filterMap_append, known]

/-- The index holds the last entry of every ticket. -/
theorem get_indexByTicket (items : List Record) (ticket : Int) :
    (indexByTicket items).get ticket = lastOf items ticket := by
  induction items using List.reverseRecOn with
  | nil => rfl
  | append_singleton items item ih =>
      rw [lastOf_concat, indexByTicket_concat]
      cases known : ticketOf item with
      | none => simpa using ih
      | some other =>
          rw [Dict.get_set, ih]
          simp only [Option.some.injEq, eq_comm]

theorem mem_keys_iff_lastOf (items : List Record) (ticket : Int) :
    ticket ∈ (indexByTicket items).keys ↔ (lastOf items ticket).isSome = true := by
  rw [← get_indexByTicket, Option.isSome_iff_ne_none, ne_eq, Dict.get_eq_none_iff, not_not]

/-! ## Fields that agree -/

/-- The volume of an item as a number. -/
def volumeOf (item : Record) : Except String ℚ :=
  ((fieldOr item "volume" (fieldOr item "quantity" (.int 0))).orElse (.int 0)).toFloat

/-- A level of an item as a number. -/
def levelOf (item : Record) (name : String) : Except String ℚ :=
  ((fieldOr item name (.int 0)).orElse (.int 0)).toFloat

/-- The symbol of an item in upper case. -/
def symbolOf (item : Record) : String :=
  Text.upper (fieldOr item "symbol" (.str "")).text

/-- The magic number of an item. -/
def magicOf (item : Record) : Except String Int :=
  ((fieldOr item "magic" (.int 0)).orElse (.int 0)).toInt

/-- Two readings that succeed with numbers no further apart than a tolerance. -/
def Near (tolerance : ℚ) (first second : Except String ℚ) : Prop :=
  ∃ value other, first = .ok value ∧ second = .ok other ∧ |value - other| ≤ tolerance

/-- Two entries of one ticket agree. -/
structure Alike (tolerance : ℚ) (internal broker : Record) : Prop where
  volume : Near tolerance (volumeOf internal) (volumeOf broker)
  sl : Near priceTolerance (levelOf internal "sl") (levelOf broker "sl")
  tp : Near priceTolerance (levelOf internal "tp") (levelOf broker "tp")
  symbol : symbolOf internal = symbolOf broker
  magic : ∃ number, magicOf internal = .ok number ∧ magicOf broker = .ok number

theorem mismatch_eq_nil_iff (found : Bool) (ticket : Int) (field : String)
    (internal broker : List Val) :
    mismatch found ticket field internal broker = [] ↔ found = false := by
  cases found <;> simp [mismatch]

/-- A comparison of two values that succeeds tells whether they are near. -/
theorem differs_eq_false_iff {tolerance : ℚ} {first second : Val} {found : Bool}
    (compared : differs tolerance first second = .ok found) :
    found = false ↔
      Near tolerance (first.orElse (.int 0)).toFloat (second.orElse (.int 0)).toFloat := by
  rcases of_bind_eq_ok compared with ⟨value, left, compared⟩
  rcases of_bind_eq_ok compared with ⟨other, right, compared⟩
  cases compared
  rw [left, right]
  constructor
  · intro near
    exact ⟨value, other, rfl, rfl, not_lt.mp (of_decide_eq_false near)⟩
  · rintro ⟨value', other', same, same', near⟩
    cases same
    cases same'
    exact decide_eq_false (not_lt.mpr near)

/-- A comparison of two entries that succeeds finds nothing exactly when they agree. -/
theorem compareFields_clean_iff {tolerance : ℚ} {internal broker : Record} {ticket : Int}
    {found : FieldMismatches}
    (compared : compareFields tolerance internal broker ticket = .ok found) :
    (found.volume = [] ∧ found.sltp = [] ∧ found.symbol = [] ∧ found.magic = []) ↔
      Alike tolerance internal broker := by
  rcases of_bind_eq_ok compared with ⟨volumeDiffers, volumes, compared⟩
  rcases of_bind_eq_ok compared with ⟨slDiffers, stops, compared⟩
  have volumesNear := differs_eq_false_iff volumes
  have stopsNear := differs_eq_false_iff stops
  cases slDiffers with
  | true =>
      rw [if_pos rfl] at compared
      rcases of_bind_eq_ok compared with ⟨_, ⟨⟩, compared⟩
      rcases of_bind_eq_ok compared with ⟨internalNumber, own, compared⟩
      rcases of_bind_eq_ok compared with ⟨brokerNumber, reported, compared⟩
      cases compared
      constructor
      · rintro ⟨-, ⟨⟩, -⟩
      · intro alike
        cases stopsNear.mpr alike.sl
  | false =>
      rw [if_neg Bool.false_ne_true] at compared
      rcases of_bind_eq_ok compared with ⟨levelsDiffer, levels, compared⟩
      rcases of_bind_eq_ok compared with ⟨internalNumber, own, compared⟩
      rcases of_bind_eq_ok compared with ⟨brokerNumber, reported, compared⟩
      cases compared
      have targetsNear := differs_eq_false_iff levels
      simp only [mismatch_eq_nil_iff, decide_eq_false_iff_not, ne_eq, not_not]
      constructor
      · rintro ⟨sameVolume, sameLevels, symbols, numbers⟩
        exact ⟨volumesNear.mp sameVolume, stopsNear.mp rfl, targetsNear.mp sameLevels, symbols,
          internalNumber, own, numbers ▸ reported⟩
      · intro alike
        rcases alike.magic with ⟨number, left, right⟩
        refine ⟨volumesNear.mpr alike.volume, targetsNear.mpr alike.tp, alike.symbol, ?_⟩
        cases own.symm.trans left
        cases reported.symm.trans right
        rfl

/-- The same for the entries of several tickets. -/
theorem compareMatched_clean_iff {tolerance : ℚ} {internal broker : Dict Int Record}
    {tickets : List Int} {found : FieldMismatches}
    (compared : compareMatched tolerance internal broker tickets = .ok found) :
    (found.volume = [] ∧ found.sltp = [] ∧ found.symbol = [] ∧ found.magic = []) ↔
      ∀ ticket ∈ tickets, Alike tolerance ((internal.get ticket).getD Dict.empty)
        ((broker.get ticket).getD Dict.empty) := by
  induction tickets generalizing found with
  | nil =>
      cases compared
      simp
  | cons ticket rest ih =>
      rcases of_bind_eq_ok compared with ⟨first, now, compared⟩
      rcases of_bind_eq_ok compared with ⟨later, onwards, compared⟩
      cases compared
      rw [List.forall_mem_cons, ← compareFields_clean_iff now, ← ih onwards]
      simp only [List.append_eq_nil_iff]
      tauto

/-! ## The books of the two sides -/

/-- The report of two indexes of positions, two indexes of orders and the mismatches in the
fields. -/
def reportOf (internal broker internalOrders brokerOrders : Dict Int Record)
    (fields : FieldMismatches) : ReconciliationReport where
  matched := sharedKeys internal broker
  missingInBroker := sortedSet (ownKeys internal broker ++ ownKeys internalOrders brokerOrders)
  missingInternal := ownKeys broker internal
  volumeMismatches := fields.volume
  sltpMismatches := fields.sltp
  symbolMismatches := fields.symbol
  magicMismatches := fields.magic
  matchedOrders := sharedKeys internalOrders brokerOrders
  orphanOrders := ownKeys brokerOrders internalOrders

/-- A comparison succeeds when the fields of the shared positions can be read. -/
theorem compare_eq_ok_iff (tolerance : ℚ)
    (internalPositions brokerPositions internalOrders brokerOrders : List Record)
    (report : ReconciliationReport) :
    compare tolerance internalPositions brokerPositions internalOrders brokerOrders = .ok report ↔
      ∃ fields, compareMatched tolerance (indexByTicket internalPositions)
          (indexByTicket brokerPositions) (sharedKeys (indexByTicket internalPositions)
            (indexByTicket brokerPositions)) = .ok fields ∧
        report = reportOf (indexByTicket internalPositions) (indexByTicket brokerPositions)
          (indexByTicket internalOrders) (indexByTicket brokerOrders) fields := by
  constructor
  · intro compared
    rcases of_bind_eq_ok compared with ⟨fields, read, compared⟩
    cases compared
    exact ⟨fields, read, rfl⟩
  · rintro ⟨fields, read, rfl⟩
    unfold compare
    dsimp only
    rw [read]
    rfl

/-- The tickets that each side has alone coincide with none when both have the same. -/
theorem ownKeys_eq_nil_iff_forall (first second : List Record) :
    ownKeys (indexByTicket first) (indexByTicket second) = [] ↔
      ∀ ticket, (lastOf first ticket).isSome = true → (lastOf second ticket).isSome = true := by
  simp only [List.eq_nil_iff_forall_not_mem, mem_ownKeys, mem_keys_iff_lastOf, not_and, not_not]

/-- Both sides have the same positions and orders, and the entries of each position agree. -/
structure Consistent (tolerance : ℚ)
    (internalPositions brokerPositions internalOrders brokerOrders : List Record) : Prop where
  positions : ∀ ticket,
    (lastOf internalPositions ticket).isSome = (lastOf brokerPositions ticket).isSome
  fields : ∀ ticket internal broker, lastOf internalPositions ticket = some internal →
    lastOf brokerPositions ticket = some broker → Alike tolerance internal broker
  orders : ∀ ticket, (lastOf internalOrders ticket).isSome = (lastOf brokerOrders ticket).isSome

/-- The tickets of the two sides fall into three lists without repetition. -/
structure Partitions (first second : List Record) (both onlyFirst onlySecond : List Int) :
    Prop where
  nodup : (both ++ onlyFirst ++ onlySecond).Nodup
  covers : ∀ ticket, ticket ∈ both ++ onlyFirst ++ onlySecond ↔
    (lastOf first ticket).isSome = true ∨ (lastOf second ticket).isSome = true

theorem nodup_sortedSet (values : List Int) : (sortedSet values).Nodup :=
  (List.perm_insertionSort _ _).nodup_iff.mpr (List.nodup_dedup values)

theorem sortedSet_idem (values : List Int) : sortedSet (sortedSet values) = sortedSet values := by
  rw [sortedSet, (nodup_sortedSet values).dedup]
  exact (List.pairwise_insertionSort _ _).insertionSort_eq

/-- What both sides share and what each has alone make up all of it. -/
theorem partitions_keys (first second : List Record) :
    Partitions first second (sharedKeys (indexByTicket first) (indexByTicket second))
      (ownKeys (indexByTicket first) (indexByTicket second))
      (ownKeys (indexByTicket second) (indexByTicket first)) where
  nodup := by
    rw [List.nodup_append', List.nodup_append']
    refine ⟨⟨nodup_sortedSet _, nodup_sortedSet _, ?_⟩, nodup_sortedSet _, ?_⟩
    · intro ticket shared own
      exact ((mem_ownKeys _ _ _).mp own).2 ((mem_sharedKeys _ _ _).mp shared).2
    · intro ticket before own
      rcases (mem_ownKeys _ _ _).mp own with ⟨inSecond, notInFirst⟩
      rcases List.mem_append.mp before with shared | alone
      · exact notInFirst ((mem_sharedKeys _ _ _).mp shared).1
      · exact notInFirst ((mem_ownKeys _ _ _).mp alone).1
  covers := by
    intro ticket
    simp only [List.mem_append, mem_sharedKeys, mem_ownKeys, mem_keys_iff_lastOf]
    tauto

theorem missingInBroker_of_no_orders (internal broker : Dict Int Record)
    (fields : FieldMismatches) :
    (reportOf internal broker (indexByTicket []) (indexByTicket []) fields).missingInBroker =
      ownKeys internal broker := by
  change sortedSet (ownKeys internal broker ++ ownKeys (indexByTicket []) (indexByTicket [])) = _
  rw [ownKeys_nil, List.append_nil, ownKeys, sortedSet_idem]

/-- A report without a critical mismatch means that both sides are consistent. -/
theorem hasCritical_eq_false_iff_consistent {tolerance : ℚ}
    {internalPositions brokerPositions internalOrders brokerOrders : List Record}
    {report : ReconciliationReport}
    (compared : compare tolerance internalPositions brokerPositions internalOrders
      brokerOrders = .ok report) :
    report.hasCritical = false ↔
      Consistent tolerance internalPositions brokerPositions internalOrders brokerOrders := by
  rcases (compare_eq_ok_iff _ _ _ _ _ _).mp compared with ⟨fields, read, rfl⟩
  have agree := compareMatched_clean_iff read
  rw [ReconciliationReport.hasCritical_eq_false_iff]
  dsimp only [reportOf]
  rw [sortedSet_eq_nil_iff, List.append_eq_nil_iff, ownKeys_eq_nil_iff_forall,
    ownKeys_eq_nil_iff_forall, ownKeys_eq_nil_iff_forall, ownKeys_eq_nil_iff_forall]
  constructor
  · rintro ⟨⟨atBroker, ordersAtBroker⟩, atService, volumes, levels, symbols, magics, orders⟩
    constructor
    · intro ticket
      exact Bool.eq_iff_iff.mpr ⟨atBroker ticket, atService ticket⟩
    · intro ticket internal broker own reported
      have member : ticket ∈ sharedKeys (indexByTicket internalPositions)
          (indexByTicket brokerPositions) := by
        simp [mem_sharedKeys, mem_keys_iff_lastOf, own, reported]
      have alike := agree.mp ⟨volumes, levels, symbols, magics⟩ ticket member
      simpa [get_indexByTicket, own, reported] using alike
    · intro ticket
      exact Bool.eq_iff_iff.mpr ⟨ordersAtBroker ticket, orders ticket⟩
  · intro consistent
    have clean := agree.mpr (by
      intro ticket member
      rw [mem_sharedKeys, mem_keys_iff_lastOf, mem_keys_iff_lastOf, Option.isSome_iff_exists,
        Option.isSome_iff_exists] at member
      rcases member with ⟨⟨internal, own⟩, broker, reported⟩
      simpa [get_indexByTicket, own, reported] using
        consistent.fields ticket internal broker own reported)
    rcases clean with ⟨volumes, levels, symbols, magics⟩
    refine ⟨⟨?_, ?_⟩, ?_, volumes, levels, symbols, magics, ?_⟩
    · intro ticket held
      rwa [← consistent.positions ticket]
    · intro ticket held
      rwa [← consistent.orders ticket]
    · intro ticket held
      rwa [consistent.positions ticket]
    · intro ticket held
      rwa [consistent.orders ticket]

/-- A position or an order of one lot. -/
def lot (ticket : Int) (symbol : String) : Record :=
  Dict.empty.update [("ticket", .int ticket), ("volume", .int 1), ("symbol", .str symbol)]

theorem length_distinct (first : List Record) (tickets : List Int) (nodup : tickets.Nodup)
    (covers : ∀ ticket, ticket ∈ tickets ↔ ticket ∈ (indexByTicket first).keys) :
    tickets.length = distinctTickets first := by
  apply List.Perm.length_eq
  apply (List.perm_ext_iff_of_nodup nodup (List.nodup_dedup _)).mpr
  intro ticket
  rw [covers, mem_keys_indexByTicket, List.mem_dedup, List.mem_filterMap]

/-- The tickets of a side are those that it shares and those that it has alone. -/
theorem length_shared_add_own (first second : List Record) :
    (sharedKeys (indexByTicket first) (indexByTicket second)).length +
        (ownKeys (indexByTicket first) (indexByTicket second)).length = distinctTickets first := by
  rw [← List.length_append]
  apply length_distinct
  · exact (List.nodup_append'.mp (partitions_keys first second).nodup).1
  · intro ticket
    rw [List.mem_append, mem_sharedKeys, mem_ownKeys]
    tauto

theorem length_sharedKeys_comm (first second : List Record) :
    (sharedKeys (indexByTicket first) (indexByTicket second)).length =
      (sharedKeys (indexByTicket second) (indexByTicket first)).length := by
  apply List.Perm.length_eq
  apply (List.perm_ext_iff_of_nodup (nodup_sortedSet _) (nodup_sortedSet _)).mpr
  intro ticket
  exact (mem_sharedKeys _ _ _).trans (and_comm.trans (mem_sharedKeys _ _ _).symm)

/-- The counts of a report on positions are the sizes of the two books the other way
round, so that they are right exactly when the books are of one size. -/
theorem counts_right_iff {tolerance : ℚ} {internalPositions brokerPositions : List Record}
    {report : ReconciliationReport}
    (compared : compare tolerance internalPositions brokerPositions [] [] = .ok report)
    (quoted : String → String) :
    ((report.toDict quoted).internalCount = distinctTickets internalPositions ∧
        (report.toDict quoted).brokerCount = distinctTickets brokerPositions) ↔
      distinctTickets internalPositions = distinctTickets brokerPositions := by
  rcases (compare_eq_ok_iff _ _ _ _ _ _).mp compared with ⟨fields, read, rfl⟩
  have own := length_shared_add_own internalPositions brokerPositions
  have reported := length_shared_add_own brokerPositions internalPositions
  rw [length_sharedKeys_comm] at reported
  simp only [ReconciliationReport.toDict, missingInBroker_of_no_orders]
  dsimp only [reportOf]
  omega

theorem counts_right_iff_lots :
    (((⟨[1], [2], [], [], [], [], [], [], []⟩ : ReconciliationReport).toDict id).internalCount =
          distinctTickets [lot 1 "eurusd", lot 2 "XAUUSD"] ∧
        ((⟨[1], [2], [], [], [], [], [], [], []⟩ : ReconciliationReport).toDict id).brokerCount =
          distinctTickets [lot 1 "EURUSD"]) ↔
      distinctTickets [lot 1 "eurusd", lot 2 "XAUUSD"] = distinctTickets [lot 1 "EURUSD"] :=
  counts_right_iff (by decide +kernel : compare volumeTolerance _ _ [] [] = _) id

/-- The service believes in one position, the broker reports none, and the report counts no
internal and one reported position. -/
theorem counts_swapped :
    ∃ report, compare volumeTolerance [lot 1 "EURUSD"] [] [] [] = .ok report ∧
      (report.toDict id).internalCount = 0 ∧ distinctTickets [lot 1 "EURUSD"] = 1 ∧
      (report.toDict id).brokerCount = 1 ∧ distinctTickets [] = 0 :=
  ⟨⟨[], [1], [], [], [], [], [], [], []⟩, by decide +kernel⟩

end Reconciler

end EaBot.Execution
