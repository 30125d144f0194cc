import EaBot.Foundation.Value
import Mathlib.Data.List.Dedup
import Mathlib.Data.List.Sort

/-!
# The reconciler

The reconciler compares what the service believes with what the broker reports.
Both sides are indexed by ticket, the last entry of a ticket being the one that
counts, and every difference ends up in a report whose lists are sorted.  Any
mismatch at all is critical.
-/

namespace EaBot.Execution

open EaBot.Foundation

/-- A difference in one field of a ticket, with the values on both sides. -/
structure FieldMismatch where
  ticket : Int
  field : String
  internal : List Val
  broker : List Val
deriving DecidableEq

/-- The result of a comparison. -/
structure ReconciliationReport where
  matched : List Int
  missingInBroker : List Int
  missingInternal : List Int
  volumeMismatches : List FieldMismatch
  sltpMismatches : List FieldMismatch
  symbolMismatches : List FieldMismatch
  magicMismatches : List FieldMismatch
  matchedOrders : List Int
  orphanOrders : List Int
deriving DecidableEq

namespace ReconciliationReport

/-- Whether new orders have to be blocked. -/
def hasCritical (report : ReconciliationReport) : Bool :=
  !report.missingInBroker.isEmpty || !report.missingInternal.isEmpty ||
    !report.volumeMismatches.isEmpty || !report.sltpMismatches.isEmpty ||
    !report.symbolMismatches.isEmpty || !report.magicMismatches.isEmpty ||
    !report.orphanOrders.isEmpty

end ReconciliationReport

namespace Reconciler

/-- The tolerance in volumes. -/
def volumeTolerance : ℚ := 1 / 10 ^ 6

/-- The tolerance in prices. -/
def priceTolerance : ℚ := 1 / 10 ^ 9

/-- A field of an item, with a default for an absent one. -/
def fieldOr (item : Record) (name : String) (default : Val) : Val :=
  (item.get name).getD default

theorem fieldOr_of_mem {fields : List (String × Val)} {name : String} {value : Val}
    (named : (name, value) ∈ fields) (once : ∀ other, (name, other) ∈ fields → other = value)
    (default : Val) : fieldOr (Dict.empty.update fields) name default = value := by
  rw [fieldOr, Dict.get_update_of_mem _ named once, Option.getD_some]

theorem fieldOr_of_notMem {fields : List (String × Val)} {name : String}
    (absent : name ∉ fields.map Prod.fst) (default : Val) :
    fieldOr (Dict.empty.update fields) name default = default := by
  rw [fieldOr, Dict.get_update_of_notMem _ _ _ absent]
  rfl

/-- The usable ticket of an item. -/
def ticketOf (item : Record) : Option Int :=
  let ticket := fieldOr item "ticket" .none
  let value := if ticket = .none then fieldOr item "id" .none else ticket
  if value = .none then none else value.toInt.toOption

/-- The items with a usable ticket, by that ticket. -/
def indexByTicket (items : List Record) : Dict Int Record :=
  Dict.empty.update (items.filterMap fun item => (ticketOf item).map fun ticket => (ticket, item))

/-- The elements in ascending order, each once. -/
def sortedSet (values : List Int) : List Int :=
  values.dedup.insertionSort (· ≤ ·)

/-- Whether two values differ by more than a tolerance; a value that does not count as
true is zero. -/
def differs (tolerance : ℚ) (first second : Val) : Except String Bool := do
  let first ← (first.orElse (.int 0)).toFloat
  let second ← (second.orElse (.int 0)).toFloat
  return tolerance < |first - second|

/-- The mismatches in the fields of a ticket that both sides have. -/
structure FieldMismatches where
  volume : List FieldMismatch
  sltp : List FieldMismatch
  symbol : List FieldMismatch
  magic : List FieldMismatch

/-- One mismatch or none. -/
def mismatch (found : Bool) (ticket : Int) (field : String) (internal broker : List Val) :
    List FieldMismatch :=
  if found then [⟨ticket, field, internal, broker⟩] else []

/-- Compare the fields of a ticket. -/
def compareFields (tolerance : ℚ) (internal broker : Record) (ticket : Int) :
    Except String FieldMismatches := do
  let internalVolume := fieldOr internal "volume" (fieldOr internal "quantity" (.int 0))
  let brokerVolume := fieldOr broker "volume" (fieldOr broker "quantity" (.int 0))
  let volumeDiffers ← differs tolerance internalVolume brokerVolume
  let internalSl := fieldOr internal "sl" (.int 0)
  let internalTp := fieldOr internal "tp" (.int 0)
  let brokerSl := fieldOr broker "sl" (.int 0)
  let brokerTp := fieldOr broker "tp" (.int 0)
  let slDiffers ← differs priceTolerance internalSl brokerSl
  let levelsDiffer ←
    if slDiffers then pure true else differs priceTolerance internalTp brokerTp
  let internalSymbol := fieldOr internal "symbol" (.str "")
  let brokerSymbol := fieldOr broker "symbol" (.str "")
  let symbolDiffers := Text.upper internalSymbol.text ≠ Text.upper brokerSymbol.text
  let internalMagic := fieldOr internal "magic" (.int 0)
  let brokerMagic := fieldOr broker "magic" (.int 0)
  let internalNumber ← (internalMagic.orElse (.int 0)).toInt
  let brokerNumber ← (brokerMagic.orElse (.int 0)).toInt
  return ⟨mismatch volumeDiffers ticket "volume" [internalVolume] [brokerVolume],
    mismatch levelsDiffer ticket "sl/tp" [internalSl, internalTp] [brokerSl, brokerTp],
    mismatch symbolDiffers ticket "symbol" [internalSymbol] [brokerSymbol],
    mismatch (internalNumber ≠ brokerNumber) ticket "magic" [internalMagic] [brokerMagic]⟩

/-- Compare the fields of every ticket that both sides have. -/
def compareMatched (tolerance : ℚ) (internal broker : Dict Int Record) :
    List Int → Except String FieldMismatches
  | [] => .ok ⟨[], [], [], []⟩
  | ticket :: rest => do
      let found ← compareFields tolerance ((internal.get ticket).getD Dict.empty)
        ((broker.get ticket).getD Dict.empty) ticket
      let later ← compareMatched tolerance internal broker rest
      return ⟨found.volume ++ later.volume, found.sltp ++ later.sltp,
        found.symbol ++ later.symbol, found.magic ++ later.magic⟩

/-- The keys of one index that another one has as well, in ascending order. -/
def sharedKeys (first second : Dict Int Record) : List Int :=
  sortedSet (first.keys.filter second.contains)

/-- The keys of one index that another one lacks, in ascending order. -/
def ownKeys (first second : Dict Int Record) : List Int :=
  sortedSet (first.keys.filter fun ticket => !second.contains ticket)

/-- Compare the positions and the orders of the two sides. -/
def compare (tolerance : ℚ)
    (internalPositions brokerPositions internalOrders brokerOrders : List Record) :
    Except String ReconciliationReport := do
  let internal := indexByTicket internalPositions
  let broker := indexByTicket brokerPositions
  let internalOrders := indexByTicket internalOrders
  let brokerOrders := indexByTicket brokerOrders
  let fields ← compareMatched tolerance internal broker (sharedKeys internal broker)
  return { matched := sharedKeys internal broker
           missingInBroker :=
             sortedSet (ownKeys internal broker ++ ownKeys internalOrders brokerOrders)
           missingInternal := ownKeys broker internal
           volumeMismatches := fields.volume
           sltpMismatches := fields.sltp
           symbolMismatches := fields.symbol
           magicMismatches := fields.magic
           matchedOrders := sharedKeys internalOrders brokerOrders
           orphanOrders := ownKeys brokerOrders internalOrders }

/-! ## What a report lists -/

@[simp]
theorem mem_sortedSet (values : List Int) (value : Int) :
    value ∈ sortedSet values ↔ value ∈ values := by
  rw [sortedSet, List.mem_insertionSort, List.mem_dedup]

theorem mem_ownKeys (first second : Dict Int Record) (ticket : Int) :
    ticket ∈ ownKeys first second ↔ ticket ∈ first.keys ∧ ticket ∉ second.keys := by
  rw [ownKeys, mem_sortedSet, List.mem_filter, Dict.contains, Bool.not_eq_true',
    Option.isSome_eq_false_iff, Option.isNone_iff_eq_none, Dict.get_eq_none_iff]

/-- The tickets that index a list of items. -/
theorem mem_keys_indexByTicket (items : List Record) (ticket : Int) :
    ticket ∈ (indexByTicket items).keys ↔ ∃ item ∈ items, ticketOf item = some ticket := by
  rw [indexByTicket, Dict.mem_keys_update]
  constructor
  · rintro (absent | listed)
    · cases absent
    · obtain ⟨entry, member, same⟩ := List.mem_map.mp listed
      obtain ⟨item, inside, indexed⟩ := List.mem_filterMap.mp member
      obtain ⟨found, known, rfl⟩ := Option.map_eq_some_iff.mp indexed
      exact ⟨item, inside, same ▸ known⟩
  · rintro ⟨item, inside, known⟩
    apply Or.inr
    apply List.mem_map.mpr
    apply Exists.intro (ticket, item)
    constructor
    · apply List.mem_filterMap.mpr
      exact ⟨item, inside, by rw [known]; rfl⟩
    · rfl

/-- A position that the service believes in and the broker does not report is listed by
every report. -/
theorem mem_missingInBroker {tolerance : ℚ}
    {internalPositions brokerPositions internalOrders brokerOrders : List Record}
    {report : ReconciliationReport}
    (compared : compare tolerance internalPositions brokerPositions internalOrders
      brokerOrders = .ok report) {ticket : Int}
    (believed : ∃ item ∈ internalPositions, ticketOf item = some ticket)
    (unreported : ¬ ∃ item ∈ brokerPositions, ticketOf item = some ticket) :
    ticket ∈ report.missingInBroker := by
  unfold compare at compared
  dsimp only at compared
  cases fields : compareMatched tolerance (indexByTicket internalPositions)
      (indexByTicket brokerPositions)
      (sharedKeys (indexByTicket internalPositions) (indexByTicket brokerPositions)) with
  | error raised =>
      rw [fields] at compared
      cases compared
  | ok found =>
      rw [fields] at compared
      cases compared
      rw [← mem_keys_indexByTicket] at believed unreported
      rw [mem_sortedSet, List.mem_append, mem_ownKeys]
      exact Or.inl ⟨believed, unreported⟩

/-! ## Clean comparisons -/

/-- Whether a comparison succeeds without a critical mismatch. -/
def comparesClean (tolerance : ℚ)
    (internalPositions brokerPositions internalOrders brokerOrders : List Record) : Bool :=
  match compare tolerance internalPositions brokerPositions internalOrders brokerOrders with
  | .ok report => !report.hasCritical
  | .error _ => false

theorem sortedSet_eq_nil_iff (values : List Int) : sortedSet values = [] ↔ values = [] := by
  simp only [List.eq_nil_iff_forall_not_mem, mem_sortedSet]

theorem not_mem_indexByTicket_nil (ticket : Int) : ticket ∉ (indexByTicket []).keys := by
  simp [mem_keys_indexByTicket]

theorem mem_sharedKeys (first second : Dict Int Record) (ticket : Int) :
    ticket ∈ sharedKeys first second ↔ ticket ∈ first.keys ∧ ticket ∈ second.keys := by
  rw [sharedKeys, mem_sortedSet, List.mem_filter, Dict.contains, Option.isSome_iff_ne_none, ne_eq,
    Dict.get_eq_none_iff, not_not]

/-- The tickets of a side that the other side has nothing of. -/
theorem ownKeys_eq_nil_iff (items : List Record) :
    ownKeys (indexByTicket items) (indexByTicket []) = [] ↔
      ∀ item ∈ items, ticketOf item = none := by
  simp only [List.eq_nil_iff_forall_not_mem, mem_ownKeys, mem_keys_indexByTicket]
  constructor
  · intro absent item member
    cases known : ticketOf item with
    | none => rfl
    | some ticket => exact absurd ⟨⟨item, member, known⟩, by simp⟩ (absent ticket)
  · rintro unusable ticket ⟨⟨item, member, known⟩, -⟩
    rw [unusable item member] at known
    cases known

theorem ownKeys_nil (index : Dict Int Record) : ownKeys (indexByTicket []) index = [] := by
  apply List.eq_nil_iff_forall_not_mem.mpr
  intro ticket member
  exact not_mem_indexByTicket_nil ticket ((mem_ownKeys _ _ _).mp member).1

/-- With an empty broker side for the positions and an empty internal side for the
orders, the comparison is clean exactly when nothing else has a usable ticket. -/
theorem comparesClean_of_empty (tolerance : ℚ) (internal orders : List Record) :
    comparesClean tolerance internal [] [] orders = true ↔
      (∀ item ∈ internal, ticketOf item = none) ∧ ∀ item ∈ orders, ticketOf item = none := by
  have shared : sharedKeys (indexByTicket internal) (indexByTicket []) = [] := by
    apply List.eq_nil_iff_forall_not_mem.mpr
    intro ticket member
    exact not_mem_indexByTicket_nil ticket ((mem_sharedKeys _ _ _).mp member).2
  have union : sortedSet (ownKeys (indexByTicket internal) (indexByTicket []) ++ []) = [] ↔
      ∀ item ∈ internal, ticketOf item = none := by
    rw [sortedSet_eq_nil_iff, List.append_nil, ownKeys_eq_nil_iff]
  simp only [comparesClean, compare, shared, compareMatched, ok_bind, ownKeys_nil]
  simp only [pure, Except.pure, ReconciliationReport.hasCritical, List.isEmpty_nil, Bool.not_true,
    Bool.or_false, Bool.not_or, Bool.not_not, Bool.and_eq_true, List.isEmpty_iff, union,
    ownKeys_eq_nil_iff]

/-- The index of a single item. -/
theorem indexByTicket_single {item : Record} {ticket : Int} (known : ticketOf item = some ticket) :
    indexByTicket [item] = Dict.empty.set ticket item := by
  simp [indexByTicket, known]

theorem keys_single (ticket : Int) (item : Record) :
    (Dict.empty.set ticket item).keys = [ticket] := rfl

theorem contains_single (ticket : Int) (item : Record) :
    (Dict.empty.set ticket item).contains ticket = true := by
  rw [Dict.contains, Dict.get_set_self, Option.isSome_some]

/-- With one position of the same ticket on each side the fields decide. -/
theorem comparesClean_single (tolerance : ℚ) {internal broker : Record} {ticket : Int}
    (own : ticketOf internal = some ticket) (reported : ticketOf broker = some ticket) :
    comparesClean tolerance [internal] [broker] [] [] = true ↔
      ∃ found, compareFields tolerance internal broker ticket = .ok found ∧
        found.volume = [] ∧ found.sltp = [] ∧ found.symbol = [] ∧ found.magic = [] := by
  have left := indexByTicket_single own
  have right := indexByTicket_single reported
  have shared : sharedKeys (Dict.empty.set ticket internal) (Dict.empty.set ticket broker) =
      [ticket] := by
    simp [sharedKeys, keys_single, contains_single, sortedSet]
  have alike (first second : Record) :
      ownKeys (Dict.empty.set ticket first) (Dict.empty.set ticket second) = [] := by
    simp [ownKeys, keys_single, contains_single, sortedSet]
  have none : sortedSet [] = [] := rfl
  simp only [comparesClean, compare, left, right, shared, alike, ownKeys_nil, compareMatched,
    Dict.get_set_self, Option.getD_some]
  cases compareFields tolerance internal broker ticket with
  | error raised => simp [Bind.bind, Except.bind]
  | ok found =>
      simp [ok_bind, pure, Except.pure, ReconciliationReport.hasCritical, none, and_assoc]

end Reconciler

end EaBot.Execution
