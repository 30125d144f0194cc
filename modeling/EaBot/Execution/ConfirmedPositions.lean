import EaBot.Execution.ReconciliationProviders
import EaBot.Execution.SettledOrders

/-!
# Confirmed positions and the reconciler

A call that confirms a position records the ticket, the symbol and the volume of its
request, and the internal side of the reconciliation reports exactly these three.
The reconciler also compares the levels and the magic number, with zero for what the
internal side lacks, so a confirmed position is clean only when the request has
neither levels nor a magic number.
-/

namespace EaBot.Execution

open EaBot.Foundation EaBot.Mt5 Program

/-- A record that carries the symbol and the volume of a request. -/
def Describes (request : OrderRequest) (record : Record) : Prop :=
  record.get "symbol" = some (.str request.symbol) ∧
    record.get "volume" = some (.num request.volume)

/-- A record that holds a confirmed position. -/
def Confirmed (record : Record) : Prop :=
  record.get "state" = some (.str OrderState.positionConfirmed.value)

/-- The record of a request describes it as soon as it holds a confirmed position. -/
def Booked (request : OrderRequest) (world : World) : Prop :=
  ∀ record, world.ledger.orderStore.get request.idempotencyKey = some record →
    Confirmed record → Describes request record

/-! ## The ledger writes of a call -/

section Writes

variable (request : OrderRequest) (caller : Nat)

/-- A part of a call that keeps the record of its request booked. -/
abbrev KeepsBooked {α : Type} (program : Program World α) : Prop :=
  Program.Keeps (Booked request) program

variable {request caller}

/-- An action that leaves the orders of the ledger alone. -/
theorem keepsBooked_perform {α : Type} {action : World → α × World}
    (ledger : ∀ world, (action world).2.ledger = world.ledger) :
    KeepsBooked request (perform action) := by
  apply keeps_perform
  intro world booked record stored
  rw [ledger] at stored
  exact booked record stored

/-- A write of another state. -/
theorem keepsBooked_setOrder {state : OrderState} {extra : List (String × Val)}
    (keeps : Keeps request.idempotencyKey extra) (other : state ≠ .positionConfirmed) :
    KeepsBooked request (setOrder caller request.idempotencyKey state extra) := by
  apply keeps_perform
  intro world _ record stored confirmed
  have written : record = updatedRecord (world.ledger.orderStore.get request.idempotencyKey)
      request.idempotencyKey state.value [] extra := by
    change (world.ledger.setOrder request.idempotencyKey state.value extra).2.orderStore.get
      request.idempotencyKey = some record at stored
    rw [Ledger.setOrder_orderStore_get, if_pos rfl] at stored
    exact (Option.some.inj stored).symm
  have present : record.get "state" = some (.str state.value) := by
    rw [written]
    exact updatedRecord_state (by simp) keeps
  rw [Confirmed, present, Option.some.injEq, Val.str.injEq] at confirmed
  exact absurd (OrderState.value_injective confirmed) other

/-- A write of the confirmed position with fields that describe the request. -/
theorem keepsBooked_confirm {extra : List (String × Val)}
    (symbol : ("symbol", .str request.symbol) ∈ extra ∧
      ∀ other, ("symbol", other) ∈ extra → other = .str request.symbol)
    (volume : ("volume", .num request.volume) ∈ extra ∧
      ∀ other, ("volume", other) ∈ extra → other = .num request.volume) :
    KeepsBooked request (setOrder caller request.idempotencyKey .positionConfirmed extra) := by
  apply keeps_perform
  intro world _ record stored _
  change (world.ledger.setOrder request.idempotencyKey _ extra).2.orderStore.get
    request.idempotencyKey = some record at stored
  rw [Ledger.setOrder_orderStore_get, if_pos rfl] at stored
  cases stored
  exact ⟨Dict.get_update_of_mem _ symbol.1 symbol.2, Dict.get_update_of_mem _ volume.1 volume.2⟩

theorem keepsBooked_clearPending : KeepsBooked request (clearPending request.idempotencyKey) :=
  keepsBooked_perform fun _ => rfl

theorem keepsBooked_recordCompleted (result : ExecutionResult) :
    KeepsBooked request (recordCompleted request.idempotencyKey result) :=
  keepsBooked_perform fun _ => rfl

theorem keepsBooked_dispatch (route : Route) (submission : Submission) :
    KeepsBooked request (dispatch caller request.idempotencyKey route submission) :=
  keepsBooked_perform fun _ => rfl

/-- The identity fields name the symbol of the request and no other. -/
theorem symbol_mem_identityFields (value : Val) :
    ("symbol", value) ∈ request.identityFields ↔ value = .str request.symbol := by
  simp [OrderRequest.identityFields, OrderRequest.optionalText, OrderRequest.optionalTicket]

theorem volume_mem_identityFields (value : Val) :
    ("volume", value) ∈ request.identityFields ↔ value = .num request.volume := by
  simp [OrderRequest.identityFields, OrderRequest.optionalText, OrderRequest.optionalTicket]

/-- The fields of a confirmed position describe the request. -/
theorem keepsBooked_positionFields (ticket : Option Int) :
    KeepsBooked request (setOrder caller request.idempotencyKey .positionConfirmed
      (positionFields request ticket [])) := by
  apply keepsBooked_confirm
  · simp [positionFields, symbol_mem_identityFields]
  · simp [positionFields, volume_mem_identityFields]

theorem keepsBooked_adoptedFields (adopted : ExecutionResult) :
    KeepsBooked request (setOrder caller request.idempotencyKey .positionConfirmed
      (adoptedFields request adopted)) := by
  apply keepsBooked_confirm
  · simp [adoptedFields, positionFields, symbol_mem_identityFields]
  · simp [adoptedFields, positionFields, volume_mem_identityFields]

end Writes

/-! ## Every part of the method -/

section Method

variable (config : EngineConfig) (surroundings : Surroundings) (market : MarketView)
variable (attempt : Attempt) (caller : Nat) (request : OrderRequest)

theorem keepsBooked_sendToMt5 (nativeAvailable : Bool) :
    KeepsBooked request (sendToMt5 config nativeAvailable attempt caller request) := by
  have simulated (clockMs : Nat) (price : Number) :
      KeepsBooked request (simulatedFill clockMs caller request price) := by
    unfold simulatedFill
    apply Keeps.bind (keepsBooked_perform fun _ => rfl)
    intro ticket
    exact Keeps.bind (keepsBooked_dispatch _ _) fun _ => trivial
  have native : KeepsBooked request (sendNative attempt caller request) := by
    unfold sendNative
    split
    · trivial
    · split
      · trivial
      · apply Keeps.bind (keepsBooked_dispatch _ _)
        intro _
        split <;> trivial
  unfold sendToMt5
  split
  · exact Keeps.bind (keepsBooked_dispatch _ _) fun _ => trivial
  · exact Keeps.bind (keepsBooked_dispatch _ _) fun _ => trivial
  · split_ifs
    · exact simulated _ _
    · exact native
    · exact simulated _ _
    · exact simulated _ _
    · trivial

theorem keepsBooked_finishFill (retries : Nat) (reply : SendReply) (confirmed : Bool) :
    KeepsBooked request (finishFill market attempt caller request retries reply confirmed) := by
  have unknown : KeepsBooked request (keepUnknown caller request.idempotencyKey) := by
    apply Keeps.bind (keeps_read _)
    intro final
    split
    · exact Keeps.bind (keepsBooked_setOrder (keeps_nil _) (by decide)) fun _ => trivial
    · trivial
  unfold finishFill
  dsimp only
  split
  · trivial
  · apply Keeps.bind keepsBooked_clearPending
    intro _
    apply Keeps.bind unknown
    intro _
    split
    · trivial
    · exact Keeps.bind (keepsBooked_recordCompleted _) fun _ => trivial

theorem keepsBooked_settle (retries : Nat) (reply : SendReply) :
    KeepsBooked request (settle market attempt caller request retries reply) := by
  unfold settle
  apply Keeps.bind (keepsBooked_setOrder (keeps_submittedFields request _ _) (by decide))
  intro _
  apply Keeps.bind (keepsBooked_setOrder (keeps_acknowledgedFields request _) (by decide))
  intro _
  split
  · trivial
  · exact keepsBooked_finishFill market attempt caller request _ _ _
  · apply Keeps.bind
    · apply Keeps.bind (keepsBooked_setOrder (keeps_nil _) (by decide))
      intro _
      exact Keeps.bind (keepsBooked_positionFields _) fun _ => trivial
    · intro _
      exact keepsBooked_finishFill market attempt caller request _ _ _

theorem keepsBooked_attemptOnce (retries : Nat) :
    KeepsBooked request (attemptOnce config surroundings attempt caller request retries) := by
  unfold attemptOnce
  apply Keeps.bind (keepsBooked_sendToMt5 config attempt caller request _)
  intro sent
  split
  · trivial
  · split
    · apply Keeps.bind (keepsBooked_settle _ attempt caller request _ _)
      intro settled
      split <;> trivial
    · trivial

theorem keepsBooked_adoptOr {otherwise : Program World (Except String ExecutionResult)}
    (rest : KeepsBooked request otherwise) :
    KeepsBooked request (adoptOr config market attempt caller request otherwise) := by
  unfold adoptOr
  split
  · trivial
  · exact rest
  · apply Keeps.bind
    · apply Keeps.bind keepsBooked_clearPending
      intro _
      apply Keeps.bind (keepsBooked_adoptedFields _)
      intro _
      exact keepsBooked_recordCompleted _
    · exact fun _ => trivial

theorem keepsBooked_afterFailure (retries : Nat) (code : Int) (message : Val)
    {again : Option (Program World (Except String ExecutionResult))}
    (rest : ∀ pass, again = some pass → KeepsBooked request pass) :
    KeepsBooked request
      (afterFailure config market attempt caller request retries code message again) := by
  have unknown : KeepsBooked request (recordUnknown caller request retries code message) := by
    apply Keeps.bind keepsBooked_clearPending
    intro _
    apply Keeps.bind (keepsBooked_setOrder (keeps_unknownFields request _ _ _) (by decide))
    intro _
    exact Keeps.bind (keepsBooked_recordCompleted _) fun _ => trivial
  have givesUp : KeepsBooked request (exhausted request retries code message) := by
    apply Keeps.bind keepsBooked_clearPending
    intro _
    exact Keeps.bind (keepsBooked_recordCompleted _) fun _ => trivial
  unfold afterFailure
  split
  · trivial
  · apply keepsBooked_adoptOr
    exact Keeps.bind unknown fun _ => trivial
  · split
    · trivial
    · exact keepsBooked_adoptOr config market attempt caller request (rest _ rfl)
    · exact Keeps.bind givesUp fun _ => trivial

theorem keepsBooked_attemptPass (number : Nat)
    {again : Option (Program World (Except String ExecutionResult))}
    (rest : ∀ pass, again = some pass → KeepsBooked request pass) :
    KeepsBooked request (attemptPass config surroundings caller request number again) := by
  unfold attemptPass
  apply Keeps.bind
  · unfold persistRetry
    split
    · exact keepsBooked_setOrder (keeps_identityFields_append request _) (by decide)
    · trivial
  · intro persisted
    split
    · exact Keeps.bind keepsBooked_clearPending fun _ => trivial
    · apply Keeps.bind (keepsBooked_attemptOnce config surroundings _ caller request _)
      intro outcome
      split
      · trivial
      · exact keepsBooked_afterFailure config _ _ caller request _ _ _ rest

theorem keepsBooked_attemptLoop (number remaining : Nat) :
    KeepsBooked request (attemptLoop config surroundings caller request number remaining) := by
  induction remaining generalizing number with
  | zero => exact keepsBooked_attemptPass config surroundings caller request number nofun
  | succ remaining ih =>
      apply keepsBooked_attemptPass config surroundings caller request number
      intro pass next
      cases next
      exact ih (number + 1)

/-- Every call keeps the record of its request booked. -/
theorem keepsBooked_executeIdentified :
    KeepsBooked request (executeIdentified config surroundings caller request) := by
  unfold executeIdentified
  apply Keeps.bind (keeps_read _)
  intro ready
  split_ifs
  · trivial
  · exact Keeps.bind (keepsBooked_setOrder (keeps_nil _) (by decide)) fun _ => trivial
  · apply Keeps.bind (keepsBooked_perform fun _ => rfl)
    intro duplicate
    split
    · trivial
    · apply Keeps.bind
      · unfold submitOrder
        apply Keeps.bind (keepsBooked_setOrder (keeps_identityFields_append request 0) (by decide))
        intro persisted
        split
        · trivial
        · split
          · trivial
          · unfold submitValid
            apply Keeps.bind (keepsBooked_setOrder (keeps_nil _) (by decide))
            intro _
            apply Keeps.bind
              (keepsBooked_setOrder (keeps_identityFields_append request 0) (by decide))
            intro persisted
            split
            · trivial
            · apply Keeps.bind (keepsBooked_perform fun _ => by dsimp only; split <;> rfl)
              intro _
              apply Keeps.bind (keepsBooked_attemptLoop config surroundings caller request 0 _)
              intro _
              exact Keeps.bind keepsBooked_clearPending fun _ => trivial
          · apply Keeps.bind
            · apply Keeps.bind (keepsBooked_setOrder (by simp [Execution.Keeps]) (by decide))
              exact fun _ => trivial
            · exact fun _ => trivial
      · intro _
        exact Keeps.bind (keepsBooked_perform fun _ => rfl) fun _ => trivial

end Method

/-! ## One position on each side -/

/-- The broker's row of a position that a request has opened. -/
structure RowOf (request : OrderRequest) (row : BrokerRow) : Prop where
  symbol : row.symbol = request.symbol
  volume : row.volume = request.volume.value
  sl : row.sl = request.sl.value
  tp : row.tp = request.tp.value
  magic : row.magic = some request.magic

/-- A level of the broker, against the zero of an internal side that has none. -/
theorem differs_level (price : ℚ) (render : ℚ → String) :
    Reconciler.differs Reconciler.priceTolerance (.int 0)
      ((level? price).elim .none fun value => .num ⟨value, render value⟩) =
        .ok (decide (Reconciler.priceTolerance < price)) := by
  have small : (0 : ℚ) < Reconciler.priceTolerance := by norm_num [Reconciler.priceTolerance]
  unfold level?
  by_cases placed : 0 < price
  · have value : |price| = price := abs_of_pos placed
    simp [placed, Reconciler.differs, Val.orElse, Val.truthy, Val.toFloat, placed.ne', value, pure,
      Except.pure]
  · have below : ¬Reconciler.priceTolerance < price := by linarith
    simp [placed, Reconciler.differs, Val.orElse, Val.truthy, Val.toFloat, small.le, below, pure,
      Except.pure]

/-- Numbers of one value do not differ. -/
theorem differs_of_value_eq {tolerance : ℚ} (tolerant : 0 ≤ tolerance) {first second : Number}
    (same : first.value = second.value) :
    Reconciler.differs tolerance (.num first) (.num second) = .ok false := by
  by_cases zero : second.value = 0
  · simp [Reconciler.differs, Val.orElse, Val.truthy, Val.toFloat, same, zero, tolerant, pure,
      Except.pure]
  · simp [Reconciler.differs, Val.orElse, Val.truthy, Val.toFloat, same, zero, tolerant, pure,
      Except.pure]

/-- The magic number of a row, read as a number. -/
theorem toInt_magic (magic : Int) :
    ((Val.ofInt? ((some magic).filter fun magic => magic ≠ 0)).orElse (.int 0)).toInt =
      .ok magic := by
  by_cases zero : magic = 0
  · subst zero
    rfl
  · simp [zero, Val.ofInt?, Val.orElse, Val.truthy, Val.toInt, Option.filter]

/-- The fields of a confirmed position compared with those of its row. -/
theorem compareFields_confirmed {tolerance : ℚ} (tolerant : 0 ≤ tolerance)
    (render : ℚ → String) {request : OrderRequest} {record : Record} {row : BrokerRow}
    (describes : Describes request record) (opened : RowOf request row) (ticket : Int) :
    ∃ found, Reconciler.compareFields tolerance (positionOfRecord record)
        (recordOfPosition render (positionOfRow row)) ticket = .ok found ∧
      found.volume = [] ∧ found.symbol = [] ∧
      (found.sltp = [] ↔ request.sl.value ≤ Reconciler.priceTolerance ∧
        request.tp.value ≤ Reconciler.priceTolerance) ∧
      (found.magic = [] ↔ request.magic = 0) := by
  have ownVolume : Reconciler.fieldOr (positionOfRecord record) "volume"
      (Reconciler.fieldOr (positionOfRecord record) "quantity" (.int 0)) =
        .num request.volume := by
    simp [Reconciler.fieldOr, positionOfRecord, describes.2]
  have ownSymbol : Reconciler.fieldOr (positionOfRecord record) "symbol" (.str "") =
      .str request.symbol := by
    simp [Reconciler.fieldOr, positionOfRecord, describes.1]
  have ownSl : Reconciler.fieldOr (positionOfRecord record) "sl" (.int 0) = .int 0 := rfl
  have ownTp : Reconciler.fieldOr (positionOfRecord record) "tp" (.int 0) = .int 0 := rfl
  have ownMagic : Reconciler.fieldOr (positionOfRecord record) "magic" (.int 0) = .int 0 := rfl
  let broker := recordOfPosition render (positionOfRow row)
  have quantity : Reconciler.fieldOr broker "quantity" (.int 0) =
      .num ⟨row.volume, render row.volume⟩ :=
    Reconciler.fieldOr_of_mem (by simp [positionOfRow]) (by simp [positionOfRow]) _
  have volume : Reconciler.fieldOr broker "volume"
      (Reconciler.fieldOr broker "quantity" (.int 0)) =
        .num ⟨row.volume, render row.volume⟩ := by
    rw [quantity]
    exact Reconciler.fieldOr_of_notMem (by simp) _
  have symbol : Reconciler.fieldOr broker "symbol" (.str "") = .str row.symbol :=
    Reconciler.fieldOr_of_mem (by simp [positionOfRow]) (by simp [positionOfRow]) _
  have sl : Reconciler.fieldOr broker "sl" (.int 0) =
      (level? row.sl).elim .none fun value => .num ⟨value, render value⟩ :=
    Reconciler.fieldOr_of_mem (by simp [positionOfRow]) (by simp [positionOfRow]) _
  have tp : Reconciler.fieldOr broker "tp" (.int 0) =
      (level? row.tp).elim .none fun value => .num ⟨value, render value⟩ :=
    Reconciler.fieldOr_of_mem (by simp [positionOfRow]) (by simp [positionOfRow]) _
  have magic : Reconciler.fieldOr broker "magic" (.int 0) =
      .ofInt? (row.magic.filter fun magic => magic ≠ 0) :=
    Reconciler.fieldOr_of_mem (by simp [positionOfRow]) (by simp [positionOfRow]) _
  have zero : ((Val.int 0).orElse (.int 0)).toInt = .ok 0 := rfl
  have volumes : Reconciler.differs tolerance (.num request.volume)
      (.num ⟨row.volume, render row.volume⟩) = .ok false :=
    differs_of_value_eq tolerant opened.volume.symm
  unfold Reconciler.compareFields
  rw [ownVolume, ownSymbol, ownSl, ownTp, ownMagic, volume, symbol, sl, tp, magic, opened.magic]
  simp only [volumes, differs_level, toInt_magic, zero, ok_bind]
  rw [opened.sl, opened.tp, opened.symbol]
  have levels (differ : Bool) (internal reported : List Val) :
      Reconciler.mismatch differ ticket "sl/tp" internal reported = [] ↔ differ = false := by
    cases differ <;> simp [Reconciler.mismatch]
  have magics : 0 = request.magic ↔ request.magic = 0 := eq_comm
  by_cases high : Reconciler.priceTolerance < request.sl.value
  · rw [decide_eq_true high, if_pos rfl]
    refine ⟨_, rfl, rfl, ?_, ?_, ?_⟩
    · simp [Reconciler.mismatch]
    · rw [levels]
      simp [not_le.mpr high]
    · simp [Reconciler.mismatch, magics]
  · rw [decide_eq_false high, if_neg Bool.false_ne_true]
    refine ⟨_, rfl, rfl, ?_, ?_, ?_⟩
    · simp [Reconciler.mismatch]
    · rw [levels]
      simp [not_lt.mp high]
    · simp [Reconciler.mismatch, magics]

/-! ## The internal side -/

/-- No other record of the ledger holds an open position or carries the ticket. -/
def OnlyOrder (store : Dict String Record) (key : String) (ticket : Int) : Prop :=
  ∀ other record, store.get other = some record → other ≠ key →
    holdsPosition record = false ∧ (recordTicket record).text ≠ toString ticket

theorem holdsPosition_of_confirmed {record : Record} (confirmed : Confirmed record) :
    holdsPosition record = true := by
  rw [holdsPosition, confirmed]
  decide

/-- The index of the records has every ticket once. -/
theorem nodup_latestByTicket (store : Dict String Record) :
    (latestByTicket store).values.Nodup := by
  have distinct : ((latestByTicket store).values.map
      fun record => (recordTicket record).text).Nodup := by
    have keys : (latestByTicket store).values.map (fun record => (recordTicket record).text) =
        (latestByTicket store).keys := by
      simp only [Dict.values, Dict.keys, List.map_map]
      apply List.map_congr_left
      rintro ⟨key, record⟩ member
      exact (Dict.of_get_indexBy ((Dict.mem_entries_iff _ _ _).mp member)).1
    rw [keys]
    exact (latestByTicket store).distinct
  exact List.Nodup.of_map _ distinct

/-- A confirmed order that is the only one is the only position that is reported. -/
theorem internalPositions_of_only {store : Dict String Record} {key : String} {record : Record}
    {ticket : Int} (stored : store.get key = some record) (confirmed : Confirmed record)
    (carried : recordTicket record = .int ticket) (only : OnlyOrder store key ticket) :
    internalPositionsFromStore store = [positionOfRecord record] := by
  have member (other : Record) (inside : other ∈ (latestByTicket store).values) :
      other ∈ store.values := by
    rcases (Dict.mem_values_iff _ _).mp inside with ⟨index, found⟩
    exact (List.mem_filter.mp (Dict.of_get_indexBy found).2).1
  have alone (other : Record) (inside : other ∈ (latestByTicket store).values)
      (holds : holdsPosition other = true) : other = record := by
    rcases (Dict.mem_values_iff _ _).mp (member other inside) with ⟨name, found⟩
    by_cases same : name = key
    · rw [same, stored] at found
      exact (Option.some.inj found).symm
    · rw [(only name other found same).1] at holds
      cases holds
  have listed : record ∈ (latestByTicket store).values := by
    have indexed : toString ticket ∈ (latestByTicket store).keys := by
      rw [latestByTicket, Dict.mem_keys_indexBy]
      apply List.mem_map.mpr
      refine ⟨record, List.mem_filter.mpr ⟨(Dict.mem_values_iff _ _).mpr ⟨key, stored⟩, ?_⟩, ?_⟩
      · simp [carried]
      · rw [carried]
        rfl
    rcases (Dict.mem_keys_iff _ _).mp indexed with ⟨other, found⟩
    have inside := (Dict.mem_values_iff _ _).mpr ⟨_, found⟩
    rcases (Dict.mem_values_iff _ _).mp (member other inside) with ⟨name, present⟩
    by_cases same : name = key
    · rw [same, stored] at present
      rw [Option.some.inj present]
      exact inside
    · exact absurd (Dict.of_get_indexBy found).1 (only name other present same).2
  have single : (latestByTicket store).values.filter holdsPosition = [record] := by
    apply List.perm_singleton.mp
    apply (List.perm_ext_iff_of_nodup ((nodup_latestByTicket store).filter _)
      (List.nodup_singleton record)).mpr
    intro other
    rw [List.mem_filter, List.mem_singleton]
    constructor
    · exact fun kept => alone other kept.1 kept.2
    · rintro rfl
      exact ⟨listed, holdsPosition_of_confirmed confirmed⟩
  rw [internalPositionsFromStore, single]
  rfl

/-! ## Confirmed orders at the broker -/

variable (config : EngineConfig) (surroundings : Surroundings) (caller : Nat)

/-- An order that a call records as a confirmed position, and that the broker reports
with the request's own values, is clean exactly when the request has no levels beyond
the tolerance and no magic number. -/
theorem confirmed_order_clean_iff {request : OrderRequest} {world : World} {record : Record}
    {row : BrokerRow} {tolerance : ℚ} (render : ℚ → String) (tolerant : 0 ≤ tolerance)
    (unconfirmed : ∀ record, world.ledger.orderStore.get (callKey surroundings request) =
      some record → ¬Confirmed record)
    (stored : (afterCall config surroundings caller request world).ledger.orderStore.get
      (callKey surroundings request) = some record)
    (confirmed : Confirmed record) (carried : recordTicket record = .int row.ticket)
    (opened : RowOf request row)
    (only : OnlyOrder (afterCall config surroundings caller request world).ledger.orderStore
      (callKey surroundings request) row.ticket) :
    Reconciler.comparesClean tolerance
        (internalPositionsFromStore
          (afterCall config surroundings caller request world).ledger.orderStore)
        (brokerPositions render (getPositions true (.rows [row]))) [] [] = true ↔
      request.sl.value ≤ Reconciler.priceTolerance ∧
        request.tp.value ≤ Reconciler.priceTolerance ∧ request.magic = 0 := by
  have booked : Booked (request.withIdentity surroundings.freshKey surroundings.freshExecution)
      (afterCall config surroundings caller request world) := by
    apply Keeps.run (keepsBooked_executeIdentified config surroundings caller _)
    intro earlier present held
    exact absurd held (unconfirmed earlier present)
  have describes : Describes request record := booked record stored confirmed
  obtain ⟨found, compared, volume, symbol, levels, magic⟩ :=
    compareFields_confirmed tolerant render describes opened row.ticket
  rw [internalPositions_of_only stored confirmed carried only]
  change Reconciler.comparesClean tolerance [positionOfRecord record]
    [recordOfPosition render (positionOfRow row)] [] [] = true ↔ _
  rw [Reconciler.comparesClean_single tolerance (ticketOf_positionOfRecord carried)
    (ticketOf_recordOfPosition render (positionOfRow row)), ← and_assoc, ← levels, ← magic]
  constructor
  · rintro ⟨other, same, -, sltp, -, number⟩
    change Reconciler.compareFields tolerance _ _ row.ticket = .ok other at same
    rw [compared] at same
    cases same
    exact ⟨sltp, number⟩
  · rintro ⟨sltp, number⟩
    exact ⟨found, compared, volume, sltp, symbol, number⟩

/-- A market order without stops, with a magic number, that has been filled. -/
def filledWorld (magic : Int) : World :=
  afterCall Sample.config Sample.surroundings 0 { Sample.request with magic := magic }
    (World.start Ledger.initial)

/-- The row of the filled order. -/
def filledRow (magic : Int) : BrokerRow :=
  ⟨7, "EURUSD", 0, 1 / 10, 1, 1, 0, 0, some magic, 0, 0⟩

/-- An order without a magic number is clean. -/
theorem confirmed_order_clean_iff_sample :
    Reconciler.comparesClean Reconciler.volumeTolerance
      (internalPositionsFromStore (filledWorld 0).ledger.orderStore)
      (brokerPositions (fun _ => "") (getPositions true (.rows [filledRow 0]))) [] [] = true := by
  have shape : ((filledWorld 0).ledger.orderStore.get "order-1").map
      (fun record => (record.get "state", recordTicket record)) =
        some (some (.str OrderState.positionConfirmed.value), .int 7) := by decide +kernel
  have keys : (filledWorld 0).ledger.orderStore.keys = ["order-1"] := by decide +kernel
  rcases Option.map_eq_some_iff.mp shape with ⟨record, stored, fields⟩
  rcases Prod.mk.inj fields with ⟨confirmed, carried⟩
  refine (confirmed_order_clean_iff Sample.config Sample.surroundings 0 (fun _ => "")
    (by norm_num [Reconciler.volumeTolerance]) ?_ stored confirmed carried
    ⟨rfl, rfl, rfl, rfl, rfl⟩ ?_).mpr ⟨by decide +kernel, by decide +kernel, rfl⟩
  · intro earlier present
    cases present
  · intro other found present different
    have listed := (Dict.mem_keys_iff _ _).mpr ⟨found, present⟩
    change other ∈ (filledWorld 0).ledger.orderStore.keys at listed
    rw [keys, List.mem_singleton] at listed
    exact absurd listed different

/-- An order with the usual magic number is a mismatch as soon as it is confirmed. -/
theorem confirmed_order_blocks :
    ((filledWorld 70000).ledger.orderStore.get "order-1").bind (Dict.get · "state") =
        some (.str OrderState.positionConfirmed.value) ∧
      Reconciler.comparesClean Reconciler.volumeTolerance
        (internalPositionsFromStore (filledWorld 70000).ledger.orderStore)
        (brokerPositions (fun _ => "") (getPositions true (.rows [filledRow 70000]))) [] [] =
          false := by
  constructor <;> decide +kernel

end EaBot.Execution
