import EaBot.Orchestration.VerifiedClose

/-!
# Which closes free a signal

The hook of the close detector frees the signal of the closed position's symbol and
does not look at the ticket that the signal was opened with.  A signal is therefore
freed by its own close exactly as long as no other position of its symbol leaves the
book before its own one does.
-/

namespace EaBot.Orchestration

open EaBot.Foundation EaBot.Monitoring EaBot.Mt5 EaBot.Review

namespace Runtime

/-- The symbol is one whose signal the hook frees for the record. -/
def Names (record : CloseRecord) (symbol : String) : Prop :=
  record.symbol ≠ "" ∧ SignalRegistry.key record.symbol = symbol

/-- The symbol is that of the position or, when it has none, the one remembered for its
ticket. -/
def IsOn (sources : CloseSources) (position : Position) (symbol : String) : Prop :=
  let named :=
    if position.symbol = "" then
      (sources.entryContext position.ticket).elim "" EntryContext.symbol
    else position.symbol
  named ≠ "" ∧ SignalRegistry.key named = symbol

/-- The positions that the close detector has seen last. -/
def knownPositions (runtime : Runtime) : List Position :=
  runtime.monitor.closeDetector.elim [] fun detector => detector.known.values

/-- A signal is open with a ticket. -/
def OpenWith (registry : SignalRegistry) (symbol : String) (ticket : Int) : Prop :=
  ∃ record, registry.signals.get symbol = some record ∧ record.phase = .opened ∧
    record.ticket = .int ticket

/-- A signal is closed. -/
def IsClosed (registry : SignalRegistry) (symbol : String) : Prop :=
  ∃ record, registry.signals.get symbol = some record ∧ record.phase = .closed

/-- A ticket that the detector has seen is not in the book of the cycle. -/
def Leaves (liveMode : Bool) (runtime : Runtime) (cycle : Cycle) (ticket : Int) : Prop :=
  ticket ∈ runtime.knownTickets ∧ ticket ∉ cycle.tickets liveMode

/-- A signal that is open with a ticket is closed by the cycle only when that ticket
leaves the book. -/
def FreedByOwnClose (liveMode : Bool) (runtime : Runtime) (cycle : Cycle) : Prop :=
  ∀ symbol ticket, OpenWith (runtime.meet cycle).registry symbol ticket →
    IsClosed (runtime.step liveMode cycle).registry symbol →
      Leaves liveMode runtime cycle ticket

/-- Of a symbol whose signal is open with a ticket, no known position leaves the book of
an observing cycle unless that ticket leaves it as well. -/
def OwnCloseOnly (liveMode : Bool) (runtime : Runtime) (cycle : Cycle) : Prop :=
  cycle.entry = .monitorAllPositions → ∀ symbol ticket,
    OpenWith (runtime.meet cycle).registry symbol ticket →
      (∃ position ∈ runtime.knownPositions, position.ticket ∉ cycle.tickets liveMode ∧
          IsOn cycle.sources position symbol) →
        Leaves liveMode runtime cycle ticket

/-! ## What the hook does to the registry -/

/-- The hook closes the record of the symbol it frees and keeps every other. -/
theorem onClose_get (registry : SignalRegistry) (now : ℚ) (record : CloseRecord)
    (symbol : String) :
    (¬ Names record symbol →
        (onCloseEmitTradeEvent registry now record).2.signals.get symbol =
          registry.signals.get symbol) ∧
      (Names record symbol →
        (onCloseEmitTradeEvent registry now record).2.signals.get symbol =
          (registry.signals.get symbol).map fun signal =>
            { signal with phase := .closed, reason := "posisi ditutup", updatedAt := now }) := by
  unfold onCloseEmitTradeEvent
  split
  · rename_i named
    constructor
    · intro other
      apply (registry.transition_get _ _ _ _ _).trans
      rw [if_neg fun same => other ⟨named, same.symm⟩]
    · rintro ⟨-, same⟩
      apply (registry.transition_get _ _ _ _ _).trans
      rw [if_pos same.symm]
  · rename_i unnamed
    exact ⟨fun _ => rfl, fun names => absurd names.1 unnamed⟩

/-- The hooks leave the signal of a symbol alone that no record names. -/
theorem fireHooks_get_of_not {now : ℚ} {records : List CloseRecord} {symbol : String}
    (unnamed : ∀ record ∈ records, ¬ Names record symbol) (registry : SignalRegistry) :
    (fireHooks registry now records).2.signals.get symbol = registry.signals.get symbol := by
  induction records generalizing registry with
  | nil => rfl
  | cons record rest ih =>
      rw [List.forall_mem_cons] at unnamed
      apply (ih unnamed.2 _).trans
      exact (onClose_get registry now record symbol).1 unnamed.1

/-- A closed signal stays closed under the hooks. -/
theorem IsClosed.fireHooks {registry : SignalRegistry} {symbol : String}
    (closed : IsClosed registry symbol) (now : ℚ) (records : List CloseRecord) :
    IsClosed (fireHooks registry now records).2 symbol := by
  induction records generalizing registry with
  | nil => exact closed
  | cons record rest ih =>
      apply ih
      obtain ⟨signal, found, phase⟩ := closed
      obtain ⟨other, named⟩ := onClose_get registry now record symbol
      by_cases names : Names record symbol
      · rw [IsClosed, named names, found]
        exact ⟨_, rfl, rfl⟩
      · rw [IsClosed, other names]
        exact ⟨signal, found, phase⟩

/-- A signal that some record names is closed by the hooks. -/
theorem isClosed_fireHooks {now : ℚ} {records : List CloseRecord} {symbol : String}
    {registry : SignalRegistry} (present : ∃ signal, registry.signals.get symbol = some signal)
    (named : ∃ record ∈ records, Names record symbol) :
    IsClosed (fireHooks registry now records).2 symbol := by
  induction records generalizing registry with
  | nil =>
      obtain ⟨record, absent, -⟩ := named
      cases absent
  | cons record rest ih =>
      obtain ⟨signal, found⟩ := present
      obtain ⟨other, freed⟩ := onClose_get registry now record symbol
      by_cases names : Names record symbol
      · have closed : IsClosed (onCloseEmitTradeEvent registry now record).2 symbol := by
          rw [IsClosed, freed names, found]
          exact ⟨_, rfl, rfl⟩
        exact closed.fireHooks now rest
      · apply ih
        · exact ⟨signal, (other names).trans found⟩
        · obtain ⟨listed, member, names'⟩ := named
          rcases List.mem_cons.mp member with same | later
          · exact absurd (same ▸ names') names
          · exact ⟨listed, later, names'⟩

/-! ## Runs -/

theorem not_isClosed_of_openWith {registry : SignalRegistry} {symbol : String} {ticket : Int}
    (opened : OpenWith registry symbol ticket) : ¬ IsClosed registry symbol := by
  rintro ⟨closed, found, phase⟩
  obtain ⟨signal, found', phase', -⟩ := opened
  rw [found] at found'
  cases found'
  rw [phase] at phase'
  cases phase'

theorem registry_monitorAll {liveMode : Bool} {runtime : Runtime} {cycle : Cycle}
    (entry : cycle.entry = .monitorAllPositions) :
    (runtime.step liveMode cycle).registry =
      (fireHooks (runtime.meet cycle).registry cycle.now
        (runtime.monitor.monitorAllPositions cycle.sources (cycle.positions liveMode)).1).2 := by
  rw [step_monitorAll _ _ _ entry]
  rfl

theorem registry_detect {liveMode : Bool} {runtime : Runtime} {cycle : Cycle}
    (entry : cycle.entry = .detectPositionChanges) :
    (runtime.step liveMode cycle).registry = (runtime.meet cycle).registry := by
  rw [step_detect _ _ _ entry]
  rfl

/-- The close record of a position names the symbol that the position is on. -/
theorem names_buildCloseRecord_iff (sources : CloseSources) (position : Position)
    (symbol : String) :
    Names (buildCloseRecord sources position) symbol ↔ IsOn sources position symbol := by
  have same : (buildCloseRecord sources position).symbol =
      if position.symbol = "" then
        (sources.entryContext position.ticket).elim "" EntryContext.symbol
      else position.symbol := by
    have dealt : (withDeal (lastSeenRecord position)
        (sources.closeDeal position.ticket)).symbol = position.symbol := by
      unfold withDeal
      split
      · rfl
      · split <;> rfl
    unfold buildCloseRecord withContext
    cases sources.entryContext position.ticket with
    | none =>
        dsimp only
        rw [dealt, Option.elim_none]
        split
        · assumption
        · rfl
    | some context =>
        dsimp only
        rw [dealt, Option.elim_some]
  rw [Names, same]
  rfl

/-- The symbols named by the close records of a cycle are those of the known positions
that are not read any more. -/
theorem exists_names_iff (runtime : Runtime) (sources : CloseSources)
    (positions : List Position) (symbol : String) :
    (∃ record ∈ (runtime.monitor.monitorAllPositions sources positions).1,
        Names record symbol) ↔
      ∃ position ∈ runtime.knownPositions,
        position.ticket ∉ positions.map Position.ticket ∧ IsOn sources position symbol := by
  unfold PositionMonitor.monitorAllPositions knownPositions
  cases runtime.monitor.closeDetector with
  | none => simp
  | some detector =>
      constructor
      · rintro ⟨record, built, names⟩
        obtain ⟨position, gone, rfl⟩ := List.mem_map.mp built
        obtain ⟨known, unread⟩ := List.mem_filter.mp gone
        exact ⟨position, known, of_decide_eq_true unread,
          (names_buildCloseRecord_iff sources position symbol).mp names⟩
      · rintro ⟨position, known, unread, named⟩
        apply Exists.intro (buildCloseRecord sources position)
        constructor
        · apply List.mem_map_of_mem
          exact List.mem_filter.mpr ⟨known, decide_eq_true unread⟩
        · exact (names_buildCloseRecord_iff sources position symbol).mpr named

/-- A cycle whose read succeeds frees signals by their own closes alone exactly when no
other position of their symbols leaves the book without them. -/
theorem freedByOwnClose_iff {liveMode : Bool} (runtime : Runtime) {cycle : Cycle}
    (succeeds : ¬ cycle.ReadFails liveMode) :
    FreedByOwnClose liveMode runtime cycle ↔ OwnCloseOnly liveMode runtime cycle := by
  have leaving := exists_names_iff runtime cycle.sources (cycle.positions liveMode)
  rw [Cycle.positions_of_not_fails succeeds] at leaving
  unfold FreedByOwnClose OwnCloseOnly
  cases entry : cycle.entry with
  | monitorAllPositions =>
      rw [forall_prop_of_true rfl, registry_monitorAll entry,
        Cycle.positions_of_not_fails succeeds]
      constructor
      · intro own symbol ticket opened left
        apply own symbol ticket opened
        obtain ⟨signal, found, -⟩ := opened
        exact isClosed_fireHooks ⟨signal, found⟩ ((leaving symbol).mpr left)
      · intro own symbol ticket opened closed
        apply own symbol ticket opened
        apply (leaving symbol).mp
        by_contra unnamed
        simp only [not_exists, not_and] at unnamed
        rw [IsClosed, fireHooks_get_of_not unnamed] at closed
        exact not_isClosed_of_openWith opened closed
  | detectPositionChanges =>
      rw [registry_detect entry]
      apply iff_of_true
      · intro symbol ticket opened closed
        exact absurd closed (not_isClosed_of_openWith opened)
      · exact fun other => EntryPoint.noConfusion other

end Runtime

/-- In a run whose reads all succeed, signals are freed by their own closes alone exactly
when in every cycle no other position of their symbols leaves the book without them. -/
theorem signals_freed_by_own_close_iff {liveMode : Bool} (runtime : Runtime)
    {cycles : List Cycle} (successful : ∀ cycle ∈ cycles, ¬ cycle.ReadFails liveMode) :
    Run.Every (Runtime.step liveMode) (Runtime.FreedByOwnClose liveMode) runtime cycles ↔
      Run.Every (Runtime.step liveMode) (Runtime.OwnCloseOnly liveMode) runtime cycles :=
  Run.every_congr_of_mem
    (fun state cycle member => state.freedByOwnClose_iff (successful cycle member)) runtime

namespace Sample

/-- A position of another program on the same symbol. -/
def foreignRow : BrokerRow :=
  { row with ticket := 6, magic := none }

/-- The service has opened a position. -/
def opensSignal (shared : SignalRegistry × Execution.Ledger) :
    SignalRegistry × Execution.Ledger :=
  (((shared.1.openSignal "EURUSD" "BUY" 1 .empty "" 0).markOpen "EURUSD" (.int 5)
    "entry terbuka" 0), shared.2)

/-- A cycle that sees the opened position and the foreign one. -/
def openingCycle : Cycle :=
  { goodCycle [row, foreignRow] with meanwhile := opensSignal }

end Sample

/-- The close of a foreign position frees the signal of an open one. -/
theorem foreign_close_frees_signal :
    ¬ Run.Every (Runtime.step true) (Runtime.FreedByOwnClose true) Sample.runtime
      [Sample.openingCycle, Sample.goodCycle [Sample.row]] := by
  rintro ⟨-, freed, -⟩
  have opened : Runtime.OpenWith ((Sample.runtime.step true Sample.openingCycle).meet
      (Sample.goodCycle [Sample.row])).registry "EURUSD" 5 :=
    ⟨_, rfl, rfl, rfl⟩
  have closed : Runtime.IsClosed ((Sample.runtime.step true Sample.openingCycle).step true
      (Sample.goodCycle [Sample.row])).registry "EURUSD" :=
    ⟨_, rfl, rfl⟩
  have left := (freed "EURUSD" 5 opened closed).2
  exact left (by decide +kernel)

/-- The own close of an open position frees its signal. -/
theorem signals_freed_by_own_close_iff_sample :
    Run.Every (Runtime.step true) (Runtime.FreedByOwnClose true) Sample.runtime
      [Sample.openingCycle, Sample.goodCycle [Sample.foreignRow]] := by
  apply (signals_freed_by_own_close_iff Sample.runtime _).mpr
  · constructor
    · rintro - symbol ticket - ⟨position, unseen, -⟩
      cases unseen
    · constructor
      · rintro - symbol ticket ⟨signal, found, -, held⟩ -
        have listed := (Dict.mem_entries_iff _ _ _).mpr found
        have own : signal.ticket = .int 5 :=
          congrArg (fun entry : String × ActiveSignal => entry.2.ticket)
            (List.mem_singleton.mp listed)
        obtain rfl : 5 = ticket := Val.int.inj (own.symm.trans held)
        exact ⟨by decide +kernel, by decide +kernel⟩
      · trivial
  · rw [List.forall_mem_cons, List.forall_mem_singleton]
    exact ⟨Option.some_ne_none _, Option.some_ne_none _⟩

end EaBot.Orchestration
