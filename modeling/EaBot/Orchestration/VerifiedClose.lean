import EaBot.Orchestration.Runtime

/-!
# Closes and verified reads

A close is verified when it takes effect in a cycle whose read succeeded and whose
book does not have the ticket.  With the wiring of the runtime a cycle is verified
exactly when its read succeeds or nothing is at stake: neither entry point can tell
a failed read from an empty book.  The effects of a run are those of a watcher over
the successive books, so a verified run closes every ticket at most once as long as
the terminal does not hand out a ticket again.
-/

namespace EaBot.Orchestration

open EaBot.Foundation EaBot.Monitoring EaBot.Mt5 EaBot.Review

namespace Runtime

/-- Every close of the cycle follows a successful read of a book without the ticket. -/
def Verified (liveMode : Bool) (runtime : Runtime) (cycle : Cycle) : Prop :=
  ∀ effect ∈ runtime.effects liveMode cycle,
    ¬ cycle.ReadFails liveMode ∧ effect.ticket ∉ cycle.tickets liveMode

/-- Every close of a run is verified, and none takes effect twice. -/
def ClosesVerified (liveMode : Bool) (runtime : Runtime) (cycles : List Cycle) : Prop :=
  Run.Every (step liveMode) (Verified liveMode) runtime cycles ∧
    (Run.emitted (step liveMode) (effects liveMode) runtime cycles).Nodup

/-- No close can take effect at the entry point of the cycle: the close detector knows
no ticket, or no remembered ticket has a ledger record that could be closed. -/
def NothingAtStake (runtime : Runtime) (cycle : Cycle) : Prop :=
  match cycle.entry with
  | .monitorAllPositions => runtime.knownTickets = []
  | .detectPositionChanges =>
      ∀ ticket ∈ runtime.trackedTickets,
        (PositionMonitor.markTicketClosed (runtime.meet cycle).ledger.store ticket).1 = false

/-- The read of the cycle succeeds or nothing is at stake. -/
def Guarded (liveMode : Bool) (runtime : Runtime) (cycle : Cycle) : Prop :=
  cycle.ReadFails liveMode → runtime.NothingAtStake cycle

/-! ## The hook -/

section Hooks

variable (now : ℚ)

/-- Handing over a close record always fires the hook, and may free a signal. -/
theorem mem_fireHooks {registry : SignalRegistry} {records : List CloseRecord}
    {effect : Effect} (member : effect ∈ (fireHooks registry now records).1) :
    effect.kind ≠ .ledgerClosed ∧ effect.ticket ∈ records.map CloseRecord.ticket := by
  induction records generalizing registry with
  | nil => cases member
  | cons record rest ih =>
      rw [List.map_cons, List.mem_cons]
      rcases List.mem_cons.mp member with same | onwards
      · rw [same]
        exact ⟨EffectKind.noConfusion, Or.inl rfl⟩
      · rcases List.mem_append.mp onwards with freed | later
        · split at freed
          · rw [List.mem_singleton.mp freed]
            exact ⟨EffectKind.noConfusion, Or.inl rfl⟩
          · cases freed
        · exact ⟨(ih later).1, Or.inr (ih later).2⟩

theorem nodup_fireHooks {registry : SignalRegistry} {records : List CloseRecord}
    (distinct : (records.map CloseRecord.ticket).Nodup) :
    (fireHooks registry now records).1.Nodup := by
  induction records generalizing registry with
  | nil => exact List.nodup_nil
  | cons record rest ih =>
      obtain ⟨absent, distinct⟩ := List.nodup_cons.mp distinct
      have fresh : ∀ kind, ⟨kind, record.ticket⟩ ∉
          (fireHooks (onCloseEmitTradeEvent registry now record).2 now rest).1 :=
        fun kind member => absent (mem_fireHooks now member).2
      rw [fireHooks, List.nodup_cons]
      split
      · constructor
        · rw [List.mem_append, List.mem_singleton]
          rintro (same | later)
          · exact EffectKind.noConfusion (congrArg Effect.kind same)
          · exact fresh _ later
        · exact List.nodup_cons.mpr ⟨fresh _, ih distinct⟩
      · exact ⟨fresh _, ih distinct⟩

end Hooks

/-! ## One cycle -/

section Cycle

variable (liveMode : Bool) (runtime : Runtime) (cycle : Cycle)

/-- The vanished tickets as the close detector of the runtime sees them. -/
def vanishedTickets (positions : List Position) : List Int :=
  runtime.knownTickets.filter fun ticket => ticket ∉ positions.map Position.ticket

theorem mem_vanishedTickets (positions : List Position) (ticket : Int) :
    ticket ∈ runtime.vanishedTickets positions ↔
      ticket ∈ runtime.knownTickets ∧ ticket ∉ positions.map Position.ticket := by
  rw [vanishedTickets, List.mem_filter, decide_eq_true_iff]

theorem record_tickets (sources : CloseSources) (positions : List Position) :
    (runtime.monitor.monitorAllPositions sources positions).1.map CloseRecord.ticket =
      runtime.vanishedTickets positions := by
  unfold PositionMonitor.monitorAllPositions vanishedTickets knownTickets
  cases runtime.monitor.closeDetector with
  | none => rfl
  | some detector =>
      exact (detector.observe_tickets sources positions).trans (detector.vanished_tickets _)

theorem nodup_knownTickets : runtime.knownTickets.Nodup := by
  unfold knownTickets
  cases runtime.monitor.closeDetector with
  | none => exact List.nodup_nil
  | some detector => exact detector.known.distinct

/-- The tickets that a cycle may close. -/
def mayClose : List Int :=
  match cycle.entry with
  | .monitorAllPositions => runtime.vanishedTickets (cycle.positions liveMode)
  | .detectPositionChanges => runtime.monitor.goneTickets (cycle.positions liveMode)

/-- The tickets that the entry point of the cycle keeps an account of. -/
def account : List Int :=
  match cycle.entry with
  | .monitorAllPositions => runtime.knownTickets
  | .detectPositionChanges => runtime.trackedTickets

theorem mem_mayClose (ticket : Int) :
    ticket ∈ runtime.mayClose liveMode cycle ↔
      ticket ∈ runtime.account cycle ∧
        ticket ∉ (cycle.positions liveMode).map Position.ticket := by
  unfold mayClose account
  cases cycle.entry with
  | monitorAllPositions => exact runtime.mem_vanishedTickets _ _
  | detectPositionChanges => exact runtime.monitor.mem_goneTickets _ _

/-- The effects of a cycle that observes the positions. -/
theorem effects_monitorAll (entry : cycle.entry = .monitorAllPositions) :
    runtime.effects liveMode cycle =
      (fireHooks (runtime.meet cycle).registry cycle.now
        (runtime.monitor.monitorAllPositions cycle.sources (cycle.positions liveMode)).1).1 := by
  rw [effects, Runtime.cycle, entry]
  rfl

/-- The effects of a cycle that compares the positions. -/
theorem effects_detect (entry : cycle.entry = .detectPositionChanges) :
    runtime.effects liveMode cycle =
      (PositionMonitor.closeTickets (runtime.meet cycle).ledger.store
        (runtime.monitor.goneTickets (cycle.positions liveMode))).1.map
          fun ticket => ⟨.ledgerClosed, ticket⟩ := by
  rw [effects, Runtime.cycle, entry]
  rfl

theorem mem_effects {effect : Effect} (member : effect ∈ runtime.effects liveMode cycle) :
    effect.ticket ∈ runtime.mayClose liveMode cycle := by
  unfold mayClose
  cases entry : cycle.entry with
  | monitorAllPositions =>
      rw [runtime.effects_monitorAll liveMode cycle entry] at member
      exact runtime.record_tickets cycle.sources _ ▸ (mem_fireHooks _ member).2
  | detectPositionChanges =>
      rw [runtime.effects_detect liveMode cycle entry] at member
      obtain ⟨ticket, closed, same⟩ := List.mem_map.mp member
      rw [← same]
      exact (PositionMonitor.closeTickets_sublist _ _).subset closed

/-- A cycle has no effect exactly when the tickets that it may close are none, or none of
them has a ledger record that could be closed. -/
theorem effects_eq_nil_iff :
    runtime.effects liveMode cycle = [] ↔
      match cycle.entry with
      | .monitorAllPositions => runtime.mayClose liveMode cycle = []
      | .detectPositionChanges =>
          ∀ ticket ∈ runtime.mayClose liveMode cycle,
            (PositionMonitor.markTicketClosed (runtime.meet cycle).ledger.store ticket).1 =
              false := by
  unfold mayClose
  cases entry : cycle.entry with
  | monitorAllPositions =>
      dsimp only
      rw [runtime.effects_monitorAll liveMode cycle entry,
        ← runtime.record_tickets cycle.sources, List.map_eq_nil_iff]
      constructor
      · intro silent
        cases fired : (runtime.monitor.monitorAllPositions cycle.sources
            (cycle.positions liveMode)).1 with
        | nil => rfl
        | cons record rest =>
            rw [fired] at silent
            cases silent
      · intro none
        rw [none]
        rfl
  | detectPositionChanges =>
      dsimp only
      rw [runtime.effects_detect liveMode cycle entry, List.map_eq_nil_iff,
        PositionMonitor.closeTickets_eq_nil_iff]

/-- A cycle is verified exactly when its read succeeds or nothing is at stake. -/
theorem verified_iff_guarded :
    Verified liveMode runtime cycle ↔ Guarded liveMode runtime cycle := by
  by_cases fails : cycle.ReadFails liveMode
  · have unread : ∀ ticket, ticket ∈ runtime.mayClose liveMode cycle ↔
        ticket ∈ runtime.account cycle := by
      intro ticket
      rw [mem_mayClose, Cycle.positions_of_fails fails]
      exact and_iff_left List.not_mem_nil
    have verified : Verified liveMode runtime cycle ↔ runtime.effects liveMode cycle = [] := by
      rw [List.eq_nil_iff_forall_not_mem]
      exact forall_congr' fun effect =>
        ⟨fun verified member => (verified member).1 fails, fun silent member =>
          absurd member silent⟩
    have guarded : Guarded liveMode runtime cycle ↔ runtime.NothingAtStake cycle :=
      forall_prop_of_true fails
    rw [verified, guarded, effects_eq_nil_iff, NothingAtStake]
    unfold account at unread
    cases entry : cycle.entry with
    | monitorAllPositions =>
        simp only [entry] at unread
        simp only [List.eq_nil_iff_forall_not_mem, unread]
    | detectPositionChanges =>
        simp only [entry] at unread
        simp only [unread]
  · apply iff_of_true
    · intro effect member
      have missing := ((runtime.mem_mayClose liveMode cycle _).mp
        (runtime.mem_effects liveMode cycle member)).2
      rw [Cycle.positions_of_not_fails fails] at missing
      exact ⟨fails, missing⟩
    · exact fun failed => absurd failed fails

end Cycle

/-! ## Runs -/

section Runs

variable (liveMode : Bool) (runtime : Runtime) (cycle : Cycle)

/-- The closes that the runtime could still report, by the account that its entry point
keeps. -/
def accounts : Set Effect :=
  {effect | match effect.kind with
    | .ledgerClosed => effect.ticket ∈ runtime.trackedTickets
    | _ => effect.ticket ∈ runtime.knownTickets}

/-- The closes of the tickets in the book of a cycle. -/
def inBook : Set Effect :=
  {effect | effect.ticket ∈ cycle.tickets liveMode}

/-- The tickets that the runtime keeps any account of. -/
def accountedTickets : Set Int :=
  {ticket | ticket ∈ runtime.knownTickets ∨ ticket ∈ runtime.trackedTickets}

/-- The tickets of the positions that a cycle reads are in its book. -/
theorem read_subset_tickets {ticket : Int}
    (read : ticket ∈ (cycle.positions liveMode).map Position.ticket) :
    ticket ∈ cycle.tickets liveMode := by
  by_cases fails : cycle.ReadFails liveMode
  · rw [Cycle.positions_of_fails fails] at read
    cases read
  · rw [Cycle.positions_of_not_fails fails] at read
    exact read

theorem step_monitorAll (entry : cycle.entry = .monitorAllPositions) :
    runtime.step liveMode cycle =
      ((runtime.meet cycle).monitorPositions cycle.sources cycle.now
        (cycle.positions liveMode)).2 := by
  rw [step, Runtime.cycle, entry]
  rfl

theorem step_detect (entry : cycle.entry = .detectPositionChanges) :
    runtime.step liveMode cycle =
      ((runtime.meet cycle).detectChanges (true, cycle.positions liveMode)).2 := by
  rw [step, Runtime.cycle, entry]
  rfl

/-- Observing the positions leaves the remembered levels alone. -/
theorem trackedTickets_of_monitorAll (entry : cycle.entry = .monitorAllPositions) :
    (runtime.step liveMode cycle).trackedTickets = runtime.trackedTickets := by
  rw [step_monitorAll _ _ _ entry]
  unfold trackedTickets monitorPositions PositionMonitor.monitorAllPositions meet
  dsimp only
  split <;> rfl

theorem mem_knownTickets_of_monitorAll (entry : cycle.entry = .monitorAllPositions)
    {ticket : Int} (known : ticket ∈ (runtime.step liveMode cycle).knownTickets) :
    ticket ∈ (cycle.positions liveMode).map Position.ticket := by
  rw [step_monitorAll _ _ _ entry] at known
  unfold knownTickets monitorPositions PositionMonitor.monitorAllPositions meet at known
  dsimp only at known
  cases detector : runtime.monitor.closeDetector with
  | none =>
      rw [detector] at known
      dsimp only [PositionMonitor.snapshotPositions] at known
      rw [detector] at known
      cases known
  | some before =>
      rw [detector] at known
      exact (before.mem_tickets_observe cycle.sources _ _).mp known

/-- Comparing the positions leaves the close detector alone. -/
theorem knownTickets_of_detect (entry : cycle.entry = .detectPositionChanges) :
    (runtime.step liveMode cycle).knownTickets = runtime.knownTickets := by
  rw [step_detect _ _ _ entry]
  rfl

theorem mem_trackedTickets_of_detect (entry : cycle.entry = .detectPositionChanges)
    {ticket : Int} (tracked : ticket ∈ (runtime.step liveMode cycle).trackedTickets) :
    ticket ∈ (cycle.positions liveMode).map Position.ticket := by
  rw [step_detect _ _ _ entry] at tracked
  have monitored := (runtime.monitor.mem_tickets_detect (runtime.meet cycle).ledger.store
    (cycle.positions liveMode) ticket).mp tracked
  exact monitored.2

/-- The kind of an effect tells which entry point it comes from. -/
theorem kind_of_mem_effects {effect : Effect} (member : effect ∈ runtime.effects liveMode cycle) :
    effect.kind = .ledgerClosed ↔ cycle.entry = .detectPositionChanges := by
  cases entry : cycle.entry with
  | monitorAllPositions =>
      rw [runtime.effects_monitorAll liveMode cycle entry] at member
      exact iff_of_false (mem_fireHooks _ member).1 EntryPoint.noConfusion
  | detectPositionChanges =>
      rw [runtime.effects_detect liveMode cycle entry] at member
      obtain ⟨ticket, -, same⟩ := List.mem_map.mp member
      exact iff_of_true (same ▸ rfl) rfl

theorem nodup_effects : (runtime.effects liveMode cycle).Nodup := by
  cases entry : cycle.entry with
  | monitorAllPositions =>
      rw [runtime.effects_monitorAll liveMode cycle entry]
      apply nodup_fireHooks
      rw [record_tickets]
      exact runtime.nodup_knownTickets.filter _
  | detectPositionChanges =>
      rw [runtime.effects_detect liveMode cycle entry]
      apply List.Nodup.map fun first second same => congrArg Effect.ticket same
      exact (runtime.monitor.nodup_goneTickets _).sublist
        (PositionMonitor.closeTickets_sublist _ _)

/-- An account afterwards holds what it held before or what the book has. -/
theorem accounts_step_subset :
    (runtime.step liveMode cycle).accounts ⊆ runtime.accounts ∪ inBook liveMode cycle := by
  rintro ⟨kind, ticket⟩ held
  cases entry : cycle.entry with
  | monitorAllPositions =>
      cases kind with
      | ledgerClosed =>
          have tracked : ticket ∈ (runtime.step liveMode cycle).trackedTickets := held
          rw [runtime.trackedTickets_of_monitorAll liveMode cycle entry] at tracked
          exact Or.inl tracked
      | _ =>
          have read := runtime.mem_knownTickets_of_monitorAll liveMode cycle entry held
          exact Or.inr (read_subset_tickets liveMode cycle read)
  | detectPositionChanges =>
      cases kind with
      | ledgerClosed =>
          have read := runtime.mem_trackedTickets_of_detect liveMode cycle entry held
          exact Or.inr (read_subset_tickets liveMode cycle read)
      | _ =>
          have known : ticket ∈ (runtime.step liveMode cycle).knownTickets := held
          rw [runtime.knownTickets_of_detect liveMode cycle entry] at known
          exact Or.inl known

/-- A verified cycle is an observation of its book by a watcher of the closes. -/
theorem observes (verified : Verified liveMode runtime cycle) :
    Observes (inBook liveMode cycle) runtime.accounts (runtime.step liveMode cycle).accounts
      (runtime.effects liveMode cycle) where
  within := runtime.accounts_step_subset liveMode cycle
  held := by
    rintro ⟨kind, ticket⟩ member
    have accounted := ((runtime.mem_mayClose liveMode cycle _).mp
      (runtime.mem_effects liveMode cycle member)).1
    have source := runtime.kind_of_mem_effects liveMode cycle member
    unfold account at accounted
    cases entry : cycle.entry with
    | monitorAllPositions =>
        rw [entry] at accounted
        cases kind with
        | ledgerClosed => exact EntryPoint.noConfusion ((source.mp rfl).symm.trans entry)
        | _ => exact accounted
    | detectPositionChanges =>
        rw [entry] at accounted
        cases kind with
        | ledgerClosed => exact accounted
        | _ => exact EffectKind.noConfusion (source.mpr entry)
  missing := fun effect member => (verified effect member).2
  dropped := by
    rintro ⟨kind, ticket⟩ member held
    have unread := ((runtime.mem_mayClose liveMode cycle _).mp
      (runtime.mem_effects liveMode cycle member)).2
    have source := runtime.kind_of_mem_effects liveMode cycle member
    cases entry : cycle.entry with
    | monitorAllPositions =>
        cases kind with
        | ledgerClosed => exact EntryPoint.noConfusion ((source.mp rfl).symm.trans entry)
        | _ => exact unread (runtime.mem_knownTickets_of_monitorAll liveMode cycle entry held)
    | detectPositionChanges =>
        cases kind with
        | ledgerClosed =>
            exact unread (runtime.mem_trackedTickets_of_detect liveMode cycle entry held)
        | _ => exact EffectKind.noConfusion (source.mpr entry)
  nodup := runtime.nodup_effects liveMode cycle

/-- A verified run watches the successive books. -/
theorem watched {runtime : Runtime} {cycles : List Cycle}
    (verified : Run.Every (step liveMode) (Verified liveMode) runtime cycles) :
    Watched runtime.accounts (cycles.map (inBook liveMode))
      (Run.emitted (step liveMode) (effects liveMode) runtime cycles) := by
  induction cycles generalizing runtime with
  | nil => exact Watched.nil _
  | cons cycle rest ih =>
      exact Watched.cons (runtime.observes liveMode cycle verified.1) (ih verified.2)

/-- A run in which every cycle is verified closes nothing twice when the terminal does
not hand out a ticket again. -/
theorem nodup_of_verified {runtime : Runtime} {cycles : List Cycle}
    (unique : NeverReturns (runtime.accountedTickets ::
      cycles.map fun cycle => {ticket | ticket ∈ cycle.tickets liveMode}))
    (verified : Run.Every (step liveMode) (Verified liveMode) runtime cycles) :
    (Run.emitted (step liveMode) (effects liveMode) runtime cycles).Nodup := by
  apply (watched liveMode verified).nodup
  have indexed := unique.preimage Effect.ticket
  rw [List.map_cons, List.map_map] at indexed
  apply indexed.of_subset
  rintro ⟨kind, ticket⟩ held
  cases kind with
  | ledgerClosed => exact Or.inr held
  | _ => exact Or.inl held

end Runs

end Runtime

/-- As long as the terminal hands out every ticket once, the closes of a run are verified
and happen once exactly when every failed read finds nothing at stake, and a verified
read of the connector is complete exactly when its second read does not fail after the
first one has found positions. -/
theorem closes_verified_iff {liveMode : Bool} {runtime : Runtime} {cycles : List Cycle}
    (unique : NeverReturns (runtime.accountedTickets ::
      cycles.map fun cycle => {ticket | ticket ∈ cycle.tickets liveMode})) :
    (runtime.ClosesVerified liveMode cycles ↔
        Run.Every (Runtime.step liveMode) (Runtime.Guarded liveMode) runtime cycles) ∧
      ∀ read second, CompleteWhenVerified liveMode read second ↔
        (completeList liveMode second = none → (completeList liveMode read).getD [] = []) := by
  have verified : Run.Every (Runtime.step liveMode) (Runtime.Verified liveMode) runtime cycles ↔
      Run.Every (Runtime.step liveMode) (Runtime.Guarded liveMode) runtime cycles := by
    constructor
    · exact Run.Every.mono fun state cycle => (state.verified_iff_guarded liveMode cycle).mp
    · exact Run.Every.mono fun state cycle => (state.verified_iff_guarded liveMode cycle).mpr
  constructor
  · rw [← verified]
    exact and_iff_left_of_imp (Runtime.nodup_of_verified liveMode unique)
  · exact completeWhenVerified_iff liveMode

namespace Sample

/-- A row of the terminal's position table. -/
def row : BrokerRow :=
  ⟨5, "EURUSD", 0, 1, 11 / 10, 11 / 10, 0, 0, some 70000, 0, 0⟩

/-- Nothing is known about closes. -/
def noSources : CloseSources :=
  ⟨fun _ => none, fun _ => none⟩

/-- A cycle that reads a book. -/
def goodCycle (rows : List BrokerRow) : Cycle :=
  ⟨.monitorAllPositions, id, rows, .succeeds, noSources, 0⟩

/-- A cycle whose read returns nothing. -/
def failedCycle (rows : List BrokerRow) : Cycle :=
  ⟨.monitorAllPositions, id, rows, .fails .none fun _ => RawRead.noConfusion, noSources, 0⟩

/-- A runtime that has just been wired. -/
def runtime : Runtime :=
  Runtime.build none .initial .initial

end Sample

/-- A failed read closes a position that is still in the book, and the verified read
answers positively with an empty list when its second read fails. -/
theorem failed_read_closes :
    ¬ Sample.runtime.ClosesVerified true
        [Sample.goodCycle [Sample.row], Sample.failedCycle [Sample.row]] ∧
      ¬ CompleteWhenVerified true (.rows [Sample.row]) .none := by
  constructor
  · rintro ⟨⟨-, closing, -⟩, -⟩
    have fired := closing ⟨.onClose, 5⟩ (by decide +kernel)
    exact fired.1 rfl
  · intro complete
    rcases complete rfl with first | second
    · exact absurd first (by decide +kernel)
    · cases second

/-- A position that leaves the book between two successful reads. -/
theorem closes_verified_iff_sample :
    Sample.runtime.ClosesVerified true [Sample.goodCycle [Sample.row], Sample.goodCycle []] := by
  apply (closes_verified_iff _).1.mpr
  · exact ⟨fun fails => absurd fails (Option.some_ne_none _),
      fun fails => absurd fails (Option.some_ne_none _), trivial⟩
  · intro earlier now later sub key held left
    obtain ⟨rfl, rfl, rfl⟩ : earlier = Sample.runtime.accountedTickets ∧ _ ∧ _ := by
      simpa using sub.eq_of_length rfl
    cases held with
    | inl known => cases known
    | inr tracked => cases tracked

end EaBot.Orchestration
