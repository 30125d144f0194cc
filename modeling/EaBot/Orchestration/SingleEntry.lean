import EaBot.Foundation.Run
import EaBot.Orchestration.AccountContext
import EaBot.Orchestration.Dispatches
import EaBot.Orchestration.SignalRetirement

/-!
# One entry at a time

The service handles one event after the other.  Every event gets its context from the
provider, goes through a decision cycle, and may leave positions at the broker that carry
the magic number of what was dispatched.

The one-entry policy looks at the context and at the configured magic number.  It holds
over a run when the positions that a cycle opens carry that number, and when a context
that is served from the cache already shows one of ours while one is open.
-/

namespace EaBot.Orchestration

open EaBot.Execution EaBot.Foundation EaBot.Mt5 TradingPipeline

/-- The parts that stay the same over a run. -/
structure Wiring where
  config : PipelineConfig
  builder : OrderBuilder
  render : ℚ → String

/-- The service between two events: what the pipeline and the provider remember, and the
positions that earlier cycles have opened and that have not been seen closed. -/
structure TradingService where
  pipeline : PipelineState
  provider : AccountContextProvider
  own : List BrokerRow

/-- One event: which of our positions have been closed since the last one, the other
positions of the book, what the rest of the service has done to the registry, the
provider's clock, what the terminal answers, the other inputs of the cycle, and the
positions that come of what it dispatches. -/
structure TradingEvent where
  closed : BrokerRow → Bool
  foreign : List BrokerRow
  meanwhile : SignalRegistry → SignalRegistry
  now : ℚ
  isMapping : Bool
  account : Option AccountInfo
  symbolInfo : String → Option SymbolInfo
  tick : String → Option Quote
  inputs : CycleInputs
  freshKey : String
  fills : Dispatch → List BrokerRow

/-- The symbol under which the provider keeps the context of an event.  A mapping has no
attributes. -/
def TradingEvent.cacheKey (event : TradingEvent) : String :=
  if event.isMapping then "" else (event.inputs.eventSymbol.orElse (.str "")).text

namespace TradingService

/-- The service as it is built. -/
def build (pipeline : PipelineState) (cacheTtl : ℚ) : TradingService :=
  ⟨pipeline, .create cacheTtl, []⟩

/-- The positions of earlier cycles that are in the book when an event arrives. -/
def stillOpen (service : TradingService) (event : TradingEvent) : List BrokerRow :=
  service.own.filter fun row => !event.closed row

/-- What the terminal answers; every read of the book succeeds. -/
def reads (service : TradingService) (event : TradingEvent) : TerminalReads where
  account := event.account
  positions := .rows (service.stillOpen event ++ event.foreign)
  symbolInfo := event.symbolInfo
  tick := event.tick

/-- The context that the provider serves for an event, and the provider afterwards. -/
def serve (wiring : Wiring) (service : TradingService) (event : TradingEvent) :
    AccountContext × AccountContextProvider :=
  service.provider.call event.cacheKey event.now
    (buildConnectorAccountContext wiring.render true (service.reads event) event.cacheKey)

/-- The inputs of the cycle of an event. -/
def inputsOf (wiring : Wiring) (service : TradingService) (event : TradingEvent) :
    CycleInputs :=
  { event.inputs with
    context := event.inputs.context.withAccount (service.serve wiring event).1
    orderBuilder := fun proposal quote =>
      wiring.builder.buildOrderRequest proposal quote event.freshKey }

/-- The cycle of an event. -/
def outcome (wiring : Wiring) (service : TradingService) (event : TradingEvent) :
    PipelineOutcome :=
  run wiring.config (service.inputsOf wiring event)
    { service.pipeline with registry := event.meanwhile service.pipeline.registry }

/-- What the cycle of an event dispatches. -/
def dispatches (wiring : Wiring) (service : TradingService) (event : TradingEvent) :
    List Dispatch :=
  (service.outcome wiring event).cycle.dispatches

/-- The positions that come of a dispatch carry its magic number. -/
def opened (event : TradingEvent) (dispatch : Dispatch) : List BrokerRow :=
  (event.fills dispatch).map fun row => { row with magic := some dispatch.magic }

/-- The service after an event. -/
def step (wiring : Wiring) (service : TradingService) (event : TradingEvent) :
    TradingService where
  pipeline := (service.outcome wiring event).cycle.state
  provider := (service.serve wiring event).2
  own := service.stillOpen event ++ (service.dispatches wiring event).flatMap (opened event)

end TradingService

/-! ## The policy over a run -/

/-- Nothing is dispatched while a position of an earlier cycle is in the book. -/
def OneEntry (wiring : Wiring) (service : TradingService) (event : TradingEvent) : Prop :=
  service.stillOpen event ≠ [] → service.dispatches wiring event = []

/-- The positions that a cycle opens carry the configured magic number, which is not zero,
and a cached context that is served while one of ours is open shows one of ours. -/
structure Recognises (wiring : Wiring) (service : TradingService) (event : TradingEvent) :
    Prop where
  nonzero : wiring.config.entryMagic ≠ 0
  labels : event.inputs.fanoutCoordinator ≠ none ∨
    wiring.builder.defaultMagic = wiring.config.entryMagic
  shows : service.stillOpen event ≠ [] → ∀ context,
    service.provider.cached event.cacheKey event.now = some context →
      ownPositionTicket wiring.config.entryMagic (context.currentPositions.getD []) ≠ none

/-- The positions of earlier cycles carry the configured magic number. -/
def Labelled (wiring : Wiring) (service : TradingService) : Prop :=
  ∀ row ∈ service.own, row.magic = some wiring.config.entryMagic

theorem buildProposal_magic (inputs : CycleInputs) (proposal : Record)
    (validation : ValidationInputs) :
    (buildProposal inputs proposal validation).get "magic" = none := by
  unfold buildProposal
  rw [Dict.get_update_of_notMem _ _ _ (by simp)]
  exact Dict.get_empty _

/-- What a cycle dispatches carries the configured magic number. -/
theorem dispatches_magic {wiring : Wiring} {service : TradingService} {event : TradingEvent}
    (recognises : Recognises wiring service event) :
    ∀ dispatch ∈ service.dispatches wiring event,
      dispatch.magic = wiring.config.entryMagic := by
  intro dispatch sent
  have justified := run_justified wiring.config (service.inputsOf wiring event) _ dispatch sent
  rcases justified.labelled with ⟨-, labelled⟩ | ⟨alone, proposal, validation, order, built, same⟩
  · exact labelled
  · rcases recognises.labels with coordinated | agree
    · exact absurd alone coordinated
    · rw [same, ← agree]
      exact OrderBuilder.buildOrderRequest_magic built (buildProposal_magic _ _ _)

/-- An event leaves the positions of its cycle with the configured magic number. -/
theorem labelled_step {wiring : Wiring} (service : TradingService) (event : TradingEvent)
    (labelled : Labelled wiring service) (recognises : Recognises wiring service event) :
    Labelled wiring (service.step wiring event) := by
  intro row present
  rcases List.mem_append.mp present with kept | filled
  · exact labelled row (List.mem_filter.mp kept).1
  · obtain ⟨dispatch, sent, opened⟩ := List.mem_flatMap.mp filled
    obtain ⟨fill, -, rfl⟩ := List.mem_map.mp opened
    exact congrArg some (dispatches_magic recognises dispatch sent)

/-- A list that shows a position of ours is the one that the cycle works on. -/
theorem withAccount_positions (context : AnalysisContext) {account : AccountContext}
    {entryMagic : Int}
    (shows : ownPositionTicket entryMagic (account.currentPositions.getD []) ≠ none) :
    (context.withAccount account).currentPositions = account.currentPositions := by
  unfold AnalysisContext.withAccount
  cases positions : account.currentPositions with
  | none =>
      rw [positions] at shows
      exact absurd rfl shows
  | some listed => rfl

/-- While a position of an earlier cycle is in the book, the provider serves a context
that shows one of ours. -/
theorem serve_shows {wiring : Wiring} {service : TradingService} {event : TradingEvent}
    (labelled : Labelled wiring service) (recognises : Recognises wiring service event)
    (remains : service.stillOpen event ≠ []) :
    ownPositionTicket wiring.config.entryMagic
      ((service.serve wiring event).1.currentPositions.getD []) ≠ none := by
  unfold TradingService.serve AccountContextProvider.call
  cases hit : service.provider.cached event.cacheKey event.now with
  | some context => exact recognises.shows remains context hit
  | none =>
      obtain ⟨row, rest, listed⟩ := List.exists_cons_of_ne_nil remains
      have member : row ∈ service.stillOpen event := by
        rw [listed]
        exact List.mem_cons_self
      have magic := labelled row (List.mem_filter.mp member).1
      exact ownPositionTicket_of_row event.cacheKey rfl (List.mem_append_left _ member) magic
        recognises.nonzero

/-- An event whose context shows a position of ours dispatches nothing while one is
open. -/
theorem oneEntry_of_recognises {wiring : Wiring} (policy : wiring.config.singleEntryPolicy = true)
    (service : TradingService) (event : TradingEvent) (labelled : Labelled wiring service)
    (recognises : Recognises wiring service event) : OneEntry wiring service event := by
  intro remains
  have shows := serve_shows labelled recognises remains
  apply List.eq_nil_iff_forall_not_mem.mpr
  intro dispatch sent
  have justified := run_justified wiring.config (service.inputsOf wiring event) _ dispatch sent
  apply shows
  rw [← withAccount_positions event.inputs.context shows]
  exact justified.single policy

/-- In a run whose events all recognise our positions, nothing is dispatched while a
position of an earlier cycle is in the book. -/
theorem one_entry_at_a_time (wiring : Wiring) (policy : wiring.config.singleEntryPolicy = true)
    (pipeline : PipelineState) (cacheTtl : ℚ) (events : List TradingEvent)
    (recognised : Run.Every (TradingService.step wiring) (Recognises wiring)
      (.build pipeline cacheTtl) events) :
    Run.Every (TradingService.step wiring) (OneEntry wiring) (.build pipeline cacheTtl)
      events := by
  apply recognised.of_invariant (Labelled wiring)
  · intro row present
    cases present
  · exact labelled_step
  · exact oneEntry_of_recognises policy

/-! ## Two symbols within the time of the cache -/

namespace Sample

/-- The production wiring: the order builder's default magic number is the configured
one. -/
def wiring : Wiring where
  config := pipelineConfig
  builder :=
    { defaultMagic := 70000, symbolPrefix := "", symbolSuffix := "",
      symbolSpecProvider := none, render := fun _ => "" }
  render := fun _ => ""

/-- The supervisor's answer for a symbol, with or without an entry. -/
def answer (symbol : String) (entry : Bool) : Analysis :=
  ⟨if entry then some (entryProposal.set "symbol" (.str symbol)) else none, none, .str symbol,
    .none, .none, .str "BULLISH", .num ⟨9 / 10, "0.9"⟩, .str "", ""⟩

/-- An event of a symbol at an instant.  Its order is filled as a position. -/
def eventAt (now : ℚ) (symbol : String) (entry : Bool) : TradingEvent where
  closed := fun _ => false
  foreign := []
  meanwhile := id
  now := now
  isMapping := false
  account := none
  symbolInfo := fun _ => none
  tick := fun _ => none
  inputs :=
    { gateRaises with
      eventSymbol := .str symbol
      supervisor := fun _ => .ok (answer symbol entry)
      riskGate := fun _ _ => .ok ⟨true, "approved"⟩
      executionEngine := some ⟨fun _ => .ok ⟨true, .int 7, .int 0, .str ""⟩, none⟩ }
  freshKey := "ord_1"
  fills := fun _ => [⟨7, symbol, 0, 1 / 100, 11 / 10, 11 / 10, 0, 0, none, 1, 13 / 10⟩]

/-- An event of a second symbol whose context is read after the first entry. -/
def spreadOut : List TradingEvent :=
  [eventAt 0 "EURUSD" true, eventAt 1 "GBPUSD" true]

/-- A second symbol whose context was read before the first entry and is served again. -/
def closeTogether : List TradingEvent :=
  [eventAt 0 "GBPUSD" false, eventAt (1 / 2) "EURUSD" true, eventAt 1 "GBPUSD" true]

end Sample

/-- The policy keeps the second symbol from an entry when its context is read anew. -/
theorem one_entry_at_a_time_sample :
    Run.Every (TradingService.step Sample.wiring) (OneEntry Sample.wiring)
      (.build Sample.pipelineState 2) Sample.spreadOut := by
  apply one_entry_at_a_time Sample.wiring rfl
  have missed (service : TradingService) (event : TradingEvent)
      (absent : (service.provider.cached event.cacheKey event.now).isNone = true) :
      Recognises Sample.wiring service event := by
    refine ⟨by decide, Or.inr rfl, fun _ context hit => ?_⟩
    rw [hit] at absent
    cases absent
  refine ⟨missed _ _ ?_, missed _ _ ?_, trivial⟩
  · decide +kernel
  · decide +kernel

/-- Two symbols within the time of the cache give two entries at a time. -/
theorem second_symbol_enters_within_cache :
    ¬ Run.Every (TradingService.step Sample.wiring) (OneEntry Sample.wiring)
      (.build Sample.pipelineState 2) Sample.closeTogether := by
  rintro ⟨-, -, third, -⟩
  have sent := congrArg List.length (third (by decide +kernel))
  revert sent
  decide +kernel

end EaBot.Orchestration
