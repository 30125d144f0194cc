import EaBot.Execution.AccountOrders
import EaBot.Orchestration.SignalRetirement
import EaBot.Trading.CanonicalSignal

/-!
# One opportunity and its identifiers

The pipeline can be asked twice to build the signal of one opportunity.  The fan-out
recognises the second signal by its identifier alone: an account whose order for that
identifier has come to an end is skipped.

The identifier of a signal that the committee has not named depends on the second at which
the signal is built.  Two seconds give two identifiers, unless the hashes of the two
identities agree by accident.
-/

namespace EaBot.Orchestration

open EaBot.Foundation EaBot.Execution EaBot.Execution.CanonicalFanout EaBot.Trading
open TradingPipeline (buildCanonicalSignal)

/-! ## A second fan-out -/

section Fanout

variable {key : String × String}

theorem isTerminal_eq (ledger : FanoutLedger) (signalId accountId : String) :
    ledger.isTerminal signalId accountId =
      (ledger.recordAt (signalId, accountId)).any fun dispatch => dispatch.status.terminal :=
  rfl

/-- The events concern the record under one key only. -/
def Concerns (key : String × String) (events : List FanoutEvent) : Prop :=
  (∀ event ∈ events, ∀ dispatch, event.recorded = some dispatch → dispatch.key = key) ∧
    ∀ dispatch request, FanoutEvent.executed dispatch request ∈ events → dispatch.key = key

/-- Events that concern another key leave a record as it is. -/
theorem Concerns.recordAt_replay {events : List FanoutEvent} (concerns : Concerns key events)
    {other : String × String} (apart : other ≠ key) (ledger : FanoutLedger) :
    (ledger.replay events).recordAt other = ledger.recordAt other := by
  induction events generalizing ledger with
  | nil => rfl
  | cons event rest ih =>
      have first : (ledger.apply event).recordAt other = ledger.recordAt other := by
        rcases FanoutLedger.recordAt_apply ledger event other with
          same | ⟨dispatch, recorded, here, -⟩
        · exact same
        · have named := concerns.1 event List.mem_cons_self dispatch recorded
          exact absurd (here.trans named) apart
      have later : Concerns key rest :=
        ⟨fun event member => concerns.1 event (.tail _ member),
          fun dispatch request member => concerns.2 dispatch request (.tail _ member)⟩
      exact (ih later _).trans first

/-- What a visit does concerns the account that is visited. -/
theorem visit_concerns (connected : Bool) (parts : FanoutParts) (signal : CanonicalSignal)
    (target : FanoutTarget) (raw : Option RawProposal) :
    Concerns (placeholder signal target).key
      (.upserted (placeholder signal target) ::
        (visitTarget connected parts signal target raw).events ++
        [.upserted (visitTarget connected parts signal target raw).dispatch]) := by
  rcases visitTarget_concluded parts signal target connected raw with
    ⟨sent, earlier, final, underway, ended, names, -⟩
  rw [ended]
  constructor
  · intro event member dispatch recorded
    simp only [AccountProcess.change, List.cons_append, List.append_assoc, List.mem_cons,
      List.mem_append, List.not_mem_nil, or_false, List.nil_append] at member
    rcases member with rfl | before | rfl | rfl
    · cases recorded
      rfl
    · exact (underway.records event before dispatch recorded).1
    · cases recorded
      exact names
    · cases recorded
      exact names
  · intro dispatch request member
    simp only [AccountProcess.change, List.cons_append, List.append_assoc, List.mem_cons,
      List.mem_append, List.not_mem_nil, or_false, List.nil_append, reduceCtorEq, false_or]
      at member
    have ordered : dispatch.key ∈ orders earlier.events :=
      List.mem_filterMap.mpr ⟨_, member, rfl⟩
    rw [underway.orders] at ordered
    cases sent with
    | false => cases ordered
    | true => exact List.mem_singleton.mp ordered

variable (ledger : FanoutLedger) (signal : CanonicalSignal)

/-- In the course of a fan-out the accounts that had come to an end are spared. -/
structure Spares (course : FanoutCourse) : Prop where
  ended : ∀ accountId, ledger.isTerminal signal.signalId accountId = true →
    course.ledger.isTerminal signal.signalId accountId = true
  sent : ∀ dispatch request, FanoutEvent.executed dispatch request ∈ course.events →
    ledger.isTerminal signal.signalId dispatch.accountId = false

/-- Whether a target has an account that had come to an end. -/
def Known (target : FanoutTarget) : Bool :=
  target.accountId ≠ "" ∧ ledger.isTerminal signal.signalId target.accountId

theorem spares_startCourse : Spares ledger signal (startCourse ledger signal) := by
  constructor
  · intro accountId ended
    have held : ledger.signals.contains signal.signalId = true := by
      cases found : ledger.signals.get signal.signalId with
      | none =>
          simp [FanoutLedger.isTerminal, FanoutLedger.getAccountDispatch, found] at ended
      | some entry => simp [Dict.contains, found]
    change (ledger.registerSignal signal).isTerminal signal.signalId accountId = true
    rw [FanoutLedger.registerSignal, if_pos held]
    exact ended
  · intro dispatch request member
    simp [startCourse, FanoutCourse.emit] at member

variable {ledger signal}

theorem duplicates_count (course : FanoutCourse) (status : AccountStatus) :
    (course.count status).duplicates = course.duplicates := by
  unfold FanoutCourse.count
  split_ifs <;> rfl

/-- Visiting one more target spares the ended accounts, and counts its own among the
duplicates. -/
theorem Spares.fanOutTo {course : FanoutCourse} (spares : Spares ledger signal course)
    (connected : Bool) (parts : FanoutParts) (raw : Option RawProposal)
    (target : FanoutTarget) :
    Spares ledger signal (fanOutTo connected parts signal raw course target) ∧
      course.duplicates + (if Known ledger signal target then 1 else 0) ≤
        (fanOutTo connected parts signal raw course target).duplicates := by
  unfold CanonicalFanout.fanOutTo
  split
  · rename_i anonymous
    exact ⟨spares, by simp [Known, anonymous]⟩
  · split
    · rename_i existing found
      refine ⟨⟨spares.ended, spares.sent⟩, ?_⟩
      dsimp only [FanoutCourse.addRow]
      split <;> omega
    · rename_i fresh
      have open_ : course.ledger.isTerminal signal.signalId target.accountId = false := by
        rw [Option.filter_eq_none_iff] at fresh
        cases held : course.ledger.getAccountDispatch signal.signalId target.accountId with
        | none => simp [FanoutLedger.isTerminal, held]
        | some dispatch => simpa [FanoutLedger.isTerminal, held] using fresh dispatch held
      have unknown : ledger.isTerminal signal.signalId target.accountId = false := by
        by_contra ended
        rw [Bool.not_eq_false] at ended
        rw [spares.ended _ ended] at open_
        cases open_
      have concerns := visit_concerns connected parts signal target raw
      dsimp only
      generalize visitTarget connected parts signal target raw = visit at concerns ⊢
      have same := FanoutCourse.count_keeps (course.emit (.upserted (placeholder signal target) ::
        visit.events ++ [.upserted visit.dispatch])) visit.dispatch.status
      refine ⟨⟨?_, ?_⟩, ?_⟩
      · intro accountId ended
        have apart : (signal.signalId, accountId) ≠ (placeholder signal target).key := by
          intro together
          have visited : accountId = target.accountId := congrArg Prod.snd together
          rw [visited, unknown] at ended
          cases ended
        simp only [FanoutCourse.addRow]
        rw [same.1, isTerminal_eq, FanoutCourse.emit]
        have kept := concerns.recordAt_replay apart course.ledger
        unfold FanoutLedger.replay at kept
        rw [kept, ← isTerminal_eq]
        exact spares.ended accountId ended
      · intro dispatch request member
        simp only [FanoutCourse.addRow] at member
        rw [same.2.1, FanoutCourse.emit] at member
        rcases List.mem_append.mp member with before | now
        · exact spares.sent dispatch request before
        · have visited : dispatch.accountId = target.accountId :=
            congrArg Prod.snd (concerns.2 dispatch request now)
          rw [visited]
          exact unknown
      · simp only [FanoutCourse.addRow]
        rw [duplicates_count, FanoutCourse.emit]
        simp [Known, unknown]

theorem Spares.fanOutFrom {course : FanoutCourse} (spares : Spares ledger signal course)
    (connected : Bool) (parts : Nat → FanoutParts) (raw : Option RawProposal)
    (position : Nat) (targets : List FanoutTarget) :
    Spares ledger signal (fanOutFrom connected parts signal raw course position targets) ∧
      course.duplicates + (targets.filter (Known ledger signal)).length ≤
        (fanOutFrom connected parts signal raw course position targets).duplicates := by
  induction targets generalizing course position with
  | nil => exact ⟨spares, Nat.le_refl _⟩
  | cons target rest ih =>
      rcases spares.fanOutTo connected (parts position) raw target with ⟨visited, counted⟩
      rcases ih visited (position + 1) with ⟨all, more⟩
      refine ⟨all, ?_⟩
      rw [CanonicalFanout.fanOutFrom, List.filter_cons]
      split
      · rename_i known
        rw [if_pos known] at counted
        rw [List.length_cons]
        omega
      · rename_i unknown
        rw [if_neg unknown] at counted
        omega

end Fanout

/-! ## One opportunity, one identifier -/

/-- The signals have one identifier, and after a fan-out of the first one a fan-out of the
second one recognises the accounts that have come to an end and places no order on them. -/
structure OneOpportunity (first second : CanonicalSignal) : Prop where
  named : first.signalId = second.signalId
  recognised : ∀ connected parts targets raw (ledger : FanoutLedger),
    (targets.filter (Known ledger first)).length ≤
      (fanOut connected parts second targets raw ledger).duplicates
  spared : ∀ connected parts targets raw (ledger : FanoutLedger) dispatch request,
    FanoutEvent.executed dispatch request ∈
      (fanOut connected parts second targets raw ledger).events →
    ledger.isTerminal first.signalId dispatch.accountId = false

/-- Signals of one identifier are one opportunity to the fan-out. -/
theorem oneOpportunity_of_named {first second : CanonicalSignal}
    (named : first.signalId = second.signalId) : OneOpportunity first second := by
  have spares := fun connected parts raw targets (ledger : FanoutLedger) =>
    (spares_startCourse ledger second).fanOutFrom connected parts raw 0 targets
  constructor
  · exact named
  · intro connected parts targets raw ledger
    have counted := (spares connected parts raw targets ledger).2
    have same : Known ledger first = Known ledger second := by
      funext target
      rw [Known, Known, named]
    rw [same]
    exact (Nat.le_add_left _ _).trans counted
  · intro connected parts targets raw ledger dispatch request member
    rw [named]
    exact (spares connected parts raw targets ledger).1.sent dispatch request member

/-- The signal that the pipeline builds at a point in time. -/
def canonicalSignalAt (spell : ℚ → Json.Numeral) (config : PipelineConfig)
    (inputs : CycleInputs) (analysis : Analysis) (decision : String)
    (validation : ValidationInputs) (now : Datetime) : CanonicalSignal :=
  buildCanonicalSignal config { inputs with stamp := stampAt spell now } analysis decision
    validation

/-- What the signal of an opportunity says. -/
def canonicalTerms (config : PipelineConfig) (inputs : CycleInputs) (analysis : Analysis)
    (decision : String) (validation : ValidationInputs) : SignalTerms :=
  (buildCanonicalSignal config inputs analysis decision validation).terms

/-- Different texts whose hashes begin alike. -/
def Collide (first second : List Char) : Prop :=
  first ≠ second ∧ shortDigest first = shortDigest second

section Identity

variable (spell : ℚ → Json.Numeral) (config : PipelineConfig) (inputs : CycleInputs)
  (analysis : Analysis) (decision : String) (validation : ValidationInputs)

/-- The identifier of a signal that the committee has not named. -/
theorem signalId_canonicalSignalAt (unnamed : analysis.committeeSignalId = "")
    (now : Datetime) :
    (canonicalSignalAt spell config inputs analysis decision validation now).signalId =
      "sig_" ++ String.ofList (shortDigest (identitySeed spell
        (canonicalTerms config inputs analysis decision validation) now)) := by
  change TradingPipeline.firstText analysis.committeeSignalId _ = _
  rw [unnamed]
  rfl

/-- Two points in time give one identifier when they lie in one second, and otherwise only
when the hashes of the two identities begin alike. -/
theorem canonicalSignalAt_oneOpportunity_iff (unnamed : analysis.committeeSignalId = "")
    (first second : Datetime) :
    OneOpportunity (canonicalSignalAt spell config inputs analysis decision validation first)
        (canonicalSignalAt spell config inputs analysis decision validation second) ↔
      wholeSecond first = wholeSecond second ∨
        Collide
          (identitySeed spell (canonicalTerms config inputs analysis decision validation) first)
          (identitySeed spell (canonicalTerms config inputs analysis decision validation)
            second) := by
  have left := signalId_canonicalSignalAt spell config inputs analysis decision validation
    unnamed first
  have right := signalId_canonicalSignalAt spell config inputs analysis decision validation
    unnamed second
  constructor
  · intro one
    by_cases together : wholeSecond first = wholeSecond second
    · exact Or.inl together
    · right
      constructor
      · exact fun same => together (identitySeed_injective same)
      · have named := one.named
        rw [left, right] at named
        exact String.ofList_injective ((String.append_right_inj _).mp named)
  · intro agree
    apply oneOpportunity_of_named
    rw [left, right]
    rcases agree with together | ⟨-, alike⟩
    · have texts : nowIso first = nowIso second := congrArg Datetime.isoformat together
      rw [identitySeed, identitySeed, texts]
    · rw [alike]

end Identity

namespace Sample

/-- The spelling of the numbers of the sample. -/
def spell (value : ℚ) : Json.Numeral :=
  if value = 11 / 10 then ⟨['1', '.', '1'], rfl, rfl⟩
  else if value = 13 / 10 then ⟨['1', '.', '3'], rfl, rfl⟩
  else if value = 1 / 20 then ⟨['0', '.', '0', '5'], rfl, rfl⟩
  else if value = 1 then ⟨['1', '.', '0'], rfl, rfl⟩
  else if value = 2 then ⟨['2', '.', '0'], rfl, rfl⟩
  else ⟨['0', '.', '0'], rfl, rfl⟩

/-- What the analysis of an event comes to, without a name for the signal. -/
def unnamedAnalysis : Analysis :=
  ⟨some entryProposal, none, .str "EURUSD", .none, .none, .str "BULLISH",
    .num ⟨9 / 10, "0.9"⟩, .str "", ""⟩

/-- What the risk gate has approved. -/
def approvedEntry : ValidationInputs where
  proposal :=
    { symbol := .str "EURUSD", direction := "BUY", entryPrice := 11 / 10, stopLoss := 1,
      takeProfit := 13 / 10, size := 1 / 100, riskPct := 0, details := Dict.empty }
  accountState := Dict.empty
  currentPositions := []
  marketInfo := Dict.empty

theorem valid_firstBuilt : Datetime.Valid 2026 1 1 ⟨0, 0, 0, 0⟩ (some 0) := by
  decide

/-- When the signal is built first. -/
def firstBuilt : Datetime :=
  ⟨2026, 1, 1, ⟨0, 0, 0, 0⟩, some 0, valid_firstBuilt⟩

/-- When the signal is built again. -/
def builtAgain : Datetime :=
  ⟨2026, 1, 1, ⟨0, 0, 1, 0⟩, some 0, by decide⟩

end Sample

/-- Building a signal twice within one second gives it one identifier. -/
theorem canonicalSignalAt_oneOpportunity_approvedEntry :
    OneOpportunity
        (canonicalSignalAt Sample.spell Sample.pipelineConfig Sample.gateRaises
          Sample.unnamedAnalysis "BUY" Sample.approvedEntry Sample.firstBuilt)
        (canonicalSignalAt Sample.spell Sample.pipelineConfig Sample.gateRaises
          Sample.unnamedAnalysis "BUY" Sample.approvedEntry Sample.firstBuilt) :=
  (canonicalSignalAt_oneOpportunity_iff Sample.spell Sample.pipelineConfig Sample.gateRaises
    Sample.unnamedAnalysis "BUY" Sample.approvedEntry rfl Sample.firstBuilt
    Sample.firstBuilt).mpr (Or.inl rfl)

/-- A second later the same opportunity has another identifier. -/
theorem second_build_renames_opportunity :
    ¬ OneOpportunity
        (canonicalSignalAt Sample.spell Sample.pipelineConfig Sample.gateRaises
          Sample.unnamedAnalysis "BUY" Sample.approvedEntry Sample.firstBuilt)
        (canonicalSignalAt Sample.spell Sample.pipelineConfig Sample.gateRaises
          Sample.unnamedAnalysis "BUY" Sample.approvedEntry Sample.builtAgain) := by
  intro one
  have apart : (canonicalSignalAt Sample.spell Sample.pipelineConfig Sample.gateRaises
      Sample.unnamedAnalysis "BUY" Sample.approvedEntry Sample.firstBuilt).signalId ≠
      (canonicalSignalAt Sample.spell Sample.pipelineConfig Sample.gateRaises
        Sample.unnamedAnalysis "BUY" Sample.approvedEntry Sample.builtAgain).signalId := by
    decide +kernel
  exact apart one.named

end EaBot.Orchestration
