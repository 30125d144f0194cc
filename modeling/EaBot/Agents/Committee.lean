import EaBot.Foundation.Value

/-!
# The committee's assessment and decision

The coordinator reads the signals of the roles by their domains, lists the conflicts between
the directional ones and forms a bias when they agree.  It decides to buy or to sell only with
a setup, a directional bias and, unless it is told otherwise, no severe conflict left open.

An agent's own evidence does not reach the assessment: the adapter looks for a list of items
and a role hands over a bundle, so only the signal is recorded.
-/

namespace EaBot.Agents

open EaBot.Foundation

inductive Freshness
  | fresh
  | stale
deriving DecidableEq

/-- What a specialist role answers. -/
structure RoleOutput where
  role : String
  signal : String
  confidenceDimensions : Dict String ℚ
  freshness : Freshness
  error : Bool
  roleSpecific : Record

inductive EvidenceKind
  | fact
  | interpretation
  | recommendation
deriving DecidableEq

structure EvidenceItem where
  kind : EvidenceKind
  content : String
  source : String
  timeframe : String
  quality : ℚ
  domain : String
deriving DecidableEq

structure EvidenceBundle where
  id : String
  items : List EvidenceItem
deriving DecidableEq

inductive Severity
  | low
  | medium
  | high
  | critical
deriving DecidableEq

inductive Resolution
  | unresolved
  | secondOpinion
  | resolved
deriving DecidableEq

/-- A conflict between domains of evidence. -/
structure Conflict where
  id : String
  severity : Severity
  description : String
  domains : List String
  evidenceRefs : List String
  resolutionStatus : Resolution
deriving DecidableEq

structure MarketAssessment where
  assessmentId : String
  traceId : String
  symbol : String
  regime : String
  marketStructure : String
  liquidity : String
  momentum : String
  volatility : String
  news : String
  evidenceBundle : EvidenceBundle
  conflicts : List Conflict
  higherTimeframeBias : String
  dataQuality : ℚ
deriving DecidableEq

/-- A hypothesis that may become a trade. -/
structure SetupCandidate where
  setupId : String
  assessmentId : String
  symbol : String
  direction : String
  setupType : String
  timeframe : String
  entryContext : String
  invalidation : String
  requiredConditions : List String
  missingConditions : List String
  supportingEvidenceRefs : List String
  contradictingEvidenceRefs : List String
  setupQuality : ℚ
  status : String
  challenges : List String
deriving DecidableEq

def SetupCandidate.challenge (setup : SetupCandidate) (reason : String) : SetupCandidate :=
  { setup with challenges := setup.challenges ++ [reason], status := "CHALLENGED" }

structure EntryAssessment where
  entryAssessmentId : String
  setupId : String
  symbol : String
  direction : String
  entryZoneType : String
  zoneTouched : Bool
  triggerRequired : String
  triggerStatus : String
  entryQuality : ℚ
  invalidation : String
deriving DecidableEq

inductive Bias
  | bullish
  | bearish
  | neutral
deriving DecidableEq

inductive Action
  | buy
  | sell
  | wait
deriving DecidableEq

inductive State
  | detected
  | analyzing
  | candidate
  | validated
  | armed
  | waitingTrigger
  | executing
  | active
  | managing
  | closed
  | rejected
  | expired
deriving DecidableEq

/-- The states that a decision may take next. -/
def State.allowed : State → List State
  | detected => [analyzing, rejected]
  | analyzing => [candidate, rejected]
  | candidate => [validated, rejected]
  | validated => [armed, rejected]
  | armed => [waitingTrigger, expired]
  | waitingTrigger => [executing, expired]
  | executing => [active]
  | active => [managing]
  | managing => [closed]
  | closed => []
  | rejected => []
  | expired => []

/-- The committee's decision. -/
structure DecisionState where
  decisionId : String
  traceId : String
  assessmentId : String
  setupId : Option String
  entryAssessmentId : Option String
  symbol : String
  marketBias : Bias
  setupType : String
  action : Action
  evidenceQuality : ℚ
  setupQuality : ℚ
  entryQuality : ℚ
  dataQuality : ℚ
  rationale : String
  evidenceBundleRef : String
  conflicts : List Conflict
  currentState : State
deriving DecidableEq

namespace DecisionState

/-- A transition that is not allowed changes nothing. -/
def transitionTo (decision : DecisionState) (newState : State) : DecisionState :=
  if newState ∈ decision.currentState.allowed then { decision with currentState := newState }
  else decision

def isValidTransition (decision : DecisionState) (newState : State) : Bool :=
  newState = decision.currentState || newState ∈ decision.currentState.allowed

/-- Walk from the detected state, one state at a time, towards the given one. -/
def advance (decision : DecisionState) (state : State) : DecisionState :=
  let analyzing := { decision with currentState := .detected }.transitionTo .analyzing
  let candidate :=
    if (state = .candidate ∨ state = .validated) ∧ analyzing.isValidTransition .candidate then
      analyzing.transitionTo .candidate
    else analyzing
  if state = .validated ∧ candidate.isValidTransition .validated then
    candidate.transitionTo .validated
  else candidate

@[simp]
theorem transitionTo_action (decision : DecisionState) (newState : State) :
    (decision.transitionTo newState).action = decision.action := by
  unfold transitionTo
  split <;> rfl

@[simp]
theorem transitionTo_conflicts (decision : DecisionState) (newState : State) :
    (decision.transitionTo newState).conflicts = decision.conflicts := by
  unfold transitionTo
  split <;> rfl

@[simp]
theorem advance_action (decision : DecisionState) (state : State) :
    (decision.advance state).action = decision.action := by
  unfold advance
  dsimp only
  split <;> split <;> simp only [transitionTo_action]

@[simp]
theorem advance_conflicts (decision : DecisionState) (state : State) :
    (decision.advance state).conflicts = decision.conflicts := by
  unfold advance
  dsimp only
  split <;> split <;> simp only [transitionTo_conflicts]

/-- The walk reaches each of the states that the coordinator asks for. -/
theorem advance_currentState (decision : DecisionState) {state : State}
    (asked : state = .analyzing ∨ state = .candidate ∨ state = .validated) :
    (decision.advance state).currentState = state := by
  rcases asked with rfl | rfl | rfl <;> rfl

end DecisionState

/-- A side of the market. -/
inductive Side
  | buy
  | sell
deriving DecidableEq

namespace Side

def action : Side → Action
  | buy => .buy
  | sell => .sell

def text : Side → String
  | buy => "BUY"
  | sell => "SELL"

def opposite : Side → Side
  | buy => sell
  | sell => buy

def bias : Side → Bias
  | buy => .bullish
  | sell => .bearish

end Side

/-- The identifiers that a cycle draws at random. -/
structure Ids where
  assessment : String
  bundle : String
  directionalConflict : String
  newsConflict : String
  decision : String
  debate : Nat → String

namespace Committee

def directionalDomains : List String := ["structure", "regime", "liquidity", "momentum"]

def bullish : List String := ["BULLISH", "STRONG_BULLISH", "BUY"]

def bearish : List String := ["BEARISH", "STRONG_BEARISH", "SELL"]

/-- The words by which the coordinator knows a side. -/
def words : Side → List String
  | .buy => bullish
  | .sell => bearish

/-- The confidence below which a directional claim is not trusted. -/
def minClaimQuality : ℚ := 1 / 2

/-- The signal of an output, in upper case. -/
def signalOf (output : RoleOutput) : String :=
  Text.upperWord (if output.signal = "" then "NEUTRAL" else output.signal)

/-- The evidence that the adapter makes of a role's output.  The output has no field of
its own for the confidence, and its evidence is not a list. -/
def toEvidence (agentName domain : String) (output : RoleOutput) : List EvidenceItem :=
  let signal := signalOf output
  let confidence : ℚ := 0
  let reading : EvidenceItem :=
    { kind := .interpretation
      content := s!"{agentName} signal={signal}"
      source := agentName
      timeframe := ""
      quality := confidence
      domain := domain }
  if signal ∈ ["BULLISH", "BEARISH", "BUY", "SELL"] then
    [reading,
      { kind := .recommendation
        content := "[INCOMPLETE] directional claim without supporting evidence"
        source := agentName
        timeframe := ""
        quality := if confidence < minClaimQuality then 0 else confidence / 2
        domain := domain }]
  else [reading]

/-- The first signal of each domain that is not neutral. -/
def domainSignals (signals : Dict String String) :
    List (String × RoleOutput) → Dict String String
  | [] => signals
  | (name, output) :: rest =>
      let domain := Text.lower name
      let signal := signalOf output
      if signal ≠ "NEUTRAL" ∧ signal ≠ "" ∧ signals.get domain = none then
        domainSignals (signals.set domain signal) rest
      else domainSignals signals rest

/-- A list of names as it prints. -/
def shownNames (names : List String) : String :=
  "[" ++ ", ".intercalate (names.map fun name => s!"'{name}'") ++ "]"

/-- The directional domains whose signal is one of the words. -/
def domainsSaying (domains : Dict String String) (words : List String) : List String :=
  directionalDomains.filter fun domain => (domains.get domain).any (words.contains ·)

/-- The conflict about news that nobody knows. -/
def newsConflict (ids : Ids) : Conflict :=
  { id := ids.newsConflict
    severity := .medium
    description := "News/macro state UNKNOWN — risk not assessable"
    domains := ["news"]
    evidenceRefs := ["news:UNKNOWN"]
    resolutionStatus := .unresolved }

/-- The conflicts between the directional domains, and the news that nobody knows. -/
def detectConflicts (ids : Ids) (domains : Dict String String) : List Conflict :=
  let bull := domainsSaying domains bullish
  let bear := domainsSaying domains bearish
  let directional : List Conflict :=
    if bull ≠ [] ∧ bear ≠ [] then
      [{ id := ids.directionalConflict
         severity := .high
         description :=
          s!"Directional conflict: {shownNames bull} bullish vs {shownNames bear} bearish"
         domains := bull ++ bear
         evidenceRefs := (bull ++ bear).map fun domain =>
          domain ++ ":" ++ (domains.get domain).getD "None"
         resolutionStatus := .unresolved }]
    else []
  let news : List Conflict :=
    if domains.get "news" = some "UNKNOWN" ∨ domains.get "news" = some "" then
      [newsConflict ids]
    else []
  directional ++ news

/-- The market assessment of the roles' outputs. -/
def buildAssessment (ids : Ids) (symbol traceId : String)
    (agentResults : Dict String RoleOutput) : MarketAssessment :=
  let domains := domainSignals .empty agentResults.entries
  let reading (domain : String) := (domains.get domain).getD "UNKNOWN"
  { assessmentId := ids.assessment
    traceId := traceId
    symbol := symbol
    regime := reading "regime"
    marketStructure := reading "structure"
    liquidity := reading "liquidity"
    momentum := reading "momentum"
    volatility := reading "volatility"
    news := reading "news"
    evidenceBundle :=
      { id := ids.bundle
        items := agentResults.entries.flatMap fun agent =>
          toEvidence agent.1 (Text.lower agent.1) agent.2 }
    conflicts := detectConflicts ids domains
    higherTimeframeBias := "NEUTRAL"
    dataQuality := 0 }

/-- A signal that is not neutral. -/
def Loud (output : RoleOutput) : Prop :=
  signalOf output ≠ "NEUTRAL" ∧ signalOf output ≠ ""

instance (output : RoleOutput) : Decidable (Loud output) :=
  inferInstanceAs (Decidable (_ ∧ _))

/-- Under names in lower case, a domain that has no signal yet gets the one of its role. -/
theorem get_domainSignals {entries : List (String × RoleOutput)}
    (distinct : (entries.map Prod.fst).Nodup)
    (lower : ∀ name ∈ entries.map Prod.fst, Text.lower name = name)
    (signals : Dict String String) (domain : String) :
    (domainSignals signals entries).get domain =
      (signals.get domain <|>
        ((Entries.get domain entries).filter fun output => Loud output).map signalOf) := by
  induction entries generalizing signals with
  | nil => cases held : signals.get domain <;> simp [domainSignals, Entries.get, held]
  | cons entry rest ih =>
      obtain ⟨name, output⟩ := entry
      rw [List.map_cons, List.nodup_cons] at distinct
      have same : Text.lower name = name := lower name List.mem_cons_self
      have onwards := ih distinct.2 fun other member =>
        lower other (List.mem_cons_of_mem name member)
      by_cases asked : name = domain
      · subst asked
        have absent : Entries.get name rest = none := Entries.get_of_notMem distinct.1
        by_cases recorded : signalOf output ≠ "NEUTRAL" ∧ signalOf output ≠ "" ∧
            signals.get name = none
        · have loud : Loud output := ⟨recorded.1, recorded.2.1⟩
          simp [domainSignals, same, recorded, onwards, Entries.get, loud]
        · by_cases loud : Loud output
          · have held : signals.get name ≠ none := fun missing =>
              recorded ⟨loud.1, loud.2, missing⟩
            obtain ⟨signal, held⟩ := Option.ne_none_iff_exists'.mp held
            simp [domainSignals, same, onwards, absent, held]
          · simp [domainSignals, same, recorded, onwards, Entries.get, absent, Option.filter, loud]
      · by_cases recorded : signalOf output ≠ "NEUTRAL" ∧ signalOf output ≠ "" ∧
            signals.get name = none
        · simp [domainSignals, same, recorded, onwards, Entries.get, asked,
            Dict.get_set_of_ne _ (Ne.symm asked)]
        · simp [domainSignals, same, recorded, onwards, Entries.get, asked]

/-- A directional role, failed or not, says one of the words. -/
def Reads (agentResults : Dict String RoleOutput) (words : List String) : Prop :=
  ∃ domain ∈ directionalDomains, ∃ output, agentResults.get domain = some output ∧
    Text.upperWord output.signal ∈ words

/-- The news role says that the news are unknown. -/
def NewsUnknown (agentResults : Dict String RoleOutput) : Prop :=
  ∃ output, agentResults.get "news" = some output ∧
    Text.upperWord output.signal = "UNKNOWN"

theorem words_ne {side : Side} {word : String} (known : word ∈ words side) :
    word ≠ "NEUTRAL" ∧ word ≠ "" ∧ word ≠ "UNKNOWN" := by
  have every : ∀ side, ∀ word ∈ words side,
      word ≠ "NEUTRAL" ∧ word ≠ "" ∧ word ≠ "UNKNOWN" := by
    intro side
    cases side <;> decide
  exact every side word known

/-- The upper case of a signal is its reading, unless there is no signal. -/
theorem signalOf_eq_iff (output : RoleOutput) {word : String} (loud : word ≠ "NEUTRAL")
    (named : word ≠ "") : signalOf output = word ↔ Text.upperWord output.signal = word := by
  unfold signalOf
  by_cases missing : output.signal = ""
  · have neutral : Text.upperWord "NEUTRAL" = "NEUTRAL" := by decide
    have empty : Text.upperWord "" = "" := by decide
    rw [if_pos missing, missing, neutral, empty]
    exact ⟨fun same => absurd same.symm loud, fun same => absurd same.symm named⟩
  · rw [if_neg missing]

section Assessing

variable {agentResults : Dict String RoleOutput}
  (lower : ∀ name ∈ agentResults.keys, Text.lower name = name)

include lower

/-- The signals of the assessment are the ones that the roles say. -/
theorem get_domainSignals_eq_some_iff (domain : String) {word : String}
    (loud : word ≠ "NEUTRAL") (named : word ≠ "") :
    (domainSignals .empty agentResults.entries).get domain = some word ↔
      ∃ output, agentResults.get domain = some output ∧
        Text.upperWord output.signal = word := by
  rw [get_domainSignals agentResults.distinct lower, Dict.get_empty, Option.orElse_eq_orElse,
    Option.orElse_none, Option.map_eq_some_iff]
  constructor
  · rintro ⟨output, held, same⟩
    exact ⟨output, (Option.filter_eq_some_iff.mp held).1,
      (signalOf_eq_iff output loud named).mp same⟩
  · rintro ⟨output, held, same⟩
    have signal := (signalOf_eq_iff output loud named).mpr same
    have isLoud : Loud output := ⟨signal ▸ loud, signal ▸ named⟩
    exact ⟨output, Option.filter_eq_some_iff.mpr ⟨held, decide_eq_true isLoud⟩, signal⟩

theorem domainsSaying_ne_nil_iff (side : Side) :
    domainsSaying (domainSignals .empty agentResults.entries) (words side) ≠ [] ↔
      Reads agentResults (words side) := by
  unfold domainsSaying Reads
  rw [Ne, List.filter_eq_nil_iff]
  push Not
  constructor
  · rintro ⟨domain, member, saying⟩
    obtain ⟨word, held, known⟩ := (Option.any_eq_true _ _).mp saying
    have known := List.contains_iff_mem.mp known
    obtain ⟨loud, named, -⟩ := words_ne known
    obtain ⟨output, given, same⟩ :=
      (get_domainSignals_eq_some_iff lower domain loud named).mp held
    exact ⟨domain, member, output, given, same ▸ known⟩
  · rintro ⟨domain, member, output, given, known⟩
    obtain ⟨loud, named, -⟩ := words_ne known
    have held := (get_domainSignals_eq_some_iff lower domain loud named).mpr ⟨output, given, rfl⟩
    exact ⟨domain, member,
      (Option.any_eq_true _ _).mpr ⟨_, held, List.contains_iff_mem.mpr known⟩⟩

/-- A reading of the assessment is a side's word when the role says it. -/
theorem reading_mem_words_iff (domain : String) (side : Side) :
    ((domainSignals .empty agentResults.entries).get domain).getD "UNKNOWN" ∈ words side ↔
      ∃ output, agentResults.get domain = some output ∧
        Text.upperWord output.signal ∈ words side := by
  constructor
  · intro known
    cases held : (domainSignals .empty agentResults.entries).get domain with
    | none =>
        rw [held] at known
        exact absurd rfl (words_ne known).2.2
    | some word =>
        rw [held] at known
        obtain ⟨loud, named, -⟩ := words_ne known
        obtain ⟨output, given, same⟩ :=
          (get_domainSignals_eq_some_iff lower domain loud named).mp held
        exact ⟨output, given, same ▸ known⟩
  · rintro ⟨output, given, known⟩
    obtain ⟨loud, named, -⟩ := words_ne known
    rw [(get_domainSignals_eq_some_iff lower domain loud named).mpr ⟨output, given, rfl⟩]
    exact known

/-- The news conflict stands for a news role that says so. -/
theorem newsUnknown_iff :
    ((domainSignals .empty agentResults.entries).get "news" = some "UNKNOWN" ∨
        (domainSignals .empty agentResults.entries).get "news" = some "") ↔
      NewsUnknown agentResults := by
  have silent : (domainSignals .empty agentResults.entries).get "news" ≠ some "" := by
    rw [get_domainSignals agentResults.distinct lower, Dict.get_empty, Option.orElse_eq_orElse,
      Option.orElse_none]
    intro held
    obtain ⟨output, given, same⟩ := Option.map_eq_some_iff.mp held
    have loud : Loud output := of_decide_eq_true (Option.filter_eq_some_iff.mp given).2
    exact loud.2 same
  rw [or_iff_left silent]
  exact get_domainSignals_eq_some_iff lower "news" (by decide) (by decide)

/-- When the directional roles do not speak for both sides, only the news may be in
conflict. -/
theorem detectConflicts_of_agreement (ids : Ids) [Decidable (NewsUnknown agentResults)]
    (agreement : ¬(Reads agentResults (words .buy) ∧ Reads agentResults (words .sell))) :
    detectConflicts ids (domainSignals .empty agentResults.entries) =
      if NewsUnknown agentResults then [newsConflict ids] else [] := by
  have sides :
      (domainsSaying (domainSignals .empty agentResults.entries) bullish ≠ [] ∧
        domainsSaying (domainSignals .empty agentResults.entries) bearish ≠ []) ↔
      Reads agentResults (words .buy) ∧ Reads agentResults (words .sell) :=
    (domainsSaying_ne_nil_iff lower .buy).and (domainsSaying_ne_nil_iff lower .sell)
  unfold detectConflicts
  dsimp only
  rw [if_neg (fun both => agreement (sides.mp both)), List.nil_append]
  simp only [newsUnknown_iff lower]

end Assessing

end Committee

/-- Whether a conflict of high severity is still open. -/
def MarketAssessment.hasCriticalConflicts (assessment : MarketAssessment) : Bool :=
  assessment.conflicts.any fun conflict =>
    decide ((conflict.severity = .high ∨ conflict.severity = .critical) ∧
      conflict.resolutionStatus ≠ .resolved)

/-- A bias needs support for one direction and none for the other. -/
def Bias.ofSupport (bull bear : Nat) : Bias :=
  if 0 < bull ∧ bear = 0 then .bullish
  else if 0 < bear ∧ bull = 0 then .bearish
  else .neutral

theorem Bias.ofSupport_eq_bullish_iff (bull bear : Nat) :
    Bias.ofSupport bull bear = .bullish ↔ 0 < bull ∧ bear = 0 := by
  unfold Bias.ofSupport
  by_cases bullish : 0 < bull ∧ bear = 0
  · simp [bullish]
  · rw [if_neg bullish]
    split <;> simp [bullish]

theorem Bias.ofSupport_eq_bearish_iff (bull bear : Nat) :
    Bias.ofSupport bull bear = .bearish ↔ 0 < bear ∧ bull = 0 := by
  unfold Bias.ofSupport
  by_cases bullish : 0 < bull ∧ bear = 0
  · rw [if_pos bullish]
    simp [bullish]
  · rw [if_neg bullish]
    split
    · simp [*]
    · rename_i bearish
      simp [bearish]

/-- Support in a list of signals, and none of the other kind. -/
theorem Bias.ofSupport_countP_iff (signals : List String) (words : Side → List String)
    (side : Side) :
    Bias.ofSupport (signals.countP ((words .buy).contains ·))
        (signals.countP ((words .sell).contains ·)) = side.bias ↔
      (∃ signal ∈ signals, signal ∈ words side) ∧
        ¬∃ signal ∈ signals, signal ∈ words side.opposite := by
  have none : ∀ words : List String, signals.countP (words.contains ·) = 0 ↔
      ¬∃ signal ∈ signals, signal ∈ words := by
    intro words
    simp [List.countP_eq_zero]
  have some : ∀ words : List String, 0 < signals.countP (words.contains ·) ↔
      ∃ signal ∈ signals, signal ∈ words := by
    intro words
    simp [List.countP_pos_iff]
  cases side with
  | buy => rw [Side.bias, Bias.ofSupport_eq_bullish_iff, some, none, Side.opposite]
  | sell => rw [Side.bias, Bias.ofSupport_eq_bearish_iff, some, none, Side.opposite]

/-- The coordinator, with the switch that makes open severe conflicts block a trade. -/
structure CommitteeCoordinator where
  unresolvedConflictBlocks : Bool

namespace CommitteeCoordinator

/-- The signals of the directional domains. -/
def readings (assessment : MarketAssessment) : List String :=
  [assessment.marketStructure, assessment.regime, assessment.liquidity, assessment.momentum]

def deriveBias (assessment : MarketAssessment) : Bias :=
  Bias.ofSupport ((readings assessment).countP (Committee.bullish.contains ·))
    ((readings assessment).countP (Committee.bearish.contains ·))

/-- The action of a bias that may be traded. -/
def actionOf : Bias → Action
  | .bullish => .buy
  | _ => .sell

/-- The decision before the gates of the orchestrator. -/
def buildDecision (coordinator : CommitteeCoordinator) (ids : Ids)
    (assessment : MarketAssessment) (setup : Option SetupCandidate)
    (entry : Option EntryAssessment)
    (evidenceQuality setupQuality entryQuality dataQuality : ℚ) : DecisionState :=
  let bias := deriveBias assessment
  let unresolvedBlock := coordinator.unresolvedConflictBlocks && assessment.hasCriticalConflicts
  let tradable := !unresolvedBlock && bias ≠ .neutral && setup.isSome
  let action := if tradable then actionOf bias else .wait
  let state : State :=
    if tradable then .validated
    else if unresolvedBlock then .analyzing
    else if setup.isSome then .candidate
    else .analyzing
  let decision : DecisionState :=
    { decisionId := ids.decision
      traceId := assessment.traceId
      assessmentId := assessment.assessmentId
      setupId := setup.map SetupCandidate.setupId
      entryAssessmentId := entry.map EntryAssessment.entryAssessmentId
      symbol := assessment.symbol
      marketBias := bias
      setupType := (setup.map SetupCandidate.setupType).getD "NONE"
      action := action
      evidenceQuality := evidenceQuality
      setupQuality := setupQuality
      entryQuality := entryQuality
      dataQuality := dataQuality
      rationale :=
        if action = .wait ∧ assessment.hasCriticalConflicts then
          "Unresolved high-severity conflict — WAIT (no automatic trade)."
        else ""
      evidenceBundleRef := assessment.evidenceBundle.id
      conflicts := assessment.conflicts
      currentState := .detected }
  decision.advance state

section Deciding

variable (coordinator : CommitteeCoordinator) (ids : Ids) (assessment : MarketAssessment)
  (setup : Option SetupCandidate) (entry : Option EntryAssessment)
  (evidenceQuality setupQuality entryQuality dataQuality : ℚ)

@[simp]
theorem buildDecision_conflicts :
    (coordinator.buildDecision ids assessment setup entry evidenceQuality setupQuality
      entryQuality dataQuality).conflicts = assessment.conflicts := by
  unfold buildDecision
  rw [DecisionState.advance_conflicts]

/-- The coordinator takes a side when nothing blocks it, the bias is the side's and there is
a setup. -/
theorem buildDecision_action_iff (side : Side) :
    (coordinator.buildDecision ids assessment setup entry evidenceQuality setupQuality
        entryQuality dataQuality).action = side.action ↔
      ¬(coordinator.unresolvedConflictBlocks = true ∧ assessment.hasCriticalConflicts = true) ∧
        deriveBias assessment = side.bias ∧ setup.isSome = true := by
  unfold buildDecision
  rw [DecisionState.advance_action]
  dsimp only
  generalize deriveBias assessment = bias
  cases coordinator.unresolvedConflictBlocks <;> cases assessment.hasCriticalConflicts <;>
    cases setup <;> cases bias <;> cases side <;> simp [actionOf, Side.action, Side.bias]

/-- A decision to trade is a validated one, and no other is. -/
theorem buildDecision_currentState_iff :
    (coordinator.buildDecision ids assessment setup entry evidenceQuality setupQuality
        entryQuality dataQuality).currentState = .validated ↔
      (coordinator.buildDecision ids assessment setup entry evidenceQuality setupQuality
        entryQuality dataQuality).action ≠ .wait := by
  unfold buildDecision
  rw [DecisionState.advance_action]
  dsimp only
  generalize deriveBias assessment = bias
  cases coordinator.unresolvedConflictBlocks && assessment.hasCriticalConflicts <;>
    cases setup <;> cases bias <;>
    simp [DecisionState.advance_currentState, actionOf]

end Deciding

/-- The bias is a side's when some directional role speaks for it and none for the other
side. -/
theorem deriveBias_buildAssessment_iff (ids : Ids) (symbol traceId : String)
    {agentResults : Dict String RoleOutput}
    (lower : ∀ name ∈ agentResults.keys, Text.lower name = name) (side : Side) :
    deriveBias (Committee.buildAssessment ids symbol traceId agentResults) = side.bias ↔
      Committee.Reads agentResults (Committee.words side) ∧
        ¬Committee.Reads agentResults (Committee.words side.opposite) := by
  have heard : ∀ side, (∃ signal ∈ readings (Committee.buildAssessment ids symbol traceId
      agentResults), signal ∈ Committee.words side) ↔
      Committee.Reads agentResults (Committee.words side) := by
    intro side
    have same : readings (Committee.buildAssessment ids symbol traceId agentResults) =
        Committee.directionalDomains.map fun domain =>
          ((Committee.domainSignals .empty agentResults.entries).get domain).getD "UNKNOWN" :=
      rfl
    rw [same, Committee.Reads]
    constructor
    · rintro ⟨signal, member, known⟩
      obtain ⟨domain, listed, rfl⟩ := List.mem_map.mp member
      exact ⟨domain, listed, (Committee.reading_mem_words_iff lower domain side).mp known⟩
    · rintro ⟨domain, listed, said⟩
      exact ⟨_, List.mem_map_of_mem listed,
        (Committee.reading_mem_words_iff lower domain side).mpr said⟩
  rw [← heard, ← heard]
  exact Bias.ofSupport_countP_iff _ Committee.words side

end CommitteeCoordinator

end EaBot.Agents
