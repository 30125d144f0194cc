import EaBot.Agents.Committee

/-!
# The bounded debate

A debate challenges the most severe open conflict round by round, within the limits of its
configuration.  A failed challenge makes the setup invalid, a passed one settles the conflict,
and everything else leaves it open: the debate is resolved only when no conflict is left, and
ends with a wait otherwise.

Conflicts are objects that the assessment shares, so the debate holds their positions.
-/

namespace EaBot.Agents

open EaBot.Foundation

universe u

/-- A setup as the context shows it to a role. -/
structure SetupView where
  direction : String
  missingConditions : List String
  invalidation : String
  supportingEvidenceRefs : List String
  requiredTriggers : List String

/-- What the trigger engine says about a zone. -/
structure TriggerResult where
  conditionsMet : Dict String Bool
  blocking : List String

/-- The context of a cycle: the fields that the committee's own code reads, and the market
that the roles read. -/
structure Context (μ : Type u) where
  symbol : String
  traceId : String
  eventId : String
  eventType : String
  setup : Option SetupView
  hypothesisDirection : String
  claimedDirection : String
  claimedEvidence : List String
  roleOutputs : Dict String RoleOutput
  invalidation : String
  triggerResult : Option TriggerResult
  requiredTriggers : List String
  triggerConfirmed : Bool
  zoneTouched : Bool
  market : μ

variable {μ : Type u}

/-- A challenger; the number of the round stands for what it remembers between calls. -/
structure Challenger (μ : Type u) where
  role : String
  analyze : Nat → Context μ → Except String RoleOutput

namespace Challenger

def passed : String := "CHALLENGE_PASSED"

def failed : String := "CHALLENGE_FAILED"

def unresolved : String := "CHALLENGE_UNRESOLVED"

/-- The reading that a direction stands for. -/
def wanted (direction : String) : String :=
  if direction ∈ ["BUY", "LONG", "BULLISH"] then "BULLISH"
  else if direction ∈ ["SELL", "SHORT", "BEARISH"] then "BEARISH"
  else ""

/-- The arguments against a hypothesis. -/
def contradictions (context : Context μ) : List String :=
  let setup := context.setup
  let direction := Text.upperWord <|
    if context.hypothesisDirection ≠ "" then context.hypothesisDirection
    else if context.claimedDirection ≠ "" then context.claimedDirection
    else (setup.map SetupView.direction).getD ""
  let want := wanted direction
  let opposed := context.roleOutputs.entries.filterMap fun (role, output) =>
    let signal := Text.upperWord output.signal
    if want ≠ "" ∧ role ∈ Committee.directionalDomains ∧
        signal ∈ ["BULLISH", "BEARISH"] ∧ signal ≠ want then
      some s!"{role}={signal} contradicts {want} hypothesis"
    else none
  let stale := context.roleOutputs.entries.filterMap fun (role, output) =>
    if output.freshness = .stale then some s!"{role} evidence is stale" else none
  let invalidation :=
    if (setup.map SetupView.invalidation).getD "" = "" ∧ context.invalidation = "" then
      ["setup has no explicit invalidation level"]
    else []
  let newsSignal :=
    ((context.roleOutputs.get "news").map RoleOutput.signal).getD "None"
  let news :=
    if Text.upperWord newsSignal ∈ ["UNKNOWN", "NONE", ""] then
      ["news state UNKNOWN — risk not assessable"]
    else []
  let support :=
    if ((setup.map SetupView.supportingEvidenceRefs).getD []).isEmpty ∧
        context.claimedEvidence.isEmpty then
      ["hypothesis has no supporting evidence"]
    else []
  opposed ++ stale ++ invalidation ++ news ++ support

/-- Whether an argument refutes the hypothesis. -/
def isHard (contradiction : String) : Bool :=
  Text.contains contradiction "contradicts" ||
    Text.contains contradiction "no explicit invalidation" ||
    Text.contains contradiction "no supporting evidence"

/-- The challenger that the debate takes when it is given none. -/
def challengerRole : Challenger μ where
  role := "challenger"
  analyze _ context :=
    let found := contradictions context
    let outcome :=
      if found.any isHard then failed
      else if !found.isEmpty then unresolved
      else passed
    .ok {
      role := "challenger"
      signal := outcome
      confidenceDimensions := Dict.empty.update
        [("evidence_quality", if outcome = failed then 7 / 10 else 2 / 5), ("data_quality", 1)]
      freshness := .fresh
      error := false
      roleSpecific := Dict.empty.set "outcome" (.str outcome) }

end Challenger

/-- The limits of a committee cycle. -/
structure DebateConfig where
  maxRounds : Int
  maxChallengesPerCycle : Int
  maxSpecialistsPerCycle : Int

def DebateConfig.default : DebateConfig :=
  { maxRounds := 2, maxChallengesPerCycle := 3, maxSpecialistsPerCycle := 6 }

structure DebateRecord where
  debateId : String
  setupId : String
  round : Nat
  trigger : Severity
  hypothesis : String
  challenge : String
  challenger : String
  response : String
  evidenceRefs : List String
  conflictRefs : List String
  outcome : String

inductive DebateResult
  | resolved
  | wait
  | invalid
deriving DecidableEq

/-- What a debate comes to, with the open conflicts by their positions. -/
structure DebateOutcome where
  outcome : DebateResult
  rounds : Nat
  records : List DebateRecord
  unresolvedConflicts : List (Nat × Conflict)
  rationale : String

structure DebateEngine (μ : Type u) where
  config : DebateConfig
  challenger : Challenger μ
  specialistRunner : Option (String → Context μ → Except String String)

def Severity.rank : Severity → Nat
  | low => 0
  | medium => 1
  | high => 2
  | critical => 3

namespace DebateEngine

/-- The state of a debate: the setup, the conflicts, the ones to be challenged, and the
rounds so far. -/
structure Floor where
  setup : SetupCandidate
  conflicts : List Conflict
  current : List Nat
  records : List DebateRecord

/-- The rank of the conflict at a position. -/
def rankAt (conflicts : List Conflict) (position : Nat) : Nat :=
  (conflicts[position]?.map fun conflict => conflict.severity.rank).getD 0

/-- The first of the most severe conflicts. -/
def target (conflicts : List Conflict) : List Nat → Option Nat
  | [] => none
  | position :: rest =>
      match target conflicts rest with
      | none => some position
      | some other =>
          if rankAt conflicts position < rankAt conflicts other then some other
          else some position

/-- Set the status of the conflict at a position. -/
def setStatus (conflicts : List Conflict) (position : Nat) (status : Resolution) :
    List Conflict :=
  conflicts.modify position fun conflict => { conflict with resolutionStatus := status }

/-- The context of a challenge. -/
def challengeContext (setup : SetupCandidate) (roleOutputs : Dict String RoleOutput)
    (hypothesisDirection : String) (context : Context μ) : Context μ :=
  { context with
    setup := some
      { direction := setup.direction
        missingConditions := setup.missingConditions
        invalidation := setup.invalidation
        supportingEvidenceRefs := setup.supportingEvidenceRefs
        requiredTriggers := [] }
    hypothesisDirection :=
      if hypothesisDirection ≠ "" then hypothesisDirection else setup.direction
    roleOutputs := roleOutputs }

/-- The outcome that a challenger's answer carries. -/
def outcomeOf (answer : RoleOutput) : String :=
  ((answer.roleSpecific.get "outcome").getD (.str Challenger.unresolved)).text

section Debating

variable (engine : DebateEngine μ) (ids : Ids) (hypothesisDirection : String)
  (roleOutputs : Dict String RoleOutput) (context : Context μ)

/-- One targeted challenge. -/
def runOne (setup : SetupCandidate) (conflict : Conflict) (roundNo : Nat) :
    Except String (SetupCandidate × DebateRecord) := do
  let opposing := conflict.domains.headD "structure"
  let issue := conflict.description
  let context := challengeContext setup roleOutputs hypothesisDirection context
  let answer ← engine.challenger.analyze roundNo context
  let outcome := outcomeOf answer
  let response :=
    match engine.specialistRunner with
    | some runner =>
        if outcome = Challenger.unresolved then
          -- a second opinion that fails is not heard
          match runner opposing context with
          | .ok signal => signal
          | .error _ => ""
        else ""
    | none => ""
  return (setup.challenge issue,
    { debateId := ids.debate roundNo
      setupId := setup.setupId
      round := roundNo
      trigger := conflict.severity
      hypothesis := s!"{setup.direction} {setup.setupType}"
      challenge := issue
      challenger := engine.challenger.role
      response := response
      evidenceRefs := conflict.evidenceRefs
      conflictRefs := [conflict.id]
      outcome := outcome })

/-- How the rounds of a debate end. -/
inductive Ending
  | resolved
  | wait
  | invalid (position : Nat) (challenge : String)
deriving DecidableEq

/-- The rounds of a debate. -/
def rounds : Nat → Floor → Except String (Ending × Floor)
  | 0, floor => .ok (.wait, floor)
  | remaining + 1, floor =>
      if max 1 engine.config.maxChallengesPerCycle ≤ floor.records.length then .ok (.wait, floor)
      else
        match target floor.conflicts floor.current with
        | none => .ok (.wait, floor)
        | some position =>
            match floor.conflicts[position]? with
            | none => .ok (.wait, floor)
            | some conflict => do
                let (setup, record) ← engine.runOne ids hypothesisDirection roleOutputs context
                  floor.setup conflict (floor.records.length + 1)
                let records := floor.records ++ [record]
                if record.outcome = Challenger.failed then
                  return (.invalid position record.challenge,
                    { floor with setup := { setup with status := "INVALID" }, records := records })
                else if record.outcome = Challenger.passed then
                  let conflicts := setStatus floor.conflicts position .resolved
                  let current := floor.current.filter (· ≠ position)
                  if current = [] then
                    return (.resolved, ⟨setup, conflicts, current, records⟩)
                  else rounds remaining ⟨setup, conflicts, current, records⟩
                else
                  rounds remaining
                    ⟨setup, setStatus floor.conflicts position .secondOpinion, floor.current,
                      records⟩

/-- The positions of the conflicts that meet a condition. -/
def positions (conflicts : List Conflict) (condition : Conflict → Bool) : List Nat :=
  (List.range conflicts.length).filter fun position => conflicts[position]?.any condition

/-- The conflicts that are not resolved, with their positions. -/
def conflictingList (conflicts : List Conflict) : List (Nat × Conflict) :=
  (positions conflicts fun conflict => conflict.resolutionStatus ≠ .resolved).filterMap
    fun position => conflicts[position]?.map fun conflict => (position, conflict)

/-- The outcome of a debate whose rounds are over. -/
def conclude (maxRounds : Int) (ending : Ending) (floor : Floor) : DebateOutcome :=
  let unresolved := conflictingList floor.conflicts
  match ending with
  | .invalid position challenge =>
      { outcome := .invalid
        rounds := floor.records.length
        records := floor.records
        unresolvedConflicts :=
          (floor.conflicts[position]?.map fun conflict => (position, conflict)).toList
        rationale := s!"Challenger refuted hypothesis: {challenge}" }
  | _ =>
      if ending = .resolved ∧ unresolved = [] then
        { outcome := .resolved
          rounds := floor.records.length
          records := floor.records
          unresolvedConflicts := []
          rationale := "All actionable conflicts resolved by targeted challenge." }
      else
        { outcome := .wait
          rounds := floor.records.length
          records := floor.records
          unresolvedConflicts := unresolved
          rationale :=
            s!"Debate reached max_rounds={maxRounds} with {unresolved.length} unresolved " ++
              "conflict(s) → WAIT." }

/-- The debate about a setup: its outcome, the setup and the conflicts. -/
def run (setup : SetupCandidate) (conflicts : List Conflict) :
    Except String (DebateOutcome × SetupCandidate × List Conflict) :=
  let actionable := positions conflicts fun conflict => conflict.resolutionStatus ≠ .resolved
  let challengeNeeded := positions conflicts fun conflict =>
    conflict.resolutionStatus ≠ .resolved ∧
      (conflict.severity = .high ∨ conflict.severity = .critical)
  let medium := positions conflicts fun conflict =>
    conflict.resolutionStatus ≠ .resolved ∧ conflict.severity = .medium
  if actionable = [] then
    .ok (⟨.resolved, 0, [], [], "No unresolved conflicts."⟩, setup, conflicts)
  else do
    let current := if challengeNeeded ≠ [] then challengeNeeded else medium
    let maxRounds := max 1 engine.config.maxRounds
    let (ending, floor) ← engine.rounds ids hypothesisDirection roleOutputs context
      maxRounds.toNat ⟨setup, conflicts, current, []⟩
    return (conclude maxRounds ending floor, floor.setup, floor.conflicts)

/-- The challenger's answer in a round passes the conflict. -/
def Passes (setup : SetupCandidate) (roundNo : Nat) : Prop :=
  ∃ answer, engine.challenger.analyze roundNo
      (challengeContext setup roleOutputs hypothesisDirection context) = .ok answer ∧
    outcomeOf answer = Challenger.passed

/-- The challenger's answer in a round leaves the conflict open. -/
def LeavesOpen (setup : SetupCandidate) (roundNo : Nat) : Prop :=
  ∃ answer, engine.challenger.analyze roundNo
      (challengeContext setup roleOutputs hypothesisDirection context) = .ok answer ∧
    outcomeOf answer ≠ Challenger.passed ∧ outcomeOf answer ≠ Challenger.failed

/-- A conflict is passed within a number of rounds, and none before leaves it other than
open. -/
def SettledWithin (setup : SetupCandidate) (start count : Nat) : Prop :=
  ∃ later < count,
    engine.Passes hypothesisDirection roleOutputs context setup (start + later) ∧
      ∀ earlier < later,
        engine.LeavesOpen hypothesisDirection roleOutputs context setup (start + earlier)

theorem not_settledWithin_zero (setup : SetupCandidate) (start : Nat) :
    ¬engine.SettledWithin hypothesisDirection roleOutputs context setup start 0 := by
  rintro ⟨later, bound, -⟩
  exact absurd bound (Nat.not_lt_zero later)

/-- Settled within some rounds means passed at once, or left open and settled later. -/
theorem settledWithin_succ_iff (setup : SetupCandidate) (start count : Nat) :
    engine.SettledWithin hypothesisDirection roleOutputs context setup start (count + 1) ↔
      engine.Passes hypothesisDirection roleOutputs context setup start ∨
        engine.LeavesOpen hypothesisDirection roleOutputs context setup start ∧
          engine.SettledWithin hypothesisDirection roleOutputs context setup (start + 1)
            count := by
  constructor
  · rintro ⟨later, bound, passes, before⟩
    cases later with
    | zero => exact Or.inl passes
    | succ later =>
        refine Or.inr ⟨before 0 (Nat.succ_pos later), later, by omega, ?_, ?_⟩
        · rwa [show start + 1 + later = start + (later + 1) by omega]
        · intro earlier sooner
          rw [show start + 1 + earlier = start + (earlier + 1) by omega]
          exact before (earlier + 1) (by omega)
  · rintro (passes | ⟨first, later, bound, passes, before⟩)
    · exact ⟨0, Nat.succ_pos count, passes, nofun⟩
    · refine ⟨later + 1, by omega, ?_, ?_⟩
      · rwa [show start + (later + 1) = start + 1 + later by omega]
      · intro earlier sooner
        cases earlier with
        | zero => exact first
        | succ earlier =>
            rw [show start + (earlier + 1) = start + 1 + earlier by omega]
            exact before earlier (by omega)

/-- A challenge that returns carries the challenger's answer. -/
theorem of_runOne {setup setup' : SetupCandidate} {conflict : Conflict} {roundNo : Nat}
    {record : DebateRecord}
    (returned : engine.runOne ids hypothesisDirection roleOutputs context setup conflict
      roundNo = .ok (setup', record)) :
    setup' = setup.challenge conflict.description ∧
      ∃ answer, engine.challenger.analyze roundNo
        (challengeContext setup roleOutputs hypothesisDirection context) = .ok answer ∧
        record.outcome = outcomeOf answer := by
  obtain ⟨answer, answered, rest⟩ := of_bind_eq_ok returned
  cases rest
  exact ⟨rfl, answer, answered, rfl⟩

/-- A challenge returns when the challenger answers. -/
theorem runOne_of_answer {setup : SetupCandidate} {roundNo : Nat} {answer : RoleOutput}
    (conflict : Conflict)
    (answered : engine.challenger.analyze roundNo
      (challengeContext setup roleOutputs hypothesisDirection context) = .ok answer) :
    ∃ record, engine.runOne ids hypothesisDirection roleOutputs context setup conflict
        roundNo = .ok (setup.challenge conflict.description, record) ∧
      record.outcome = outcomeOf answer := by
  unfold runOne
  dsimp only
  rw [answered]
  exact ⟨_, rfl, rfl⟩

/-- The number of challenges that the configuration allows. -/
def maxChallenges : Nat :=
  (max 1 engine.config.maxChallengesPerCycle).toNat

/-- A round about a single conflict, when the configuration allows one more. -/
theorem rounds_single (remaining : Nat) (setup : SetupCandidate) (conflict : Conflict)
    {records : List DebateRecord} (allowed : records.length < engine.maxChallenges) :
    engine.rounds ids hypothesisDirection roleOutputs context (remaining + 1)
        ⟨setup, [conflict], [0], records⟩ =
      (do
        let (challenged, record) ← engine.runOne ids hypothesisDirection roleOutputs context
          setup conflict (records.length + 1)
        let records := records ++ [record]
        if record.outcome = Challenger.failed then
          return (.invalid 0 record.challenge,
            ⟨{ challenged with status := "INVALID" }, [conflict], [0], records⟩)
        else if record.outcome = Challenger.passed then
          return (.resolved,
            ⟨challenged, [{ conflict with resolutionStatus := .resolved }], [], records⟩)
        else
          engine.rounds ids hypothesisDirection roleOutputs context remaining
            ⟨challenged, [{ conflict with resolutionStatus := .secondOpinion }], [0],
              records⟩) := by
  have more : ¬max 1 engine.config.maxChallengesPerCycle ≤ (records.length : Int) := by
    unfold maxChallenges at allowed
    omega
  rw [rounds, if_neg more]
  rfl

/-- A debate about a single conflict that resolves it: the challenger has passed the conflict
in time, and of the setup only the status and the challenges have changed. -/
theorem of_rounds_resolved {remaining : Nat} {setup : SetupCandidate} {conflict : Conflict}
    {records : List DebateRecord} {floor : Floor}
    (resolved : engine.rounds ids hypothesisDirection roleOutputs context remaining
      ⟨setup, [conflict], [0], records⟩ = .ok (.resolved, floor)) :
    engine.SettledWithin hypothesisDirection roleOutputs context setup (records.length + 1)
        (min remaining (engine.maxChallenges - records.length)) ∧
      floor.setup = { setup with
        status := "CHALLENGED", challenges := floor.setup.challenges } ∧
      floor.conflicts = [{ conflict with resolutionStatus := .resolved }] := by
  induction remaining generalizing setup conflict records with
  | zero => cases resolved
  | succ remaining ih =>
      by_cases allowed : records.length < engine.maxChallenges
      · rw [rounds_single _ _ _ _ _ _ _ _ allowed] at resolved
        obtain ⟨⟨challenged, record⟩, ran, after⟩ := of_bind_eq_ok resolved
        obtain ⟨same, answer, answered, outcome⟩ :=
          engine.of_runOne ids hypothesisDirection roleOutputs context ran
        subst same
        dsimp only at after
        have count : min (remaining + 1) (engine.maxChallenges - records.length) =
            min remaining (engine.maxChallenges - (records.length + 1)) + 1 := by
          omega
        rw [count, settledWithin_succ_iff]
        by_cases failed : record.outcome = Challenger.failed
        · rw [if_pos failed] at after
          cases after
        · rw [if_neg failed] at after
          by_cases passed : record.outcome = Challenger.passed
          · rw [if_pos passed] at after
            cases after
            exact ⟨Or.inl ⟨answer, answered, outcome ▸ passed⟩, rfl, rfl⟩
          · rw [if_neg passed] at after
            have rest := ih after
            rw [List.length_append, List.length_singleton] at rest
            refine ⟨Or.inr ⟨⟨answer, answered, outcome ▸ passed, outcome ▸ failed⟩, ?_⟩, ?_, ?_⟩
            · exact rest.1
            · exact rest.2.1
            · exact rest.2.2
      · have full : max 1 engine.config.maxChallengesPerCycle ≤ (records.length : Int) := by
          unfold maxChallenges at allowed
          omega
        rw [rounds, if_pos full] at resolved
        cases resolved

/-- A conflict that the challenger passes in time is resolved. -/
theorem rounds_resolved_of_settled {remaining : Nat} {setup : SetupCandidate}
    {conflict : Conflict} {records : List DebateRecord}
    (settled : engine.SettledWithin hypothesisDirection roleOutputs context setup
      (records.length + 1) (min remaining (engine.maxChallenges - records.length))) :
    ∃ floor, engine.rounds ids hypothesisDirection roleOutputs context remaining
      ⟨setup, [conflict], [0], records⟩ = .ok (.resolved, floor) := by
  induction remaining generalizing setup conflict records with
  | zero =>
      rw [Nat.zero_min] at settled
      exact absurd settled (engine.not_settledWithin_zero _ _ _ _ _)
  | succ remaining ih =>
      have allowed : records.length < engine.maxChallenges := by
        obtain ⟨later, bound, -⟩ := settled
        omega
      have count : min (remaining + 1) (engine.maxChallenges - records.length) =
          min remaining (engine.maxChallenges - (records.length + 1)) + 1 := by
        omega
      rw [count, settledWithin_succ_iff] at settled
      rw [rounds_single _ _ _ _ _ _ _ _ allowed]
      rcases settled with ⟨answer, answered, passed⟩ |
        ⟨⟨answer, answered, notPassed, notFailed⟩, later⟩
      · obtain ⟨record, ran, outcome⟩ :=
          engine.runOne_of_answer ids hypothesisDirection roleOutputs context conflict answered
        have passes : record.outcome = Challenger.passed := outcome.trans passed
        have survives : record.outcome ≠ Challenger.failed := by
          rw [passes]
          decide
        rw [ran, ok_bind]
        dsimp only
        rw [if_neg survives, if_pos passes]
        exact ⟨_, rfl⟩
      · obtain ⟨record, ran, outcome⟩ :=
          engine.runOne_of_answer ids hypothesisDirection roleOutputs context conflict answered
        rw [ran, ok_bind]
        dsimp only
        rw [if_neg (outcome ▸ notFailed), if_neg (outcome ▸ notPassed)]
        apply ih
        rw [List.length_append, List.length_singleton]
        exact later

/-- The rounds of a cycle: as many as the configuration allows, and at least one. -/
def limit : Nat :=
  min (max 1 engine.config.maxRounds).toNat engine.maxChallenges

/-- The debate about one open conflict of medium severity goes through its rounds. -/
theorem run_single (setup : SetupCandidate) {conflict : Conflict}
    (isOpen : conflict.resolutionStatus = .unresolved) (medium : conflict.severity = .medium) :
    engine.run ids hypothesisDirection roleOutputs context setup [conflict] =
      (do
        let (ending, floor) ← engine.rounds ids hypothesisDirection roleOutputs context
          (max 1 engine.config.maxRounds).toNat ⟨setup, [conflict], [0], []⟩
        return (conclude (max 1 engine.config.maxRounds) ending floor, floor.setup,
          floor.conflicts)) := by
  have all : positions [conflict]
      (fun conflict => conflict.resolutionStatus ≠ .resolved) = [0] := by
    simp [positions, List.range_succ, isOpen]
  have severe : positions [conflict] (fun conflict => conflict.resolutionStatus ≠ .resolved ∧
      (conflict.severity = .high ∨ conflict.severity = .critical)) = [] := by
    simp [positions, List.range_succ, medium]
  have mild : positions [conflict] (fun conflict => conflict.resolutionStatus ≠ .resolved ∧
      conflict.severity = .medium) = [0] := by
    simp [positions, List.range_succ, isOpen, medium]
  unfold run
  dsimp only
  rw [all, severe, mild]
  rfl

/-- The debate about one open conflict resolves it when the challenger passes it in time. -/
theorem run_of_settled {setup : SetupCandidate} {conflict : Conflict}
    (isOpen : conflict.resolutionStatus = .unresolved) (medium : conflict.severity = .medium)
    (settled : engine.SettledWithin hypothesisDirection roleOutputs context setup 1
      engine.limit) :
    ∃ debate challenges,
      engine.run ids hypothesisDirection roleOutputs context setup [conflict] =
        .ok (debate, { setup with status := "CHALLENGED", challenges := challenges },
          [{ conflict with resolutionStatus := .resolved }]) ∧
      debate.outcome = .resolved ∧ debate.unresolvedConflicts = [] := by
  have resolves : ∃ floor, engine.rounds ids hypothesisDirection roleOutputs context
      (max 1 engine.config.maxRounds).toNat ⟨setup, [conflict], [0], []⟩ =
      .ok (.resolved, floor) :=
    rounds_resolved_of_settled engine ids hypothesisDirection roleOutputs context settled
  obtain ⟨floor, resolved⟩ := resolves
  obtain ⟨-, same, closed⟩ :=
    engine.of_rounds_resolved ids hypothesisDirection roleOutputs context resolved
  have none : conflictingList floor.conflicts = [] := by
    rw [closed]
    simp [conflictingList, positions, List.range_succ]
  have outcome : (conclude (max 1 engine.config.maxRounds) .resolved floor).outcome =
      .resolved ∧
      (conclude (max 1 engine.config.maxRounds) .resolved floor).unresolvedConflicts = [] := by
    simp [conclude, none]
  rw [run_single engine ids hypothesisDirection roleOutputs context setup isOpen medium, resolved,
    ok_bind]
  dsimp only
  refine ⟨_, floor.setup.challenges, ?_, outcome⟩
  rw [closed, ← same]
  rfl

/-- A debate about one open conflict that ends resolved has had it passed in time. -/
theorem settled_of_run {setup setup' : SetupCandidate} {conflict : Conflict}
    {conflicts : List Conflict} {debate : DebateOutcome}
    (isOpen : conflict.resolutionStatus = .unresolved) (medium : conflict.severity = .medium)
    (ran : engine.run ids hypothesisDirection roleOutputs context setup [conflict] =
      .ok (debate, setup', conflicts))
    (resolved : debate.outcome = .resolved) :
    engine.SettledWithin hypothesisDirection roleOutputs context setup 1 engine.limit := by
  rw [run_single engine ids hypothesisDirection roleOutputs context setup isOpen medium] at ran
  obtain ⟨⟨ending, floor⟩, rounds, after⟩ := of_bind_eq_ok ran
  cases after
  cases ending with
  | resolved =>
      exact (engine.of_rounds_resolved ids hypothesisDirection roleOutputs context rounds).1
  | wait => simp [conclude] at resolved
  | invalid position challenge => cases resolved

end Debating

end DebateEngine

end EaBot.Agents
