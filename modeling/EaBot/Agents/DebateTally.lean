import EaBot.Agents.Debate

/-!
# What a debate depends on

The challenger is never told which conflict it looks at, so its answers depend on the round only.
The outcome of a debate therefore depends on these answers and on how many conflicts of each
kind are open, and a tally of them tells it.

The most severe open conflicts are challenged, but every open conflict counts when the debate
ends: one of low severity, which nobody challenges, turns a debate that would be resolved into a
wait.
-/

namespace EaBot.Agents

open EaBot.Foundation

universe u

/-! ## A tally of answers -/

/-- The rounds about a number of conflicts, with the challenger's answers by the round. -/
def tally (answers : Nat → Except String String) :
    Nat → Nat → Nat → Except String DebateResult
  | 0, _, _ => .ok .wait
  | _ + 1, 0, _ => .ok .wait
  | remaining + 1, count + 1, done =>
      match answers (done + 1) with
      | .error raised => .error raised
      | .ok outcome =>
          if outcome = Challenger.failed then .ok .invalid
          else if outcome = Challenger.passed then
            if count = 0 then .ok .resolved else tally answers remaining count (done + 1)
          else tally answers remaining (count + 1) (done + 1)

theorem tally_zero (answers : Nat → Except String String) (limit done : Nat) :
    tally answers limit 0 done = .ok .wait := by
  cases limit <;> rfl

/-- After some rounds, the answers of the next ones pass a number of conflicts and refute none,
within a limit. -/
def Settles (answers : Nat → Except String String) (limit count done : Nat) : Prop :=
  ∃ rounds ≤ limit,
    (∀ round < rounds, ∃ outcome, answers (done + round + 1) = .ok outcome ∧
      outcome ≠ Challenger.failed) ∧
    (List.range rounds).countP (fun round =>
      answers (done + round + 1) = .ok Challenger.passed) = count

section Tally

variable {answers : Nat → Except String String}

theorem settles_zero (limit done : Nat) : Settles answers limit 0 done :=
  ⟨0, Nat.zero_le limit, fun _ before => absurd before (Nat.not_lt_zero _), rfl⟩

theorem not_settles_zero (count done : Nat) : ¬Settles answers 0 (count + 1) done := by
  rintro ⟨rounds, bound, -, counted⟩
  rw [Nat.le_zero.mp bound] at counted
  exact absurd counted (Nat.succ_ne_zero count).symm

/-- The first round settles a conflict, or leaves it open. -/
theorem settles_succ_iff (limit count done : Nat) :
    Settles answers (limit + 1) (count + 1) done ↔
      answers (done + 1) = .ok Challenger.passed ∧ Settles answers limit count (done + 1) ∨
        (∃ outcome, answers (done + 1) = .ok outcome ∧ outcome ≠ Challenger.failed ∧
          outcome ≠ Challenger.passed) ∧ Settles answers limit (count + 1) (done + 1) := by
  have shift : ∀ round, done + (round + 1) + 1 = done + 1 + round + 1 := by
    intro round
    omega
  have peel : ∀ rounds, (List.range (rounds + 1)).countP
      (fun round => answers (done + round + 1) = .ok Challenger.passed) =
        (List.range rounds).countP
          (fun round => answers (done + 1 + round + 1) = .ok Challenger.passed) +
        if answers (done + 1) = .ok Challenger.passed then 1 else 0 := by
    intro rounds
    rw [List.range_succ_eq_map, List.countP_cons, List.countP_map]
    congr 1
    · apply List.countP_congr
      intro round _
      simp only [Function.comp_apply, shift]
    · simp only [Nat.add_zero, decide_eq_true_eq]
  constructor
  · rintro ⟨rounds, bound, heard, counted⟩
    cases rounds with
    | zero => exact absurd counted (Nat.succ_ne_zero count).symm
    | succ rounds =>
        have later : ∀ round < rounds, ∃ outcome,
            answers (done + 1 + round + 1) = .ok outcome ∧ outcome ≠ Challenger.failed := by
          intro round before
          rw [← shift]
          exact heard (round + 1) (by omega)
        rw [peel] at counted
        by_cases passed : answers (done + 1) = .ok Challenger.passed
        · rw [if_pos passed] at counted
          exact Or.inl ⟨passed, rounds, by omega, later, by omega⟩
        · rw [if_neg passed] at counted
          obtain ⟨outcome, answered, survives⟩ := heard 0 (Nat.succ_pos rounds)
          have opens : outcome ≠ Challenger.passed := by
            rintro rfl
            exact passed answered
          exact Or.inr ⟨⟨outcome, answered, survives, opens⟩, rounds, by omega, later, counted⟩
  · have first : ∀ rounds, (∃ outcome, answers (done + 1) = .ok outcome ∧
        outcome ≠ Challenger.failed) →
        (∀ round < rounds, ∃ outcome, answers (done + 1 + round + 1) = .ok outcome ∧
          outcome ≠ Challenger.failed) →
        ∀ round < rounds + 1, ∃ outcome, answers (done + round + 1) = .ok outcome ∧
          outcome ≠ Challenger.failed := by
      intro rounds now later round before
      cases round with
      | zero => exact now
      | succ round =>
          rw [shift]
          exact later round (by omega)
    rintro (⟨passed, rounds, bound, heard, counted⟩ |
      ⟨⟨outcome, answered, survives, opens⟩, rounds, bound, heard, counted⟩)
    · refine ⟨rounds + 1, by omega, first rounds ⟨_, passed, by decide⟩ heard, ?_⟩
      rw [peel, if_pos passed, counted]
    · have notPassed : answers (done + 1) ≠ .ok Challenger.passed := by
        rw [answered]
        exact fun same => opens (Except.ok.inj same)
      refine ⟨rounds + 1, by omega, first rounds ⟨_, answered, survives⟩ heard, ?_⟩
      rw [peel, if_neg notPassed, counted]

/-- A tally is resolved when its answers settle the conflicts. -/
theorem tally_resolved_iff (remaining count done : Nat) :
    tally answers remaining (count + 1) done = .ok .resolved ↔
      Settles answers remaining (count + 1) done := by
  induction remaining generalizing count done with
  | zero =>
      exact iff_of_false (by simp [tally]) (not_settles_zero count done)
  | succ remaining ih =>
      rw [settles_succ_iff, tally]
      cases answered : answers (done + 1) with
      | error raised => simp
      | ok outcome =>
          dsimp only
          by_cases failed : outcome = Challenger.failed
          · have distinct : Challenger.failed ≠ Challenger.passed := by decide
            subst failed
            simp [distinct]
          · rw [if_neg failed]
            by_cases passed : outcome = Challenger.passed
            · rw [if_pos passed]
              cases count with
              | zero => simp [passed, settles_zero]
              | succ count =>
                  rw [if_neg (Nat.succ_ne_zero count), ih]
                  simp [passed]
            · rw [if_neg passed, ih]
              simp [passed, failed]

end Tally

/-! ## Rounds -/

namespace DebateEngine

/-- The result that an ending stands for, when no conflict is left over. -/
def Ending.result : Ending → DebateResult
  | resolved => .resolved
  | wait => .wait
  | invalid _ _ => .invalid

/-- The floor after a challenge that passed. -/
def Floor.pass (floor : Floor) (position : Nat) (setup : SetupCandidate)
    (record : DebateRecord) : Floor :=
  ⟨setup, setStatus floor.conflicts position .resolved,
    floor.current.filter (· ≠ position), floor.records ++ [record]⟩

/-- The floor after a challenge that left its conflict open. -/
def Floor.leave (floor : Floor) (position : Nat) (setup : SetupCandidate)
    (record : DebateRecord) : Floor :=
  ⟨setup, setStatus floor.conflicts position .secondOpinion, floor.current,
    floor.records ++ [record]⟩

theorem target_eq_none_iff (conflicts : List Conflict) (current : List Nat) :
    target conflicts current = none ↔ current = [] := by
  cases current with
  | nil => simp [target]
  | cons position rest =>
      rw [target]
      cases target conflicts rest with
      | none => simp
      | some other =>
          dsimp only
          split <;> simp

theorem target_mem {conflicts : List Conflict} {current : List Nat} {position : Nat}
    (aimed : target conflicts current = some position) : position ∈ current := by
  induction current generalizing position with
  | nil => cases aimed
  | cons first rest ih =>
      rw [target] at aimed
      cases found : target conflicts rest with
      | none =>
          rw [found] at aimed
          cases aimed
          exact List.mem_cons_self
      | some other =>
          rw [found] at aimed
          dsimp only at aimed
          split at aimed
          · cases aimed
            exact List.mem_cons_of_mem first (ih found)
          · cases aimed
            exact List.mem_cons_self

/-! ## The standing of a debate -/

/-- The identifier of the conflict at a position. -/
def refsAt (conflicts : List Conflict) (position : Nat) : List String :=
  (conflicts[position]?.map Conflict.id).toList

/-- The conflicts of the challenges that passed. -/
def passedRefs (records : List DebateRecord) : List (List String) :=
  (records.filter fun record => record.outcome = Challenger.passed).map
    DebateRecord.conflictRefs

/-- How a debate stands that began with some conflicts and challenges those at some positions:
the passed challenges and the positions that are left account for all of them. -/
structure Standing (before : List Conflict) (challenged : List Nat) (floor : Floor) : Prop where
  nodup : floor.current.Nodup
  within : ∀ position ∈ floor.current, position ∈ challenged
  listed : ∀ position ∈ challenged, position < before.length
  ids : floor.conflicts.map Conflict.id = before.map Conflict.id
  others : ∀ position, position ∉ challenged →
    floor.conflicts[position]? = before[position]?
  closed : ∀ position ∈ challenged, position ∉ floor.current →
    ∀ conflict, floor.conflicts[position]? = some conflict →
      conflict.resolutionStatus = .resolved
  accounted : (passedRefs floor.records ++ floor.current.map (refsAt before)).Perm
    (challenged.map (refsAt before))

theorem getElem?_setStatus (conflicts : List Conflict) (position other : Nat)
    (status : Resolution) :
    (setStatus conflicts position status)[other]? =
      if position = other then
        conflicts[other]?.map fun conflict => { conflict with resolutionStatus := status }
      else conflicts[other]? := by
  rw [setStatus, List.getElem?_modify]
  split <;> simp

@[simp]
theorem map_id_setStatus (conflicts : List Conflict) (position : Nat) (status : Resolution) :
    (setStatus conflicts position status).map Conflict.id = conflicts.map Conflict.id := by
  apply List.ext_getElem?
  intro other
  rw [List.getElem?_map, List.getElem?_map, getElem?_setStatus]
  split
  · rw [Option.map_map]
    rfl
  · rfl

namespace Standing

variable {before : List Conflict} {challenged : List Nat} {floor : Floor} {position : Nat}

/-- There is a conflict at each position that is left, and it has its identifier. -/
theorem held (standing : Standing before challenged floor) (member : position ∈ floor.current) :
    ∃ conflict, floor.conflicts[position]? = some conflict ∧
      refsAt before position = [conflict.id] := by
  have bound := standing.listed position (standing.within position member)
  have size : floor.conflicts.length = before.length := by
    rw [← List.length_map Conflict.id, standing.ids, List.length_map]
  have inside : position < floor.conflicts.length := size ▸ bound
  have held := List.getElem?_eq_getElem inside
  refine ⟨floor.conflicts[position], held, ?_⟩
  rw [refsAt, ← List.getElem?_map, ← standing.ids, List.getElem?_map, held]
  rfl

/-- A position that is dropped leaves the other ones. -/
theorem erase (standing : Standing before challenged floor) (position : Nat) :
    floor.current.filter (· ≠ position) = floor.current.erase position := by
  rw [standing.nodup.erase_eq_filter]
  exact List.filter_congr fun other _ => Bool.eq_iff_iff.mpr (by simp)

theorem pass (standing : Standing before challenged floor) (member : position ∈ floor.current)
    (setup : SetupCandidate) {record : DebateRecord} (passed : record.outcome = Challenger.passed)
    (refs : record.conflictRefs = refsAt before position) :
    Standing before challenged (floor.pass position setup record) := by
  constructor
  · exact standing.nodup.filter _
  · exact fun other left => standing.within other (List.mem_filter.mp left).1
  · exact standing.listed
  · exact (map_id_setStatus _ _ _).trans standing.ids
  · intro other outside
    have distinct : position ≠ other := by
      rintro rfl
      exact outside (standing.within _ member)
    rw [Floor.pass, getElem?_setStatus, if_neg distinct]
    exact standing.others other outside
  · intro other inside gone conflict found
    rw [Floor.pass, getElem?_setStatus] at found
    by_cases here : position = other
    · rw [if_pos here] at found
      obtain ⟨old, -, rfl⟩ := Option.map_eq_some_iff.mp found
      rfl
    · rw [if_neg here] at found
      have absent : other ∉ floor.current := fun left =>
        gone (List.mem_filter.mpr ⟨left, decide_eq_true (Ne.symm here)⟩)
      exact standing.closed other inside absent conflict found
  · have counted : passedRefs (floor.records ++ [record]) =
        passedRefs floor.records ++ [refsAt before position] := by
      rw [passedRefs, List.filter_append, List.filter_singleton, decide_eq_true passed, cond_true,
        List.map_append, List.map_singleton, refs]
      rfl
    have rest : (position :: floor.current.filter (· ≠ position)).Perm floor.current := by
      rw [standing.erase]
      exact (List.perm_cons_erase member).symm
    rw [Floor.pass, counted, List.append_assoc, List.singleton_append, ← List.map_cons]
    exact ((rest.map _).append_left _).trans standing.accounted

theorem leave (standing : Standing before challenged floor) (member : position ∈ floor.current)
    (setup : SetupCandidate) {record : DebateRecord} (left : record.outcome ≠ Challenger.passed) :
    Standing before challenged (floor.leave position setup record) := by
  constructor
  · exact standing.nodup
  · exact standing.within
  · exact standing.listed
  · exact (map_id_setStatus _ _ _).trans standing.ids
  · intro other outside
    have distinct : position ≠ other := by
      rintro rfl
      exact outside (standing.within _ member)
    rw [Floor.leave, getElem?_setStatus, if_neg distinct]
    exact standing.others other outside
  · intro other inside gone conflict found
    have distinct : position ≠ other := by
      rintro rfl
      exact gone member
    rw [Floor.leave, getElem?_setStatus, if_neg distinct] at found
    exact standing.closed other inside gone conflict found
  · have same : passedRefs (floor.records ++ [record]) = passedRefs floor.records := by
      rw [passedRefs, List.filter_append, List.filter_singleton, decide_eq_false left, cond_false,
        List.append_nil]
      rfl
    rw [Floor.leave, same]
    exact standing.accounted

end Standing

/-! ## Kinds of open conflicts -/

/-- The kinds of conflicts that a debate tells apart. -/
inductive Kind
  | severe
  | medium
  | low
deriving DecidableEq

def Kind.of : Severity → Kind
  | .low => low
  | .medium => medium
  | .high => severe
  | .critical => severe

def isOpen (conflict : Conflict) : Bool :=
  conflict.resolutionStatus ≠ .resolved

/-- Whether a conflict is open and of a kind. -/
def isOpenOf (kind : Kind) (conflict : Conflict) : Bool :=
  conflict.resolutionStatus ≠ .resolved ∧ Kind.of conflict.severity = kind

/-- How many conflicts of a kind are open. -/
def openCount (conflicts : List Conflict) (kind : Kind) : Nat :=
  conflicts.countP (isOpenOf kind)

/-- The kind of conflicts that a debate challenges. -/
def wanted (counts : Kind → Nat) : Kind :=
  if counts .severe ≠ 0 then .severe else .medium

/-- There is an open conflict that nobody challenges. -/
def Leftover (counts : Kind → Nat) : Prop :=
  counts .low ≠ 0 ∨ counts .severe ≠ 0 ∧ counts .medium ≠ 0

instance (counts : Kind → Nat) : Decidable (Leftover counts) :=
  inferInstanceAs (Decidable (_ ∨ _))

theorem openCount_eq_zero_iff (conflicts : List Conflict) (kind : Kind) :
    openCount conflicts kind = 0 ↔
      ∀ conflict ∈ conflicts, isOpen conflict = true → Kind.of conflict.severity ≠ kind := by
  simp [openCount, isOpenOf, isOpen, List.countP_eq_zero]

/-- Every open conflict is challenged when there is none of another kind. -/
theorem open_wanted_iff (conflicts : List Conflict) :
    (∀ conflict ∈ conflicts, isOpen conflict = true →
        isOpenOf (wanted (openCount conflicts)) conflict = true) ↔
      ¬Leftover (openCount conflicts) := by
  have others : (∀ conflict ∈ conflicts, isOpen conflict = true →
      isOpenOf (wanted (openCount conflicts)) conflict = true) ↔
        ∀ kind ≠ wanted (openCount conflicts), openCount conflicts kind = 0 := by
    simp only [openCount_eq_zero_iff]
    constructor
    · intro every kind other conflict member isOpen same
      have asked := of_decide_eq_true (every conflict member isOpen)
      exact other (same.symm.trans asked.2)
    · intro none conflict member isOpen
      refine decide_eq_true ⟨of_decide_eq_true isOpen, ?_⟩
      by_contra other
      exact none _ other conflict member isOpen rfl
  rw [others, Leftover, not_or, not_and, not_not, not_not, wanted]
  by_cases severe : openCount conflicts .severe = 0
  · rw [if_neg (not_not.mpr severe)]
    constructor
    · intro none
      exact ⟨none .low (by decide), fun some => absurd severe some⟩
    · rintro ⟨noLow, -⟩ kind other
      cases kind with
      | severe => exact severe
      | medium => exact absurd rfl other
      | low => exact noLow
  · rw [if_pos severe]
    constructor
    · intro none
      exact ⟨none .low (by decide), fun _ => none .medium (by decide)⟩
    · rintro ⟨noLow, noMedium⟩ kind other
      cases kind with
      | severe => exact absurd rfl other
      | medium => exact noMedium severe
      | low => exact noLow

/-- The challenged conflicts are the open ones when there is none of another kind. -/
theorem filter_wanted_eq {conflicts : List Conflict} (settled : ¬Leftover (openCount conflicts)) :
    conflicts.filter (isOpenOf (wanted (openCount conflicts))) = conflicts.filter isOpen := by
  have every := (open_wanted_iff conflicts).mpr settled
  apply List.filter_congr
  intro conflict member
  apply Bool.eq_iff_iff.mpr
  constructor
  · intro asked
    exact decide_eq_true (of_decide_eq_true asked).1
  · exact every conflict member

theorem countP_isOpen_eq_zero_iff (conflicts : List Conflict) :
    conflicts.countP isOpen = 0 ↔ openCount conflicts .severe = 0 ∧
      openCount conflicts .medium = 0 ∧ openCount conflicts .low = 0 := by
  rw [List.countP_eq_zero]
  simp only [openCount_eq_zero_iff]
  constructor
  · intro closed
    refine ⟨?_, ?_, ?_⟩ <;>
      exact fun conflict member isOpen => absurd isOpen (closed conflict member)
  · rintro ⟨severe, medium, low⟩ conflict member isOpen
    cases same : Kind.of conflict.severity with
    | severe => exact severe conflict member isOpen same
    | medium => exact medium conflict member isOpen same
    | low => exact low conflict member isOpen same

/-! ## Positions -/

theorem mem_positions_iff {conflicts : List Conflict} {condition : Conflict → Bool}
    {position : Nat} :
    position ∈ positions conflicts condition ↔
      ∃ conflict, conflicts[position]? = some conflict ∧ condition conflict = true := by
  rw [positions, List.mem_filter, List.mem_range, Option.any_eq_true]
  constructor
  · exact And.right
  · rintro ⟨conflict, held, meets⟩
    exact ⟨(List.getElem?_eq_some_iff.mp held).1, conflict, held, meets⟩

theorem positions_append_singleton (conflicts : List Conflict) (last : Conflict)
    (condition : Conflict → Bool) :
    positions (conflicts ++ [last]) condition =
      positions conflicts condition ++ if condition last then [conflicts.length] else [] := by
  rw [positions, List.length_append, List.length_singleton, List.range_succ, List.filter_append]
  congr 1
  · apply List.filter_congr
    intro position inside
    rw [List.getElem?_append_left (List.mem_range.mp inside)]
  · rw [List.filter_singleton, List.getElem?_concat_length, Option.any_some]
    cases condition last <;> rfl

/-- The conflicts at the positions that meet a condition, by their identifiers. -/
theorem map_refsAt_positions (conflicts : List Conflict) (condition : Conflict → Bool) :
    (positions conflicts condition).map (refsAt conflicts) =
      (conflicts.filter condition).map fun conflict => [conflict.id] := by
  induction conflicts using List.reverseRecOn with
  | nil => rfl
  | append_singleton conflicts last ih =>
      have earlier : (positions conflicts condition).map (refsAt (conflicts ++ [last])) =
          (positions conflicts condition).map (refsAt conflicts) := by
        apply List.map_congr_left
        intro position member
        obtain ⟨conflict, held, -⟩ := mem_positions_iff.mp member
        rw [refsAt, refsAt,
          List.getElem?_append_left (List.getElem?_eq_some_iff.mp held).1]
      rw [positions_append_singleton, List.map_append, earlier, ih, List.filter_append,
        List.map_append, List.filter_singleton]
      cases condition last with
      | false => rfl
      | true => simp [refsAt]

theorem length_positions (conflicts : List Conflict) (condition : Conflict → Bool) :
    (positions conflicts condition).length = conflicts.countP condition := by
  rw [← List.length_map (refsAt conflicts), map_refsAt_positions, List.length_map,
    List.countP_eq_length_filter]

theorem positions_eq_nil_iff (conflicts : List Conflict) (condition : Conflict → Bool) :
    positions conflicts condition = [] ↔ conflicts.countP condition = 0 := by
  rw [← length_positions, List.length_eq_zero_iff]

theorem conflictingList_eq_nil_iff (conflicts : List Conflict) :
    conflictingList conflicts = [] ↔ ∀ conflict ∈ conflicts, isOpen conflict = false := by
  have same : conflictingList conflicts = [] ↔ positions conflicts isOpen = [] := by
    rw [conflictingList, List.filterMap_eq_nil_iff]
    constructor
    · intro none
      apply List.eq_nil_iff_forall_not_mem.mpr
      intro position member
      obtain ⟨conflict, held, -⟩ := mem_positions_iff.mp member
      have gone := none position member
      rw [held] at gone
      cases gone
    · intro empty position member
      exact absurd (empty ▸ member : position ∈ []) List.not_mem_nil
  rw [same, positions_eq_nil_iff, List.countP_eq_zero]
  simp only [Bool.not_eq_true]

section Debating

variable {μ : Type u} (engine : DebateEngine μ) (ids : Ids) (hypothesisDirection : String)
  (roleOutputs : Dict String RoleOutput) (context : Context μ)

/-- What the challenger answers in a round. -/
def answers (setup : SetupCandidate) (roundNo : Nat) : Except String String :=
  (engine.challenger.analyze roundNo
    (challengeContext setup roleOutputs hypothesisDirection context)).map outcomeOf

/-- The record of a challenge, by its outcome. -/
def recordOf (setup : SetupCandidate) (conflict : Conflict) (roundNo : Nat) (outcome : String) :
    DebateRecord :=
  { debateId := ids.debate roundNo
    setupId := setup.setupId
    round := roundNo
    trigger := conflict.severity
    hypothesis := s!"{setup.direction} {setup.setupType}"
    challenge := conflict.description
    challenger := engine.challenger.role
    response :=
      match engine.specialistRunner with
      | some runner =>
          if outcome = Challenger.unresolved then
            match runner (conflict.domains.headD "structure")
                (challengeContext setup roleOutputs hypothesisDirection context) with
            | .ok signal => signal
            | .error _ => ""
          else ""
      | none => ""
    evidenceRefs := conflict.evidenceRefs
    conflictRefs := [conflict.id]
    outcome := outcome }

theorem runOne_eq (setup : SetupCandidate) (conflict : Conflict) (roundNo : Nat) :
    engine.runOne ids hypothesisDirection roleOutputs context setup conflict roundNo =
      (engine.answers hypothesisDirection roleOutputs context setup roundNo).map
        fun outcome => (setup.challenge conflict.description,
          engine.recordOf ids hypothesisDirection roleOutputs context setup conflict roundNo
            outcome) := by
  unfold runOne answers
  dsimp only
  cases engine.challenger.analyze roundNo
      (challengeContext setup roleOutputs hypothesisDirection context) with
  | error raised => rfl
  | ok answer => rfl

/-- The debate is over when there are no challenges or no conflicts left. -/
theorem rounds_of_over (remaining : Nat) {floor : Floor}
    (ended : engine.maxChallenges ≤ floor.records.length ∨ floor.current = []) :
    engine.rounds ids hypothesisDirection roleOutputs context remaining floor =
      .ok (.wait, floor) := by
  cases remaining with
  | zero => rfl
  | succ remaining =>
      rw [rounds]
      by_cases full : max 1 engine.config.maxChallengesPerCycle ≤ (floor.records.length : Int)
      · rw [if_pos full]
      · have empty : floor.current = [] := by
          refine ended.resolve_left fun all => full ?_
          unfold maxChallenges at all
          omega
        rw [if_neg full, (target_eq_none_iff _ _).mpr empty]

/-- A round challenges one conflict. -/
theorem rounds_of_target (remaining : Nat) {floor : Floor} {position : Nat} {conflict : Conflict}
    (allowed : floor.records.length < engine.maxChallenges)
    (aimed : target floor.conflicts floor.current = some position)
    (held : floor.conflicts[position]? = some conflict) :
    engine.rounds ids hypothesisDirection roleOutputs context (remaining + 1) floor =
      match engine.answers hypothesisDirection roleOutputs context floor.setup
          (floor.records.length + 1) with
      | .error raised => .error raised
      | .ok outcome =>
          let setup := floor.setup.challenge conflict.description
          let record := engine.recordOf ids hypothesisDirection roleOutputs context floor.setup
            conflict (floor.records.length + 1) outcome
          if outcome = Challenger.failed then
            .ok (.invalid position record.challenge,
              { floor with
                setup := { setup with status := "INVALID" }
                records := floor.records ++ [record] })
          else if outcome = Challenger.passed then
            if (floor.pass position setup record).current = [] then
              .ok (.resolved, floor.pass position setup record)
            else
              engine.rounds ids hypothesisDirection roleOutputs context remaining
                (floor.pass position setup record)
          else
            engine.rounds ids hypothesisDirection roleOutputs context remaining
              (floor.leave position setup record) := by
  have more : ¬max 1 engine.config.maxChallengesPerCycle ≤ (floor.records.length : Int) := by
    unfold maxChallenges at allowed
    omega
  rw [rounds, if_neg more, aimed]
  dsimp only
  rw [held]
  dsimp only
  rw [runOne_eq]
  cases engine.answers hypothesisDirection roleOutputs context floor.setup
      (floor.records.length + 1) with
  | error raised => rfl
  | ok outcome => rfl

/-- A property of the rounds, by what one round does. -/
theorem rounds_induction {before : List Conflict} {challenged : List Nat}
    {motive : Nat → Floor → Except String (Ending × Floor) → Prop}
    (stop : ∀ remaining floor, Standing before challenged floor →
      (remaining = 0 ∨ engine.maxChallenges ≤ floor.records.length ∨ floor.current = []) →
        motive remaining floor (.ok (.wait, floor)))
    (raise : ∀ remaining floor raised, floor.records.length < engine.maxChallenges →
      floor.current ≠ [] →
      engine.answers hypothesisDirection roleOutputs context floor.setup
        (floor.records.length + 1) = .error raised →
        motive (remaining + 1) floor (.error raised))
    (fail : ∀ remaining floor setup record position challenge,
      floor.records.length < engine.maxChallenges → floor.current ≠ [] →
      engine.answers hypothesisDirection roleOutputs context floor.setup
        (floor.records.length + 1) = .ok Challenger.failed →
        motive (remaining + 1) floor (.ok (.invalid position challenge,
          { floor with setup := setup, records := floor.records ++ [record] })))
    (pass : ∀ remaining floor issue record position result,
      floor.records.length < engine.maxChallenges → position ∈ floor.current →
      Standing before challenged floor →
      engine.answers hypothesisDirection roleOutputs context floor.setup
        (floor.records.length + 1) = .ok Challenger.passed →
      Standing before challenged (floor.pass position (floor.setup.challenge issue) record) →
      ((floor.pass position (floor.setup.challenge issue) record).current = [] ∧
          result = .ok (.resolved, floor.pass position (floor.setup.challenge issue) record) ∨
        (floor.pass position (floor.setup.challenge issue) record).current ≠ [] ∧
          motive remaining (floor.pass position (floor.setup.challenge issue) record) result) →
        motive (remaining + 1) floor result)
    (leave : ∀ remaining floor issue record position outcome result,
      floor.records.length < engine.maxChallenges → floor.current ≠ [] →
      engine.answers hypothesisDirection roleOutputs context floor.setup
        (floor.records.length + 1) = .ok outcome →
      outcome ≠ Challenger.failed → outcome ≠ Challenger.passed →
      motive remaining (floor.leave position (floor.setup.challenge issue) record) result →
        motive (remaining + 1) floor result)
    (remaining : Nat) {floor : Floor} (standing : Standing before challenged floor) :
    motive remaining floor
      (engine.rounds ids hypothesisDirection roleOutputs context remaining floor) := by
  induction remaining generalizing floor with
  | zero => exact stop 0 floor standing (Or.inl rfl)
  | succ remaining ih =>
      by_cases ended : engine.maxChallenges ≤ floor.records.length ∨ floor.current = []
      · rw [engine.rounds_of_over ids hypothesisDirection roleOutputs context _ ended]
        exact stop _ floor standing (Or.inr ended)
      · obtain ⟨allowed, some⟩ := not_or.mp ended
        have allowed := Nat.lt_of_not_le allowed
        obtain ⟨position, aimed⟩ : ∃ position,
            target floor.conflicts floor.current = .some position :=
          Option.ne_none_iff_exists'.mp fun none => some ((target_eq_none_iff _ _).mp none)
        have member := target_mem aimed
        obtain ⟨conflict, held, refs⟩ := standing.held member
        rw [engine.rounds_of_target ids hypothesisDirection roleOutputs context remaining allowed
          aimed held]
        cases answered : engine.answers hypothesisDirection roleOutputs context floor.setup
            (floor.records.length + 1) with
        | error raised => exact raise remaining floor raised allowed some answered
        | ok outcome =>
            dsimp only
            by_cases failed : outcome = Challenger.failed
            · rw [if_pos failed]
              exact fail remaining floor _ _ position _ allowed some (failed ▸ answered)
            · rw [if_neg failed]
              have noted : (engine.recordOf ids hypothesisDirection roleOutputs context floor.setup
                  conflict (floor.records.length + 1) outcome).outcome = outcome := rfl
              have about : (engine.recordOf ids hypothesisDirection roleOutputs context floor.setup
                  conflict (floor.records.length + 1) outcome).conflictRefs =
                    refsAt before position := refs.symm
              generalize engine.recordOf ids hypothesisDirection roleOutputs context floor.setup
                conflict (floor.records.length + 1) outcome = record at noted about
              generalize conflict.description = issue
              by_cases passed : outcome = Challenger.passed
              · have stands : Standing before challenged
                    (floor.pass position (floor.setup.challenge issue) record) :=
                  standing.pass member _ (noted.trans passed) about
                rw [if_pos passed]
                refine pass remaining floor issue record position _ allowed member standing
                  (passed ▸ answered) stands ?_
                by_cases last :
                    (floor.pass position (floor.setup.challenge issue) record).current = []
                · rw [if_pos last]
                  exact Or.inl ⟨last, rfl⟩
                · rw [if_neg last]
                  exact Or.inr ⟨last, ih stands⟩
              · have stands : Standing before challenged
                    (floor.leave position (floor.setup.challenge issue) record) :=
                  standing.leave member _ (noted ▸ passed)
                rw [if_neg passed]
                exact leave remaining floor issue record position outcome _ allowed some answered
                  failed passed (ih stands)

/-- The rounds make a record of each challenge, and no more than is allowed. -/
theorem length_records_rounds {before : List Conflict} {challenged : List Nat} (remaining : Nat)
    {floor : Floor} (standing : Standing before challenged floor) :
    ∀ ending floor', engine.rounds ids hypothesisDirection roleOutputs context remaining floor =
        .ok (ending, floor') →
      floor'.records.length ≤
        floor.records.length + min remaining (engine.maxChallenges - floor.records.length) := by
  refine engine.rounds_induction ids hypothesisDirection roleOutputs context
    (motive := fun remaining floor result => ∀ ending floor', result = .ok (ending, floor') →
      floor'.records.length ≤
        floor.records.length + min remaining (engine.maxChallenges - floor.records.length))
    ?_ ?_ ?_ ?_ ?_ remaining standing
  · rintro remaining floor - - ending floor' ended
    cases ended
    exact Nat.le_add_right _ _
  · rintro remaining floor raised - - - ending floor' ended
    cases ended
  · rintro remaining floor setup record position challenge allowed - - ending floor' ended
    cases ended
    simp only [List.length_append, List.length_singleton]
    omega
  · rintro remaining floor issue record position result allowed - - - -
      (⟨-, last⟩ | ⟨-, onwards⟩) ending floor' ended
    · cases last.symm.trans ended
      simp only [Floor.pass, List.length_append, List.length_singleton]
      omega
    · have bound := onwards ending floor' ended
      simp only [Floor.pass, List.length_append, List.length_singleton] at bound
      omega
  · rintro remaining floor issue record position outcome result allowed - - - - onwards ending
      floor' ended
    have bound := onwards ending floor' ended
    simp only [Floor.leave, List.length_append, List.length_singleton] at bound
    omega

/-- A debate that is resolved stands where every challenged conflict has been passed. -/
theorem standing_of_resolved {before : List Conflict} {challenged : List Nat} (remaining : Nat)
    {floor : Floor} (standing : Standing before challenged floor) :
    ∀ floor', engine.rounds ids hypothesisDirection roleOutputs context remaining floor =
        .ok (.resolved, floor') →
      Standing before challenged floor' ∧ floor'.current = [] := by
  refine engine.rounds_induction ids hypothesisDirection roleOutputs context
    (motive := fun _ _ result => ∀ floor', result = .ok (.resolved, floor') →
      Standing before challenged floor' ∧ floor'.current = [])
    ?_ ?_ ?_ ?_ ?_ remaining standing
  · rintro remaining floor - - floor' ended
    cases ended
  · rintro remaining floor raised - - - floor' ended
    cases ended
  · rintro remaining floor setup record position challenge - - - floor' ended
    cases ended
  · rintro remaining floor issue record position result - - - - stands
      (⟨empty, last⟩ | ⟨-, onwards⟩) floor' ended
    · cases last.symm.trans ended
      exact ⟨stands, empty⟩
    · exact onwards floor' ended
  · rintro remaining floor issue record position outcome result - - - - - onwards
    exact onwards

/-- The rounds end as the tally of the answers tells. -/
theorem rounds_tally {before : List Conflict} {challenged : List Nat} (remaining : Nat)
    {floor : Floor} (standing : Standing before challenged floor) :
    (engine.rounds ids hypothesisDirection roleOutputs context remaining floor).map
        (fun ended => ended.1.result) =
      tally (engine.answers hypothesisDirection roleOutputs context floor.setup)
        (min remaining (engine.maxChallenges - floor.records.length)) floor.current.length
        floor.records.length := by
  have more : ∀ remaining done, done < engine.maxChallenges →
      min (remaining + 1) (engine.maxChallenges - done) =
        min remaining (engine.maxChallenges - (done + 1)) + 1 := by
    intro remaining done allowed
    omega
  have some : ∀ current : List Nat, current ≠ [] → ∃ count, current.length = count + 1 :=
    fun current left => Nat.exists_eq_add_one.mpr (List.length_pos_iff.mpr left)
  refine engine.rounds_induction ids hypothesisDirection roleOutputs context
    (motive := fun remaining floor result => result.map (fun ended => ended.1.result) =
      tally (engine.answers hypothesisDirection roleOutputs context floor.setup)
        (min remaining (engine.maxChallenges - floor.records.length)) floor.current.length
        floor.records.length)
    ?_ ?_ ?_ ?_ ?_ remaining standing
  · rintro remaining floor - ended
    have waits : ∀ limit count, limit = 0 ∨ count = 0 →
        tally (engine.answers hypothesisDirection roleOutputs context floor.setup) limit count
          floor.records.length = .ok .wait := by
      rintro limit count (rfl | rfl)
      · rfl
      · exact tally_zero _ _ _
    rw [waits]
    · rfl
    · rcases ended with none | full | empty
      · exact Or.inl (by omega)
      · exact Or.inl (by omega)
      · exact Or.inr (List.length_eq_zero_iff.mpr empty)
  · rintro remaining floor raised allowed left answered
    obtain ⟨count, length⟩ := some floor.current left
    rw [more _ _ allowed, length, tally, answered]
    rfl
  · rintro remaining floor setup record position challenge allowed left answered
    obtain ⟨count, length⟩ := some floor.current left
    rw [more _ _ allowed, length, tally, answered]
    rfl
  · rintro remaining floor issue record position result allowed member standing answered -
      next
    obtain ⟨count, length⟩ := some floor.current (List.ne_nil_of_mem member)
    have rest : (floor.pass position (floor.setup.challenge issue) record).current.length =
        count := by
      rw [Floor.pass, standing.erase, List.length_erase_of_mem member, length,
        Nat.add_sub_cancel]
    have survives : Challenger.passed ≠ Challenger.failed := by decide
    rw [more _ _ allowed, length, tally, answered]
    dsimp only
    rw [if_neg survives, if_pos rfl]
    rcases next with ⟨empty, last⟩ | ⟨left, onwards⟩
    · rw [empty, List.length_nil] at rest
      rw [last, if_pos rest.symm]
      rfl
    · have positive : count ≠ 0 := fun zero =>
        left (List.length_eq_zero_iff.mp (rest.trans zero))
      rw [if_neg positive, onwards, rest]
      simp only [Floor.pass, List.length_append, List.length_singleton]
      rfl
  · rintro remaining floor issue record position outcome result allowed left answered failed
      passed onwards
    obtain ⟨count, length⟩ := some floor.current left
    rw [more _ _ allowed, length, tally, answered]
    dsimp only
    rw [if_neg failed, if_neg passed, onwards]
    simp only [Floor.leave, List.length_append, List.length_singleton, length]
    rfl

/-! ## Debates -/

/-- The outcome of a debate, by the number of open conflicts of each kind. -/
def verdict (setup : SetupCandidate) (counts : Kind → Nat) : Except String DebateResult :=
  if counts .severe = 0 ∧ counts .medium = 0 ∧ counts .low = 0 then .ok .resolved
  else
    (tally (engine.answers hypothesisDirection roleOutputs context setup) engine.limit
        (counts (wanted counts)) 0).map
      fun result => if result = .resolved ∧ Leftover counts then .wait else result

/-- A debate begins with every conflict of the wanted kind left. -/
theorem standing_start (setup : SetupCandidate) (conflicts : List Conflict) :
    Standing conflicts (positions conflicts (isOpenOf (wanted (openCount conflicts))))
      ⟨setup, conflicts, positions conflicts (isOpenOf (wanted (openCount conflicts))), []⟩ := by
  constructor
  · exact List.nodup_range.filter _
  · exact fun _ => id
  · intro position member
    obtain ⟨conflict, held, -⟩ := mem_positions_iff.mp member
    exact (List.getElem?_eq_some_iff.mp held).1
  · rfl
  · exact fun _ _ => rfl
  · exact fun _ inside outside => absurd inside outside
  · exact List.Perm.refl _

/-- A debate with open conflicts goes through its rounds. -/
theorem run_of_open {setup : SetupCandidate} {conflicts : List Conflict}
    (some : conflicts.countP isOpen ≠ 0) :
    engine.run ids hypothesisDirection roleOutputs context setup conflicts =
      (do
        let (ending, floor) ← engine.rounds ids hypothesisDirection roleOutputs context
          (max 1 engine.config.maxRounds).toNat
          ⟨setup, conflicts, positions conflicts (isOpenOf (wanted (openCount conflicts))), []⟩
        return (conclude (max 1 engine.config.maxRounds) ending floor, floor.setup,
          floor.conflicts)) := by
  have severe : (positions conflicts fun conflict => conflict.resolutionStatus ≠ .resolved ∧
      (conflict.severity = .high ∨ conflict.severity = .critical)) =
        positions conflicts (isOpenOf .severe) := by
    congr 1
    funext conflict
    apply decide_eq_decide.mpr
    cases conflict.severity <;> simp [Kind.of]
  have medium : (positions conflicts fun conflict => conflict.resolutionStatus ≠ .resolved ∧
      conflict.severity = .medium) = positions conflicts (isOpenOf .medium) := by
    congr 1
    funext conflict
    apply decide_eq_decide.mpr
    cases conflict.severity <;> simp [Kind.of]
  have left : (positions conflicts fun conflict => conflict.resolutionStatus ≠ .resolved) ≠ [] :=
    fun none => some ((positions_eq_nil_iff conflicts isOpen).mp none)
  have current : (if positions conflicts (isOpenOf .severe) ≠ [] then
      positions conflicts (isOpenOf .severe) else positions conflicts (isOpenOf .medium)) =
        positions conflicts (isOpenOf (wanted (openCount conflicts))) := by
    have same : positions conflicts (isOpenOf .severe) ≠ [] ↔ openCount conflicts .severe ≠ 0 :=
      (positions_eq_nil_iff conflicts _).not
    by_cases severe : openCount conflicts .severe ≠ 0
    · rw [if_pos (same.mpr severe), wanted, if_pos severe]
    · rw [if_neg fun some => severe (same.mp some), wanted, if_neg severe]
  unfold run
  dsimp only
  rw [if_neg left, severe, medium, current]

/-- A debate without open conflicts is resolved at once. -/
theorem run_of_none {setup : SetupCandidate} {conflicts : List Conflict}
    (none : conflicts.countP isOpen = 0) :
    engine.run ids hypothesisDirection roleOutputs context setup conflicts =
      .ok (⟨.resolved, 0, [], [], "No unresolved conflicts."⟩, setup, conflicts) := by
  have settled : (positions conflicts fun conflict => conflict.resolutionStatus ≠ .resolved) = [] :=
    (positions_eq_nil_iff conflicts isOpen).mpr none
  unfold run
  dsimp only
  rw [if_pos settled]

/-- Rounds that are resolved leave nothing open but what nobody challenges. -/
theorem closed_iff {conflicts : List Conflict} {floor : Floor}
    (standing : Standing conflicts
      (positions conflicts (isOpenOf (wanted (openCount conflicts)))) floor)
    (empty : floor.current = []) :
    (∀ conflict ∈ floor.conflicts, isOpen conflict = false) ↔ ¬Leftover (openCount conflicts) := by
  rw [← open_wanted_iff]
  constructor
  · intro closed conflict member isOpen
    obtain ⟨position, held⟩ := List.mem_iff_getElem?.mp member
    by_contra other
    have outside : position ∉ positions conflicts (isOpenOf (wanted (openCount conflicts))) := by
      intro inside
      obtain ⟨conflict', held', asked⟩ := mem_positions_iff.mp inside
      cases held.symm.trans held'
      exact other asked
    have kept := (standing.others position outside).trans held
    rw [closed conflict (List.mem_of_getElem? kept)] at isOpen
    cases isOpen
  · intro every conflict member
    obtain ⟨position, held⟩ := List.mem_iff_getElem?.mp member
    by_cases inside : position ∈ positions conflicts (isOpenOf (wanted (openCount conflicts)))
    · have gone : position ∉ floor.current := by
        rw [empty]
        exact List.not_mem_nil
      have resolved := standing.closed position inside gone conflict held
      simp [isOpen, resolved]
    · have kept := (standing.others position inside).symm.trans held
      by_contra isOpen
      rw [Bool.not_eq_false] at isOpen
      exact inside (mem_positions_iff.mpr
        ⟨conflict, kept, every conflict (List.mem_of_getElem? kept) isOpen⟩)

theorem conclude_resolved {conflicts : List Conflict} {floor : Floor} (maxRounds : Int)
    (standing : Standing conflicts
      (positions conflicts (isOpenOf (wanted (openCount conflicts)))) floor)
    (empty : floor.current = []) :
    (conclude maxRounds .resolved floor).outcome =
      if Leftover (openCount conflicts) then .wait else .resolved := by
  have same : conflictingList floor.conflicts = [] ↔ ¬Leftover (openCount conflicts) :=
    (conflictingList_eq_nil_iff _).trans (closed_iff standing empty)
  unfold conclude
  dsimp only
  by_cases leftover : Leftover (openCount conflicts)
  · have some : conflictingList floor.conflicts ≠ [] := fun none => same.mp none leftover
    rw [if_neg fun both => some both.2, if_pos leftover]
  · rw [if_pos ⟨rfl, same.mpr leftover⟩, if_neg leftover]

theorem run_eq_verdict (setup : SetupCandidate) (conflicts : List Conflict) :
    (engine.run ids hypothesisDirection roleOutputs context setup conflicts).map
        (fun debated => debated.1.outcome) =
      engine.verdict hypothesisDirection roleOutputs context setup (openCount conflicts) := by
  have empty := countP_isOpen_eq_zero_iff conflicts
  unfold verdict
  by_cases none : conflicts.countP isOpen = 0
  · rw [run_of_none _ _ _ _ _ none, if_pos (empty.mp none)]
    rfl
  · have start := standing_start setup conflicts
    have counted := engine.rounds_tally ids hypothesisDirection roleOutputs context
      (max 1 engine.config.maxRounds).toNat start
    have limit : min (max 1 engine.config.maxRounds).toNat (engine.maxChallenges - 0) =
        engine.limit := rfl
    rw [if_neg fun zero => none (empty.mpr zero), run_of_open _ _ _ _ _ none]
    dsimp only [List.length_nil] at counted
    rw [limit, length_positions] at counted
    rw [show openCount conflicts (wanted (openCount conflicts)) =
      conflicts.countP (isOpenOf (wanted (openCount conflicts))) from rfl, ← counted]
    cases ran : engine.rounds ids hypothesisDirection roleOutputs context
        (max 1 engine.config.maxRounds).toNat
        ⟨setup, conflicts, positions conflicts (isOpenOf (wanted (openCount conflicts))), []⟩ with
    | error raised => rfl
    | ok ended =>
        obtain ⟨ending, floor⟩ := ended
        change Except.ok (conclude _ ending floor).outcome = Except.ok _
        congr 1
        cases ending with
        | wait => simp [conclude, Ending.result]
        | invalid position challenge => simp [conclude, Ending.result]
        | resolved =>
            obtain ⟨stands, empty⟩ := engine.standing_of_resolved ids hypothesisDirection
              roleOutputs context _ start floor ran
            rw [conclude_resolved _ stands empty]
            simp [Ending.result]

/-- The engine with other answers of the challenger. -/
def answering (analyze : Nat → Context μ → Except String RoleOutput) : DebateEngine μ :=
  { engine with challenger := { engine.challenger with analyze := analyze } }

/-- The answers agree in the rounds that the configuration allows. -/
def AgreesInTime (analyze : Nat → Context μ → Except String RoleOutput) : Prop :=
  ∀ roundNo : Nat, (roundNo : Int) ≤ max 1 engine.config.maxRounds →
    (roundNo : Int) ≤ max 1 engine.config.maxChallengesPerCycle →
      ∀ context, analyze roundNo context = engine.challenger.analyze roundNo context

theorem rounds_answering {analyze : Nat → Context μ → Except String RoleOutput}
    (agrees : engine.AgreesInTime analyze) (remaining : Nat) {floor : Floor}
    (bound : ((floor.records.length + remaining : Nat) : Int) ≤ max 1 engine.config.maxRounds) :
    (engine.answering analyze).rounds ids hypothesisDirection roleOutputs context remaining
        floor =
      engine.rounds ids hypothesisDirection roleOutputs context remaining floor := by
  induction remaining generalizing floor with
  | zero => rfl
  | succ remaining ih =>
      rw [rounds, rounds]
      have config : (engine.answering analyze).config = engine.config := rfl
      rw [config]
      by_cases full : max 1 engine.config.maxChallengesPerCycle ≤ (floor.records.length : Int)
      · rw [if_pos full, if_pos full]
      · rw [if_neg full, if_neg full]
        cases target floor.conflicts floor.current with
        | none => rfl
        | some position =>
            dsimp only
            cases floor.conflicts[position]? with
            | none => rfl
            | some conflict =>
                have next : (engine.answering analyze).runOne ids hypothesisDirection roleOutputs
                    context floor.setup conflict (floor.records.length + 1) =
                  engine.runOne ids hypothesisDirection roleOutputs context floor.setup conflict
                    (floor.records.length + 1) := by
                  unfold runOne answering
                  dsimp only
                  rw [agrees (floor.records.length + 1) (by omega) (by omega)]
                dsimp only
                rw [next]
                cases engine.runOne ids hypothesisDirection roleOutputs context floor.setup
                    conflict (floor.records.length + 1) with
                | error raised => rfl
                | ok challenged =>
                    obtain ⟨setup, record⟩ := challenged
                    have onwards : ∀ setup conflicts current,
                        (engine.answering analyze).rounds ids hypothesisDirection roleOutputs
                            context remaining
                            ⟨setup, conflicts, current, floor.records ++ [record]⟩ =
                          engine.rounds ids hypothesisDirection roleOutputs context remaining
                            ⟨setup, conflicts, current, floor.records ++ [record]⟩ := by
                      intro setup conflicts current
                      apply ih
                      rw [List.length_append, List.length_singleton]
                      omega
                    rw [ok_bind, ok_bind]
                    dsimp only
                    rw [onwards, onwards]

/-- The challenger is not asked beyond the rounds that are allowed. -/
theorem run_answering {analyze : Nat → Context μ → Except String RoleOutput}
    (agrees : engine.AgreesInTime analyze) (setup : SetupCandidate)
    (conflicts : List Conflict) :
    (engine.answering analyze).run ids hypothesisDirection roleOutputs context setup conflicts =
      engine.run ids hypothesisDirection roleOutputs context setup conflicts := by
  by_cases none : conflicts.countP isOpen = 0
  · rw [run_of_none _ _ _ _ _ none, run_of_none _ _ _ _ _ none]
  · rw [run_of_open _ _ _ _ _ none, run_of_open _ _ _ _ _ none]
    have config : (engine.answering analyze).config = engine.config := rfl
    rw [config, engine.rounds_answering ids hypothesisDirection roleOutputs context agrees]
    rw [List.length_nil, Nat.zero_add, Int.toNat_of_nonneg (by omega)]

/-- What a debate makes of its rounds. -/
theorem of_run {setup setup' : SetupCandidate} {conflicts conflicts' : List Conflict}
    {debate : DebateOutcome} (some : conflicts.countP isOpen ≠ 0)
    (ran : engine.run ids hypothesisDirection roleOutputs context setup conflicts =
      .ok (debate, setup', conflicts')) :
    ∃ ending floor, engine.rounds ids hypothesisDirection roleOutputs context
        (max 1 engine.config.maxRounds).toNat
        ⟨setup, conflicts, positions conflicts (isOpenOf (wanted (openCount conflicts))), []⟩ =
          .ok (ending, floor) ∧
      debate = conclude (max 1 engine.config.maxRounds) ending floor ∧
      conflicts' = floor.conflicts := by
  rw [run_of_open _ _ _ _ _ some] at ran
  obtain ⟨⟨ending, floor⟩, rounds, after⟩ := of_bind_eq_ok ran
  cases after
  exact ⟨ending, floor, rounds, rfl, rfl⟩

theorem conclude_records (maxRounds : Int) (ending : Ending) (floor : Floor) :
    (conclude maxRounds ending floor).records = floor.records := by
  unfold conclude
  cases ending with
  | invalid position challenge => rfl
  | wait => simp
  | resolved => dsimp only; split <;> rfl

theorem length_records_run {setup setup' : SetupCandidate} {conflicts conflicts' : List Conflict}
    {debate : DebateOutcome}
    (ran : engine.run ids hypothesisDirection roleOutputs context setup conflicts =
      .ok (debate, setup', conflicts')) :
    debate.records.length ≤ engine.limit := by
  by_cases none : conflicts.countP isOpen = 0
  · cases (engine.run_of_none ids hypothesisDirection roleOutputs context none).symm.trans ran
    exact Nat.zero_le _
  · obtain ⟨ending, floor, rounds, rfl, -⟩ :=
      engine.of_run ids hypothesisDirection roleOutputs context none ran
    rw [conclude_records]
    have bound := engine.length_records_rounds ids hypothesisDirection roleOutputs context _
      (standing_start setup conflicts) ending floor rounds
    simpa [limit] using bound

/-- A debate that is resolved has passed a challenge for each conflict that was open. -/
theorem passed_of_run_resolved {setup setup' : SetupCandidate}
    {conflicts conflicts' : List Conflict} {debate : DebateOutcome}
    (ran : engine.run ids hypothesisDirection roleOutputs context setup conflicts =
      .ok (debate, setup', conflicts'))
    (resolved : debate.outcome = .resolved) :
    (passedRefs debate.records).Perm
        ((conflicts.filter isOpen).map fun conflict => [conflict.id]) ∧
      ∀ conflict ∈ conflicts', isOpen conflict = false := by
  by_cases none : conflicts.countP isOpen = 0
  · cases (engine.run_of_none ids hypothesisDirection roleOutputs context none).symm.trans ran
    have closed := List.countP_eq_zero.mp none
    have nothing : conflicts.filter isOpen = [] := List.filter_eq_nil_iff.mpr closed
    rw [nothing]
    exact ⟨List.Perm.refl _, fun conflict member => Bool.not_eq_true _ ▸ closed conflict member⟩
  · obtain ⟨ending, floor, rounds, rfl, rfl⟩ :=
      engine.of_run ids hypothesisDirection roleOutputs context none ran
    have start := standing_start setup conflicts
    rw [conclude_records]
    cases ending with
    | wait => simp [conclude] at resolved
    | invalid position challenge => cases resolved
    | resolved =>
        obtain ⟨stands, empty⟩ := engine.standing_of_resolved ids hypothesisDirection roleOutputs
          context _ start floor rounds
        have settled : ¬Leftover (openCount conflicts) := by
          intro leftover
          rw [conclude_resolved _ stands empty, if_pos leftover] at resolved
          cases resolved
        have accounted := stands.accounted
        rw [empty, List.map_nil, List.append_nil, map_refsAt_positions,
          filter_wanted_eq settled] at accounted
        exact ⟨accounted, (closed_iff stands empty).mpr settled⟩

/-- A debate keeps its limits, is resolved only by challenges that passed, and takes no notice of
conflicts of low severity. -/
structure Disciplined (setup : SetupCandidate) (conflicts : List Conflict) : Prop where
  bounded : ∀ debate setup' conflicts',
    engine.run ids hypothesisDirection roleOutputs context setup conflicts =
      .ok (debate, setup', conflicts') →
    (debate.records.length : Int) ≤ max 1 engine.config.maxRounds ∧
      (debate.records.length : Int) ≤ max 1 engine.config.maxChallengesPerCycle
  unasked : ∀ analyze, engine.AgreesInTime analyze →
    (engine.answering analyze).run ids hypothesisDirection roleOutputs context setup conflicts =
      engine.run ids hypothesisDirection roleOutputs context setup conflicts
  passed : ∀ debate setup' conflicts',
    engine.run ids hypothesisDirection roleOutputs context setup conflicts =
      .ok (debate, setup', conflicts') → debate.outcome = .resolved →
    (passedRefs debate.records).Perm
        ((conflicts.filter isOpen).map fun conflict => [conflict.id]) ∧
      ∀ conflict ∈ conflicts', isOpen conflict = false
  unaffected :
    (engine.run ids hypothesisDirection roleOutputs context setup conflicts).map
        (fun debated => debated.1.outcome) =
      (engine.run ids hypothesisDirection roleOutputs context setup
          (conflicts.filter (·.severity ≠ .low))).map
        fun debated => debated.1.outcome

theorem openCount_filter (conflicts : List Conflict) (kind : Kind) :
    openCount (conflicts.filter (·.severity ≠ .low)) kind =
      if kind = .low then 0 else openCount conflicts kind := by
  unfold openCount
  rw [List.countP_filter]
  by_cases low : kind = .low
  · rw [if_pos low, List.countP_eq_zero]
    intro conflict _
    rw [low, isOpenOf]
    cases conflict.severity <;> simp [Kind.of]
  · rw [if_neg low]
    apply List.countP_congr
    intro conflict _
    rw [isOpenOf]
    cases conflict.severity <;> cases kind <;> simp_all [Kind.of]

/-- The outcome without the open conflicts of low severity is the same unless there are some, all
other open ones are challenged, and the challenger settles those. -/
theorem verdict_without_low_iff (setup : SetupCandidate) {counts others : Kind → Nat}
    (without : ∀ kind, others kind = if kind = .low then 0 else counts kind) :
    engine.verdict hypothesisDirection roleOutputs context setup counts =
        engine.verdict hypothesisDirection roleOutputs context setup others ↔
      counts .low = 0 ∨ (counts .severe ≠ 0 ∧ counts .medium ≠ 0) ∨
        ¬Settles (engine.answers hypothesisDirection roleOutputs context setup) engine.limit
          (counts (wanted counts)) 0 := by
  by_cases low : counts .low = 0
  · have same : others = counts := by
      funext kind
      rw [without]
      split <;> simp_all
    rw [same]
    exact iff_of_true rfl (Or.inl low)
  · have severe : others .severe = counts .severe := without .severe
    have medium : others .medium = counts .medium := without .medium
    have noLow : others .low = 0 := without .low
    have asked : others (wanted others) = counts (wanted counts) := by
      unfold wanted
      rw [severe]
      split
      · exact severe
      · exact medium
    have leftover : Leftover others ↔ counts .severe ≠ 0 ∧ counts .medium ≠ 0 := by
      rw [Leftover, severe, medium, noLow, or_iff_right (not_not.mpr rfl)]
    have waits : Leftover counts := Or.inl low
    unfold verdict
    rw [if_neg fun none => low none.2.2, severe, medium, noLow, asked, or_iff_right low]
    simp only [leftover, waits, and_true]
    by_cases none : counts .severe = 0 ∧ counts .medium = 0
    · have nothing : counts (wanted counts) = 0 := by
        rw [wanted, if_neg (not_not.mpr none.1)]
        exact none.2
      have settles : Settles (engine.answers hypothesisDirection roleOutputs context setup)
          engine.limit 0 0 := settles_zero _ _
      rw [nothing, tally_zero, if_pos none]
      refine iff_of_false (by simp [Except.map]) ?_
      rintro (both | unsettled)
      · exact both.1 none.1
      · exact unsettled settles
    · obtain ⟨count, challenged⟩ : ∃ count, counts (wanted counts) = count + 1 := by
        apply Nat.exists_eq_add_one.mpr
        unfold wanted
        split <;> omega
      rw [challenged, if_neg none, ← tally_resolved_iff]
      generalize tally (engine.answers hypothesisDirection roleOutputs context setup) engine.limit
        (count + 1) 0 = outcome
      by_cases both : counts .severe ≠ 0 ∧ counts .medium ≠ 0
      · refine iff_of_true ?_ (Or.inl both)
        cases outcome with
        | error raised => rfl
        | ok result => simp [Except.map, both]
      · rw [or_iff_right both]
        cases outcome with
        | error raised => simp [Except.map]
        | ok result => cases result <;> simp [Except.map, both]

/-- A debate is disciplined unless a conflict of low severity is open, all the other open ones
are challenged, and the challenger settles those. -/
theorem disciplined_iff (setup : SetupCandidate) (conflicts : List Conflict) :
    engine.Disciplined ids hypothesisDirection roleOutputs context setup conflicts ↔
      openCount conflicts .low = 0 ∨
        (openCount conflicts .severe ≠ 0 ∧ openCount conflicts .medium ≠ 0) ∨
        ¬Settles (engine.answers hypothesisDirection roleOutputs context setup) engine.limit
          (openCount conflicts (wanted (openCount conflicts))) 0 := by
  have outcomes := engine.verdict_without_low_iff hypothesisDirection roleOutputs context setup
    (openCount_filter conflicts)
  rw [← engine.run_eq_verdict ids, ← engine.run_eq_verdict ids] at outcomes
  rw [← outcomes]
  constructor
  · exact Disciplined.unaffected
  · intro unaffected
    refine ⟨?_, ?_, ?_, unaffected⟩
    · intro debate setup' conflicts' ran
      have bound := engine.length_records_run ids hypothesisDirection roleOutputs context ran
      unfold limit maxChallenges at bound
      omega
    · intro analyze agrees
      exact engine.run_answering ids hypothesisDirection roleOutputs context agrees setup conflicts
    · intro debate setup' conflicts' ran resolved
      exact engine.passed_of_run_resolved ids hypothesisDirection roleOutputs context ran resolved

end Debating

/-- A setup to buy, with everything that a challenger looks for. -/
def wobblySetup : SetupCandidate :=
  ⟨"s1", "a1", "XAUUSD", "BUY", "CONTINUATION", "M15", "", "2300", [], [], ["structure:BULLISH"],
    [], 0, "CANDIDATE", []⟩

/-- A remark about the volatility. -/
def wobble : Conflict :=
  ⟨"c1", .low, "minor wobble", ["volatility"], [], .unresolved⟩

def wobblyContext : Context Unit :=
  ⟨"XAUUSD", "t1", "e1", "", none, "", "", [], Dict.empty, "", none, [], false, false, ()⟩

/-- The default debate about a single remark waits, and without the remark it is resolved. -/
theorem wobble_undisciplined :
    ¬DebateEngine.Disciplined ⟨DebateConfig.default, Challenger.challengerRole, none⟩
      ⟨"a", "b", "c", "n", "d", fun _ => "dbt"⟩ "BUY" Dict.empty wobblyContext wobblySetup
      [wobble] := by
  intro disciplined
  cases disciplined.unaffected

end DebateEngine

end EaBot.Agents
