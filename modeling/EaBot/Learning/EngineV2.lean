import EaBot.Foundation.Run
import EaBot.Foundation.Value
import Mathlib.Data.List.Dedup
import Mathlib.Data.List.Sort

/-!
# Lessons and patterns

The engine records lessons and sums them up by their category and symbol.  The more lessons a
pattern has, the higher its evidence level.

The thresholds of the levels are meant as numbers of trades, and what is counted are lessons: a
trade that is reviewed again is counted again.
-/

namespace EaBot.Learning

open EaBot.Foundation

/-! ## Lessons -/

inductive EvidenceLevel
  | observation
  | hypothesis
  | evidence
  | validatedFinding
deriving DecidableEq

namespace EvidenceLevel

def value : EvidenceLevel → String
  | observation => "OBSERVATION"
  | hypothesis => "HYPOTHESIS"
  | evidence => "EVIDENCE"
  | validatedFinding => "VALIDATED_FINDING"

/-- The levels in order. -/
def rank : EvidenceLevel → Nat
  | observation => 0
  | hypothesis => 1
  | evidence => 2
  | validatedFinding => 3

theorem rank_injective {first second : EvidenceLevel} (same : first.rank = second.rank) :
    first = second := by
  cases first <;> cases second <;> first | rfl | cases same

end EvidenceLevel

/-- A lesson of a trade. -/
structure Lesson where
  lessonId : String
  tradeId : String
  symbol : String
  strategyVersion : String
  category : String
  outcome : String
  context : Record
  lesson : String
  confidence : String
  sampleSize : Int
  createdAt : String
  evidenceLevel : EvidenceLevel

/-- The category and the symbol that a lesson is summed up under. -/
def Lesson.pattern (lesson : Lesson) : String × String :=
  (lesson.category, lesson.symbol)

/-- Lessons of one category and symbol. -/
structure PatternAggregate where
  key : String
  category : String
  sampleSize : Nat
  wins : Nat
  losses : Nat
  evidenceLevel : EvidenceLevel
deriving DecidableEq

/-- The engine with its thresholds. -/
structure LearningEngineV2 where
  minPatternSample : Int
  minEvidenceSample : Int
  minValidatedSample : Int
  lessons : List Lesson

namespace LearningEngineV2

/-- An engine without lessons. -/
def init (minPatternSample minEvidenceSample minValidatedSample : Int) : LearningEngineV2 :=
  ⟨minPatternSample, minEvidenceSample, minValidatedSample, []⟩

/-- A lesson as it is stored. -/
def stored (lesson : Lesson) : Lesson :=
  { lesson with sampleSize := max 1 lesson.sampleSize, evidenceLevel := .observation }

/-- Record a lesson. -/
def recordLesson (engine : LearningEngineV2) (lesson : Lesson) : LearningEngineV2 :=
  { engine with lessons := engine.lessons ++ [stored lesson] }

/-! ## Patterns -/

/-- The name of a pattern. -/
def keyOf (pattern : String × String) : String :=
  pattern.1 ++ ":" ++ pattern.2

/-- A pattern without lessons. -/
def emptyPattern (pattern : String × String) : PatternAggregate :=
  ⟨keyOf pattern, pattern.1, 0, 0, 0, .hypothesis⟩

/-- Count a lesson. -/
def counted (aggregate : PatternAggregate) (lesson : Lesson) : PatternAggregate :=
  let aggregate := { aggregate with sampleSize := aggregate.sampleSize + 1 }
  if Text.upperWord lesson.outcome = "WIN" then { aggregate with wins := aggregate.wins + 1 }
  else { aggregate with losses := aggregate.losses + 1 }

/-- Count a lesson in the pattern that it belongs to. -/
def addLesson (groups : Dict (String × String) PatternAggregate) (lesson : Lesson) :
    Dict (String × String) PatternAggregate :=
  groups.set lesson.pattern
    (counted ((groups.get lesson.pattern).getD (emptyPattern lesson.pattern)) lesson)

def groups (lessons : List Lesson) : Dict (String × String) PatternAggregate :=
  lessons.foldl addLesson Dict.empty

/-- The level of a number of lessons. -/
def classifyEvidence (engine : LearningEngineV2) (sampleSize : Nat) : EvidenceLevel :=
  if engine.minValidatedSample ≤ sampleSize then .validatedFinding
  else if engine.minEvidenceSample ≤ sampleSize then .evidence
  else if engine.minPatternSample ≤ sampleSize then .hypothesis
  else .observation

/-- The larger patterns first, and patterns of one size by their names. -/
def before (first second : PatternAggregate) : Prop :=
  second.sampleSize < first.sampleSize ∨
    first.sampleSize = second.sampleSize ∧ first.key ≤ second.key

instance (first second : PatternAggregate) : Decidable (before first second) :=
  inferInstanceAs (Decidable (_ ∨ _))

/-- The patterns of the lessons. -/
def aggregatePatterns (engine : LearningEngineV2) : List PatternAggregate :=
  ((groups engine.lessons).values.map fun aggregate =>
    { aggregate with
      evidenceLevel := engine.classifyEvidence aggregate.sampleSize }).insertionSort before

/-- Whether a pattern may become a candidate, and why. -/
def canPromoteToCandidate (aggregate : PatternAggregate) : Bool × String :=
  if aggregate.evidenceLevel = .validatedFinding then
    (true, "validated finding meets candidate threshold")
  else
    (false, s!"evidence level {aggregate.evidenceLevel.value} is below " ++
      EvidenceLevel.validatedFinding.value)

/-! ## What the lessons count for -/

/-- The lessons of a pattern. -/
def lessonsOf (lessons : List Lesson) (pattern : String × String) : List Lesson :=
  lessons.filter fun lesson => lesson.pattern = pattern

/-- The trades that a pattern has lessons of, each one once. -/
def trades (engine : LearningEngineV2) (pattern : String × String) : List String :=
  ((lessonsOf engine.lessons pattern).map Lesson.tradeId).dedup

/-- The aggregate is the one of a pattern. -/
def IsOf (aggregate : PatternAggregate) (pattern : String × String) : Prop :=
  aggregate.category = pattern.1 ∧ aggregate.key = keyOf pattern

/-- After a lesson, only patterns with enough trades are validated findings, and a lesson of a
trade that was counted before has not raised the level of its pattern. -/
structure RightAfter (engine : LearningEngineV2) (lesson : Lesson) : Prop where
  validated : ∀ aggregate ∈ (engine.recordLesson lesson).aggregatePatterns, ∀ pattern,
    IsOf aggregate pattern → (canPromoteToCandidate aggregate).1 = true →
      engine.minValidatedSample ≤ ((engine.recordLesson lesson).trades pattern).length
  unraised : lesson.tradeId ∈ engine.trades lesson.pattern →
    ∀ earlier ∈ engine.aggregatePatterns, IsOf earlier lesson.pattern →
      ∀ later ∈ (engine.recordLesson lesson).aggregatePatterns, IsOf later lesson.pattern →
        later.evidenceLevel.rank ≤ earlier.evidenceLevel.rank

/-- A lesson of a trade that was counted before reaches no threshold, and one of a new trade does
not make a validated finding of a pattern in which a trade was counted twice. -/
def Sober (engine : LearningEngineV2) (lesson : Lesson) : Prop :=
  (lesson.tradeId ∈ engine.trades lesson.pattern →
      engine.classifyEvidence ((lessonsOf engine.lessons lesson.pattern).length + 1) =
        engine.classifyEvidence (lessonsOf engine.lessons lesson.pattern).length) ∧
    (lesson.tradeId ∉ engine.trades lesson.pattern →
      ((lessonsOf engine.lessons lesson.pattern).length + 1 : Int) = engine.minValidatedSample →
        (engine.trades lesson.pattern).length =
          (lessonsOf engine.lessons lesson.pattern).length)

instance (engine : LearningEngineV2) (lesson : Lesson) : Decidable (Sober engine lesson) :=
  inferInstanceAs (Decidable (_ ∧ _))

/-! ## Levels -/

/-- More lessons never have a lower level, whatever the thresholds are. -/
theorem rank_classifyEvidence_mono (engine : LearningEngineV2) {size larger : Nat}
    (grown : size ≤ larger) :
    (engine.classifyEvidence size).rank ≤ (engine.classifyEvidence larger).rank := by
  unfold classifyEvidence
  have cast : (size : Int) ≤ larger := by exact_mod_cast grown
  split
  · rw [if_pos (by omega)]
  · split
    · split
      · exact Nat.le_succ 2
      · rw [if_pos (by omega)]
    · split
      · split
        · decide
        · split
          · decide
          · rw [if_pos (by omega)]
      · exact Nat.zero_le _

theorem classifyEvidence_eq_validated_iff (engine : LearningEngineV2) (size : Nat) :
    engine.classifyEvidence size = .validatedFinding ↔ engine.minValidatedSample ≤ size := by
  unfold classifyEvidence
  split
  case isTrue reached => exact iff_of_true rfl reached
  case isFalse below =>
    refine iff_of_false ?_ below
    split
    · exact EvidenceLevel.noConfusion
    · split <;> exact EvidenceLevel.noConfusion

/-! ## What the patterns hold -/

/-- The aggregate of some lessons of a pattern. -/
def summary (pattern : String × String) (lessons : List Lesson) : PatternAggregate :=
  lessons.foldl counted (emptyPattern pattern)

theorem lessonsOf_append (first second : List Lesson) (pattern : String × String) :
    lessonsOf (first ++ second) pattern = lessonsOf first pattern ++ lessonsOf second pattern :=
  List.filter_append ..

theorem lessonsOf_singleton (lesson : Lesson) (pattern : String × String) :
    lessonsOf [lesson] pattern = if lesson.pattern = pattern then [lesson] else [] := by
  by_cases same : lesson.pattern = pattern <;> simp [lessonsOf, same]

/-- The lessons are grouped by their patterns. -/
theorem get_groups (lessons : List Lesson) (pattern : String × String) :
    (groups lessons).get pattern =
      if lessonsOf lessons pattern = [] then none
      else some (summary pattern (lessonsOf lessons pattern)) := by
  induction lessons using List.reverseRecOn with
  | nil => rfl
  | append_singleton lessons lesson ih =>
      rw [groups, List.foldl_concat, addLesson, Dict.get_set, lessonsOf_append,
        lessonsOf_singleton]
      by_cases here : pattern = lesson.pattern
      · subst here
        rw [if_pos rfl, if_pos rfl, if_neg (by simp)]
        have known : ((groups lessons).get lesson.pattern).getD (emptyPattern lesson.pattern) =
            summary lesson.pattern (lessonsOf lessons lesson.pattern) := by
          rw [ih]
          split
          case isTrue none => rw [none]; rfl
          case isFalse => rfl
        rw [summary, List.foldl_concat]
        exact congrArg (fun aggregate => some (counted aggregate lesson)) known
      · rw [if_neg here, if_neg (Ne.symm here), List.append_nil]
        exact ih

@[simp] theorem counted_key (aggregate : PatternAggregate) (lesson : Lesson) :
    (counted aggregate lesson).key = aggregate.key := by
  unfold counted
  dsimp only
  split <;> rfl

@[simp] theorem counted_category (aggregate : PatternAggregate) (lesson : Lesson) :
    (counted aggregate lesson).category = aggregate.category := by
  unfold counted
  dsimp only
  split <;> rfl

@[simp] theorem counted_sampleSize (aggregate : PatternAggregate) (lesson : Lesson) :
    (counted aggregate lesson).sampleSize = aggregate.sampleSize + 1 := by
  unfold counted
  dsimp only
  split <;> rfl

/-- An aggregate keeps its names and counts its lessons. -/
theorem of_summary (pattern : String × String) (lessons : List Lesson) :
    IsOf (summary pattern lessons) pattern ∧
      (summary pattern lessons).sampleSize = lessons.length := by
  induction lessons using List.reverseRecOn with
  | nil => exact ⟨⟨rfl, rfl⟩, rfl⟩
  | append_singleton lessons lesson ih =>
      rcases ih with ⟨⟨category, key⟩, size⟩
      rw [summary, List.foldl_concat, List.length_append]
      refine ⟨⟨(counted_category _ _).trans category, (counted_key _ _).trans key⟩, ?_⟩
      exact (counted_sampleSize _ _).trans (congrArg (· + 1) size)

/-- An aggregate is the one of a single pattern. -/
theorem IsOf.unique {aggregate : PatternAggregate} {pattern other : String × String}
    (here : IsOf aggregate pattern) (there : IsOf aggregate other) : pattern = other := by
  have category : pattern.1 = other.1 := here.1.symm.trans there.1
  have keys := here.2.symm.trans there.2
  rw [keyOf, keyOf, category, String.append_right_inj] at keys
  exact Prod.ext category keys

/-- The patterns of an engine are the ones that have lessons, each with the level of their
number. -/
theorem mem_aggregatePatterns (engine : LearningEngineV2) {aggregate : PatternAggregate}
    {pattern : String × String} (isOf : IsOf aggregate pattern)
    (listed : aggregate ∈ engine.aggregatePatterns) :
    lessonsOf engine.lessons pattern ≠ [] ∧
      aggregate.evidenceLevel =
        engine.classifyEvidence (lessonsOf engine.lessons pattern).length := by
  obtain ⟨grouped, member, rfl⟩ := List.mem_map.mp ((List.mem_insertionSort _).mp listed)
  obtain ⟨other, found⟩ := (Dict.mem_values_iff _ _).mp member
  rw [get_groups] at found
  split at found
  case isTrue => cases found
  case isFalse some =>
    cases found
    obtain ⟨named, size⟩ := of_summary other (lessonsOf engine.lessons other)
    have same : other = pattern := IsOf.unique named isOf
    subst same
    dsimp only
    exact ⟨some, congrArg engine.classifyEvidence size⟩

/-- Every pattern that has lessons is listed. -/
theorem exists_aggregate (engine : LearningEngineV2) {pattern : String × String}
    (some : lessonsOf engine.lessons pattern ≠ []) :
    ∃ aggregate ∈ engine.aggregatePatterns, IsOf aggregate pattern := by
  have found := get_groups engine.lessons pattern
  rw [if_neg some] at found
  obtain ⟨named, -⟩ := of_summary pattern (lessonsOf engine.lessons pattern)
  refine ⟨_, (List.mem_insertionSort _).mpr (List.mem_map_of_mem
    ((Dict.mem_values_iff _ _).mpr ⟨pattern, found⟩)), ?_⟩
  exact named

/-! ## Recording a lesson -/

theorem lessonsOf_recordLesson_self (engine : LearningEngineV2) (lesson : Lesson) :
    lessonsOf (engine.recordLesson lesson).lessons lesson.pattern =
      lessonsOf engine.lessons lesson.pattern ++ [stored lesson] := by
  rw [recordLesson, lessonsOf_append, lessonsOf_singleton]
  exact congrArg _ (if_pos rfl)

theorem lessonsOf_recordLesson_of_ne (engine : LearningEngineV2) {lesson : Lesson}
    {pattern : String × String} (other : pattern ≠ lesson.pattern) :
    lessonsOf (engine.recordLesson lesson).lessons pattern =
      lessonsOf engine.lessons pattern := by
  have elsewhere : (stored lesson).pattern ≠ pattern := Ne.symm other
  rw [recordLesson, lessonsOf_append, lessonsOf_singleton, if_neg elsewhere, List.append_nil]

theorem trades_recordLesson_of_ne (engine : LearningEngineV2) {lesson : Lesson}
    {pattern : String × String} (other : pattern ≠ lesson.pattern) :
    (engine.recordLesson lesson).trades pattern = engine.trades pattern := by
  rw [trades, trades, lessonsOf_recordLesson_of_ne engine other]

theorem length_trades_le (engine : LearningEngineV2) (pattern : String × String) :
    (engine.trades pattern).length ≤ (lessonsOf engine.lessons pattern).length := by
  have shorter := (List.dedup_sublist
    ((lessonsOf engine.lessons pattern).map Lesson.tradeId)).length_le
  rwa [List.length_map] at shorter

/-- A new trade is one more, and a trade that was counted before is none. -/
theorem length_trades_recordLesson (engine : LearningEngineV2) (lesson : Lesson) :
    ((engine.recordLesson lesson).trades lesson.pattern).length =
      if lesson.tradeId ∈ engine.trades lesson.pattern then
        (engine.trades lesson.pattern).length
      else (engine.trades lesson.pattern).length + 1 := by
  have order : ((engine.recordLesson lesson).trades lesson.pattern).Perm
      (lesson.tradeId ::
        (lessonsOf engine.lessons lesson.pattern).map Lesson.tradeId).dedup := by
    rw [trades, lessonsOf_recordLesson_self, List.map_append]
    exact List.perm_append_comm.dedup
  rw [order.length_eq]
  split
  case isTrue known => rw [List.dedup_cons_of_mem (List.mem_dedup.mp known)]; rfl
  case isFalse new => rw [List.dedup_cons_of_notMem (mt List.mem_dedup.mpr new)]; rfl

/-- Only patterns with enough trades have the lessons of a validated finding. -/
def Sound (engine : LearningEngineV2) : Prop :=
  ∀ pattern, lessonsOf engine.lessons pattern ≠ [] →
    engine.minValidatedSample ≤ (lessonsOf engine.lessons pattern).length →
      engine.minValidatedSample ≤ (engine.trades pattern).length

theorem canPromote_iff (aggregate : PatternAggregate) :
    (canPromoteToCandidate aggregate).1 = true ↔ aggregate.evidenceLevel = .validatedFinding := by
  unfold canPromoteToCandidate
  split
  case isTrue validated => exact iff_of_true rfl validated
  case isFalse weaker => exact iff_of_false Bool.false_ne_true weaker

/-- The patterns of an engine say that it is sound. -/
theorem sound_iff_patterns (engine : LearningEngineV2) :
    engine.Sound ↔
      ∀ aggregate ∈ engine.aggregatePatterns, ∀ pattern, IsOf aggregate pattern →
        (canPromoteToCandidate aggregate).1 = true →
          engine.minValidatedSample ≤ (engine.trades pattern).length := by
  constructor
  · intro sound aggregate listed pattern isOf promoted
    obtain ⟨some, level⟩ := engine.mem_aggregatePatterns isOf listed
    rw [canPromote_iff, level, classifyEvidence_eq_validated_iff] at promoted
    exact sound pattern some promoted
  · intro every pattern some reached
    obtain ⟨aggregate, listed, isOf⟩ := engine.exists_aggregate some
    refine every aggregate listed pattern isOf ?_
    rw [canPromote_iff, (engine.mem_aggregatePatterns isOf listed).2,
      classifyEvidence_eq_validated_iff]
    exact reached

/-- A lesson leaves a sound engine sound exactly when it does not make a validated finding of its
pattern too early. -/
theorem sound_recordLesson_iff {engine : LearningEngineV2} (sound : engine.Sound)
    (lesson : Lesson) :
    (engine.recordLesson lesson).Sound ↔
      (engine.minValidatedSample ≤ ((lessonsOf engine.lessons lesson.pattern).length + 1 : Int) →
        engine.minValidatedSample ≤
          ((engine.recordLesson lesson).trades lesson.pattern).length) := by
  constructor
  · intro after reached
    refine after lesson.pattern ?_ ?_
    · rw [lessonsOf_recordLesson_self]
      exact List.append_ne_nil_of_right_ne_nil _ (List.cons_ne_nil _ _)
    · rw [lessonsOf_recordLesson_self, List.length_append]
      exact reached
  · intro own pattern some reached
    by_cases here : pattern = lesson.pattern
    · subst here
      rw [lessonsOf_recordLesson_self, List.length_append] at reached
      exact own reached
    · rw [lessonsOf_recordLesson_of_ne engine here] at some reached
      rw [trades_recordLesson_of_ne engine here]
      exact sound pattern some reached

/-- The levels of a pattern before and after a lesson of a trade that was counted before are the
same exactly when its level is not raised. -/
theorem unraised_iff (engine : LearningEngineV2) {lesson : Lesson}
    (known : lesson.tradeId ∈ engine.trades lesson.pattern) :
    (∀ earlier ∈ engine.aggregatePatterns, IsOf earlier lesson.pattern →
        ∀ later ∈ (engine.recordLesson lesson).aggregatePatterns, IsOf later lesson.pattern →
          later.evidenceLevel.rank ≤ earlier.evidenceLevel.rank) ↔
      engine.classifyEvidence ((lessonsOf engine.lessons lesson.pattern).length + 1) =
        engine.classifyEvidence (lessonsOf engine.lessons lesson.pattern).length := by
  have size : (lessonsOf (engine.recordLesson lesson).lessons lesson.pattern).length =
      (lessonsOf engine.lessons lesson.pattern).length + 1 := by
    rw [lessonsOf_recordLesson_self, List.length_append, List.length_singleton]
  have level : ∀ later ∈ (engine.recordLesson lesson).aggregatePatterns,
      IsOf later lesson.pattern → later.evidenceLevel =
        engine.classifyEvidence ((lessonsOf engine.lessons lesson.pattern).length + 1) := by
    intro later listed isOf
    rw [← size]
    exact ((engine.recordLesson lesson).mem_aggregatePatterns isOf listed).2
  constructor
  · intro unraised
    have some : lessonsOf engine.lessons lesson.pattern ≠ [] := by
      intro none
      rw [trades, none] at known
      cases known
    obtain ⟨earlier, listed, isOf⟩ := engine.exists_aggregate some
    have more : lessonsOf (engine.recordLesson lesson).lessons lesson.pattern ≠ [] :=
      List.ne_nil_of_length_pos (by omega)
    obtain ⟨later, present, named⟩ := (engine.recordLesson lesson).exists_aggregate more
    have bounded := unraised earlier listed isOf later present named
    rw [level later present named, (engine.mem_aggregatePatterns isOf listed).2] at bounded
    exact EvidenceLevel.rank_injective
      (le_antisymm bounded (engine.rank_classifyEvidence_mono (Nat.le_succ _)))
  · intro same earlier listed isOf later present named
    rw [level later present named, same, (engine.mem_aggregatePatterns isOf listed).2]

/-- On a sound engine a lesson does what it should exactly when it is sober. -/
theorem rightAfter_iff {engine : LearningEngineV2} (sound : engine.Sound) (lesson : Lesson) :
    RightAfter engine lesson ↔ Sober engine lesson := by
  have right : RightAfter engine lesson ↔ (engine.recordLesson lesson).Sound ∧
      (lesson.tradeId ∈ engine.trades lesson.pattern →
        engine.classifyEvidence ((lessonsOf engine.lessons lesson.pattern).length + 1) =
          engine.classifyEvidence (lessonsOf engine.lessons lesson.pattern).length) := by
    rw [sound_iff_patterns]
    constructor
    · exact fun after =>
        ⟨after.validated, fun known => (engine.unraised_iff known).mp (after.unraised known)⟩
    · exact fun holds =>
        ⟨holds.1, fun known => (engine.unraised_iff known).mpr (holds.2 known)⟩
  rw [right, Sober, sound_recordLesson_iff sound, length_trades_recordLesson]
  have few := engine.length_trades_le lesson.pattern
  by_cases known : lesson.tradeId ∈ engine.trades lesson.pattern
  · have some : lessonsOf engine.lessons lesson.pattern ≠ [] := by
      intro none
      rw [trades, none] at known
      cases known
    simp only [known, if_true, forall_const, not_true_eq_false, false_implies, and_true]
    refine and_iff_right_of_imp fun same reached => ?_
    have validated := (engine.classifyEvidence_eq_validated_iff _).mpr
      (show engine.minValidatedSample ≤
        ((lessonsOf engine.lessons lesson.pattern).length + 1 : Nat) by exact_mod_cast reached)
    rw [same, classifyEvidence_eq_validated_iff] at validated
    exact sound lesson.pattern some validated
  · simp only [known, if_false, false_implies, and_true, not_false_eq_true, forall_const,
      true_and]
    rw [Int.natCast_add, Nat.cast_one]
    constructor
    · intro enough meets
      have reached := enough (le_of_eq meets.symm)
      omega
    · intro distinct reached
      -- the threshold is reached by this lesson, or an earlier one has reached it
      rcases eq_or_lt_of_le reached with meets | beyond
      · rw [distinct meets.symm]
        exact reached
      · by_cases none : lessonsOf engine.lessons lesson.pattern = []
        · rw [none, List.length_nil] at beyond
          omega
        · have before := sound lesson.pattern none (by omega)
          omega

/-- In every run of an engine its patterns are right after every lesson exactly when every lesson
is sober. -/
theorem sober_throughout_iff (minPatternSample minEvidenceSample minValidatedSample : Int)
    (lessons : List Lesson) :
    Run.Every recordLesson RightAfter
        (init minPatternSample minEvidenceSample minValidatedSample) lessons ↔
      Run.Every recordLesson Sober
        (init minPatternSample minEvidenceSample minValidatedSample) lessons := by
  refine Run.every_iff_of_kept Sound ?_ ?_ ?_
  · intro engine lesson _ sound sober
    exact (sound_iff_patterns _).mpr ((rightAfter_iff sound lesson).mpr sober).validated
  · intro engine lesson _ sound
    exact rightAfter_iff sound lesson
  · intro pattern some
    exact absurd rfl some

/-- A lesson about entering too early. -/
def earlyEntry : Lesson :=
  { lessonId := "L1", tradeId := "T1", symbol := "XAUUSD", strategyVersion := "v1",
    category := "ENTRY_TIMING", outcome := "LOSS", context := Dict.empty,
    lesson := "entered too early", confidence := "LOW", sampleSize := 1,
    createdAt := "2026-01-01T00:00:00+00:00", evidenceLevel := .observation }

/-- Two reviews of one trade make a validated finding where two trades are required. -/
theorem two_reviews_validate :
    ¬ Run.Every recordLesson RightAfter (init 1 1 2)
      [earlyEntry, { earlyEntry with lessonId := "L2" }] := by
  rintro ⟨-, second, -⟩
  have sound : ((init 1 1 2).recordLesson earlyEntry).Sound := by
    rw [sound_recordLesson_iff fun pattern some => absurd rfl some]
    decide
  have sober := (rightAfter_iff sound { earlyEntry with lessonId := "L2" }).mp second
  exact absurd sober (by decide)

end LearningEngineV2

end EaBot.Learning
