import EaBot.Foundation.Run
import EaBot.Research.ResearchEngine

/-!
# Rebuilding the research engine from its file

Every record but two gives back what it was written from.  The type of the strategy of an
experiment is written and not read, and an empty provenance is written and skipped.

As long as a call needs neither of them, a new engine on the file keeps what the engine
keeps.
-/

namespace EaBot.Research

open EaBot.Foundation

variable (render : Json → String)

/-! ## Records -/

theorem dictionaryOf_dictJson (dict : Dict String Json) :
    dictionaryOf (dictJson dict) = some dict := by
  rw [dictJson, dictionaryOf, Dict.update_empty_entries]

theorem countOf_ofNat (count : Nat) : countOf (.number (.ofNat count)) = some count := by
  have digits : (Nat.toDigits 10 count).all Char.isDigit = true := by
    apply List.all_eq_true.mpr
    exact fun char member => Nat.isDigit_of_mem_toDigits (by omega) (by omega) member
  rw [countOf, Json.Numeral.ofNat, if_pos digits, Nat.ofDigitChars_ten_toDigits]

theorem rebuildHypothesis_data (hypothesis : Hypothesis) :
    rebuildHypothesis render (Dict.empty.update hypothesis.data) = some hypothesis := by
  simp [rebuildHypothesis, Hypothesis.data, textAt, textOr, timeAt, listAt, dictionaryAt, listOf,
    dictionaryOf_dictJson, Persistence.OrderJournal.textOf, Datetime.fromIsoformat_isoformat]

theorem rebuildStrategyVersion_data (strategy : StrategyVersion) :
    rebuildStrategyVersion render (Dict.empty.update strategy.data) = some strategy := by
  simp [rebuildStrategyVersion, StrategyVersion.data, textAt, textOr, timeAt, dictionaryAt,
    dictionaryOf_dictJson, Persistence.OrderJournal.textOf, Datetime.fromIsoformat_isoformat]

/-- An experiment is given back with the default type of a strategy. -/
theorem rebuildExperiment_data (experiment : Experiment) :
    rebuildExperiment render (Dict.empty.update experiment.data) =
      some { experiment with strategyType := "ema_crossover" } := by
  simp [rebuildExperiment, Experiment.data, textAt, textOr, dictionaryAt, dictionaryOf_dictJson,
    Persistence.OrderJournal.textOf]

theorem rebuildResult_data (experimentId : String) (result : BacktestResult) :
    rebuildResult (Dict.empty.update (result.data experimentId)) = some result := by
  simp [rebuildResult, BacktestResult.data, numberAt, numberOf, listAt, listOf, dictionaryAt,
    dictionaryOf_dictJson, countOf_ofNat]

/-- The identifier in the data of a result. -/
theorem experimentId_data (experimentId : String) (result : BacktestResult) :
    textAt render (Dict.empty.update (result.data experimentId)) "experiment_id" =
      some experimentId := by
  simp [BacktestResult.data, textAt, Persistence.OrderJournal.textOf]

section Rebuilding

variable (state : ResearchState)

theorem rebuild_hypothesis (hypothesis : Hypothesis) :
    rebuild render (Dict.empty.update hypothesis.data) state "hypothesis" =
      some { state with hypotheses := state.hypotheses.set hypothesis.id hypothesis } := by
  rw [rebuild, if_pos rfl, rebuildHypothesis_data]
  rfl

theorem rebuild_strategyVersion (strategy : StrategyVersion) :
    rebuild render (Dict.empty.update strategy.data) state "strategy_version" =
      some { state with
        strategyVersions := state.strategyVersions.set strategy.version strategy } := by
  rw [rebuild, if_neg (by decide), if_pos rfl, rebuildStrategyVersion_data]
  rfl

theorem rebuild_experiment (experiment : Experiment) :
    rebuild render (Dict.empty.update experiment.data) state "experiment" =
      some { state with
        experiments := state.experiments.set experiment.id
          { experiment with strategyType := "ema_crossover" } } := by
  rw [rebuild, if_neg (by decide), if_neg (by decide), if_pos rfl, rebuildExperiment_data]
  rfl

/-- An experiment with the default type of a strategy is given back. -/
theorem rebuild_default {experiment : Experiment}
    (default : experiment.strategyType = "ema_crossover") :
    rebuild render (Dict.empty.update experiment.data) state "experiment" =
      some { state with
        experiments := state.experiments.set experiment.id experiment } := by
  have same : { experiment with strategyType := "ema_crossover" } = experiment := by
    rw [← default]
  rw [rebuild_experiment, same]

theorem rebuild_result (experimentId : String) (result : BacktestResult) :
    rebuild render (Dict.empty.update (result.data experimentId)) state "backtest_result" =
      some { state with
        backtestResults := state.backtestResults.set experimentId result } := by
  rw [rebuild, if_neg (by decide), if_neg (by decide), if_neg (by decide), if_pos rfl,
    experimentId_data, rebuildResult_data]
  rfl

/-- An empty provenance is skipped. -/
theorem rebuild_provenance (experimentId : String) (provenance : Dict String Json) :
    rebuild render (Dict.empty.update (provenanceData experimentId provenance)) state
        "run_provenance" =
      some (if provenance.entries = [] then state
        else { state with
          runProvenance := state.runProvenance.set experimentId provenance }) := by
  have identifier : textAt render (Dict.empty.update (provenanceData experimentId provenance))
      "experiment_id" = some experimentId := by
    simp [provenanceData, textAt, Persistence.OrderJournal.textOf]
  have given : dictionaryAt (Dict.empty.update (provenanceData experimentId provenance))
      "provenance" = some provenance := by
    simp [provenanceData, dictionaryAt, dictionaryOf_dictJson]
  rw [rebuild, if_neg (by decide), if_neg (by decide), if_neg (by decide), if_neg (by decide),
    if_pos rfl, identifier, given]
  by_cases none : provenance.entries = []
  · simp [none]
  · simp [none]

end Rebuilding

/-! ## What is kept after a file was read -/

/-- Experiments are kept under their identifiers with the default type of a strategy, and
no provenance is empty. -/
structure Rebuilt (state : ResearchState) : Prop where
  experiments : ∀ id experiment, state.experiments.get id = some experiment →
    experiment.id = id ∧ experiment.strategyType = "ema_crossover"
  provenance : ∀ id provenance, state.runProvenance.get id = some provenance →
    provenance.entries ≠ []

theorem rebuilt_empty : Rebuilt ResearchState.empty := by
  constructor
  · rintro id experiment ⟨⟩
  · rintro id provenance ⟨⟩

theorem rebuildExperiment_default {data : Dict String Json} {experiment : Experiment}
    (rebuilt : rebuildExperiment render data = some experiment) :
    experiment.strategyType = "ema_crossover" := by
  unfold rebuildExperiment at rebuilt
  simp only [Option.bind_eq_bind, Option.bind_eq_some_iff, Option.pure_def] at rebuilt
  rcases rebuilt with ⟨id, -, name, -, version, -, parameters, -, hypothesisId, -, same⟩
  cases same
  rfl

/-- Rebuilding a record keeps that. -/
theorem Rebuilt.rebuild {state after : ResearchState} (kept : Rebuilt state)
    {data : Dict String Json} {recordType : String}
    (rebuilt : rebuild render data state recordType = some after) : Rebuilt after := by
  unfold Research.rebuild at rebuilt
  split at rebuilt
  · rcases Option.map_eq_some_iff.mp rebuilt with ⟨hypothesis, -, rfl⟩
    exact ⟨kept.experiments, kept.provenance⟩
  split at rebuilt
  · rcases Option.map_eq_some_iff.mp rebuilt with ⟨strategy, -, rfl⟩
    exact ⟨kept.experiments, kept.provenance⟩
  split at rebuilt
  · rcases Option.map_eq_some_iff.mp rebuilt with ⟨experiment, known, rfl⟩
    refine ⟨?_, kept.provenance⟩
    intro id other held
    rw [Dict.get_set] at held
    split at held
    · rename_i same
      cases held
      exact ⟨same.symm, rebuildExperiment_default render known⟩
    · exact kept.experiments id other held
  split at rebuilt
  · simp only [Option.bind_eq_bind, Option.bind_eq_some_iff, Option.pure_def] at rebuilt
    rcases rebuilt with ⟨id, -, result, -, same⟩
    cases same
    exact ⟨kept.experiments, kept.provenance⟩
  split at rebuilt
  · simp only [Option.bind_eq_bind, Option.bind_eq_some_iff, Option.pure_def] at rebuilt
    rcases rebuilt with ⟨experimentId, -, provenance, -, same⟩
    split at same
    · cases same
      exact kept
    · rename_i some
      cases same
      refine ⟨kept.experiments, ?_⟩
      intro id other held
      rw [Dict.get_set] at held
      split at held
      · cases held
        simpa using some
      · exact kept.provenance id other held
  · cases rebuilt
    exact kept

theorem Rebuilt.takeRecord {state : ResearchState} (kept : Rebuilt state) (line : List Char) :
    Rebuilt (takeRecord render state line) := by
  unfold Research.takeRecord
  split
  · exact kept
  · split
    · rename_i data _ _
      cases rebuilt : Research.rebuild render (Dict.empty.update data) state _ with
      | none => exact kept
      | some after => exact kept.rebuild render rebuilt
    · exact kept

theorem rebuilt_of_hydrate {file : TextFile} {state : ResearchState}
    (hydrated : hydrate render file = some state) : Rebuilt state := by
  unfold hydrate at hydrated
  split at hydrated
  · cases hydrated
  · cases hydrated
    suffices taken : ∀ lines start, Rebuilt start →
        Rebuilt (List.foldl (takeRecord render) start lines) from taken _ _ rebuilt_empty
    intro lines
    induction lines with
    | nil => exact fun start kept => kept
    | cons line rest ih => exact fun start kept => ih _ (kept.takeRecord render line)

/-! ## One call -/

namespace ResearchEngine

variable {Market : Type} {render} {engine : ResearchEngine}

/-- The engine keeps what its file holds, and the last line of the file is ended. -/
structure Mirrored (render : Json → String) (engine : ResearchEngine) : Prop where
  ended : engine.file.Ended
  hydrated : hydrate render engine.file = some engine.state

theorem replays_iff : engine.Replays render ↔ hydrate render engine.file = some engine.state := by
  unfold Replays open?
  constructor
  · rintro ⟨reopened, opened, same⟩
    rcases Option.map_eq_some_iff.mp opened with ⟨state, hydrated, rfl⟩
    rw [hydrated]
    exact congrArg some same
  · intro hydrated
    exact ⟨⟨engine.state, engine.file⟩, by rw [hydrated]; rfl, rfl⟩

/-- The records of a file with another record are those before and the new one. -/
theorem hydrate_append {file : TextFile} (ended : file.Ended) {state : ResearchState}
    (hydrated : hydrate render file = some state) (recordType : String)
    (data : List (String × Json)) :
    hydrate render (file.append (Json.asciiLines.line (storeRecord recordType data)) none) =
      some ((rebuild render (Dict.empty.update data) state recordType).getD state) := by
  have whole : file.torn = false := ended.1
  have after : (file.append (Json.asciiLines.line (storeRecord recordType data)) none).torn =
      false := (ended.append (Json.asciiLines.write (storeRecord recordType data))).1
  have written := Json.asciiLines.read_write (storeRecord recordType data)
  change Json.readRecord (Json.asciiLines.write (storeRecord recordType data)) = _ at written
  rw [hydrate, whole] at hydrated
  rw [hydrate, after, if_neg Bool.false_ne_true, Json.asciiLines.linesOf_append_line ended,
    List.foldl_append, Option.some.inj hydrated, List.foldl_cons, List.foldl_nil, takeRecord,
    written]
  rfl

/-- Appending a record to the file of an engine. -/
theorem Mirrored.append (mirrored : Mirrored render engine) (state : ResearchState)
    {rebuilt : ResearchState}
    {recordType : String} {data : List (String × Json)}
    (rebuilds : rebuild render (Dict.empty.update data) engine.state recordType = some rebuilt) :
    let after := ({ engine with state := state } : ResearchEngine).append recordType data
    after.file.Ended ∧ hydrate render after.file = some rebuilt := by
  intro after
  refine ⟨mirrored.ended.append (Json.asciiLines.write (storeRecord recordType data)), ?_⟩
  have hydrated := hydrate_append mirrored.ended mirrored.hydrated recordType data
  rw [rebuilds] at hydrated
  exact hydrated

/-- The type of a new experiment is the default one, and a new provenance is not empty. -/
def Restorable (engine : ResearchEngine) : ResearchCall Market → Prop
  | .createExperiment _ hypothesisId strategyVersion _ strategyType =>
      engine.state.hypotheses.contains hypothesisId = true →
        engine.state.strategyVersions.contains strategyVersion = true →
          strategyType = "ema_crossover"
  | .recordRunProvenance _ provenance => provenance.entries ≠ []
  | _ => True

/-- An appended record gives back what is kept when it is rebuilt as that. -/
theorem Mirrored.appended (mirrored : Mirrored render engine) {state rebuilt : ResearchState}
    {recordType : String} {data : List (String × Json)}
    (rebuilds : rebuild render (Dict.empty.update data) engine.state recordType = some rebuilt) :
    let after := ({ engine with state := state } : ResearchEngine).append recordType data
    (after.Replays render ↔ rebuilt = state) ∧ (rebuilt = state → Mirrored render after) := by
  intro after
  rcases mirrored.append state rebuilds with ⟨ended, hydrated⟩
  constructor
  · rw [replays_iff]
    constructor
    · intro same
      exact Option.some.inj (hydrated.symm.trans same)
    · rintro rfl
      exact hydrated
  · rintro rfl
    exact ⟨ended, hydrated⟩

/-- The registered experiment with its new status, or as it was. -/
theorem complete_get (rebuilt : Rebuilt engine.state) {given : GivenExperiment}
    {experiment : Experiment} (known : engine.given? given = some experiment)
    (result : BacktestResult) :
    ∃ registered, (engine.complete given experiment.id result).state =
        { engine.state with
          backtestResults := engine.state.backtestResults.set experiment.id result
          experiments := engine.state.experiments.set experiment.id registered } ∧
      registered.id = experiment.id ∧ registered.strategyType = "ema_crossover" := by
  cases given with
  | registered id =>
      change engine.state.experiments.get id = some experiment at known
      rcases rebuilt.experiments id experiment known with ⟨rfl, default⟩
      refine ⟨{ experiment with status := "completed" }, ?_, rfl, default⟩
      simp only [complete, known]
  | other experiment' =>
      rcases Option.map_eq_some_iff.mp known with ⟨registered, held, rfl⟩
      refine ⟨registered, ?_, rebuilt.experiments _ registered held⟩
      rw [Dict.set_of_get _ held]
      simp only [complete]

theorem persistResult_of_get {experimentId : String} {experiment : Experiment}
    (held : engine.state.experiments.get experimentId = some experiment)
    (result : BacktestResult) :
    engine.persistResult experimentId result =
      (engine.append "backtest_result" (result.data experimentId)).append "experiment"
        experiment.data := by
  unfold persistResult
  dsimp only [append]
  rw [held]

/-- The result of a backtest is given back with the status of its experiment. -/
theorem Mirrored.runBacktest (mirrored : Mirrored render engine) {given : GivenExperiment}
    {experiment : Experiment} (known : engine.given? given = some experiment)
    (result : BacktestResult) :
    Mirrored render
      ((engine.complete given experiment.id result).persistResult experiment.id result) := by
  rcases complete_get (rebuilt_of_hydrate render mirrored.hydrated) known result with
    ⟨registered, completed, own, default⟩
  rcases mirrored.append (engine.complete given experiment.id result).state
    (rebuild_result render engine.state experiment.id result) with ⟨ended, hydrated⟩
  have again := hydrate_append ended hydrated "experiment" registered.data
  rw [rebuild_default render _ default, Option.getD_some, own] at again
  have held : (engine.complete given experiment.id result).state.experiments.get experiment.id =
      some registered := by
    rw [completed]
    exact Dict.get_set_self _ _ _
  rw [persistResult_of_get held result]
  refine ⟨ended.append (Json.asciiLines.write (storeRecord "experiment" registered.data)), ?_⟩
  refine again.trans (congrArg some ?_)
  exact completed.symm

/-- A new experiment is given back when the type of its strategy is the default one. -/
theorem Mirrored.register (mirrored : Mirrored render engine) (experiment : Experiment) :
    let after := ({ engine with state := { engine.state with
      experiments := engine.state.experiments.set experiment.id experiment } } :
        ResearchEngine).append "experiment" experiment.data
    (after.Replays render ↔ experiment.strategyType = "ema_crossover") ∧
      (experiment.strategyType = "ema_crossover" → Mirrored render after) := by
  intro after
  rcases mirrored.appended (rebuild_experiment render engine.state experiment) with
    ⟨replays, kept⟩
  have same : { engine.state with
      experiments := engine.state.experiments.set experiment.id
        { experiment with strategyType := "ema_crossover" } } =
      { engine.state with
        experiments := engine.state.experiments.set experiment.id experiment } ↔
      experiment.strategyType = "ema_crossover" := by
    constructor
    · intro same
      have experiments := congrArg
        (fun state : ResearchState => state.experiments.get experiment.id) same
      dsimp only at experiments
      rw [Dict.get_set_self, Dict.get_set_self, Option.some.injEq] at experiments
      exact (congrArg Experiment.strategyType experiments).symm
    · intro default
      rw [← default]
  exact ⟨replays.trans same, fun default => kept (same.mpr default)⟩

/-- A call is given back when it is restorable, and not otherwise. -/
theorem Mirrored.step (mirrored : Mirrored render engine) (backtesting : Backtesting Market)
    (call : ResearchCall Market) :
    ((engine.step backtesting call).Replays render ↔ engine.Restorable call) ∧
      (engine.Restorable call → Mirrored render (engine.step backtesting call)) := by
  have unchanged : engine.Replays render := replays_iff.mpr mirrored.hydrated
  have rebuilt := rebuilt_of_hydrate render mirrored.hydrated
  cases call with
  | createHypothesis id name description entryRules exitRules parameters now =>
      rcases mirrored.appended (rebuild_hypothesis render engine.state _) with ⟨replays, kept⟩
      exact ⟨replays.trans (iff_of_true rfl trivial), fun _ => kept rfl⟩
  | createStrategyVersion version parameters description now =>
      unfold ResearchEngine.step
      dsimp only
      split
      · exact ⟨iff_of_true unchanged trivial, fun _ => mirrored⟩
      · rcases mirrored.appended (rebuild_strategyVersion render engine.state _) with
          ⟨replays, kept⟩
        exact ⟨replays.trans (iff_of_true rfl trivial), fun _ => kept rfl⟩
  | createExperiment id hypothesisId strategyVersion parameters strategyType =>
      unfold ResearchEngine.step Restorable
      dsimp only
      cases known : engine.state.hypotheses.get hypothesisId with
      | none =>
          have raises : engine.state.hypotheses.contains hypothesisId = false := by
            simp [Dict.contains, known]
          rw [raises]
          refine ⟨iff_of_true unchanged ?_, fun _ => mirrored⟩
          intro raises
          cases raises
      | some hypothesis =>
          have tests : engine.state.hypotheses.contains hypothesisId = true := by
            simp [Dict.contains, known]
          rw [tests]
          dsimp only
          split
          · rename_i versioned
            rcases mirrored.register ⟨id, hypothesis.name ++ "-" ++ strategyVersion,
              strategyVersion, parameters.getD Dict.empty, hypothesisId, "pending",
              strategyType⟩ with ⟨replays, kept⟩
            rw [versioned]
            exact ⟨replays.trans ⟨fun default _ _ => default, fun default => default rfl rfl⟩,
              fun default => kept (default rfl rfl)⟩
          · rename_i unversioned
            exact ⟨iff_of_true unchanged fun _ versioned => absurd versioned unversioned,
              fun _ => mirrored⟩
  | runBacktest given market walkForward =>
      unfold ResearchEngine.step
      dsimp only
      cases known : engine.given? given with
      | none => exact ⟨iff_of_true unchanged trivial, fun _ => mirrored⟩
      | some experiment =>
          dsimp only
          split
          · exact ⟨iff_of_true unchanged trivial, fun _ => mirrored⟩
          · rename_i result _
            have kept := mirrored.runBacktest known result
            exact ⟨iff_of_true (replays_iff.mpr kept.hydrated) trivial, fun _ => kept⟩
  | recordRunProvenance experimentId provenance =>
      rcases mirrored.appended (rebuild_provenance render engine.state experimentId provenance)
        with ⟨replays, kept⟩
      have same : (if provenance.entries = [] then engine.state else { engine.state with
          runProvenance := engine.state.runProvenance.set experimentId provenance }) =
          { engine.state with
            runProvenance := engine.state.runProvenance.set experimentId provenance } ↔
          provenance.entries ≠ [] := by
        constructor
        · intro same none
          rw [if_pos none] at same
          have held : engine.state.runProvenance.get experimentId = some provenance := by
            rw [same]
            exact Dict.get_set_self _ _ _
          exact rebuilt.provenance experimentId provenance held none
        · intro some
          rw [if_neg some]
      exact ⟨replays.trans same, fun some => kept (same.mpr some)⟩

/-! ## Runs -/

/-- From an engine that was opened on an ended file, a new engine on the file keeps the same
after each call of a run exactly when each call is restorable. -/
theorem every_research_replays_iff {file : TextFile} (ended : file.Ended)
    (opened : open? render file = some engine) (backtesting : Backtesting Market)
    (calls : List (ResearchCall Market)) :
    Run.Every (step backtesting)
        (fun engine call => (engine.step backtesting call).Replays render) engine calls ↔
      Run.Every (step backtesting) Restorable engine calls := by
  have initial : Mirrored render engine := by
    rcases Option.map_eq_some_iff.mp opened with ⟨state, hydrated, rfl⟩
    exact ⟨ended, hydrated⟩
  apply Run.every_iff_of_kept (Mirrored render) _ _ initial
  · intro engine call _ mirrored restorable
    exact (mirrored.step backtesting call).2 restorable
  · intro engine call _ mirrored
    exact (mirrored.step backtesting call).1

/-- Nothing is ever traded. -/
private def idle : Backtesting Nat :=
  ⟨id, fun _ _ _ walkForward => some (shortResult walkForward)⟩

private def newYear : Datetime :=
  ⟨2026, 1, 1, ⟨0, 0, 0, 0⟩, some 0, by decide⟩

/-- A hypothesis, a version of a strategy and an experiment with a type of strategy that is
backtested. -/
private def study (strategyType : String) : List (ResearchCall Nat) :=
  [.createHypothesis "h-1" "cross" "averages cross" (some [.str "cross"]) none none newYear,
    .createStrategyVersion "v1" none "" newYear,
    .createExperiment "e-1" "h-1" "v1" none strategyType,
    .runBacktest (.registered "e-1") 3 true,
    .recordRunProvenance "e-1" (Dict.empty.set "symbol" (.str "XAUUSD"))]

/-- An engine on an empty file. -/
private def fresh : ResearchEngine :=
  ⟨ResearchState.empty, TextFile.empty⟩

/-- A study of crossing averages is given back. -/
theorem every_research_replays_study :
    Run.Every (step idle)
      (fun engine call => (engine.step idle call).Replays fun _ => "") fresh
      (study "ema_crossover") := by
  have ended : TextFile.empty.Ended := ⟨rfl, .inl rfl⟩
  apply (every_research_replays_iff ended rfl idle _).mpr
  refine ⟨trivial, trivial, fun _ _ => rfl, trivial, ?_, trivial⟩
  exact List.cons_ne_nil _ _

/-- A study of the relative strength is given back as one of crossing averages. -/
theorem relative_strength_forgotten :
    ¬ Run.Every (step idle)
      (fun engine call => (engine.step idle call).Replays fun _ => "") fresh
      (study "rsi_reversal") := by
  have ended : TextFile.empty.Ended := ⟨rfl, .inl rfl⟩
  rintro ⟨-, -, experiment, -⟩
  have first : Mirrored (fun _ => "") fresh := ⟨ended, rfl⟩
  have second := (first.step idle (study "rsi_reversal")[0]).2 trivial
  have third := (second.step idle (study "rsi_reversal")[1]).2 trivial
  have default := (third.step idle (study "rsi_reversal")[2]).1.mp experiment rfl rfl
  exact absurd default (by decide)

end ResearchEngine

end EaBot.Research
