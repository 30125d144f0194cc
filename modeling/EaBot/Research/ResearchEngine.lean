import EaBot.Foundation.Datetime
import EaBot.Foundation.JsonAscii
import EaBot.Persistence.OrderJournal

/-!
# The research engine and its store

The engine keeps hypotheses, versions of strategies, experiments, results and the
provenance of runs in memory, and appends a record to a file whenever one of them changes.
A new engine reads the records of the file, rebuilds what each of them holds field by
field, and skips those that it cannot rebuild.

The backtest itself is any function of the type and the parameters of a strategy.
-/

namespace EaBot.Research

open EaBot.Foundation

/-! ## What the engine keeps -/

/-- A hypothesis. -/
structure Hypothesis where
  id : String
  name : String
  description : String
  entryRules : List Json
  exitRules : List Json
  parameters : Dict String Json
  createdAt : Datetime

/-- A version of a strategy. -/
structure StrategyVersion where
  version : String
  parameters : Dict String Json
  createdAt : Datetime
  description : String

/-- An experiment. -/
structure Experiment where
  id : String
  name : String
  strategyVersion : String
  parameters : Dict String Json
  hypothesisId : String
  status : String
  strategyType : String := "ema_crossover"

/-- The result of a backtest.  A number is kept as it is spelt. -/
structure BacktestResult where
  totalTrades : Nat
  winRate : Json.Numeral
  profitFactor : Json.Numeral
  sharpeRatio : Json.Numeral
  maxDrawdown : Json.Numeral
  expectation : Json.Numeral
  netPnl : Json.Numeral
  trades : List Json
  walkForward : Dict String Json

/-- What the engine keeps in memory. -/
structure ResearchState where
  hypotheses : Dict String Hypothesis
  strategyVersions : Dict String StrategyVersion
  experiments : Dict String Experiment
  backtestResults : Dict String BacktestResult
  runProvenance : Dict String (Dict String Json)

namespace ResearchState

/-- Nothing is kept. -/
def empty : ResearchState :=
  ⟨Dict.empty, Dict.empty, Dict.empty, Dict.empty, Dict.empty⟩

end ResearchState

/-! ## Records -/

/-- A dictionary as a value. -/
def dictJson (dict : Dict String Json) : Json :=
  .obj dict.entries

/-- The data of a hypothesis. -/
def Hypothesis.data (hypothesis : Hypothesis) : List (String × Json) :=
  [("id", .str hypothesis.id), ("name", .str hypothesis.name),
    ("description", .str hypothesis.description), ("entry_rules", .arr hypothesis.entryRules),
    ("exit_rules", .arr hypothesis.exitRules), ("parameters", dictJson hypothesis.parameters),
    ("created_at", .str hypothesis.createdAt.isoformat)]

/-- The data of a version of a strategy. -/
def StrategyVersion.data (strategy : StrategyVersion) : List (String × Json) :=
  [("version", .str strategy.version), ("parameters", dictJson strategy.parameters),
    ("created_at", .str strategy.createdAt.isoformat),
    ("description", .str strategy.description)]

/-- The data of an experiment. -/
def Experiment.data (experiment : Experiment) : List (String × Json) :=
  [("id", .str experiment.id), ("name", .str experiment.name),
    ("strategy_version", .str experiment.strategyVersion),
    ("parameters", dictJson experiment.parameters),
    ("hypothesis_id", .str experiment.hypothesisId), ("status", .str experiment.status),
    ("strategy_type", .str experiment.strategyType)]

/-- The data of the result of an experiment. -/
def BacktestResult.data (experimentId : String) (result : BacktestResult) :
    List (String × Json) :=
  [("experiment_id", .str experimentId), ("total_trades", .number (.ofNat result.totalTrades)),
    ("win_rate", .number result.winRate), ("profit_factor", .number result.profitFactor),
    ("sharpe_ratio", .number result.sharpeRatio), ("max_drawdown", .number result.maxDrawdown),
    ("expectation", .number result.expectation), ("net_pnl", .number result.netPnl),
    ("trades", .arr result.trades), ("walk_forward", dictJson result.walkForward)]

/-- The data of the provenance of a run. -/
def provenanceData (experimentId : String) (provenance : Dict String Json) :
    List (String × Json) :=
  [("experiment_id", .str experimentId), ("provenance", dictJson provenance)]

/-- A record of a type. -/
def storeRecord (recordType : String) (data : List (String × Json)) : List (String × Json) :=
  [("type", .str recordType), ("data", .obj data)]

/-! ## Rebuilding -/

/-- The list that a value is turned into when it counts as true, or an exception. -/
def listOf (value : Json) : Option (List Json) :=
  match value with
  | .arr items => some items
  | .str text => some (text.toList.map fun char => .str (String.singleton char))
  | .obj fields => some ((Dict.empty.update fields).keys.map .str)
  | other => if other.truthy then none else some []

/-- The dictionary that a value is turned into when it counts as true, or an exception.  A
list of pairs, which the engine never writes, is not turned into one. -/
def dictionaryOf (value : Json) : Option (Dict String Json) :=
  match value with
  | .obj fields => some (Dict.empty.update fields)
  | other => if other.truthy then none else some Dict.empty

/-- The number that a value is turned into, or an exception.  A number in a text, which the
engine never writes, is not read. -/
def numberOf (value : Json) : Option Json.Numeral :=
  match value with
  | .number value => some value
  | .bool true => some (.ofNat 1)
  | .bool false => some (.ofNat 0)
  | _ => none

/-- The count that a value is turned into, or an exception.  Other numbers than counts, which
the engine never writes, are not read. -/
def countOf (value : Json) : Option Nat :=
  match value with
  | .number value =>
      if value.chars.all Char.isDigit then some (Nat.ofDigitChars 10 value.chars 0) else none
  | .bool true => some 1
  | .bool false => some 0
  | _ => none

section Rebuild

variable (render : Json → String) (data : Dict String Json)

/-- A field that must be there, as a text. -/
def textAt (name : String) : Option String :=
  (data.get name).map (Persistence.OrderJournal.textOf render)

/-- A field as a text. -/
def textOr (name default : String) : String :=
  Persistence.OrderJournal.textOf render ((data.get name).getD (.str default))

/-- A point in time. -/
def timeAt (name : String) : Option Datetime :=
  (textAt render data name).bind Datetime.fromIsoformat

/-- A field as a list. -/
def listAt (name : String) : Option (List Json) :=
  listOf ((data.get name).getD .null)

/-- A field as a dictionary. -/
def dictionaryAt (name : String) : Option (Dict String Json) :=
  dictionaryOf ((data.get name).getD .null)

/-- A field as a number, zero when it is missing. -/
def numberAt (name : String) : Option Json.Numeral :=
  numberOf ((data.get name).getD (.number (.ofNat 0)))

/-- Rebuild a hypothesis. -/
def rebuildHypothesis : Option Hypothesis := do
  let id ← textAt render data "id"
  let name ← textAt render data "name"
  let entryRules ← listAt data "entry_rules"
  let exitRules ← listAt data "exit_rules"
  let parameters ← dictionaryAt data "parameters"
  let createdAt ← timeAt render data "created_at"
  return ⟨id, name, textOr render data "description" "", entryRules, exitRules, parameters,
    createdAt⟩

/-- Rebuild a version of a strategy. -/
def rebuildStrategyVersion : Option StrategyVersion := do
  let version ← textAt render data "version"
  let parameters ← dictionaryAt data "parameters"
  let createdAt ← timeAt render data "created_at"
  return ⟨version, parameters, createdAt, textOr render data "description" ""⟩

/-- Rebuild an experiment.  The type of its strategy is the default one. -/
def rebuildExperiment : Option Experiment := do
  let id ← textAt render data "id"
  let name ← textAt render data "name"
  let strategyVersion ← textAt render data "strategy_version"
  let parameters ← dictionaryAt data "parameters"
  let hypothesisId ← textAt render data "hypothesis_id"
  return {
    id := id, name := name, strategyVersion := strategyVersion, parameters := parameters,
    hypothesisId := hypothesisId, status := textOr render data "status" "pending" }

/-- Rebuild the result of a backtest. -/
def rebuildResult : Option BacktestResult := do
  let totalTrades ← countOf ((data.get "total_trades").getD (.number (.ofNat 0)))
  let winRate ← numberAt data "win_rate"
  let profitFactor ← numberAt data "profit_factor"
  let sharpeRatio ← numberAt data "sharpe_ratio"
  let maxDrawdown ← numberAt data "max_drawdown"
  let expectation ← numberAt data "expectation"
  let netPnl ← numberAt data "net_pnl"
  let trades ← listAt data "trades"
  let walkForward ← dictionaryAt data "walk_forward"
  return ⟨totalTrades, winRate, profitFactor, sharpeRatio, maxDrawdown, expectation, netPnl,
    trades, walkForward⟩

/-- What is kept after the data of a record, or an exception. -/
def rebuild (state : ResearchState) (recordType : String) : Option ResearchState :=
  if recordType = "hypothesis" then
    (rebuildHypothesis render data).map fun hypothesis =>
      { state with hypotheses := state.hypotheses.set hypothesis.id hypothesis }
  else if recordType = "strategy_version" then
    (rebuildStrategyVersion render data).map fun strategy =>
      { state with
        strategyVersions := state.strategyVersions.set strategy.version strategy }
  else if recordType = "experiment" then
    (rebuildExperiment render data).map fun experiment =>
      { state with experiments := state.experiments.set experiment.id experiment }
  else if recordType = "backtest_result" then do
    let experimentId ← textAt render data "experiment_id"
    let result ← rebuildResult data
    return { state with backtestResults := state.backtestResults.set experimentId result }
  else if recordType = "run_provenance" then do
    let experimentId ← textAt render data "experiment_id"
    let provenance ← dictionaryAt data "provenance"
    if provenance.entries.isEmpty then return state
    else
      return { state with runProvenance := state.runProvenance.set experimentId provenance }
  else some state

end Rebuild

/-- Take one line of the file.  A line that holds no record of a type, and a record that
cannot be rebuilt, are skipped. -/
def takeRecord (render : Json → String) (state : ResearchState) (line : List Char) :
    ResearchState :=
  match Json.readRecord line with
  | none => state
  | some fields =>
      match Json.get fields "type", Json.get fields "data" with
      | some (.str recordType), some (.obj data) =>
          (rebuild render (Dict.empty.update data) state recordType).getD state
      | _, _ => state

/-- What the records of a file hold.  A file that cannot be decoded raises. -/
def hydrate (render : Json → String) (file : TextFile) : Option ResearchState :=
  if file.torn then none
  else some ((TextFile.linesOf file.chars).foldl (takeRecord render) ResearchState.empty)

/-! ## The engine -/

/-- An engine with the file of its store, which accepts every write. -/
structure ResearchEngine where
  state : ResearchState
  file : TextFile

/-- An experiment that is handed to the engine: the object that it keeps, or another one. -/
inductive GivenExperiment
  | registered (id : String)
  | other (experiment : Experiment)

/-- A call of the engine, with the identifiers and the time that it draws. -/
inductive ResearchCall (Market : Type)
  | createHypothesis (id name description : String) (entryRules exitRules : Option (List Json))
      (parameters : Option (Dict String Json)) (now : Datetime)
  | createStrategyVersion (version : String) (parameters : Option (Dict String Json))
      (description : String) (now : Datetime)
  | createExperiment (id hypothesisId strategyVersion : String)
      (parameters : Option (Dict String Json)) (strategyType : String)
  | runBacktest (experiment : GivenExperiment) (market : Market) (walkForward : Bool)
  | recordRunProvenance (experimentId : String) (provenance : Dict String Json)

/-- How a strategy type with parameters is backtested over market data, and how many prices
these hold.  A backtest without a result raises. -/
structure Backtesting (Market : Type) where
  length : Market → Nat
  simulate : String → Dict String Json → Market → Bool → Option BacktestResult

/-- The result over too few prices. -/
def shortResult (walkForward : Bool) : BacktestResult :=
  { totalTrades := 0, winRate := .ofNat 0, profitFactor := .ofNat 0,
    sharpeRatio := .ofNat 0, maxDrawdown := .ofNat 0, expectation := .ofNat 0,
    netPnl := .ofNat 0, trades := [],
    walkForward := Dict.empty.update
      [("enabled", .bool walkForward), ("windows", .arr []), ("aggregate", .obj [])] }

namespace ResearchEngine

variable {Market : Type}

/-- A new engine on a file. -/
def open? (render : Json → String) (file : TextFile) : Option ResearchEngine :=
  (hydrate render file).map fun state => ⟨state, file⟩

/-- Append a record to the file. -/
def append (engine : ResearchEngine) (recordType : String) (data : List (String × Json)) :
    ResearchEngine :=
  { engine with
    file := engine.file.append (Json.asciiLines.line (storeRecord recordType data)) none }

/-- The experiment that is meant, when one of its identifier is registered. -/
def given? (engine : ResearchEngine) : GivenExperiment → Option Experiment
  | .registered id => engine.state.experiments.get id
  | .other experiment => (engine.state.experiments.get experiment.id).map fun _ => experiment

/-- The result of a backtest, or an exception. -/
def backtest (backtesting : Backtesting Market) (engine : ResearchEngine)
    (experiment : Experiment) (market : Market) (walkForward : Bool) : Option BacktestResult :=
  if backtesting.length market < 5 then some (shortResult walkForward)
  else
    (engine.state.strategyVersions.get experiment.strategyVersion).bind fun strategy =>
      backtesting.simulate experiment.strategyType
        (strategy.parameters.update experiment.parameters.entries) market walkForward

/-- Keep the result of an experiment, whose status changes when it is the registered one. -/
def complete (engine : ResearchEngine) (given : GivenExperiment) (id : String)
    (result : BacktestResult) : ResearchEngine :=
  { engine with state := { engine.state with
      backtestResults := engine.state.backtestResults.set id result
      experiments := match given, engine.state.experiments.get id with
        | .registered _, some experiment =>
            engine.state.experiments.set id { experiment with status := "completed" }
        | _, _ => engine.state.experiments } }

/-- Append the result of an experiment, and the experiment as it is registered. -/
def persistResult (engine : ResearchEngine) (experimentId : String) (result : BacktestResult) :
    ResearchEngine :=
  let engine := engine.append "backtest_result" (result.data experimentId)
  match engine.state.experiments.get experimentId with
  | none => engine
  | some experiment => engine.append "experiment" experiment.data

/-- A call of the engine.  One that raises changes nothing. -/
def step (backtesting : Backtesting Market) (engine : ResearchEngine) :
    ResearchCall Market → ResearchEngine
  | .createHypothesis id name description entryRules exitRules parameters now =>
      let hypothesis : Hypothesis := ⟨id, name, description, entryRules.getD [],
        exitRules.getD [], parameters.getD Dict.empty, now⟩
      { engine with state := { engine.state with
          hypotheses := engine.state.hypotheses.set id hypothesis } }.append
        "hypothesis" hypothesis.data
  | .createStrategyVersion version parameters description now =>
      if engine.state.strategyVersions.contains version then engine
      else
        let strategy : StrategyVersion :=
          ⟨version, parameters.getD Dict.empty, now, description⟩
        { engine with state := { engine.state with
            strategyVersions := engine.state.strategyVersions.set version strategy } }.append
          "strategy_version" strategy.data
  | .createExperiment id hypothesisId strategyVersion parameters strategyType =>
      match engine.state.hypotheses.get hypothesisId with
      | none => engine
      | some hypothesis =>
          if engine.state.strategyVersions.contains strategyVersion then
            let experiment : Experiment :=
              ⟨id, hypothesis.name ++ "-" ++ strategyVersion, strategyVersion,
                parameters.getD Dict.empty, hypothesisId, "pending", strategyType⟩
            { engine with state := { engine.state with
                experiments := engine.state.experiments.set id experiment } }.append
              "experiment" experiment.data
          else engine
  | .runBacktest given market walkForward =>
      match engine.given? given with
      | none => engine
      | some experiment =>
          match engine.backtest backtesting experiment market walkForward with
          | none => engine
          | some result =>
              (engine.complete given experiment.id result).persistResult experiment.id result
  | .recordRunProvenance experimentId provenance =>
      { engine with state := { engine.state with
          runProvenance := engine.state.runProvenance.set experimentId provenance } }.append
        "run_provenance" (provenanceData experimentId provenance)

/-- A new engine on the file keeps the same. -/
def Replays (render : Json → String) (engine : ResearchEngine) : Prop :=
  ∃ reopened, open? render engine.file = some reopened ∧ reopened.state = engine.state

end ResearchEngine

end EaBot.Research
