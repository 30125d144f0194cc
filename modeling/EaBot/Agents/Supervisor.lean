import Mathlib.Algebra.Order.BigOperators.Group.List
import EaBot.Agents.Synthesis

/-!
# The supervisor

The supervisor looks up which agents an event concerns, sorts them by priority, leaves out
those that do not handle the event and applies its routing policy.  It asks the remaining
agents one after the other or on a pool of threads, as long as their estimates fit into the
token budget, brings their answers into one form, and has a proposal made of them.

On the pool, the threads share the count of used tokens without a lock: a thread reads the
count for its check, reads it again and writes the sum.  The schedule says which thread takes
the next of these steps.
-/

namespace EaBot.Agents

open EaBot.Foundation

universe u

/-! ## Agents -/

inductive AgentPriority
  | critical
  | high
  | normal
  | low
  | background
deriving DecidableEq

def AgentPriority.value : AgentPriority → Nat
  | critical => 100
  | high => 75
  | normal => 50
  | low => 25
  | background => 10

/-- How the call of an agent ends: with an exception or a timeout, with something that is no
record, or with a record. -/
inductive AgentReply
  | raised (error : String)
  | shapeless
  | output (record : AgentOutput)

/-- An agent: whether it handles an event in a context, and what it answers. -/
structure BaseAgent (χ : Type u) where
  name : String
  agentType : String
  priority : AgentPriority
  canHandle : String → χ → Bool
  analyze : χ → AgentReply

/-- The registered agents in the order of their registration. -/
structure AgentRegistry (χ : Type u) where
  agents : List (BaseAgent χ)
  distinct : (agents.map BaseAgent.name).Nodup

namespace AgentRegistry

variable {χ : Type u}

def get (registry : AgentRegistry χ) (name : String) : Option (BaseAgent χ) :=
  registry.agents.find? fun agent => agent.name = name

def getByType (registry : AgentRegistry χ) (agentType : String) : List (BaseAgent χ) :=
  registry.agents.filter fun agent => agent.agentType = agentType

end AgentRegistry

/-- What the supervisor reads of the context of an analysis.  `event` is the event when it is
a record, with its symbol when it has one; `data` is what the agents read. -/
structure SupervisorContext (χ : Type u) where
  eventType : String
  agents : List (BaseAgent χ)
  distinct : (agents.map BaseAgent.name).Nodup
  resetBudget : Bool
  registry : Option (Option (AgentRegistry χ))
  tokenEstimates : Dict String Nat
  event : Option (Option String)
  symbol : Option String
  market : MarketState
  entryPrice : Option ℚ
  signalId : Val
  eventId : Val
  canonicalSignalId : String
  data : χ

structure SupervisorAgent (χ : Type u) where
  routingTable : Dict String (List String)
  maxConcurrency : Int
  tokenBudget : Nat
  tokenUsed : Nat
  routingPolicy : String
  registry : Option (AgentRegistry χ)
  synthesizer : AgentSynthesizer

/-! ## Normalised answers -/

namespace Supervisor

/-- The number that a clamped confidence prints as. -/
def numeral (render : ℚ → String) (value : ℚ) : Val :=
  .num ⟨value, render value⟩

/-- The answer in the form that the supervisor works with. -/
def normalizeAgentOutput (render : ℚ → String) (agentName : String) :
    Option AgentOutput → AgentOutput
  | none =>
      { fields := Dict.empty.update [("agent", .str agentName), ("signal", .str "NEUTRAL"),
          ("confidence", numeral render 0)]
        reasoning := some (.scalar (.str ""))
        reasons := some (.list [])
        evidence := some [] }
  | some output =>
      let named :=
        if output.fields.contains "agent" then output.fields
        else output.fields.set "agent" (.str agentName)
      let signal := Text.upperWord
        ((AgentSynthesizer.rawSignal output).orElse (.str "NEUTRAL")).text
      let confidence := Quantity.clamp
        (Quantity.ofValElse ((AgentSynthesizer.rawConfidence output).orElse (.int 0)) 0)
      let reasons :=
        match output.reasoning.getD (output.reasons.getD (.scalar (.str ""))) with
        | .list reasons => reasons
        | .scalar value =>
            let text := (value.orElse (.str "")).text
            if text = "" then [] else [text]
      { fields := (named.set "signal" (.str signal)).set "confidence" (numeral render confidence)
        reasoning := some (.scalar (.str ("; ".intercalate reasons)))
        reasons := some (.list reasons)
        evidence := some (output.evidence.getD []) }

/-- The result of an agent that gave none. -/
def silent (render : ℚ → String) (agentName reason : String) : AgentOutput where
  fields := Dict.empty.update [("agent", .str agentName), ("signal", .str "NEUTRAL"),
    ("confidence", numeral render 0)]
  reasoning := none
  reasons := some (.list [reason])
  evidence := none

/-- The signal of a result. -/
def signalOf (result : AgentOutput) : String :=
  (AgentSynthesizer.rawSignal result).text

/-- The confidence of a result. -/
def confidenceOf (result : AgentOutput) : ℚ :=
  (AgentSynthesizer.rawConfidence result).number?.getD 0

end Supervisor

/-! ## Targets -/

namespace SupervisorAgent

open Supervisor

variable {χ : Type u}

/-- The pattern without the underscores at its end. -/
def rstrip (pattern : String) : List Char :=
  (pattern.toList.reverse.dropWhile (· = '_')).reverse

/-- The agents that the routing table names for an event. -/
def matchRoutes (supervisor : SupervisorAgent χ) (eventType : String) : List String :=
  let matched := supervisor.routingTable.entries.flatMap fun route =>
    if (rstrip route.1).isPrefixOf eventType.toList ∨ eventType = route.1 then route.2 else []
  let unique := matched.foldl
    (fun seen name => if name ∈ seen then seen else seen ++ [name]) []
  if unique = [] then ["technical_analyst"] else unique

def lookupAgent (supervisor : SupervisorAgent χ) (name : String) : Option (BaseAgent χ) :=
  supervisor.registry.bind fun registry => registry.get name

def priorityOf (supervisor : SupervisorAgent χ) (name : String) : Nat :=
  ((supervisor.lookupAgent name).map BaseAgent.priority |>.getD .normal).value

/-- The names by descending priority; names of one priority keep their order. -/
def sortAgentsByPriority (supervisor : SupervisorAgent χ) (names : List String) : List String :=
  names.mergeSort fun first second =>
    supervisor.priorityOf second ≤ supervisor.priorityOf first

/-- The names without those of agents that do not handle the event. -/
def filterAgents (supervisor : SupervisorAgent χ) (names : List String)
    (context : SupervisorContext χ) : List String :=
  names.filter fun name =>
    match supervisor.lookupAgent name with
    | none => true
    | some agent => agent.canHandle context.eventType context.data

def applyPolicy (supervisor : SupervisorAgent χ) (names : List String) : List String :=
  if supervisor.routingPolicy = "first_match" then names.take 1
  else if supervisor.routingPolicy = "all_match" then names
  else if supervisor.routingPolicy = "priority_based" then supervisor.sortAgentsByPriority names
  else names

/-- The registered leads that handle the event. -/
def leadNames (supervisor : SupervisorAgent χ) (context : SupervisorContext χ) : List String :=
  match supervisor.registry with
  | none => []
  | some registry =>
      ((registry.getByType "department_lead").filter fun agent =>
        agent.canHandle context.eventType context.data).map BaseAgent.name

/-- The agents that an event concerns: the given ones or the registered leads, and else those
of the routing table. -/
def candidates (supervisor : SupervisorAgent χ) (context : SupervisorContext χ) : List String :=
  if context.agents ≠ [] then
    let leads := (context.agents.filter fun agent =>
      agent.agentType = "department_lead").map BaseAgent.name
    if leads ≠ [] then leads else context.agents.map BaseAgent.name
  else
    let leads := supervisor.leadNames context
    if leads ≠ [] then leads else supervisor.matchRoutes context.eventType

/-- The agents that are asked, in their order. -/
def targets (supervisor : SupervisorAgent χ) (context : SupervisorContext χ) : List String :=
  supervisor.applyPolicy
    (supervisor.filterAgents (supervisor.sortAgentsByPriority (supervisor.candidates context))
      context)

/-- The supervisor at the start of an analysis. -/
def prepare (supervisor : SupervisorAgent χ) (context : SupervisorContext χ) :
    SupervisorAgent χ :=
  { supervisor with
    tokenUsed := if context.resetBudget then 0 else supervisor.tokenUsed
    registry := context.registry.getD supervisor.registry }

/-! ## Asking the agents -/

/-- The tokens that an agent may use when the context does not say. -/
def DEFAULT_TOKEN_ESTIMATE : Nat := 200

def estimateOf (context : SupervisorContext χ) (name : String) : Nat :=
  (context.tokenEstimates.get name).getD DEFAULT_TOKEN_ESTIMATE

/-- The agent of a name: a given one before a registered one. -/
def agentOf (supervisor : SupervisorAgent χ) (context : SupervisorContext χ) (name : String) :
    Option (BaseAgent χ) :=
  (context.agents.find? fun agent => agent.name = name).or (supervisor.lookupAgent name)

/-- The result of an agent within the budget. -/
def resultOf (supervisor : SupervisorAgent χ) (render : ℚ → String)
    (context : SupervisorContext χ) (name : String) : AgentOutput :=
  match supervisor.agentOf context name with
  | none => silent render name ("Agent '" ++ name ++ "' not registered")
  | some agent =>
      match agent.analyze context.data with
      | .raised error => silent render name ("Error running agent: " ++ error)
      | .shapeless => normalizeAgentOutput render name none
      | .output record => normalizeAgentOutput render name (some record)

/-- Whether an agent can run within the budget, and the tokens that are used then. -/
def checkTokenBudget (supervisor : SupervisorAgent χ) (estimate : Nat) :
    Bool × SupervisorAgent χ :=
  if supervisor.tokenBudget < supervisor.tokenUsed + estimate then (false, supervisor)
  else (true, { supervisor with tokenUsed := supervisor.tokenUsed + estimate })

end SupervisorAgent

/-- What the answers of the agents come to. -/
structure Dispatched where
  results : Dict String AgentOutput
  summaryReasons : List String
  overallSignal : String
  overallConfidence : ℚ
  skipped : List String

namespace Dispatched

open Supervisor

def start : Dispatched where
  results := .empty
  summaryReasons := []
  overallSignal := "NEUTRAL"
  overallConfidence := 0
  skipped := []

/-- Take over the answer of an agent, or that it was skipped. -/
def emit (state : Dispatched) (name : String) (result : AgentOutput) (within : Bool) :
    Dispatched :=
  if within then
    let leading := state.overallConfidence < confidenceOf result
    { state with
      results := state.results.set name result
      summaryReasons := state.summaryReasons ++
        [name ++ ": " ++ signalOf result ++ " (conf=" ++ Text.fixed 2 (confidenceOf result) ++ ")"]
      overallSignal := if leading then signalOf result else state.overallSignal
      overallConfidence := if leading then confidenceOf result else state.overallConfidence }
  else { state with skipped := state.skipped ++ [name] }

end Dispatched

/-! ## The pool -/

/-- How far the thread of an agent has come. -/
inductive WorkerPhase
  | queued
  | passed
  | loaded (used : Nat)
  | charged
  | refused
deriving DecidableEq

/-- The used tokens and the threads. -/
structure Pool where
  tokenUsed : Nat
  phase : String → WorkerPhase

namespace Pool

/-- The next step of a thread: the check of the budget, the reading of the used tokens, and
the writing of their sum with the estimate. -/
def step (budget : Nat) (estimate : String → Nat) (pool : Pool) (name : String) : Pool :=
  match pool.phase name with
  | .queued =>
      let phase := if budget < pool.tokenUsed + estimate name then .refused else .passed
      { pool with phase := Function.update pool.phase name phase }
  | .passed => { pool with phase := Function.update pool.phase name (.loaded pool.tokenUsed) }
  | .loaded used =>
      { tokenUsed := used + estimate name, phase := Function.update pool.phase name .charged }
  | .charged | .refused => pool

/-- The pool after the steps of a schedule. -/
def run (budget : Nat) (estimate : String → Nat) (schedule : List String) (pool : Pool) : Pool :=
  schedule.foldl (step budget estimate) pool

/-- The pool before any thread has run. -/
def start (used : Nat) : Pool :=
  ⟨used, fun _ => .queued⟩

/-- Whether the thread of an agent has come to its end. -/
def Finished (pool : Pool) (name : String) : Prop :=
  pool.phase name = .charged ∨ pool.phase name = .refused

end Pool

/-! ## The analysis -/

/-- What the supervisor answers. -/
structure SupervisorReport where
  overallSignal : String
  overallConfidence : ℚ
  results : Dict String AgentOutput
  summary : String
  skippedAgents : List String
  decision : String
  confidence : ℚ
  signalId : String
  tokenUsed : Nat
  synthesis : Option SynthesisResult
  proposal : Option Record

namespace SupervisorAgent

open Supervisor

variable {χ : Type u}

/-- Ask the agents one after the other. -/
def askAll (render : ℚ → String) (context : SupervisorContext χ) :
    List String → SupervisorAgent χ × Dispatched → SupervisorAgent χ × Dispatched
  | [], reached => reached
  | name :: rest, (supervisor, state) =>
      let checked := supervisor.checkTokenBudget (estimateOf context name)
      askAll render context rest
        (checked.2, state.emit name (supervisor.resultOf render context name) checked.1)

/-- Ask the agents on the pool, and take their answers over in the order of the targets. -/
def askPool (supervisor : SupervisorAgent χ) (render : ℚ → String)
    (context : SupervisorContext χ) (schedule names : List String) :
    SupervisorAgent χ × Dispatched :=
  let pool := Pool.run supervisor.tokenBudget (estimateOf context) schedule
    (Pool.start supervisor.tokenUsed)
  ({ supervisor with tokenUsed := pool.tokenUsed },
    names.foldl (fun state name => state.emit name (supervisor.resultOf render context name)
      (pool.phase name = .charged)) Dispatched.start)

/-- Ask the agents, on the pool where more than one may run at a time. -/
def ask (supervisor : SupervisorAgent χ) (render : ℚ → String) (context : SupervisorContext χ)
    (schedule : List String) : SupervisorAgent χ × Dispatched :=
  let names := supervisor.targets context
  if supervisor.maxConcurrency ≤ 1 then
    askAll render context names (supervisor, Dispatched.start)
  else supervisor.askPool render context schedule names

/-- Whether a result flags an unresolved conflict. -/
def hasUnresolvedConflict (results : Dict String AgentOutput) : Bool :=
  results.values.any AgentSynthesizer.unresolvedConflict

/-- The event that the synthesizer is given, with its symbol when it has one. -/
def eventOf (context : SupervisorContext χ) : Option String :=
  match context.event with
  | none => some (context.symbol.getD "UNKNOWN")
  | some none => context.symbol.filter (· ≠ "")
  | some (some symbol) => some symbol

def ofQuantity (render : ℚ → String) : Quantity → Val
  | .finite value => numeral render value
  | .infinite negative => .str (if negative then "-inf" else "inf")
  | .undefined => .str "nan"

def ofLevel (render : ℚ → String) (level : Option ℚ) : Val :=
  (level.map (numeral render)).getD .none

/-- The first of the prices that is not zero, and else the last. -/
def entryPriceOf (context : SupervisorContext χ) : Option ℚ :=
  ((context.market.close.filter (· ≠ 0)).or (context.market.price.filter (· ≠ 0))).or
    context.entryPrice

/-- The proposal for the pipeline. -/
def proposalOf (render : ℚ → String) (context : SupervisorContext χ) (raw : TradeProposal) :
    Record :=
  Dict.empty.update
    [("symbol", .str (if raw.symbol = "" then context.symbol.getD "" else raw.symbol)),
      ("direction", .str raw.direction.text),
      ("confidence", ofQuantity render raw.confidence),
      ("reasoning", .str raw.reasoning),
      ("stop_loss", ofLevel render raw.targetSl),
      ("take_profit", ofLevel render raw.targetTp),
      ("target_sl", ofLevel render raw.targetSl),
      ("target_tp", ofLevel render raw.targetTp),
      ("entry_price", ofLevel render (entryPriceOf context)),
      ("requires_escalation", .bool raw.requiresEscalation)]

/-- The synthesis of the results, and the proposal for the pipeline: none unless the synthesis
comes to a direction and no result flags an unresolved conflict. -/
def synthesise (supervisor : SupervisorAgent χ) (render : ℚ → String)
    (context : SupervisorContext χ) (results : Dict String AgentOutput) :
    Option SynthesisResult × Option Record :=
  match supervisor.synthesizer.generateProposal (eventOf context) results
      supervisor.synthesizer.minConfidence (some context.market) with
  | .error _ => (none, none)
  | .ok synthesis =>
      match synthesis.proposal with
      | none => (some synthesis, none)
      | some raw =>
          if raw.direction = .hold then (some synthesis, none)
          else if hasUnresolvedConflict results then (some synthesis, none)
          else
            (some synthesis, some (proposalOf render context raw))

/-- What is recorded as the decision. -/
def decisionOf (synthesis : Option SynthesisResult) : Option Record → String
  | some proposal =>
      Text.upper (((proposal.get "direction").getD .none).orElse (.str "WAIT")).text
  | none => if (synthesis.bind SynthesisResult.proposal).isSome then "WAIT" else "NO_TRADE"

/-- What the supervisor answers when the agents have been asked. -/
def reportOf (supervisor : SupervisorAgent χ) (render : ℚ → String)
    (context : SupervisorContext χ) (state : Dispatched) : SupervisorReport :=
  let made := supervisor.synthesise render context state.results
  { overallSignal := state.overallSignal
    overallConfidence := state.overallConfidence
    results := state.results
    summary := "; ".intercalate state.summaryReasons
    skippedAgents := state.skipped
    decision := decisionOf made.1 made.2
    confidence := ((made.2.bind fun proposal => proposal.get "confidence").bind
      Val.number?).getD state.overallConfidence
    signalId := (context.signalId.orElse
      (context.eventId.orElse (.str context.canonicalSignalId))).text
    tokenUsed := supervisor.tokenUsed
    synthesis := made.1
    proposal := made.2 }

/-- One analysis: the supervisor afterwards, and what it answers. -/
def analyze (supervisor : SupervisorAgent χ) (render : ℚ → String)
    (context : SupervisorContext χ) (schedule : List String) :
    SupervisorAgent χ × SupervisorReport :=
  let asked := (supervisor.prepare context).ask render context schedule
  (asked.1, asked.1.reportOf render context asked.2)

/-! ## Which agents are asked -/

theorem nodup_unique (matched seen : List String) (distinct : seen.Nodup) :
    (matched.foldl (fun seen name => if name ∈ seen then seen else seen ++ [name]) seen).Nodup := by
  induction matched generalizing seen with
  | nil => exact distinct
  | cons name rest ih =>
      rw [List.foldl_cons]
      apply ih
      split_ifs with known
      · exact distinct
      · exact List.concat_eq_append ▸ distinct.concat known

theorem nodup_matchRoutes (supervisor : SupervisorAgent χ) (eventType : String) :
    (supervisor.matchRoutes eventType).Nodup := by
  unfold matchRoutes
  dsimp only
  split_ifs
  · exact List.nodup_singleton _
  · exact nodup_unique _ [] List.nodup_nil

theorem nodup_leadNames (supervisor : SupervisorAgent χ) (context : SupervisorContext χ) :
    (supervisor.leadNames context).Nodup := by
  unfold leadNames
  cases supervisor.registry with
  | none => exact List.nodup_nil
  | some registry =>
      exact registry.distinct.sublist
        ((List.filter_sublist.trans List.filter_sublist).map BaseAgent.name)

theorem nodup_candidates (supervisor : SupervisorAgent χ) (context : SupervisorContext χ) :
    (supervisor.candidates context).Nodup := by
  unfold candidates
  dsimp only
  split_ifs
  · exact context.distinct.sublist (List.filter_sublist.map BaseAgent.name)
  · exact context.distinct
  · exact supervisor.nodup_leadNames context
  · exact supervisor.nodup_matchRoutes context.eventType

theorem sortAgentsByPriority_perm (supervisor : SupervisorAgent χ) (names : List String) :
    (supervisor.sortAgentsByPriority names).Perm names :=
  List.mergeSort_perm names _

/-- No agent is asked twice. -/
theorem nodup_targets (supervisor : SupervisorAgent χ) (context : SupervisorContext χ) :
    (supervisor.targets context).Nodup := by
  have sorted : ∀ {names : List String}, names.Nodup →
      (supervisor.sortAgentsByPriority names).Nodup :=
    fun distinct => (supervisor.sortAgentsByPriority_perm _).nodup_iff.mpr distinct
  have accepted := (sorted (supervisor.nodup_candidates context)).sublist
    (List.filter_sublist (p := fun name =>
      match supervisor.lookupAgent name with
      | none => true
      | some agent => agent.canHandle context.eventType context.data))
  unfold targets applyPolicy
  split_ifs
  · exact accepted.sublist (List.take_sublist 1 _)
  · exact accepted
  · exact sorted accepted
  · exact accepted

namespace Sample

/-- An agent that always answers with one signal. -/
def specialist (name signal : String) : BaseAgent Unit where
  name := name
  agentType := "specialist"
  priority := .normal
  canHandle _ _ := true
  analyze _ := .output
    ⟨Dict.empty.update [("signal", .str signal), ("confidence", .num ⟨4 / 5, "0.8"⟩)],
      none, none, none⟩

/-- A supervisor whose budget is enough for some agents. -/
def desk (maxConcurrency : Int) (tokenBudget : Nat) : SupervisorAgent Unit where
  routingTable := .empty
  maxConcurrency := maxConcurrency
  tokenBudget := tokenBudget
  tokenUsed := 0
  routingPolicy := "all_match"
  registry := none
  synthesizer := .default

/-- A breakout on which two agents are asked. -/
def breakout : SupervisorContext Unit where
  eventType := "BREAKOUT"
  agents := [specialist "structure" "BULLISH", specialist "momentum" "BEARISH"]
  distinct := by decide
  resetBudget := true
  registry := none
  tokenEstimates := .empty
  event := none
  symbol := some "EURUSD"
  market := ⟨none, none, none⟩
  entryPrice := none
  signalId := .none
  eventId := .none
  canonicalSignalId := "sig_0"
  data := ()

theorem targets_breakout (maxConcurrency : Int) (tokenBudget : Nat) :
    ((desk maxConcurrency tokenBudget).prepare breakout).targets breakout =
      ["structure", "momentum"] := by
  have sorted : ((desk maxConcurrency tokenBudget).prepare breakout).sortAgentsByPriority
      ["structure", "momentum"] = ["structure", "momentum"] :=
    List.mergeSort_of_pairwise (by simp; rfl)
  have given : ((desk maxConcurrency tokenBudget).prepare breakout).candidates breakout =
      ["structure", "momentum"] :=
    rfl
  unfold targets
  rw [given, sorted]
  rfl

end Sample

/-! ## The budget of agents that are asked one after the other -/

/-- The tokens of the agents in a list that are not skipped. -/
def charged (context : SupervisorContext χ) (skipped names : List String) : Nat :=
  ((names.filter (· ∉ skipped)).map (estimateOf context)).sum

theorem charged_cons (context : SupervisorContext χ) (skipped : List String) (name : String)
    (rest : List String) :
    charged context skipped (name :: rest) =
      (if name ∈ skipped then 0 else estimateOf context name) + charged context skipped rest := by
  unfold charged
  by_cases member : name ∈ skipped <;> simp [member]

theorem charged_cons_skipped (context : SupervisorContext χ) {first : String}
    (skipped : List String) {names : List String} (new : first ∉ names) :
    charged context (first :: skipped) names = charged context skipped names := by
  have same : names.filter (· ∉ first :: skipped) = names.filter (· ∉ skipped) := by
    apply List.filter_congr
    intro name member
    have other : name ≠ first := fun equal => new (equal ▸ member)
    simp [other]
  rw [charged, same, charged]

/-- Take over the answers of some agents, without those that are skipped. -/
def emitAll (supervisor : SupervisorAgent χ) (render : ℚ → String)
    (context : SupervisorContext χ) (skipped names : List String) (state : Dispatched) :
    Dispatched :=
  names.foldl (fun state name =>
    state.emit name (supervisor.resultOf render context name) (name ∉ skipped)) state

section Emitting

variable (supervisor : SupervisorAgent χ) (render : ℚ → String) (context : SupervisorContext χ)

theorem emitAll_cons_skipped {first : String} (skipped : List String) {names : List String} (new : first ∉ names) (state : Dispatched) :
    supervisor.emitAll render context (first :: skipped) names state =
      supervisor.emitAll render context skipped names state := by
  apply List.foldl_ext
  intro state name member
  have other : name ≠ first := fun equal => new (equal ▸ member)
  simp [other]

theorem emitAll_cons (skipped : List String) (name : String) (rest : List String)
    (state : Dispatched) :
    supervisor.emitAll render context skipped (name :: rest) state =
      supervisor.emitAll render context skipped rest
        (state.emit name (supervisor.resultOf render context name) (name ∉ skipped)) :=
  rfl

theorem emitAll_skipped (skipped names : List String) (state : Dispatched) :
    (supervisor.emitAll render context skipped names state).skipped =
      state.skipped ++ names.filter (· ∈ skipped) := by
  induction names generalizing state with
  | nil => exact (List.append_nil _).symm
  | cons name rest ih =>
      rw [emitAll_cons, ih]
      by_cases member : name ∈ skipped <;> simp [Dispatched.emit, member]

/-- The results stand in the order of the targets. -/
theorem emitAll_results (skipped : List String) {names : List String}
    (distinct : names.Nodup) {state : Dispatched}
    (new : ∀ name ∈ names, name ∉ state.results.keys) :
    (supervisor.emitAll render context skipped names state).results.entries =
      state.results.entries ++ (names.filter (· ∉ skipped)).map fun name =>
        (name, supervisor.resultOf render context name) := by
  induction names generalizing state with
  | nil => exact (List.append_nil _).symm
  | cons name rest ih =>
      rcases List.nodup_cons.mp distinct with ⟨first, distinct⟩
      rw [emitAll_cons]
      have unseen : name ∉ state.results.keys := new name List.mem_cons_self
      by_cases member : name ∈ skipped
      · rw [ih distinct]
        · simp [Dispatched.emit, member]
        · intro other within
          simpa [Dispatched.emit, member] using new other (List.mem_cons_of_mem name within)
      · have added : (state.results.set name (supervisor.resultOf render context name)).entries =
            state.results.entries ++ [(name, supervisor.resultOf render context name)] :=
          Entries.set_of_notMem unseen _
        rw [ih distinct]
        · simp [Dispatched.emit, member, added]
        · intro other within
          have apart : other ≠ name := fun equal => first (equal ▸ within)
          simp [Dispatched.emit, member, Dict.mem_keys_set, apart,
            new other (List.mem_cons_of_mem name within)]

theorem emitAll_start_results (skipped : List String) {names : List String}
    (distinct : names.Nodup) :
    (supervisor.emitAll render context skipped names Dispatched.start).results.entries =
      (names.filter (· ∉ skipped)).map fun name =>
        (name, supervisor.resultOf render context name) :=
  supervisor.emitAll_results render context skipped distinct fun _ _ => List.not_mem_nil

end Emitting

/-- Agents that are asked one after the other: those are skipped whose estimates do not fit
into what the earlier ones leave. -/
structure SkipsBeyond (supervisor : SupervisorAgent χ) (context : SupervisorContext χ)
    (names skipped : List String) : Prop where
  within : skipped ⊆ names
  exact : ∀ before name after, names = before ++ name :: after →
    (name ∈ skipped ↔ supervisor.tokenBudget <
      supervisor.tokenUsed + charged context skipped before + estimateOf context name)

theorem SkipsBeyond.cons_fits {supervisor : SupervisorAgent χ} {context : SupervisorContext χ}
    {first : String} {rest skipped : List String} (new : first ∉ rest)
    (fits : supervisor.tokenUsed + estimateOf context first ≤ supervisor.tokenBudget)
    (later : SkipsBeyond { supervisor with
      tokenUsed := supervisor.tokenUsed + estimateOf context first } context rest skipped) :
    SkipsBeyond supervisor context (first :: rest) skipped := by
  have kept : first ∉ skipped := fun member => new (later.within member)
  refine ⟨fun name member => List.mem_cons_of_mem first (later.within member), ?_⟩
  intro before name after split
  cases before with
  | nil =>
      rcases List.cons.inj split with ⟨rfl, rfl⟩
      refine iff_of_false kept ?_
      simpa [charged] using fits
  | cons other before =>
      rcases List.cons.inj split with ⟨rfl, onwards⟩
      rw [later.exact before name after onwards, charged_cons, if_neg kept, Nat.add_assoc,
        Nat.add_assoc, Nat.add_assoc, Nat.add_assoc]

theorem SkipsBeyond.cons_exceeds {supervisor : SupervisorAgent χ}
    {context : SupervisorContext χ} {first : String} {rest skipped : List String}
    (new : first ∉ rest)
    (exceeds : supervisor.tokenBudget < supervisor.tokenUsed + estimateOf context first)
    (later : SkipsBeyond supervisor context rest skipped) :
    SkipsBeyond supervisor context (first :: rest) (first :: skipped) := by
  refine ⟨List.cons_subset_cons first later.within, ?_⟩
  intro before name after split
  cases before with
  | nil =>
      rcases List.cons.inj split with ⟨rfl, rfl⟩
      refine iff_of_true List.mem_cons_self ?_
      simpa [charged] using exceeds
  | cons other before =>
      rcases List.cons.inj split with ⟨rfl, onwards⟩
      subst onwards
      have apart : first ∉ before := fun member => new (List.mem_append_left _ member)
      have other : name ≠ first := fun equal => new (equal ▸ by simp)
      rw [List.mem_cons, or_iff_right other, later.exact before name after rfl, charged_cons,
        if_pos List.mem_cons_self, Nat.zero_add, charged_cons_skipped context skipped apart]

/-- What asking some agents one after the other comes to. -/
theorem askAll_eq (render : ℚ → String) (context : SupervisorContext χ) {names : List String}
    (distinct : names.Nodup) (supervisor : SupervisorAgent χ) (state : Dispatched) :
    ∃ skipped, SkipsBeyond supervisor context names skipped ∧
      askAll render context names (supervisor, state) =
        ({ supervisor with
            tokenUsed := supervisor.tokenUsed + charged context skipped names },
          supervisor.emitAll render context skipped names state) ∧
      (supervisor.tokenUsed ≤ supervisor.tokenBudget →
        supervisor.tokenUsed + charged context skipped names ≤ supervisor.tokenBudget) := by
  induction names generalizing supervisor state with
  | nil => exact ⟨[], ⟨List.Subset.refl [], by simp⟩, rfl, fun within => within⟩
  | cons first rest ih =>
      rcases List.nodup_cons.mp distinct with ⟨new, distinct⟩
      by_cases exceeds :
          supervisor.tokenBudget < supervisor.tokenUsed + estimateOf context first
      · have refused : supervisor.checkTokenBudget (estimateOf context first) =
            (false, supervisor) := if_pos exceeds
        rcases ih distinct supervisor
          (state.emit first (supervisor.resultOf render context first) false) with
          ⟨skipped, skips, asked, bounded⟩
        refine ⟨first :: skipped, skips.cons_exceeds new exceeds, ?_, ?_⟩
        · rw [askAll, refused, asked, charged_cons, if_pos List.mem_cons_self, Nat.zero_add,
            charged_cons_skipped context skipped new, ← emitAll_cons_skipped _ _ _ skipped new]
          simp [emitAll]
        · rw [charged_cons, if_pos List.mem_cons_self, Nat.zero_add,
            charged_cons_skipped context skipped new]
          exact bounded
      · have passed : supervisor.checkTokenBudget (estimateOf context first) =
            (true, { supervisor with
              tokenUsed := supervisor.tokenUsed + estimateOf context first }) := if_neg exceeds
        have fits := Nat.le_of_not_lt exceeds
        rcases ih distinct { supervisor with
            tokenUsed := supervisor.tokenUsed + estimateOf context first }
          (state.emit first (supervisor.resultOf render context first) true) with
          ⟨skipped, skips, asked, bounded⟩
        have kept : first ∉ skipped := fun member => new (skips.within member)
        refine ⟨skipped, skips.cons_fits new fits, ?_, ?_⟩
        · rw [askAll, passed, asked, charged_cons, if_neg kept, Nat.add_assoc]
          simp [emitAll, kept]
          rfl
        · rw [charged_cons, if_neg kept, ← Nat.add_assoc]
          exact fun _ => bounded fits

theorem charged_congr (context : SupervisorContext χ) {skipped other names : List String}
    (same : ∀ name ∈ names, (name ∈ skipped ↔ name ∈ other)) :
    charged context skipped names = charged context other names := by
  unfold charged
  congr 2
  apply List.filter_congr
  intro name member
  simp [same name member]

theorem SkipsBeyond.congr {supervisor : SupervisorAgent χ} {context : SupervisorContext χ}
    {names skipped other : List String} (skips : SkipsBeyond supervisor context names skipped)
    (same : ∀ name, name ∈ skipped ↔ name ∈ other) :
    SkipsBeyond supervisor context names other := by
  refine ⟨fun name member => skips.within ((same name).mpr member), ?_⟩
  intro before name after split
  rw [← same, skips.exact before name after split, charged_congr context fun name _ => same name]

/-- Agents that are asked one after the other are skipped exactly when their estimates do not
fit into what the earlier ones leave, so that the used tokens are those of the agents that
answer and never exceed the budget. -/
theorem sequential_within_budget (supervisor : SupervisorAgent χ) (render : ℚ → String)
    (context : SupervisorContext χ) (schedule : List String)
    (alone : supervisor.maxConcurrency ≤ 1)
    (within : (supervisor.prepare context).tokenUsed ≤ supervisor.tokenBudget) :
    let prepared := supervisor.prepare context
    let names := prepared.targets context
    let report := (supervisor.analyze render context schedule).2
    SkipsBeyond prepared context names report.skippedAgents ∧
      report.results.keys = names.filter (· ∉ report.skippedAgents) ∧
      report.tokenUsed = prepared.tokenUsed + charged context report.skippedAgents names ∧
      report.tokenUsed ≤ supervisor.tokenBudget := by
  intro prepared names report
  have distinct : names.Nodup := prepared.nodup_targets context
  rcases askAll_eq render context distinct prepared Dispatched.start with
    ⟨skipped, skips, asked, bounded⟩
  have reached : prepared.ask render context schedule =
      ({ prepared with tokenUsed := prepared.tokenUsed + charged context skipped names },
        prepared.emitAll render context skipped names Dispatched.start) :=
    (if_pos alone).trans asked
  have listed : report.skippedAgents = names.filter (· ∈ skipped) := by
    change (prepared.ask render context schedule).2.skipped = _
    rw [reached, emitAll_skipped]
    rfl
  have same : ∀ name, name ∈ skipped ↔ name ∈ report.skippedAgents := by
    intro name
    simp only [listed, List.mem_filter, decide_eq_true_eq]
    exact ⟨fun member => ⟨skips.within member, member⟩, And.right⟩
  have used : report.tokenUsed =
      prepared.tokenUsed + charged context report.skippedAgents names := by
    change (prepared.ask render context schedule).1.tokenUsed = _
    rw [reached, charged_congr context fun name _ => same name]
  refine ⟨skips.congr same, ?_, used, ?_⟩
  · change (prepared.ask render context schedule).2.results.entries.map Prod.fst = _
    rw [reached, emitAll_start_results _ _ _ _ distinct, List.map_map]
    have kept : names.filter (· ∉ skipped) = names.filter (· ∉ report.skippedAgents) := by
      apply List.filter_congr
      intro name _
      simp [same name]
    rw [kept]
    exact List.map_id _
  · rw [used, ← charged_congr context fun name _ => same name]
    exact bounded within

/-- The second of two agents does not fit into a budget of three hundred tokens. -/
theorem sequential_within_budget_breakout :
    let prepared := (Sample.desk 1 300).prepare Sample.breakout
    let names := prepared.targets Sample.breakout
    let report := ((Sample.desk 1 300).analyze (fun _ => "") Sample.breakout []).2
    SkipsBeyond prepared Sample.breakout names report.skippedAgents ∧
      report.results.keys = names.filter (· ∉ report.skippedAgents) ∧
      report.tokenUsed = prepared.tokenUsed + charged Sample.breakout report.skippedAgents names ∧
      report.tokenUsed ≤ 300 :=
  sequential_within_budget (Sample.desk 1 300) (fun _ => "") Sample.breakout [] (by decide)
    (by decide)

end SupervisorAgent

/-! ## The budget on the pool -/

namespace Pool

/-- The tokens of the agents whose threads have written their sum. -/
def spent (estimate : String → Nat) (phase : String → WorkerPhase) (names : List String) : Nat :=
  (names.map fun name => if phase name = .charged then estimate name else 0).sum

theorem spent_update_of_ne (estimate : String → Nat) {phase : String → WorkerPhase}
    {name : String} {reached : WorkerPhase} (before : phase name ≠ .charged)
    (after : reached ≠ .charged) (names : List String) :
    spent estimate (Function.update phase name reached) names = spent estimate phase names := by
  unfold spent
  congr 2
  funext other
  by_cases same : other = name
  · subst same
    simp [before, after]
  · simp [same]

theorem spent_charge (estimate : String → Nat) {phase : String → WorkerPhase}
    {name : String} (before : phase name ≠ .charged) {names : List String}
    (distinct : names.Nodup) (member : name ∈ names) :
    spent estimate (Function.update phase name .charged) names =
      spent estimate phase names + estimate name := by
  have others : ∀ other ∈ names.erase name,
      (if Function.update phase name .charged other = .charged then estimate other else 0) =
        if phase other = .charged then estimate other else 0 := by
    intro other within
    have apart : other ≠ name := fun equal =>
      distinct.not_mem_erase (equal ▸ within)
    simp [apart]
  unfold spent
  rw [← List.sum_map_erase _ member, ← List.sum_map_erase (l := names) _ member,
    List.map_congr_left others]
  simp [before]
  omega

theorem spent_le (estimate : String → Nat) (phase : String → WorkerPhase) (names : List String) :
    spent estimate phase names ≤ (names.map estimate).sum := by
  apply List.sum_le_sum
  intro other _
  split_ifs
  · exact le_refl _
  · exact Nat.zero_le _

theorem spent_add_le (estimate : String → Nat) {phase : String → WorkerPhase}
    {name : String} (before : phase name ≠ .charged) {names : List String}
    (distinct : names.Nodup) (member : name ∈ names) :
    spent estimate phase names + estimate name ≤ (names.map estimate).sum := by
  rw [← spent_charge estimate before distinct member]
  exact spent_le estimate _ names

/-- Threads whose estimates fit into the budget together: the count of used tokens, and what
a thread has read of it, is at most what was charged, and no thread is refused. -/
structure Fits (estimate : String → Nat) (used : Nat) (names : List String) (pool : Pool) :
    Prop where
  tokens : pool.tokenUsed ≤ used + spent estimate pool.phase names
  loaded : ∀ name value, pool.phase name = .loaded value →
    value ≤ used + spent estimate pool.phase names
  passed : ∀ name, pool.phase name ≠ .refused

section Fits

variable {budget used : Nat} {estimate : String → Nat} {names : List String} {pool : Pool}

theorem Fits.move (fits : Fits estimate used names pool) {name : String}
    {reached : WorkerPhase} (before : pool.phase name ≠ .charged) (after : reached ≠ .charged)
    (passes : reached ≠ .refused)
    (loads : ∀ value, reached = .loaded value → value = pool.tokenUsed) :
    Fits estimate used names ⟨pool.tokenUsed, Function.update pool.phase name reached⟩ := by
  have same := spent_update_of_ne estimate before after names
  refine ⟨?_, ?_, ?_⟩
  · rw [same]
    exact fits.tokens
  · intro other value there
    rw [same]
    by_cases here : other = name
    · subst here
      rw [loads value (by simpa using there)]
      exact fits.tokens
    · exact fits.loaded other value (by simpa [here] using there)
  · intro other
    by_cases here : other = name
    · subst here
      simpa using passes
    · simpa [here] using fits.passed other

/-- Every step of a thread keeps within what was charged. -/
theorem Fits.step (fits : Fits estimate used names pool) (distinct : names.Nodup)
    (room : used + (names.map estimate).sum ≤ budget) {name : String} (member : name ∈ names) :
    Fits estimate used names (pool.step budget estimate name) := by
  unfold Pool.step
  cases phase : pool.phase name with
  | queued =>
      have open_ : pool.phase name ≠ .charged := by simp [phase]
      have bound := spent_add_le estimate open_ distinct member
      have tokens := fits.tokens
      have small : ¬ budget < pool.tokenUsed + estimate name := by omega
      dsimp only
      rw [if_neg small]
      exact fits.move open_ (by simp) (by simp) (by simp)
  | passed =>
      have open_ : pool.phase name ≠ .charged := by simp [phase]
      exact fits.move open_ (by simp) (by simp) (by simp +contextual [eq_comm])
  | loaded value =>
      have open_ : pool.phase name ≠ .charged := by simp [phase]
      have grown := spent_charge estimate open_ distinct member
      have bound := fits.loaded name value phase
      refine ⟨?_, ?_, ?_⟩
      · dsimp only
        omega
      · intro other seen there
        by_cases here : other = name
        · subst here
          simp at there
        · simp only [Function.update_of_ne here] at there
          have earlier := fits.loaded other seen there
          dsimp only
          omega
      · intro other
        by_cases here : other = name
        · subst here
          simp
        · simpa [here] using fits.passed other
  | charged => exact fits
  | refused => exact fits

/-- Whatever the schedule, no thread is refused when the estimates fit together. -/
theorem Fits.run (distinct : names.Nodup) (room : used + (names.map estimate).sum ≤ budget)
    {schedule : List String} (known : schedule ⊆ names) (fits : Fits estimate used names pool) :
    Fits estimate used names (Pool.run budget estimate schedule pool) := by
  induction schedule generalizing pool with
  | nil => exact fits
  | cons name rest ih =>
      rcases List.cons_subset.mp known with ⟨member, known⟩
      exact ih known (fits.step distinct room member)

theorem Fits.start (estimate : String → Nat) (used : Nat) (names : List String) :
    Fits estimate used names (Pool.start used) :=
  ⟨Nat.le_add_right _ _, by simp [Pool.start], by simp [Pool.start]⟩

end Fits

end Pool

namespace SupervisorAgent

variable {χ : Type u}

theorem charged_le (context : SupervisorContext χ) (skipped names : List String) :
    charged context skipped names ≤ (names.map (estimateOf context)).sum :=
  (List.filter_sublist.map (estimateOf context)).sum_le_sum fun _ _ => Nat.zero_le _

/-- Agents whose estimates fit into the budget together are all asked. -/
theorem askAll_of_room (render : ℚ → String) (context : SupervisorContext χ)
    {names : List String} (distinct : names.Nodup) (supervisor : SupervisorAgent χ)
    (state : Dispatched)
    (room : supervisor.tokenUsed + (names.map (estimateOf context)).sum ≤
      supervisor.tokenBudget) :
    askAll render context names (supervisor, state) =
      ({ supervisor with
          tokenUsed := supervisor.tokenUsed + (names.map (estimateOf context)).sum },
        supervisor.emitAll render context [] names state) := by
  rcases askAll_eq render context distinct supervisor state with ⟨skipped, skips, asked, -⟩
  have nobody : skipped = [] := by
    apply List.eq_nil_iff_forall_not_mem.mpr
    intro name member
    rcases List.append_of_mem (skips.within member) with ⟨before, after, split⟩
    have beyond := (skips.exact before name after split).mp member
    have fewer := charged_le context skipped before
    rw [split, List.map_append, List.map_cons, List.sum_append, List.sum_cons] at room
    omega
  subst nobody
  rw [asked]
  simp [charged]

variable (supervisor : SupervisorAgent χ) (render : ℚ → String) (context : SupervisorContext χ)

theorem askPool_of_charged {schedule names : List String}
    (charged : ∀ name ∈ names, (Pool.run supervisor.tokenBudget (estimateOf context) schedule
      (Pool.start supervisor.tokenUsed)).phase name = .charged) :
    (supervisor.askPool render context schedule names).2 =
      supervisor.emitAll render context [] names Dispatched.start := by
  apply List.foldl_ext
  intro state name member
  simp [charged name member]

/-- What the supervisor answers when all of some agents have answered and some tokens are
used. -/
def reportOfAll (names : List String) (used : Nat) : SupervisorReport :=
  ({ supervisor with tokenUsed := used } : SupervisorAgent χ).reportOf render context
    (supervisor.emitAll render context [] names Dispatched.start)

theorem analyze_of_ask (schedule : List String) {used : Nat} {names : List String}
    (asked : (supervisor.prepare context).ask render context schedule =
      ({ supervisor.prepare context with tokenUsed := used },
        (supervisor.prepare context).emitAll render context [] names Dispatched.start)) :
    (supervisor.analyze render context schedule).2 =
      (supervisor.prepare context).reportOfAll render context names used := by
  rw [analyze, asked]
  rfl

/-- Asking agents one after the other whose estimates fit into the budget together. -/
theorem ask_of_room (schedule : List String) (single : supervisor.maxConcurrency ≤ 1)
    (room : supervisor.tokenUsed +
      ((supervisor.targets context).map (estimateOf context)).sum ≤ supervisor.tokenBudget) :
    supervisor.ask render context schedule =
      ({ supervisor with tokenUsed := supervisor.tokenUsed +
          ((supervisor.targets context).map (estimateOf context)).sum },
        supervisor.emitAll render context [] (supervisor.targets context) Dispatched.start) := by
  unfold ask
  dsimp only
  rw [if_pos single]
  exact askAll_of_room render context (supervisor.nodup_targets context) supervisor
    Dispatched.start room

/-- When the estimates of all agents fit into the budget together, it does not matter how the
threads of the pool interleave, even inside the bookkeeping of the tokens: the answer is the
one of asking the agents one after the other, nobody is skipped, and updates of the count that
are lost can only leave it lower. -/
theorem pool_eq_sequential {schedule : List String}
    (room : (supervisor.prepare context).tokenUsed +
      (((supervisor.prepare context).targets context).map (estimateOf context)).sum ≤
        supervisor.tokenBudget)
    (known : schedule ⊆ (supervisor.prepare context).targets context)
    (finished : ∀ name ∈ (supervisor.prepare context).targets context,
      (Pool.run supervisor.tokenBudget (estimateOf context) schedule
        (Pool.start (supervisor.prepare context).tokenUsed)).Finished name) :
    let report := (supervisor.analyze render context schedule).2
    let alone := (({ supervisor with maxConcurrency := 1 } : SupervisorAgent χ).analyze render
      context []).2
    report = { alone with tokenUsed := report.tokenUsed } ∧ report.skippedAgents = [] ∧
      report.tokenUsed ≤ alone.tokenUsed := by
  intro report alone
  let prepared := supervisor.prepare context
  let names := prepared.targets context
  have distinct : names.Nodup := prepared.nodup_targets context
  have single_eq : alone = prepared.reportOfAll render context names
      (prepared.tokenUsed + (names.map (estimateOf context)).sum) :=
    analyze_of_ask ({ supervisor with maxConcurrency := 1 } : SupervisorAgent χ) render context []
      (ask_of_room _ render context [] (le_refl (1 : Int)) room)
  have nobody : ∀ used, (prepared.reportOfAll render context names used).skippedAgents = [] := by
    intro used
    change (prepared.emitAll render context [] names Dispatched.start).skipped = []
    simp [emitAll_skipped, Dispatched.start]
  by_cases single : supervisor.maxConcurrency ≤ 1
  · have report_eq : report = prepared.reportOfAll render context names _ :=
      supervisor.analyze_of_ask render context schedule
        (ask_of_room _ render context schedule single room)
    rw [report_eq, single_eq]
    exact ⟨rfl, nobody _, le_refl _⟩
  · have fits := Pool.Fits.run distinct room known
      (Pool.Fits.start (estimateOf context) prepared.tokenUsed names)
    have charged : ∀ name ∈ names, (Pool.run prepared.tokenBudget (estimateOf context) schedule
        (Pool.start prepared.tokenUsed)).phase name = .charged :=
      fun name member => (finished name member).resolve_right (fits.passed name)
    have pooled := prepared.askPool_of_charged render context charged
    have report_eq : report = prepared.reportOfAll render context names _ :=
      supervisor.analyze_of_ask render context schedule
        ((if_neg single).trans (Prod.ext rfl pooled))
    rw [report_eq, single_eq]
    exact ⟨rfl, nobody _, fits.tokens.trans (Nat.add_le_add_left (Pool.spent_le _ _ _) _)⟩

/-- Two threads that both read the count before either of them has written its sum. -/
theorem pool_eq_sequential_breakout :
    let report := ((Sample.desk 3 8000).analyze (fun _ => "") Sample.breakout
      ["structure", "momentum", "structure", "momentum", "structure", "momentum"]).2
    let alone := ((Sample.desk 1 8000).analyze (fun _ => "") Sample.breakout []).2
    report = { alone with tokenUsed := report.tokenUsed } ∧ report.skippedAgents = [] ∧
      report.tokenUsed ≤ alone.tokenUsed := by
  have names := Sample.targets_breakout 3 8000
  refine pool_eq_sequential (Sample.desk 3 8000) (fun _ => "") Sample.breakout ?_ ?_ ?_
  · rw [names]
    decide
  · rw [names]
    decide
  · rw [names]
    unfold Pool.Finished
    decide

end SupervisorAgent

/-! ## Outputs that say nothing -/

namespace AgentSynthesizer

/-- The outputs that say something. -/
def loud (outputs : List AgentOutput) : List AgentOutput :=
  outputs.filter fun output => word output ≠ "NEUTRAL"

theorem loud_cons (output : AgentOutput) (rest : List AgentOutput) :
    loud (output :: rest) =
      if word output ≠ "NEUTRAL" then output :: loud rest else loud rest := by
  unfold loud
  rw [List.filter_cons]
  simp

theorem saying_loud (words : List String) (quiet : "NEUTRAL" ∉ words)
    (outputs : List AgentOutput) : saying words (loud outputs) = saying words outputs := by
  unfold saying loud
  rw [List.filter_filter]
  apply List.filter_congr
  intro output _
  by_cases neutral : word output = "NEUTRAL"
  · simp [neutral, quiet]
  · simp [neutral]

theorem flagged_loud (outputs : List AgentOutput) :
    Flagged (loud outputs) ↔ Flagged outputs := by
  unfold Flagged loud
  simp only [List.mem_filter, decide_eq_true_eq]
  constructor
  · rintro ⟨output, ⟨member, -⟩, sure⟩
    exact ⟨output, member, sure⟩
  · rintro ⟨output, member, directional, sure⟩
    refine ⟨output, ⟨member, ?_⟩, directional, sure⟩
    rcases directional with bull | bear
    · simp [bull]
    · simp [bear]

/-- Outputs that say nothing count neither for a direction nor for a conflict. -/
theorem consensus_loud (outputs : List AgentOutput) :
    consensus (loud outputs) = consensus outputs ∧
      leadingShare (loud outputs) = leadingShare outputs := by
  have bull := saying_loud bullishSignals (by decide) outputs
  have bear := saying_loud bearishSignals (by decide) outputs
  have severe : Severe (loud outputs) ↔ Severe outputs := by
    unfold Severe Clashing
    rw [flagged_loud, bull, bear]
  unfold consensus leadingShare weightOf
  rw [bull, bear, decide_eq_decide.mpr severe]
  exact ⟨rfl, rfl⟩

end AgentSynthesizer

namespace SupervisorAgent

variable {χ : Type u}

/-! ## What the synthesis makes of the answers -/

open Supervisor

variable (supervisor : SupervisorAgent χ) (render : ℚ → String) (context : SupervisorContext χ)

/-- The record that an agent answers, when it does. -/
def answerOf (supervisor : SupervisorAgent χ) (context : SupervisorContext χ) (name : String) :
    Option AgentOutput :=
  match supervisor.agentOf context name with
  | none => none
  | some agent =>
      match agent.analyze context.data with
      | .output record => some record
      | _ => none

/-- The normalised records of the agents that answer with one. -/
def answersOf (names : List String) : List AgentOutput :=
  names.filterMap fun name =>
    (supervisor.answerOf context name).map fun record =>
      normalizeAgentOutput render name (some record)

theorem numeric_resultOf (name : String) :
    AgentSynthesizer.Numeric (supervisor.resultOf render context name) := by
  have silence : ∀ reason, AgentSynthesizer.Numeric (silent render name reason) := fun _ => rfl
  have normal : ∀ record, AgentSynthesizer.Numeric (normalizeAgentOutput render name record) := by
    intro record
    cases record with
    | none => rfl
    | some record =>
        simp [AgentSynthesizer.Numeric, AgentSynthesizer.rawConfidence, normalizeAgentOutput,
          numeral, Val.number?]
  unfold resultOf
  cases supervisor.agentOf context name with
  | none => exact silence _
  | some agent =>
      cases replied : agent.analyze context.data with
      | raised error => simpa [replied] using silence _
      | shapeless => simpa [replied] using normal none
      | output record => simpa [replied] using normal (some record)

/-- An agent that does not answer with a record has a result that says nothing and flags
nothing. -/
theorem resultOf_cases (name : String) :
    (∃ record, supervisor.answerOf context name = some record ∧
        supervisor.resultOf render context name = normalizeAgentOutput render name (some record)) ∨
      (supervisor.answerOf context name = none ∧
        AgentSynthesizer.word (supervisor.resultOf render context name) = "NEUTRAL" ∧
        AgentSynthesizer.unresolvedConflict (supervisor.resultOf render context name) = false) := by
  have neutral : Text.upperWord "NEUTRAL" = "NEUTRAL" := by decide
  unfold answerOf resultOf
  cases supervisor.agentOf context name with
  | none => exact .inr ⟨rfl, neutral, rfl⟩
  | some agent =>
      cases replied : agent.analyze context.data with
      | raised error => simp only [replied]; exact .inr ⟨trivial, neutral, rfl⟩
      | shapeless => simp only [replied]; exact .inr ⟨trivial, neutral, rfl⟩
      | output record => exact .inl ⟨record, by simp [replied], by simp [replied]⟩

theorem answersOf_cons (name : String) (rest : List String) :
    supervisor.answersOf render context (name :: rest) =
      ((supervisor.answerOf context name).map fun record =>
        normalizeAgentOutput render name (some record)).toList ++
        supervisor.answersOf render context rest := by
  unfold answersOf
  rw [List.filterMap_cons]
  cases supervisor.answerOf context name <;> rfl

/-- What is heard in the results is what is heard in the answers. -/
theorem loud_resultOf (names : List String) :
    AgentSynthesizer.loud (names.map (supervisor.resultOf render context)) =
      AgentSynthesizer.loud (supervisor.answersOf render context names) := by
  induction names with
  | nil => rfl
  | cons name rest ih =>
      rw [answersOf_cons, List.map_cons]
      rcases supervisor.resultOf_cases render context name with
        ⟨record, answered, result⟩ | ⟨silence, neutral, -⟩
      · rw [answered, result, AgentSynthesizer.loud_cons, ih]
        exact (AgentSynthesizer.loud_cons _ _).symm
      · rw [silence, AgentSynthesizer.loud_cons, if_neg (not_not.mpr neutral), ih]
        simp

/-- The synthesis of outputs whose confidences are numbers. -/
theorem synthesise_eq {results : Dict String AgentOutput}
    (numeric : ∀ output ∈ results.values, AgentSynthesizer.Numeric output) :
    ∃ synthesis, (supervisor.synthesise render context results).1 = some synthesis ∧
      synthesis.proposal.map TradeProposal.direction =
        (if results.values = [] then none
          else some (AgentSynthesizer.consensus results.values)) ∧
      (∀ raw ∈ synthesis.proposal, raw.direction ≠ .hold →
        raw.confidence =
          .finite (Text.roundTo 2 (AgentSynthesizer.leadingShare results.values))) ∧
      (supervisor.synthesise render context results).2 =
        if hasUnresolvedConflict results then none
        else (synthesis.proposal.filter fun raw => raw.direction ≠ .hold).map
          (proposalOf render context) := by
  rcases (AgentSynthesizer.detectConflicts_isOk_iff results.entries).mpr
    (fun agent member other member' _ =>
      ⟨numeric agent.2 (List.mem_map_of_mem member),
        numeric other.2 (List.mem_map_of_mem member')⟩) with ⟨conflicts, found⟩
  rcases AgentSynthesizer.generateProposal_eq supervisor.synthesizer (eventOf context)
    supervisor.synthesizer.minConfidence (some context.market)
    (fun output member => (numeric output member).readable) found with
    ⟨synthesis, generated, direction, confidence⟩
  unfold synthesise
  rw [generated]
  refine ⟨synthesis, ?_, direction, confidence, ?_⟩
  · cases made : synthesis.proposal with
    | none => simp only [made]
    | some raw =>
        simp only [made]
        split_ifs <;> rfl
  · cases made : synthesis.proposal with
    | none => simp [made]
    | some raw =>
        by_cases held : raw.direction = .hold
        · simp [made, held]
        · simp only [made, held, if_false]
          split_ifs <;> simp [held]

/-- On whichever way the agents are asked, the answers of those that are not skipped are taken
over in the order of the targets. -/
theorem ask_eq_emitAll (schedule : List String) :
    ∃ used skipped, supervisor.ask render context schedule =
      ({ supervisor with tokenUsed := used },
        supervisor.emitAll render context skipped (supervisor.targets context)
          Dispatched.start) := by
  by_cases single : supervisor.maxConcurrency ≤ 1
  · rcases askAll_eq render context (supervisor.nodup_targets context) supervisor
      Dispatched.start with ⟨skipped, -, asked, -⟩
    exact ⟨_, skipped, (if_pos single).trans asked⟩
  · let pool := Pool.run supervisor.tokenBudget (estimateOf context) schedule
      (Pool.start supervisor.tokenUsed)
    refine ⟨pool.tokenUsed,
      (supervisor.targets context).filter fun name => pool.phase name ≠ .charged,
      (if_neg single).trans (Prod.ext rfl ?_)⟩
    apply List.foldl_ext
    intro state name member
    simp [member, pool]

theorem any_unresolvedConflict (names : List String) :
    (names.map (supervisor.resultOf render context)).any AgentSynthesizer.unresolvedConflict =
      (supervisor.answersOf render context names).any AgentSynthesizer.unresolvedConflict := by
  induction names with
  | nil => rfl
  | cons name rest ih =>
      rw [List.map_cons, List.any_cons, ih, answersOf_cons, List.any_append]
      rcases supervisor.resultOf_cases render context name with
        ⟨record, answered, result⟩ | ⟨silence, -, unflagged⟩
      · rw [answered, result]
        simp
      · rw [unflagged, silence]
        simp

theorem consensus_nil : AgentSynthesizer.consensus [] = .hold := by
  decide

/-- What an analysis makes of the agents' answers. -/
theorem analyze_synthesis (schedule : List String) :
    let report := (supervisor.analyze render context schedule).2
    let answers := (supervisor.prepare context).answersOf render context report.results.keys
    ∃ synthesis, report.synthesis = some synthesis ∧
      synthesis.proposal.map TradeProposal.direction =
        (if report.results.keys = [] then none
          else some (AgentSynthesizer.consensus answers)) ∧
      (∀ raw ∈ synthesis.proposal, raw.direction ≠ .hold →
        raw.confidence = .finite (Text.roundTo 2 (AgentSynthesizer.leadingShare answers))) ∧
      report.proposal =
        if answers.any AgentSynthesizer.unresolvedConflict then none
        else (synthesis.proposal.filter fun raw => raw.direction ≠ .hold).map
          (proposalOf render context) := by
  intro report answers
  let prepared := supervisor.prepare context
  rcases prepared.ask_eq_emitAll render context schedule with ⟨used, skipped, asked⟩
  have entries : report.results.entries = _ :=
    (congrArg (fun reached => reached.2.results.entries) asked).trans
      (prepared.emitAll_start_results render context skipped (prepared.nodup_targets context))
  have values : report.results.values =
      report.results.keys.map (prepared.resultOf render context) := by
    unfold Dict.values Dict.keys
    rw [entries, List.map_map, List.map_map, List.map_map]
    rfl
  have same : AgentSynthesizer.consensus report.results.values =
      AgentSynthesizer.consensus answers ∧
      AgentSynthesizer.leadingShare report.results.values =
        AgentSynthesizer.leadingShare answers := by
    have results := AgentSynthesizer.consensus_loud report.results.values
    have heard := AgentSynthesizer.consensus_loud answers
    rw [values, loud_resultOf, ← values] at results
    exact ⟨results.1.symm.trans heard.1, results.2.symm.trans heard.2⟩
  have unflagged : hasUnresolvedConflict report.results =
      answers.any AgentSynthesizer.unresolvedConflict := by
    unfold hasUnresolvedConflict
    rw [values, any_unresolvedConflict]
  have numeric : ∀ output ∈ report.results.values, AgentSynthesizer.Numeric output := by
    rw [values]
    intro output member
    rcases List.mem_map.mp member with ⟨name, -, rfl⟩
    exact prepared.numeric_resultOf render context name
  rcases (prepared.ask render context schedule).1.synthesise_eq render context numeric with
    ⟨synthesis, made, direction, confidence, proposed⟩
  have filled : report.results.values = [] ↔ report.results.keys = [] := by
    rw [values, List.map_eq_nil_iff]
  simp only [same.1, filled] at direction
  rw [same.2] at confidence
  rw [unflagged] at proposed
  exact ⟨synthesis, made, direction, confidence, proposed⟩

theorem answersOf_nil : supervisor.answersOf render context [] = [] :=
  rfl

/-- The proposal comes from the agents that answer with a record, and from their normalised
answers alone.  An agent that raises an error, runs out of time or answers with something else
never makes the synthesis fail, and neither makes, changes nor prevents a proposal. -/
theorem proposal_of_answers (schedule : List String) :
    let report := (supervisor.analyze render context schedule).2
    let answers := (supervisor.prepare context).answersOf render context report.results.keys
    ∃ synthesis, report.synthesis = some synthesis ∧
      (report.results.keys ≠ [] → synthesis.proposal.map TradeProposal.direction =
        some (AgentSynthesizer.consensus answers)) ∧
      (∀ raw ∈ synthesis.proposal, raw.direction ≠ .hold →
        raw.confidence = .finite (Text.roundTo 2 (AgentSynthesizer.leadingShare answers))) ∧
      (report.proposal.isSome = true ↔ AgentSynthesizer.consensus answers ≠ .hold ∧
        ∀ answer ∈ answers, AgentSynthesizer.unresolvedConflict answer = false) := by
  intro report answers
  rcases supervisor.analyze_synthesis render context schedule with
    ⟨synthesis, made, direction, confidence, proposed⟩
  refine ⟨synthesis, made, fun asked => direction.trans (if_neg asked), confidence, ?_⟩
  have unanimous : (∀ answer ∈ answers, AgentSynthesizer.unresolvedConflict answer = false) ↔
      answers.any AgentSynthesizer.unresolvedConflict = false := by
    rw [List.any_eq_false]
    simp
  change (supervisor.analyze render context schedule).2.proposal.isSome = true ↔ _
  rw [proposed, unanimous]
  by_cases empty : report.results.keys = []
  · have nothing : answers = [] := by
      change (supervisor.prepare context).answersOf render context report.results.keys = []
      rw [empty, answersOf_nil]
    rw [if_pos empty, Option.map_eq_none_iff] at direction
    simp [direction, nothing, consensus_nil]
  · rw [if_neg empty, Option.map_eq_some_iff] at direction
    rcases direction with ⟨raw, there, directed⟩
    change (if answers.any AgentSynthesizer.unresolvedConflict then none else _ :
      Option Record).isSome = true ↔ AgentSynthesizer.consensus answers ≠ .hold ∧ _
    rw [there, ← directed]
    cases answers.any AgentSynthesizer.unresolvedConflict <;> simp

end SupervisorAgent

end EaBot.Agents
