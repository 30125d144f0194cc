import EaBot.Foundation.Dict
import Mathlib.Algebra.Order.Ring.Rat
import Mathlib.Data.List.Sort

/-!
# The choice of a model

The registry lists the models with their prices and capabilities.  The router orders them by
the complexity of a task, drops the ones that the budget does not cover and names the first of
the rest, with the others as its fallbacks.  The choice does not see the task itself.
-/

namespace EaBot.Llm

open EaBot.Foundation

/-- What the registry knows of a model. -/
structure ModelInfo where
  name : String
  provider : String
  isFree : Bool
  costPerPromptToken : ℚ
  costPerCompletionToken : ℚ
  capabilities : List String

/-- The models by their names, in the order of their registration. -/
abbrev ModelRegistry := Dict String ModelInfo

namespace ModelRegistry

def listModels (registry : ModelRegistry) : List ModelInfo :=
  registry.values

/-- The estimated cost; unknown and free models cost nothing. -/
def calculateCost (registry : ModelRegistry) (modelName : String)
    (promptTokens completionTokens : Nat) : ℚ :=
  match registry.get modelName with
  | none => 0
  | some model =>
      if model.isFree then 0
      else promptTokens * model.costPerPromptToken +
        completionTokens * model.costPerCompletionToken

end ModelRegistry

namespace ModelRouter

inductive Complexity
  | low
  | medium
  | high

inductive Priority
  | critical
  | high
  | normal
  | low
  | background
  deriving DecidableEq

inductive RiskLevel
  | low
  | medium
  | high
  deriving DecidableEq

inductive Tier
  | free
  | cheap
  | strong
  deriving DecidableEq

/-- The chosen model and its fallbacks. -/
structure RoutingDecision where
  model : String
  fallbackChain : List String

def tierByComplexity : Complexity → Tier
  | .low => .free
  | .medium => .cheap
  | .high => .strong

/-- The price by which models are ordered. -/
def price (model : ModelInfo) : ℚ :=
  model.costPerCompletionToken + model.costPerPromptToken

def sortCheapest (models : List ModelInfo) : List ModelInfo :=
  models.insertionSort fun first second => price first ≤ price second

def sortDearest (models : List ModelInfo) : List ModelInfo :=
  models.insertionSort fun first second => price second ≤ price first

/-- The candidates of a tier in the order of preference. -/
def candidates (registry : ModelRegistry) (tier : Tier) (freeForbidden : Bool) :
    List ModelInfo :=
  let models := registry.listModels.filter fun model => !freeForbidden || !model.isFree
  let free := models.filter fun model => model.isFree
  let paid := models.filter fun model => !model.isFree
  match tier with
  | .free => free ++ paid
  | .strong =>
      let reasoning := paid.filter fun model => "reasoning" ∈ model.capabilities
      let rest := paid.filter fun model => "reasoning" ∉ model.capabilities
      let ordered := sortDearest reasoning ++ sortDearest rest
      if ordered.isEmpty then free else ordered
  | .cheap => sortCheapest paid ++ free

/-- The candidates that the budget covers. -/
def affordable (registry : ModelRegistry) (models : List ModelInfo)
    (budgetRemainingUsd : Option ℚ) (tokens : Nat) : List ModelInfo :=
  match budgetRemainingUsd with
  | none => models
  | some budget =>
      models.filter fun model =>
        model.isFree ||
          registry.calculateCost model.name (tokens / 2) (tokens / 2) ≤ budget

/-- The first model with the others as its fallbacks. -/
def headed (models : List ModelInfo) : RoutingDecision :=
  match models with
  | [] => ⟨"", []⟩
  | primary :: rest => ⟨primary.name, rest.map ModelInfo.name⟩

/-- The tokens that a call is expected to take. -/
def defaultExpectedTokens : Nat := 2000

/-- The choice of a model with its fallbacks. -/
def route (registry : ModelRegistry) (complexity : Complexity) (priority : Priority)
    (riskLevel : RiskLevel) (conflictSeverity : ℚ) (budgetRemainingUsd : Option ℚ) :
    RoutingDecision :=
  let freeForbidden := riskLevel = .high
  let preferStrong := 7 / 10 ≤ conflictSeverity ∨ priority = .critical
  let tier := tierByComplexity complexity
  let tier := if preferStrong ∧ tier = .free then .cheap else tier
  let fitting := affordable registry (candidates registry tier freeForbidden)
    budgetRemainingUsd defaultExpectedTokens
  if !fitting.isEmpty then headed fitting
  else if freeForbidden then
    -- nothing fits and free models are forbidden: the caller gets a paid model
    let paid := candidates registry .strong true
    headed (if paid.isEmpty then
      registry.listModels.filter fun model => !model.isFree else paid)
  else
    headed (registry.listModels.filter fun model => model.isFree)

end ModelRouter

end EaBot.Llm
