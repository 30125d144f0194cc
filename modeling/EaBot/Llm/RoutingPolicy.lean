import EaBot.Llm.ModelRouter

/-!
# The policy of a routing decision

A task of high risk is never given to a free model, and with a budget any other task is given to
free models and to models that the budget covers.  When nothing fits, a task of high risk falls
back to the paid models, whatever they cost, and any other task to the free ones.

Every choice is a part of the registry in another order, so no model is named twice.
-/

namespace EaBot.Llm

open EaBot.Foundation

namespace ModelRegistry

/-- Register a model, in the place of an earlier one of its name. -/
def register (registry : ModelRegistry) (model : ModelInfo) : ModelRegistry :=
  registry.set model.name model

/-- The registry after some registrations. -/
def ofModels (models : List ModelInfo) : ModelRegistry :=
  models.foldl register Dict.empty

/-- The estimated cost for any numbers of tokens. -/
def estimateCost (registry : ModelRegistry) (modelName : String)
    (promptTokens completionTokens : Int) : ℚ :=
  match registry.get modelName with
  | none => 0
  | some model =>
      if model.isFree then 0
      else promptTokens * model.costPerPromptToken +
        completionTokens * model.costPerCompletionToken

theorem estimateCost_natCast (registry : ModelRegistry) (modelName : String)
    (promptTokens completionTokens : Nat) :
    registry.estimateCost modelName promptTokens completionTokens =
      registry.calculateCost modelName promptTokens completionTokens := by
  rw [estimateCost, calculateCost]
  cases registry.get modelName with
  | none => rfl
  | some model => simp only [Int.cast_natCast]

theorem mem_listModels_iff {registry : ModelRegistry} (model : ModelInfo) :
    model ∈ registry.listModels ↔ ∃ name, registry.get name = some model :=
  registry.mem_values_iff model

/-- Every model is listed under its name. -/
def Named (registry : ModelRegistry) : Prop :=
  ∀ name model, registry.get name = some model → model.name = name

theorem Named.register {registry : ModelRegistry} (named : registry.Named) (model : ModelInfo) :
    (registry.register model).Named := by
  intro name other found
  rw [ModelRegistry.register, Dict.get_set] at found
  split at found
  case isTrue same =>
    cases found
    exact same.symm
  case isFalse => exact named name other found

theorem named_ofModels (models : List ModelInfo) : (ofModels models).Named := by
  have every : ∀ registry : ModelRegistry, registry.Named →
      (models.foldl ModelRegistry.register registry).Named := by
    induction models with
    | nil => exact fun _ named => named
    | cons model rest ih => exact fun registry named => ih _ (named.register model)
  refine every Dict.empty fun name model found => ?_
  cases found

/-- A listed model is found under its name. -/
theorem Named.get_name {registry : ModelRegistry} (named : registry.Named) {model : ModelInfo}
    (listed : model ∈ registry.listModels) : registry.get model.name = some model := by
  obtain ⟨name, found⟩ := (mem_listModels_iff model).mp listed
  rwa [named name model found]

theorem Named.nodup_names {registry : ModelRegistry} (named : registry.Named) :
    (registry.listModels.map ModelInfo.name).Nodup := by
  have names : registry.listModels.map ModelInfo.name = registry.keys := by
    rw [listModels, Dict.values, Dict.keys, List.map_map]
    apply List.map_congr_left
    rintro ⟨name, model⟩ member
    exact named name model ((registry.mem_entries_iff name model).mp member)
  rw [names]
  exact registry.distinct

end ModelRegistry

namespace ModelRouter

/-! ## Routing a task -/

/-- What a task asks for. -/
structure RoutingRequest where
  complexity : Complexity
  priority : Priority
  riskLevel : RiskLevel
  conflictSeverity : ℚ
  budgetRemainingUsd : Option ℚ
  expectedTokens : Option Int

/-- The choice of the models and what it was made from. -/
structure Routing extends RoutingDecision where
  reason : String
  complexity : Complexity
  priority : Priority
  riskLevel : RiskLevel
  healthState : String
  costEstimate : ℚ
  latencyMsBudget : Nat

def Complexity.value : Complexity → String
  | .low => "LOW"
  | .medium => "MEDIUM"
  | .high => "HIGH"

def Priority.value : Priority → String
  | .critical => "CRITICAL"
  | .high => "HIGH"
  | .normal => "NORMAL"
  | .low => "LOW"
  | .background => "BACKGROUND"

def RiskLevel.value : RiskLevel → String
  | .low => "LOW"
  | .medium => "MEDIUM"
  | .high => "HIGH"

def Tier.value : Tier → String
  | .free => "free"
  | .cheap => "cheap"
  | .strong => "strong"

/-- The latency budget of a task, in milliseconds. -/
def latencyBudgetMs : Complexity → Nat
  | .low => 2000
  | .medium => 5000
  | .high => 15000

/-- The tier of a task: severe conflicts and critical events do not start at the free one. -/
def tierOf (request : RoutingRequest) : Tier :=
  let preferStrong := 7 / 10 ≤ request.conflictSeverity ∨ request.priority = .critical
  let tier := tierByComplexity request.complexity
  if preferStrong ∧ tier = .free then .cheap else tier

/-- The candidates that a budget covers, for any number of tokens. -/
def fitting (registry : ModelRegistry) (models : List ModelInfo)
    (budgetRemainingUsd : Option ℚ) (tokens : Int) : List ModelInfo :=
  match budgetRemainingUsd with
  | none => models
  | some budget =>
      models.filter fun model =>
        model.isFree || registry.estimateCost model.name (tokens / 2) (tokens / 2) ≤ budget

/-- The models that a task is given to, in order, with what is added to the reason. -/
def chosenModels (registry : ModelRegistry) (request : RoutingRequest) (tokens : Int) :
    List ModelInfo × String :=
  let freeForbidden := request.riskLevel = .high
  let affordable := fitting registry (candidates registry (tierOf request) freeForbidden)
    request.budgetRemainingUsd tokens
  if !affordable.isEmpty then (affordable, "")
  else if freeForbidden then
    let paid := candidates registry .strong true
    (if paid.isEmpty then registry.listModels.filter fun model => !model.isFree else paid,
      " | budget exhausted; high-risk forbids free models")
  else
    (registry.listModels.filter fun model => model.isFree, " | over budget; degrading to free tier")

/-- The choice of the models for a task, of a router that assumes a number of tokens where the
task expects none, in a state of the gateway. -/
def routeTask (registry : ModelRegistry) (assumedTokens : Int) (healthState : String)
    (request : RoutingRequest) : Routing :=
  let tokens := request.expectedTokens.getD assumedTokens
  let chosen := chosenModels registry request tokens
  let decision := headed chosen.1
  { decision with
    reason := s!"complexity={request.complexity.value} risk={request.riskLevel.value} " ++
      s!"priority={request.priority.value} tier={(tierOf request).value} " ++
      s!"health={healthState}" ++ chosen.2
    complexity := request.complexity
    priority := request.priority
    riskLevel := request.riskLevel
    healthState := healthState
    costEstimate := registry.estimateCost decision.model (tokens / 2) (tokens / 2)
    latencyMsBudget := latencyBudgetMs request.complexity }

/-- Where the task expects no tokens of its own and the router assumes the usual number, the
choice is the one of a plain call. -/
theorem routeTask_decision (registry : ModelRegistry) (healthState : String)
    (complexity : Complexity) (priority : Priority) (riskLevel : RiskLevel)
    (conflictSeverity : ℚ) (budgetRemainingUsd : Option ℚ) :
    (routeTask registry defaultExpectedTokens healthState
        ⟨complexity, priority, riskLevel, conflictSeverity, budgetRemainingUsd,
          none⟩).toRoutingDecision =
      route registry complexity priority riskLevel conflictSeverity budgetRemainingUsd := by
  have same : ∀ models, fitting registry models budgetRemainingUsd defaultExpectedTokens =
      affordable registry models budgetRemainingUsd defaultExpectedTokens := by
    intro models
    cases budgetRemainingUsd with
    | none => rfl
    | some budget =>
        unfold fitting affordable
        simp only [← ModelRegistry.estimateCost_natCast]
        rfl
  unfold routeTask chosenModels route
  dsimp only [Option.getD_none]
  rw [same]
  simp only [apply_ite Prod.fst, apply_ite headed]
  rfl

/-! ## What is drawn from the registry -/

/-- Some models of the registry, in any order. -/
def Drawn (registry : ModelRegistry) (models : List ModelInfo) : Prop :=
  models.Subperm registry.listModels

section Drawing

variable {registry : ModelRegistry}

theorem drawn_filter (keep : ModelInfo → Bool) :
    Drawn registry (registry.listModels.filter keep) :=
  List.filter_sublist.subperm

theorem Drawn.filter {models : List ModelInfo} (drawn : Drawn registry models)
    (keep : ModelInfo → Bool) : Drawn registry (models.filter keep) :=
  List.filter_sublist.subperm.trans drawn

theorem Drawn.perm {models other : List ModelInfo} (drawn : Drawn registry models)
    (perm : other.Perm models) : Drawn registry other :=
  perm.subperm.trans drawn

/-- A list is its selected part followed by the rest, in another order. -/
theorem perm_filter_append {models : List ModelInfo} {keep drop : ModelInfo → Bool}
    (others : ∀ model, drop model = !keep model) :
    (models.filter keep ++ models.filter drop).Perm models := by
  have same : drop = fun model => !keep model := funext others
  rw [same]
  exact List.filter_append_perm keep models

/-- The candidates of every tier are drawn from the registry. -/
theorem drawn_candidates (registry : ModelRegistry) (tier : Tier) (freeForbidden : Bool) :
    Drawn registry (candidates registry tier freeForbidden) := by
  have models : Drawn registry
      (registry.listModels.filter fun model => !freeForbidden || !model.isFree) :=
    drawn_filter _
  unfold candidates
  cases tier with
  | free => exact models.perm (perm_filter_append fun _ => rfl)
  | cheap =>
      refine models.perm (.trans (.append (List.perm_insertionSort _ _) .rfl) ?_)
      exact perm_filter_append fun _ => (Bool.not_not _).symm
  | strong =>
      dsimp only
      split
      case isTrue => exact models.filter _
      case isFalse =>
        refine (models.filter fun model => !model.isFree).perm
          (.trans (.append (List.perm_insertionSort _ _) (List.perm_insertionSort _ _)) ?_)
        exact perm_filter_append fun _ => decide_not

end Drawing

/-! ## The policy -/

/-- The models that a decision names, the first one first; no name stands for no model. -/
def RoutingDecision.named (decision : RoutingDecision) : List String :=
  if decision.model = "" then decision.fallbackChain
  else decision.model :: decision.fallbackChain

/-- A decision keeps the policy: no free model for a task of high risk, only free models and
covered ones for any other task with a budget, and no model twice. -/
structure Obeys (registry : ModelRegistry) (request : RoutingRequest) (tokens : Int)
    (decision : RoutingDecision) : Prop where
  highRisk : request.riskLevel = .high → ∀ name ∈ decision.named,
    ∃ model, registry.get name = some model ∧ model.isFree = false
  covered : request.riskLevel ≠ .high → ∀ budget, request.budgetRemainingUsd = some budget →
    ∀ name ∈ decision.named, ∃ model, registry.get name = some model ∧
      (model.isFree = true ∨ registry.estimateCost name (tokens / 2) (tokens / 2) ≤ budget)
  distinct : decision.named.Nodup

theorem named_headed_sublist (models : List ModelInfo) :
    (headed models).named.Sublist (models.map ModelInfo.name) := by
  cases models with
  | nil => exact .refl _
  | cons primary rest =>
      unfold RoutingDecision.named headed
      dsimp only
      split
      · exact List.sublist_cons_self _ _
      · exact .refl _

section Choosing

variable {registry : ModelRegistry} (request : RoutingRequest) (tokens : Int)

theorem drawn_chosenModels : Drawn registry (chosenModels registry request tokens).1 := by
  have fits : ∀ {models}, Drawn registry models →
      Drawn registry (fitting registry models request.budgetRemainingUsd tokens) := by
    intro models drawn
    unfold fitting
    split
    · exact drawn
    · exact drawn.filter _
  unfold chosenModels
  dsimp only
  split
  · exact fits (drawn_candidates registry _ _)
  · split
    · dsimp only
      split
      · exact drawn_filter _
      · exact drawn_candidates registry _ _
    · exact drawn_filter _

/-- Free models are no candidates where they are forbidden. -/
theorem paid_of_mem_candidates {tier : Tier} {model : ModelInfo}
    (candidate : model ∈ candidates registry tier true) : model.isFree = false := by
  have models : ∀ other ∈ registry.listModels.filter (fun model => !true || !model.isFree),
      other.isFree = false := by
    intro other kept
    simpa using (List.mem_filter.mp kept).2
  unfold candidates at candidate
  cases tier with
  | free =>
      rcases List.mem_append.mp candidate with free | paid
      · exact models model (List.mem_filter.mp free).1
      · exact models model (List.mem_filter.mp paid).1
  | cheap =>
      rcases List.mem_append.mp candidate with paid | free
      · exact models model (List.mem_filter.mp ((List.mem_insertionSort _).mp paid)).1
      · exact models model (List.mem_filter.mp free).1
  | strong =>
      dsimp only at candidate
      split at candidate
      case isTrue => exact models model (List.mem_filter.mp candidate).1
      case isFalse =>
        rcases List.mem_append.mp candidate with reasoning | rest
        · have paid := (List.mem_filter.mp ((List.mem_insertionSort _).mp reasoning)).1
          exact models model (List.mem_filter.mp paid).1
        · have paid := (List.mem_filter.mp ((List.mem_insertionSort _).mp rest)).1
          exact models model (List.mem_filter.mp paid).1

theorem mem_of_mem_fitting {models : List ModelInfo} {budget : Option ℚ} {model : ModelInfo}
    (fits : model ∈ fitting registry models budget tokens) : model ∈ models := by
  unfold fitting at fits
  split at fits
  · exact fits
  · exact (List.mem_filter.mp fits).1

/-- A task of high risk is given to paid models only. -/
theorem paid_of_chosen (risky : request.riskLevel = .high) {model : ModelInfo}
    (chosen : model ∈ (chosenModels registry request tokens).1) : model.isFree = false := by
  unfold chosenModels at chosen
  simp only [risky, decide_true, if_true] at chosen
  split at chosen
  · exact paid_of_mem_candidates (mem_of_mem_fitting tokens chosen)
  · dsimp only at chosen
    split at chosen
    · simpa using (List.mem_filter.mp chosen).2
    · exact paid_of_mem_candidates chosen

/-- Any other task with a budget is given to free models and to covered ones. -/
theorem covered_of_chosen (calm : request.riskLevel ≠ .high) {budget : ℚ}
    (limited : request.budgetRemainingUsd = some budget) {model : ModelInfo}
    (chosen : model ∈ (chosenModels registry request tokens).1) :
    model.isFree = true ∨
      registry.estimateCost model.name (tokens / 2) (tokens / 2) ≤ budget := by
  unfold chosenModels at chosen
  simp only [calm, limited, decide_false, if_false] at chosen
  split at chosen
  · simpa using (List.mem_filter.mp chosen).2
  · exact .inl (by simpa using (List.mem_filter.mp chosen).2)

end Choosing

/-- Every routing decision keeps the policy, whatever models are registered. -/
theorem routeTask_obeys (models : List ModelInfo) (assumedTokens : Int) (healthState : String)
    (request : RoutingRequest) :
    Obeys (.ofModels models) request (request.expectedTokens.getD assumedTokens)
      (routeTask (.ofModels models) assumedTokens healthState request).toRoutingDecision := by
  have registered := ModelRegistry.named_ofModels models
  generalize ModelRegistry.ofModels models = registry at registered
  generalize held : request.expectedTokens.getD assumedTokens = tokens
  have decided : (routeTask registry assumedTokens healthState request).toRoutingDecision =
      headed (chosenModels registry request tokens).1 := by
    rw [← held]
    rfl
  rw [decided]
  have drawn : Drawn registry (chosenModels registry request tokens).1 :=
    drawn_chosenModels request tokens
  have named := named_headed_sublist (chosenModels registry request tokens).1
  have found : ∀ name ∈ (headed (chosenModels registry request tokens).1).named,
      ∃ model ∈ (chosenModels registry request tokens).1,
        model.name = name ∧ registry.get name = some model := by
    intro name member
    obtain ⟨model, chosen, same⟩ := List.mem_map.mp (named.subset member)
    exact ⟨model, chosen, same, same ▸ registered.get_name (drawn.subset chosen)⟩
  refine ⟨?_, ?_, ?_⟩
  · intro risky name member
    obtain ⟨model, chosen, -, get⟩ := found name member
    exact ⟨model, get, paid_of_chosen request tokens risky chosen⟩
  · intro calm budget limited name member
    obtain ⟨model, chosen, same, get⟩ := found name member
    refine ⟨model, get, ?_⟩
    rw [← same]
    exact covered_of_chosen request tokens calm limited chosen
  · obtain ⟨part, perm, sublist⟩ := drawn
    have distinct := (sublist.map ModelInfo.name).nodup registered.nodup_names
    exact named.nodup ((perm.map ModelInfo.name).nodup_iff.mp distinct)

end ModelRouter

end EaBot.Llm
