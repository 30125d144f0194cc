import EaBot.Foundation.Value

/-!
# The registry of strategy versions

The status of a version stands on the version, and the registry points to the active version
of each name.  The parameters of a version are a dictionary that others may hold as well, so
a version refers to it by its place among all dictionaries.

An activation puts a frozen copy in the place of the parameters.  A frozen dictionary refuses
five of the operations that change a dictionary and leaves the others.
-/

namespace EaBot.Strategy

open EaBot.Foundation

/-- The statuses of a version. -/
inductive StrategyStatus
  | draft | research | backtested | walkForward | paper | demo | approved | active | retired
  | rejected | testing
deriving DecidableEq

namespace StrategyStatus

/-- The name of a status. -/
def value : StrategyStatus → String
  | draft => "DRAFT"
  | research => "RESEARCH"
  | backtested => "BACKTESTED"
  | walkForward => "WALK_FORWARD"
  | paper => "PAPER"
  | demo => "DEMO"
  | approved => "APPROVED"
  | active => "ACTIVE"
  | retired => "RETIRED"
  | rejected => "REJECTED"
  | testing => "TESTING"

/-- The statuses that a version may be promoted to. -/
def promotionRules : StrategyStatus → List StrategyStatus
  | draft => [testing, research, backtested, active]
  | testing => [active, draft]
  | research => [backtested, draft]
  | backtested => [walkForward, active]
  | walkForward => [paper, active]
  | paper => [demo, active]
  | demo => [approved, active]
  | approved => [active, rejected]
  | active => [retired]
  | retired => []
  | rejected => [draft]

end StrategyStatus

/-- The operations that change a dictionary. -/
inductive DictOperation (α : Type)
  | setItem (key : String) (value : α)
  | delItem (key : String)
  | update (given : List (String × α))
  | pop (key : String) (fallback : Option α)
  | clear
  | setDefault (key : String) (value : α)
  | popItem
  | merge (given : List (String × α))

namespace DictOperation

variable {α : Type}

/-- What a frozen dictionary answers to the operations that it refuses. -/
def refusal : DictOperation α → Option String
  | setItem _ _ => some "Cannot modify parameters for ACTIVE strategy (read-only)."
  | delItem _ => some "Cannot delete parameters for ACTIVE strategy (read-only)."
  | update _ => some "Cannot update parameters for ACTIVE strategy (read-only)."
  | pop _ _ => some "Cannot pop from parameters for ACTIVE strategy (read-only)."
  | clear => some "Cannot clear parameters for ACTIVE strategy (read-only)."
  | setDefault _ _ | popItem | merge _ => none

/-- What an operation makes of the entries of a dictionary. -/
def change (entries : Dict String α) : DictOperation α → Except String (Dict String α)
  | setItem key value => .ok (entries.set key value)
  | delItem key => if entries.contains key then .ok (entries.erase key) else .error s!"'{key}'"
  | update given => .ok (entries.update given)
  | pop key fallback =>
      if entries.contains key then .ok (entries.erase key)
      else if fallback.isSome then .ok entries
      else .error s!"'{key}'"
  | clear => .ok Dict.empty
  | setDefault key value => .ok (if entries.contains key then entries else entries.set key value)
  | popItem =>
      match entries.entries.getLast? with
      | none => .error "'popitem(): dictionary is empty'"
      | some last => .ok (entries.erase last.1)
  | merge given => .ok (entries.update given)

end DictOperation

/-- A dictionary of parameters, which may be frozen. -/
structure ParameterDict (α : Type) where
  readOnly : Bool
  entries : Dict String α

namespace ParameterDict

variable {α : Type}

/-- Perform an operation.  One that raises leaves the dictionary. -/
def perform (dict : ParameterDict α) (operation : DictOperation α) :
    Except String Unit × ParameterDict α :=
  match if dict.readOnly then operation.refusal else none with
  | some text => (.error text, dict)
  | none =>
      match operation.change dict.entries with
      | .error text => (.error text, dict)
      | .ok entries => (.ok (), { dict with entries := entries })

end ParameterDict

/-- A version.  `parameters` is the place of its dictionary. -/
structure VersionedStrategy where
  name : String
  version : String
  parameters : Nat
  status : StrategyStatus
  metricsSummary : Record
  validationEvidence : Record
  approvedAt : Option String
  activatedAt : Option String
  retiredAt : Option String

namespace VersionedStrategy

/-- Set the status, and the time at which it is reached first. -/
def setStatus (strategy : VersionedStrategy) (status : StrategyStatus) (now : String) :
    VersionedStrategy :=
  match status with
  | .approved =>
      { strategy with status := status, approvedAt := strategy.approvedAt.or (some now) }
  | .active =>
      { strategy with status := status, activatedAt := strategy.activatedAt.or (some now) }
  | .retired =>
      { strategy with status := status, retiredAt := strategy.retiredAt.or (some now) }
  | _ => { strategy with status := status }

@[simp]
theorem setStatus_status (strategy : VersionedStrategy) (status : StrategyStatus) (now : String) :
    (strategy.setStatus status now).status = status := by
  cases status <;> rfl

@[simp]
theorem setStatus_parameters (strategy : VersionedStrategy) (status : StrategyStatus)
    (now : String) : (strategy.setStatus status now).parameters = strategy.parameters := by
  cases status <;> rfl

end VersionedStrategy

/-- What a call of the registry raises. -/
inductive RegistryError
  | valueError (text : String)
  | promotionError (text : String)
  | raised (text : String)
deriving DecidableEq

/-- The answer of the promotion gate. -/
structure PromotionDecision where
  allowed : Bool
  reason : String
deriving DecidableEq

/-- Whether a promotion is allowed. -/
def canPromote (fromStatus toStatus : StrategyStatus) (metrics : Record)
    (validationPassed : Bool) : Except String PromotionDecision := do
  if toStatus ∉ fromStatus.promotionRules then
    return ⟨false, s!"Cannot promote from {fromStatus.value} to {toStatus.value}"⟩
  if fromStatus = .draft ∧ toStatus = .testing then
    if metrics.entries = [] then
      return ⟨false, "DRAFT → TESTING requires backtest metrics."⟩
    match ((metrics.get "win_rate").getD (.int 0)).number? with
    | none => throw "'<' not supported between these types"
    | some rate => if rate < 50 then
        return ⟨false, "Win rate must be ≥ 50% to proceed to TESTING."⟩
  if toStatus = .active then
    if fromStatus = .testing then
      if ¬ validationPassed then
        return ⟨false, "TESTING → ACTIVE requires passed validation."⟩
    else
      let rate ← (((metrics.get "win_rate").getD (.int 0)).orElse (.int 0)).toFloat
      if ¬ validationPassed ∧ ¬ (metrics.entries ≠ [] ∧ 50 ≤ rate) then
        return ⟨false, s!"{fromStatus.value} → ACTIVE requires passed validation or " ++
          "backtest metrics with win rate ≥ 50%."⟩
  return ⟨true, ""⟩

/-- The versions, the active version of each name and all dictionaries of parameters. -/
structure StrategyRegistry (α : Type) where
  strategies : Dict (String × String) VersionedStrategy
  activeByName : Dict String String
  dictionaries : List (ParameterDict α)

namespace StrategyRegistry

variable {α : Type}

/-- An empty registry, with the dictionaries that others hold. -/
def initial (dictionaries : List (ParameterDict α)) : StrategyRegistry α :=
  ⟨Dict.empty, Dict.empty, dictionaries⟩

/-- The entries of a dictionary. -/
def entriesAt (registry : StrategyRegistry α) (place : Nat) : Dict String α :=
  (registry.dictionaries[place]?.map ParameterDict.entries).getD Dict.empty

/-- A version of a strategy. -/
def get (registry : StrategyRegistry α) (key : String × String) : Option VersionedStrategy :=
  registry.strategies.get key

/-- Register a version as a draft. -/
def register (registry : StrategyRegistry α) (name version : String) (parameters : Nat) :
    Except RegistryError VersionedStrategy × StrategyRegistry α :=
  if registry.strategies.contains (name, version) then
    (.error (.valueError s!"Strategy {name} version {version} already exists"), registry)
  else
    let strategy : VersionedStrategy :=
      ⟨name, version, parameters, .draft, Dict.empty, Dict.empty, none, none, none⟩
    (.ok strategy,
      { registry with strategies := registry.strategies.set (name, version) strategy })

/-- Set the status of a version and put a copy in the place of its parameters, frozen or not. -/
def enter (registry : StrategyRegistry α) (key : String × String) (strategy : VersionedStrategy)
    (status : StrategyStatus) (readOnly : Bool) (now : String) : StrategyRegistry α :=
  { registry with
    strategies := registry.strategies.set key
      { strategy.setStatus status now with parameters := registry.dictionaries.length }
    dictionaries := registry.dictionaries ++
      [⟨readOnly, registry.entriesAt strategy.parameters⟩] }

/-- Ask the promotion gate, when the evidence is enforced. -/
def precheck (registry : StrategyRegistry α) (name version : String) (enforceEvidence : Bool) :
    Except RegistryError Unit :=
  if ¬ enforceEvidence then .ok ()
  else
    match registry.get (name, version) with
    | none => .error (.valueError s!"Strategy {name} v{version} not found")
    | some target =>
        let passed := ((target.validationEvidence.get "passed").getD (.bool false)).truthy
        match canPromote target.status .active target.metricsSummary passed with
        | .error text => .error (.raised text)
        | .ok decision =>
            if decision.allowed then .ok ()
            else .error (.promotionError
              (if decision.reason = "" then "Promotion denied by gate" else decision.reason))

/-- Retire the active version of a name. -/
def retireOld (registry : StrategyRegistry α) (name now : String) : StrategyRegistry α :=
  match registry.activeByName.get name with
  | none => registry
  | some old =>
      match registry.get (name, old) with
      | none => registry
      | some strategy => registry.enter (name, old) strategy .retired false now

/-- Activate a version.  The old version is retired before the new one is looked up. -/
def activate (registry : StrategyRegistry α) (name version : String) (enforceEvidence : Bool)
    (now : String) : Except RegistryError Unit × StrategyRegistry α :=
  match registry.precheck name version enforceEvidence with
  | .error raised => (.error raised, registry)
  | .ok () =>
      let retired := registry.retireOld name now
      match retired.get (name, version) with
      | none => (.error (.valueError s!"Strategy {name} v{version} not found"), retired)
      | some strategy =>
          let entered := retired.enter (name, version) strategy .active true now
          (.ok (), { entered with activeByName := entered.activeByName.set name version })

/-- Forget that a version is the active one of its name. -/
def dropPointer (registry : StrategyRegistry α) (name version : String) : StrategyRegistry α :=
  if registry.activeByName.get name = some version then
    { registry with activeByName := registry.activeByName.erase name }
  else registry

/-- Retire a version. -/
def retire (registry : StrategyRegistry α) (name version now : String) :
    Except RegistryError Unit × StrategyRegistry α :=
  match registry.get (name, version) with
  | none => (.error (.valueError s!"Strategy {name} v{version} not found"), registry)
  | some strategy =>
      (.ok (),
        (registry.enter (name, version) strategy .retired false now).dropPointer name version)

/-- Record a status of a version. -/
def recordStatus (registry : StrategyRegistry α) (name version : String)
    (status : StrategyStatus) (now : String) :
    Except RegistryError VersionedStrategy × StrategyRegistry α :=
  match registry.get (name, version) with
  | none => (.error (.valueError s!"Strategy {name} v{version} not found"), registry)
  | some strategy =>
      let recorded := strategy.setStatus status now
      (.ok recorded,
        { registry with strategies := registry.strategies.set (name, version) recorded })

/-- The active version of a name. -/
def getActiveVersion (registry : StrategyRegistry α) (name : String) :
    Option VersionedStrategy :=
  match registry.activeByName.get name with
  | none => none
  | some version => registry.get (name, version)

/-- Perform an operation on a dictionary that somebody holds. -/
def touch (registry : StrategyRegistry α) (place : Nat) (operation : DictOperation α) :
    StrategyRegistry α :=
  { registry with dictionaries := registry.dictionaries.modify place fun dict =>
      (dict.perform operation).2 }

/-- Write the metrics and the evidence of a version. -/
def annotate (registry : StrategyRegistry α) (key : String × String)
    (metricsSummary validationEvidence : Record) : StrategyRegistry α :=
  match registry.get key with
  | none => registry
  | some strategy =>
      let annotated : VersionedStrategy :=
        { strategy with
          metricsSummary := metricsSummary, validationEvidence := validationEvidence }
      { registry with strategies := registry.strategies.set key annotated }

end StrategyRegistry

end EaBot.Strategy
