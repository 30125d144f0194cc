import EaBot.Foundation.Run
import EaBot.Llm.CanonicalRouter

/-!
# Answers from the cache

Beside the router stands a record of every answer that was put into the cache, with the call
that it was made for.  An answer that comes from the cache is the one that was put last under
the key of the call, and it has the fields that its own call required.  The key does not see
the task, the role, the instructions or the required fields of a call, so that the answer fits
another call exactly when these agree.
-/

namespace EaBot.Llm

open EaBot.Foundation EaBot.Trading CanonicalModelRouter

/-! ## Validated answers -/

/-- An answer has a field of the name. -/
def HasField (answer : Json) (name : String) : Prop :=
  match answer with
  | .obj fields => hasField fields name = true
  | _ => False

/-- An answer that holds nothing that the validation refuses: a text, or an object without
forbidden fields. -/
def Permitted (answer : Json) : Prop :=
  match answer with
  | .str _ => True
  | .obj fields => ∀ name ∈ forbiddenAuthorityFields, hasField fields name = false
  | _ => False

theorem hasField_remaining {fields : List (String × Json)} {name : String}
    (allowed : name ∉ forbiddenAuthorityFields) :
    hasField (fields.filter fun field => field.1 ∉ forbiddenAuthorityFields) name =
      hasField fields name := by
  induction fields with
  | nil => rfl
  | cons field rest ih =>
      rw [hasField, hasField] at ih
      rw [hasField, hasField, List.filter_cons]
      by_cases named : field.1 = name
      · simp [named, allowed]
      · by_cases stays : field.1 ∈ forbiddenAuthorityFields
        · simpa [stays, named] using ih
        · simpa [stays, named] using ih

theorem hasField_remaining_of_forbidden (fields : List (String × Json)) {name : String}
    (forbidden : name ∈ forbiddenAuthorityFields) :
    hasField (fields.filter fun field => field.1 ∉ forbiddenAuthorityFields) name = false := by
  rw [hasField, List.any_eq_false]
  intro field kept same
  have stays : field.1 ∉ forbiddenAuthorityFields := by
    simpa using (List.mem_filter.mp kept).2
  rw [of_decide_eq_true same] at stays
  exact stays forbidden

/-- A valid object has the required fields, and none that is forbidden. -/
theorem of_validateObject_valid {wasText : Bool} {fields : List (String × Json)}
    {requiredFields : List String}
    (valid : (validateObject wasText fields requiredFields).valid = true) :
    (∀ name ∈ requiredFields, hasField fields name = true) ∧
      ∀ name ∈ forbiddenAuthorityFields, hasField fields name = false := by
  rw [Validation.valid, List.isEmpty_iff, validateObject, List.append_eq_nil_iff,
    List.append_eq_nil_iff, List.map_eq_nil_iff, List.map_eq_nil_iff, List.filter_eq_nil_iff,
    List.filter_eq_nil_iff] at valid
  rcases valid with ⟨⟨present, absent⟩, -⟩
  constructor
  · intro name required
    simpa using present name required
  · intro name forbidden
    exact Bool.not_eq_true _ ▸ absent name forbidden

/-- The object that the validation lets through. -/
theorem validateObject_sound {wasText : Bool} {fields : List (String × Json)}
    {requiredFields : List String}
    (valid : (validateObject wasText fields requiredFields).valid = true) :
    (∀ name ∈ requiredFields,
      HasField (validateObject wasText fields requiredFields).parsed name) ∧
      Permitted (validateObject wasText fields requiredFields).parsed := by
  rcases of_validateObject_valid valid with ⟨present, absent⟩
  constructor
  · intro name required
    have allowed : name ∉ forbiddenAuthorityFields := by
      intro forbidden
      have both := (present name required).symm.trans (absent name forbidden)
      cases both
    exact (hasField_remaining allowed).trans (present name required)
  · intro name forbidden
    exact hasField_remaining_of_forbidden fields forbidden

/-- The answer that the validation lets through has the required fields. -/
theorem validate_sound {raw : Json} {requiredFields : List String}
    (valid : (validate raw requiredFields).valid = true) :
    (∀ name ∈ requiredFields, HasField (validate raw requiredFields).parsed name) ∧
      Permitted (validate raw requiredFields).parsed := by
  cases raw with
  | obj fields => exact validateObject_sound valid
  | str text =>
      rw [validate] at valid ⊢
      by_cases free : requiredFields.isEmpty
      · rw [if_pos free]
        rw [List.isEmpty_iff] at free
        subst free
        exact ⟨fun name required => absurd required List.not_mem_nil, trivial⟩
      · rw [if_neg free] at valid ⊢
        cases told : Json.read text.toList with
        | none =>
            rw [told] at valid
            cases valid
        | some value =>
            rw [told] at valid
            cases value with
            | obj fields => exact validateObject_sound valid
            | _ => cases valid
  | _ => cases valid

/-- A permitted answer with the required fields is valid. -/
theorem validate_valid_of_hasFields {answer : Json} {requiredFields : List String}
    (permitted : Permitted answer) (complete : ∀ name ∈ requiredFields, HasField answer name) :
    (validate answer requiredFields).valid = true := by
  cases answer with
  | str text =>
      cases requiredFields with
      | nil => rfl
      | cons name rest => exact (complete name List.mem_cons_self).elim
  | obj fields =>
      have present : forbiddenAuthorityFields.filter (hasField fields) = [] :=
        List.filter_eq_nil_iff.mpr fun name forbidden => by simp [permitted name forbidden]
      have missing : (requiredFields.filter fun name => !hasField fields name) = [] :=
        List.filter_eq_nil_iff.mpr fun name required => by
          have held : hasField fields name = true := complete name required
          simp [held]
      change List.isEmpty (validateObject false fields requiredFields).issues = true
      simp [validateObject, present, missing]
  | _ => exact permitted.elim

/-! ## The record of the stored answers -/

/-- An answer that was put into the cache, with the call that it was made for. -/
structure Made where
  call : Call
  answer : Json

/-- The router with everything that was put into its cache, the latest first. -/
structure Gateway where
  router : CanonicalModelRouter
  made : List (String × Made)

namespace Gateway

/-- A gateway that was never called. -/
def initial (config : RouterConfig) (maxChars maxEntries : Nat) : Gateway :=
  ⟨.initial config maxChars maxEntries, []⟩

/-- Execute a call and record what it puts into the cache. -/
def step (gateway : Gateway) (call : Call) : Gateway :=
  let execution := gateway.router.execute call
  { router := execution.router
    made := match execution.stored with
      | some (key, answer) => (key.asStr, ⟨call, answer⟩) :: gateway.made
      | none => gateway.made }

/-- What was put last under the key of a call. -/
def origin (gateway : Gateway) (call : Call) : Option Made :=
  (gateway.router.cacheKey? call).bind fun key => latest gateway.made key.asStr

end Gateway

/-- Two calls have the same task, role, instructions and prompt. -/
structure SameRequest (maxChars : Nat) (call other : Call) : Prop where
  taskType : call.request.taskType = other.request.taskType
  agentRole : call.request.agentRole = other.request.agentRole
  systemPrompt : call.systemPrompt = other.systemPrompt
  prompt : buildPrompt maxChars call.request call.systemPrompt =
    buildPrompt maxChars other.request other.systemPrompt

/-- An answer from the cache was made for an earlier call with the same request, and it has the
required fields, so that the validation would accept it. -/
def Transparent (gateway : Gateway) (call : Call) : Prop :=
  ∀ answer, (gateway.router.execute call).hit = some answer →
    ∃ made, gateway.origin call = some made ∧ made.answer = answer ∧
      SameRequest gateway.router.maxChars made.call call ∧
      (∀ name ∈ call.requiredFields, HasField answer name) ∧
      (validate answer call.requiredFields).valid = true

/-- A call that the depth guard lets through, and whose key is in the cache, agrees with the
call that the entry was made for in what the key does not see, and a field that it requires
and the other did not is in the answer. -/
def AgreesWithOrigin (gateway : Gateway) (call : Call) : Prop :=
  depthOf call.request ≤ gateway.router.config.maxDepth →
    ∀ key, gateway.router.cacheKey? call = some key →
      gateway.router.cache.cache.contains key.asStr = true →
        ∀ made, gateway.origin call = some made →
          made.call.request.taskType = call.request.taskType ∧
            made.call.request.agentRole = call.request.agentRole ∧
            made.call.systemPrompt = call.systemPrompt ∧
            dataSection gateway.router.maxChars made.call.request =
              dataSection gateway.router.maxChars call.request ∧
            ∀ name ∈ call.requiredFields, name ∉ made.call.requiredFields →
              HasField made.answer name

/-! ## One call -/

/-- An answer has the fields that its call required, and nothing that is forbidden. -/
def Made.Checked (made : Made) : Prop :=
  (∀ name ∈ made.call.requiredFields, HasField made.answer name) ∧ Permitted made.answer

/-- No cycle has a limit of its tokens. -/
def Unlimited (router : CanonicalModelRouter) : Prop :=
  ∀ cycle ledger, router.cycleBudgets.get cycle = some ledger → ledger.maxTokens = none

theorem Unlimited.booking {router : CanonicalModelRouter} (unlimited : Unlimited router)
    (cycle : String) {ledger : BudgetLedger} (free : ledger.maxTokens = none) :
    Unlimited (router.booking cycle ledger) := by
  intro other held found
  rw [CanonicalModelRouter.booking, Dict.get_set] at found
  split at found
  · rw [← Option.some.inj found]
    exact free
  · exact unlimited other held found

theorem Unlimited.budgetForCycle {router : CanonicalModelRouter} (unlimited : Unlimited router)
    (cycle : String) : (router.budgetForCycle cycle).maxTokens = none := by
  rw [CanonicalModelRouter.budgetForCycle]
  cases found : router.cycleBudgets.get cycle with
  | none => rfl
  | some ledger => exact unlimited cycle ledger found

/-- What a call leaves: no limits, and the entries of the cache, with its answer among them
when it has put a checked one there. -/
structure Leaves (router : CanonicalModelRouter) (call : Call) (execution : Execution) :
    Prop where
  config : execution.router.config = router.config
  maxChars : execution.router.maxChars = router.maxChars
  unlimited : Unlimited execution.router
  entries :
    (execution.stored = none ∧ execution.router.cache.cache = router.cache.cache) ∨
      ∃ key answer, execution.stored = some (key, answer) ∧
        (∃ capacity, execution.router.cache.cache =
          router.cache.cache.putBounded capacity key.asStr answer) ∧
        Made.Checked ⟨call, answer⟩

section Leaves

variable {router : CanonicalModelRouter} (unlimited : Unlimited router) (call : Call)
  {ledger : BudgetLedger} (free : ledger.maxTokens = none)

include unlimited free

theorem settle_leaves (key : Option CacheKey) (bounded : Bounded) :
    Leaves router call (settle router call ledger key bounded) := by
  have committed : (ledger.commit
      (bounded.totalTokens.getD (estimateTokens call.request))).maxTokens = none := free
  have booked := unlimited.booking (cycleOf call.request) committed
  cases key with
  | none => exact ⟨rfl, rfl, booked, .inl ⟨rfl, rfl⟩⟩
  | some key =>
      cases parsed : bounded.parsed with
      | none =>
          have unstored : settle router call ledger (some key) bounded =
              settle router call ledger none bounded := by
            simp [settle, parsed]
          rw [unstored]
          exact ⟨rfl, rfl, booked, .inl ⟨rfl, rfl⟩⟩
      | some raw =>
          by_cases valid : (validate raw call.requiredFields).valid = true ∧
              bounded.status = .valid
          · have stored : (settle router call ledger (some key) bounded).stored =
                some (key, (validate raw call.requiredFields).parsed) := by
              simp [settle, parsed, statusOf, valid.1, valid.2]
            have kept : (settle router call ledger (some key) bounded).router =
                { router.booking (cycleOf call.request)
                    (ledger.commit (bounded.totalTokens.getD (estimateTokens call.request))) with
                  cache := router.cache.put key (validate raw call.requiredFields).parsed } := by
              simp [settle, parsed, statusOf, valid.1, valid.2, booking]
            refine ⟨by rw [kept]; rfl, by rw [kept]; rfl, by rw [kept]; exact booked, .inr ?_⟩
            exact ⟨key, _, stored, ⟨router.cache.maxEntries, by rw [kept]; rfl⟩,
              validate_sound valid.1⟩
          · have unstored : settle router call ledger (some key) bounded =
                settle router call ledger none bounded := by
              by_cases passed : (validate raw call.requiredFields).valid = true
              · have answered : bounded.status ≠ .valid := fun held => valid ⟨passed, held⟩
                simp [settle, parsed, statusOf, passed, answered]
              · simp [settle, parsed, statusOf, passed]
            rw [unstored]
            exact ⟨rfl, rfl, booked, .inl ⟨rfl, rfl⟩⟩

theorem executeModels_leaves (key : Option CacheKey) :
    Leaves router call (executeModels router call ledger key) := by
  rw [executeModels]
  dsimp only
  split
  · exact ⟨rfl, rfl, unlimited.booking _ free, .inl ⟨rfl, rfl⟩⟩
  · exact settle_leaves unlimited call free key _

end Leaves

theorem executeModels_hit (router : CanonicalModelRouter) (call : Call) (ledger : BudgetLedger)
    (key : Option CacheKey) : (executeModels router call ledger key).hit = none := by
  rw [executeModels]
  dsimp only
  split <;> rfl

theorem cache_get_of_none {cache : SnapshotCache} {key : CacheKey}
    (missing : cache.cache.get key.asStr = none) :
    cache.get key = (none, { cache with misses := cache.misses + 1 }) := by
  rw [SnapshotCache.get, missing]

theorem cache_get_of_some {cache : SnapshotCache} {key : CacheKey} {answer : Json}
    (present : cache.cache.get key.asStr = some answer) :
    cache.get key = (some answer, { cache with hits := cache.hits + 1 }) := by
  rw [SnapshotCache.get, present]

/-- A call finds the entry of its key. -/
theorem executeReserved_hit (router : CanonicalModelRouter) (call : Call)
    (ledger : BudgetLedger) :
    (router.executeReserved call ledger).hit =
      (router.cacheKey? call).bind fun key => router.cache.cache.get key.asStr := by
  rw [executeReserved]
  cases keyed : router.cacheKey? call with
  | none => exact executeModels_hit router call ledger none
  | some key =>
      dsimp only [Option.bind_some]
      cases found : router.cache.cache.get key.asStr with
      | none =>
          rw [cache_get_of_none found]
          exact executeModels_hit _ call ledger (some key)
      | some hit =>
          rw [cache_get_of_some found]

theorem executeReserved_leaves {router : CanonicalModelRouter} (unlimited : Unlimited router)
    (call : Call) {ledger : BudgetLedger} (free : ledger.maxTokens = none) :
    Leaves router call (router.executeReserved call ledger) := by
  rw [executeReserved]
  cases router.cacheKey? call with
  | none => exact executeModels_leaves unlimited call free none
  | some key =>
      dsimp only
      cases found : router.cache.cache.get key.asStr with
      | none =>
          rw [cache_get_of_none found]
          have counted : Unlimited
              { router with cache := { router.cache with misses := router.cache.misses + 1 } } :=
            unlimited
          rcases executeModels_leaves counted call free (some key) with
            ⟨config, maxChars, budgets, entries⟩
          exact ⟨config, maxChars, budgets, entries⟩
      | some hit =>
          rw [cache_get_of_some found]
          exact ⟨rfl, rfl, unlimited.booking _ (by exact free), .inl ⟨rfl, rfl⟩⟩

/-- The ledger of a call after the reservation. -/
def reserved (router : CanonicalModelRouter) (call : Call) : BudgetLedger :=
  let ledger := router.budgetForCycle (cycleOf call.request)
  { ledger with reservedTokens := ledger.reservedTokens + estimateTokens call.request }

/-- The budget of a cycle never refuses a call. -/
theorem execute_of_shallow {router : CanonicalModelRouter} (unlimited : Unlimited router)
    {call : Call} (shallow : depthOf call.request ≤ router.config.maxDepth) :
    router.execute call = router.executeReserved call (reserved router call) := by
  have room : (router.budgetForCycle (cycleOf call.request)).canReserve
      (estimateTokens call.request) = true := by
    rw [BudgetLedger.canReserve, unlimited.budgetForCycle]
  have granted : (router.budgetForCycle (cycleOf call.request)).reserve
      (estimateTokens call.request) = (true, reserved router call) := by
    rw [BudgetLedger.reserve, if_pos room]
    rfl
  rw [CanonicalModelRouter.execute, if_neg (Nat.not_lt.mpr shallow)]
  dsimp only
  rw [granted]

theorem execute_of_deep {router : CanonicalModelRouter} {call : Call}
    (deep : router.config.maxDepth < depthOf call.request) :
    router.execute call =
      { router := router, result := .ok (unanswered call "" "" .failed, none), hit := none,
        stored := none } := by
  rw [CanonicalModelRouter.execute, if_pos deep]

theorem execute_leaves {router : CanonicalModelRouter} (unlimited : Unlimited router)
    (call : Call) : Leaves router call (router.execute call) := by
  by_cases shallow : depthOf call.request ≤ router.config.maxDepth
  · rw [execute_of_shallow unlimited shallow]
    exact executeReserved_leaves unlimited call (unlimited.budgetForCycle _)
  · rw [execute_of_deep (Nat.not_le.mp shallow)]
    exact ⟨rfl, rfl, unlimited, .inl ⟨rfl, rfl⟩⟩

/-! ## Runs -/

namespace Gateway

/-- What holds of a gateway in every run. -/
structure Sound (gateway : Gateway) : Prop where
  unlimited : Unlimited gateway.router
  remembers : Remembers Made.answer gateway.router.cache.cache gateway.made
  checked : ∀ put ∈ gateway.made, put.2.Checked

theorem sound_initial (config : RouterConfig) (maxChars maxEntries : Nat) :
    (initial config maxChars maxEntries).Sound where
  unlimited := by
    intro cycle ledger found
    cases found
  remembers := Remembers.empty _
  checked := by
    intro put member
    cases member

theorem Sound.step {gateway : Gateway} (sound : gateway.Sound) (call : Call) :
    (gateway.step call).Sound := by
  have leaves := execute_leaves sound.unlimited call
  rcases leaves.entries with ⟨unstored, same⟩ | ⟨key, answer, stored, ⟨capacity, put⟩, checked⟩
  · have made : (gateway.step call).made = gateway.made := by
      rw [Gateway.step, unstored]
    refine ⟨leaves.unlimited, ?_, ?_⟩
    · rw [made]
      change Remembers Made.answer (gateway.router.execute call).router.cache.cache _
      rw [same]
      exact sound.remembers
    · rw [made]
      exact sound.checked
  · have made : (gateway.step call).made = (key.asStr, ⟨call, answer⟩) :: gateway.made := by
      rw [Gateway.step, stored]
    refine ⟨leaves.unlimited, ?_, ?_⟩
    · rw [made]
      change Remembers Made.answer (gateway.router.execute call).router.cache.cache _
      rw [put]
      exact sound.remembers.put capacity key.asStr ⟨call, answer⟩
    · rw [made]
      intro other member
      rcases List.mem_cons.mp member with rfl | earlier
      · exact checked
      · exact sound.checked other earlier

end Gateway

/-- Prompts with the same sections before the evidence differ in the evidence. -/
theorem buildPrompt_eq_iff {maxChars : Nat} {request other : ModelRequest}
    {systemPrompt : String} (taskType : request.taskType = other.taskType)
    (agentRole : request.agentRole = other.agentRole) :
    buildPrompt maxChars request systemPrompt = buildPrompt maxChars other systemPrompt ↔
      dataSection maxChars request = dataSection maxChars other := by
  rw [buildPrompt, buildPrompt, taskType, agentRole]
  constructor
  · intro same
    exact List.append_cancel_left (String.ofList_injective same)
  · intro same
    rw [same]

theorem transparent_iff_agreesWithOrigin {gateway : Gateway} (sound : gateway.Sound)
    (call : Call) : Transparent gateway call ↔ AgreesWithOrigin gateway call := by
  constructor
  · intro transparent shallow key keyed present made origin
    rcases Option.isSome_iff_exists.mp present with ⟨answer, held⟩
    have hit : (gateway.router.execute call).hit = some answer := by
      rw [execute_of_shallow sound.unlimited shallow, executeReserved_hit, keyed]
      exact held
    rcases transparent answer hit with ⟨found, same, rfl, request, complete, -⟩
    have equal : found = made := Option.some.inj (same.symm.trans origin)
    subst equal
    refine ⟨request.taskType, request.agentRole, request.systemPrompt, ?_, ?_⟩
    · have prompts := request.prompt
      rw [request.systemPrompt] at prompts
      exact (buildPrompt_eq_iff request.taskType request.agentRole).mp prompts
    · intro name required _
      exact complete name required
  · intro agrees answer hit
    by_cases shallow : depthOf call.request ≤ gateway.router.config.maxDepth
    · rw [execute_of_shallow sound.unlimited shallow, executeReserved_hit] at hit
      rcases Option.bind_eq_some_iff.mp hit with ⟨key, keyed, held⟩
      rcases sound.remembers _ _ held with ⟨made, last, rfl⟩
      have origin : gateway.origin call = some made := by
        rw [Gateway.origin, keyed]
        exact last
      have present : gateway.router.cache.cache.contains key.asStr = true := by
        rw [Dict.contains, held]
        rfl
      have checked := sound.checked _ (mem_of_latest last)
      rcases agrees shallow key keyed present made origin with
        ⟨taskType, agentRole, systemPrompt, evidence, others⟩
      have complete : ∀ name ∈ call.requiredFields, HasField made.answer name := by
        intro name required
        by_cases before : name ∈ made.call.requiredFields
        · exact checked.1 name before
        · exact others name required before
      refine ⟨made, origin, rfl, ⟨taskType, agentRole, systemPrompt, ?_⟩, complete,
        validate_valid_of_hasFields checked.2 complete⟩
      rw [systemPrompt]
      exact (buildPrompt_eq_iff taskType agentRole).mpr evidence
    · rw [execute_of_deep (Nat.not_le.mp shallow)] at hit
      cases hit

/-- In a run of calls from an empty cache, the answers from the cache are transparent exactly
when every call that finds its key there agrees with the call that the entry was made for. -/
theorem every_transparent_iff (config : RouterConfig) (maxChars maxEntries : Nat)
    (calls : List Call) :
    Run.Every Gateway.step Transparent (.initial config maxChars maxEntries) calls ↔
      Run.Every Gateway.step AgreesWithOrigin (.initial config maxChars maxEntries) calls :=
  Run.every_iff_of_invariant Gateway.Sound (fun _ call sound => sound.step call)
    (fun _ call sound => transparent_iff_agreesWithOrigin sound call)
    (Gateway.sound_initial config maxChars maxEntries) calls

/-- A model that answers every prompt with one text. -/
def agreeable (_ : Asked) : Except String ModelReply :=
  .ok ⟨.str "range", some 10, none⟩

/-- A call of a role about a snapshot without evidence. -/
def roleCall (agentRole : String) : Call where
  request := {
    agentRole := agentRole
    taskType := "MARKET_SUMMARY"
    riskTier := ""
    complexity := ""
    inputContext := Dict.empty
    requiredCapabilities := []
    maxCost := none
    maxTokens := 1024
    effortPreference := ""
    cachePolicy := "SNAPSHOT_SAFE"
    cycleId := "cycle-1"
    parentTaskId := ""
    strategyVersion := "strategy-1"
    snapshotVersion := "snap-A" }
  systemPrompt := ""
  requiredFields := []
  registry := Dict.empty.set "qwen" ⟨"qwen", "qwen", true, 0, 0, ["chat"]⟩
  answers := agreeable

/-- The answer for one role is given to another role. -/
theorem other_role_answered :
    ¬ Run.Every Gateway.step Transparent (.initial ⟨3, 2⟩ 8000 256)
      [roleCall "market", roleCall "risk"] := by
  intro ⟨_, transparent, _⟩
  have answered : ((((Gateway.initial ⟨3, 2⟩ 8000 256).step (roleCall "market")).router.execute
      (roleCall "risk")).hit).isSome = true := by
    decide +kernel
  have role : (((Gateway.initial ⟨3, 2⟩ 8000 256).step (roleCall "market")).origin
      (roleCall "risk")).map (fun made => made.call.request.agentRole) = some "market" := by
    decide +kernel
  rcases Option.isSome_iff_exists.mp answered with ⟨answer, hit⟩
  rcases transparent answer hit with ⟨made, origin, -, request, -⟩
  rw [origin] at role
  have same := request.agentRole.symm.trans (Option.some.inj role)
  exact absurd same (by decide)

end EaBot.Llm
