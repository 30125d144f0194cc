import EaBot.Agents.Committee

/-!
# The signals of the domains

Agents answer with free records, and an agent may name the domain that it speaks for.  Several
agents may speak for one domain.  The assessment keeps the first signal of each domain that is
not neutral, and looks for conflicts between domains only.

So agents of one domain that contradict each other are not in conflict, and the one that is listed
first decides.  The assessment depends on nothing but the signals exactly when the agents of each
domain agree.
-/

namespace EaBot.Agents

open EaBot.Foundation

/-! ## Answers of agents -/

/-- An entry of the evidence that an agent gives. -/
inductive EvidenceEntry
  | fields (entry : Record)
  | text (content : String)
  | other

/-- What an agent answers: a record of scalars with a list of evidence, or something else. -/
inductive AgentAnswer
  | output (fields : Record) (evidence : Option (List EvidenceEntry))
  | other

namespace AgentAnswer

def domains : List String :=
  ["regime", "structure", "liquidity", "momentum", "volatility", "news"]

/-- The domain that an agent speaks for. -/
def domainOf (name : String) (fields : Record) : String :=
  Text.lower ((firstOf fields ["domain", "department"]).orElse (.str name)).text

/-- The signal of an answer, in upper case. -/
def signalOf (fields : Record) : String :=
  Text.upperWord ((firstOf fields ["signal"]).orElse (.str "NEUTRAL")).text

/-- A number between zero and one. -/
def clamp (value : ℚ) : ℚ :=
  min 1 (max 0 value)

/-- The conversion of a number, with another one in its place when it fails. -/
def floatElse (value : Val) (other : ℚ) : ℚ :=
  value.toFloat.toOption.getD other

/-- The confidence of an answer, zero when it cannot be read. -/
def confidenceOf (fields : Record) : ℚ :=
  clamp (floatElse ((firstOf fields ["confidence"]).orElse (.int 0)) 0)

def kindOf (fields : Record) : EvidenceKind :=
  let kind := Text.upperWord ((fields.get "kind").getD (.str "FACT")).text
  if kind = "INTERPRETATION" then .interpretation
  else if kind = "RECOMMENDATION" then .recommendation
  else .fact

/-- The item that an entry of the evidence makes. -/
def itemOf (agentName domain : String) (confidence : ℚ) : EvidenceEntry → Option EvidenceItem
  | .fields entry =>
      let content := Text.strip
        ((firstOf entry ["content", "reason", "reasoning"]).orElse (.str "")).text
      if content = "" then none
      else
        let quality := (entry.get "quality").getD (.num ⟨confidence, ""⟩)
        some
          { kind := kindOf entry
            content := content
            source := ((firstOf entry ["source"]).orElse (.str agentName)).text
            timeframe := ((firstOf entry ["timeframe"]).orElse (.str "")).text
            quality := clamp (if quality.truthy then floatElse quality confidence else confidence)
            domain := domain }
  | .text content =>
      if Text.strip content = "" then none
      else
        some
          { kind := .fact
            content := Text.strip content
            source := agentName
            timeframe := ""
            quality := confidence
            domain := domain }
  | .other => none

/-- The evidence that the adapter makes of an answer. -/
def toEvidence (agentName domain : String) (fields : Record)
    (evidence : Option (List EvidenceEntry)) : List EvidenceItem :=
  let signal := signalOf fields
  let confidence := confidenceOf fields
  let reading : EvidenceItem :=
    { kind := .interpretation
      content := s!"{agentName} signal={signal}"
      source := agentName
      timeframe := ""
      quality := confidence
      domain := domain }
  let items := reading :: (evidence.getD []).filterMap (itemOf agentName domain confidence)
  if signal ∈ ["BULLISH", "BEARISH", "BUY", "SELL"] ∧
      ¬ items.any fun item => item.kind = .fact then
    items ++
      [{ kind := .recommendation
         content := "[INCOMPLETE] directional claim without supporting evidence"
         source := agentName
         timeframe := ""
         quality := if confidence < Committee.minClaimQuality then 0 else confidence / 2
         domain := domain }]
  else items

/-- The evidence of an agent's answer, none when the answer is no record. -/
def evidenceOf : String × AgentAnswer → List EvidenceItem
  | (name, output fields evidence) => toEvidence name (domainOf name fields) fields evidence
  | (_, other) => []

/-- What an agent reports: its domain and its signal, unless the signal is neutral. -/
def report : String × AgentAnswer → Option (String × String)
  | (name, output fields _) =>
      if signalOf fields = "NEUTRAL" ∨ signalOf fields = "" then none
      else some (domainOf name fields, signalOf fields)
  | (_, other) => none

/-- What the agents report, in the order in which they are listed. -/
def reports (agents : List (String × AgentAnswer)) : List (String × String) :=
  agents.filterMap report

/-- Set a signal of a domain that has none yet. -/
def setDefault (signals : Dict String String) (reported : String × String) :
    Dict String String :=
  match signals.get reported.1 with
  | some _ => signals
  | none => signals.set reported.1 reported.2

/-- The first reported signal of each domain. -/
def domainSignal (agents : List (String × AgentAnswer)) : Dict String String :=
  (reports agents).foldl setDefault Dict.empty

/-- The market assessment of the agents' answers. -/
def buildAssessment (ids : Ids) (symbol traceId higherTimeframeBias : String) (dataQuality : ℚ)
    (agentResults : Dict String AgentAnswer) : MarketAssessment :=
  let signals := domainSignal agentResults.entries
  let reading (domain : String) := (signals.get domain).getD "UNKNOWN"
  { assessmentId := ids.assessment
    traceId := traceId
    symbol := symbol
    regime := reading "regime"
    marketStructure := reading "structure"
    liquidity := reading "liquidity"
    momentum := reading "momentum"
    volatility := reading "volatility"
    news := reading "news"
    evidenceBundle :=
      { id := ids.bundle
        items := agentResults.entries.flatMap evidenceOf }
    conflicts := Committee.detectConflicts ids signals
    higherTimeframeBias := higherTimeframeBias
    dataQuality := dataQuality }

/-! ## Roles as agents -/

/-- The answer of a committee role: its signal, and neither a domain nor a confidence of its
own. -/
def ofRole (role : RoleOutput) : AgentAnswer :=
  .output (Dict.empty.set "signal" (.str role.signal)) none

theorem signalOf_ofRole (role : RoleOutput) :
    signalOf (Dict.empty.set "signal" (.str role.signal)) = Committee.signalOf role := by
  unfold signalOf Committee.signalOf
  have first : firstOf (Dict.empty.set "signal" (.str role.signal)) ["signal"] =
      (Val.str role.signal).orElse .none := rfl
  rw [first]
  by_cases silent : role.signal = ""
  · rw [if_pos silent, silent]
    rfl
  · have heard : (Val.str role.signal).truthy = true := decide_eq_true silent
    have kept : (Val.str role.signal).orElse .none = .str role.signal := if_pos heard
    rw [if_neg silent, kept, Val.orElse, if_pos heard]
    rfl

theorem report_ofRole (name : String) (role : RoleOutput) :
    report (name, ofRole role) =
      if Committee.signalOf role = "NEUTRAL" ∨ Committee.signalOf role = "" then none
      else some (Text.lower name, Committee.signalOf role) := by
  rw [ofRole, report, signalOf_ofRole]
  rfl

theorem evidenceOf_ofRole (name : String) (role : RoleOutput) :
    evidenceOf (name, ofRole role) = Committee.toEvidence name (Text.lower name) role := by
  have confidence : confidenceOf (Dict.empty.set "signal" (.str role.signal)) = 0 := by
    have unread : confidenceOf (Dict.empty.set "signal" (.str role.signal)) = clamp 0 := rfl
    rw [unread, clamp, max_self, min_eq_right zero_le_one]
  have domain : domainOf name (Dict.empty.set "signal" (.str role.signal)) = Text.lower name :=
    rfl
  rw [ofRole, evidenceOf, domain, toEvidence, Committee.toEvidence, signalOf_ofRole, confidence]
  simp

/-- The signals of roles are the ones that the committee finds. -/
theorem domainSignal_ofRole (roles : List (String × RoleOutput)) (signals : Dict String String) :
    (reports (roles.map fun role => (role.1, ofRole role.2))).foldl setDefault signals =
      Committee.domainSignals signals roles := by
  induction roles generalizing signals with
  | nil => rfl
  | cons role rest ih =>
      rcases role with ⟨name, output⟩
      rw [Committee.domainSignals, List.map_cons, reports, List.filterMap_cons, report_ofRole]
      by_cases silent : Committee.signalOf output = "NEUTRAL" ∨ Committee.signalOf output = ""
      · rw [if_pos silent, if_neg fun loud => not_or.mpr ⟨loud.1, loud.2.1⟩ silent]
        exact ih signals
      · rw [if_neg silent]
        rw [not_or] at silent
        dsimp only
        rw [List.foldl_cons, setDefault]
        dsimp only
        cases held : signals.get (Text.lower name) with
        | some signal =>
            rw [if_neg fun loud => Option.some_ne_none _ loud.2.2]
            exact ih signals
        | none =>
            rw [if_pos ⟨silent.1, silent.2, rfl⟩]
            exact ih _

/-- The committee's own assessment is the one of its roles as agents. -/
theorem buildAssessment_ofRole (ids : Ids) (symbol traceId : String)
    (roles : Dict String RoleOutput) (agents : Dict String AgentAnswer)
    (answers : agents.entries = roles.entries.map fun role => (role.1, ofRole role.2)) :
    buildAssessment ids symbol traceId "NEUTRAL" 0 agents =
      Committee.buildAssessment ids symbol traceId roles := by
  have evidence : agents.entries.flatMap evidenceOf = roles.entries.flatMap fun agent =>
      Committee.toEvidence agent.1 (Text.lower agent.1) agent.2 := by
    rw [answers, List.flatMap_map]
    exact congrArg (List.flatMap · roles.entries) (funext fun role => evidenceOf_ofRole _ _)
  have signals : domainSignal agents.entries =
      Committee.domainSignals Dict.empty roles.entries := by
    rw [domainSignal, answers]
    exact domainSignal_ofRole roles.entries Dict.empty
  unfold buildAssessment Committee.buildAssessment
  rw [evidence, signals]

/-! ## First signals -/

theorem get_setDefault (signals : Dict String String) (reported : String × String)
    (domain : String) :
    (setDefault signals reported).get domain =
      (signals.get domain <|>
        if reported.1 = domain then some reported.2 else none) := by
  unfold setDefault
  cases held : signals.get reported.1 with
  | some signal =>
      dsimp only
      by_cases here : reported.1 = domain
      · rw [← here, held]
        rfl
      · rw [if_neg here]
        cases signals.get domain <;> rfl
  | none =>
      dsimp only
      rw [Dict.get_set]
      by_cases here : reported.1 = domain
      · rw [if_pos here.symm, if_pos here, ← here, held]
        rfl
      · rw [if_neg (Ne.symm here), if_neg here]
        cases signals.get domain <;> rfl

/-- A domain has the first signal that is reported for it. -/
theorem get_foldl_setDefault (found : List (String × String)) (signals : Dict String String)
    (domain : String) :
    (found.foldl setDefault signals).get domain =
      (signals.get domain <|>
        (found.find? fun reported => reported.1 = domain).map Prod.snd) := by
  induction found generalizing signals with
  | nil => cases held : signals.get domain <;> simp [held]
  | cons reported rest ih =>
      rw [List.foldl_cons, ih, get_setDefault]
      by_cases here : reported.1 = domain
      · rw [if_pos here, List.find?_cons_of_pos (by simp [here])]
        cases signals.get domain <;> rfl
      · rw [if_neg here, List.find?_cons_of_neg (by simp [here])]
        cases signals.get domain <;> rfl

theorem get_domainSignal (agents : List (String × AgentAnswer)) (domain : String) :
    (domainSignal agents).get domain =
      ((reports agents).find? fun reported => reported.1 = domain).map Prod.snd := by
  rw [domainSignal, get_foldl_setDefault, Dict.get_empty]
  rfl

/-- The agents of each domain report one signal. -/
def Uniform (agents : List (String × AgentAnswer)) : Prop :=
  ∀ first ∈ reports agents, ∀ second ∈ reports agents,
    first.1 ∈ domains → first.1 = second.1 → first.2 = second.2

instance (agents : List (String × AgentAnswer)) : Decidable (Uniform agents) :=
  inferInstanceAs (Decidable (∀ _ ∈ _, ∀ _ ∈ _, _))

/-- Where the agents agree, the signal of a domain is the one that any of them reports. -/
theorem Uniform.get_eq_some_iff {agents : List (String × AgentAnswer)} (uniform : Uniform agents)
    {domain : String} (known : domain ∈ domains) (signal : String) :
    (domainSignal agents).get domain = some signal ↔ (domain, signal) ∈ reports agents := by
  rw [get_domainSignal, Option.map_eq_some_iff]
  constructor
  · rintro ⟨⟨other, reported⟩, found, rfl⟩
    have here : other = domain := by simpa using List.find?_some found
    exact here ▸ List.mem_of_find?_eq_some found
  · intro member
    have some : ((reports agents).find? fun reported => reported.1 = domain).isSome = true :=
      List.find?_isSome.mpr ⟨_, member, decide_eq_true rfl⟩
    obtain ⟨reported, found⟩ := Option.isSome_iff_exists.mp some
    have here : reported.1 = domain := by simpa using List.find?_some found
    refine ⟨reported, found, ?_⟩
    exact uniform reported (List.mem_of_find?_eq_some found) _ member (here ▸ known) here

theorem reports_perm {agents others : List (String × AgentAnswer)} (order : others.Perm agents) :
    (reports others).Perm (reports agents) :=
  order.filterMap report

theorem Uniform.perm {agents others : List (String × AgentAnswer)} (uniform : Uniform agents)
    (order : others.Perm agents) : Uniform others := by
  intro first member second other
  exact uniform first ((reports_perm order).mem_iff.mp member) second
    ((reports_perm order).mem_iff.mp other)

/-- Where the agents agree, their order does not matter. -/
theorem Uniform.get_perm {agents others : List (String × AgentAnswer)} (uniform : Uniform agents)
    (order : others.Perm agents) {domain : String} (known : domain ∈ domains) :
    (domainSignal others).get domain = (domainSignal agents).get domain := by
  apply Option.ext
  intro signal
  rw [(uniform.perm order).get_eq_some_iff known, uniform.get_eq_some_iff known,
    (reports_perm order).mem_iff]

/-! ## What an assessment says -/

/-- The fields of an assessment that stand for domains. -/
def domainFields (assessment : MarketAssessment) : List String :=
  [assessment.regime, assessment.marketStructure, assessment.liquidity, assessment.momentum,
    assessment.volatility, assessment.news]

/-- A conflict without its identifier. -/
def anonymous (conflict : Conflict) : Conflict :=
  { conflict with id := "" }

/-- Two assessments say the same: the same fields and conflicts, and the same action for every
setup. -/
structure SaysSame (assessment other : MarketAssessment) : Prop where
  fields : domainFields assessment = domainFields other
  conflicts : assessment.conflicts.map anonymous = other.conflicts.map anonymous
  action : ∀ (coordinator : CommitteeCoordinator) (ids ids' : Ids) setup entry
    evidenceQuality setupQuality entryQuality dataQuality,
      (coordinator.buildDecision ids assessment setup entry evidenceQuality setupQuality
          entryQuality dataQuality).action =
        (coordinator.buildDecision ids' other setup entry evidenceQuality setupQuality
          entryQuality dataQuality).action

/-- The assessment holds an open conflict of high severity, and the decision is to wait. -/
structure Surfaced (assessment : MarketAssessment) : Prop where
  conflict : ∃ conflict ∈ assessment.conflicts,
    conflict.severity = .high ∧ conflict.resolutionStatus = .unresolved
  waits : ∀ (coordinator : CommitteeCoordinator) ids setup entry evidenceQuality setupQuality
    entryQuality dataQuality,
      (coordinator.buildDecision ids assessment setup entry evidenceQuality setupQuality
        entryQuality dataQuality).action = .wait

/-- The answers are assessed fairly: agents of directional domains with opposite signals are
surfaced, and the order in which the agents are listed changes nothing that the assessment says. -/
structure Fair (results : Dict String AgentAnswer) : Prop where
  surfaced : ∀ bull ∈ reports results.entries, ∀ bear ∈ reports results.entries,
    bull.1 ∈ Committee.directionalDomains → bear.1 ∈ Committee.directionalDomains →
      bull.2 ∈ Committee.words .buy → bear.2 ∈ Committee.words .sell →
        ∀ ids symbol traceId bias quality,
          Surfaced (buildAssessment ids symbol traceId bias quality results)
  ordered : ∀ other : Dict String AgentAnswer, other.entries.Perm results.entries →
    ∀ ids ids' symbol traceId bias quality,
      SaysSame (buildAssessment ids symbol traceId bias quality results)
        (buildAssessment ids' symbol traceId bias quality other)

theorem domainFields_buildAssessment (ids : Ids) (symbol traceId bias : String) (quality : ℚ)
    (results : Dict String AgentAnswer) :
    domainFields (buildAssessment ids symbol traceId bias quality results) =
      domains.map fun domain =>
        ((domainSignal results.entries).get domain).getD "UNKNOWN" := rfl

theorem mem_domains_of_directional {domain : String}
    (directional : domain ∈ Committee.directionalDomains) : domain ∈ domains := by
  revert domain
  decide

/-- The conflicts depend on the signals of the domains only, but for their identifiers. -/
theorem detectConflicts_congr (ids ids' : Ids) {signals others : Dict String String}
    (same : ∀ domain ∈ domains, signals.get domain = others.get domain) :
    (Committee.detectConflicts ids signals).map anonymous =
      (Committee.detectConflicts ids' others).map anonymous := by
  have saying : ∀ words, Committee.domainsSaying signals words =
      Committee.domainsSaying others words := by
    intro words
    apply List.filter_congr
    intro domain directional
    rw [same domain (mem_domains_of_directional directional)]
  have references : ∀ words words',
      (Committee.domainsSaying others words ++ Committee.domainsSaying others words').map
          (fun domain => domain ++ ":" ++ (signals.get domain).getD "None") =
        (Committee.domainsSaying others words ++ Committee.domainsSaying others words').map
          (fun domain => domain ++ ":" ++ (others.get domain).getD "None") := by
    intro words words'
    apply List.map_congr_left
    intro domain member
    have directional : domain ∈ Committee.directionalDomains := by
      rcases List.mem_append.mp member with first | second
      · exact (List.mem_filter.mp first).1
      · exact (List.mem_filter.mp second).1
    rw [same domain (mem_domains_of_directional directional)]
  unfold Committee.detectConflicts
  dsimp only
  rw [saying, saying, references, same "news" (by decide)]
  refine List.map_append.trans (Eq.trans ?_ List.map_append.symm)
  congr 1
  · split <;> rfl
  · split <;> rfl

theorem hasCriticalConflicts_congr {assessment other : MarketAssessment}
    (same : assessment.conflicts.map anonymous = other.conflicts.map anonymous) :
    assessment.hasCriticalConflicts = other.hasCriticalConflicts := by
  have through : ∀ assessment : MarketAssessment, assessment.hasCriticalConflicts =
      (assessment.conflicts.map anonymous).any fun conflict =>
        decide ((conflict.severity = .high ∨ conflict.severity = .critical) ∧
          conflict.resolutionStatus ≠ .resolved) := by
    intro assessment
    rw [List.any_map]
    rfl
  rw [through, through, same]

theorem action_ext {action other : Action}
    (same : ∀ side : Side, action = side.action ↔ other = side.action) : action = other := by
  have buys := same .buy
  have sells := same .sell
  revert buys sells
  cases action <;> cases other <;> decide

/-- The decision follows from the fields of the domains and from the conflicts. -/
theorem SaysSame.of_fields {assessment other : MarketAssessment}
    (fields : domainFields assessment = domainFields other)
    (conflicts : assessment.conflicts.map anonymous = other.conflicts.map anonymous) :
    SaysSame assessment other := by
  refine ⟨fields, conflicts, ?_⟩
  intro coordinator ids ids' setup entry evidenceQuality setupQuality entryQuality dataQuality
  have bias : CommitteeCoordinator.deriveBias assessment =
      CommitteeCoordinator.deriveBias other := by
    simp only [domainFields, List.cons.injEq] at fields
    obtain ⟨regime, marketStructure, liquidity, momentum, -⟩ := fields
    rw [CommitteeCoordinator.deriveBias, CommitteeCoordinator.deriveBias,
      CommitteeCoordinator.readings, CommitteeCoordinator.readings, regime, marketStructure,
      liquidity, momentum]
  apply action_ext
  intro side
  rw [CommitteeCoordinator.buildDecision_action_iff, CommitteeCoordinator.buildDecision_action_iff,
    bias, hasCriticalConflicts_congr conflicts]

/-! ## When the assessment is fair -/

section Assessing

variable (ids : Ids) (symbol traceId bias : String) (quality : ℚ)
  (results : Dict String AgentAnswer)

theorem mem_domainsSaying {agents : List (String × AgentAnswer)} (uniform : Uniform agents)
    {reported : String × String} (member : reported ∈ reports agents)
    (directional : reported.1 ∈ Committee.directionalDomains) {words : List String}
    (said : reported.2 ∈ words) :
    reported.1 ∈ Committee.domainsSaying (domainSignal agents) words := by
  have held := (uniform.get_eq_some_iff (mem_domains_of_directional directional) reported.2).mpr
    member
  refine List.mem_filter.mpr ⟨directional, ?_⟩
  rw [held]
  exact List.contains_iff_mem.mpr said

/-- A domain that says one of the words is read by the coordinator. -/
theorem mem_readings {domain : String} {words : List String}
    (saying : domain ∈ Committee.domainsSaying (domainSignal results.entries) words) :
    ∃ signal ∈ CommitteeCoordinator.readings
      (buildAssessment ids symbol traceId bias quality results), signal ∈ words := by
  have readings : CommitteeCoordinator.readings
      (buildAssessment ids symbol traceId bias quality results) =
        Committee.directionalDomains.map fun domain =>
          ((domainSignal results.entries).get domain).getD "UNKNOWN" := rfl
  obtain ⟨directional, said⟩ := List.mem_filter.mp saying
  obtain ⟨signal, held, known⟩ := (Option.any_eq_true _ _).mp said
  refine ⟨signal, ?_, List.contains_iff_mem.mp known⟩
  rw [readings]
  exact List.mem_map.mpr ⟨domain, directional, by rw [held]; rfl⟩

/-- Two domains that say words of both sides are in conflict, and nothing is traded. -/
theorem surfaced_of_domainsSaying {bull bear : String}
    (buys : bull ∈ Committee.domainsSaying (domainSignal results.entries) (Committee.words .buy))
    (sells : bear ∈ Committee.domainsSaying (domainSignal results.entries)
      (Committee.words .sell)) :
    Surfaced (buildAssessment ids symbol traceId bias quality results) := by
  constructor
  · have both : Committee.domainsSaying (domainSignal results.entries) Committee.bullish ≠ [] ∧
        Committee.domainsSaying (domainSignal results.entries) Committee.bearish ≠ [] :=
      ⟨List.ne_nil_of_mem buys, List.ne_nil_of_mem sells⟩
    rw [buildAssessment, Committee.detectConflicts]
    dsimp only
    rw [if_pos both]
    exact ⟨_, List.mem_append_left _ List.mem_cons_self, rfl, rfl⟩
  · intro coordinator ids' setup entry evidenceQuality setupQuality entryQuality dataQuality
    have heard : ∀ side, ∃ signal ∈ CommitteeCoordinator.readings
        (buildAssessment ids symbol traceId bias quality results),
          signal ∈ Committee.words side := by
      intro side
      cases side with
      | buy => exact mem_readings ids symbol traceId bias quality results buys
      | sell => exact mem_readings ids symbol traceId bias quality results sells
    apply action_ext
    intro side
    rw [CommitteeCoordinator.buildDecision_action_iff]
    have unbiased : CommitteeCoordinator.deriveBias
        (buildAssessment ids symbol traceId bias quality results) ≠ side.bias := by
      intro biased
      exact ((Bias.ofSupport_countP_iff _ Committee.words side).mp biased).2 (heard side.opposite)
    have never : Action.wait ≠ side.action := by
      cases side <;> decide
    exact iff_of_false (fun trades => unbiased trades.2.1) never

end Assessing

theorem Uniform.fair {results : Dict String AgentAnswer} (uniform : Uniform results.entries) :
    Fair results := by
  constructor
  · intro bull buys bear sells bullDirectional bearDirectional bullish bearish ids symbol
      traceId bias quality
    exact surfaced_of_domainsSaying ids symbol traceId bias quality results
      (mem_domainsSaying uniform buys bullDirectional bullish)
      (mem_domainsSaying uniform sells bearDirectional bearish)
  · intro other order ids ids' symbol traceId bias quality
    have same : ∀ domain ∈ domains, (domainSignal results.entries).get domain =
        (domainSignal other.entries).get domain :=
      fun domain known => (uniform.get_perm order known).symm
    apply SaysSame.of_fields
    · rw [domainFields_buildAssessment, domainFields_buildAssessment]
      exact List.map_congr_left fun domain known => congrArg (·.getD "UNKNOWN") (same domain known)
    · exact detectConflicts_congr ids ids' same

/-- Any agent that reports may be listed first, and then its signal is the one of its domain. -/
theorem exists_leading {results : Dict String AgentAnswer} {reported : String × String}
    (member : reported ∈ reports results.entries) :
    ∃ other : Dict String AgentAnswer, other.entries.Perm results.entries ∧
      (domainSignal other.entries).get reported.1 = some reported.2 := by
  obtain ⟨agent, listed, reports⟩ := List.mem_filterMap.mp member
  obtain ⟨before, after, split⟩ := List.mem_iff_append.mp listed
  have order : (agent :: (before ++ after)).Perm results.entries := by
    rw [split]
    exact List.perm_middle.symm
  have distinct : ((agent :: (before ++ after)).map Prod.fst).Nodup :=
    (order.map Prod.fst).nodup_iff.mpr results.distinct
  refine ⟨⟨agent :: (before ++ after), distinct⟩, order, ?_⟩
  rw [get_domainSignal, AgentAnswer.reports, List.filterMap_cons, reports]
  dsimp only
  rw [List.find?_cons_of_pos (by simp)]
  rfl

theorem Fair.uniform {results : Dict String AgentAnswer} (fair : Fair results) :
    Uniform results.entries := by
  -- the field of a domain is the signal of any agent that speaks for it
  have field : ∀ reported ∈ reports results.entries, reported.1 ∈ domains →
      ((domainSignal results.entries).get reported.1).getD "UNKNOWN" = reported.2 := by
    intro reported member known
    obtain ⟨other, order, leads⟩ := exists_leading member
    let ids : Ids := ⟨"", "", "", "", "", fun _ => ""⟩
    have same := (fair.ordered other order ids ids "" "" "" 0).fields
    rw [domainFields_buildAssessment, domainFields_buildAssessment] at same
    have here := List.map_inj_left.mp same reported.1 known
    rw [here, leads]
    rfl
  intro first firstMember second secondMember known same
  have ofFirst := field first firstMember known
  have ofSecond := field second secondMember (same ▸ known)
  rw [← ofFirst, ← ofSecond, same]

/-- The assessment is fair when the agents of each domain agree, and only then. -/
theorem fair_iff_uniform (results : Dict String AgentAnswer) :
    Fair results ↔ Uniform results.entries :=
  ⟨Fair.uniform, Uniform.fair⟩

/-- Two agents of the structure of the market that contradict each other. -/
def contested : Dict String AgentAnswer :=
  ⟨[("structure", .output (Dict.empty.set "signal" (.str "BULLISH")) none),
    ("swing",
      .output ((Dict.empty.set "domain" (.str "structure")).set "signal" (.str "BEARISH")) none)],
    by decide⟩

/-- Their contradiction is not surfaced: the first one alone decides. -/
theorem contested_unfair : ¬Fair contested := by
  intro fair
  have disagree : ¬Uniform contested.entries := by decide
  exact disagree fair.uniform

end AgentAnswer

end EaBot.Agents
