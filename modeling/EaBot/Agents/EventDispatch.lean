import EaBot.Foundation.Text

/-!
# Event-driven dispatch of the committee

An event is classified into a trigger, an analysis level and the roles that it concerns.  The
committee runs for a trigger that needs specialists, and for the approach of an entry trigger
when there is a setup; it does not run when nothing has changed.
-/

namespace EaBot.Agents

open EaBot.Foundation

inductive Level
  | deterministic
  | specialist
  | marketLead
  | challenge
  | entry
deriving DecidableEq

def Level.name : Level → String
  | deterministic => "DETERMINISTIC"
  | specialist => "SPECIALIST"
  | marketLead => "MARKET_LEAD"
  | challenge => "TARGETED_CHALLENGE"
  | entry => "ENTRY_COMMITTEE"

inductive Trigger
  | newContext
  | regimeChange
  | structureBreak
  | liquidityEvent
  | setupFormed
  | setupInvalidated
  | approaching
  | newsEvent
  | positionEvent
  | reviewEvent
deriving DecidableEq

def Trigger.text : Trigger → String
  | newContext => "NEW_MARKET_CONTEXT"
  | regimeChange => "REGIME_CHANGE"
  | structureBreak => "STRUCTURE_BREAK"
  | liquidityEvent => "LIQUIDITY_EVENT"
  | setupFormed => "SETUP_FORMED"
  | setupInvalidated => "SETUP_INVALIDATED"
  | approaching => "TRIGGER_APPROACHING"
  | newsEvent => "NEWS_EVENT"
  | positionEvent => "POSITION_EVENT"
  | reviewEvent => "REVIEW_EVENT"

/-- A classified event. -/
structure EventClass where
  trigger : Trigger
  level : Level
  roles : List String
deriving DecidableEq

/-- What the committee does for an event. -/
structure DispatchDecision where
  runCommittee : Bool
  level : Level
  roles : List String
  reason : String
  useCache : Bool
deriving DecidableEq

def eventMap : List (String × EventClass) :=
  [("STRUCTURE_BREAK", ⟨.structureBreak, .specialist, ["structure", "regime"]⟩),
    ("STRUCTURE_ANALYSIS", ⟨.newContext, .specialist, ["structure"]⟩),
    ("BOS", ⟨.structureBreak, .specialist, ["structure", "regime"]⟩),
    ("CHOCH", ⟨.structureBreak, .specialist, ["structure", "regime"]⟩),
    ("PRICE_ACTION", ⟨.newContext, .specialist, ["structure", "momentum"]⟩),
    ("LEVEL_SCAN", ⟨.liquidityEvent, .specialist, ["liquidity", "structure"]⟩),
    ("MARKET_STRUCTURE", ⟨.structureBreak, .specialist, ["structure", "regime"]⟩),
    ("TREND_DETECT", ⟨.regimeChange, .specialist, ["regime", "momentum"]⟩),
    ("TREND_BULLISH", ⟨.regimeChange, .specialist, ["regime", "momentum"]⟩),
    ("TREND_BEARISH", ⟨.regimeChange, .specialist, ["regime", "momentum"]⟩),
    ("REGIME_CHANGE", ⟨.regimeChange, .specialist, ["regime"]⟩),
    ("LIQUIDITY_SWEEP", ⟨.liquidityEvent, .specialist, ["liquidity", "structure"]⟩),
    ("STOP_RUN", ⟨.liquidityEvent, .specialist, ["liquidity"]⟩),
    ("VOLATILITY_SPIKE", ⟨.newContext, .specialist, ["volatility"]⟩),
    ("VOLATILITY_REGIME", ⟨.newContext, .specialist, ["volatility", "regime"]⟩),
    ("NEWS_HIGH_IMPACT", ⟨.newsEvent, .specialist, ["news"]⟩),
    ("NEWS_PROXIMITY", ⟨.newsEvent, .specialist, ["news"]⟩),
    ("MACRO_EVENT", ⟨.newsEvent, .specialist, ["news"]⟩),
    ("POSITION_OPENED", ⟨.positionEvent, .deterministic, []⟩),
    ("POSITION_CLOSED", ⟨.positionEvent, .deterministic, []⟩),
    ("TRADE_CLOSE", ⟨.reviewEvent, .deterministic, []⟩),
    ("POST_TRADE_REVIEW", ⟨.reviewEvent, .deterministic, []⟩),
    ("TRIGGER_APPROACHING", ⟨.approaching, .entry, ["entry"]⟩),
    ("ZONE_TOUCH", ⟨.approaching, .entry, ["entry", "structure"]⟩),
    ("SETUP_FORMED", ⟨.setupFormed, .marketLead, ["regime", "structure", "momentum"]⟩),
    ("SETUP_INVALIDATED", ⟨.setupInvalidated, .deterministic, []⟩),
    ("TRIGGER_CANDIDATE", ⟨.approaching, .entry, ["entry"]⟩),
    ("MICRO_BOS", ⟨.approaching, .entry, ["entry", "structure"]⟩),
    ("DISPLACEMENT", ⟨.approaching, .entry, ["entry", "momentum"]⟩),
    ("REJECTION", ⟨.approaching, .entry, ["entry", "structure"]⟩),
    ("CANDLE_CLOSE", ⟨.approaching, .entry, ["entry"]⟩),
    ("SETUP_EXPIRED", ⟨.setupInvalidated, .deterministic, []⟩)]

/-- The roles that the dispatch table names. -/
def knownRoles : List String :=
  ["regime", "structure", "liquidity", "momentum", "volatility", "news", "entry"]

/-- Whether a text starts with another one. -/
def startsWith (text start : String) : Bool :=
  start.toList.isPrefixOf text.toList

/-- The class of an event type; an unknown one needs deterministic checks only. -/
def classifyEvent (eventType : String) : EventClass :=
  let raw := Text.upperWord (if eventType = "" then "UNKNOWN" else eventType)
  match eventMap.lookup raw with
  | some known => known
  | none =>
      if startsWith raw "MARKET_" then ⟨.newContext, .specialist, ["structure", "regime"]⟩
      else if ["RISK_", "DRAWDOWN_", "MARGIN_"].any (startsWith raw) then
        ⟨.positionEvent, .deterministic, []⟩
      else ⟨.newContext, .deterministic, []⟩

/-- Whether the committee runs for an event, and with which roles. -/
def decideDispatch (eventType : String) (stateChanged hasSetup : Bool) : DispatchDecision :=
  let classified := classifyEvent eventType
  if !stateChanged then
    { runCommittee := false
      level := .deterministic
      roles := []
      reason := "NO_FULL_COMMITTEE: no meaningful state change (cached evidence reused)."
      useCache := true }
  else if hasSetup ∧ classified.trigger = .approaching then
    { runCommittee := true
      level := .entry
      roles := if classified.roles.isEmpty then ["entry"] else classified.roles
      reason := "ENTRY_COMMITTEE: setup exists and trigger approaching."
      useCache := false }
  else if classified.level = .deterministic ∧ classified.roles.isEmpty then
    { runCommittee := false
      level := .deterministic
      roles := []
      reason :=
        s!"Deterministic-only trigger {classified.trigger.text}; no specialists needed."
      useCache := false }
  else
    { runCommittee := true
      level := classified.level
      roles := classified.roles
      reason := s!"Trigger {classified.trigger.text} requires {classified.level.name}."
      useCache := false }

/-- A class above the deterministic level names its roles. -/
theorem classifyEvent_roles (eventType : String)
    (above : (classifyEvent eventType).level ≠ .deterministic) :
    (classifyEvent eventType).roles ≠ [] := by
  have table : ∀ known ∈ eventMap, known.2.level ≠ .deterministic → known.2.roles ≠ [] := by
    decide
  unfold classifyEvent at above ⊢
  generalize Text.upperWord (if eventType = "" then "UNKNOWN" else eventType) = raw at above ⊢
  dsimp only at above ⊢
  cases found : eventMap.lookup raw with
  | some known =>
      rw [found] at above
      have entry := List.lookup_eq_some_iff.mp found
      obtain ⟨before, after, split, -⟩ := entry
      exact table (raw, known) (split ▸ by simp) above
  | none =>
      rw [found] at above
      dsimp only at above ⊢
      by_cases market : startsWith raw "MARKET_" = true
      · rw [if_pos market]
        exact List.cons_ne_nil _ _
      · rw [if_neg market] at above
        split at above <;> exact absurd rfl above

/-- The roles of a class are ones that the committee knows. -/
theorem classifyEvent_roles_subset (eventType : String) :
    ∀ role ∈ (classifyEvent eventType).roles, role ∈ knownRoles := by
  have table : ∀ known ∈ eventMap, ∀ role ∈ known.2.roles, role ∈ knownRoles := by
    decide
  unfold classifyEvent
  generalize Text.upperWord (if eventType = "" then "UNKNOWN" else eventType) = raw
  dsimp only
  cases found : eventMap.lookup raw with
  | some known =>
      obtain ⟨before, after, split, -⟩ := List.lookup_eq_some_iff.mp found
      exact table (raw, known) (split ▸ by simp)
  | none =>
      dsimp only
      split
      · decide
      · split <;> exact nofun

theorem decideDispatch_roles_subset (eventType : String) (stateChanged hasSetup : Bool) :
    ∀ role ∈ (decideDispatch eventType stateChanged hasSetup).roles, role ∈ knownRoles := by
  have subset := classifyEvent_roles_subset eventType
  unfold decideDispatch
  generalize classifyEvent eventType = classified at subset
  dsimp only
  split
  · exact nofun
  · split
    · split
      · decide
      · exact subset
    · split
      · exact nofun
      · exact subset

/-- A committee that runs has roles to ask, whatever the event. -/
theorem decideDispatch_roles (eventType : String) (stateChanged hasSetup : Bool)
    (runs : (decideDispatch eventType stateChanged hasSetup).runCommittee = true) :
    (decideDispatch eventType stateChanged hasSetup).roles ≠ [] := by
  have above := classifyEvent_roles eventType
  unfold decideDispatch at runs ⊢
  generalize classifyEvent eventType = classified at above runs ⊢
  dsimp only at runs ⊢
  by_cases changed : stateChanged = true
  · rw [if_neg (by simp [changed])] at runs ⊢
    by_cases approaching : hasSetup = true ∧ classified.trigger = .approaching
    · rw [if_pos approaching]
      cases held : classified.roles <;> simp
    · rw [if_neg approaching] at runs ⊢
      by_cases idle : classified.level = .deterministic ∧ classified.roles.isEmpty = true
      · rw [if_pos idle] at runs
        cases runs
      · rw [if_neg idle]
        by_cases low : classified.level = .deterministic
        · intro empty
          exact idle ⟨low, List.isEmpty_iff.mpr empty⟩
        · exact above low
  · rw [if_pos (by simp [changed])] at runs
    cases runs

end EaBot.Agents
