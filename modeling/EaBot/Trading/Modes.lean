import EaBot.Readiness.LiveReadinessGate

/-!
# The trading modes

The manager owns the mode of the system and a bounded history of its transitions.  It
enters LIVE through the readiness gate only; every other mode is entered without a word to
the gate.
-/

namespace EaBot.Trading

open EaBot.Readiness

/-- The modes of the system. -/
inductive TradingMode
  | offline | research | backtest | paper | demo | live | emergencyStop | off
deriving DecidableEq

namespace TradingMode

/-- The name of a mode. -/
def value : TradingMode → String
  | offline => "OFFLINE"
  | research => "RESEARCH"
  | backtest => "BACKTEST"
  | paper => "PAPER"
  | demo => "DEMO"
  | live => "LIVE"
  | emergencyStop => "EMERGENCY_STOP"
  | off => "OFF"

/-- The modes that are always safe to enter. -/
def safeModes : List TradingMode :=
  [emergencyStop, offline, off, research]

end TradingMode

/-- A blocked transition. -/
structure TradingModeError where
  text : String
deriving DecidableEq

/-- A transition, or an attempt at one. -/
structure ModeTransitionRecord where
  fromMode : TradingMode
  toMode : TradingMode
  reason : String
  timestamp : String
  allowed : Bool
  actor : String

/-- The mode and its history. -/
structure TradingModeManager where
  mode : TradingMode
  historyLimit : Nat
  history : List ModeTransitionRecord

namespace TradingModeManager

/-- A new manager.  It keeps one record at least. -/
def initial (mode : TradingMode) (historyLimit : Int) : TradingModeManager :=
  ⟨mode, (max 1 historyLimit).toNat, []⟩

/-- Keep a record, and as many of the last ones as there is room for. -/
def append (manager : TradingModeManager) (record : ModeTransitionRecord) : TradingModeManager :=
  let history := manager.history ++ [record]
  { manager with history := history.drop (history.length - manager.historyLimit) }

/-- Enter a mode. -/
def commit (manager : TradingModeManager) (toMode : TradingMode) (reason actor now : String) :
    ModeTransitionRecord × TradingModeManager :=
  let record : ModeTransitionRecord := ⟨manager.mode, toMode, reason, now, true, actor⟩
  (record, { manager with mode := toMode }.append record)

/-- Keep the record of a blocked attempt. -/
def recordBlocked (manager : TradingModeManager) (toMode : TradingMode)
    (reason actor now : String) : TradingModeManager :=
  manager.append ⟨manager.mode, toMode, reason, now, false, actor⟩

/-- A blocked attempt to enter LIVE. -/
def blocked (manager : TradingModeManager) (gate : Option LiveReadinessGate)
    (detail reason actor now : String) :
    Except TradingModeError ModeTransitionRecord × TradingModeManager ×
      Option LiveReadinessGate :=
  (.error ⟨"LIVE transition blocked — " ++ detail⟩, manager.recordBlocked .live reason actor now,
    gate)

/-- Enter LIVE.  The gate is asked whether it is ready, and then it activates. -/
def enterLive (manager : TradingModeManager) (gate : Option LiveReadinessGate)
    (confirmation reason actor now : String) :
    Except TradingModeError ModeTransitionRecord × TradingModeManager ×
      Option LiveReadinessGate :=
  match gate with
  | none =>
      manager.blocked none "readiness gate not PASSED (PRD_V2 §23/§19.10)." reason actor now
  | some gate =>
      if ¬ gate.isReady then
        manager.blocked (some gate) "readiness gate not PASSED (PRD_V2 §23/§19.10)." reason actor
          now
      else if confirmation ≠ liveConfirmationPhrase then
        manager.blocked (some gate) "confirmation phrase mismatch." reason actor now
      else
        match gate.activateLive confirmation actor now with
        | (.error raised, gate) => manager.blocked (some gate) raised.text reason actor now
        | (.ok _, gate) =>
            let entered := manager.commit .live reason actor now
            (.ok entered.1, entered.2, some gate)

/-- Try a transition. -/
def transition (manager : TradingModeManager) (gate : Option LiveReadinessGate)
    (toMode : TradingMode) (confirmation reason actor now : String) :
    Except TradingModeError ModeTransitionRecord × TradingModeManager ×
      Option LiveReadinessGate :=
  if toMode ∈ TradingMode.safeModes then
    let entered := manager.commit toMode reason actor now
    (.ok entered.1, entered.2, gate)
  else if toMode = .live then manager.enterLive gate confirmation reason actor now
  else
    let entered := manager.commit toMode reason actor now
    (.ok entered.1, entered.2, gate)

/-- Force a downgrade. -/
def forceDowngrade (manager : TradingModeManager) (toMode : TradingMode)
    (reason actor now : String) :
    Except TradingModeError ModeTransitionRecord × TradingModeManager :=
  if toMode ∉ TradingMode.safeModes ∧ toMode ∉ [TradingMode.paper, .backtest] then
    (.error ⟨s!"force_downgrade cannot enter {toMode.value}; use transition()"⟩, manager)
  else
    let entered := manager.commit toMode reason actor now
    (.ok entered.1, entered.2)

/-- A transition to another mode than LIVE is never blocked and leaves the gate. -/
theorem transition_of_ne_live (manager : TradingModeManager) (gate : Option LiveReadinessGate)
    {toMode : TradingMode} (other : toMode ≠ .live) (confirmation reason actor now : String) :
    manager.transition gate toMode confirmation reason actor now =
      (.ok (manager.commit toMode reason actor now).1, (manager.commit toMode reason actor now).2,
        gate) := by
  rw [transition]
  by_cases safe : toMode ∈ TradingMode.safeModes
  · rw [if_pos safe]
  · rw [if_neg safe, if_neg other]

theorem transition_live (manager : TradingModeManager) (gate : Option LiveReadinessGate)
    (confirmation reason actor now : String) :
    manager.transition gate .live confirmation reason actor now =
      manager.enterLive gate confirmation reason actor now := by
  rw [transition, if_neg (by decide), if_pos rfl]

/-- An attempt to enter LIVE leaves both sides as they are, or finds every gate passed and
activates both sides. -/
theorem enterLive_cases (manager : TradingModeManager) (gate : LiveReadinessGate)
    (confirmation reason actor now : String) :
    ((manager.enterLive (some gate) confirmation reason actor now).2.1.mode = manager.mode ∧
        (manager.enterLive (some gate) confirmation reason actor now).2.2 = some gate) ∨
      ∃ activated : LiveReadinessGate,
        (manager.enterLive (some gate) confirmation reason actor now).2.1.mode = .live ∧
        (manager.enterLive (some gate) confirmation reason actor now).2.2 = some activated ∧
        activated.isLive = true ∧ activated.AllPassed := by
  rw [enterLive]
  by_cases unready : ¬ gate.isReady = true
  · simp only [if_pos unready]
    exact .inl ⟨rfl, rfl⟩
  · simp only [if_neg unready]
    by_cases mistyped : confirmation ≠ liveConfirmationPhrase
    · rw [if_pos mistyped]
      exact .inl ⟨rfl, rfl⟩
    · rw [if_neg mistyped]
      rcases gate.activateLive_cases confirmation actor now with
        ⟨⟨raised, refused⟩, same⟩ | ⟨⟨record, answered⟩, passed, results, live⟩
      · rw [← Prod.mk.eta (p := gate.activateLive confirmation actor now), refused, same]
        exact .inl ⟨rfl, rfl⟩
      · rw [← Prod.mk.eta (p := gate.activateLive confirmation actor now), answered]
        refine .inr ⟨_, rfl, rfl, live, ?_⟩
        rw [LiveReadinessGate.AllPassed, results]
        exact passed

/-- A forced downgrade enters one of the safe modes, PAPER or BACKTEST. -/
def Downgrades (toMode : TradingMode) : Prop :=
  toMode ∈ TradingMode.safeModes ∨ toMode ∈ [TradingMode.paper, .backtest]

instance (toMode : TradingMode) : Decidable (Downgrades toMode) :=
  inferInstanceAs (Decidable (_ ∨ _))

theorem Downgrades.ne_live {toMode : TradingMode} (downgrades : Downgrades toMode) :
    toMode ≠ .live := by
  rintro rfl
  revert downgrades
  decide

theorem forceDowngrade_mode (manager : TradingModeManager) (toMode : TradingMode)
    (reason actor now : String) :
    (manager.forceDowngrade toMode reason actor now).2.mode =
      if Downgrades toMode then toMode else manager.mode := by
  rw [forceDowngrade]
  by_cases refused : toMode ∉ TradingMode.safeModes ∧ toMode ∉ [TradingMode.paper, .backtest]
  · have stays : ¬ Downgrades toMode := not_or.mpr refused
    rw [if_pos refused, if_neg stays]
  · have downgrades : Downgrades toMode := by
      by_contra neither
      exact refused (not_or.mp neither)
    rw [if_neg refused, if_pos downgrades]
    rfl

end TradingModeManager

end EaBot.Trading
