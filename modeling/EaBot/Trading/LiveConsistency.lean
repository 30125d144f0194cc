import EaBot.Foundation.Run
import EaBot.Trading.Modes

/-!
# The mode of the manager and the activation of the gate

The manager and the gate each keep live trading as a state of their own, and they speak to
each other only when the manager enters LIVE.  A gate that drops its activation does not
tell the manager, a downgrade of the manager does not tell the gate, and a gate that is
registered while live trading is active leaves the activation.
-/

namespace EaBot.Trading

open EaBot.Foundation EaBot.Readiness

/-- A manager with its gate.  `leftLive` says that the manager has left LIVE and has not
entered it again. -/
structure LiveControl where
  manager : TradingModeManager
  gate : LiveReadinessGate
  leftLive : Bool

namespace LiveControl

/-- An operation of the manager or of the gate. -/
inductive Operation
  | transition (toMode : TradingMode) (confirmation reason actor : String)
  | forceDowngrade (toMode : TradingMode) (reason actor : String)
  | register (name : String)
  | submit (name : String) (passed : Bool) (evidence : Record) (reason : String)
  | revoke (name reason : String)
  | activateLive (confirmation activatedBy : String)
  | deactivateLive (reason : String)

/-- The manager leaves LIVE in a step, or has left it before and does not enter it. -/
def leaves (control : LiveControl) (manager : TradingModeManager) : Bool :=
  (control.leftLive || control.manager.mode = .live) && manager.mode ≠ .live

/-- The manager takes a step. -/
def moved (control : LiveControl) (manager : TradingModeManager) (gate : LiveReadinessGate) :
    LiveControl :=
  ⟨manager, gate, control.leaves manager⟩

/-- One operation, at a time. -/
def step (control : LiveControl) : String × Operation → LiveControl
  | (now, .transition toMode confirmation reason actor) =>
      let (_, manager, gate) := control.manager.transition (some control.gate) toMode confirmation
        reason actor now
      control.moved manager (gate.getD control.gate)
  | (now, .forceDowngrade toMode reason actor) =>
      control.moved (control.manager.forceDowngrade toMode reason actor now).2 control.gate
  | (now, .register name) => { control with gate := control.gate.register name now }
  | (now, .submit name passed evidence reason) =>
      { control with gate := (control.gate.submit name passed evidence reason now).2 }
  | (now, .revoke name reason) => { control with gate := (control.gate.revoke name reason now).2 }
  | (now, .activateLive confirmation activatedBy) =>
      { control with gate := (control.gate.activateLive confirmation activatedBy now).2 }
  | (now, .deactivateLive reason) =>
      { control with gate := (control.gate.deactivateLive reason now).2 }

/-- The manager is in LIVE only while the gate is live, the gate is live only while every
gate has passed, and it is not live once the manager has left LIVE. -/
structure Consistent (control : LiveControl) : Prop where
  manager : control.manager.mode = .live → control.gate.isLive = true
  gate : control.gate.Sound
  left : control.leftLive = true → control.gate.isLive = false

/-- While live trading is active no unknown gate is registered, and while the manager is in
LIVE no gate fails or is set back, the activation is not ended and no other mode is entered. -/
def Undisturbed (control : LiveControl) : String × Operation → Prop
  | (_, .transition toMode _ _ _) => control.manager.mode = .live → toMode = .live
  | (_, .forceDowngrade toMode _ _) =>
      control.manager.mode = .live → ¬ TradingModeManager.Downgrades toMode
  | (_, .register name) => control.gate.isLive = true → control.gate.results.contains name = true
  | (_, .submit name passed evidence reason) =>
      control.manager.mode = .live → passed = true ∨
        ¬ control.gate.RecordsFailure name evidence reason
  | (_, .revoke name _) =>
      control.manager.mode = .live → control.gate.results.contains name = false
  | (_, .activateLive _ _) => True
  | (_, .deactivateLive _) => control.manager.mode ≠ .live

/-- A consistent state in which the manager has never left LIVE. -/
structure Settled (control : LiveControl) : Prop extends Consistent control where
  never : control.leftLive = false

variable {control : LiveControl}

theorem leaves_of_same {manager : TradingModeManager} (never : control.leftLive = false)
    (same : manager.mode = control.manager.mode) : control.leaves manager = false := by
  rw [leaves, never, same]
  by_cases live : control.manager.mode = .live <;> simp [live]

/-- An operation of the gate alone keeps the state settled when the gate stays sound and does
not drop its activation while the manager is in LIVE. -/
theorem Settled.of_gate (settled : control.Settled) {gate : LiveReadinessGate}
    (sound : gate.Sound)
    (stays : control.manager.mode = .live → gate.isLive = true) :
    Settled { control with gate := gate } where
  manager := stays
  gate := sound
  left := fun left => absurd (settled.never.symm.trans left) Bool.false_ne_true
  never := settled.never

/-- A gate that drops its activation while the manager is in LIVE makes the state
inconsistent. -/
theorem not_consistent_of_dropped {gate : LiveReadinessGate}
    (live : control.manager.mode = .live) (dropped : gate.isLive = false) :
    ¬ Consistent { control with gate := gate } := by
  intro consistent
  exact absurd (dropped.symm.trans (consistent.manager live)) Bool.false_ne_true

/-- The manager that leaves LIVE leaves the gate live. -/
theorem not_consistent_of_left (settled : control.Settled)
    (live : control.manager.mode = .live) {manager : TradingModeManager}
    (leaves : manager.mode ≠ .live) : ¬ (control.moved manager control.gate).Consistent := by
  intro consistent
  have left : control.leaves manager = true := by simp [LiveControl.leaves, live, leaves]
  exact absurd ((consistent.left left).symm.trans (settled.manager live)) Bool.false_ne_true

/-- The manager that moves between other modes keeps the state settled. -/
theorem Settled.of_idle (settled : control.Settled) (idle : control.manager.mode ≠ .live)
    {manager : TradingModeManager} (other : manager.mode ≠ .live) :
    (control.moved manager control.gate).Settled := by
  have never : control.leaves manager = false := by
    simp [LiveControl.leaves, settled.never, idle]
  exact
    { manager := fun live => absurd live other
      gate := settled.gate
      left := fun left => absurd (never.symm.trans left) Bool.false_ne_true
      never := never }

/-- An attempt of the manager to enter LIVE keeps the state settled. -/
theorem Settled.enterLive (settled : control.Settled) (confirmation reason actor now : String) :
    (control.step (now, .transition .live confirmation reason actor)).Settled := by
  rw [step, TradingModeManager.transition_live]
  rcases control.manager.enterLive_cases control.gate confirmation reason actor now with
    ⟨same, kept⟩ | ⟨activated, entered, given, live, passed⟩
  · simp only [kept, Option.getD_some]
    have never := leaves_of_same settled.never same
    exact
      { manager := fun live => settled.manager (same.symm.trans live)
        gate := settled.gate
        left := fun left => absurd (never.symm.trans left) Bool.false_ne_true
        never := never }
  · simp only [given, Option.getD_some]
    have never : control.leaves (control.manager.enterLive (some control.gate) confirmation reason
        actor now).2.1 = false := by
      simp [LiveControl.leaves, entered]
    exact
      { manager := fun _ => live
        gate := fun _ => passed
        left := fun left => absurd (never.symm.trans left) Bool.false_ne_true
        never := never }

theorem step_transition {toMode : TradingMode} (other : toMode ≠ .live)
    (confirmation reason actor now : String) :
    control.step (now, .transition toMode confirmation reason actor) =
      control.moved (control.manager.commit toMode reason actor now).2 control.gate := by
  rw [step, TradingModeManager.transition_of_ne_live _ _ other]
  rfl

/-- An operation that disturbs nothing keeps the state settled. -/
theorem Settled.step (settled : control.Settled) {input : String × Operation}
    (undisturbed : control.Undisturbed input) : (control.step input).Settled := by
  rcases input with ⟨now, operation⟩
  cases operation with
  | transition toMode confirmation reason actor =>
      by_cases target : toMode = .live
      · rw [target]
        exact settled.enterLive confirmation reason actor now
      · rw [step_transition target]
        exact settled.of_idle (fun live => target (undisturbed live)) target
  | forceDowngrade toMode reason actor =>
      have mode := control.manager.forceDowngrade_mode toMode reason actor now
      by_cases downgrades : TradingModeManager.Downgrades toMode
      · rw [if_pos downgrades] at mode
        exact settled.of_idle (fun live => undisturbed live downgrades)
          (by rw [mode]; exact downgrades.ne_live)
      · rw [if_neg downgrades] at mode
        have never := leaves_of_same settled.never mode
        exact
          { manager := fun live => settled.manager (mode.symm.trans live)
            gate := settled.gate
            left := fun left => absurd (never.symm.trans left) Bool.false_ne_true
            never := never }
  | register name =>
      apply settled.of_gate
        ((control.gate.sound_register_iff settled.gate name now).mpr undisturbed)
      intro live
      rw [LiveReadinessGate.isLive_register]
      exact settled.manager live
  | submit name passed evidence reason =>
      apply settled.of_gate (settled.gate.submit name passed evidence reason now)
      intro live
      cases passed with
      | true =>
          rcases control.gate.submit_passed name evidence reason now with same | written
          · rw [same]
            exact settled.manager live
          · rw [written]
            exact settled.manager live
      | false =>
          rcases undisturbed live with passed | ignored
          · cases passed
          · rw [control.gate.submit_ignored ignored]
            exact settled.manager live
  | revoke name reason =>
      apply settled.of_gate (settled.gate.revoke name reason now)
      intro live
      rw [control.gate.revoke_unknown (undisturbed live)]
      exact settled.manager live
  | activateLive confirmation activatedBy =>
      apply settled.of_gate (settled.gate.activateLive confirmation activatedBy now)
      intro live
      rcases control.gate.activateLive_cases confirmation activatedBy now with
        ⟨-, same⟩ | ⟨-, -, -, activated⟩
      · rw [same]
        exact settled.manager live
      · exact activated
  | deactivateLive reason =>
      exact settled.of_gate (.of_not_live rfl) (fun live => absurd live undisturbed)

/-- An operation that keeps a settled state consistent disturbs nothing. -/
theorem Settled.undisturbed (settled : control.Settled) {input : String × Operation}
    (consistent : (control.step input).Consistent) : control.Undisturbed input := by
  rcases input with ⟨now, operation⟩
  cases operation with
  | transition toMode confirmation reason actor =>
      intro live
      by_contra target
      rw [step_transition target] at consistent
      exact not_consistent_of_left settled live target consistent
  | forceDowngrade toMode reason actor =>
      intro live downgrades
      have mode := control.manager.forceDowngrade_mode toMode reason actor now
      rw [if_pos downgrades] at mode
      exact not_consistent_of_left settled live (by rw [mode]; exact downgrades.ne_live) consistent
  | register name =>
      exact (control.gate.sound_register_iff settled.gate name now).mp consistent.gate
  | submit name passed evidence reason =>
      intro live
      cases passed with
      | true => exact .inl rfl
      | false =>
          refine .inr fun recorded => ?_
          exact not_consistent_of_dropped live (control.gate.submit_failed recorded now) consistent
  | revoke name reason =>
      intro live
      cases known : control.gate.results.contains name with
      | false => rfl
      | true =>
          exact absurd consistent
            (not_consistent_of_dropped live (control.gate.revoke_known known reason now))
  | activateLive confirmation activatedBy => trivial
  | deactivateLive reason =>
      intro live
      exact not_consistent_of_dropped live rfl consistent

/-- Neither side is live. -/
structure Idle (control : LiveControl) : Prop where
  manager : control.manager.mode ≠ .live
  gate : control.gate.isLive = false
  never : control.leftLive = false

theorem Idle.settled (idle : control.Idle) : control.Settled where
  manager := fun live => absurd live idle.manager
  gate := .of_not_live idle.gate
  left := fun _ => idle.gate
  never := idle.never

/-- From a state in which neither side is live, every state of a run is consistent exactly
when no operation disturbs live trading. -/
theorem every_consistent_iff (idle : control.Idle) (inputs : List (String × Operation)) :
    Run.Every step (fun control input => (control.step input).Consistent) control inputs ↔
      Run.Every step Undisturbed control inputs := by
  apply Run.every_iff_of_kept Settled
  · intro state input _ settled undisturbed
    exact settled.step undisturbed
  · intro state input _ settled
    constructor
    · exact settled.undisturbed
    · intro undisturbed
      exact (settled.step undisturbed).toConsistent
  · exact idle.settled

/-- A new system with one gate. -/
private def newControl : LiveControl :=
  ⟨TradingModeManager.initial .offline 100, LiveReadinessGate.initial ["risk"] "08:00", false⟩

private theorem newControl_idle : newControl.Idle :=
  ⟨by decide, rfl, rfl⟩

/-- The gate passes and the manager enters LIVE. -/
private def goLive : List (String × Operation) :=
  [("09:00", .submit "risk" true Dict.empty ""),
    ("09:01", .transition .live "ACTIVATE LIVE TRADING" "" "operator")]

/-- Live trading that nothing disturbs is consistent. -/
theorem goLive_consistent :
    Run.Every step (fun control input => (control.step input).Consistent) newControl goLive := by
  apply (every_consistent_iff newControl_idle goLive).mpr
  exact ⟨fun live => absurd live newControl_idle.manager, fun _ => rfl, trivial⟩

/-- The gate is set back while the manager is in LIVE, a gate is registered while live trading
is active, and the manager leaves LIVE while the gate stays live. -/
theorem live_disturbed :
    ¬ Run.Every step (fun control input => (control.step input).Consistent) newControl
        (goLive ++ [("09:02", .revoke "risk" "")]) ∧
      ¬ Run.Every step (fun control input => (control.step input).Consistent) newControl
        (goLive ++ [("09:02", .register "security")]) ∧
      ¬ Run.Every step (fun control input => (control.step input).Consistent) newControl
        (goLive ++ [("09:02", .forceDowngrade .paper "" "system")]) := by
  refine ⟨?_, ?_, ?_⟩
  · rintro ⟨-, -, consistent, -⟩
    have live := consistent.manager (by decide +kernel)
    revert live
    decide +kernel
  · rintro ⟨-, -, consistent, -⟩
    have waiting := consistent.gate (by decide +kernel) "security" _ rfl
    revert waiting
    decide +kernel
  · rintro ⟨-, -, consistent, -⟩
    have idle := consistent.left (by decide +kernel)
    revert idle
    decide +kernel

end LiveControl

end EaBot.Trading
