import EaBot.Foundation.Value

/-!
# The live readiness gate

Evidence is submitted for every named gate, and the activation of live trading asks that
all of them have passed.  A gate that fails or is revoked drops the activation; one that
is registered later does not.
-/

namespace EaBot.Readiness

open EaBot.Foundation

/-- The status of a readiness gate. -/
inductive GateStatus
  | pending | passed | failed
deriving DecidableEq

/-- The result of a gate. -/
structure GateResult where
  name : String
  status : GateStatus
  evidence : Record
  reason : String
  timestamp : String

/-- A record of an activation or of its end. -/
structure ActivationRecord where
  activated : Bool
  activatedBy : String
  reason : String
  timestamp : String

/-- What a call of the gate raises. -/
inductive GateError
  | keyError (text : String)
  | valueError (text : String)
  | activationBlocked (text : String)
deriving DecidableEq

namespace GateError

/-- The text of an error. -/
def text : GateError → String
  | keyError text => text
  | valueError text => text
  | activationBlocked text => text

end GateError

/-- The modes of the gate. -/
inductive ActivationMode
  | paper | live
deriving DecidableEq

/-- The phrase that an operator types. -/
def liveConfirmationPhrase : String :=
  "ACTIVATE LIVE TRADING"

/-- The gates of a new system. -/
def defaultGateNames : List String :=
  ["backtest", "walk_forward", "paper", "demo", "risk", "stability", "recovery", "observability",
    "security", "autonomous_workflow", "committee_consensus", "learning_safety",
    "telegram_control_plane", "provider_discovery"]

/-- The gates with their results, and the activation. -/
structure LiveReadinessGate where
  results : Dict String GateResult
  mode : ActivationMode
  history : List ActivationRecord

namespace LiveReadinessGate

/-- A gate that waits for evidence. -/
def pendingResult (name reason timestamp : String) : GateResult :=
  ⟨name, .pending, Dict.empty, reason, timestamp⟩

/-- A new gate.  The default names stand for missing ones. -/
def initial (gateNames : List String) (now : String) : LiveReadinessGate :=
  let names := if gateNames = [] then defaultGateNames else gateNames
  ⟨Dict.empty.update (names.map fun name => (name, pendingResult name "" now)), .paper, []⟩

/-- Live trading has been activated. -/
def isLive (gate : LiveReadinessGate) : Bool :=
  gate.mode = .live

/-- The names of the gates that have not passed. -/
def blockers (gate : LiveReadinessGate) : List String :=
  gate.results.entries.filterMap fun entry =>
    if entry.2.status ≠ .passed then some entry.1 else none

/-- Every gate has passed. -/
def isReady (gate : LiveReadinessGate) : Bool :=
  gate.blockers.isEmpty

/-- Register a further gate. -/
def register (gate : LiveReadinessGate) (name now : String) : LiveReadinessGate :=
  if gate.results.contains name then gate
  else { gate with results := gate.results.set name (pendingResult name "" now) }

/-- Drop the activation. -/
def failClosed (gate : LiveReadinessGate) (reason now : String) : LiveReadinessGate :=
  if gate.mode ≠ .live then gate
  else { gate with mode := .paper, history := gate.history ++ [⟨false, "system", reason, now⟩] }

/-- Submit the evidence of a gate. -/
def submit (gate : LiveReadinessGate) (name : String) (passed : Bool) (evidence : Record)
    (reason now : String) : Except GateError GateResult × LiveReadinessGate :=
  if ¬ gate.results.contains name then (.error (.keyError s!"Unknown gate: {name}"), gate)
  else if ¬ passed ∧ evidence.entries = [] ∧ reason = "" then
    (.error (.valueError "A failing gate submission requires evidence or a reason."), gate)
  else
    let result : GateResult :=
      ⟨name, if passed then .passed else .failed, evidence, reason, now⟩
    let recorded := { gate with results := gate.results.set name result }
    (.ok result,
      if passed then recorded else recorded.failClosed s!"Gate failed while live: {name}" now)

/-- Set a gate back. -/
def revoke (gate : LiveReadinessGate) (name reason now : String) :
    Except GateError GateResult × LiveReadinessGate :=
  if ¬ gate.results.contains name then (.error (.keyError s!"Unknown gate: {name}"), gate)
  else
    let result := pendingResult name reason now
    let recorded := { gate with results := gate.results.set name result }
    (.ok result, recorded.failClosed s!"Gate revoked while live: {name}" now)

/-- Activate live trading. -/
def activateLive (gate : LiveReadinessGate) (confirmation activatedBy now : String) :
    Except GateError ActivationRecord × LiveReadinessGate :=
  if gate.blockers ≠ [] then
    (.error (.activationBlocked ("LIVE activation blocked — gates not passed: " ++
      ", ".intercalate gate.blockers)), gate)
  else if confirmation ≠ liveConfirmationPhrase then
    (.error (.activationBlocked ("LIVE activation blocked — confirmation phrase mismatch. " ++
      s!"Expected exactly: '{liveConfirmationPhrase}'")), gate)
  else
    let record : ActivationRecord :=
      ⟨true, activatedBy, "All gates passed; confirmation phrase verified.", now⟩
    (.ok record, { gate with mode := .live, history := gate.history ++ [record] })

/-- End live trading. -/
def deactivateLive (gate : LiveReadinessGate) (reason now : String) :
    ActivationRecord × LiveReadinessGate :=
  let record : ActivationRecord := ⟨false, "operator", reason, now⟩
  (record, { gate with mode := .paper, history := gate.history ++ [record] })

/-- Every registered gate has passed. -/
def AllPassed (gate : LiveReadinessGate) : Prop :=
  ∀ name result, gate.results.get name = some result → result.status = .passed

/-- The activation holds only while every gate has passed. -/
def Sound (gate : LiveReadinessGate) : Prop :=
  gate.isLive = true → gate.AllPassed

/-- The gate is ready exactly when every registered gate has passed. -/
theorem isReady_iff (gate : LiveReadinessGate) : gate.isReady = true ↔ gate.AllPassed := by
  rw [isReady, List.isEmpty_iff, blockers, List.filterMap_eq_nil_iff]
  constructor
  · intro none name result held
    have passed := none (name, result) ((gate.results.mem_entries_iff name result).mpr held)
    by_contra missing
    rw [if_pos missing] at passed
    cases passed
  · rintro passed ⟨name, result⟩ member
    have held := (gate.results.mem_entries_iff name result).mp member
    exact if_neg (fun missing => missing (passed name result held))

theorem blockers_eq_nil_iff (gate : LiveReadinessGate) : gate.blockers = [] ↔ gate.AllPassed := by
  rw [← isReady_iff, isReady, List.isEmpty_iff]

@[simp]
theorem failClosed_results (gate : LiveReadinessGate) (reason now : String) :
    (gate.failClosed reason now).results = gate.results := by
  rw [failClosed]
  split <;> rfl

@[simp]
theorem failClosed_isLive (gate : LiveReadinessGate) (reason now : String) :
    (gate.failClosed reason now).isLive = false := by
  rw [failClosed]
  split
  · rename_i paper
    exact decide_eq_false paper
  · rfl

theorem isLive_register (gate : LiveReadinessGate) (name now : String) :
    (gate.register name now).isLive = gate.isLive := by
  rw [register]
  split <;> rfl

/-- A gate that is registered later waits for evidence. -/
theorem allPassed_register_iff (gate : LiveReadinessGate) (name now : String) :
    (gate.register name now).AllPassed ↔
      gate.AllPassed ∧ gate.results.contains name = true := by
  rw [register]
  by_cases known : gate.results.contains name
  · rw [if_pos known]
    exact (and_iff_left known).symm
  · rw [if_neg known]
    constructor
    · intro passed
      have waiting := passed name _ (Dict.get_set_self _ _ _)
      cases waiting
    · intro both
      exact absurd both.2 known

/-- A failing submission is recorded. -/
def RecordsFailure (gate : LiveReadinessGate) (name : String) (evidence : Record)
    (reason : String) : Prop :=
  gate.results.contains name = true ∧ (evidence.entries ≠ [] ∨ reason ≠ "")

/-- A submission that passes leaves the activation and sets its gate to passed. -/
theorem submit_passed (gate : LiveReadinessGate) (name : String) (evidence : Record)
    (reason now : String) :
    (gate.submit name true evidence reason now).2 = gate ∨
      (gate.submit name true evidence reason now).2 =
        { gate with
          results := gate.results.set name ⟨name, .passed, evidence, reason, now⟩ } := by
  rw [submit]
  by_cases known : gate.results.contains name
  · rw [if_neg (not_not_intro known), if_neg (fun failing => failing.1 rfl)]
    exact .inr rfl
  · rw [if_pos known]
    exact .inl rfl

/-- A failing submission that is not recorded leaves the gate. -/
theorem submit_ignored (gate : LiveReadinessGate) {name : String} {evidence : Record}
    {reason : String} (ignored : ¬ gate.RecordsFailure name evidence reason) (now : String) :
    (gate.submit name false evidence reason now).2 = gate := by
  rw [submit]
  by_cases known : gate.results.contains name
  · have bare : evidence.entries = [] ∧ reason = "" := by
      by_contra given
      exact ignored ⟨known, by tauto⟩
    rw [if_neg (not_not_intro known), if_pos ⟨Bool.false_ne_true, bare⟩]
  · rw [if_pos known]

/-- A failing submission that is recorded drops the activation. -/
theorem submit_failed (gate : LiveReadinessGate) {name : String} {evidence : Record}
    {reason : String} (recorded : gate.RecordsFailure name evidence reason) (now : String) :
    (gate.submit name false evidence reason now).2.isLive = false := by
  have given : ¬ (¬ false = true ∧ evidence.entries = [] ∧ reason = "") := by
    rintro ⟨-, noEvidence, noReason⟩
    rcases recorded.2 with some | some
    · exact some noEvidence
    · exact some noReason
  rw [submit, if_neg (not_not_intro recorded.1), if_neg given]
  exact failClosed_isLive _ _ _

/-- Setting a known gate back drops the activation. -/
theorem revoke_known (gate : LiveReadinessGate) {name : String}
    (known : gate.results.contains name = true) (reason now : String) :
    (gate.revoke name reason now).2.isLive = false := by
  rw [revoke, if_neg (not_not_intro known)]
  exact failClosed_isLive _ _ _

theorem revoke_unknown (gate : LiveReadinessGate) {name : String}
    (unknown : gate.results.contains name = false) (reason now : String) :
    (gate.revoke name reason now).2 = gate := by
  rw [revoke, if_pos (by simp [unknown])]

/-- An activation that is not blocked finds every gate passed. -/
theorem activateLive_cases (gate : LiveReadinessGate) (confirmation activatedBy now : String) :
    ((∃ raised, (gate.activateLive confirmation activatedBy now).1 = .error raised) ∧
        (gate.activateLive confirmation activatedBy now).2 = gate) ∨
      (∃ record, (gate.activateLive confirmation activatedBy now).1 = .ok record) ∧
        gate.AllPassed ∧
        (gate.activateLive confirmation activatedBy now).2.results = gate.results ∧
        (gate.activateLive confirmation activatedBy now).2.isLive = true := by
  rw [activateLive]
  by_cases blocked : gate.blockers ≠ []
  · rw [if_pos blocked]
    exact .inl ⟨⟨_, rfl⟩, rfl⟩
  · rw [if_neg blocked]
    by_cases mistyped : confirmation ≠ liveConfirmationPhrase
    · rw [if_pos mistyped]
      exact .inl ⟨⟨_, rfl⟩, rfl⟩
    · rw [if_neg mistyped]
      have passed := gate.blockers_eq_nil_iff.mp (not_not.mp blocked)
      exact .inr ⟨⟨_, rfl⟩, passed, rfl, rfl⟩

section Sound

variable {gate : LiveReadinessGate}

theorem Sound.of_not_live (idle : gate.isLive = false) : gate.Sound := by
  intro live
  rw [idle] at live
  cases live

/-- A submission keeps the activation sound. -/
theorem Sound.submit (sound : gate.Sound) (name : String) (passed : Bool) (evidence : Record)
    (reason now : String) : (gate.submit name passed evidence reason now).2.Sound := by
  cases passed with
  | true =>
      rcases gate.submit_passed name evidence reason now with same | written
      · rw [same]
        exact sound
      · rw [written]
        intro live other result held
        have passed := sound live
        by_cases same : other = name
        · rw [same, Dict.get_set_self] at held
          rw [← Option.some.inj held]
        · rw [Dict.get_set_of_ne _ same] at held
          exact passed other result held
  | false =>
      by_cases recorded : gate.RecordsFailure name evidence reason
      · exact .of_not_live (gate.submit_failed recorded now)
      · rw [gate.submit_ignored recorded]
        exact sound

/-- Setting a gate back keeps the activation sound. -/
theorem Sound.revoke (sound : gate.Sound) (name reason now : String) :
    (gate.revoke name reason now).2.Sound := by
  cases known : gate.results.contains name with
  | true => exact .of_not_live (gate.revoke_known known reason now)
  | false =>
      rw [gate.revoke_unknown known]
      exact sound

/-- An activation is sound. -/
theorem Sound.activateLive (sound : gate.Sound) (confirmation activatedBy now : String) :
    (gate.activateLive confirmation activatedBy now).2.Sound := by
  rcases gate.activateLive_cases confirmation activatedBy now with
    ⟨-, same⟩ | ⟨-, passed, results, -⟩
  · rw [same]
    exact sound
  · intro live
    rw [AllPassed, results]
    exact passed

end Sound

/-- Registering a gate keeps the activation sound exactly when the gate is known or live
trading is not active. -/
theorem sound_register_iff (gate : LiveReadinessGate) (sound : gate.Sound) (name now : String) :
    (gate.register name now).Sound ↔
      (gate.isLive = true → gate.results.contains name = true) := by
  rw [Sound, isLive_register, allPassed_register_iff]
  constructor
  · intro kept live
    exact (kept live).2
  · intro known live
    exact ⟨sound live, known live⟩

end LiveReadinessGate

end EaBot.Readiness
