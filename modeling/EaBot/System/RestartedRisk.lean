import EaBot.System.Recovery
import Mathlib.Algebra.Order.Field.Rat
import Mathlib.Data.List.Induction

/-!
# The risk state after a restart

A halt that was saved last keeps the system from being ready when the file reads back as it was
written and the reconciliation leaves the halt in the state that it is handed.  A file that
cannot be read loses the halt, and a connection check that raises ends the recovery.

A merge of risk states keeps the restored value of a latched field, whatever the incoming one
says.
-/

namespace EaBot.System

open EaBot.Foundation

namespace RecoveryCoordinator

/-- The risk state is halted. -/
def Halts (risk : DomainState) : Prop :=
  (fieldOf risk "halted").truthy = true

/-- The system is not ready exactly when it is halted, the breaker was not restored, there is no
connection or the reconciliation has failed. -/
theorem decided_status_ne_ready_iff (risk : DomainState) (openPositions : Int)
    (mt5Connected reconciliationOk breakerOk : Bool) :
    (decided risk openPositions mt5Connected reconciliationOk breakerOk).status ≠ .ready ↔
      Halts risk ∨ breakerOk = false ∨ mt5Connected = false ∨ reconciliationOk = false := by
  simp only [decided, Halts]
  cases (fieldOf risk "halted").truthy <;> cases breakerOk <;> cases mt5Connected <;>
    cases reconciliationOk <;> simp

/-- The defaults of the latched fields do not halt. -/
theorem halts_setDefaults_iff (risk : DomainState) (names : List String) :
    Halts (names.foldl (fun risk name =>
      if risk.contains name then risk
      else risk.set name (if name ≠ "halted" then .number (.ofNat 0) else .bool false)) risk) ↔
      Halts risk := by
  induction names generalizing risk with
  | nil => exact Iff.rfl
  | cons name rest ih =>
      rw [List.foldl_cons, ih]
      by_cases known : risk.contains name
      · rw [if_pos known]
      · rw [if_neg known, Halts, Halts, fieldOf, fieldOf]
        by_cases flag : name = "halted"
        · have missing : risk.get "halted" = none := by
            rw [← flag]
            exact Option.not_isSome_iff_eq_none.mp known
          rw [flag, Dict.get_set_self, missing]
          exact Iff.rfl
        · rw [Dict.get_set_of_ne _ (fun same => flag same.symm)]

theorem halts_restoredRisk_iff (state : Checkpoint) :
    Halts (restoredRisk state) ↔ Halts (Checkpoint.domain state "risk_state") :=
  halts_setDefaults_iff _ _

end RecoveryCoordinator

namespace Checkpoint

/-- What is listed for a known domain. -/
theorem get_listed {υ : Type} (state : String → υ) {name : String} (known : name ∈ stateDomains) :
    (Dict.empty.update (stateDomains.map fun name => (name, state name))).get name =
      some (state name) := by
  apply Dict.get_update_of_mem
  · exact List.mem_map.mpr ⟨name, known, rfl⟩
  · intro other listed
    rcases List.mem_map.mp listed with ⟨same, -, pair⟩
    rcases Prod.mk.inj pair with ⟨rfl, rfl⟩
    rfl

theorem domain_build (state : String → DomainState) {name : String}
    (known : name ∈ stateDomains) : domain (build state) name = state name := by
  rw [domain, build, get_listed state known]
  rfl

theorem build_congr {state other : String → DomainState}
    (same : ∀ name, name ∈ stateDomains → state name = other name) : build state = build other := by
  rw [build, build]
  congr 1
  apply List.map_congr_left
  intro name known
  rw [same name known]

end Checkpoint

namespace CheckpointStore

/-- The store after a history of saves, each with whether it has reached the file. -/
def afterSaves (saves : List (Checkpoint × Bool)) : CheckpointStore :=
  saves.foldl (fun store save => store.save save.1 save.2) initial

/-- The checkpoint that has reached the file last. -/
def lastSaved (saves : List (Checkpoint × Bool)) : Option Checkpoint :=
  (saves.reverse.find? Prod.snd).map Prod.fst

/-- The file holds the checkpoint that has reached it last. -/
theorem afterSaves_file (saves : List (Checkpoint × Bool)) :
    (afterSaves saves).file =
      ((lastSaved saves).map fun state => CheckpointFile.holds (written state)).getD
        .missing := by
  induction saves using List.reverseRecOn with
  | nil => rfl
  | append_singleton earlier save ih =>
      rcases save with ⟨state, writes⟩
      rw [afterSaves, List.foldl_concat, ← afterSaves, save, lastSaved, List.reverse_concat,
        List.find?_cons]
      cases writes with
      | true => rfl
      | false =>
          simp only [Bool.false_eq_true, if_false]
          exact ih

/-- The condition of the file at a restart. -/
inductive FileCondition
  | asWritten | unreadable | tooDeep
deriving DecidableEq

/-- The store that a restart finds. -/
def restarted (saves : List (Checkpoint × Bool)) (condition : FileCondition) : CheckpointStore :=
  { state := Dict.empty
    file :=
      match condition with
      | .asWritten => (afterSaves saves).file
      | .unreadable => .unreadable
      | .tooDeep => .tooDeep }

/-- What a restart reads back: the checkpoint that was saved last, or nothing. -/
def readBack (saves : List (Checkpoint × Bool)) (condition : FileCondition) : Checkpoint :=
  Checkpoint.build fun name =>
    if condition = .asWritten then
      ((lastSaved saves).map fun state => Checkpoint.domain state name).getD Dict.empty
    else Dict.empty

/-- A written domain reads back as it was. -/
theorem domainRead_written (state : Checkpoint) {name : String} (known : name ∈ stateDomains) :
    domainRead (stateDomains.map fun name =>
      (name, Json.obj (Checkpoint.domain state name).entries)) name =
      Checkpoint.domain state name := by
  have listed := Checkpoint.get_listed
    (fun name => Json.obj (Checkpoint.domain state name).entries) known
  rw [Dict.get_update, Dict.get_empty, Option.or_none] at listed
  rw [domainRead, Json.get, listed]
  exact Dict.update_empty_entries _

theorem load_of_lastSaved (saves : List (Checkpoint × Bool)) :
    load ⟨Dict.empty, (afterSaves saves).file⟩ = .value (readBack saves .asWritten) := by
  rw [afterSaves_file, readBack]
  cases lastSaved saves with
  | none => rfl
  | some state =>
      simp only [Option.map_some, Option.getD_some, if_true]
      rw [load, written]
      simp only
      rw [Checkpoint.build_congr fun name known => domainRead_written state known]

/-- A restart reads the file, unless it is nested too deep. -/
theorem load_restarted (saves : List (Checkpoint × Bool)) (condition : FileCondition) :
    (restarted saves condition).load =
      if condition = .tooDeep then
        .raised "maximum recursion depth exceeded while decoding a JSON array"
      else .value (readBack saves condition) := by
  cases condition with
  | unreadable => rfl
  | tooDeep => rfl
  | asWritten =>
      rw [if_neg (by decide)]
      exact load_of_lastSaved saves

/-- The risk state that was saved last is halted. -/
def HaltedLast (saves : List (Checkpoint × Bool)) : Prop :=
  ∃ state, lastSaved saves = some state ∧
    RecoveryCoordinator.Halts (Checkpoint.domain state "risk_state")

/-- A halt that was saved last is read back from a file that is as it was written. -/
theorem halts_readBack {saves : List (Checkpoint × Bool)} (halted : HaltedLast saves) :
    RecoveryCoordinator.Halts
      (Checkpoint.domain (readBack saves .asWritten) "risk_state") := by
  rcases halted with ⟨state, last, halts⟩
  rw [readBack, Checkpoint.domain_build _ (by decide), if_pos rfl, last]
  exact halts

section Merge

variable {restored : DomainState} {field : String}

/-- A latched field that was restored is not taken over. -/
theorem mergeField_of_known (latched : field ∈ latchedRiskFields)
    (known : restored.contains field = true) (merged : DomainState) (entry : String × Json) :
    (mergeField restored merged entry).get field = merged.get field := by
  rw [mergeField]
  by_cases same : entry.1 = field
  · rw [same, if_pos latched, if_pos known]
  · have other : field ≠ entry.1 := fun equal => same equal.symm
    split
    · split
      · rfl
      · exact Dict.get_set_of_ne _ other _
    · exact Dict.get_set_of_ne _ other _

/-- A latched field that was not restored is taken over. -/
theorem mergeField_of_unknown (unknown : restored.contains field = false)
    (merged : DomainState) (entry : String × Json) :
    (mergeField restored merged entry).get field = (merged.set entry.1 entry.2).get field := by
  rw [mergeField]
  by_cases same : entry.1 = field
  · rw [same, unknown, if_neg Bool.false_ne_true, ite_self]
  · have other : field ≠ entry.1 := fun equal => same equal.symm
    rw [Dict.get_set_of_ne _ other]
    split
    · split
      · rfl
      · exact Dict.get_set_of_ne _ other _
    · exact Dict.get_set_of_ne _ other _

theorem foldl_mergeField_of_known (latched : field ∈ latchedRiskFields)
    (known : restored.contains field = true) (entries : List (String × Json))
    (merged : DomainState) :
    (entries.foldl (mergeField restored) merged).get field = merged.get field := by
  induction entries generalizing merged with
  | nil => rfl
  | cons entry rest ih =>
      rw [List.foldl_cons, ih]
      exact mergeField_of_known latched known merged entry

theorem foldl_mergeField_of_unknown (unknown : restored.contains field = false)
    (entries : List (String × Json)) {merged taken : DomainState}
    (same : merged.get field = taken.get field) :
    (entries.foldl (mergeField restored) merged).get field = (taken.update entries).get field := by
  induction entries generalizing merged taken with
  | nil => exact same
  | cons entry rest ih =>
      rw [List.foldl_cons, Dict.update_cons]
      apply ih
      rw [mergeField_of_unknown unknown, Dict.get_set, Dict.get_set, same]

/-- A latched field keeps its restored value, and takes the incoming one when there is none. -/
theorem mergeRiskState_get (restored incoming : DomainState) {field : String}
    (latched : field ∈ latchedRiskFields) :
    (mergeRiskState restored incoming).get field =
      (restored.get field).or (incoming.get field) := by
  rw [mergeRiskState]
  cases held : restored.get field with
  | some value =>
      have known : restored.contains field = true := by rw [Dict.contains, held]; rfl
      rw [foldl_mergeField_of_known latched known, held]
      rfl
  | none =>
      have unknown : restored.contains field = false := by rw [Dict.contains, held]; rfl
      rw [foldl_mergeField_of_unknown unknown incoming.entries rfl, Dict.get_update_entries, held,
        Option.or_none]
      rfl

/-- The merged value of each latched field is at least as severe as the restored and the incoming
one. -/
def MergesUpwards (severity : String → Json → ℚ) (restored incoming : DomainState) : Prop :=
  ∀ field ∈ latchedRiskFields, ∀ value,
    restored.get field = some value ∨ incoming.get field = some value →
    ∃ merged, (mergeRiskState restored incoming).get field = some merged ∧
      severity field value ≤ severity field merged

/-- A merge goes upwards exactly when no latched field that was restored comes in more severe. -/
theorem mergesUpwards_iff (severity : String → Json → ℚ) (restored incoming : DomainState) :
    MergesUpwards severity restored incoming ↔
      ∀ field ∈ latchedRiskFields, ∀ before after, restored.get field = some before →
        incoming.get field = some after → severity field after ≤ severity field before := by
  constructor
  · intro upwards field latched before after held given
    rcases upwards field latched after (.inr given) with ⟨merged, kept, le⟩
    rw [mergeRiskState_get restored incoming latched, held] at kept
    rw [← Option.some.inj kept] at le
    exact le
  · intro lower field latched value present
    rw [mergeRiskState_get restored incoming latched]
    cases held : restored.get field with
    | some before =>
        refine ⟨before, rfl, ?_⟩
        rcases present with same | given
        · rw [Option.some.inj (held.symm.trans same)]
        · exact lower field latched before value held given
    | none =>
        rcases present with same | given
        · exact absurd (held.symm.trans same) (Option.some_ne_none _).symm
        · rw [given]
          exact ⟨value, rfl, le_rfl⟩

end Merge

end CheckpointStore

namespace RecoveryCoordinator

/-- What the calls of a recovery answer, in a state that was read back. -/
structure Answered (coordinator : RecoveryCoordinator) (loaded : Checkpoint) (connected : Bool)
    (positions : Int) (ok : Bool) (back : Checkpoint) (breakerOk : Bool) : Prop where
  connection : coordinator.checkMt5 = .value connected
  broker : coordinator.openPositions = .value positions
  reconciliation : coordinator.reconciled connected positions loaded = .value (ok, back)
  strategy : coordinator.strategyRestored back = .value ()
  breaker : coordinator.breakerRestored back = .value breakerOk

/-- A recovery returns when the file can be read and every call answers. -/
theorem recover_eq_value_iff (coordinator : RecoveryCoordinator) (store : CheckpointStore)
    (result : RecoveryResult) :
    coordinator.recover store = .value result ↔
      ∃ loaded connected positions ok back breakerOk, store.load = .value loaded ∧
        coordinator.Answered loaded connected positions ok back breakerOk ∧
        decided (restoredRisk back) positions connected ok breakerOk = result := by
  simp only [recover, Answer.bind_eq_value_iff]
  constructor
  · rintro ⟨loaded, read, connected, connection, positions, broker, ⟨ok, back⟩, reconciliation,
      ⟨⟩, strategy, breakerOk, breaker, returned⟩
    exact ⟨loaded, connected, positions, ok, back, breakerOk, read,
      ⟨connection, broker, reconciliation, strategy, breaker⟩, Answer.value.inj returned⟩
  · rintro ⟨loaded, connected, positions, ok, back, breakerOk, read, answered, rfl⟩
    exact ⟨loaded, read, connected, answered.connection, positions, answered.broker, (ok, back),
      answered.reconciliation, (), answered.strategy, breakerOk, answered.breaker, rfl⟩

/-- The recovery does not raise, and the system is not ready when the risk state that was saved
last is halted. -/
def Survives (coordinator : RecoveryCoordinator) (saves : List (Checkpoint × Bool))
    (condition : CheckpointStore.FileCondition) : Prop :=
  ∃ result, coordinator.recover (CheckpointStore.restarted saves condition) = .value result ∧
    (CheckpointStore.HaltedLast saves → result.status ≠ .ready)

/-- The file can be read and every call answers; and when the risk state that was saved last is
halted, the state that the reconciliation leaves is, or the breaker is not restored, or there is
no connection, or the reconciliation fails. -/
def Withstands (coordinator : RecoveryCoordinator) (saves : List (Checkpoint × Bool))
    (condition : CheckpointStore.FileCondition) : Prop :=
  condition ≠ .tooDeep ∧ ∃ connected positions ok back breakerOk,
    coordinator.Answered (CheckpointStore.readBack saves condition) connected positions ok back
      breakerOk ∧
    (CheckpointStore.HaltedLast saves →
      Halts (Checkpoint.domain back "risk_state") ∨ breakerOk = false ∨ connected = false ∨
        ok = false)

theorem survives_iff (coordinator : RecoveryCoordinator) (saves : List (Checkpoint × Bool))
    (condition : CheckpointStore.FileCondition) :
    coordinator.Survives saves condition ↔ coordinator.Withstands saves condition := by
  rw [Survives, Withstands]
  simp only [recover_eq_value_iff, CheckpointStore.load_restarted]
  constructor
  · rintro ⟨result, ⟨loaded, connected, positions, ok, back, breakerOk, read, answered, rfl⟩, held⟩
    by_cases deep : condition = .tooDeep
    · rw [if_pos deep] at read
      cases read
    · rw [if_neg deep] at read
      cases read
      refine ⟨deep, connected, positions, ok, back, breakerOk, answered, fun halted => ?_⟩
      rw [← halts_restoredRisk_iff]
      exact (decided_status_ne_ready_iff _ _ _ _ _).mp (held halted)
  · rintro ⟨deep, connected, positions, ok, back, breakerOk, answered, held⟩
    refine ⟨_, ⟨_, connected, positions, ok, back, breakerOk, if_neg deep, answered, rfl⟩,
      fun halted => ?_⟩
    rw [decided_status_ne_ready_iff, halts_restoredRisk_iff]
    exact held halted

/-- A halt survives a restart whose calls answer, when the file is as it was written and the
reconciliation leaves the halt. -/
theorem Answered.withstands {coordinator : RecoveryCoordinator}
    {saves : List (Checkpoint × Bool)} {connected : Bool} {positions : Int} {ok : Bool}
    {back : Checkpoint} {breakerOk : Bool}
    (answered : coordinator.Answered (CheckpointStore.readBack saves .asWritten) connected positions
      ok back breakerOk)
    (leaves : ∀ state positions, Halts (Checkpoint.domain state "risk_state") →
      Halts (Checkpoint.domain (coordinator.reconcile state positions).2 "risk_state")) :
    coordinator.Withstands saves .asWritten := by
  refine ⟨by decide, connected, positions, ok, back, breakerOk, answered, fun halted => .inl ?_⟩
  have read := CheckpointStore.halts_readBack halted
  have reconciled := answered.reconciliation
  rw [RecoveryCoordinator.reconciled] at reconciled
  split at reconciled
  · have kept := leaves (CheckpointStore.readBack saves .asWritten) positions read
    rcases handed : coordinator.reconcile (CheckpointStore.readBack saves .asWritten) positions with
      ⟨outcome, left⟩
    rw [handed] at reconciled kept
    cases outcome with
    | value compared =>
        cases reconciled
        exact kept
    | raised text =>
        cases reconciled
        exact kept
    | interrupted => cases reconciled
  · cases reconciled
    exact read

/-- A halt survives a restart, and a merge of risk states goes upwards, exactly when the restart
withstands and no latched field that was restored comes in more severe. -/
theorem latched_iff (coordinator : RecoveryCoordinator) (saves : List (Checkpoint × Bool))
    (condition : CheckpointStore.FileCondition) (severity : String → Json → ℚ)
    (restored incoming : DomainState) :
    (coordinator.Survives saves condition ↔ coordinator.Withstands saves condition) ∧
      (CheckpointStore.MergesUpwards severity restored incoming ↔
        ∀ field ∈ latchedRiskFields, ∀ before after, restored.get field = some before →
          incoming.get field = some after → severity field after ≤ severity field before) :=
  ⟨coordinator.survives_iff saves condition,
    CheckpointStore.mergesUpwards_iff severity restored incoming⟩

/-- A halted risk state. -/
private def haltedRisk : DomainState :=
  Dict.empty.set "halted" (.bool true)

/-- A coordinator whose calls find nothing amiss. -/
private def calmCoordinator : RecoveryCoordinator :=
  ⟨.value true, .value 0, fun state _ => (.value true, state), none, none⟩

/-- A flag that is set is more severe than one that is not. -/
private def flagSeverity (_ : String) (value : Json) : ℚ :=
  if value.truthy then 1 else 0

/-- The status of a recovery that returns. -/
private def statusOf : Answer RecoveryResult → Option RecoveryStatus
  | .value result => some result.status
  | _ => none

/-- A halt that was saved is lost with a file that cannot be read, a connection check that raises
ends the recovery, and a merge does not take over a halt. -/
theorem halt_lost :
    ¬ calmCoordinator.Survives [(Dict.empty.set "risk_state" haltedRisk, true)] .unreadable ∧
      ¬ { calmCoordinator with checkMt5 := .raised "no terminal" }.Survives [] .asWritten ∧
      ¬ CheckpointStore.MergesUpwards flagSeverity (Dict.empty.set "halted" (.bool false))
        haltedRisk := by
  refine ⟨?_, ?_, ?_⟩
  · rintro ⟨result, returned, held⟩
    have ready : statusOf (calmCoordinator.recover (CheckpointStore.restarted
        [(Dict.empty.set "risk_state" haltedRisk, true)] .unreadable)) = some .ready := by
      decide +kernel
    rw [returned] at ready
    exact held ⟨_, rfl, rfl⟩ (Option.some.inj ready)
  · rintro ⟨result, returned, -⟩
    cases returned
  · intro upwards
    rcases upwards "halted" (by decide) (.bool true) (.inr rfl) with ⟨merged, kept, le⟩
    have same : Json.bool false = merged := Option.some.inj kept
    rw [← same] at le
    revert le
    decide +kernel

end RecoveryCoordinator

end EaBot.System
