import EaBot.Foundation.Run
import EaBot.Strategy.Registry

/-!
# One active version of each name

The registry points to the active version of a name, and the version carries its status.  An
activation retires the version that is pointed to before it knows that the new one exists, and
a recorded status does not move the pointer.
-/

namespace EaBot.Strategy

open EaBot.Foundation

variable {α : Type}

/-- An operation of a registry, or of somebody who holds a version or its parameters. -/
inductive RegistryOperation (α : Type)
  | register (name version : String) (parameters : Nat)
  | activate (name version : String) (enforceEvidence : Bool)
  | retire (name version : String)
  | recordStatus (name version : String) (status : StrategyStatus)
  | touch (place : Nat) (operation : DictOperation α)
  | annotate (key : String × String) (metricsSummary validationEvidence : Record)

/-- The error of a call. -/
def raisedBy {β : Type} : Except RegistryError β → Option RegistryError
  | .error raised => some raised
  | .ok _ => none

theorem of_raisedBy {β : Type} {answer : Except RegistryError β} {raised : RegistryError}
    (failed : raisedBy answer = some raised) : answer = .error raised := by
  cases answer with
  | error other => exact congrArg Except.error (Option.some.inj failed)
  | ok result => cases failed

namespace StrategyRegistry

/-- Perform an operation at a time. -/
def perform (registry : StrategyRegistry α) (now : String) :
    RegistryOperation α → Option RegistryError × StrategyRegistry α
  | .register name version parameters =>
      let answer := registry.register name version parameters
      (raisedBy answer.1, answer.2)
  | .activate name version enforceEvidence =>
      let answer := registry.activate name version enforceEvidence now
      (raisedBy answer.1, answer.2)
  | .retire name version =>
      let answer := registry.retire name version now
      (raisedBy answer.1, answer.2)
  | .recordStatus name version status =>
      let answer := registry.recordStatus name version status now
      (raisedBy answer.1, answer.2)
  | .touch place operation => (none, registry.touch place operation)
  | .annotate key metricsSummary validationEvidence =>
      (none, registry.annotate key metricsSummary validationEvidence)

/-- One operation, at a time. -/
def step (registry : StrategyRegistry α) (input : String × RegistryOperation α) :
    StrategyRegistry α :=
  (registry.perform input.1 input.2).2

/-- The status of a version. -/
def statusOf (registry : StrategyRegistry α) (key : String × String) : Option StrategyStatus :=
  (registry.get key).map VersionedStrategy.status

/-- After the operation a name has one active version at most and the registry returns it; the
operation has not changed the parameters of an active version through a dictionary; and when it
has raised, the active versions and the statuses are as before. -/
structure Upheld (registry : StrategyRegistry α) (input : String × RegistryOperation α) :
    Prop where
  unique : ∀ name version other,
    (registry.step input).statusOf (name, version) = some .active →
    (registry.step input).statusOf (name, other) = some .active → version = other
  answers : ∀ name strategy, (registry.step input).getActiveVersion name = some strategy ↔
    ∃ version, (registry.step input).get (name, version) = some strategy ∧
      strategy.status = .active
  guarded : ∀ place operation, input.2 = .touch place operation →
    ∀ key strategy, registry.get key = some strategy → strategy.status = .active →
    ∀ item, ((registry.step input).entriesAt strategy.parameters).get item =
      (registry.entriesAt strategy.parameters).get item
  kept : ∀ raised, (registry.perform input.1 input.2).1 = some raised →
    (∀ name, ((registry.step input).getActiveVersion name).map VersionedStrategy.version =
      (registry.getActiveVersion name).map VersionedStrategy.version) ∧
    ∀ key, (registry.step input).statusOf key = registry.statusOf key

/-- An operation that a frozen dictionary does not refuse and that changes its entries. -/
def Alters (entries : Dict String α) : DictOperation α → Prop
  | .setDefault key _ => entries.contains key = false
  | .popItem => entries.entries ≠ []
  | .merge given => ∃ key, (entries.update given).get key ≠ entries.get key
  | _ => False

/-- No activation of an unknown version while the name has an active one, no recorded status
that makes a version active or the active one another, and no operation that alters the
parameters of an active version. -/
def Orderly (registry : StrategyRegistry α) : RegistryOperation α → Prop
  | .activate name version enforceEvidence =>
      enforceEvidence = true ∨ registry.get (name, version) ≠ none ∨
        registry.activeByName.get name = none
  | .recordStatus name version status =>
      ∀ strategy, registry.get (name, version) = some strategy →
        (status = .active ↔ strategy.status = .active)
  | .touch place operation =>
      ∀ key strategy, registry.get key = some strategy → strategy.status = .active →
        strategy.parameters = place → ¬ Alters (registry.entriesAt place) operation
  | _ => True

/-- The parameters of the active versions are frozen. -/
def Frozen (registry : StrategyRegistry α) : Prop :=
  ∀ key strategy, registry.get key = some strategy → strategy.status = .active →
    ∃ dict, registry.dictionaries[strategy.parameters]? = some dict ∧ dict.readOnly = true

/-- The pointers and the statuses of one name say the same. -/
structure Agrees (registry : StrategyRegistry α) (name : String) : Prop where
  pointed : ∀ version, registry.activeByName.get name = some version →
    registry.statusOf (name, version) = some .active
  pointer : ∀ version, registry.statusOf (name, version) = some .active →
    registry.activeByName.get name = some version

/-- The pointers and the statuses say the same, and the active versions are frozen. -/
structure Coherent (registry : StrategyRegistry α) : Prop where
  agrees : ∀ name, registry.Agrees name
  frozen : registry.Frozen

theorem coherent_initial (dictionaries : List (ParameterDict α)) :
    (initial dictionaries).Coherent where
  agrees := fun name => ⟨fun version held => (by
    rw [initial, Dict.get_empty] at held
    cases held), fun version held => (by
    rw [statusOf, get, initial, Dict.get_empty] at held
    cases held)⟩
  frozen := fun key strategy held => by
    rw [get, initial, Dict.get_empty] at held
    cases held

variable {registry : StrategyRegistry α}

theorem statusOf_eq {key : String × String} {strategy : VersionedStrategy}
    (held : registry.get key = some strategy) :
    registry.statusOf key = some strategy.status := by
  rw [statusOf, held, Option.map_some]

theorem of_statusOf {key : String × String} {status : StrategyStatus}
    (stands : registry.statusOf key = some status) :
    ∃ strategy, registry.get key = some strategy ∧ strategy.status = status :=
  Option.map_eq_some_iff.mp stands

/-- Names with the same statuses and the same pointer agree alike. -/
theorem Agrees.of_same {name : String} (agrees : registry.Agrees name)
    {next : StrategyRegistry α}
    (pointer : next.activeByName.get name = registry.activeByName.get name)
    (status : ∀ version, next.statusOf (name, version) = registry.statusOf (name, version)) :
    next.Agrees name where
  pointed := fun version held => by
    rw [status]
    exact agrees.pointed version (pointer.symm.trans held)
  pointer := fun version active => by
    rw [pointer]
    exact agrees.pointer version ((status version).symm.trans active)

/-- In a registry whose pointers agree with the statuses, a name has one active version at most
and the registry returns it. -/
theorem Coherent.unique (coherent : registry.Coherent) {name version other : String}
    (first : registry.statusOf (name, version) = some .active)
    (second : registry.statusOf (name, other) = some .active) : version = other := by
  have left := (coherent.agrees name).pointer version first
  have right := (coherent.agrees name).pointer other second
  exact Option.some.inj (left.symm.trans right)

theorem Coherent.answers (coherent : registry.Coherent) (name : String)
    (strategy : VersionedStrategy) :
    registry.getActiveVersion name = some strategy ↔
      ∃ version, registry.get (name, version) = some strategy ∧ strategy.status = .active := by
  rw [getActiveVersion]
  constructor
  · intro answered
    cases pointer : registry.activeByName.get name with
    | none =>
        rw [pointer] at answered
        cases answered
    | some version =>
        simp only [pointer] at answered
        have active := (coherent.agrees name).pointed version pointer
        rw [statusOf_eq answered] at active
        exact ⟨version, answered, Option.some.inj active⟩
  · rintro ⟨version, held, active⟩
    have pointer := (coherent.agrees name).pointer version
      ((statusOf_eq held).trans (congrArg some active))
    rw [pointer]
    exact held

section Enter

variable (registry) (key : String × String) (strategy : VersionedStrategy)
  (status : StrategyStatus) (readOnly : Bool) (now : String)

theorem enter_get (other : String × String) :
    (registry.enter key strategy status readOnly now).get other =
      if other = key then
        some { strategy.setStatus status now with parameters := registry.dictionaries.length }
      else registry.get other :=
  Dict.get_set _ _ _ _

theorem enter_statusOf (other : String × String) :
    (registry.enter key strategy status readOnly now).statusOf other =
      if other = key then some status else registry.statusOf other := by
  rw [statusOf, enter_get]
  split
  · rw [Option.map_some, VersionedStrategy.setStatus_status]
  · rfl

variable {registry}

/-- The copy of an active version is frozen, and the other active versions stay so. -/
theorem Frozen.enter (frozen : registry.Frozen) (copied : status = .active → readOnly = true) :
    (registry.enter key strategy status readOnly now).Frozen := by
  intro other found held active
  rw [enter_get] at held
  by_cases same : other = key
  · rw [if_pos same] at held
    have equal := Option.some.inj held
    rw [← equal] at active ⊢
    rw [VersionedStrategy.setStatus_status] at active
    refine ⟨⟨readOnly, registry.entriesAt strategy.parameters⟩, ?_, copied active⟩
    exact List.getElem?_concat_length
  · rw [if_neg same] at held
    rcases frozen other found held active with ⟨dict, there, still⟩
    have inside := (List.getElem?_eq_some_iff.mp there).1
    refine ⟨dict, ?_, still⟩
    exact (List.getElem?_append_left inside).trans there

end Enter

/-- What a registry is after the active version of a name was retired: no version of the name
is active, and the pointer is left. -/
structure Vacated (registry retired : StrategyRegistry α) (name : String) : Prop where
  pointers : retired.activeByName = registry.activeByName
  frozen : retired.Frozen
  vacant : ∀ version, retired.statusOf (name, version) ≠ some .active
  elsewhere : ∀ other version, other ≠ name →
    retired.statusOf (other, version) = registry.statusOf (other, version)
  known : ∀ key, retired.get key = none ↔ registry.get key = none

theorem Coherent.retireOld (coherent : registry.Coherent) (name now : String) :
    registry.Vacated (registry.retireOld name now) name := by
  rw [StrategyRegistry.retireOld]
  cases pointer : registry.activeByName.get name with
  | none =>
      refine ⟨rfl, coherent.frozen, fun version active => ?_, fun _ _ _ => rfl, fun _ => Iff.rfl⟩
      have pointed := (coherent.agrees name).pointer version active
      exact absurd (pointer.symm.trans pointed) (Option.some_ne_none _).symm
  | some old =>
      rcases of_statusOf ((coherent.agrees name).pointed old pointer) with ⟨strategy, held, -⟩
      simp only [held]
      refine ⟨rfl, ?_, ?_, ?_, ?_⟩
      · exact coherent.frozen.enter (name, old) strategy .retired false now nofun
      · intro version active
        rw [enter_statusOf] at active
        by_cases same : (name, version) = (name, old)
        · rw [if_pos same] at active
          cases active
        · rw [if_neg same] at active
          have pointed := (coherent.agrees name).pointer version active
          have equal : old = version := Option.some.inj (pointer.symm.trans pointed)
          exact same (by rw [equal])
      · intro other version different
        rw [enter_statusOf, if_neg (fun same => different (congrArg Prod.fst same))]
      · intro key
        rw [enter_get]
        by_cases same : key = (name, old)
        · rw [if_pos same, same, held]
          simp
        · rw [if_neg same]

/-- An activation of a version that is found gives the name its active version. -/
theorem Vacated.activated {retired : StrategyRegistry α} {name : String}
    (vacated : registry.Vacated retired name) (coherent : registry.Coherent) (version now : String)
    (strategy : VersionedStrategy) :
    Coherent
      { retired.enter (name, version) strategy .active true now with
        activeByName := retired.activeByName.set name version } where
  agrees := by
    intro other
    by_cases same : other = name
    · rw [same]
      constructor
      · intro held pointer
        rw [Dict.get_set_self] at pointer
        rw [← Option.some.inj pointer]
        exact (enter_statusOf retired (name, version) strategy .active true now _).trans
          (if_pos rfl)
      · intro found active
        have status := (enter_statusOf retired (name, version) strategy .active true now
          (name, found)).symm.trans active
        by_cases there : (name, found) = (name, version)
        · rw [(Prod.mk.inj there).2]
          exact Dict.get_set_self _ _ _
        · rw [if_neg there] at status
          exact absurd status (vacated.vacant found)
    · apply (coherent.agrees other).of_same
      · rw [vacated.pointers]
        exact Dict.get_set_of_ne _ same _
      · intro found
        have status :=
          enter_statusOf retired (name, version) strategy .active true now (other, found)
        rw [if_neg (fun there => same (congrArg Prod.fst there))] at status
        exact status.trans (vacated.elsewhere other found same)
  frozen := vacated.frozen.enter (name, version) strategy .active true now (fun _ => rfl)

/-- What an activation comes to. -/
theorem activate_cases (registry : StrategyRegistry α) (name version : String)
    (enforceEvidence : Bool) (now : String) :
    (∃ raised, registry.activate name version enforceEvidence now = (.error raised, registry)) ∨
      (∃ raised, registry.precheck name version enforceEvidence = .ok () ∧
        (registry.retireOld name now).get (name, version) = none ∧
        registry.activate name version enforceEvidence now =
          (.error raised, registry.retireOld name now)) ∨
      ∃ strategy, (registry.retireOld name now).get (name, version) = some strategy ∧
        registry.activate name version enforceEvidence now =
          (.ok (),
            { (registry.retireOld name now).enter (name, version) strategy .active true now with
              activeByName := (registry.retireOld name now).activeByName.set name version }) := by
  rw [activate]
  cases admitted : registry.precheck name version enforceEvidence with
  | error raised => exact .inl ⟨raised, rfl⟩
  | ok _ =>
      simp only
      cases found : (registry.retireOld name now).get (name, version) with
      | none => exact .inr (.inl ⟨_, trivial, rfl, rfl⟩)
      | some strategy => exact .inr (.inr ⟨strategy, rfl, rfl⟩)

/-- With the evidence enforced only a known version is admitted. -/
theorem known_of_precheck {name version : String}
    (admitted : registry.precheck name version true = .ok ()) :
    registry.get (name, version) ≠ none := by
  intro missing
  rw [precheck, if_neg (by decide), missing] at admitted
  cases admitted

/-- An orderly activation keeps the registry coherent, and leaves it when it raises. -/
theorem Coherent.activate (coherent : registry.Coherent) {name version : String}
    {enforceEvidence : Bool} (orderly : registry.Orderly (.activate name version enforceEvidence))
    (now : String) :
    (registry.activate name version enforceEvidence now).2.Coherent ∧
      ∀ raised, (registry.activate name version enforceEvidence now).1 = .error raised →
        (registry.activate name version enforceEvidence now).2 = registry := by
  have vacated := coherent.retireOld name now
  rcases registry.activate_cases name version enforceEvidence now with
    ⟨raised, same⟩ | ⟨raised, admitted, missing, partway⟩ | ⟨strategy, -, activated⟩
  · rw [same]
    exact ⟨coherent, fun _ _ => rfl⟩
  · have unknown : registry.get (name, version) = none := (vacated.known _).mp missing
    rcases orderly with enforced | known | idle
    · rw [enforced] at admitted
      exact absurd unknown (known_of_precheck admitted)
    · exact absurd unknown known
    · have untouched : registry.retireOld name now = registry := by
        rw [StrategyRegistry.retireOld, idle]
      rw [partway, untouched]
      exact ⟨coherent, fun _ _ => rfl⟩
  · rw [activated]
    exact ⟨vacated.activated coherent version now strategy, nofun⟩

/-- Dropping a pointer leaves the versions, their dictionaries and the other pointers. -/
theorem dropPointer_spec (registry : StrategyRegistry α) (name version : String) :
    (registry.dropPointer name version).strategies = registry.strategies ∧
      (registry.dropPointer name version).dictionaries = registry.dictionaries ∧
      ∀ other, (registry.dropPointer name version).activeByName.get other =
        if other = name ∧ registry.activeByName.get name = some version then none
        else registry.activeByName.get other := by
  rw [dropPointer]
  by_cases pointed : registry.activeByName.get name = some version
  · rw [if_pos pointed]
    refine ⟨rfl, rfl, fun other => ?_⟩
    simp only [Dict.get_erase, pointed, and_true]
  · rw [if_neg pointed]
    refine ⟨rfl, rfl, fun other => ?_⟩
    rw [if_neg (fun both => pointed both.2)]

/-- Retiring a version keeps the registry coherent, and leaves it when it raises. -/
theorem Coherent.retire (coherent : registry.Coherent) (name version now : String) :
    (registry.retire name version now).2.Coherent ∧
      ∀ raised, (registry.retire name version now).1 = .error raised →
        (registry.retire name version now).2 = registry := by
  rw [StrategyRegistry.retire]
  cases held : registry.get (name, version) with
  | none => exact ⟨coherent, fun _ _ => rfl⟩
  | some strategy =>
      refine ⟨?_, nofun⟩
      simp only
      have entered := enter_statusOf registry (name, version) strategy .retired false now
      have frozen := coherent.frozen.enter (name, version) strategy .retired false now nofun
      rcases (registry.enter (name, version) strategy .retired false now).dropPointer_spec name
        version with ⟨strategies, dictionaries, dropped⟩
      have pointers : ∀ other, ((registry.enter (name, version) strategy .retired false
          now).dropPointer name version).activeByName.get other =
          if other = name ∧ registry.activeByName.get name = some version then none
          else registry.activeByName.get other := dropped
      have status : ∀ key, ((registry.enter (name, version) strategy .retired false
          now).dropPointer name version).statusOf key =
          if key = (name, version) then some .retired else registry.statusOf key := by
        intro key
        rw [statusOf, get, strategies]
        exact entered key
      constructor
      · intro other
        constructor
        · intro found pointer
          rw [pointers] at pointer
          by_cases dropped : other = name ∧ registry.activeByName.get name = some version
          · rw [if_pos dropped] at pointer
            cases pointer
          · rw [if_neg dropped] at pointer
            rw [status, if_neg]
            · exact (coherent.agrees other).pointed found pointer
            · intro same
              rcases Prod.mk.inj same with ⟨rfl, rfl⟩
              exact dropped ⟨rfl, pointer⟩
        · intro found active
          rw [status] at active
          by_cases same : (other, found) = (name, version)
          · rw [if_pos same] at active
            cases active
          · rw [if_neg same] at active
            have pointer := (coherent.agrees other).pointer found active
            rw [pointers, if_neg]
            · exact pointer
            · rintro ⟨rfl, pointed⟩
              have equal : found = version := Option.some.inj (pointer.symm.trans pointed)
              exact same (by rw [equal])
      · intro key found held active
        rw [get, strategies] at held
        rw [dictionaries]
        exact frozen key found held active

/-- A version that is active exactly when it was before, with the same parameters, keeps the
registry coherent. -/
theorem Coherent.set (coherent : registry.Coherent) {key : String × String}
    {strategy : VersionedStrategy}
    (same : strategy.status = .active ↔ registry.statusOf key = some .active)
    (place : ∀ before, registry.get key = some before →
      strategy.parameters = before.parameters) :
    Coherent { registry with strategies := registry.strategies.set key strategy } where
  agrees := by
    intro name
    have active : ∀ version,
        statusOf { registry with strategies := registry.strategies.set key strategy }
          (name, version) = some .active ↔ registry.statusOf (name, version) = some .active := by
      intro version
      rw [statusOf, get, Dict.get_set]
      by_cases there : (name, version) = key
      · rw [if_pos there, there, Option.map_some, ← same]
        exact Option.some_inj
      · rw [if_neg there]
        rfl
    exact ⟨fun version pointer => (active version).mpr ((coherent.agrees name).pointed version
      pointer), fun version stands => (coherent.agrees name).pointer version
      ((active version).mp stands)⟩
  frozen := by
    intro other found held active
    by_cases there : other = key
    · rw [there, get, Dict.get_set_self] at held
      rw [← Option.some.inj held] at active ⊢
      rcases of_statusOf (same.mp active) with ⟨before, stood, was⟩
      rw [place before stood]
      exact coherent.frozen key before stood was
    · rw [get, Dict.get_set_of_ne _ there] at held
      exact coherent.frozen other found held active

/-- A registration keeps the registry coherent, and leaves it when it raises. -/
theorem Coherent.register (coherent : registry.Coherent) (name version : String)
    (parameters : Nat) :
    (registry.register name version parameters).2.Coherent ∧
      ∀ raised, (registry.register name version parameters).1 = .error raised →
        (registry.register name version parameters).2 = registry := by
  rw [StrategyRegistry.register]
  by_cases known : registry.strategies.contains (name, version)
  · rw [if_pos known]
    exact ⟨coherent, fun _ _ => rfl⟩
  · rw [if_neg known]
    have missing : registry.get (name, version) = none :=
      Option.not_isSome_iff_eq_none.mp known
    refine ⟨coherent.set ⟨nofun, fun stands => ?_⟩ (fun before held => ?_), nofun⟩
    · rw [statusOf, missing] at stands
      cases stands
    · exact absurd (missing.symm.trans held) (Option.some_ne_none _).symm

/-- An orderly record of a status keeps the registry coherent, and leaves it when it raises. -/
theorem Coherent.recordStatus (coherent : registry.Coherent) {name version : String}
    {status : StrategyStatus} (orderly : registry.Orderly (.recordStatus name version status))
    (now : String) :
    (registry.recordStatus name version status now).2.Coherent ∧
      ∀ raised, (registry.recordStatus name version status now).1 = .error raised →
        (registry.recordStatus name version status now).2 = registry := by
  rw [StrategyRegistry.recordStatus]
  cases held : registry.get (name, version) with
  | none => exact ⟨coherent, fun _ _ => rfl⟩
  | some strategy =>
      refine ⟨coherent.set ?_ ?_, nofun⟩
      · rw [VersionedStrategy.setStatus_status, statusOf_eq held, Option.some_inj]
        exact orderly strategy held
      · intro before stood
        rw [VersionedStrategy.setStatus_parameters, Option.some.inj (held.symm.trans stood)]

theorem Coherent.annotate (coherent : registry.Coherent) (key : String × String)
    (metricsSummary validationEvidence : Record) :
    (registry.annotate key metricsSummary validationEvidence).Coherent := by
  rw [StrategyRegistry.annotate]
  cases held : registry.get key with
  | none => exact coherent
  | some strategy =>
      apply coherent.set
      · rw [statusOf_eq held, Option.some_inj]
      · intro before stood
        rw [Option.some.inj (held.symm.trans stood)]

theorem perform_readOnly (dict : ParameterDict α) (operation : DictOperation α) :
    (dict.perform operation).2.readOnly = dict.readOnly := by
  rw [ParameterDict.perform]
  split
  · rfl
  · split <;> rfl

/-- An operation on a dictionary keeps the registry coherent. -/
theorem Coherent.touch (coherent : registry.Coherent) (place : Nat)
    (operation : DictOperation α) : (registry.touch place operation).Coherent where
  agrees := fun name => (coherent.agrees name).of_same rfl fun _ => rfl
  frozen := by
    intro key strategy held active
    rcases coherent.frozen key strategy held active with ⟨dict, there, still⟩
    rw [StrategyRegistry.touch, List.getElem?_modify, there, Option.map_eq_map, Option.map_some]
    refine ⟨_, rfl, ?_⟩
    split
    · rw [perform_readOnly]
      exact still
    · exact still

/-- What an operation leaves of the entries of a dictionary. -/
theorem entriesAt_touch (registry : StrategyRegistry α) (place other : Nat)
    (operation : DictOperation α) {dict : ParameterDict α}
    (there : registry.dictionaries[other]? = some dict) :
    (registry.touch place operation).entriesAt other =
      if place = other then (dict.perform operation).2.entries else dict.entries := by
  rw [entriesAt, StrategyRegistry.touch, List.getElem?_modify, there, Option.map_eq_map,
    Option.map_some, Option.map_some, Option.getD_some]
  split <;> rfl

/-- An operation changes a frozen dictionary exactly when it alters its entries. -/
theorem perform_frozen {dict : ParameterDict α} (frozen : dict.readOnly = true)
    (operation : DictOperation α) :
    (∀ item, (dict.perform operation).2.entries.get item = dict.entries.get item) ↔
      ¬ Alters dict.entries operation := by
  rw [ParameterDict.perform, if_pos frozen]
  cases operation with
  | setItem key value => exact iff_of_true (fun _ => rfl) nofun
  | delItem key => exact iff_of_true (fun _ => rfl) nofun
  | update given => exact iff_of_true (fun _ => rfl) nofun
  | pop key fallback => exact iff_of_true (fun _ => rfl) nofun
  | clear => exact iff_of_true (fun _ => rfl) nofun
  | setDefault key value =>
      simp only [DictOperation.refusal, DictOperation.change, Alters, Bool.not_eq_false]
      by_cases known : dict.entries.contains key
      · rw [if_pos known]
        exact iff_of_true (fun _ => rfl) known
      · rw [if_neg known]
        refine iff_of_false (fun same => ?_) known
        have missing : dict.entries.get key = none := Option.not_isSome_iff_eq_none.mp known
        have written := same key
        rw [Dict.get_set_self, missing] at written
        cases written
  | popItem =>
      simp only [DictOperation.refusal, DictOperation.change, Alters, not_not]
      cases last : dict.entries.entries.getLast? with
      | none => exact iff_of_true (fun _ => rfl) (List.getLast?_eq_none_iff.mp last)
      | some entry =>
          have member := List.mem_of_getLast? last
          refine iff_of_false (fun same => ?_) (List.ne_nil_of_mem member)
          have held := (dict.entries.mem_entries_iff entry.1 entry.2).mp member
          have gone := same entry.1
          rw [Dict.get_erase, if_pos rfl, held] at gone
          cases gone
  | merge given =>
      simp only [DictOperation.refusal, DictOperation.change, Alters, not_exists, not_not]

/-- The entries of a dictionary that is there. -/
theorem entriesAt_of_getElem? {place : Nat} {dict : ParameterDict α}
    (there : registry.dictionaries[place]? = some dict) :
    registry.entriesAt place = dict.entries := by
  rw [entriesAt, there]
  rfl

/-- An orderly operation keeps the registry coherent, and leaves it when it raises. -/
theorem Coherent.step (coherent : registry.Coherent) {input : String × RegistryOperation α}
    (orderly : registry.Orderly input.2) :
    (registry.step input).Coherent ∧
      ∀ raised, (registry.perform input.1 input.2).1 = some raised →
        registry.step input = registry := by
  rcases input with ⟨now, operation⟩
  cases operation with
  | register name version parameters =>
      rcases coherent.register name version parameters with ⟨stays, left⟩
      exact ⟨stays, fun raised failed => left raised (of_raisedBy failed)⟩
  | activate name version enforceEvidence =>
      rcases coherent.activate orderly now with ⟨stays, left⟩
      exact ⟨stays, fun raised failed => left raised (of_raisedBy failed)⟩
  | retire name version =>
      rcases coherent.retire name version now with ⟨stays, left⟩
      exact ⟨stays, fun raised failed => left raised (of_raisedBy failed)⟩
  | recordStatus name version status =>
      rcases coherent.recordStatus orderly now with ⟨stays, left⟩
      exact ⟨stays, fun raised failed => left raised (of_raisedBy failed)⟩
  | touch place operation => exact ⟨coherent.touch place operation, nofun⟩
  | annotate key metricsSummary validationEvidence =>
      exact ⟨coherent.annotate key metricsSummary validationEvidence, nofun⟩

/-- An orderly operation upholds the registry. -/
theorem Coherent.upheld (coherent : registry.Coherent) {input : String × RegistryOperation α}
    (orderly : registry.Orderly input.2) : registry.Upheld input := by
  rcases coherent.step orderly with ⟨stays, left⟩
  constructor
  · intro name version other
    exact stays.unique
  · exact stays.answers
  · intro place operation touched key strategy held active item
    rcases coherent.frozen key strategy held active with ⟨dict, there, frozen⟩
    rw [touched] at orderly
    have next : registry.step input = registry.touch place operation := by
      rw [StrategyRegistry.step, touched, perform]
    rw [next, entriesAt_touch registry place _ operation there, entriesAt_of_getElem? there]
    by_cases same : place = strategy.parameters
    · rw [if_pos same]
      have unaltered := orderly key strategy held active same.symm
      rw [same, entriesAt_of_getElem? there] at unaltered
      exact (perform_frozen frozen operation).mpr unaltered item
    · rw [if_neg same]
  · intro raised failed
    rw [left raised failed]
    exact ⟨fun _ => rfl, fun _ => rfl⟩

/-- The activation of an unknown version retires the active one of its name. -/
theorem Coherent.not_upheld_activate (coherent : registry.Coherent) {name version : String}
    {enforceEvidence : Bool} (unenforced : enforceEvidence = false)
    (unknown : registry.get (name, version) = none)
    (pointed : registry.activeByName.get name ≠ none) (now : String) :
    ¬ registry.Upheld (now, .activate name version enforceEvidence) := by
  intro upheld
  rcases Option.ne_none_iff_exists'.mp pointed with ⟨old, pointer⟩
  have active := (coherent.agrees name).pointed old pointer
  have vacated := coherent.retireOld name now
  rcases registry.activate_cases name version enforceEvidence now with
    ⟨raised, same⟩ | ⟨raised, -, -, partway⟩ | ⟨strategy, found, -⟩
  · have admitted : registry.precheck name version enforceEvidence = .ok () := by
      rw [precheck, if_pos (by simp [unenforced])]
    rw [StrategyRegistry.activate, admitted] at same
    simp only [(vacated.known (name, version)).mpr unknown, Prod.mk.injEq] at same
    have retired := vacated.vacant old
    rw [same.2] at retired
    exact retired active
  · have failed : (registry.perform now (.activate name version enforceEvidence)).1 =
        some raised := by
      rw [perform, partway]
      rfl
    have kept := (upheld.kept raised failed).2 (name, old)
    rw [StrategyRegistry.step, perform, partway] at kept
    exact vacated.vacant old (kept.trans active)
  · exact absurd (((vacated.known _).mpr unknown).symm.trans found) (Option.some_ne_none _).symm

/-- A recorded status that upholds the registry leaves whether the version is active. -/
theorem Coherent.recorded_iff (coherent : registry.Coherent) {name version now : String}
    {status : StrategyStatus} {strategy : VersionedStrategy}
    (held : registry.get (name, version) = some strategy)
    (upheld : registry.Upheld (now, .recordStatus name version status)) :
    status = .active ↔ strategy.status = .active := by
  have next : registry.step (now, .recordStatus name version status) =
      { registry with
        strategies :=
          registry.strategies.set (name, version) (strategy.setStatus status now) } := by
    rw [StrategyRegistry.step, perform, StrategyRegistry.recordStatus, held]
  have written : (registry.step (now, .recordStatus name version status)).get (name, version) =
      some (strategy.setStatus status now) := by
    rw [next]
    exact Dict.get_set_self _ _ _
  have pointers : (registry.step (now, .recordStatus name version status)).activeByName =
      registry.activeByName := by
    rw [next]
  constructor
  · intro recorded
    have active : (strategy.setStatus status now).status = .active := by
      rw [VersionedStrategy.setStatus_status, recorded]
    have answered := (upheld.answers name _).mpr ⟨version, written, active⟩
    rw [getActiveVersion, pointers] at answered
    cases pointer : registry.activeByName.get name with
    | none =>
        rw [pointer] at answered
        cases answered
    | some other =>
        have stood := (coherent.agrees name).pointed other pointer
        by_cases same : other = version
        · rw [same, statusOf_eq held] at stood
          exact Option.some.inj stood
        · have still : (registry.step (now, .recordStatus name version status)).statusOf
              (name, other) = some .active := by
            rw [statusOf, get, next, Dict.get_set_of_ne _ (fun there => same (Prod.mk.inj there).2)]
            exact stood
          have now := (statusOf_eq written).trans (congrArg some active)
          exact absurd (upheld.unique name other version still now) same
  · intro active
    have pointer := (coherent.agrees name).pointer version
      ((statusOf_eq held).trans (congrArg some active))
    have answered : (registry.step (now, .recordStatus name version status)).getActiveVersion
        name = some (strategy.setStatus status now) := by
      rw [getActiveVersion, pointers, pointer]
      exact written
    rcases (upheld.answers name _).mp answered with ⟨found, -, recorded⟩
    rw [VersionedStrategy.setStatus_status] at recorded
    exact recorded

/-- An operation that upholds the registry is orderly. -/
theorem Coherent.orderly (coherent : registry.Coherent) {input : String × RegistryOperation α}
    (upheld : registry.Upheld input) : registry.Orderly input.2 := by
  rcases input with ⟨now, operation⟩
  cases operation with
  | register name version parameters => trivial
  | retire name version => trivial
  | annotate key metricsSummary validationEvidence => trivial
  | activate name version enforceEvidence =>
      by_contra disorderly
      rcases not_or.mp disorderly with ⟨unenforced, others⟩
      rcases not_or.mp others with ⟨unknown, pointed⟩
      exact coherent.not_upheld_activate (Bool.not_eq_true _ ▸ unenforced) (not_not.mp unknown)
        pointed now upheld
  | recordStatus name version status =>
      exact fun strategy held => coherent.recorded_iff held upheld
  | touch place operation =>
      intro key strategy held active same
      rcases coherent.frozen key strategy held active with ⟨dict, there, frozen⟩
      have unchanged := upheld.guarded place operation rfl key strategy held active
      have next : registry.step (now, .touch place operation) =
          registry.touch place operation := rfl
      rw [next, entriesAt_touch registry place _ operation there, if_pos same.symm,
        entriesAt_of_getElem? there] at unchanged
      rw [← same, entriesAt_of_getElem? there]
      exact (perform_frozen frozen operation).mp unchanged

/-- In every run of a new registry the active versions are upheld exactly when every operation
is orderly. -/
theorem every_upheld_iff (dictionaries : List (ParameterDict α))
    (inputs : List (String × RegistryOperation α)) :
    Run.Every step Upheld (initial dictionaries) inputs ↔
      Run.Every step (fun registry input => registry.Orderly input.2) (initial dictionaries)
        inputs := by
  apply Run.every_iff_of_kept Coherent
  · intro registry input _ coherent orderly
    exact (coherent.step orderly).1
  · intro registry input _ coherent
    exact ⟨coherent.orderly, coherent.upheld⟩
  · exact coherent_initial dictionaries

/-- A dictionary of parameters that somebody holds. -/
private def period : ParameterDict Int :=
  ⟨false, Dict.empty.set "period" 14⟩

/-- A version is registered with the dictionary and activated. -/
private def activation : List (String × RegistryOperation Int) :=
  [("08:00", .register "S1" "v1" 0), ("08:01", .activate "S1" "v1" false)]

/-- The activation of an unknown version raises and retires the active one, a recorded status
makes a version active without a pointer, and an entry is added to frozen parameters. -/
theorem not_upheld :
    ¬ Run.Every step Upheld (initial [period])
        (activation ++ [("08:02", .activate "S1" "v9" false)]) ∧
      ¬ Run.Every step Upheld (initial [period])
        [("08:00", .register "S1" "v1" 0), ("08:01", .recordStatus "S1" "v1" .active)] ∧
      ¬ Run.Every step Upheld (initial [period])
        (activation ++ [("08:02", .touch 1 (.setDefault "leverage" 500))]) := by
  refine ⟨?_, ?_, ?_⟩
  · rintro ⟨-, -, upheld, -⟩
    have kept := (upheld.kept (.valueError "Strategy S1 vv9 not found") (by decide +kernel)).2
      ("S1", "v1")
    revert kept
    decide +kernel
  · rintro ⟨-, upheld, -⟩
    have answered := (upheld.answers "S1" _).mpr ⟨"v1", rfl, rfl⟩
    have some := congrArg Option.isSome answered
    revert some
    decide +kernel
  · rintro ⟨-, -, upheld, -⟩
    have same := upheld.guarded 1 _ rfl ("S1", "v1") _ rfl rfl "leverage"
    revert same
    decide +kernel

end StrategyRegistry

end EaBot.Strategy
