import EaBot.Execution.DispatchProtocol

/-!
# At most one dispatching call per key

A process runs calls of the engine one after the other, may be cut short in the
middle of a call, and may be restarted on its file any number of times.  When
durability is required, the record that keeps an order from being submitted again
is on the file before the first submission, and no later write takes it back.

`Recorded` is the invariant of the ledger between calls, and `CallInvariant` adds
what a call has established in each of its phases.
-/

namespace EaBot.Execution

open EaBot.Foundation EaBot.Persistence Program

/-- Whether a caller has dispatched the order with this key. -/
def DispatchedBy (log : List Event) (caller : Nat) (key : String) : Prop :=
  ∃ route durable submission, Event.dispatched caller key route durable submission ∈ log

/-- The callers that have dispatched the order with this key. -/
def dispatchers (log : List Event) (key : String) : Set Nat :=
  {caller | DispatchedBy log caller key}

/-- Whether an event dispatches the order with this key on behalf of a caller. -/
def Event.isDispatch (caller : Nat) (key : String) : Event → Bool
  | dispatched other name _ _ _ => caller == other && key == name
  | _ => false

instance (log : List Event) (caller : Nat) (key : String) :
    Decidable (DispatchedBy log caller key) :=
  decidable_of_iff (log.any (Event.isDispatch caller key) = true) <| by
    rw [List.any_eq_true]
    constructor
    · rintro ⟨event, member, found⟩
      cases event with
      | dispatched other name route durable submission =>
          simp only [Event.isDispatch, Bool.and_eq_true, beq_iff_eq] at found
          rw [found.1, found.2]
          exact ⟨route, durable, submission, member⟩
      | checked | wrote | returned => cases found
    · rintro ⟨route, durable, submission, member⟩
      exact ⟨_, member, by simp [Event.isDispatch]⟩

section Log

variable {log : List Event} {caller other : Nat} {key name : String}

@[simp]
theorem dispatchedBy_nil : ¬ DispatchedBy [] caller key := by
  simp [DispatchedBy]

@[simp]
theorem dispatchedBy_checked {duplicate : Bool} :
    DispatchedBy (.checked other name duplicate :: log) caller key ↔
      DispatchedBy log caller key := by
  simp [DispatchedBy]

@[simp]
theorem dispatchedBy_wrote {state : OrderState} {persisted : Bool} :
    DispatchedBy (.wrote other name state persisted :: log) caller key ↔
      DispatchedBy log caller key := by
  simp [DispatchedBy]

@[simp]
theorem dispatchedBy_returned :
    DispatchedBy (.returned other :: log) caller key ↔ DispatchedBy log caller key := by
  simp [DispatchedBy]

@[simp]
theorem dispatchedBy_dispatched {route : Route} {durable : Bool} {submission : Submission} :
    DispatchedBy (.dispatched other name route durable submission :: log) caller key ↔
      (caller = other ∧ key = name) ∨ DispatchedBy log caller key := by
  constructor
  · rintro ⟨found, flag, sent, member⟩
    rcases List.mem_cons.mp member with same | earlier
    · cases same
      exact .inl ⟨rfl, rfl⟩
    · exact .inr ⟨found, flag, sent, earlier⟩
  · rintro (⟨rfl, rfl⟩ | ⟨found, flag, sent, earlier⟩)
    · exact ⟨route, durable, submission, List.mem_cons_self⟩
    · exact ⟨found, flag, sent, List.mem_cons_of_mem _ earlier⟩

end Log

/-- The ledger is keyed, a healthy process knows what is durable, every dispatched
order is durable beyond the intent marker, and only one caller dispatched it. -/
structure Recorded (ledger : Ledger) (log : List Event) : Prop where
  keyed : ledger.Keyed
  remembered : ledger.healthy = true → ∀ key, ledger.durableBeyond key = true →
    ledger.memoryBeyond key = true
  durable : ∀ caller key, DispatchedBy log caller key → ledger.durableBeyond key = true
  unique : ∀ key, (dispatchers log key).Subsingleton

namespace Recorded

variable {ledger : Ledger} {log : List Event} {caller : Nat} {key : String}

/-- A write keeps the invariant unless it takes a dispatched order back to the
intent marker. -/
theorem write {state : OrderState} {extra : List (String × Val)} {persisted : Bool}
    (recorded : Recorded ledger log) (keeps : Keeps key extra)
    (forward : state = .intentCreated → ∀ other, ¬ DispatchedBy log other key) :
    Recorded (ledger.setOrder key state.value extra).2
      (.wrote caller key state persisted :: log) where
  keyed := recorded.keyed.setOrder keeps _
  remembered := by
    intro healthy name durable
    have stored : (ledger.setOrder key state.value extra).1 = true := by
      by_contra lost
      have unhealthy := Ledger.unhealthy_of_setOrder state.value (Bool.eq_false_iff.mpr lost)
      exact absurd healthy (Bool.eq_false_iff.mp unhealthy)
    rw [Ledger.setOrder_durableBeyond recorded.keyed keeps] at durable
    rw [Ledger.setOrder_memoryBeyond keeps]
    by_cases same : name = key
    · simpa [stored, same] using durable
    · rw [if_neg (by simp [same])] at durable
      rw [if_neg same]
      exact recorded.remembered (Ledger.healthy_of_setOrder _ healthy) name durable
  durable := by
    intro other name dispatched
    rw [dispatchedBy_wrote] at dispatched
    rw [Ledger.setOrder_durableBeyond recorded.keyed keeps]
    split
    · rename_i stored
      rw [stored.2] at dispatched
      exact decide_eq_true fun marker => forward marker other dispatched
    · exact recorded.durable other name dispatched
  unique := by
    intro name first byFirst second bySecond
    exact recorded.unique name (dispatchedBy_wrote.mp byFirst) (dispatchedBy_wrote.mp bySecond)

/-- A dispatch keeps the invariant when its order is durable and nobody else
dispatched it. -/
theorem dispatch {route : Route} {flag : Bool} {submission : Submission}
    (recorded : Recorded ledger log) (durable : ledger.durableBeyond key = true)
    (alone : ∀ other, DispatchedBy log other key → other = caller) :
    Recorded ledger (.dispatched caller key route flag submission :: log) where
  keyed := recorded.keyed
  remembered := recorded.remembered
  durable := by
    intro other name dispatched
    rcases dispatchedBy_dispatched.mp dispatched with ⟨rfl, rfl⟩ | earlier
    · exact durable
    · exact recorded.durable other name earlier
  unique := by
    intro name first byFirst second bySecond
    rcases dispatchedBy_dispatched.mp byFirst with ⟨rfl, rfl⟩ | earlierFirst <;>
      rcases dispatchedBy_dispatched.mp bySecond with ⟨rfl, same⟩ | earlierSecond
    · rfl
    · exact (alone second earlierSecond).symm
    · exact alone first (same ▸ earlierFirst)
    · exact recorded.unique name earlierFirst earlierSecond

end Recorded

/-- What a call has established in a phase. -/
def Established (caller : Nat) (key : String) (ledger : Ledger) (log : List Event) :
    Phase → Prop
  | .opened => True
  | .ready => ledger.healthy = true
  | .cleared => ∀ other, ¬ DispatchedBy log other key
  | .committed => ∀ other, ¬ DispatchedBy log other key
  | .dispatching => ledger.durableBeyond key = true ∧
      ∀ other, DispatchedBy log other key → other = caller
  | .finished => True

/-- The invariant of a call in progress. -/
structure CallInvariant (caller : Nat) (key : String) (phase : Phase) (world : World) :
    Prop where
  recorded : Recorded world.ledger world.log
  established : Established caller key world.ledger world.log phase

/-- A caller whose order is in memory beyond the marker does not pass the check. -/
theorem memoryBeyond_of_not_duplicate {world : World} {key : String} (nonempty : key ≠ "")
    (passed : world.isDuplicate key = false) : world.ledger.memoryBeyond key = false := by
  by_contra remembered
  simp [World.isDuplicate, nonempty, Bool.eq_true_of_not_eq_false remembered] at passed

/-- A healthy process lets nothing pass the duplicate check that is durable. -/
theorem Recorded.not_durable_of_not_duplicate {world : World} {key : String}
    (recorded : Recorded world.ledger world.log) (healthy : world.ledger.healthy = true)
    (nonempty : key ≠ "") (passed : world.isDuplicate key = false) :
    world.ledger.durableBeyond key = false := by
  by_contra durable
  have remembered := recorded.remembered healthy key (Bool.eq_true_of_not_eq_false durable)
  exact Bool.false_ne_true ((memoryBeyond_of_not_duplicate nonempty passed).symm.trans remembered)

/-- Every permitted move of a call keeps its invariant. -/
theorem CallInvariant.step {caller : Nat} {key : String} (nonempty : key ≠ "")
    {phase next : Phase} {before after : World}
    (moved : Moves true caller key phase before next after)
    (invariant : CallInvariant caller key phase before) :
    CallInvariant caller key next after := by
  obtain ⟨recorded, established⟩ := invariant
  cases moved with
  | keep ledger log =>
      rw [← ledger, ← log] at recorded established
      exact ⟨recorded, established⟩
  | enter healthy => exact ⟨recorded, healthy rfl⟩
  | check =>
      refine ⟨⟨recorded.keyed, recorded.remembered, ?_, ?_⟩, ?_⟩
      · intro other name dispatched
        exact recorded.durable other name (dispatchedBy_checked.mp dispatched)
      · intro name first byFirst second bySecond
        exact recorded.unique name (dispatchedBy_checked.mp byFirst)
          (dispatchedBy_checked.mp bySecond)
      · cases passed : before.isDuplicate key with
        | true => trivial
        | false =>
            have fresh := recorded.not_durable_of_not_duplicate established nonempty passed
            intro other dispatched
            have durable := recorded.durable other key (dispatchedBy_checked.mp dispatched)
            exact absurd durable (Bool.eq_false_iff.mp fresh)
  | @write _ _ _ state extra keeps leads =>
      have known : (before.ledger.setOrder key state.value extra).2.durableBeyond key = _ :=
        Ledger.setOrder_durableBeyond recorded.keyed keeps key
      rcases writeLeads_cases leads with ⟨rfl, beyond⟩ | ⟨rfl, rfl, -⟩ | ⟨rfl, rfl, -⟩ |
        ⟨rfl, rfl, rfl⟩ | ⟨rfl, rfl, beyond⟩
      · exact ⟨recorded.write keeps fun marker => absurd marker beyond, trivial⟩
      · exact ⟨recorded.write keeps fun _ => established,
          fun other dispatched => established other (dispatchedBy_wrote.mp dispatched)⟩
      · exact ⟨recorded.write keeps fun _ => established,
          fun other dispatched => established other (dispatchedBy_wrote.mp dispatched)⟩
      · refine ⟨recorded.write keeps fun _ => established, ?_⟩
        cases stored : (before.setOrder caller key .submitting extra).1 with
        | false =>
            exact fun other dispatched => established other (dispatchedBy_wrote.mp dispatched)
        | true =>
            have written : (before.ledger.setOrder key OrderState.submitting.value extra).1 =
              true := stored
            rw [if_pos ⟨written, rfl⟩] at known
            exact ⟨known, fun other dispatched =>
              absurd (dispatchedBy_wrote.mp dispatched) (established other)⟩
      · refine ⟨recorded.write keeps fun marker => absurd marker beyond, ?_, ?_⟩
        · rw [World.setOrder, World.record]
          dsimp only
          rw [known]
          split
          · exact decide_eq_true beyond
          · exact established.1
        · exact fun other dispatched => established.2 other (dispatchedBy_wrote.mp dispatched)
  | dispatch =>
      refine ⟨recorded.dispatch established.1 established.2, established.1, ?_⟩
      intro other dispatched
      rcases dispatchedBy_dispatched.mp dispatched with ⟨same, _⟩ | earlier
      · exact same
      · exact established.2 other earlier
  | leave =>
      refine ⟨⟨recorded.keyed, recorded.remembered, ?_, ?_⟩, trivial⟩
      · intro other name dispatched
        exact recorded.durable other name (dispatchedBy_returned.mp dispatched)
      · intro name first byFirst second bySecond
        exact recorded.unique name (dispatchedBy_returned.mp byFirst)
          (dispatchedBy_returned.mp bySecond)

theorem callInvariant_kept (caller : Nat) {key : String} (nonempty : key ≠ "") :
    Kept (Moves true caller key) (CallInvariant caller key) :=
  fun _ _ _ _ moved invariant => invariant.step nonempty moved

/-! ## Runs of a process and its restarts -/

/-- A process that starts again on the file of its store, with nothing but the log of
the past. -/
def restart (interrupted : Option Nat) (world : World) : World :=
  match world.ledger.store with
  | none => { World.start Ledger.initial with log := world.log }
  | some store => { World.start (Ledger.boot store.file interrupted) with log := world.log }

/-- One thing that happens to a process. -/
inductive Happening
  | call (surroundings : Surroundings) (request : OrderRequest)
  | crash (surroundings : Surroundings) (request : OrderRequest) (count : Nat)
      (interrupted : Option Nat)
  | restarted (interrupted : Option Nat)

/-- What a happening does; `caller` numbers it. -/
def Happening.perform (config : EngineConfig) (caller : Nat) (world : World) :
    Happening → World
  | call surroundings request =>
      ((executeOrder config surroundings caller request).run world).2
  | crash surroundings request count interrupted =>
      restart interrupted
        ((executeOrder config surroundings caller request).stateAfter count world)
  | restarted interrupted => restart interrupted world

/-- A history of a process, its happenings numbered from `first` on. -/
def history (config : EngineConfig) : Nat → World → List Happening → World
  | _, world, [] => world
  | first, world, happening :: rest =>
      history config (first + 1) (happening.perform config first world) rest

/-- A process that starts on a file knows what is durable there. -/
theorem recorded_boot (file : OrderFile) (interrupted : Option Nat) {log : List Event}
    (durable : ∀ caller key, DispatchedBy log caller key →
      OrderStateStore.durableBeyond file key = true)
    (unique : ∀ key, (dispatchers log key).Subsingleton) :
    Recorded (Ledger.boot file interrupted) log where
  keyed := Ledger.keyed_boot _ _
  remembered := by
    intro healthy key known
    cases interrupted with
    | some count => exact absurd healthy Bool.false_ne_true
    | none =>
        rw [Ledger.boot_memoryBeyond, ← Ledger.boot_durableBeyond]
        exact known
  durable := by
    intro caller key dispatched
    rw [Ledger.boot_durableBeyond]
    exact durable caller key dispatched
  unique := unique

theorem Recorded.restart {world : World} (recorded : Recorded world.ledger world.log)
    (interrupted : Option Nat) :
    Recorded (restart interrupted world).ledger (restart interrupted world).log := by
  unfold Execution.restart
  cases attached : world.ledger.store with
  | none =>
      refine ⟨fun _ absent => (nomatch absent), fun healthy => (nomatch healthy), ?_,
        recorded.unique⟩
      intro caller key dispatched
      have durable := recorded.durable caller key dispatched
      simp [Ledger.durableBeyond, attached] at durable
  | some store =>
      refine recorded_boot store.file interrupted ?_ recorded.unique
      intro caller key dispatched
      simpa [Ledger.durableBeyond, attached] using recorded.durable caller key dispatched

section Histories

variable {config : EngineConfig}

/-- Whatever happens to a process, the ledger stays recorded. -/
theorem Recorded.perform (required : config.requireDurableState = true) (caller : Nat)
    {world : World} (recorded : Recorded world.ledger world.log) (happening : Happening) :
    Recorded (happening.perform config caller world).ledger
      (happening.perform config caller world).log := by
  cases happening with
  | call surroundings request =>
      have conforms := executeOrder_conforms config surroundings caller request
      rw [required] at conforms
      obtain ⟨_, final⟩ := conforms.run_keeps
        (callInvariant_kept caller (callKey_nonempty surroundings request))
        ⟨recorded, trivial⟩
      exact final.recorded
  | crash surroundings request count interrupted =>
      have conforms := executeOrder_conforms config surroundings caller request
      rw [required] at conforms
      obtain ⟨_, final⟩ := conforms.stateAfter_keeps
        (callInvariant_kept caller (callKey_nonempty surroundings request)) count
        ⟨recorded, trivial⟩
      exact final.recorded.restart interrupted
  | restarted interrupted => exact recorded.restart interrupted

theorem Recorded.history (required : config.requireDurableState = true) (first : Nat)
    {world : World} (recorded : Recorded world.ledger world.log)
    (happenings : List Happening) :
    Recorded (history config first world happenings).ledger
      (history config first world happenings).log := by
  induction happenings generalizing first world with
  | nil => exact recorded
  | cons happening rest ih => exact ih (first + 1) (recorded.perform required first happening)

/-- In every history of a process that requires durability, at most one call
dispatches the order with a given key. -/
theorem at_most_one_call_dispatches (required : config.requireDurableState = true)
    (file : OrderFile) (interrupted : Option Nat) (happenings : List Happening)
    (key : String) :
    (dispatchers (history config 0 (World.start (Ledger.boot file interrupted))
      happenings).log key).Subsingleton := by
  have started : Recorded (World.start (Ledger.boot file interrupted)).ledger
      (World.start (Ledger.boot file interrupted)).log :=
    recorded_boot file interrupted (fun _ _ absent => absurd absent dispatchedBy_nil)
      fun _ _ absent => absurd absent dispatchedBy_nil
  exact (started.history required 0 happenings).unique key

/-- A submission before a restart is the only one, although the call is made again. -/
theorem at_most_one_call_dispatches_sample :
    let final := history { Sample.config with requireDurableState := true } 0
      (World.start (Ledger.boot Sample.file none))
      [.call Sample.surroundings Sample.request, .restarted none,
        .call Sample.surroundings Sample.request]
    0 ∈ dispatchers final.log "order-1" ∧ (dispatchers final.log "order-1").Subsingleton :=
  ⟨by change DispatchedBy _ 0 "order-1"; decide +kernel,
    at_most_one_call_dispatches rfl _ _ _ _⟩

end Histories

end EaBot.Execution
