import EaBot.Mt5.Terminals

/-!
# Probing next to arming

A probe moves the binding from terminal to terminal and then takes it back.  It refuses to
start while a terminal is armed.  That check is made before the probe waits for the lock of
the binding, and arming a terminal does not take the lock: a terminal that is armed after
the check is armed while the probe moves the binding.
-/

namespace EaBot.Mt5

open EaBot.Foundation Program

/-! ## Calls side by side -/

/-- A call to the manager. -/
inductive ManagerCall
  | probe (answers : ProbeAnswers)
  | arm (reads : HostReads) (id : String) (armed : Bool)

/-- The program of a call. -/
def ManagerCall.program (config : List TerminalConfig) (caller : Nat) :
    ManagerCall → Program TerminalWorld Unit
  | probe answers => do
      let _ ← probeAccounts caller config answers
      return ()
  | arm reads id armed => do
      let _ ← armTerminal config reads id armed
      return ()

/-- At most one caller holds the lock of the binding. -/
def OneHolder (world : TerminalWorld) : Prop :=
  world.lockHolders.length ≤ 1

instance : DecidablePred OneHolder := fun _ => inferInstanceAs (Decidable (_ ≤ _))

/-- The state after the calls have taken turns.  Who asks for the lock while another caller
holds it waits. -/
def afterCalls (config : List TerminalConfig) (calls : Nat → ManagerCall) (schedule : List Nat)
    (world : TerminalWorld) : TerminalWorld :=
  (interleaveWithin OneHolder schedule (fun caller => (calls caller).program config caller)
    world).2

/-- The probes that have passed the armed check and have not returned. -/
def underWay : List ManagerEvent → List Nat
  | [] => []
  | .checked caller false :: earlier => caller :: underWay earlier
  | .released caller :: earlier => (underWay earlier).filter fun other => other ≠ caller
  | _ :: earlier => underWay earlier

/-- No terminal was armed while a probe was under way. -/
def ArmedApart : List ManagerEvent → Prop
  | [] => True
  | .armed _ _ :: earlier => underWay earlier = [] ∧ ArmedApart earlier
  | _ :: earlier => ArmedApart earlier

/-- Every probe began where it could say truly whether it takes the binding back. -/
def Recoverable (log : List ManagerEvent) : Prop :=
  ∀ caller recoverable, .probing caller recoverable ∈ log → recoverable = true

/-- Two places of the binding are the same terminal, or none. -/
def SamePlace (first second : Option String) : Prop :=
  first.map NtPath.norm = second.map NtPath.norm

instance : DecidableRel SamePlace := fun _ _ => inferInstanceAs (Decidable (_ = _))

/-- No probe has moved the binding while a terminal was armed, and every probe that has ended
has taken the binding back or says that it has not. -/
structure SafelyProbed (log : List ManagerEvent) : Prop where
  unarmed : ∀ caller armed, .moved caller armed ∈ log → armed = false
  returned : ∀ caller original final restored,
    .probed caller original final restored ∈ log →
      SamePlace original final ∨ restored = false

/-- The manager before the calls: nobody holds the lock, nothing has been noted, and a
binding that is attached can be detached. -/
structure Unused (world : TerminalWorld) : Prop where
  holders : world.lockHolders = []
  log : world.log = []
  bound : world.attached ≠ none → world.available = true

/-! ## The course of a call -/

/-- How far a call has come.  Under the lock a probe knows where the binding was, whether it
can recover it and whether it has just detached it; in the end also whether it says that it
has taken it back. -/
inductive CallPhase
  | ready
  | cleared
  | holding
  | inside (original : Option String) (recoverable detached : Bool)
  | settled (original : Option String) (recoverable restored : Bool)
  | reported
  | finished

/-- A probe that is under way. -/
def CallPhase.UnderWay : CallPhase → Prop
  | ready | finished => False
  | cleared | holding | inside _ _ _ | settled _ _ _ | reported => True

/-- A probe that holds the lock. -/
def CallPhase.Holding : CallPhase → Prop
  | ready | finished | cleared => False
  | holding | inside _ _ _ | settled _ _ _ | reported => True

/-- The moves of a call. -/
inductive CallMove (caller : Nat) : CallPhase → TerminalWorld → CallPhase → TerminalWorld → Prop
  | stay (phase : CallPhase) (world : TerminalWorld) : CallMove caller phase world phase world
  | list (world : TerminalWorld) (accounts : Dict String AccountSummary) :
      CallMove caller .ready world .ready { world with accountCache := accounts }
  | arm (world : TerminalWorld) (id folder : String) :
      CallMove caller .ready world .finished ((world.setArmed id true).note (.armed id folder))
  | disarm (world : TerminalWorld) (id : String) :
      CallMove caller .ready world .finished ((world.setArmed id false).note (.disarmed id))
  | refuse (world : TerminalWorld) :
      CallMove caller .ready world .finished (world.note (.checked caller true))
  | check (world : TerminalWorld) (unarmed : world.isExecutionArmed = false) :
      CallMove caller .ready world .cleared (world.note (.checked caller false))
  | acquire (world : TerminalWorld) :
      CallMove caller .cleared world .holding
        { world with lockHolders := caller :: world.lockHolders }
  | start (world : TerminalWorld) (accounts : Dict String AccountSummary) (recoverable : Bool) :
      CallMove caller .holding world (.inside world.attached recoverable false)
        ({ world with accountCache := accounts }.note (.probing caller recoverable))
  | shut (world : TerminalWorld) (original : Option String) (recoverable : Bool) :
      CallMove caller (.inside original recoverable false) world
        (.inside original recoverable true)
        (world.shutdown.note (.moved caller world.isExecutionArmed))
  | attach (world : TerminalWorld) (original : Option String) (recoverable : Bool)
      (folder : String) (answer : AttachAnswer) :
      CallMove caller (.inside original recoverable true) world
        (.inside original recoverable false)
        ((world.useLiveDataMode folder answer).2.note (.moved caller world.isExecutionArmed))
  | leave (world : TerminalWorld) (original : Option String) (recoverable restored : Bool)
      (detached : recoverable = true → restored = true → original = none) :
      CallMove caller (.inside original recoverable false) world
        (.settled original recoverable restored)
        (world.shutdown.note (.moved caller world.isExecutionArmed))
  | back (world : TerminalWorld) (original : Option String) (recoverable : Bool)
      (folder : String) (answer : AttachAnswer)
      (here : recoverable = true → answer = .attached → SamePlace original (some folder)) :
      CallMove caller (.inside original recoverable true) world
        (.settled original recoverable (world.useLiveDataMode folder answer).1)
        ((world.useLiveDataMode folder answer).2.note (.moved caller world.isExecutionArmed))
  | report (world : TerminalWorld) (original : Option String) (recoverable restored : Bool)
      (accounts : Dict String AccountSummary) (stamp : Option String) :
      CallMove caller (.settled original recoverable restored) world .reported
        ({ world with accountCache := accounts, accountCacheTs := stamp }.note
          (.probed caller original world.attached restored))
  | release (phase : CallPhase) (holding : phase.Holding) (world : TerminalWorld) :
      CallMove caller phase world .finished
        ({ world with lockHolders := world.lockHolders.erase caller }.note (.released caller))

/-! ## Every call makes such moves -/

section Conformance

variable {config : List TerminalConfig} {caller : Nat} {α : Type}

/-- A program makes the moves of a call and ends in a given phase. -/
abbrev EndsIn (caller : Nat) (start : CallPhase) (program : Program TerminalWorld α)
    (goal : CallPhase → α → Prop) : Prop :=
  Conforms (CallMove caller) goal program start

theorem moveTo_moves (original : Option String) (recoverable : Bool) (current : Option String)
    (entry : RegistryEntry) (answer : AttachAnswer) :
    EndsIn caller (.inside original recoverable false) (moveTo caller current entry answer)
      fun phase _ => phase = .inside original recoverable false := by
  unfold moveTo
  split
  · rfl
  · apply conforms_perform_bind
    intro world
    refine ⟨_, CallMove.shut world original recoverable, ?_⟩
    apply conforms_perform
    intro world
    exact ⟨_, CallMove.attach world original recoverable entry.folder answer, rfl⟩

theorem probeTerminals_moves (original : Option String) (recoverable : Bool)
    (answers : ProbeAnswers) (entries : List RegistryEntry) (number : Nat)
    (current : Option String) :
    EndsIn caller (.inside original recoverable false)
      (probeTerminals caller answers number current entries)
      fun phase _ => phase = .inside original recoverable false := by
  induction entries generalizing number current with
  | nil => exact rfl
  | cons entry rest inductionHypothesis =>
      unfold probeTerminals
      apply (moveTo_moves original recoverable current entry (answers.attach number)).bind
      rintro phase attached rfl
      apply (inductionHypothesis (number + 1) _).bind
      rintro phase rows rfl
      exact rfl

/-- What a probe that can recover the binding knows of the registry. -/
structure Knows (view : RegistryView) (answers : ProbeAnswers) (original : Option String) :
    Prop where
  some : ∀ entry, originalEntry view = some entry → answers.restore = .attached →
    SamePlace original (some entry.folder)
  none : originalEntry view = none → view.attachedPath = none → original = none

theorem restoreProbe_moves (original : Option String) (recoverable : Bool) (view : RegistryView)
    (answers : ProbeAnswers) (knows : recoverable = true → Knows view answers original) :
    EndsIn caller (.inside original recoverable false) (restoreProbe caller view answers.restore)
      fun phase restored => phase = .settled original recoverable restored := by
  unfold restoreProbe
  apply conforms_perform_bind
  intro world
  cases found : originalEntry view with
  | none =>
      refine ⟨_, CallMove.leave world original recoverable view.attachedPath.isNone ?_, rfl⟩
      intro able restored
      exact (knows able).none found (by simpa using restored)
  | some entry =>
      refine ⟨_, CallMove.shut world original recoverable, ?_⟩
      apply conforms_perform
      intro world
      refine ⟨_, CallMove.back world original recoverable entry.folder answers.restore ?_, rfl⟩
      intro able attached
      exact (knows able).some entry found attached

theorem probeRunning_moves (original : Option String) (recoverable : Bool) (view : RegistryView)
    (answers : ProbeAnswers) (running : List RegistryEntry)
    (knows : recoverable = true → Knows view answers original) :
    EndsIn caller (.inside original recoverable false)
      (probeRunning caller answers original view running) fun phase _ => phase = .reported := by
  unfold probeRunning
  apply (probeTerminals_moves original recoverable answers running 0 _).bind
  rintro phase rows rfl
  apply (restoreProbe_moves original recoverable view answers knows).bind
  rintro phase restored rfl
  apply conforms_perform
  intro world
  exact ⟨_, CallMove.report world original recoverable restored _ _, rfl⟩

theorem knows_of_recoverable {answers : ProbeAnswers} {world : TerminalWorld}
    (able : recoverable config answers world = true) :
    Knows (registryRead config answers.view world) answers world.attached := by
  unfold recoverable at able
  constructor
  · intro entry found attached
    rw [found] at able
    simpa [attached, SamePlace] using able
  · intro found unseen
    rw [found] at able
    rw [registryRead_attachedPath] at unseen
    simpa [unseen] using able

theorem probeLocked_moves (answers : ProbeAnswers) :
    EndsIn caller .holding (probeLocked caller config answers) fun phase _ => phase.Holding := by
  unfold probeLocked beginProbe
  apply conforms_perform_bind
  intro world
  obtain ⟨accounts, same⟩ := refreshAttachedAccount_eq answers.view world
  rw [same]
  refine ⟨_, CallMove.start world accounts (recoverable config answers world), ?_⟩
  dsimp only
  split
  · apply conforms_perform
    intro world
    exact ⟨_, CallMove.stay _ world, trivial⟩
  · apply (probeRunning_moves _ _ _ answers _ knows_of_recoverable).mono
    rintro phase result rfl
    trivial

theorem probeAccounts_moves (answers : ProbeAnswers) :
    EndsIn caller .ready (probeAccounts caller config answers)
      fun phase _ => phase = .finished := by
  unfold probeAccounts
  apply conforms_perform_bind
  intro world
  cases armed : world.isExecutionArmed with
  | true => exact ⟨_, CallMove.refuse world, rfl⟩
  | false =>
      refine ⟨_, CallMove.check world armed, ?_⟩
      apply conforms_perform_bind
      intro world
      refine ⟨_, CallMove.acquire world, ?_⟩
      apply (probeLocked_moves answers).bind
      intro phase result holding
      apply conforms_perform_bind
      intro world
      exact ⟨_, CallMove.release phase holding world, rfl⟩

theorem armTerminal_moves (reads : HostReads) (id : String) (armed : Bool) :
    EndsIn caller .ready (armTerminal config reads id armed) fun _ _ => True := by
  unfold armTerminal
  cases armed with
  | false =>
      apply conforms_perform
      intro world
      exact ⟨_, CallMove.disarm world id, trivial⟩
  | true =>
      apply conforms_perform_bind
      intro world
      obtain ⟨accounts, same⟩ := refreshAttachedAccount_eq reads world
      rw [same]
      refine ⟨_, CallMove.list world accounts, ?_⟩
      split
      · trivial
      · split
        · trivial
        · split
          · trivial
          · rename_i entry _ _ _
            apply conforms_perform_bind
            intro world
            exact ⟨_, CallMove.arm world id entry.folder, trivial⟩

theorem program_moves (call : ManagerCall) :
    EndsIn caller .ready (call.program config caller) fun _ _ => True := by
  cases call with
  | probe answers =>
      apply (probeAccounts_moves answers).bind
      intro phase result ended
      trivial
  | arm reads id armed =>
      apply (armTerminal_moves reads id armed).bind
      intro phase result ended
      trivial

end Conformance

/-! ## What the calls keep -/

/-- What a phase knows of the place of the binding. -/
def CallPhase.Right (attached : Option String) : CallPhase → Prop
  | inside _ recoverable detached => recoverable = true ∧ (detached = true → attached = none)
  | settled original recoverable restored =>
      recoverable = true ∧ (restored = true → SamePlace original attached)
  | ready | cleared | holding | reported | finished => True

/-- What holds while calls are under way. -/
structure Guarded (phases : Nat → CallPhase) (world : TerminalWorld) : Prop where
  bound : world.attached ≠ none → world.available = true
  single : OneHolder world
  holders : ∀ caller, (phases caller).Holding → caller ∈ world.lockHolders
  under : ∀ caller, (phases caller).UnderWay → caller ∈ underWay world.log
  unarmed : underWay world.log ≠ [] → world.isExecutionArmed = false
  right : ∀ caller, (phases caller).Right world.attached
  safe : SafelyProbed world.log

/-- Terminals are armed apart from probes, and probes begin where they can recover the
binding. -/
structure FairLog (log : List ManagerEvent) : Prop where
  apart : ArmedApart log
  recoverable : Recoverable log

/-- A step that leaves the lock and the binding alone. -/
structure SameBinding (before after : TerminalWorld) : Prop where
  holders : after.lockHolders = before.lockHolders
  attached : after.attached = before.attached
  available : after.available = before.available

/-- An event that does not say where the binding is. -/
def ManagerEvent.Quiet : ManagerEvent → Prop
  | moved _ _ | probed _ _ _ _ => False
  | _ => True

section Invariant

variable {phases : Nat → CallPhase} {before after : TerminalWorld} {caller : Nat}
  {next : CallPhase}

theorem fairLog_of_cons {event : ManagerEvent} {log : List ManagerEvent}
    (fair : FairLog (event :: log)) : FairLog log := by
  constructor
  · have apart := fair.apart
    cases event with
    | armed id folder => exact apart.2
    | _ => exact apart
  · intro other recoverable member
    exact fair.recoverable other recoverable (List.mem_cons_of_mem _ member)

theorem right_of_not_holding {phase : CallPhase} (free : ¬ phase.Holding)
    (attached : Option String) : phase.Right attached := by
  cases phase with
  | inside original recoverable detached => exact absurd trivial free
  | settled original recoverable restored => exact absurd trivial free
  | _ => trivial

theorem underWay_of_holding {phase : CallPhase} (holding : phase.Holding) : phase.UnderWay := by
  cases phase with
  | ready | cleared | finished => exact holding.elim
  | _ => trivial

/-- The lock has one holder. -/
theorem Guarded.alone (guarded : Guarded phases before) {first second : Nat}
    (holds : (phases first).Holding) (also : (phases second).Holding) : second = first := by
  have single := guarded.single
  unfold OneHolder at single
  obtain ⟨holder, only⟩ : ∃ holder, before.lockHolders = [holder] := by
    have member := guarded.holders first holds
    match before.lockHolders, single, member with
    | [holder], _, _ => exact ⟨holder, rfl⟩
  have firstIs := guarded.holders first holds
  have secondIs := guarded.holders second also
  rw [only, List.mem_singleton] at firstIs secondIs
  rw [firstIs, secondIs]

/-- One call moves on; the others are where they were. -/
theorem Guarded.move (guarded : Guarded phases before) (single : OneHolder after)
    (bound : after.attached ≠ none → after.available = true)
    (others : ∀ other, other ≠ caller → (phases other).Holding →
      other ∈ after.lockHolders ∧ (phases other).Right after.attached)
    (holding : next.Holding → caller ∈ after.lockHolders)
    (progress : next.UnderWay → caller ∈ underWay after.log)
    (right : next.Right after.attached)
    (under : ∀ other, other ≠ caller → other ∈ underWay before.log → other ∈ underWay after.log)
    (unarmed : underWay after.log ≠ [] → after.isExecutionArmed = false)
    (safe : SafelyProbed after.log) : Guarded (Function.update phases caller next) after := by
  constructor
  · exact bound
  · exact single
  · intro other holds
    by_cases same : other = caller
    · subst same
      exact holding (by simpa using holds)
    · exact (others other same (by simpa [same] using holds)).1
  · intro other way
    by_cases same : other = caller
    · subst same
      exact progress (by simpa using way)
    · exact under other same (guarded.under other (by simpa [same] using way))
  · exact unarmed
  · intro other
    by_cases same : other = caller
    · subst same
      simpa using right
    · rw [Function.update_of_ne same]
      by_cases holds : (phases other).Holding
      · exact (others other same holds).2
      · exact right_of_not_holding holds _
  · exact safe

theorem SafelyProbed.cons {log : List ManagerEvent} {event : ManagerEvent}
    (safe : SafelyProbed log)
    (moved : ∀ caller armed, event = .moved caller armed → armed = false)
    (probed : ∀ caller original final restored,
      event = .probed caller original final restored →
        SamePlace original final ∨ restored = false) : SafelyProbed (event :: log) := by
  constructor
  · intro caller armed member
    rcases List.mem_cons.mp member with here | there
    · exact moved caller armed here.symm
    · exact safe.unarmed caller armed there
  · intro caller original final restored member
    rcases List.mem_cons.mp member with here | there
    · exact probed caller original final restored here.symm
    · exact safe.returned caller original final restored there

theorem SafelyProbed.quiet {log : List ManagerEvent} {event : ManagerEvent}
    (safe : SafelyProbed log) (quiet : event.Quiet) : SafelyProbed (event :: log) := by
  apply safe.cons
  · intro caller armed same
    rw [same] at quiet
    exact quiet.elim
  · intro caller original final restored same
    rw [same] at quiet
    exact quiet.elim

/-- A move that leaves the lock and the binding alone. -/
theorem Guarded.aside (guarded : Guarded phases before)
    (same : SameBinding before after)
    (holding : next.Holding → (phases caller).Holding)
    (progress : next.UnderWay → caller ∈ underWay after.log)
    (right : next.Right before.attached)
    (under : ∀ other, other ≠ caller → other ∈ underWay before.log → other ∈ underWay after.log)
    (unarmed : underWay after.log ≠ [] → after.isExecutionArmed = false)
    (safe : SafelyProbed after.log) : Guarded (Function.update phases caller next) after := by
  apply guarded.move
  · unfold OneHolder
    rw [same.holders]
    exact guarded.single
  · rw [same.attached, same.available]
    exact guarded.bound
  · intro other _ holds
    rw [same.holders, same.attached]
    exact ⟨guarded.holders other holds, guarded.right other⟩
  · intro holds
    rw [same.holders]
    exact guarded.holders caller (holding holds)
  · exact progress
  · rw [same.attached]
    exact right
  · exact under
  · exact unarmed
  · exact safe

/-- Nothing is armed as long as a probe is under way. -/
theorem Guarded.unarmed_of_underWay (guarded : Guarded phases before)
    (way : (phases caller).UnderWay) : before.isExecutionArmed = false := by
  apply guarded.unarmed
  apply List.ne_nil_of_mem
  exact guarded.under caller way

/-- The holder of the lock moves the binding. -/
theorem Guarded.moveBinding (guarded : Guarded phases before)
    (holding : (phases caller).Holding)
    (bound : after.attached ≠ none → after.available = true)
    (right : next.Right after.attached) (holders : after.lockHolders = before.lockHolders)
    (states : after.states = before.states) (log : after.log = before.log) :
    Guarded (Function.update phases caller next)
      (after.note (.moved caller before.isExecutionArmed)) := by
  have way := underWay_of_holding holding
  have unarmed := guarded.unarmed_of_underWay way
  apply guarded.move
  · unfold OneHolder TerminalWorld.note
    rw [holders]
    exact guarded.single
  · exact bound
  · intro other different holds
    exact absurd (guarded.alone holding holds) different
  · intro _
    unfold TerminalWorld.note
    rw [holders]
    exact guarded.holders caller holding
  · intro _
    unfold TerminalWorld.note underWay
    rw [log]
    exact guarded.under caller way
  · exact right
  · intro other _ member
    unfold TerminalWorld.note underWay
    rw [log]
    exact member
  · intro _
    unfold TerminalWorld.isExecutionArmed TerminalWorld.note at *
    rw [states]
    exact unarmed
  · unfold TerminalWorld.note
    rw [log]
    apply guarded.safe.cons
    · intro other armed same
      cases same
      exact unarmed
    · intro other original final restored same
      cases same

/-! ### Every move keeps it -/

/-- What is kept: as long as the log is fair, the state is guarded. -/
def FairlyGuarded (phases : Nat → CallPhase) (world : TerminalWorld) : Prop :=
  FairLog world.log → Guarded phases world

theorem Guarded.list (guarded : Guarded phases before)
    (accounts : Dict String AccountSummary) :
    Guarded phases { before with accountCache := accounts } := by
  constructor
  · exact guarded.bound
  · exact guarded.single
  · exact guarded.holders
  · exact guarded.under
  · exact guarded.unarmed
  · exact guarded.right
  · exact guarded.safe

theorem Guarded.arm (guarded : Guarded phases before) (id folder : String)
    (apart : underWay before.log = []) :
    Guarded (Function.update phases caller .finished)
      ((before.setArmed id true).note (.armed id folder)) := by
  apply Guarded.aside guarded
  · exact ⟨rfl, rfl, rfl⟩
  · exact False.elim
  · exact False.elim
  · trivial
  · intro other _ member
    exact member
  · intro way
    exact absurd apart way
  · exact guarded.safe.quiet trivial

theorem Guarded.disarm (guarded : Guarded phases before) (id : String) :
    Guarded (Function.update phases caller .finished)
      ((before.setArmed id false).note (.disarmed id)) := by
  apply Guarded.aside guarded
  · exact ⟨rfl, rfl, rfl⟩
  · exact False.elim
  · exact False.elim
  · trivial
  · intro other _ member
    exact member
  · intro way
    exact TerminalWorld.isExecutionArmed_disarm id (guarded.unarmed way)
  · exact guarded.safe.quiet trivial

theorem Guarded.refuse (guarded : Guarded phases before) :
    Guarded (Function.update phases caller .finished) (before.note (.checked caller true)) := by
  apply Guarded.aside guarded
  · exact ⟨rfl, rfl, rfl⟩
  · exact False.elim
  · exact False.elim
  · trivial
  · intro other _ member
    exact member
  · exact guarded.unarmed
  · exact guarded.safe.quiet trivial

theorem Guarded.check (guarded : Guarded phases before)
    (unarmed : before.isExecutionArmed = false) :
    Guarded (Function.update phases caller .cleared) (before.note (.checked caller false)) := by
  apply Guarded.aside guarded
  · exact ⟨rfl, rfl, rfl⟩
  · exact False.elim
  · intro _
    exact List.mem_cons_self
  · trivial
  · intro other _ member
    exact List.mem_cons_of_mem _ member
  · intro _
    exact unarmed
  · exact guarded.safe.quiet trivial

theorem Guarded.acquire (guarded : Guarded phases before) (here : phases caller = .cleared)
    (single : OneHolder { before with lockHolders := caller :: before.lockHolders }) :
    Guarded (Function.update phases caller .holding)
      { before with lockHolders := caller :: before.lockHolders } := by
  apply guarded.move
  · exact single
  · exact guarded.bound
  · intro other _ holds
    exact ⟨List.mem_cons_of_mem _ (guarded.holders other holds), guarded.right other⟩
  · intro _
    exact List.mem_cons_self
  · intro _
    apply guarded.under
    rw [here]
    trivial
  · trivial
  · intro other _ member
    exact member
  · exact guarded.unarmed
  · exact guarded.safe

theorem Guarded.start (guarded : Guarded phases before) (here : phases caller = .holding)
    (accounts : Dict String AccountSummary) :
    Guarded (Function.update phases caller (.inside before.attached true false))
      ({ before with accountCache := accounts }.note (.probing caller true)) := by
  have holding : (phases caller).Holding := by
    rw [here]
    trivial
  apply Guarded.aside guarded
  · exact ⟨rfl, rfl, rfl⟩
  · intro _
    exact holding
  · intro _
    exact guarded.under caller (underWay_of_holding holding)
  · exact ⟨rfl, by simp⟩
  · intro other _ member
    exact member
  · exact guarded.unarmed
  · exact guarded.safe.quiet trivial

theorem Guarded.report (guarded : Guarded phases before) {original : Option String}
    {recoverable restored : Bool}
    (here : phases caller = .settled original recoverable restored)
    (accounts : Dict String AccountSummary) (stamp : Option String) :
    Guarded (Function.update phases caller .reported)
      ({ before with accountCache := accounts, accountCacheTs := stamp }.note
        (.probed caller original before.attached restored)) := by
  have holding : (phases caller).Holding := by
    rw [here]
    trivial
  have right := guarded.right caller
  rw [here] at right
  apply Guarded.aside guarded
  · exact ⟨rfl, rfl, rfl⟩
  · intro _
    exact holding
  · intro _
    exact guarded.under caller (underWay_of_holding holding)
  · trivial
  · intro other _ member
    exact member
  · exact guarded.unarmed
  · apply guarded.safe.cons
    · intro other armed same
      cases same
    · intro other first final answer same
      cases same
      cases restored with
      | false => exact Or.inr rfl
      | true => exact Or.inl (right.2 rfl)

theorem Guarded.release (guarded : Guarded phases before)
    (holding : (phases caller).Holding) :
    Guarded (Function.update phases caller .finished)
      ({ before with lockHolders := before.lockHolders.erase caller }.note
        (.released caller)) := by
  apply guarded.move
  · exact (List.length_erase_le).trans guarded.single
  · exact guarded.bound
  · intro other different holds
    exact absurd (guarded.alone holding holds) different
  · exact False.elim
  · exact False.elim
  · trivial
  · intro other different member
    exact List.mem_filter.mpr ⟨member, by simpa using different⟩
  · intro _
    exact guarded.unarmed_of_underWay (underWay_of_holding holding)
  · exact guarded.safe.quiet trivial

/-- A failed attempt to attach leaves a detached binding detached. -/
theorem bound_useLiveDataMode (detached : before.attached = none) (folder : String)
    (answer : AttachAnswer) :
    (before.useLiveDataMode folder answer).2.attached ≠ none →
      (before.useLiveDataMode folder answer).2.available = true := by
  intro attached
  cases answer with
  | attached => rfl
  | refused => exact absurd detached attached
  | raised => exact absurd detached attached

theorem attached_of_useLiveDataMode {folder : String} {answer : AttachAnswer}
    (ok : (before.useLiveDataMode folder answer).1 = true) :
    answer = .attached ∧
      (before.useLiveDataMode folder answer).2.attached = some folder := by
  cases answer with
  | attached => exact ⟨rfl, rfl⟩
  | refused => cases ok
  | raised => cases ok

/-- The holder of the lock attaches the detached binding. -/
theorem Guarded.attachBinding (guarded : Guarded phases before)
    (holding : (phases caller).Holding) (detached : before.attached = none) (folder : String)
    (answer : AttachAnswer)
    (right : next.Right (before.useLiveDataMode folder answer).2.attached) :
    Guarded (Function.update phases caller next)
      ((before.useLiveDataMode folder answer).2.note
        (.moved caller before.isExecutionArmed)) := by
  apply guarded.moveBinding holding
  · exact bound_useLiveDataMode detached folder answer
  · exact right
  · exact useLiveDataMode_lockHolders before folder answer
  · exact useLiveDataMode_states before folder answer
  · exact useLiveDataMode_log before folder answer

/-- The holder of the lock detaches the binding. -/
theorem Guarded.detachBinding (guarded : Guarded phases before)
    (holding : (phases caller).Holding) (right : next.Right none) :
    Guarded (Function.update phases caller next)
      (before.shutdown.note (.moved caller before.isExecutionArmed)) := by
  have detached := TerminalWorld.shutdown_attached guarded.bound
  apply Guarded.moveBinding guarded holding
  · exact fun attached => absurd detached attached
  · rw [detached]
    exact right
  · rfl
  · rfl
  · rfl

/-- Every move of a call keeps it. -/
theorem FairlyGuarded.step (fairly : FairlyGuarded phases before)
    (move : CallMove caller (phases caller) before next after) (single : OneHolder after) :
    FairlyGuarded (Function.update phases caller next) after := by
  generalize here : phases caller = phase at move
  intro fair
  cases move with
  | stay =>
      rw [← here, Function.update_eq_self]
      exact fairly fair
  | list _ accounts =>
      rw [← here, Function.update_eq_self]
      exact (fairly fair).list accounts
  | arm _ id folder => exact (fairly (fairLog_of_cons fair)).arm id folder fair.apart.1
  | disarm _ id => exact (fairly (fairLog_of_cons fair)).disarm id
  | refuse => exact (fairly (fairLog_of_cons fair)).refuse
  | check _ unarmed => exact (fairly (fairLog_of_cons fair)).check unarmed
  | acquire => exact (fairly fair).acquire here single
  | start _ accounts recoverable =>
      have able := fair.recoverable caller recoverable List.mem_cons_self
      rw [able] at fair ⊢
      exact (fairly (fairLog_of_cons fair)).start here accounts
  | shut _ original recoverable =>
      have guarded := fairly (fairLog_of_cons fair)
      have right := guarded.right caller
      rw [here] at right
      apply guarded.detachBinding
      · rw [here]
        trivial
      · exact ⟨right.1, fun _ => rfl⟩
  | attach _ original recoverable folder answer =>
      have earlier := fairLog_of_cons fair
      rw [useLiveDataMode_log] at earlier
      have right := (fairly earlier).right caller
      rw [here] at right
      apply (fairly earlier).attachBinding
      · rw [here]
        trivial
      · exact right.2 rfl
      · exact ⟨right.1, by simp⟩
  | leave _ original recoverable restored detached =>
      have guarded := fairly (fairLog_of_cons fair)
      have right := guarded.right caller
      rw [here] at right
      apply guarded.detachBinding
      · rw [here]
        trivial
      · refine ⟨right.1, fun ended => ?_⟩
        rw [detached right.1 ended]
        rfl
  | back _ original recoverable folder answer same =>
      have earlier := fairLog_of_cons fair
      rw [useLiveDataMode_log] at earlier
      have right := (fairly earlier).right caller
      rw [here] at right
      apply (fairly earlier).attachBinding
      · rw [here]
        trivial
      · exact right.2 rfl
      · refine ⟨right.1, fun ended => ?_⟩
        obtain ⟨answered, attached⟩ := attached_of_useLiveDataMode ended
        rw [attached]
        exact same right.1 answered
  | report _ original recoverable restored accounts stamp =>
      exact (fairly (fairLog_of_cons fair)).report here accounts stamp
  | release _ holding =>
      rw [← here] at holding
      exact (fairly (fairLog_of_cons fair)).release holding

end Invariant

/-- At the start nothing is under way. -/
theorem Unused.guarded {world : TerminalWorld} (unused : Unused world) :
    Guarded (fun _ => .ready) world := by
  constructor
  · exact unused.bound
  · unfold OneHolder
    rw [unused.holders]
    exact Nat.zero_le 1
  · intro caller holds
    exact holds.elim
  · intro caller way
    exact way.elim
  · rw [unused.log]
    intro way
    exact absurd rfl way
  · intro caller
    trivial
  · rw [unused.log]
    constructor
    · intro caller armed member
      cases member
    · intro caller original final restored member
      cases member

/-- As long as terminals are armed apart from probes, and probes begin where they can recover
the binding, no probe moves the binding while a terminal is armed, and every probe that has
ended has taken it back or says that it has not. -/
theorem probes_safe (config : List TerminalConfig) (calls : Nat → ManagerCall)
    (schedule : List Nat) (world : TerminalWorld) (unused : Unused world)
    (fair : FairLog (afterCalls config calls schedule world).log) :
    SafelyProbed (afterCalls config calls schedule world).log := by
  have start : FairlyGuarded (fun _ => .ready) world := fun _ => unused.guarded
  have kept : ∃ phases, FairlyGuarded phases (afterCalls config calls schedule world) := by
    apply interleaveWithin_keeps schedule (fun caller => program_moves (calls caller))
      FairlyGuarded ?_ start
    intro phases caller before next after move single fairly
    exact fairly.step move single
  obtain ⟨phases, fairly⟩ := kept
  exact (fairly fair).safe

/-! ## Arming in the middle of a probe -/

namespace Sample

/-- The host answers, and every terminal can be attached. -/
def probe (seen : Bool) : ProbeAnswers where
  view := ⟨seen, none⟩
  attach := fun _ => .attached
  summary := fun _ => none
  restore := .attached
  isoNow := "2026-01-01T00:00:00+00:00"
  after := ⟨true, none⟩

/-- The account of the first terminal. -/
def account : AccountSummary where
  login := .int 5001
  server := .str "Broker-Demo"
  mode := some "DEMO"
  tradeMode := some "FULL"
  balance := .none
  equity := .none
  currency := .str "USD"

/-- Two terminals run.  The binding is on the first one, whose account is known; the operator
has selected the second one. -/
def running : TerminalWorld :=
  { TerminalWorld.initial with
    processes := [⟨1, "C:\\A\\terminal64.exe"⟩, ⟨2, "C:\\B\\terminal64.exe"⟩],
    states := Dict.empty.set "auto-2" ⟨false, true⟩,
    accountCache := Dict.empty.set (NtPath.norm "C:\\A") account,
    attached := some "C:\\A", liveMode := true, available := true }

/-- One caller probes and every other one arms the first terminal. -/
def calls (seen : Bool) : Nat → ManagerCall
  | 0 => .probe (probe seen)
  | _ => .arm ⟨true, none⟩ "auto-1" true

theorem unused_running : Unused running :=
  ⟨rfl, rfl, fun _ => rfl⟩

end Sample

/-- A probe that is alone visits both terminals and takes the binding back. -/
theorem probe_safe_when_alone :
    SafelyProbed (afterCalls [] (Sample.calls true) (List.replicate 9 0) Sample.running).log := by
  apply probes_safe
  · exact Sample.unused_running
  · have log : (afterCalls [] (Sample.calls true) (List.replicate 9 0) Sample.running).log =
        [.released 0, .probed 0 (some "C:\\A") (some "C:\\A") true, .moved 0 false,
          .moved 0 false, .moved 0 false, .moved 0 false, .probing 0 true, .checked 0 false] := by
      decide +kernel
    rw [log]
    constructor
    · trivial
    · intro caller recoverable member
      have same : caller = 0 ∧ recoverable = true := by simpa using member
      exact same.2

/-- A terminal that is armed after the check of the probe is armed while the probe moves the
binding. -/
theorem armed_after_check_breaks_probe :
    ¬ SafelyProbed
      (afterCalls [] (Sample.calls true) [0, 1, 1, 0, 0, 0, 0] Sample.running).log := by
  intro safe
  have moved : .moved 0 true ∈
      (afterCalls [] (Sample.calls true) [0, 1, 1, 0, 0, 0, 0] Sample.running).log := by
    decide +kernel
  exact absurd (safe.unarmed 0 true moved) (by decide)

/-- A probe that does not see the terminal that the binding is on leaves the binding on the
selected one, and says that it has taken it back. -/
theorem unseen_binding_breaks_probe :
    ¬ SafelyProbed
      (afterCalls [] (Sample.calls false) (List.replicate 11 0) Sample.running).log := by
  intro safe
  have ended : .probed 0 (some "C:\\A") (some "C:\\B") true ∈
      (afterCalls [] (Sample.calls false) (List.replicate 11 0) Sample.running).log := by
    decide +kernel
  rcases safe.returned 0 _ _ true ended with back | honest
  · exact absurd back (by decide +kernel)
  · cases honest

end EaBot.Mt5
