import Mathlib.Data.List.Sort
import EaBot.Foundation.Run
import EaBot.Mt5.Terminals

/-!
# What the operator has armed

The operator arms a terminal that the registry shows under an id.  The id of a terminal that
is not configured is made from its process id.  The manager remembers the id only: it stays
armed when the terminal stops, and a terminal in another folder that starts under the same
process id takes over the armed id.
-/

namespace EaBot.Mt5

open EaBot.Foundation Program

/-! ## What ids stand for -/

/-- The folders that an id stands for: the folder of a configured terminal with the id, or of
a running terminal that has the id as it is not configured. -/
inductive StandsFor (config : List TerminalConfig) (processes : List TerminalProcess)
    (id : String) : String → Prop
  | config (terminal : TerminalConfig) (member : terminal ∈ config) (named : terminal.id = id) :
      StandsFor config processes id terminal.folder
  | auto (process : TerminalProcess) (member : process ∈ processes)
      (unconfigured : isConfigured config process = false) (named : process.autoId = id) :
      StandsFor config processes id process.folder

/-- Two paths of the same folder. -/
def SameFolder (first second : String) : Prop :=
  NtPath.norm first = NtPath.norm second

instance : DecidableRel SameFolder := fun _ _ => inferInstanceAs (Decidable (_ = _))

/-- An id denotes a running terminal. -/
def Denotes (config : List TerminalConfig) (world : TerminalWorld) (id : String)
    (process : TerminalProcess) : Prop :=
  process ∈ world.processes ∧
    ∃ folder, StandsFor config world.processes id folder ∧ SameFolder process.folder folder

/-- All folders that an id stands for are the same. -/
def Unambiguous (config : List TerminalConfig) (world : TerminalWorld) (id : String) : Prop :=
  ∀ first second, StandsFor config world.processes id first →
    StandsFor config world.processes id second → SameFolder first second

/-! ## The consent of the operator -/

/-- The folder of the terminal that the operator last armed under an id, unless it has been
disarmed since. -/
def consent (id : String) : List ManagerEvent → Option String
  | [] => none
  | .armed other folder :: earlier => if other = id then some folder else consent id earlier
  | .disarmed other :: earlier => if other = id then none else consent id earlier
  | .disarmedAll :: _ => none
  | _ :: earlier => consent id earlier

/-- The operator has consented to orders for an id at a folder. -/
def Agreed (world : TerminalWorld) (id folder : String) : Prop :=
  ∃ agreed, consent id world.log = some agreed ∧ SameFolder folder agreed

/-- An id denotes running terminals, and only such as the operator has consented to. -/
structure AgreedId (config : List TerminalConfig) (world : TerminalWorld) (id : String) :
    Prop where
  running : ∃ process, Denotes config world id process
  agreed : ∀ process, Denotes config world id process → Agreed world id process.folder

/-- Orders go only where the operator has consented to: every armed id that is given out and
every target of a fan-out denotes a running terminal that the operator has consented to, and
execution is permitted only while the binding is on such a terminal. -/
structure OperatorConsent (config : List TerminalConfig) (world : TerminalWorld) : Prop where
  armed : ∀ reads, ∀ id ∈ ((getArmedTerminals config reads).run world).1,
    AgreedId config world id
  targets : ∀ reads, ∀ entry ∈ ((getFanoutTargets config reads).run world).1,
    AgreedId config world entry.id ∧
      ∃ process, Denotes config world entry.id process ∧ SameFolder process.folder entry.folder
  permitted : ∀ reads again, ((executionPermitted config reads again).run world).1 = true →
    ∃ attached id process, world.attached = some attached ∧ AgreedId config world id ∧
      Denotes config world id process ∧ SameFolder process.folder attached

/-! ## Operations -/

/-- What happens: a terminal starts or stops, or the operator asks for something. -/
inductive ConsentOp
  | start (process : TerminalProcess)
  | stop (pid : Int)
  | list (reads : HostReads)
  | select (answers : SelectAnswers) (id : String)
  | probe (answers : ProbeAnswers)
  | arm (reads : HostReads) (id : String) (armed : Bool)
  | armExecution (reads : HostReads) (armed : Bool)

/-- A terminal starts under a process id that is not in use.  Processes are listed by their
ids. -/
def startTerminal (process : TerminalProcess) (world : TerminalWorld) : TerminalWorld :=
  if process.pid ∈ world.processes.map TerminalProcess.pid then world
  else
    { world with
      processes := world.processes.orderedInsert (fun first second => first.pid ≤ second.pid)
        process }

/-- The terminal with a process id stops. -/
def stopTerminal (pid : Int) (world : TerminalWorld) : TerminalWorld :=
  { world with processes := world.processes.filter fun process => process.pid ≠ pid }

/-- The state after an operation. -/
def ConsentOp.apply (config : List TerminalConfig) (world : TerminalWorld) :
    ConsentOp → TerminalWorld
  | start process => startTerminal process world
  | stop pid => stopTerminal pid world
  | list reads => ((listTerminals config reads).run world).2
  | select answers id => ((selectTerminal 0 config answers id).run world).2
  | probe answers => ((probeAccounts 0 config answers).run world).2
  | arm reads id armed => ((armTerminal config reads id armed).run world).2
  | armExecution reads armed => ((Mt5.armExecution config reads armed).run world).2

/-- An operation that does not mix up terminals: a terminal that is not configured does not
start under an id that the operator has armed for another folder, and an id that is armed
stands for one folder. -/
def ConsentOp.Clear (config : List TerminalConfig) (world : TerminalWorld) : ConsentOp → Prop
  | start process =>
      isConfigured config process = true ∨
        ∀ agreed, consent process.autoId world.log = some agreed →
          SameFolder process.folder agreed
  | arm _ id true => Unambiguous config world id
  | armExecution _ true => ∀ id, world.selectedId = some id → Unambiguous config world id
  | _ => True

/-! ## What the registry shows -/

section Registry

variable {config : List TerminalConfig} {reads : HostReads} {world : TerminalWorld}

/-- What an entry of the registry says about its id. -/
structure ShowsTerminal (config : List TerminalConfig) (reads : HostReads)
    (world : TerminalWorld) (entry : RegistryEntry) : Prop where
  stands : StandsFor config world.processes entry.id entry.folder
  running : entry.running = true →
    ∃ process ∈ world.processes, SameFolder process.folder entry.folder
  armed : entry.armed = world.armed entry.id
  attached : entry.attached = isAttached reads world entry.folder

theorem showsTerminal_config (terminal : TerminalConfig) (member : terminal ∈ config) :
    ShowsTerminal config reads world (configEntry reads world terminal) := by
  constructor
  · exact StandsFor.config terminal member rfl
  · intro running
    obtain ⟨process, found⟩ := Option.isSome_iff_exists.mp running
    have same : NtPath.norm process.folder = NtPath.norm terminal.folder := by
      simpa using List.find?_some found
    exact ⟨process, List.mem_reverse.mp (List.mem_of_find?_eq_some found), same⟩
  · rfl
  · rfl

theorem showsTerminal_auto (process : TerminalProcess) (member : process ∈ world.processes)
    (unconfigured : isConfigured config process = false) :
    ShowsTerminal config reads world (autoEntry reads world process) := by
  constructor
  · exact StandsFor.auto process member unconfigured rfl
  · intro _
    exact ⟨process, member, rfl⟩
  · rfl
  · rfl

theorem showsTerminal_of_mem {entry : RegistryEntry}
    (member : entry ∈ registryEntries config reads world) :
    ShowsTerminal config reads world entry := by
  rcases List.mem_append.mp member with configured | auto
  · obtain ⟨terminal, listed, rfl⟩ := List.mem_map.mp configured
    exact showsTerminal_config terminal listed
  · obtain ⟨process, listed, rfl⟩ := List.mem_map.mp auto
    obtain ⟨running, unconfigured⟩ := List.mem_filter.mp listed
    exact showsTerminal_auto process running (by simpa using unconfigured)

/-- So does an entry that is shown after the accounts have been refreshed. -/
theorem showsTerminal_of_read {entry : RegistryEntry}
    (member : entry ∈ (registryRead config reads world).terminals) :
    ShowsTerminal config reads world entry := by
  obtain ⟨accounts, same⟩ := refreshAttachedAccount_eq reads world
  unfold registryRead at member
  rw [same] at member
  have shows := showsTerminal_of_mem member
  exact ⟨shows.stands, shows.running, shows.armed, shows.attached⟩

/-- An entry of a running terminal denotes it. -/
theorem ShowsTerminal.denotes {entry : RegistryEntry}
    (shows : ShowsTerminal config reads world entry) (running : entry.running = true) :
    ∃ process, Denotes config world entry.id process ∧
      SameFolder process.folder entry.folder := by
  obtain ⟨process, member, same⟩ := shows.running running
  exact ⟨process, ⟨member, entry.folder, shows.stands, same⟩, same⟩

end Registry

/-! ## The armed ids and the consent of the operator -/

/-- Every armed id stands only for the folder that the operator has consented to. -/
structure ConsentKept (config : List TerminalConfig) (world : TerminalWorld) : Prop where
  armed : ∀ id, world.armed id = true → ∃ agreed, consent id world.log = some agreed
  placed : ∀ id agreed folder, consent id world.log = some agreed →
    StandsFor config world.processes id folder → SameFolder folder agreed

section Given

variable {config : List TerminalConfig} {reads again : HostReads} {world : TerminalWorld}

/-- An armed entry of a running terminal has an id that the operator has consented to. -/
theorem ConsentKept.agreedId (kept : ConsentKept config world) {entry : RegistryEntry}
    (shows : ShowsTerminal config reads world entry) (running : entry.running = true)
    (armed : world.armed entry.id = true) : AgreedId config world entry.id := by
  constructor
  · obtain ⟨process, denotes, same⟩ := shows.denotes running
    exact ⟨process, denotes⟩
  · intro process denotes
    obtain ⟨agreed, consented⟩ := kept.armed entry.id armed
    obtain ⟨member, folder, stands, same⟩ := denotes
    exact ⟨agreed, consented, same.trans (kept.placed _ _ _ consented stands)⟩

theorem refreshAttachedAccount_states (reads : HostReads) (world : TerminalWorld) :
    (refreshAttachedAccount reads world).states = world.states := by
  obtain ⟨accounts, same⟩ := refreshAttachedAccount_eq reads world
  rw [same]

/-- An id that is given out as armed is armed, and an entry of a running terminal has it. -/
theorem of_mem_getArmedTerminals {id : String}
    (given : id ∈ ((getArmedTerminals config reads).run world).1) :
    world.armed id = true ∧ ∃ entry, ShowsTerminal config reads world entry ∧
      entry.id = id ∧ entry.running = true := by
  unfold getArmedTerminals listTerminals at given
  rw [run_perform_bind, run_read] at given
  obtain ⟨state, kept, rfl⟩ := List.mem_map.mp given
  rw [refreshAttachedAccount_states] at kept
  obtain ⟨listed, eligible⟩ := List.mem_filter.mp kept
  simp only [Bool.and_eq_true, Option.any_eq_true] at eligible
  obtain ⟨armed, entry, found, running, verified⟩ := eligible
  constructor
  · unfold TerminalWorld.armed
    rw [(world.states.mem_entries_iff state.1 state.2).mp listed]
    exact armed
  · have member := List.mem_reverse.mp (List.mem_of_find?_eq_some found)
    exact ⟨entry, showsTerminal_of_read member, by simpa using List.find?_some found, running⟩

theorem ConsentKept.agreedId_of_mem (kept : ConsentKept config world) {id : String}
    (given : id ∈ ((getArmedTerminals config reads).run world).1) :
    AgreedId config world id := by
  obtain ⟨armed, entry, shows, rfl, running⟩ := of_mem_getArmedTerminals given
  exact kept.agreedId shows running armed

/-- A target of a fan-out is an armed entry of a running terminal. -/
theorem of_mem_getFanoutTargets {entry : RegistryEntry}
    (given : entry ∈ ((getFanoutTargets config reads).run world).1) :
    ShowsTerminal config reads world entry ∧ entry.running = true ∧
      world.armed entry.id = true := by
  unfold getFanoutTargets listTerminals at given
  rw [run_perform_bind] at given
  obtain ⟨member, eligible⟩ := List.mem_filter.mp given
  simp only [Bool.and_eq_true] at eligible
  obtain ⟨⟨⟨running, armed⟩, verified⟩, target⟩ := eligible
  have shows := showsTerminal_of_read member
  rw [shows.armed] at armed
  exact ⟨shows, running, armed⟩

/-- An attached entry has the folder that the binding is on. -/
theorem ShowsTerminal.attached_folder {entry : RegistryEntry}
    (shows : ShowsTerminal config reads world entry) (attached : entry.attached = true) :
    ∃ folder, world.attached = some folder ∧ SameFolder folder entry.folder := by
  rw [shows.attached] at attached
  unfold isAttached at attached
  obtain ⟨folder, detected, same⟩ := (Option.any_eq_true _ _).mp attached
  have near : NtPath.norm folder = NtPath.norm entry.folder := by simpa using same
  refine ⟨folder, ?_, near⟩
  unfold detectAttachedPath at detected
  split at detected
  · exact (Option.filter_eq_some_iff.mp detected).1
  · cases detected

/-- Execution is permitted only for an id that is given out as armed and an entry with that id
whose folder is the attached one. -/
theorem of_executionPermitted
    (permitted : ((executionPermitted config reads again).run world).1 = true) :
    ∃ id ∈ ((getArmedTerminals config reads).run world).1, ∃ folder attached,
      StandsFor config world.processes id folder ∧ world.attached = some attached ∧
        SameFolder attached folder := by
  unfold executionPermitted at permitted
  rw [run_bind] at permitted
  split at permitted
  · cases permitted
  · unfold listTerminals at permitted
    rw [run_perform_bind] at permitted
    obtain ⟨id, given, shown⟩ := List.any_eq_true.mp permitted
    obtain ⟨entry, found, attached⟩ := (Option.any_eq_true _ _).mp shown
    have later : ((getArmedTerminals config reads).run world).2 =
        refreshAttachedAccount reads world := rfl
    obtain ⟨accounts, same⟩ := refreshAttachedAccount_eq reads world
    rw [later, same] at found
    have shows := showsTerminal_of_read (List.mem_of_find?_eq_some found)
    have named : entry.id = id := by simpa using List.find?_some found
    obtain ⟨folder, bound, near⟩ := shows.attached_folder attached
    subst named
    exact ⟨entry.id, given, entry.folder, folder, shows.stands, bound, near⟩

/-- As long as armed ids stand for the folders that the operator has consented to, orders go
only there. -/
theorem ConsentKept.operatorConsent (kept : ConsentKept config world) :
    OperatorConsent config world := by
  constructor
  · intro reads id given
    exact kept.agreedId_of_mem given
  · intro reads entry given
    obtain ⟨shows, running, armed⟩ := of_mem_getFanoutTargets given
    exact ⟨kept.agreedId shows running armed, shows.denotes running⟩
  · intro reads again permitted
    obtain ⟨id, given, folder, attached, stands, bound, near⟩ := of_executionPermitted permitted
    have agreedId := kept.agreedId_of_mem given
    obtain ⟨process, denotes⟩ := agreedId.running
    obtain ⟨agreed, consented, same⟩ := agreedId.agreed process denotes
    have placed := kept.placed id agreed folder consented stands
    exact ⟨attached, id, process, bound, agreedId, denotes,
      same.trans (placed.symm.trans near.symm)⟩

end Given

/-! ## Operations that arm and disarm nothing -/

/-- Nothing changes that bears on what the operator has armed. -/
structure SameArming (before after : TerminalWorld) : Prop where
  processes : after.processes = before.processes
  armed : ∀ id, after.armed id = before.armed id
  consent : ∀ id, consent id after.log = consent id before.log

section Same

variable {config : List TerminalConfig} {origin before world after : TerminalWorld}

theorem SameArming.refl (world : TerminalWorld) : SameArming world world :=
  ⟨rfl, fun _ => rfl, fun _ => rfl⟩

theorem SameArming.trans (first : SameArming before world) (second : SameArming world after) :
    SameArming before after := by
  constructor
  · exact second.processes.trans first.processes
  · intro id
    exact (second.armed id).trans (first.armed id)
  · intro id
    exact (second.consent id).trans (first.consent id)

theorem ConsentKept.same (kept : ConsentKept config before) (same : SameArming before after) :
    ConsentKept config after := by
  constructor
  · intro id armed
    rw [same.armed] at armed
    rw [same.consent]
    exact kept.armed id armed
  · intro id agreed folder consented stands
    rw [same.consent] at consented
    rw [same.processes] at stands
    exact kept.placed id agreed folder consented stands

/-- A program whose actions change nothing that bears on what is armed. -/
abbrev LeavesArming {α : Type} (origin : TerminalWorld) (program : Program TerminalWorld α) :
    Prop :=
  Keeps (SameArming origin) program

theorem leavesArming_perform {ρ : Type} {action : TerminalWorld → ρ × TerminalWorld}
    (same : ∀ world, SameArming world (action world).2) :
    LeavesArming origin (perform action) :=
  keeps_perform fun world held => held.trans (same world)

theorem LeavesArming.run {α : Type} {program : Program TerminalWorld α}
    (leaves : LeavesArming world program) : SameArming world (program.run world).2 :=
  Keeps.run leaves (SameArming.refl world)

theorem sameArming_refresh (reads : HostReads) (world : TerminalWorld) :
    SameArming world (refreshAttachedAccount reads world) := by
  obtain ⟨accounts, same⟩ := refreshAttachedAccount_eq reads world
  rw [same]
  exact ⟨rfl, fun _ => rfl, fun _ => rfl⟩

theorem sameArming_setSelected (world : TerminalWorld) (id : String) :
    SameArming world (world.setSelected id) := by
  constructor
  · rfl
  · intro other
    unfold TerminalWorld.setSelected TerminalWorld.armed TerminalWorld.stateFor
    simp only [Dict.get_set, Dict.get_mapValues]
    split
    · rename_i same
      subst same
      cases world.states.get other with
      | _ => rfl
    · cases world.states.get other with
      | _ => rfl
  · intro other
    rfl

theorem sameArming_shutdown (world : TerminalWorld) : SameArming world world.shutdown :=
  ⟨rfl, fun _ => rfl, fun _ => rfl⟩

theorem sameArming_useLiveDataMode (world : TerminalWorld) (folder : String)
    (answer : AttachAnswer) : SameArming world (world.useLiveDataMode folder answer).2 := by
  cases answer with
  | _ => exact ⟨rfl, fun _ => rfl, fun _ => rfl⟩

theorem listTerminals_leavesArming (reads : HostReads) :
    LeavesArming origin (listTerminals config reads) :=
  leavesArming_perform (sameArming_refresh reads)

theorem acquireBinding_leavesArming (caller : Nat) :
    LeavesArming origin (acquireBinding caller) :=
  leavesArming_perform fun _ => ⟨rfl, fun _ => rfl, fun _ => rfl⟩

theorem releaseBinding_leavesArming (caller : Nat) :
    LeavesArming origin (releaseBinding caller) :=
  leavesArming_perform fun _ => ⟨rfl, fun _ => rfl, fun _ => rfl⟩

/-! ### Selecting -/

theorem attachSelected_leavesArming (answers : SelectAnswers) (entry : RegistryEntry) :
    LeavesArming origin (attachSelected answers entry) := by
  unfold attachSelected
  apply (leavesArming_perform sameArming_shutdown).bind
  intro _
  apply (leavesArming_perform fun world =>
    sameArming_useLiveDataMode world entry.folder answers.attach).bind
  intro ok
  cases ok with
  | false => exact keeps_read _
  | true =>
      apply (leavesArming_perform fun world => sameArming_setSelected world entry.id).bind
      intro _
      apply (leavesArming_perform fun _ => ⟨rfl, fun _ => rfl, fun _ => rfl⟩).bind
      intro _
      apply (keeps_read _).bind
      intro attached
      exact keeps_read _

theorem selectTerminal_leavesArming (caller : Nat) (answers : SelectAnswers) (id : String) :
    LeavesArming origin (selectTerminal caller config answers id) := by
  unfold selectTerminal selectTerminalLocked
  apply (acquireBinding_leavesArming caller).bind
  intro _
  apply Keeps.bind
  · apply (listTerminals_leavesArming answers.view).bind
    intro view
    split
    · exact keeps_read _
    · split
      · exact keeps_read _
      · split
        · exact keeps_read _
        · exact attachSelected_leavesArming answers _
  · intro result
    apply (releaseBinding_leavesArming caller).bind
    intro _
    trivial

/-! ### Probing -/

theorem probeShutdown_leavesArming (caller : Nat) :
    LeavesArming origin (probeShutdown caller) :=
  leavesArming_perform fun _ => ⟨rfl, fun _ => rfl, fun _ => rfl⟩

theorem probeAttach_leavesArming (caller : Nat) (folder : String) (answer : AttachAnswer) :
    LeavesArming origin (probeAttach caller folder answer) := by
  apply leavesArming_perform
  intro world
  exact (sameArming_useLiveDataMode world folder answer).trans
    ⟨rfl, fun _ => rfl, fun _ => rfl⟩

theorem probeTerminals_leavesArming (caller : Nat) (answers : ProbeAnswers)
    (entries : List RegistryEntry) (number : Nat) (current : Option String) :
    LeavesArming origin (probeTerminals caller answers number current entries) := by
  induction entries generalizing number current with
  | nil => trivial
  | cons entry rest inductionHypothesis =>
      unfold probeTerminals moveTo
      apply Keeps.bind
      · split
        · trivial
        · apply (probeShutdown_leavesArming caller).bind
          intro _
          exact probeAttach_leavesArming caller entry.folder _
      · intro attached
        apply (inductionHypothesis (number + 1) _).bind
        intro rows
        trivial

theorem restoreProbe_leavesArming (caller : Nat) (view : RegistryView) (answer : AttachAnswer) :
    LeavesArming origin (restoreProbe caller view answer) := by
  unfold restoreProbe
  apply (probeShutdown_leavesArming caller).bind
  intro _
  split
  · exact probeAttach_leavesArming caller _ answer
  · trivial

theorem probeLocked_leavesArming (caller : Nat) (answers : ProbeAnswers) :
    LeavesArming origin (probeLocked caller config answers) := by
  unfold probeLocked beginProbe
  apply Keeps.bind
  · apply leavesArming_perform
    intro world
    exact (sameArming_refresh answers.view world).trans ⟨rfl, fun _ => rfl, fun _ => rfl⟩
  · intro view
    dsimp only
    split
    · exact keeps_read _
    · unfold probeRunning
      apply (probeTerminals_leavesArming caller answers _ 0 _).bind
      intro rows
      apply (restoreProbe_leavesArming caller _ answers.restore).bind
      intro restored
      exact leavesArming_perform fun _ => ⟨rfl, fun _ => rfl, fun _ => rfl⟩

theorem probeAccounts_leavesArming (caller : Nat) (answers : ProbeAnswers) :
    LeavesArming origin (probeAccounts caller config answers) := by
  unfold probeAccounts
  apply (leavesArming_perform fun _ => ⟨rfl, fun _ => rfl, fun _ => rfl⟩).bind
  intro armed
  cases armed with
  | true => trivial
  | false =>
      apply (acquireBinding_leavesArming caller).bind
      intro _
      apply (probeLocked_leavesArming caller answers).bind
      intro result
      apply (releaseBinding_leavesArming caller).bind
      intro _
      trivial

end Same

/-! ## Every operation keeps the consent -/

section Steps

variable {config : List TerminalConfig} {world : TerminalWorld}

/-- What an id stands for when more terminals run. -/
theorem StandsFor.mono {fewer more : List TerminalProcess} {id folder : String}
    (run : ∀ process ∈ fewer, process ∈ more) (stands : StandsFor config fewer id folder) :
    StandsFor config more id folder := by
  cases stands with
  | config terminal member named => exact StandsFor.config terminal member named
  | auto process member unconfigured named =>
      exact StandsFor.auto process (run process member) unconfigured named

theorem ConsentKept.start (kept : ConsentKept config world) (process : TerminalProcess)
    (clear : (ConsentOp.start process).Clear config world) :
    ConsentKept config (startTerminal process world) := by
  unfold startTerminal
  split
  · exact kept
  · constructor
    · exact kept.armed
    · intro id agreed folder consented stands
      cases stands with
      | config terminal member named =>
          exact kept.placed _ _ _ consented (StandsFor.config terminal member named)
      | auto other member unconfigured named =>
          rcases (List.mem_orderedInsert _).mp member with same | earlier
          · subst same
            subst named
            rcases clear with configured | agrees
            · rw [unconfigured] at configured
              cases configured
            · exact agrees agreed consented
          · exact kept.placed _ _ _ consented
              (StandsFor.auto other earlier unconfigured named)

theorem ConsentKept.stop (kept : ConsentKept config world) (pid : Int) :
    ConsentKept config (stopTerminal pid world) := by
  constructor
  · exact kept.armed
  · intro id agreed folder consented stands
    apply kept.placed id agreed folder consented
    apply stands.mono
    intro process member
    exact (List.mem_filter.mp member).1

theorem ConsentKept.arm (kept : ConsentKept config world) {id folder : String}
    (clear : Unambiguous config world id) (stands : StandsFor config world.processes id folder) :
    ConsentKept config ((world.setArmed id true).note (.armed id folder)) := by
  constructor
  · intro other armed
    unfold TerminalWorld.note consent
    split
    · exact ⟨folder, rfl⟩
    · rename_i different
      have before : (world.setArmed id true).armed other = true := armed
      rw [TerminalWorld.armed_setArmed, if_neg (Ne.symm different)] at before
      exact kept.armed other before
  · intro other agreed place consented standsAt
    unfold TerminalWorld.note consent at consented
    split at consented
    · rename_i same
      subst same
      cases consented
      exact clear place folder standsAt stands
    · exact kept.placed other agreed place consented standsAt

theorem ConsentKept.disarm (kept : ConsentKept config world) (id : String) :
    ConsentKept config ((world.setArmed id false).note (.disarmed id)) := by
  constructor
  · intro other armed
    have before : (world.setArmed id false).armed other = true := armed
    rw [TerminalWorld.armed_setArmed] at before
    unfold TerminalWorld.note consent
    split at before
    · cases before
    · rename_i different
      rw [if_neg (Ne.symm different)]
      exact kept.armed other before
  · intro other agreed place consented standsAt
    unfold TerminalWorld.note consent at consented
    split at consented
    · cases consented
    · exact kept.placed other agreed place consented standsAt

theorem armed_disarmAll (world : TerminalWorld) (id : String) :
    world.disarmAll.armed id = false := by
  unfold TerminalWorld.disarmAll TerminalWorld.armed
  rw [Dict.get_mapValues]
  cases world.states.get id with
  | _ => rfl

theorem ConsentKept.disarmAll (world : TerminalWorld) :
    ConsentKept config (world.disarmAll.note .disarmedAll) := by
  constructor
  · intro id armed
    have before : world.disarmAll.armed id = true := armed
    rw [armed_disarmAll] at before
    cases before
  · intro id agreed folder consented stands
    cases consented

theorem ConsentKept.armTerminal (kept : ConsentKept config world) (reads : HostReads)
    (id : String) (armed : Bool) (clear : armed = true → Unambiguous config world id) :
    ConsentKept config ((Mt5.armTerminal config reads id armed).run world).2 := by
  unfold Mt5.armTerminal
  cases armed with
  | false => exact kept.disarm id
  | true =>
      have refreshed := kept.same (sameArming_refresh reads world)
      have processes := (sameArming_refresh reads world).processes
      unfold listTerminals
      simp only [Bool.not_true, Bool.false_eq_true, if_false, run_perform_bind]
      split
      · exact refreshed
      · rename_i entry found
        split
        · exact refreshed
        · split
          · exact refreshed
          · have named : entry.id = id := by simpa using List.find?_some found
            have shows := showsTerminal_of_read (List.mem_of_find?_eq_some found)
            have stands := shows.stands
            rw [named] at stands
            apply refreshed.arm
            · unfold Unambiguous
              rw [processes]
              exact clear rfl
            · rw [processes]
              exact stands

theorem ConsentKept.armExecution (kept : ConsentKept config world) (reads : HostReads)
    (armed : Bool) (clear : (ConsentOp.armExecution reads armed).Clear config world) :
    ConsentKept config ((Mt5.armExecution config reads armed).run world).2 := by
  unfold Mt5.armExecution
  rw [run_bind, run_read]
  dsimp only
  split
  · cases armed with
    | false => exact ConsentKept.disarmAll world
    | true => exact kept
  · rename_i id selected
    apply kept.armTerminal
    intro asked
    subst asked
    exact clear id (Option.filter_eq_some_iff.mp selected).1

/-- Every operation that does not mix up terminals keeps the consent. -/
theorem ConsentKept.apply (kept : ConsentKept config world) (op : ConsentOp)
    (clear : op.Clear config world) : ConsentKept config (op.apply config world) := by
  cases op with
  | start process => exact kept.start process clear
  | stop pid => exact kept.stop pid
  | list reads => exact kept.same (listTerminals_leavesArming reads).run
  | select answers id => exact kept.same (selectTerminal_leavesArming 0 answers id).run
  | probe answers => exact kept.same (probeAccounts_leavesArming 0 answers).run
  | arm reads id armed =>
      apply kept.armTerminal
      intro asked
      subst asked
      exact clear
  | armExecution reads armed => exact kept.armExecution reads armed clear

theorem consentKept_initial : ConsentKept config TerminalWorld.initial := by
  constructor
  · intro id armed
    cases armed
  · intro id agreed folder consented stands
    cases consented

end Steps

/-- In every run in which no terminal takes over an id that is armed for another folder, and
ids that are armed stand for one folder, orders go only where the operator has consented
to. -/
theorem orders_only_where_consented (config : List TerminalConfig) (ops : List ConsentOp)
    (clear : Run.Every (ConsentOp.apply config) (ConsentOp.Clear config)
      TerminalWorld.initial ops) :
    OperatorConsent config
      (Run.after (ConsentOp.apply config) TerminalWorld.initial ops) := by
  have kept := clear.after (ConsentKept config) consentKept_initial
    fun world op kept clear => kept.apply op clear
  exact kept.operatorConsent

namespace Sample

/-- A terminal in the first folder. -/
def inFirst (pid : Int) : TerminalProcess :=
  ⟨pid, "C:\\A\\terminal64.exe"⟩

/-- A terminal in the second folder. -/
def inSecond (pid : Int) : TerminalProcess :=
  ⟨pid, "C:\\B\\terminal64.exe"⟩

/-- A probe that reads an account at every terminal. -/
def readAccounts : ProbeAnswers where
  view := ⟨false, none⟩
  attach := fun _ => .attached
  summary := fun _ => some ⟨.int 5001, .str "Broker-Demo", some "DEMO", some "0", .none, .none,
    .str "USD"⟩
  restore := .attached
  isoNow := "2026-01-01T00:00:00+00:00"
  after := ⟨false, none⟩

/-- Arm the terminal with process id 5. -/
def armFive : ConsentOp :=
  .arm ⟨false, none⟩ "auto-5" true

/-- The armed terminal starts again. -/
def restarted : List ConsentOp :=
  [.start (inFirst 5), .probe readAccounts, armFive, .stop 5, .start (inFirst 5)]

/-- The armed terminal stops, and another one starts under its process id. -/
def replaced : List ConsentOp :=
  [.start (inFirst 5), .start (inSecond 7), .probe readAccounts, armFive, .stop 5, .stop 7,
    .start (inSecond 5)]

end Sample

/-- While a single terminal runs and none is configured, every id stands for one folder. -/
theorem unambiguous_of_single {world : TerminalWorld} (process : TerminalProcess)
    (single : world.processes = [process]) (id : String) : Unambiguous [] world id := by
  have only : ∀ folder, StandsFor [] world.processes id folder → folder = process.folder := by
    rw [single]
    intro folder stands
    cases stands with
    | config terminal member named => cases member
    | auto other member unconfigured named => rw [List.mem_singleton.mp member]
  intro first second standsFirst standsSecond
  rw [only first standsFirst, only second standsSecond]
  rfl

/-- A terminal that starts again in its folder is armed as the operator has left it. -/
theorem restarted_where_consented :
    OperatorConsent [] (Run.after (ConsentOp.apply []) TerminalWorld.initial
      Sample.restarted) := by
  apply orders_only_where_consented
  refine ⟨Or.inr ?_, trivial, ?_, trivial, Or.inr ?_, trivial⟩
  · intro agreed consented
    cases consented
  · exact unambiguous_of_single (Sample.inFirst 5) (by decide +kernel) "auto-5"
  · intro agreed consented
    have last : some agreed = some "C:\\A" := consented.symm.trans (by decide +kernel)
    cases last
    decide +kernel

/-- A terminal in another folder that starts under the process id of an armed one is given out
as armed. -/
theorem replaced_terminal_breaks_consent :
    ¬ OperatorConsent [] (Run.after (ConsentOp.apply []) TerminalWorld.initial
      Sample.replaced) := by
  intro held
  have given : "auto-5" ∈ ((getArmedTerminals [] ⟨false, none⟩).run
      (Run.after (ConsentOp.apply []) TerminalWorld.initial Sample.replaced)).1 := by
    decide +kernel
  have runs : (Run.after (ConsentOp.apply []) TerminalWorld.initial Sample.replaced).processes =
      [Sample.inSecond 5] := by
    decide +kernel
  have consented : consent "auto-5" (Run.after (ConsentOp.apply []) TerminalWorld.initial
      Sample.replaced).log = some "C:\\A" := by
    decide +kernel
  have denotes : Denotes [] (Run.after (ConsentOp.apply []) TerminalWorld.initial
      Sample.replaced) "auto-5" (Sample.inSecond 5) := by
    constructor
    · rw [runs]
      exact List.mem_cons_self
    · refine ⟨_, StandsFor.auto (Sample.inSecond 5) ?_ rfl ?_, rfl⟩
      · rw [runs]
        exact List.mem_cons_self
      · decide +kernel
  obtain ⟨agreed, last, same⟩ := (held.armed ⟨false, none⟩ "auto-5" given).agreed _ denotes
  rw [consented] at last
  cases last
  exact absurd same (by decide +kernel)

end EaBot.Mt5
