import EaBot.Foundation.NtPath
import EaBot.Foundation.Program
import EaBot.Foundation.Value
import EaBot.Mt5.SymbolResolver

/-!
# The terminal manager

Several terminals may run at once, but the process has one binding, which is attached to
one of them at a time.  The manager merges the configured terminals with the running
ones, moves the binding when a terminal is selected or probed, and keeps for each
terminal id whether the operator has armed it.

The operations are programs over the state of the manager.  Each step of a program is one
access to that state; what the host answers is given to the operation.
-/

namespace EaBot.Mt5

open EaBot.Foundation Program

/-! ## Terminals and accounts -/

/-- A running terminal. -/
structure TerminalProcess where
  pid : Int
  exe : String
deriving DecidableEq

/-- The folder of a running terminal. -/
def TerminalProcess.folder (process : TerminalProcess) : String :=
  NtPath.dirname process.exe

/-- The id of a running terminal that is not configured. -/
def TerminalProcess.autoId (process : TerminalProcess) : String :=
  "auto-" ++ toString process.pid

/-- A configured terminal. -/
structure TerminalConfig where
  id : String
  label : String
  path : String
  riskPerTradePct : Option ℚ
  fixedLot : Option ℚ
  maxLotPerTrade : Option ℚ
  fanoutTarget : Bool

/-- The folder of a configured terminal. -/
def TerminalConfig.folder (terminal : TerminalConfig) : String :=
  NtPath.dirname terminal.path

/-- What an attached terminal says about its account. -/
structure AccountSummary where
  login : Val
  server : Val
  mode : Option String
  tradeMode : Option String
  balance : Val
  equity : Val
  currency : Val

/-- Whether the account has a usable identity. -/
def accountIsVerified : Option AccountSummary → Bool
  | none => false
  | some account =>
      let named : Bool :=
        match account.server with
        | .str server => Text.strip server ≠ ""
        | _ => false
      account.login ≠ .none && account.login ≠ .str "" && named &&
        (account.mode.any fun mode => ["DEMO", "CONTEST", "LIVE"].contains mode)

/-- What the operator has set for a terminal id. -/
structure TerminalState where
  armed : Bool
  selected : Bool

/-! ## The state of the manager -/

/-- What happens to the manager.  A check and a move by a probe say whether any terminal is
armed at that time, and a finished probe says where the binding was and where it is. -/
inductive ManagerEvent
  | checked (caller : Nat) (armed : Bool)
  | probing (caller : Nat) (recoverable : Bool)
  | moved (caller : Nat) (armed : Bool)
  | probed (caller : Nat) (original final : Option String) (restored : Bool)
  | released (caller : Nat)
  | armed (id folder : String)
  | disarmed (id : String)
  | disarmedAll
  | resolved (base : String) (available : List String) (result : String)
deriving DecidableEq

/-- The state of the manager, of the binding and of the host.  `attached` is the folder of
the terminal that the binding is attached to. -/
structure TerminalWorld where
  processes : List TerminalProcess
  states : Dict String TerminalState
  accountCache : Dict String AccountSummary
  accountCacheTs : Option String
  attached : Option String
  liveMode : Bool
  available : Bool
  symbolCache : Dict String String
  lockHolders : List Nat
  log : List ManagerEvent

namespace TerminalWorld

/-- The manager of a new process without terminals. -/
def initial : TerminalWorld where
  processes := []
  states := Dict.empty
  accountCache := Dict.empty
  accountCacheTs := none
  attached := none
  liveMode := false
  available := false
  symbolCache := Dict.empty
  lockHolders := []
  log := []

/-- Add an event to the log. -/
def note (world : TerminalWorld) (event : ManagerEvent) : TerminalWorld :=
  { world with log := event :: world.log }

/-- Whether a terminal id is armed. -/
def armed (world : TerminalWorld) (id : String) : Bool :=
  (world.states.get id).any TerminalState.armed

/-- Whether any terminal is armed. -/
def isExecutionArmed (world : TerminalWorld) : Bool :=
  world.states.values.any TerminalState.armed

/-- The first selected id. -/
def selectedId (world : TerminalWorld) : Option String :=
  (world.states.entries.find? fun entry => entry.2.selected).map Prod.fst

/-- The state of a terminal id; a new one is neither armed nor selected. -/
def stateFor (world : TerminalWorld) (id : String) : TerminalState :=
  (world.states.get id).getD ⟨false, false⟩

/-- Set whether a terminal id is armed. -/
def setArmed (world : TerminalWorld) (id : String) (armed : Bool) : TerminalWorld :=
  { world with states := world.states.set id { world.stateFor id with armed := armed } }

/-- Disarm all terminals. -/
def disarmAll (world : TerminalWorld) : TerminalWorld :=
  { world with states := world.states.mapValues fun state => { state with armed := false } }

/-- Mark one terminal id as selected and no other. -/
def setSelected (world : TerminalWorld) (id : String) : TerminalWorld :=
  let states := (world.states.mapValues fun state => { state with selected := false })
  { world with states := states.set id { world.stateFor id with selected := true } }

theorem armed_setArmed (world : TerminalWorld) (id other : String) (value : Bool) :
    (world.setArmed id value).armed other = if other = id then value else world.armed other := by
  unfold armed setArmed
  rw [Dict.get_set]
  split
  · rfl
  · rfl

theorem isExecutionArmed_iff (world : TerminalWorld) :
    world.isExecutionArmed = true ↔ ∃ id, world.armed id = true := by
  simp only [isExecutionArmed, armed, List.any_eq_true, Dict.mem_values_iff, Option.any_eq_true]
  constructor
  · rintro ⟨state, ⟨id, found⟩, armed⟩
    exact ⟨id, state, found, armed⟩
  · rintro ⟨id, state, found, armed⟩
    exact ⟨state, ⟨id, found⟩, armed⟩

/-- Disarming arms nothing. -/
theorem isExecutionArmed_disarm {world : TerminalWorld} (id : String)
    (unarmed : world.isExecutionArmed = false) :
    (world.setArmed id false).isExecutionArmed = false := by
  rw [Bool.eq_false_iff] at unarmed ⊢
  intro armed
  apply unarmed
  rw [isExecutionArmed_iff] at armed ⊢
  obtain ⟨other, armed⟩ := armed
  rw [armed_setArmed] at armed
  split at armed
  · cases armed
  · exact ⟨other, armed⟩

/-! ### The binding -/

/-- Detach the binding. -/
def shutdown (world : TerminalWorld) : TerminalWorld :=
  { world with
    attached := if world.available then none else world.attached,
    liveMode := false, available := false }

theorem shutdown_attached {world : TerminalWorld}
    (bound : world.attached ≠ none → world.available = true) :
    world.shutdown.attached = none := by
  unfold shutdown
  by_cases attached : world.attached = none
  · simp [attached]
  · simp [bound attached]

end TerminalWorld

/-- What comes of an attempt to attach. -/
inductive AttachAnswer
  | attached
  | refused
  | raised
deriving DecidableEq

/-- Attach the binding to the terminal in a folder. -/
def TerminalWorld.useLiveDataMode (world : TerminalWorld) (folder : String) :
    AttachAnswer → Bool × TerminalWorld
  | .attached =>
      (true, { world with attached := some folder, liveMode := true, available := true })
  | .refused => (false, world)
  | .raised => (false, { world with available := false })

@[simp]
theorem useLiveDataMode_states (world : TerminalWorld) (folder : String)
    (answer : AttachAnswer) : (world.useLiveDataMode folder answer).2.states = world.states := by
  cases answer with
  | _ => rfl

@[simp]
theorem useLiveDataMode_lockHolders (world : TerminalWorld) (folder : String)
    (answer : AttachAnswer) :
    (world.useLiveDataMode folder answer).2.lockHolders = world.lockHolders := by
  cases answer with
  | _ => rfl

@[simp]
theorem useLiveDataMode_log (world : TerminalWorld) (folder : String) (answer : AttachAnswer) :
    (world.useLiveDataMode folder answer).2.log = world.log := by
  cases answer with
  | _ => rfl

/-! ## The registry -/

/-- What the host answers when the registry is read. -/
structure HostReads where
  terminalInfo : Bool
  account : Option AccountSummary

/-- The folder of the attached terminal, when the terminal answers. -/
def detectAttachedPath (reads : HostReads) (world : TerminalWorld) : Option String :=
  if reads.terminalInfo then world.attached.filter fun folder => folder ≠ "" else none

/-- Remember the account of the attached terminal. -/
def refreshAttachedAccount (reads : HostReads) (world : TerminalWorld) : TerminalWorld :=
  match detectAttachedPath reads world, reads.account with
  | some folder, some account =>
      { world with accountCache := world.accountCache.set (NtPath.norm folder) account }
  | _, _ => world

/-- Where a registry entry comes from. -/
inductive EntrySource
  | config
  | auto
deriving DecidableEq

/-- An entry of the registry. -/
structure RegistryEntry where
  id : String
  label : String
  path : String
  folder : String
  source : EntrySource
  running : Bool
  pid : Option Int
  attached : Bool
  selected : Bool
  armed : Bool
  account : Option AccountSummary
  accountVerified : Bool
  riskPerTradePct : Option ℚ
  fixedLot : Option ℚ
  maxLotPerTrade : Option ℚ
  fanoutTarget : Bool

/-- The registry merged with what runs and what is attached. -/
structure RegistryView where
  terminals : List RegistryEntry
  selectedId : Option String
  executionArmed : Bool
  armedTerminals : List String
  attachedPath : Option String
  accountsProbedAt : Option String

/-- Whether a folder is the attached one. -/
def isAttached (reads : HostReads) (world : TerminalWorld) (folder : String) : Bool :=
  (detectAttachedPath reads world).any fun attached => NtPath.norm attached = NtPath.norm folder

/-- The last running terminal of a folder. -/
def runningIn (world : TerminalWorld) (folder : String) : Option TerminalProcess :=
  world.processes.reverse.find? fun process => NtPath.norm process.folder = NtPath.norm folder

/-- The entry of a configured terminal. -/
def configEntry (reads : HostReads) (world : TerminalWorld) (terminal : TerminalConfig) :
    RegistryEntry :=
  let process := runningIn world terminal.folder
  let account := world.accountCache.get (NtPath.norm terminal.folder)
  { id := terminal.id, label := terminal.label, path := terminal.path,
    folder := terminal.folder, source := .config, running := process.isSome,
    pid := process.map TerminalProcess.pid,
    attached := isAttached reads world terminal.folder,
    selected := (world.stateFor terminal.id).selected, armed := world.armed terminal.id,
    account := account, accountVerified := accountIsVerified account,
    riskPerTradePct := terminal.riskPerTradePct, fixedLot := terminal.fixedLot,
    maxLotPerTrade := terminal.maxLotPerTrade, fanoutTarget := terminal.fanoutTarget }

/-- The entry of a running terminal that is not configured. -/
def autoEntry (reads : HostReads) (world : TerminalWorld) (process : TerminalProcess) :
    RegistryEntry :=
  let account := world.accountCache.get (NtPath.norm process.folder)
  let name := NtPath.basename process.folder
  { id := process.autoId, label := if name = "" then process.exe else name, path := process.exe,
    folder := process.folder, source := .auto, running := true, pid := some process.pid,
    attached := isAttached reads world process.folder,
    selected := (world.stateFor process.autoId).selected, armed := world.armed process.autoId,
    account := account, accountVerified := accountIsVerified account, riskPerTradePct := none,
    fixedLot := none, maxLotPerTrade := none, fanoutTarget := true }

/-- Whether a running terminal is a configured one. -/
def isConfigured (config : List TerminalConfig) (process : TerminalProcess) : Bool :=
  config.any fun terminal => NtPath.norm terminal.folder = NtPath.norm process.folder

/-- The entries of the registry. -/
def registryEntries (config : List TerminalConfig) (reads : HostReads) (world : TerminalWorld) :
    List RegistryEntry :=
  config.map (configEntry reads world) ++
    (world.processes.filter fun process => !isConfigured config process).map
      (autoEntry reads world)

/-- The registry as it is shown. -/
def registryView (config : List TerminalConfig) (reads : HostReads) (world : TerminalWorld) :
    RegistryView :=
  let entries := registryEntries config reads world
  { terminals := entries, selectedId := world.selectedId,
    executionArmed := world.isExecutionArmed,
    armedTerminals := (entries.filter fun entry => entry.armed && entry.running).map
      RegistryEntry.id,
    attachedPath := detectAttachedPath reads world, accountsProbedAt := world.accountCacheTs }

/-- The registry as an operation reads it. -/
def registryRead (config : List TerminalConfig) (reads : HostReads) (world : TerminalWorld) :
    RegistryView :=
  registryView config reads (refreshAttachedAccount reads world)

/-- Read the registry. -/
def listTerminals (config : List TerminalConfig) (reads : HostReads) :
    Program TerminalWorld RegistryView :=
  perform fun world => (registryRead config reads world, refreshAttachedAccount reads world)

/-- Reading the registry changes the remembered accounts only. -/
theorem refreshAttachedAccount_eq (reads : HostReads) (world : TerminalWorld) :
    ∃ accounts, refreshAttachedAccount reads world = { world with accountCache := accounts } := by
  unfold refreshAttachedAccount
  split
  · exact ⟨_, rfl⟩
  · exact ⟨world.accountCache, rfl⟩

theorem registryRead_attachedPath (config : List TerminalConfig) (reads : HostReads)
    (world : TerminalWorld) :
    (registryRead config reads world).attachedPath = detectAttachedPath reads world := by
  obtain ⟨accounts, same⟩ := refreshAttachedAccount_eq reads world
  unfold registryRead
  rw [same]
  rfl

/-- The first entry with an id. -/
def RegistryView.entryNamed (view : RegistryView) (id : String) : Option RegistryEntry :=
  view.terminals.find? fun entry => entry.id = id

/-! ## The lock of the binding -/

/-- Take the lock of the binding. -/
def acquireBinding (caller : Nat) : Program TerminalWorld Unit :=
  modify fun world => { world with lockHolders := caller :: world.lockHolders }

/-- Give the lock back. -/
def releaseBinding (caller : Nat) : Program TerminalWorld Unit :=
  modify fun world =>
    { world with lockHolders := world.lockHolders.erase caller }.note (.released caller)

/-! ## Selecting a terminal -/

/-- What the host answers to a selection. -/
structure SelectAnswers where
  view : HostReads
  attach : AttachAnswer
  after : HostReads

/-- The outcome of a selection. -/
structure SelectResult where
  ok : Bool
  message : String
  selectedId : Option String
  executionArmed : Bool
  attachedPath : Option String

/-- The outcome of a selection with the state of the manager. -/
def selectResult (ok : Bool) (message : String) (attachedPath : TerminalWorld → Option String) :
    Program TerminalWorld SelectResult :=
  read fun world => ⟨ok, message, world.selectedId, world.isExecutionArmed, attachedPath world⟩

/-- Attach the binding to a running entry and mark it as selected. -/
def attachSelected (answers : SelectAnswers) (entry : RegistryEntry) :
    Program TerminalWorld SelectResult := do
  modify TerminalWorld.shutdown
  let ok ← perform fun world => world.useLiveDataMode entry.folder answers.attach
  if !ok then
    selectResult false
      (s!"Failed to attach to '{entry.id}' at {entry.path}. The binding is now detached " ++
        "— re-select a running terminal.") (detectAttachedPath answers.after)
  else do
    modify fun world => world.setSelected entry.id
    modify fun world => { world with symbolCache := Dict.empty }
    let attached ← read (detectAttachedPath answers.after)
    let place := attached.getD "unknown"
    selectResult true
      (s!"Terminal '{entry.id}' selected. Attached to: {place}. Arm state unchanged.")
      fun _ => attached

/-- Select a terminal under the lock. -/
def selectTerminalLocked (config : List TerminalConfig) (answers : SelectAnswers) (id : String) :
    Program TerminalWorld SelectResult := do
  let view ← listTerminals config answers.view
  match view.entryNamed id with
  | none => selectResult false s!"Terminal '{id}' not found in the registry." fun _ => none
  | some entry =>
      if !entry.running then
        selectResult false (s!"Terminal '{id}' is not running. " ++
          "Start its terminal64.exe first, then re-select.") fun _ => none
      else if entry.attached && entry.selected then
        selectResult true s!"Terminal '{id}' is already selected and attached."
          fun _ => view.attachedPath
      else attachSelected answers entry

/-- Select a terminal and attach the binding to it. -/
def selectTerminal (caller : Nat) (config : List TerminalConfig) (answers : SelectAnswers)
    (id : String) : Program TerminalWorld SelectResult := do
  acquireBinding caller
  let result ← selectTerminalLocked config answers id
  releaseBinding caller
  return result

/-! ## Probing the accounts -/

/-- What the host answers to a probe. -/
structure ProbeAnswers where
  view : HostReads
  attach : Nat → AttachAnswer
  summary : Nat → Option AccountSummary
  restore : AttachAnswer
  isoNow : String
  after : HostReads

/-- What a probe finds at one terminal. -/
structure ProbeRow where
  id : String
  label : String
  ok : Bool
  account : Option AccountSummary
  error : Option String

/-- The outcome of a probe.  A probe that is refused restores nothing. -/
structure ProbeResult where
  ok : Bool
  message : String
  probedAt : Option String
  results : List ProbeRow
  restored : Option Bool
  attachedPath : Option String
  executionArmed : Bool

/-- The terminal that a probe takes back the binding to: the attached one, or else the
selected one. -/
def originalEntry (view : RegistryView) : Option RegistryEntry :=
  let attached := view.attachedPath.bind fun original =>
    view.terminals.find? fun entry =>
      entry.folder ≠ "" && NtPath.norm entry.folder = NtPath.norm original
  let selected := (view.selectedId.filter fun id => id ≠ "").bind view.entryNamed
  attached.or selected

/-- Whether a probe that says it has taken the binding back will have done so: the terminal
that it takes the binding to is the one that the binding is on, and a binding that is on a
terminal is seen there. -/
def recoverable (config : List TerminalConfig) (answers : ProbeAnswers) (world : TerminalWorld) :
    Bool :=
  match originalEntry (registryRead config answers.view world) with
  | some entry =>
      answers.restore ≠ .attached ||
        world.attached.map NtPath.norm = some (NtPath.norm entry.folder)
  | none => (detectAttachedPath answers.view world).isSome || world.attached.isNone

/-- A probe reads the registry; the folder that the binding is on is noted along with it. -/
def beginProbe (caller : Nat) (config : List TerminalConfig) (answers : ProbeAnswers) :
    Program TerminalWorld (Option String × RegistryView) :=
  perform fun world =>
    ((world.attached, registryRead config answers.view world),
      (refreshAttachedAccount answers.view world).note
        (.probing caller (recoverable config answers world)))

/-- A probe detaches the binding. -/
def probeShutdown (caller : Nat) : Program TerminalWorld Unit :=
  modify fun world => world.shutdown.note (.moved caller world.isExecutionArmed)

/-- A probe attaches the binding. -/
def probeAttach (caller : Nat) (folder : String) (answer : AttachAnswer) :
    Program TerminalWorld Bool :=
  perform fun world =>
    let moved := world.useLiveDataMode folder answer
    (moved.1, moved.2.note (.moved caller world.isExecutionArmed))

/-- The key of an entry's folder. -/
def folderKey (entry : RegistryEntry) : Option String :=
  if entry.folder = "" then none else some (NtPath.norm entry.folder)

/-- What a probe finds after an attempt to attach. -/
def probeRow (entry : RegistryEntry) (attached : Bool) (summary : Option AccountSummary) :
    ProbeRow :=
  if !attached then
    ⟨entry.id, entry.label, false, none, some "Gagal attach ke terminal (initialize gagal)."⟩
  else
    match summary with
    | none =>
        ⟨entry.id, entry.label, false, none, some "account_info() tidak mengembalikan data."⟩
    | some account => ⟨entry.id, entry.label, true, some account, none⟩

/-- Move the binding to a terminal, unless it is there. -/
def moveTo (caller : Nat) (current : Option String) (entry : RegistryEntry)
    (answer : AttachAnswer) : Program TerminalWorld Bool :=
  if (folderKey entry).isSome ∧ current = folderKey entry then return true
  else do
    probeShutdown caller
    probeAttach caller entry.folder answer

/-- Visit the running terminals in turn, from `current` on. -/
def probeTerminals (caller : Nat) (answers : ProbeAnswers) :
    Nat → Option String → List RegistryEntry →
      Program TerminalWorld (List (RegistryEntry × ProbeRow))
  | _, _, [] => return []
  | number, current, entry :: rest => do
      let attached ← moveTo caller current entry (answers.attach number)
      let rows ← probeTerminals caller answers (number + 1)
        (if attached then folderKey entry else none) rest
      return (entry, probeRow entry attached (answers.summary number)) :: rows

/-- The accounts that a probe has read, by their folders. -/
def freshAccounts (rows : List (RegistryEntry × ProbeRow)) : Dict String AccountSummary :=
  rows.foldl (fun accounts row =>
    match folderKey row.1, row.2.account with
    | some key, some account => accounts.set key account
    | _, _ => accounts) Dict.empty

/-- Take the binding back. -/
def restoreProbe (caller : Nat) (view : RegistryView) (answer : AttachAnswer) :
    Program TerminalWorld Bool := do
  probeShutdown caller
  match originalEntry view with
  | some entry => probeAttach caller entry.folder answer
  | none => return view.attachedPath.isNone

/-- The words for a finished probe. -/
def probeMessage (rows : List ProbeRow) (restored : Bool) : String :=
  s!"Cek akun selesai: {(rows.filter ProbeRow.ok).length}/{rows.length} terminal terbaca." ++
    if restored then ""
    else
      " PERINGATAN: binding gagal dipulihkan ke terminal semula — " ++
        "pilih ulang terminal yang benar sebelum eksekusi."

/-- Visit the running terminals and take the binding back. -/
def probeRunning (caller : Nat) (answers : ProbeAnswers) (original : Option String)
    (view : RegistryView) (running : List RegistryEntry) : Program TerminalWorld ProbeResult := do
  let rows ← probeTerminals caller answers 0 (view.attachedPath.map NtPath.norm) running
  let restored ← restoreProbe caller view answers.restore
  perform fun world =>
    let results := rows.map Prod.snd
    let result : ProbeResult :=
      ⟨true, probeMessage results restored, some answers.isoNow, results, some restored,
        detectAttachedPath answers.after world, world.isExecutionArmed⟩
    (result, { world with
      accountCache := freshAccounts rows, accountCacheTs := some answers.isoNow }.note
        (.probed caller original world.attached restored))

/-- Probe under the lock. -/
def probeLocked (caller : Nat) (config : List TerminalConfig) (answers : ProbeAnswers) :
    Program TerminalWorld ProbeResult := do
  let (original, view) ← beginProbe caller config answers
  let running := view.terminals.filter RegistryEntry.running
  if running.isEmpty then
    read fun world =>
      ⟨false, "Tidak ada terminal yang berjalan — tidak ada yang bisa dicek.", none, [], none,
        none, world.isExecutionArmed⟩
  else probeRunning caller answers original view running

/-- Read the account of every running terminal. -/
def probeAccounts (caller : Nat) (config : List TerminalConfig) (answers : ProbeAnswers) :
    Program TerminalWorld ProbeResult := do
  let armed ← perform fun world =>
    (world.isExecutionArmed, world.note (.checked caller world.isExecutionArmed))
  if armed then
    return ⟨false, "Execution sedang ARMED. Probe memindahkan binding sementara, " ++
      "jadi harus disarmed dulu — klik Disarm lalu coba lagi.", none, [], none, none, true⟩
  else do
    acquireBinding caller
    let result ← probeLocked caller config answers
    releaseBinding caller
    return result

/-! ## Arming -/

/-- The outcome of arming or disarming. -/
structure ArmResult where
  ok : Bool
  armed : Bool
  message : String

/-- Disarm a terminal id. -/
def disarmTerminal (id : String) : Program TerminalWorld ArmResult :=
  perform fun world =>
    (⟨true, false, if world.armed id then s!"Terminal '{id}' disarmed."
      else s!"Terminal '{id}' was not armed."⟩, (world.setArmed id false).note (.disarmed id))

/-- Arm or disarm a terminal. -/
def armTerminal (config : List TerminalConfig) (reads : HostReads) (id : String) (armed : Bool) :
    Program TerminalWorld ArmResult :=
  if !armed then disarmTerminal id
  else do
    let view ← listTerminals config reads
    match view.entryNamed id with
    | none => return ⟨false, false, s!"Terminal '{id}' not found in the registry."⟩
    | some entry =>
        if !entry.running then return ⟨false, false, s!"Terminal '{id}' is not running."⟩
        else if !accountIsVerified entry.account then
          return ⟨false, false, s!"Akun terminal '{id}' belum terverifikasi. " ++
            "Disarm semua terminal, klik Cek akun, lalu arm kembali."⟩
        else do
          modify fun world => (world.setArmed id true).note (.armed id entry.folder)
          return ⟨true, true, s!"Execution ARMED for terminal '{id}'. " ++
            "Real orders may now be sent. Disarm when done."⟩

/-- Arm or disarm the selected terminal. -/
def armExecution (config : List TerminalConfig) (reads : HostReads) (armed : Bool) :
    Program TerminalWorld ArmResult := do
  let target ← read fun world => world.selectedId.filter fun id => id ≠ ""
  match target with
  | none =>
      if !armed then
        perform fun world => (⟨true, false, "Execution disarmed (no terminal was selected)."⟩,
          world.disarmAll.note .disarmedAll)
      else return ⟨false, false, "No terminal selected. Select a running terminal first."⟩
  | some id => armTerminal config reads id armed

/-! ## Who may receive orders -/

/-- The armed ids that denote a running terminal with a verified account.  Of several
entries with one id the last one counts. -/
def getArmedTerminals (config : List TerminalConfig) (reads : HostReads) :
    Program TerminalWorld (List String) := do
  let view ← listTerminals config reads
  read fun world =>
    (world.states.entries.filter fun state => state.2.armed &&
      ((view.terminals.reverse.find? fun entry => entry.id = state.1).any fun entry =>
        entry.running && entry.accountVerified)).map Prod.fst

/-- The entries that may receive a fan-out. -/
def getFanoutTargets (config : List TerminalConfig) (reads : HostReads) :
    Program TerminalWorld (List RegistryEntry) := do
  let view ← listTerminals config reads
  return view.terminals.filter fun entry =>
    entry.running && entry.armed && entry.accountVerified && entry.fanoutTarget

/-- Whether an armed terminal is the attached one. -/
def executionPermitted (config : List TerminalConfig) (reads again : HostReads) :
    Program TerminalWorld Bool := do
  let ids ← getArmedTerminals config reads
  if ids.isEmpty then return false
  else do
    let view ← listTerminals config again
    return ids.any fun id => (view.entryNamed id).any RegistryEntry.attached

/-! ## Resolving a symbol -/

/-- The symbols of the attached terminal. -/
def availableSymbols (symbols : String → List String) (world : TerminalWorld) : List String :=
  if world.liveMode then world.attached.elim [] fun folder => symbols (NtPath.norm folder) else []

/-- The symbol that a base name stands for, with the cache afterwards. -/
def resolveIn (available : List String) (cache : Dict String String) (base : String) :
    String × Dict String String :=
  let key := SymbolResolver.keyOf base
  if key = "" then (base, cache)
  else
    match (cache.get key).filter fun cached => cached ≠ "" with
    | some cached => (cached, cache)
    | none =>
        match SymbolResolver.candidateMatches key available with
        | [] => (base, cache)
        | resolved :: _ => (resolved, cache.set key resolved)

/-- Resolve a base name at the attached terminal. -/
def resolveSymbol (symbols : String → List String) (base : String) :
    Program TerminalWorld String :=
  perform fun world =>
    let available := availableSymbols symbols world
    let resolved := resolveIn available world.symbolCache base
    (resolved.1,
      { world with symbolCache := resolved.2 }.note (.resolved base available resolved.1))

end EaBot.Mt5
