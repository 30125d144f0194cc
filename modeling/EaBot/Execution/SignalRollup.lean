import EaBot.Execution.AccountOrders
import EaBot.Foundation.Run

/-!
# The status of a signal over its accounts

The status of a signal is computed from the records of its accounts whenever a record is put into
the ledger; the record of the account that is being visited changes in between.  An account that
is about to be visited already counts with a record of its own.

A signal that is executed or rejected as a whole is so at every moment.  A signal is shown as
executed in part without any executed account when an account is visited while the accounts
before it were all rejected.
-/

namespace EaBot.Execution

open EaBot.Foundation EaBot.Orchestration CanonicalFanout

/-! ## Steps of the ledger -/

/-- Set the status of a signal; only two statuses may be set. -/
def FanoutLedger.setSignalStatus (ledger : FanoutLedger) (signalId : String)
    (status : SignalStatus) : Except String FanoutLedger :=
  if status = .created ∨ status = .expired then
    .ok (ledger.changeEntry signalId fun entry => { entry with signalStatus := status })
  else .error "Only CREATED/EXPIRED may be set directly"

/-- The steps that change the ledger. -/
inductive LedgerStep
  | event (event : FanoutEvent)
  | setSignalStatus (signalId : String) (status : SignalStatus)
  | reset

/-- The ledger after a step; a status that may not be set leaves it as it is. -/
def FanoutLedger.step (ledger : FanoutLedger) : LedgerStep → FanoutLedger
  | .event event => ledger.apply event
  | .setSignalStatus signalId status =>
      (ledger.setSignalStatus signalId status).toOption.getD ledger
  | .reset => FanoutLedger.empty

/-- The calls that change the ledger. -/
inductive RollupCall
  | fanOut (call : FanoutCall)
  | setSignalStatus (signalId : String) (status : SignalStatus)
  | reset

/-- The steps of a call. -/
def RollupCall.steps (ledger : FanoutLedger) : RollupCall → List LedgerStep
  | .fanOut call =>
      (CanonicalFanout.fanOut call.connected call.parts call.signal call.targets call.raw
        ledger).events.map .event
  | .setSignalStatus signalId status => [.setSignalStatus signalId status]
  | .reset => [.reset]

/-- The steps of calls, one after the other. -/
def stepsOf : FanoutLedger → List RollupCall → List LedgerStep
  | _, [] => []
  | ledger, call :: rest =>
      call.steps ledger ++ stepsOf (Run.after FanoutLedger.step ledger (call.steps ledger)) rest

/-! ## Truthful statuses -/

/-- The order was rejected or failed. -/
def AccountStatus.refused (status : AccountStatus) : Bool :=
  status = .rejected ∨ status = .failed

/-- The status of a signal says what the records of its accounts say. -/
structure SignalEntry.Truthful (entry : SignalEntry) : Prop where
  all : entry.signalStatus = .executedAll →
    ∀ record ∈ entry.accounts.values, record.status.executed = true
  part : entry.signalStatus = .partiallyExecuted →
    ∃ record ∈ entry.accounts.values, record.status.executed = true
  none_ : entry.signalStatus = .rejectedAll →
    ∀ record ∈ entry.accounts.values, record.status.refused = true

instance (entry : SignalEntry) : Decidable entry.Truthful :=
  decidable_of_iff
    ((entry.signalStatus = .executedAll →
        ∀ record ∈ entry.accounts.values, record.status.executed = true) ∧
      (entry.signalStatus = .partiallyExecuted →
        ∃ record ∈ entry.accounts.values, record.status.executed = true) ∧
      (entry.signalStatus = .rejectedAll →
        ∀ record ∈ entry.accounts.values, record.status.refused = true))
    ⟨fun ⟨all, part, none_⟩ => ⟨all, part, none_⟩,
      fun truthful => ⟨truthful.all, truthful.part, truthful.none_⟩⟩

/-- The statuses of all signals are truthful. -/
def FanoutLedger.Truthful (ledger : FanoutLedger) : Prop :=
  ∀ entry ∈ ledger.signals.values, entry.Truthful

instance (ledger : FanoutLedger) : Decidable ledger.Truthful :=
  inferInstanceAs (Decidable (∀ entry ∈ ledger.signals.values, entry.Truthful))

/-- The statuses are truthful after a step. -/
def TruthfulAfter (ledger : FanoutLedger) (step : LedgerStep) : Prop :=
  (ledger.step step).Truthful

instance (ledger : FanoutLedger) (step : LedgerStep) : Decidable (TruthfulAfter ledger step) :=
  inferInstanceAs (Decidable (ledger.step step).Truthful)

/-- Besides an account the signal has no other one, or an executed one. -/
def SignalEntry.Accompanied (entry : SignalEntry) (accountId : String) : Prop :=
  (∀ held ∈ entry.accounts.entries, held.1 = accountId) ∨
    ∃ held ∈ entry.accounts.entries, held.1 ≠ accountId ∧ held.2.status.executed = true

instance (entry : SignalEntry) (accountId : String) : Decidable (entry.Accompanied accountId) :=
  inferInstanceAs (Decidable (_ ∨ _))

/-- A record that is open is put into the ledger when its signal has no other account, or an
executed one. -/
def OpensAccompanied (ledger : FanoutLedger) : LedgerStep → Prop
  | .event (.upserted dispatch) => dispatch.status.terminal = false →
      ∀ entry ∈ ledger.signals.get dispatch.signalId, entry.Accompanied dispatch.accountId
  | _ => True

/-! ## The status that is computed -/

namespace SignalEntry

theorem length_filter_or {α : Type} (first second : α → Bool)
    (apart : ∀ item, ¬ (first item = true ∧ second item = true)) (items : List α) :
    (items.filter first).length + (items.filter second).length =
      (items.filter fun item => first item || second item).length := by
  induction items with
  | nil => rfl
  | cons item rest ih =>
      have never := apart item
      cases here : first item <;> cases there : second item <;>
        simp [here, there] at never ⊢ <;> omega

/-- How the computed status depends on the records. -/
theorem rollupStatus_eq (entry : SignalEntry) :
    entry.rollupStatus =
      if entry.accounts.values = [] then .validated
      else if ∃ record ∈ entry.accounts.values, record.status.executed = true then
        if ∀ record ∈ entry.accounts.values, record.status.executed = true then .executedAll
        else .partiallyExecuted
      else if ∃ record ∈ entry.accounts.values, record.status.refused = true then
        if ∀ record ∈ entry.accounts.values, record.status.refused = true then .rejectedAll
        else .partiallyExecuted
      else .validated := by
  unfold rollupStatus
  generalize entry.accounts.values = records
  have refused := length_filter_or (fun record : AccountDispatch => record.status = .rejected)
    (fun record => record.status = .failed) (by intro record; cases record.status <;> simp) records
  dsimp only
  rw [refused]
  have some_ (select : AccountDispatch → Bool) :
      0 < (records.filter select).length ↔ ∃ record ∈ records, select record = true := by
    rw [List.length_pos_iff_exists_mem]
    simp only [List.mem_filter]
  simp only [List.isEmpty_iff, some_, List.length_filter_eq_length_iff, AccountStatus.refused,
    Bool.decide_or]

theorem terminal_cases {status : AccountStatus} (ended : status.terminal = true) :
    status.executed = true ∨ status.refused = true := by
  cases status <;> simp [AccountStatus.terminal, AccountStatus.executed,
    AccountStatus.refused] at ended ⊢

theorem mem_values_setAccount {entry : SignalEntry} {dispatch record : AccountDispatch} :
    record ∈ (entry.setAccount dispatch).accounts.values ↔
      record = dispatch ∨ ∃ id, id ≠ dispatch.accountId ∧ entry.accounts.get id = some record := by
  rw [Dict.mem_values_iff]
  constructor
  · rintro ⟨id, held⟩
    rw [setAccount, Dict.get_set] at held
    by_cases here : id = dispatch.accountId
    · rw [if_pos here] at held
      exact .inl (Option.some.inj held).symm
    · rw [if_neg here] at held
      exact .inr ⟨id, here, held⟩
  · rintro (rfl | ⟨id, apart, held⟩)
    · exact ⟨record.accountId, Dict.get_set_self _ _ _⟩
    · exact ⟨id, by rw [setAccount, Dict.get_set_of_ne _ apart, held]⟩

/-- All orders of the signal have come to an end. -/
def Settled (entry : SignalEntry) : Prop :=
  ∀ record ∈ entry.accounts.values, record.status.terminal = true

/-- A computed status is truthful unless some records were refused, others not, and none was
executed. -/
theorem truthful_rollup_iff (entry : SignalEntry) :
    entry.rollup.Truthful ↔
      ((∃ record ∈ entry.accounts.values, record.status.refused = true) →
        (∃ record ∈ entry.accounts.values, record.status.executed = true) ∨
          ∀ record ∈ entry.accounts.values, record.status.refused = true) := by
  have computed := rollupStatus_eq entry
  constructor
  · intro truthful refused
    by_contra neither
    rw [not_or] at neither
    have some_ : entry.accounts.values ≠ [] := by
      obtain ⟨record, member, -⟩ := refused
      exact List.ne_nil_of_mem member
    rw [if_neg some_, if_neg neither.1, if_pos refused, if_neg neither.2] at computed
    exact neither.1 (truthful.part computed)
  · intro clear_
    change (SignalEntry.mk entry.signal entry.rollupStatus entry.accounts).Truthful
    rw [computed]
    by_cases empty : entry.accounts.values = []
    · rw [if_pos empty]
      constructor <;> intro other <;> cases other
    rw [if_neg empty]
    by_cases executed : ∃ record ∈ entry.accounts.values, record.status.executed = true
    · rw [if_pos executed]
      by_cases all : ∀ record ∈ entry.accounts.values, record.status.executed = true
      · rw [if_pos all]
        exact ⟨fun _ => all, fun other => (by cases other), fun other => (by cases other)⟩
      · rw [if_neg all]
        exact ⟨fun other => (by cases other), fun _ => executed, fun other => (by cases other)⟩
    · rw [if_neg executed]
      by_cases refused : ∃ record ∈ entry.accounts.values, record.status.refused = true
      · have all := (clear_ refused).resolve_left executed
        rw [if_pos refused, if_pos all]
        exact ⟨fun other => (by cases other), fun other => (by cases other), fun _ => all⟩
      · rw [if_neg refused]
        constructor <;> intro other <;> cases other

theorem Settled.truthful_rollup {entry : SignalEntry} (settled : entry.Settled) :
    entry.rollup.Truthful := by
  rw [truthful_rollup_iff]
  intro _
  by_cases executed : ∃ record ∈ entry.accounts.values, record.status.executed = true
  · exact .inl executed
  · refine .inr fun record member => ?_
    rcases terminal_cases (settled record member) with here | there
    · exact absurd ⟨record, member, here⟩ executed
    · exact there

/-- The first record of an account leaves the status truthful when the signal has no other
account, or an executed one. -/
theorem Settled.truthful_rollup_iff {entry : SignalEntry} (settled : entry.Settled)
    {dispatch : AccountDispatch} (pending : dispatch.status = .pending)
    (unknown : entry.accounts.get dispatch.accountId = none) :
    (entry.setAccount dispatch).rollup.Truthful ↔ entry.Accompanied dispatch.accountId := by
  have neither : dispatch.status.refused = false ∧ dispatch.status.executed = false := by
    rw [pending]
    exact ⟨rfl, rfl⟩
  have elsewhere : ∀ {id record}, entry.accounts.get id = some record →
      id ≠ dispatch.accountId := by
    rintro id record held rfl
    rw [unknown] at held
    cases held
  rw [SignalEntry.truthful_rollup_iff]
  simp only [mem_values_setAccount]
  constructor
  · intro clear_
    by_cases alone : ∀ held ∈ entry.accounts.entries, held.1 = dispatch.accountId
    · exact .inl alone
    · right
      push Not at alone
      obtain ⟨⟨id, record⟩, member, apart⟩ := alone
      have held := (Dict.mem_entries_iff _ _ _).mp member
      have ended := settled record ((Dict.mem_values_iff _ _).mpr ⟨id, held⟩)
      rcases terminal_cases ended with executed | refused
      · exact ⟨(id, record), member, apart, executed⟩
      · rcases clear_ ⟨record, .inr ⟨id, apart, held⟩, refused⟩ with
          ⟨other, rfl | ⟨second, away, there⟩, executed⟩ | all
        · rw [neither.2] at executed
          cases executed
        · exact ⟨(second, other), (Dict.mem_entries_iff _ _ _).mpr there, away, executed⟩
        · have own := all dispatch (.inl rfl)
          rw [neither.1] at own
          cases own
  · rintro (alone | ⟨⟨id, record⟩, member, apart, executed⟩)
    · rintro ⟨record, rfl | ⟨id, apart, held⟩, refused⟩
      · rw [neither.1] at refused
        cases refused
      · exact absurd (alone (id, record) ((Dict.mem_entries_iff _ _ _).mpr held)) apart
    · exact fun _ => .inl ⟨record, .inr ⟨id, apart, (Dict.mem_entries_iff _ _ _).mp member⟩,
        executed⟩

/-- The status does not depend on the record of an account: none is claimed, or another account
is executed. -/
def Calm (entry : SignalEntry) (accountId : String) : Prop :=
  entry.signalStatus = .validated ∨
    entry.signalStatus = .partiallyExecuted ∧
      ∃ id record, id ≠ accountId ∧ entry.accounts.get id = some record ∧
        record.status.executed = true

/-- The first record of an account leaves the status to the others. -/
theorem Accompanied.calm {entry : SignalEntry} {dispatch : AccountDispatch}
    (accompanied : entry.Accompanied dispatch.accountId) (pending : dispatch.status = .pending) :
    (entry.setAccount dispatch).rollup.Calm dispatch.accountId := by
  have neither : dispatch.status.refused = false ∧ dispatch.status.executed = false := by
    rw [pending]
    exact ⟨rfl, rfl⟩
  have own : dispatch ∈ (entry.setAccount dispatch).accounts.values :=
    mem_values_setAccount.mpr (.inl rfl)
  have computed := rollupStatus_eq (entry.setAccount dispatch)
  rw [if_neg (List.ne_nil_of_mem own)] at computed
  rcases accompanied with alone | ⟨⟨id, record⟩, member, apart, executed⟩
  · have only : ∀ record ∈ (entry.setAccount dispatch).accounts.values, record = dispatch := by
      intro record member
      rcases mem_values_setAccount.mp member with same | ⟨id, apart, held⟩
      · exact same
      · exact absurd (alone (id, record) ((Dict.mem_entries_iff _ _ _).mpr held)) apart
    left
    rw [if_neg, if_neg] at computed
    · exact computed
    · rintro ⟨record, member, refused⟩
      rw [only record member, neither.1] at refused
      cases refused
    · rintro ⟨record, member, executed⟩
      rw [only record member, neither.2] at executed
      cases executed
  · have held := (Dict.mem_entries_iff _ _ _).mp member
    right
    rw [if_pos ⟨record, mem_values_setAccount.mpr (.inr ⟨id, apart, held⟩), executed⟩,
      if_neg] at computed
    · exact ⟨computed, id, record, apart, (Dict.get_set_of_ne _ apart _).trans held, executed⟩
    · intro all
      have executed := all dispatch own
      rw [neither.2] at executed
      cases executed

theorem Calm.truthful {entry : SignalEntry} {accountId : String} (calm : entry.Calm accountId) :
    entry.Truthful := by
  rcases calm with validated | ⟨part, id, record, -, held, executed⟩
  · constructor <;> intro other <;> rw [validated] at other <;> cases other
  · exact ⟨fun other => (by rw [part] at other; cases other),
      fun _ => ⟨record, (Dict.mem_values_iff _ _).mpr ⟨id, held⟩, executed⟩,
      fun other => (by rw [part] at other; cases other)⟩

/-- A change of the record of the account keeps the status calm. -/
theorem Calm.setAccount {entry : SignalEntry} {dispatch : AccountDispatch}
    (calm : entry.Calm dispatch.accountId) :
    (entry.setAccount dispatch).Calm dispatch.accountId := by
  rcases calm with validated | ⟨part, id, record, apart, held, executed⟩
  · exact .inl validated
  · exact .inr ⟨part, id, record, apart, (Dict.get_set_of_ne _ apart _).trans held, executed⟩

end SignalEntry

/-! ## The ledger during a visit -/

namespace FanoutLedger

variable {ledger : FanoutLedger}

theorem get_changeEntry (ledger : FanoutLedger) (signalId : String)
    (change : SignalEntry → SignalEntry) (other : String) :
    (ledger.changeEntry signalId change).signals.get other =
      if other = signalId then (ledger.signals.get signalId).map change
      else ledger.signals.get other := by
  unfold changeEntry
  cases held : ledger.signals.get signalId with
  | none =>
      by_cases here : other = signalId
      · rw [if_pos here, here, held]
        rfl
      · rw [if_neg here]
  | some entry => exact Dict.get_set _ _ _ _

theorem truthful_iff :
    ledger.Truthful ↔ ∀ id entry, ledger.signals.get id = some entry → entry.Truthful := by
  unfold Truthful
  simp only [Dict.mem_values_iff]
  constructor
  · intro truthful id entry held
    exact truthful entry ⟨id, held⟩
  · rintro truthful entry ⟨id, held⟩
    exact truthful id entry held

/-- A changed entry decides whether the statuses stay truthful. -/
theorem Truthful.changeEntry_iff (truthful : ledger.Truthful) (signalId : String)
    (change : SignalEntry → SignalEntry) :
    (ledger.changeEntry signalId change).Truthful ↔
      ∀ entry, ledger.signals.get signalId = some entry → (change entry).Truthful := by
  rw [truthful_iff] at truthful ⊢
  simp only [get_changeEntry]
  constructor
  · intro all entry held
    exact all signalId (change entry) (by rw [if_pos rfl, held]; rfl)
  · intro changed id entry held
    by_cases here : id = signalId
    · rw [if_pos here, Option.map_eq_some_iff] at held
      obtain ⟨before, found, rfl⟩ := held
      exact changed before found
    · rw [if_neg here] at held
      exact truthful id entry held

/-- All orders have come to an end. -/
def Settled (ledger : FanoutLedger) : Prop :=
  ∀ key record, ledger.recordAt key = some record → record.status.terminal = true

theorem recordAt_of_get {signalId accountId : String} {entry : SignalEntry}
    {record : AccountDispatch} (held : ledger.signals.get signalId = some entry)
    (found : entry.accounts.get accountId = some record) :
    ledger.recordAt (signalId, accountId) = some record := by
  simp only [recordAt, getAccountDispatch, held, Option.bind_some, found]

theorem Settled.entry (settled : ledger.Settled) {signalId : String} {entry : SignalEntry}
    (held : ledger.signals.get signalId = some entry) : entry.Settled := by
  intro record member
  obtain ⟨accountId, found⟩ := (Dict.mem_values_iff _ _).mp member
  exact settled _ record (recordAt_of_get held found)

end FanoutLedger

/-- The event changes no signal and computes no status. -/
def FanoutEvent.InPlace : FanoutEvent → Prop
  | changed _ | judged _ _ _ | executed _ _ => True
  | registered _ | upserted _ => False

/-- The account under a key is being visited: the status of its signal is left to the others. -/
structure Visiting (key : String × String) (ledger : FanoutLedger) : Prop where
  truthful : ledger.Truthful
  calm : ∀ entry, ledger.signals.get key.1 = some entry → entry.Calm key.2

section Visit

variable {key : String × String} {ledger : FanoutLedger}

/-- A change in place during a visit. -/
theorem Visiting.apply (visiting : Visiting key ledger) {event : FanoutEvent}
    (inPlace : event.InPlace)
    (concerns : ∀ dispatch, event.recorded = some dispatch → dispatch.key = key) :
    Visiting key (ledger.apply event) := by
  cases event with
  | registered | upserted => exact absurd inPlace not_false
  | judged | executed => exact visiting
  | changed dispatch =>
      have named := concerns dispatch rfl
      subst named
      have changed : ∀ entry, ledger.signals.get dispatch.signalId = some entry →
          (entry.setAccount dispatch).Calm dispatch.accountId :=
        fun entry held => (visiting.calm entry held).setAccount
      constructor
      · exact (visiting.truthful.changeEntry_iff _ _).mpr
          fun entry held => (changed entry held).truthful
      · intro entry held
        rw [FanoutLedger.apply, FanoutLedger.get_changeEntry, AccountDispatch.key, if_pos rfl,
          Option.map_eq_some_iff] at held
        obtain ⟨before, found, rfl⟩ := held
        exact changed before found

theorem replay_steps (ledger : FanoutLedger) (events : List FanoutEvent) :
    Run.after FanoutLedger.step ledger (events.map .event) = ledger.replay events := by
  unfold Run.after FanoutLedger.replay
  rw [List.foldl_map]
  rfl

/-- Changes in place during a visit. -/
theorem Visiting.replay (visiting : Visiting key ledger) {events : List FanoutEvent}
    (inPlace : ∀ event ∈ events, event.InPlace)
    (concerns : ∀ event ∈ events, ∀ dispatch, event.recorded = some dispatch →
      dispatch.key = key) :
    Visiting key (ledger.replay events) ∧
      Run.Every FanoutLedger.step TruthfulAfter ledger (events.map .event) := by
  induction events generalizing ledger with
  | nil => exact ⟨visiting, trivial⟩
  | cons event rest ih =>
      have after := visiting.apply (inPlace event List.mem_cons_self)
        (concerns event List.mem_cons_self)
      obtain ⟨later, truthful⟩ := ih after
        (fun other member => inPlace other (.tail _ member))
        (fun other member => concerns other (.tail _ member))
      exact ⟨later, after.truthful, truthful⟩

end Visit

/-! ## The events of a visit -/

/-- An order under way changes its record in place. -/
def ChangesInPlace (process : AccountProcess) : Prop :=
  ∀ event ∈ process.events, event.InPlace

/-- An outcome after changes in place. -/
def EndsInPlace (outcome : AccountOutcome) : Prop :=
  ChangesInPlace outcome.process

section Stages

variable {process : AccountProcess}

theorem changesInPlace_start (dispatch : AccountDispatch) : ChangesInPlace ⟨dispatch, []⟩ :=
  fun _ absent => absurd absent List.not_mem_nil

theorem ChangesInPlace.append {events : List FanoutEvent}
    (inPlace : ∀ event ∈ events, event.InPlace) (event : FanoutEvent) (next : event.InPlace) :
    ∀ other ∈ events ++ [event], other.InPlace := by
  intro other member
  rcases List.mem_append.mp member with before | last
  · exact inPlace other before
  · rwa [List.mem_singleton.mp last]

theorem ChangesInPlace.change (inPlace : ChangesInPlace process) (dispatch : AccountDispatch) :
    ChangesInPlace (process.change dispatch) :=
  ChangesInPlace.append inPlace (.changed dispatch) trivial

theorem ChangesInPlace.judged (inPlace : ChangesInPlace process) (accountId : String)
    (proposal : AccountProposal) (approved : Bool) :
    ChangesInPlace (process.note (.judged accountId proposal approved)) :=
  ChangesInPlace.append inPlace (.judged accountId proposal approved) trivial

theorem ChangesInPlace.executed (inPlace : ChangesInPlace process) (dispatch : AccountDispatch)
    (request : OrderRequest) : ChangesInPlace (process.note (.executed dispatch request)) :=
  ChangesInPlace.append inPlace (.executed dispatch request) trivial

variable (parts : FanoutParts) (signal : CanonicalSignal) (target : FanoutTarget)

theorem passAccountGate_inPlace (proposal : AccountProposal) (inPlace : ChangesInPlace process) :
    (passAccountGate parts target proposal process).Satisfies EndsInPlace ChangesInPlace := by
  unfold passAccountGate
  dsimp only
  split
  · exact (inPlace.judged _ _ _).change _
  · exact (inPlace.judged _ _ _).change _

theorem findEngine_inPlace (inPlace : ChangesInPlace process) :
    (findEngine parts process).Satisfies EndsInPlace fun found => ChangesInPlace found.2 := by
  unfold findEngine
  split
  · exact inPlace.change _
  · exact inPlace.change _

theorem findRequest_inPlace (accountId : String) (proposal : AccountProposal)
    (inPlace : ChangesInPlace process) :
    (findRequest parts signal accountId proposal process).Satisfies EndsInPlace
      fun _ => True := by
  unfold findRequest
  split
  · exact inPlace.change _
  · trivial

theorem passFinalGate_inPlace (request : OrderRequest) (proposal : AccountProposal)
    (inPlace : ChangesInPlace process) :
    (passFinalGate parts target request proposal process).Satisfies EndsInPlace
      fun passed => ChangesInPlace passed.2 := by
  unfold passFinalGate
  dsimp only
  split
  · split
    · exact inPlace.judged _ _ _
    · exact (inPlace.judged _ _ _).change _
  · exact inPlace

theorem send_inPlace (execute : OrderRequest → Except String ExecutionReply)
    (request : OrderRequest) (inPlace : ChangesInPlace process) :
    EndsInPlace (send execute request process) := by
  have gone := inPlace.executed process.dispatch request
  unfold send
  dsimp only
  split
  · exact gone
  · split
    · exact (gone.change _).change _
    · exact (gone.change _).change _

theorem processAccount_inPlace (raw : Option RawProposal) (dispatch : AccountDispatch) :
    EndsInPlace (processAccount parts signal target raw dispatch) := by
  have recorded : ChangesInPlace
      (recordProposal (normalize parts signal raw) ⟨dispatch, []⟩) :=
    (changesInPlace_start dispatch).change _
  apply Stage.Satisfies.outcome
  refine Stage.Satisfies.bind (passAccountGate_inPlace parts target _ recorded) ?_
  intro process inPlace
  apply Stage.Satisfies.bind (findEngine_inPlace parts inPlace)
  rintro ⟨execute, process⟩ inPlace
  apply Stage.Satisfies.bind (findRequest_inPlace parts signal _ _ inPlace)
  intro request _
  apply Stage.Satisfies.bind (passFinalGate_inPlace parts target request _ inPlace)
  rintro ⟨proposal, process⟩ inPlace
  exact send_inPlace execute request (inPlace.change _)

theorem visitTarget_inPlace (connected : Bool) (raw : Option RawProposal) :
    ChangesInPlace (visitTarget connected parts signal target raw) := by
  unfold visitTarget
  dsimp only
  split
  · exact (changesInPlace_start _).change _
  · have inPlace := processAccount_inPlace parts signal target raw (placeholder signal target)
    split
    · exact inPlace
    · exact ChangesInPlace.change inPlace _

end Stages

/-! ## One visit -/

/-- On steps that are truthful up to here, truth and the condition agree. -/
def Agree (ledger : FanoutLedger) (steps : List LedgerStep) : Prop :=
  Run.Every FanoutLedger.step TruthfulAfter ledger steps ↔
    Run.Every FanoutLedger.step OpensAccompanied ledger steps

theorem truthful_after {ledger : FanoutLedger} (truthful : ledger.Truthful)
    {steps : List LedgerStep}
    (every : Run.Every FanoutLedger.step TruthfulAfter ledger steps) :
    (Run.after FanoutLedger.step ledger steps).Truthful :=
  every.after FanoutLedger.Truthful truthful fun _ _ _ after => after

/-- Truth and the condition agree on a run in two parts. -/
theorem Agree.append {ledger : FanoutLedger} {first second : List LedgerStep}
    (truthful : ledger.Truthful) (before : Agree ledger first)
    (later : (Run.after FanoutLedger.step ledger first).Truthful →
      Agree (Run.after FanoutLedger.step ledger first) second) :
    Agree ledger (first ++ second) := by
  unfold Agree
  rw [Run.every_append, Run.every_append]
  constructor
  · rintro ⟨here, onwards⟩
    exact ⟨before.mp here, (later (truthful_after truthful here)).mp onwards⟩
  · rintro ⟨here, onwards⟩
    have started := before.mpr here
    exact ⟨started, (later (truthful_after truthful started)).mpr onwards⟩

theorem opensAccompanied_inPlace {ledger : FanoutLedger} {events : List FanoutEvent}
    (inPlace : ∀ event ∈ events, event.InPlace) :
    Run.Every FanoutLedger.step OpensAccompanied ledger (events.map .event) := by
  induction events generalizing ledger with
  | nil => trivial
  | cons event rest ih =>
      refine ⟨?_, ih fun other member => inPlace other (.tail _ member)⟩
      have first := inPlace event List.mem_cons_self
      cases event with
      | registered | upserted => exact absurd first not_false
      | changed | judged | executed => trivial

/-- The events of the visit of one account. -/
def visitEvents (dispatch : AccountDispatch) (process : AccountProcess) : List FanoutEvent :=
  FanoutEvent.upserted dispatch :: process.events ++ [FanoutEvent.upserted process.dispatch]

section Visits

variable {ledger : FanoutLedger} {dispatch : AccountDispatch} {process : AccountProcess}

theorem FanoutLedger.recordAt_replay_of_ne {events : List FanoutEvent} {key other : String × String}
    (concerns : ∀ event ∈ events, ∀ dispatch, event.recorded = some dispatch →
      dispatch.key = key) (apart : other ≠ key) :
    (ledger.replay events).recordAt other = ledger.recordAt other := by
  induction events generalizing ledger with
  | nil => rfl
  | cons event rest ih =>
      refine (ih fun next member => concerns next (.tail _ member)).trans ?_
      rcases FanoutLedger.recordAt_apply ledger event other with
        unchanged | ⟨dispatch, recorded, here, -⟩
      · exact unchanged
      · exact absurd (here.trans (concerns event List.mem_cons_self dispatch recorded)) apart

theorem Concluded.concerns (concluded : Concluded dispatch.key process) :
    (∀ event ∈ process.events, ∀ record, event.recorded = some record →
      record.key = dispatch.key) ∧
      process.dispatch.key = dispatch.key ∧ process.dispatch.status.terminal = true := by
  obtain ⟨sent, earlier, final, underway, rfl, named, ended⟩ := concluded
  refine ⟨?_, named, ended.terminal⟩
  intro event member record recorded
  rcases List.mem_append.mp member with before | last
  · exact (underway.records event before record recorded).1
  · cases List.mem_singleton.mp last
    cases recorded
    exact named

/-- A visit settles the ledger again. -/
theorem visit_settled (settled : ledger.Settled)
    (registered : ledger.signals.contains dispatch.signalId = true)
    (concluded : Concluded dispatch.key process) :
    (ledger.replay (visitEvents dispatch process)).Settled := by
  obtain ⟨concerns, named, ended⟩ := concluded.concerns
  intro key record held
  by_cases here : key = dispatch.key
  · unfold visitEvents at held
    rw [FanoutLedger.replay_append] at held
    have known : (ledger.replay (.upserted dispatch :: process.events)).signals.contains
        process.dispatch.signalId = true := by
      rw [show process.dispatch.signalId = dispatch.signalId from congrArg Prod.fst named]
      exact FanoutLedger.contains_replay _ _ registered
    have stored := FanoutLedger.recordAt_upserted known
    rw [here, ← named] at held
    cases stored.symm.trans held
    exact ended
  · rw [FanoutLedger.recordAt_replay_of_ne ?_ here] at held
    · exact settled key record held
    · intro event member other recorded
      rcases List.mem_append.mp member with before | last
      · rcases List.mem_cons.mp before with rfl | later
        · cases recorded
          rfl
        · exact concerns event later other recorded
      · cases List.mem_singleton.mp last
        cases recorded
        exact named

/-- Truth and the condition agree on a visit. -/
theorem visit_agree (settled : ledger.Settled) (truthful : ledger.Truthful)
    (pending : dispatch.status = .pending) (unknown : ledger.recordAt dispatch.key = none)
    (registered : ledger.signals.contains dispatch.signalId = true)
    (inPlace : ChangesInPlace process) (concluded : Concluded dispatch.key process) :
    Agree ledger ((visitEvents dispatch process).map .event) := by
  obtain ⟨concerns, named, ended⟩ := concluded.concerns
  have open_ : dispatch.status.terminal = false := by
    rw [pending]
    rfl
  have first : TruthfulAfter ledger (.event (.upserted dispatch)) ↔
      OpensAccompanied ledger (.event (.upserted dispatch)) := by
    refine (truthful.changeEntry_iff _ _).trans (Iff.trans ?_ (forall_prop_of_true open_).symm)
    refine forall₂_congr fun entry held => ?_
    apply (settled.entry held).truthful_rollup_iff pending
    simpa only [FanoutLedger.recordAt, FanoutLedger.getAccountDispatch, AccountDispatch.key, held,
      Option.bind_some] using unknown
  unfold Agree visitEvents
  rw [List.map_append, List.map_cons, List.cons_append, Run.Every, Run.Every, Run.every_append,
    Run.every_append]
  constructor
  · rintro ⟨now, -⟩
    refine ⟨first.mp now, opensAccompanied_inPlace inPlace, ?_, trivial⟩
    intro unended
    exact absurd (unended.symm.trans ended) Bool.false_ne_true
  · rintro ⟨now, -⟩
    have start : Visiting dispatch.key (ledger.apply (.upserted dispatch)) := by
      refine ⟨first.mpr now, fun entry held => ?_⟩
      rw [FanoutLedger.apply, FanoutLedger.get_changeEntry, AccountDispatch.key, if_pos rfl,
        Option.map_eq_some_iff] at held
      obtain ⟨before, found, rfl⟩ := held
      exact (now open_ before found).calm pending
    obtain ⟨visiting, during⟩ := start.replay inPlace concerns
    refine ⟨start.truthful, during, ?_, trivial⟩
    change ((Run.after FanoutLedger.step _ _).apply _).Truthful
    rw [replay_steps]
    refine (visiting.truthful.changeEntry_iff _ _).mpr fun entry held => ?_
    -- The record of every account has come to an end when the status is computed again.
    have ends := visit_settled settled registered concluded
    unfold visitEvents at ends
    rw [FanoutLedger.replay_append] at ends
    have last : ((entry.setAccount process.dispatch).rollup).Settled := by
      refine ends.entry ((FanoutLedger.get_changeEntry _ _ _ process.dispatch.signalId).trans ?_)
      rw [if_pos rfl]
      exact congrArg _ held
    exact SignalEntry.Settled.truthful_rollup last

end Visits

/-! ## Every call -/

/-- Events on a ledger: truth and the condition agree on them, and after them all orders have
come to an end. -/
structure Followed (start : FanoutLedger) (events : List FanoutEvent) (ledger : FanoutLedger) :
    Prop where
  replayed : start.replay events = ledger
  settled : ledger.Settled
  agree : Agree start (events.map .event)

theorem Followed.append {start ledger : FanoutLedger} {before events : List FanoutEvent}
    (followed : Followed start before ledger) (truthful : start.Truthful)
    (settles : (ledger.replay events).Settled)
    (agrees : ledger.Truthful → Agree ledger (events.map .event)) :
    Followed start (before ++ events) (ledger.replay events) := by
  refine ⟨?_, settles, ?_⟩
  · rw [FanoutLedger.replay_append, followed.replayed]
  · rw [List.map_append]
    apply followed.agree.append truthful
    rw [replay_steps, followed.replayed]
    exact agrees

section Course

variable (connected : Bool) (raw : Option RawProposal)
variable {signal : CanonicalSignal} {start : FanoutLedger} {course : FanoutCourse}

theorem Followed.fanOutTo (followed : Followed start course.events course.ledger)
    (registered : course.ledger.signals.contains signal.signalId = true)
    (truthful : start.Truthful) (parts : FanoutParts) (target : FanoutTarget) :
    let next := fanOutTo connected parts signal raw course target
    Followed start next.events next.ledger ∧
      next.ledger.signals.contains signal.signalId = true := by
  unfold CanonicalFanout.fanOutTo
  dsimp only
  split
  · exact ⟨followed, registered⟩
  · split
    · exact ⟨followed, registered⟩
    · rename_i unended
      have concluded := visitTarget_concluded parts signal target connected raw
      have inPlace := visitTarget_inPlace parts signal target connected raw
      have unknown : course.ledger.recordAt (placeholder signal target).key = none := by
        cases found : course.ledger.recordAt (placeholder signal target).key with
        | none => rfl
        | some held =>
            have ended := followed.settled _ held found
            unfold FanoutLedger.recordAt at found
            simp only [placeholder, AccountDispatch.key] at found
            rw [found] at unended
            simp [ended] at unended
      generalize visitTarget connected parts signal target raw = visit at concluded inPlace ⊢
      have same := FanoutCourse.count_keeps (course.emit (visitEvents (placeholder signal target)
        visit)) visit.dispatch.status
      unfold visitEvents at same
      simp only [FanoutCourse.addRow]
      rw [same.1, same.2.1]
      exact ⟨followed.append truthful (visit_settled followed.settled registered concluded)
          fun truthful => visit_agree followed.settled truthful rfl unknown registered inPlace
            concluded,
        FanoutLedger.contains_replay _ _ registered⟩

theorem Followed.fanOutFrom (followed : Followed start course.events course.ledger)
    (registered : course.ledger.signals.contains signal.signalId = true)
    (truthful : start.Truthful) (parts : Nat → FanoutParts) (position : Nat)
    (targets : List FanoutTarget) :
    let next := fanOutFrom connected parts signal raw course position targets
    Followed start next.events next.ledger := by
  induction targets generalizing course position with
  | nil => exact followed
  | cons target rest ih =>
      have next := followed.fanOutTo connected raw registered truthful (parts position) target
      exact ih next.1 next.2 _

end Course

section Calls

variable {ledger : FanoutLedger}

theorem FanoutLedger.Truthful.registerSignal (truthful : ledger.Truthful)
    (signal : CanonicalSignal) : (ledger.registerSignal signal).Truthful := by
  rw [FanoutLedger.truthful_iff] at truthful ⊢
  unfold FanoutLedger.registerSignal
  split
  · exact truthful
  · intro id entry held
    rw [Dict.get_set] at held
    split at held
    · cases held
      constructor <;> intro other <;> cases other
    · exact truthful id entry held

theorem FanoutLedger.Settled.registerSignal (settled : ledger.Settled)
    (signal : CanonicalSignal) : (ledger.registerSignal signal).Settled := by
  intro key record held
  rcases FanoutLedger.recordAt_apply ledger (.registered signal) key with
    unchanged | ⟨dispatch, recorded, -, -⟩
  · exact settled key record (unchanged.symm.trans held)
  · cases recorded

theorem startCourse_followed (settled : ledger.Settled) (truthful : ledger.Truthful)
    (signal : CanonicalSignal) :
    Followed ledger (startCourse ledger signal).events (startCourse ledger signal).ledger :=
  ⟨rfl, settled.registerSignal signal,
    iff_of_true ⟨truthful.registerSignal signal, trivial⟩ ⟨trivial, trivial⟩⟩

theorem FanoutLedger.setSignalStatus_keeps {next : FanoutLedger} {signalId : String}
    {status : SignalStatus} (set : ledger.setSignalStatus signalId status = .ok next)
    (settled : ledger.Settled) (truthful : ledger.Truthful) :
    next.Settled ∧ next.Truthful := by
  unfold FanoutLedger.setSignalStatus at set
  split at set
  · rename_i allowed
    cases set
    constructor
    · intro key record held
      have same : (ledger.changeEntry signalId fun entry =>
          { entry with signalStatus := status }).recordAt key = ledger.recordAt key := by
        unfold FanoutLedger.recordAt FanoutLedger.getAccountDispatch
        rw [FanoutLedger.get_changeEntry]
        split
        · rename_i here
          rw [here]
          cases ledger.signals.get signalId <;> rfl
        · rfl
      exact settled key record (same.symm.trans held)
    · refine (truthful.changeEntry_iff _ _).mpr fun entry _ => ?_
      rcases allowed with rfl | rfl <;> constructor <;> intro other <;> cases other
  · cases set

theorem empty_steady : FanoutLedger.empty.Settled ∧ FanoutLedger.empty.Truthful := by
  constructor
  · intro key record held
    cases held
  · intro entry member
    cases member

/-- Truth and the condition agree on the steps of a call, which leave all orders at an end. -/
theorem RollupCall.agree (settled : ledger.Settled) (truthful : ledger.Truthful)
    (call : RollupCall) :
    Agree ledger (call.steps ledger) ∧
      (Run.after FanoutLedger.step ledger (call.steps ledger)).Settled := by
  cases call with
  | fanOut call =>
      have followed := (startCourse_followed settled truthful call.signal).fanOutFrom
        call.connected call.raw (ledger.contains_registerSignal call.signal) truthful call.parts 0
        call.targets
      refine ⟨followed.agree, ?_⟩
      rw [RollupCall.steps, replay_steps, CanonicalFanout.fanOut, followed.replayed]
      exact followed.settled
  | setSignalStatus signalId status =>
      have kept : (ledger.step (.setSignalStatus signalId status)).Settled ∧
          (ledger.step (.setSignalStatus signalId status)).Truthful := by
        dsimp only [FanoutLedger.step]
        cases set : ledger.setSignalStatus signalId status with
        | ok next => exact FanoutLedger.setSignalStatus_keeps set settled truthful
        | error => exact ⟨settled, truthful⟩
      exact ⟨iff_of_true ⟨kept.2, trivial⟩ ⟨trivial, trivial⟩, kept.1⟩
  | reset => exact ⟨iff_of_true ⟨empty_steady.2, trivial⟩ ⟨trivial, trivial⟩, empty_steady.1⟩

theorem stepsOf_agree (settled : ledger.Settled) (truthful : ledger.Truthful)
    (calls : List RollupCall) : Agree ledger (stepsOf ledger calls) := by
  induction calls generalizing ledger with
  | nil => exact Iff.rfl
  | cons call rest ih =>
      have called := RollupCall.agree settled truthful call
      exact called.1.append truthful fun truthful => ih called.2 truthful

end Calls

/-- The status of every signal is truthful after every step of every sequence of calls if and
only if every open record is put into the ledger when its signal has no other account, or an
executed one. -/
theorem every_truthful_iff (calls : List RollupCall) :
    Run.Every FanoutLedger.step TruthfulAfter FanoutLedger.empty
        (stepsOf FanoutLedger.empty calls) ↔
      Run.Every FanoutLedger.step OpensAccompanied FanoutLedger.empty
        (stepsOf FanoutLedger.empty calls) :=
  stepsOf_agree empty_steady.1 empty_steady.2 calls

namespace Sample

/-- A fan-out to two accounts, of which the gate rejects the first. -/
def rejectedFirst : FanoutCall where
  connected := false
  parts := fun position =>
    if position = 0 then
      { fanoutParts with riskGate := some fun _ _ _ _ => .ok ⟨false, "too much risk"⟩ }
    else fanoutParts
  signal := signal
  targets := [fanoutTarget,
    { fanoutTarget with account := fanoutTarget.account.set "login" (.int 222) }]
  raw := some rawProposal

end Sample

/-- When the second account is about to be visited, the signal is shown as executed in part and
no account has executed it. -/
theorem rejected_first_untruthful :
    ¬ Run.Every FanoutLedger.step TruthfulAfter FanoutLedger.empty
      (stepsOf FanoutLedger.empty [.fanOut Sample.rejectedFirst]) := by
  decide +kernel

end EaBot.Execution
