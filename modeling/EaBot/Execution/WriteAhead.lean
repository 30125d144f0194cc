import EaBot.Execution.AtMostOnce
import EaBot.Execution.Fanout

/-!
# Write-ahead on both dispatch paths

On the single path every submission to a broker follows a durable record of its order,
and a call whose order has such a record sends nothing.  The fan-out path writes no
record and checks none, so each of its submissions breaks one of the two promises.  A
sequence of calls therefore keeps them exactly when no fan-out in it reaches a
terminal.
-/

namespace EaBot.Execution

open EaBot.Foundation EaBot.Persistence Program

/-- A call of either dispatch path. -/
inductive EngineCall
  | single (surroundings : Surroundings) (request : OrderRequest)
  | fanout (surroundings : FanoutSurroundings) (request : OrderRequest)
      (targets : Option (List Target)) (riskPrice tpPrice : ℚ)

namespace EngineCall

/-- The key of the call's order. -/
def key : EngineCall → String
  | single surroundings request => callKey surroundings request
  | fanout _ request _ _ _ => request.idempotencyKey

/-- The state after a call. -/
def perform (config : EngineConfig) (caller : Nat) (world : World) : EngineCall → World
  | single surroundings request =>
      ((executeOrder config surroundings caller request).run world).2
  | fanout surroundings request targets riskPrice tpPrice =>
      ((executeOrderFanout config surroundings caller request targets riskPrice tpPrice).run
        world).2

/-- Whether the call is a fan-out that sends an order to some terminal. -/
def reachesTerminal (config : EngineConfig) : EngineCall → Bool
  | single _ _ => false
  | fanout surroundings request targets riskPrice tpPrice =>
      Execution.reachesTerminal config surroundings request targets riskPrice tpPrice

end EngineCall

/-- Whether an event submits an order to a broker without a durable record of it. -/
def Event.sendsUnrecorded : Event → Bool
  | dispatched _ _ route durable _ => route.reachesBroker && !durable
  | _ => false

/-- Whether an event submits an order to a broker. -/
def Event.sends : Event → Bool
  | dispatched _ _ route _ _ => route.reachesBroker
  | _ => false

/-- The state in which a call starts, with a log of its own. -/
def World.quiet (world : World) : World :=
  { world with log := [] }

/-- Every submission of the call follows a durable record of its order, and the call
sends nothing when there was such a record before it. -/
def WritesAhead (config : EngineConfig) (caller : Nat) (world : World) (call : EngineCall) :
    Prop :=
  let log := (call.perform config caller world.quiet).log
  (∀ event ∈ log, event.sendsUnrecorded = false) ∧
    (world.ledger.durableBeyond call.key = true → ∀ event ∈ log, event.sends = false)

instance (config : EngineConfig) (caller : Nat) (world : World) (call : EngineCall) :
    Decidable (WritesAhead config caller world call) :=
  inferInstanceAs (Decidable ((∀ event ∈ _, _) ∧ (_ → ∀ event ∈ _, _)))

/-- Every call of a sequence writes ahead. -/
def AlwaysWritesAhead (config : EngineConfig) : Nat → World → List EngineCall → Prop
  | _, _, [] => True
  | caller, world, call :: rest =>
      WritesAhead config caller world call ∧
        AlwaysWritesAhead config (caller + 1) (call.perform config caller world.quiet) rest

/-! ## The single path -/

/-- The submissions so far follow a durable record. -/
def Ahead (caller : Nat) (key : String) (phase : Phase) (world : World) : Prop :=
  CallInvariant caller key phase world ∧ ∀ event ∈ world.log, event.sendsUnrecorded = false

theorem ahead_kept (caller : Nat) {key : String} (nonempty : key ≠ "") :
    Kept (Moves true caller key) (Ahead caller key) := by
  rintro phase before next after moved ⟨invariant, ahead⟩
  refine ⟨invariant.step nonempty moved, ?_⟩
  cases moved with
  | keep ledger log => rwa [log]
  | enter healthy => exact ahead
  | check => simpa [World.record, Event.sendsUnrecorded] using ahead
  | write keeps leads => simpa [World.setOrder, World.record, Event.sendsUnrecorded] using ahead
  | dispatch =>
      have durable := invariant.established.1
      simpa [World.dispatch, World.record, Event.sendsUnrecorded, durable] using ahead
  | leave => simpa [World.record, Event.sendsUnrecorded] using ahead

/-- A call whose order is durable has passed no check and sent nothing. -/
structure Stopped (caller : Nat) (key : String) (phase : Phase) (world : World) : Prop where
  invariant : CallInvariant caller key phase world
  durable : world.ledger.durableBeyond key = true
  phase : phase = .opened ∨ phase = .ready ∨ phase = .finished
  silent : ∀ event ∈ world.log, event.sends = false

theorem stopped_kept (caller : Nat) {key : String} (nonempty : key ≠ "") :
    Kept (Moves true caller key) (Stopped caller key) := by
  rintro phase before next after moved ⟨invariant, durable, early, silent⟩
  have stepped := invariant.step nonempty moved
  cases moved with
  | keep ledger log => exact ⟨stepped, by rwa [ledger], early, by rwa [log]⟩
  | enter healthy => exact ⟨stepped, durable, .inr (.inl rfl), silent⟩
  | check =>
      refine ⟨stepped, durable, ?_, by simpa [World.record, Event.sends] using silent⟩
      cases passed : before.isDuplicate key with
      | true => exact .inr (.inr rfl)
      | false =>
          have fresh := invariant.recorded.not_durable_of_not_duplicate invariant.established
            nonempty passed
          exact absurd durable (Bool.eq_false_iff.mp fresh)
  | @write _ _ _ state extra keeps leads =>
      have known : (before.ledger.setOrder key state.value extra).2.durableBeyond key = _ :=
        Ledger.setOrder_durableBeyond invariant.recorded.keyed keeps key
      have quiet : ∀ event ∈ (before.setOrder caller key state extra).2.log,
          event.sends = false := by
        simpa [World.setOrder, World.record, Event.sends] using silent
      rcases writeLeads_cases leads with ⟨rfl, beyond⟩ | ⟨rfl, -⟩ | ⟨rfl, -⟩ | ⟨rfl, -⟩ | ⟨rfl, -⟩
      · refine ⟨stepped, ?_, .inr (.inr rfl), quiet⟩
        rw [World.setOrder, World.record]
        dsimp only
        rw [known]
        split
        · exact decide_eq_true beyond
        · exact durable
      all_goals rcases early with early | early | early <;> cases early
  | dispatch => rcases early with early | early | early <;> cases early
  | leave =>
      exact ⟨stepped, durable, .inr (.inr rfl), by simpa [World.record, Event.sends] using silent⟩

section Single

variable {config : EngineConfig} {world : World}

/-- Every call of the single path writes ahead and leaves the ledger recorded. -/
theorem single_writesAhead (required : config.requireDurableState = true) (caller : Nat)
    (surroundings : Surroundings) (request : OrderRequest)
    (recorded : Recorded world.ledger []) :
    WritesAhead config caller world (.single surroundings request) ∧
      Recorded ((EngineCall.single surroundings request).perform config caller
        world.quiet).ledger [] := by
  have nonempty := callKey_nonempty surroundings request
  have conforms := executeOrder_conforms config surroundings caller request
  rw [required] at conforms
  obtain ⟨_, final, ahead⟩ := conforms.run_keeps (ahead_kept caller nonempty)
    (show Ahead caller _ .opened world.quiet from
      ⟨⟨recorded, trivial⟩, fun _ absent => nomatch absent⟩)
  refine ⟨⟨ahead, fun durable => ?_⟩, final.recorded.keyed, final.recorded.remembered,
    fun _ _ absent => absurd absent dispatchedBy_nil,
    fun _ _ absent => absurd absent dispatchedBy_nil⟩
  obtain ⟨_, stopped⟩ := conforms.run_keeps (stopped_kept caller nonempty)
    (show Stopped caller _ .opened world.quiet from
      ⟨⟨recorded, trivial⟩, durable, .inl rfl, fun _ absent => nomatch absent⟩)
  exact stopped.silent

end Single

/-! ## The fan-out path -/

section Fanout

variable (config : EngineConfig) (surroundings : FanoutSurroundings) (caller : Nat)
variable (request : OrderRequest) (riskPrice tpPrice : ℚ)

/-- The visits leave the ledger alone and only add to the log: nothing when no order
can be prepared, and a submission otherwise. -/
theorem run_visitTerminals (targets : List Target) (number : Nat) (world : World) :
    let ended := ((visitTerminals config surroundings caller request riskPrice tpPrice number
      targets).run world).2
    ended.ledger = world.ledger ∧ (∀ event ∈ world.log, event ∈ ended.log) ∧
      (anyPrepared config surroundings request riskPrice tpPrice number targets = false →
        ended.log = world.log) ∧
      (anyPrepared config surroundings request riskPrice tpPrice number targets = true →
        ∃ submission, .dispatched caller request.idempotencyKey .terminal
          (world.ledger.durableBeyond request.idempotencyKey) submission ∈ ended.log) := by
  induction targets generalizing number world with
  | nil => exact ⟨rfl, fun _ member => member, fun _ => rfl, fun absent => nomatch absent⟩
  | cons target rest ih =>
      unfold visitTerminals anyPrepared dispatchToTerminal
      rw [run_bind, run_bind]
      cases prepared : prepareTerminal config (surroundings.visits number) target request
          riskPrice tpPrice with
      | error row =>
          obtain ⟨ledger, grows, silent, sends⟩ := ih (number + 1) world
          refine ⟨ledger, grows, fun none => silent ?_, fun some => sends ?_⟩
          · simpa [Except.isOk, Except.toBool] using none
          · simpa [Except.isOk, Except.toBool] using some
      | ok order =>
          obtain ⟨ledger, grows, -, -⟩ := ih (number + 1)
            (world.dispatch caller request.idempotencyKey .terminal order.submission)
          refine ⟨ledger, fun event member => grows event (List.mem_cons_of_mem _ member),
            fun none => ?_, fun _ => ⟨order.submission, grows _ List.mem_cons_self⟩⟩
          simp [Except.isOk, Except.toBool] at none

/-- Simulated fills leave the ledger alone and send nothing. -/
theorem run_simulateTerminals (targets : List Target) (number : Nat) (world : World) :
    let ended := ((simulateTerminals surroundings caller request number targets).run world).2
    ended.ledger = world.ledger ∧
      ((∀ event ∈ world.log, event.sends = false) → ∀ event ∈ ended.log, event.sends = false) := by
  induction targets generalizing number world with
  | nil => exact ⟨rfl, id⟩
  | cons target rest ih =>
      unfold simulateTerminals
      rw [run_bind, run_bind, run_bind]
      obtain ⟨ledger, silent⟩ := ih (number + 1) _
      refine ⟨ledger, fun before => silent ?_⟩
      intro event member
      rcases List.mem_cons.mp member with rfl | earlier
      · rfl
      · exact before event earlier

/-- A submission that no record precedes is a submission. -/
theorem sendsUnrecorded_of_not_sends {event : Event} (silent : event.sends = false) :
    event.sendsUnrecorded = false := by
  cases event with
  | dispatched caller key route durable submission =>
      have unsent : route.reachesBroker = false := silent
      simp [Event.sendsUnrecorded, unsent]
  | checked | wrote | returned => rfl

/-- An approved fan-out leaves the ledger alone, submits when a terminal is reached and
sends nothing otherwise. -/
theorem run_fanOut (targets : List Target) (world : World) :
    let ended := ((fanOut config surroundings caller request targets riskPrice tpPrice).run
      world.quiet).2
    ended.ledger = world.ledger ∧
      if surroundings.nativeAvailable && anyPrepared config surroundings request riskPrice tpPrice
          0 targets then
        ∃ submission, .dispatched caller request.idempotencyKey .terminal
          (world.ledger.durableBeyond request.idempotencyKey) submission ∈ ended.log
      else ∀ event ∈ ended.log, event.sends = false := by
  have empty : ∀ event ∈ world.quiet.log, event.sends = false := fun _ absent => nomatch absent
  unfold fanOut
  dsimp only
  cases targets with
  | nil =>
      refine ⟨rfl, ?_⟩
      rw [anyPrepared, Bool.and_false, if_neg Bool.false_ne_true]
      exact empty
  | cons target rest =>
      rw [if_neg (show ¬ (target :: rest).isEmpty = true from Bool.false_ne_true)]
      cases surroundings.nativeAvailable with
      | false =>
          rw [if_neg Bool.false_ne_true, Bool.false_and, if_neg Bool.false_ne_true]
          split
          · rw [run_bind]
            obtain ⟨ledger, silent⟩ := run_simulateTerminals surroundings caller request
              (target :: rest) 0 world.quiet
            exact ⟨ledger, silent empty⟩
          · exact ⟨rfl, empty⟩
      | true =>
          obtain ⟨ledger, -, silent, sends⟩ := run_visitTerminals config surroundings caller
            request riskPrice tpPrice (target :: rest) 0 world.quiet
          rw [if_pos rfl, Bool.true_and, run_bind]
          refine ⟨ledger, ?_⟩
          split
          · rename_i prepared
            exact sends prepared
          · rename_i unprepared
            have same := silent (Bool.eq_false_iff.mpr unprepared)
            intro event member
            exact empty event (same ▸ member)

/-- A fan-out writes ahead exactly when it reaches no terminal. -/
theorem fanout_writesAhead_iff (targets : Option (List Target)) (world : World) :
    WritesAhead config caller world (.fanout surroundings request targets riskPrice tpPrice) ↔
      reachesTerminal config surroundings request targets riskPrice tpPrice = false := by
  unfold WritesAhead EngineCall.perform executeOrderFanout reachesTerminal
  dsimp only
  cases unapproved : (config.requireApproval && !request.approved) with
  | true =>
      rw [if_pos rfl]
      exact iff_of_true ⟨fun _ absent => (nomatch absent), fun _ _ absent => (nomatch absent)⟩ rfl
  | false =>
      rw [if_neg Bool.false_ne_true, Bool.not_false, Bool.true_and]
      obtain ⟨-, log⟩ := run_fanOut config surroundings caller request riskPrice tpPrice
        (targets.getD surroundings.knownTargets) world
      split at log
      · rename_i reached
        obtain ⟨submission, member⟩ := log
        refine iff_of_false ?_ (by simp [reached])
        rintro ⟨recorded, silent⟩
        cases durable : world.ledger.durableBeyond request.idempotencyKey with
        | true => exact Bool.false_ne_true (silent durable _ member).symm
        | false =>
            have flagged := recorded _ member
            simp [Event.sendsUnrecorded, Route.reachesBroker, durable] at flagged
      · rename_i missed
        exact iff_of_true ⟨fun event member => sendsUnrecorded_of_not_sends (log event member),
          fun _ => log⟩ (Bool.eq_false_iff.mpr missed)

theorem fanout_ledger (targets : Option (List Target)) (world : World) :
    ((EngineCall.fanout surroundings request targets riskPrice tpPrice).perform config caller
      world.quiet).ledger = world.ledger := by
  unfold EngineCall.perform executeOrderFanout
  dsimp only
  split
  · rfl
  · exact (run_fanOut config surroundings caller request riskPrice tpPrice _ world).1

end Fanout

/-! ## Sequences of calls -/

/-- Starting on the file of a store, a sequence of calls of an engine that requires
durability writes ahead throughout exactly when no fan-out in it reaches a terminal. -/
theorem always_writesAhead_iff {config : EngineConfig}
    (required : config.requireDurableState = true) (file : OrderFile)
    (calls : List EngineCall) :
    AlwaysWritesAhead config 0 (World.start (Ledger.boot file none)) calls ↔
      ∀ call ∈ calls, call.reachesTerminal config = false := by
  have general : ∀ (caller : Nat) (world : World), Recorded world.ledger [] →
      (AlwaysWritesAhead config caller world calls ↔
        ∀ call ∈ calls, call.reachesTerminal config = false) := by
    induction calls with
    | nil => exact fun _ _ _ => iff_of_true trivial fun _ absent => nomatch absent
    | cons call rest ih =>
        intro caller world recorded
        rw [AlwaysWritesAhead, List.forall_mem_cons]
        cases call with
        | single surroundings request =>
            obtain ⟨ahead, after⟩ := single_writesAhead required caller surroundings request
              recorded
            exact and_congr (iff_of_true ahead rfl) (ih _ _ after)
        | fanout surroundings request targets riskPrice tpPrice =>
            refine and_congr (fanout_writesAhead_iff config surroundings caller
              request riskPrice tpPrice targets world) (ih _ _ ?_)
            rw [fanout_ledger]
            exact recorded
  exact general 0 _ (recorded_boot file none (fun _ _ absent => absurd absent dispatchedBy_nil)
    fun _ _ absent => absurd absent dispatchedBy_nil)

/-- An engine that requires durability. -/
def durableConfig : EngineConfig :=
  { Sample.config with requireDurableState := true }

/-- A terminal that attaches, quotes and fills. -/
def readyVisit : TerminalVisit where
  attached := .ok true
  resolved := .ok "EURUSD"
  tick := .ok (some ⟨.number ⟨11 / 10, "1.1"⟩, .number ⟨109 / 100, "1.09"⟩⟩)
  equity := .ok none
  sizing := .ok none
  clamping := .ok none
  reply := .ok (.mapping (Dict.empty.update [("success", .bool true), ("ticket", .int 8)]))

/-- A fan-out of the sample order to one ready terminal. -/
def sampleFanout : EngineCall :=
  .fanout ⟨true, [], fun _ => readyVisit, fun _ => 0⟩ Sample.request
    (some [⟨.int 1, .str "main", none, none, none⟩]) 0 0

/-- A fan-out submits without a record of its order, and submits again an order that the
single path has recorded and filled. -/
theorem fanout_does_not_write_ahead :
    ¬ AlwaysWritesAhead durableConfig 0 (World.start (Ledger.boot Sample.file none))
        [sampleFanout] ∧
      ¬ AlwaysWritesAhead durableConfig 0 (World.start (Ledger.boot Sample.file none))
        [.single Sample.surroundings Sample.request, sampleFanout] := by
  have unrecorded : ¬ WritesAhead durableConfig 0 (World.start (Ledger.boot Sample.file none))
      sampleFanout := by
    decide +kernel
  have repeated : ¬ WritesAhead durableConfig 1
      ((EngineCall.single Sample.surroundings Sample.request).perform durableConfig 0
        (World.start (Ledger.boot Sample.file none)).quiet) sampleFanout := by
    decide +kernel
  exact ⟨fun ahead => unrecorded ahead.1, fun ahead => repeated ahead.2.1⟩

/-- Calls of the single path alone write ahead. -/
theorem always_writesAhead_iff_sample :
    AlwaysWritesAhead durableConfig 0 (World.start (Ledger.boot Sample.file none))
      [.single Sample.surroundings Sample.request, .single Sample.surroundings Sample.request] :=
  (always_writesAhead_iff rfl Sample.file _).mpr (by decide)

end EaBot.Execution
