import EaBot.Execution.AtMostOnce

/-!
# Interleaved calls with one key

The duplicate check and the record that later checks can see are separate actions.
Between them lies a window in which a second caller passes the same check.  Two
callers that use it both dispatch; as long as no check falls into the window of
another caller, at most one caller does, however the rest of the calls interleaves.
-/

namespace EaBot.Execution

open EaBot.Foundation EaBot.Persistence Program

/-- The callers that have passed the duplicate check of a key and neither written a
state beyond the intent marker nor returned since. -/
def windows (key : String) : List Event → List Nat
  | [] => []
  | .checked caller name duplicate :: earlier =>
      if name = key ∧ !duplicate then caller :: windows key earlier else windows key earlier
  | .wrote caller name state _ :: earlier =>
      if name = key ∧ state ≠ .intentCreated then
        (windows key earlier).filter fun other => other ≠ caller
      else windows key earlier
  | .dispatched _ _ _ _ _ :: earlier => windows key earlier
  | .returned caller :: earlier => (windows key earlier).filter fun other => other ≠ caller

/-- No check of the key was made while the window of another caller was open. -/
def ChecksApart (key : String) : List Event → Prop
  | [] => True
  | .checked caller name _ :: earlier =>
      (name = key → ∀ other ∈ windows key earlier, other = caller) ∧ ChecksApart key earlier
  | .wrote _ _ _ _ :: earlier => ChecksApart key earlier
  | .dispatched _ _ _ _ _ :: earlier => ChecksApart key earlier
  | .returned _ :: earlier => ChecksApart key earlier

instance decidableChecksApart (key : String) :
    (log : List Event) → Decidable (ChecksApart key log)
  | [] => isTrue trivial
  | .checked _ _ _ :: earlier =>
      have := decidableChecksApart key earlier
      inferInstanceAs (Decidable ((_ → _) ∧ _))
  | .wrote _ _ _ _ :: earlier => decidableChecksApart key earlier
  | .dispatched _ _ _ _ _ :: earlier => decidableChecksApart key earlier
  | .returned _ :: earlier => decidableChecksApart key earlier

/-- A call that has passed the duplicate check and may still dispatch. -/
def Phase.Active (phase : Phase) : Prop :=
  phase = .cleared ∨ phase = .committed ∨ phase = .dispatching

@[simp]
theorem not_active_finished : ¬ Phase.finished.Active := by
  simp [Phase.Active]

@[simp]
theorem not_active_ready : ¬ Phase.ready.Active := by
  simp [Phase.Active]

/-- What the callers of one key have established, each in its own phase. -/
structure Separate (key : String) (phases : Nat → Phase) (world : World) : Prop where
  apart : ∀ first second, (phases first).Active → (phases second).Active → first = second
  beyond : ∀ caller, phases caller = .committed ∨ phases caller = .dispatching →
    world.ledger.memoryBeyond key = true
  sent : ∀ caller, DispatchedBy world.log caller key →
    world.ledger.memoryBeyond key = true ∧
      (phases caller = .dispatching ∨ phases caller = .finished) ∧
      ∀ other, (phases other).Active → other = caller
  unique : (dispatchers world.log key).Subsingleton
  window : ∀ caller, phases caller = .cleared → caller ∈ windows key world.log

section Step

variable {key : String} {phases : Nat → Phase} {world : World} {caller : Nat}

theorem Separate.not_dispatched_of_active (separate : Separate key phases world)
    (active : phases caller = .cleared ∨ phases caller = .committed) (other : Nat) :
    ¬ DispatchedBy world.log other key := by
  intro dispatched
  obtain ⟨-, progress, alone⟩ := separate.sent other dispatched
  have same : caller = other := alone caller (by unfold Phase.Active; tauto)
  subst same
  rcases active with here | here <;> rcases progress with there | there <;>
    rw [here] at there <;> cases there

/-- A caller that moves without becoming active changes nothing for the others.  It
may take the record back to the marker only while nothing has been dispatched. -/
theorem Separate.move {next : Phase} {after : World} (separate : Separate key phases world)
    (shrinks : next.Active → (phases caller).Active)
    (memory : ((phases caller).Active ∧ ∀ other, ¬ DispatchedBy world.log other key) ∨
      (world.ledger.memoryBeyond key = true → after.ledger.memoryBeyond key = true))
    (committed : next = .committed ∨ next = .dispatching →
      after.ledger.memoryBeyond key = true)
    (log : ∀ other, DispatchedBy after.log other key ↔ DispatchedBy world.log other key)
    (progress : DispatchedBy world.log caller key → next = .dispatching ∨ next = .finished)
    (windowSelf : next = .cleared → caller ∈ windows key after.log)
    (windowOthers : ∀ other, other ≠ caller →
      other ∈ windows key world.log → other ∈ windows key after.log) :
    Separate key (Function.update phases caller next) after := by
  have earlier : ∀ other, (Function.update phases caller next other).Active →
      (phases other).Active := by
    intro other active
    by_cases same : other = caller
    · subst same
      exact shrinks (by simpa using active)
    · simpa [same] using active
  refine ⟨?_, ?_, ?_, ?_, ?_⟩
  · intro first second byFirst bySecond
    exact separate.apart first second (earlier first byFirst) (earlier second bySecond)
  · intro other far
    by_cases same : other = caller
    · subst same
      exact committed (by simpa using far)
    · have far : phases other = .committed ∨ phases other = .dispatching := by
        simpa [same] using far
      rcases memory with ⟨active, -⟩ | kept
      · exact absurd (separate.apart other caller (Or.inr far) active) same
      · exact kept (separate.beyond other far)
  · intro other dispatched
    have before := (log other).mp dispatched
    obtain ⟨remembered, phase, alone⟩ := separate.sent other before
    have kept : after.ledger.memoryBeyond key = true := by
      rcases memory with ⟨-, undispatched⟩ | kept
      · exact absurd before (undispatched other)
      · exact kept remembered
    refine ⟨kept, ?_, fun active far => alone active (earlier active far)⟩
    by_cases same : other = caller
    · subst same
      simpa using progress before
    · simpa [same] using phase
  · intro first byFirst second bySecond
    exact separate.unique ((log first).mp byFirst) ((log second).mp bySecond)
  · intro other cleared
    by_cases same : other = caller
    · subst same
      exact windowSelf (by simpa using cleared)
    · exact windowOthers other same (separate.window other (by simpa [same] using cleared))

/-- The first caller to pass the check while no window is open is alone with it. -/
theorem Separate.pass (separate : Separate key phases world) (nonempty : key ≠ "")
    (passed : world.isDuplicate key = false)
    (closed : ∀ other ∈ windows key world.log, other = caller)
    (here : phases caller = .ready) :
    Separate key (Function.update phases caller .cleared)
      (world.record (.checked caller key false)) := by
  have fresh := memoryBeyond_of_not_duplicate nonempty passed
  have inactive : ∀ other, other ≠ caller → ¬ (phases other).Active := by
    rintro other different (cleared | far)
    · exact different (closed other (separate.window other cleared))
    · exact absurd (separate.beyond other far) (by simp [fresh])
  have undispatched : ∀ other, ¬ DispatchedBy (world.record (.checked caller key false)).log
      other key := by
    intro other dispatched
    exact absurd (separate.sent other (dispatchedBy_checked.mp dispatched)).1 (by simp [fresh])
  have alone : ∀ other, (Function.update phases caller .cleared other).Active →
      other = caller := by
    intro other active
    by_contra different
    exact inactive other different (by simpa [different] using active)
  refine ⟨?_, ?_, ?_, ?_, ?_⟩
  · intro first second byFirst bySecond
    rw [alone first byFirst, alone second bySecond]
  · intro other far
    have same := alone other (Or.inr far)
    subst same
    simp at far
  · exact fun other dispatched => absurd dispatched (undispatched other)
  · exact fun first byFirst => absurd byFirst (undispatched first)
  · intro other cleared
    have same := alone other (Or.inl cleared)
    subst same
    simp [World.record, windows]

/-- A dispatch by the only active caller makes it the only dispatcher. -/
theorem Separate.dispatch (separate : Separate key phases world) {route : Route}
    {submission : Submission} (here : phases caller = .dispatching) :
    Separate key (Function.update phases caller .dispatching)
      (world.dispatch caller key route submission) := by
  have active : (phases caller).Active := .inr (.inr here)
  have remembered := separate.beyond caller (.inr here)
  have alone : ∀ other, DispatchedBy (world.dispatch caller key route submission).log other key →
      other = caller := by
    intro other dispatched
    rcases dispatchedBy_dispatched.mp dispatched with ⟨same, -⟩ | earlier
    · exact same
    · exact ((separate.sent other earlier).2.2 caller active).symm
  rw [← here, Function.update_eq_self]
  refine ⟨separate.apart, separate.beyond, ?_, ?_, ?_⟩
  · intro other dispatched
    have same := alone other dispatched
    subst same
    exact ⟨remembered, .inl here, fun second far => separate.apart second other far active⟩
  · intro first byFirst second bySecond
    rw [alone first byFirst, alone second bySecond]
  · exact fun other cleared => separate.window other cleared

theorem mem_windows_wrote {other : Nat} (different : other ≠ caller) {state : OrderState}
    {persisted : Bool} {log : List Event} (opened : other ∈ windows key log) :
    other ∈ windows key (.wrote caller key state persisted :: log) := by
  unfold windows
  split
  · simpa [different] using opened
  · exact opened

theorem checksApart_of_move {durable : Bool} {phase next : Phase} {after : World}
    (moved : Moves durable caller key phase world next after)
    (apart : ChecksApart key after.log) : ChecksApart key world.log := by
  cases moved with
  | keep ledger log => rwa [log] at apart
  | enter healthy => exact apart
  | check => exact apart.2
  | write keeps leads => exact apart
  | dispatch => exact apart
  | leave => exact apart

/-- Every permitted move of a caller keeps the callers separate, unless it is a check
in the window of another caller. -/
theorem Separate.step {durable : Bool} {next : Phase} {after : World}
    (separate : Separate key phases world) (nonempty : key ≠ "")
    (moved : Moves durable caller key (phases caller) world next after)
    (apart : ChecksApart key after.log) :
    Separate key (Function.update phases caller next) after := by
  generalize here : phases caller = phase at moved
  have settled : DispatchedBy world.log caller key → phase = .dispatching ∨ phase = .finished := by
    intro dispatched
    rw [← here]
    exact (separate.sent caller dispatched).2.1
  cases moved with
  | keep ledger log =>
      refine separate.move (by rw [here]; exact id) (.inr (by rw [ledger]; exact id)) ?_
        (fun other => by rw [log]) settled ?_ (fun other _ => by rw [log]; exact id)
      · intro far
        rw [ledger]
        exact separate.beyond caller (by rwa [here])
      · intro cleared
        rw [log]
        exact separate.window caller (by rwa [here])
  | enter healthy =>
      refine separate.move (by simp) (.inr id) (by simp) (fun _ => Iff.rfl)
        (fun dispatched => ?_) (by simp) (fun _ _ => id)
      rcases settled dispatched with early | early <;> cases early
  | check =>
      cases passed : world.isDuplicate key with
      | false => exact separate.pass nonempty passed (apart.1 rfl) here
      | true =>
          refine separate.move (by simp) (.inr id) (by simp) (fun _ => dispatchedBy_checked)
            (fun _ => .inr rfl) (by simp) (fun other _ opened => ?_)
          simpa [World.record, windows] using opened
  | @write _ _ _ state extra keeps leads =>
      have memory : (world.setOrder caller key state extra).2.ledger.memoryBeyond key =
          decide (state ≠ .intentCreated) :=
        (Ledger.setOrder_memoryBeyond keeps key).trans (if_pos rfl)
      have others : ∀ other, other ≠ caller → other ∈ windows key world.log →
          other ∈ windows key (world.setOrder caller key state extra).2.log :=
        fun other different => mem_windows_wrote different
      have written : state ≠ .intentCreated →
          (world.setOrder caller key state extra).2.ledger.memoryBeyond key = true :=
        fun beyond => memory.trans (decide_eq_true beyond)
      rcases writeLeads_cases leads with ⟨rfl, beyond⟩ | ⟨rfl, rfl, rfl⟩ |
        ⟨rfl, rfl, beyond⟩ | ⟨rfl, rfl, rfl⟩ | ⟨rfl, rfl, beyond⟩
      · exact separate.move (by simp) (.inr fun _ => written beyond) (by simp)
          (fun _ => dispatchedBy_wrote) (fun _ => .inr rfl) (by simp) others
      · have undispatched := separate.not_dispatched_of_active (.inl here)
        refine separate.move (by rw [here]; exact id) (.inl ⟨.inl here, undispatched⟩) (by simp)
          (fun _ => dispatchedBy_wrote) (fun dispatched => absurd dispatched (undispatched caller))
          (fun _ => ?_) others
        simpa [World.setOrder, World.record, windows] using separate.window caller here
      · have undispatched := separate.not_dispatched_of_active (.inl here)
        exact separate.move (fun _ => .inl here) (.inr fun _ => written beyond)
          (fun _ => written beyond) (fun _ => dispatchedBy_wrote)
          (fun dispatched => absurd dispatched (undispatched caller)) (by simp) others
      · have undispatched := separate.not_dispatched_of_active (.inr here)
        exact separate.move (fun _ => .inr (.inl here)) (.inr fun _ => written (by decide))
          (fun _ => written (by decide)) (fun _ => dispatchedBy_wrote)
          (fun dispatched => absurd dispatched (undispatched caller))
          (fun cleared => by split at cleared <;> cases cleared) others
      · exact separate.move (fun _ => .inr (.inr here)) (.inr fun _ => written beyond)
          (fun _ => written beyond) (fun _ => dispatchedBy_wrote) (fun _ => .inl rfl) (by simp)
          others
  | dispatch => exact separate.dispatch here
  | leave =>
      refine separate.move (by simp) (.inr id) (by simp) (fun _ => dispatchedBy_returned)
        (fun _ => .inr rfl) (by simp) (fun other different opened => ?_)
      simpa [World.record, windows, different] using opened

end Step

/-! ## Interleavings of calls -/

/-- The calls of an engine that run for one key, interleaved by a schedule.  The log
starts empty. -/
def interleavedCalls (config : EngineConfig) (surroundings : Nat → Surroundings)
    (requests : Nat → OrderRequest) (schedule : List Nat) (world : World) : World :=
  (interleave schedule
    (fun caller => executeOrder config (surroundings caller) caller (requests caller))
    { world with log := [] }).2

/-- In every interleaving of calls with one key whose duplicate checks stay out of each
other's windows, at most one call dispatches. -/
theorem at_most_one_interleaved_call_dispatches (config : EngineConfig)
    (surroundings : Nat → Surroundings) (requests : Nat → OrderRequest) {key : String}
    (nonempty : key ≠ "") (sameKey : ∀ caller, (requests caller).idempotencyKey = key)
    (schedule : List Nat) (world : World)
    (apart : ChecksApart key
      (interleavedCalls config surroundings requests schedule world).log) :
    (dispatchers (interleavedCalls config surroundings requests schedule world).log
      key).Subsingleton := by
  have conforms : ∀ caller, Conforms (Moves config.requireDurableState caller key)
      (fun _ _ => True)
      (executeOrder config (surroundings caller) caller (requests caller)) .opened := by
    intro caller
    have named : callKey (surroundings caller) (requests caller) = key := by
      rw [callKey, OrderRequest.withIdentity_key _ (by rw [sameKey]; exact nonempty), sameKey]
    rw [← named]
    exact executeOrder_conforms config _ caller _
  have started : Separate key (fun _ => .opened) { world with log := [] } := by
    refine ⟨?_, ?_, ?_, ?_, ?_⟩
    · intro first second active
      simp [Phase.Active] at active
    · simp
    · exact fun caller dispatched => absurd dispatched dispatchedBy_nil
    · exact fun first byFirst => absurd byFirst dispatchedBy_nil
    · simp
  obtain ⟨final, kept⟩ := interleave_keeps schedule conforms
    (fun phases world => ChecksApart key world.log → Separate key phases world)
    (fun caller phases before next after moved held apart =>
      (held (checksApart_of_move moved apart)).step nonempty moved apart)
    (fun _ => started)
  exact (kept apart).unique

/-- Two callers that both check before either has written beyond the marker. -/
def racingSchedule : List Nat :=
  [0, 0, 1, 1] ++ List.replicate 20 0 ++ List.replicate 20 1

/-- In that interleaving both callers dispatch the same order. -/
theorem two_interleaved_calls_dispatch :
    let final := interleavedCalls Sample.config (fun _ => Sample.surroundings)
      (fun _ => Sample.request) racingSchedule (World.start Ledger.initial)
    DispatchedBy final.log 0 "order-1" ∧ DispatchedBy final.log 1 "order-1" ∧
      ¬ (dispatchers final.log "order-1").Subsingleton := by
  have byFirst : DispatchedBy (interleavedCalls Sample.config (fun _ => Sample.surroundings)
      (fun _ => Sample.request) racingSchedule (World.start Ledger.initial)).log 0 "order-1" := by
    decide +kernel
  have bySecond : DispatchedBy (interleavedCalls Sample.config (fun _ => Sample.surroundings)
      (fun _ => Sample.request) racingSchedule (World.start Ledger.initial)).log 1 "order-1" := by
    decide +kernel
  exact ⟨byFirst, bySecond, fun single => absurd (single byFirst bySecond) (by decide)⟩

/-- Calls one after the other keep their checks apart, and one of them dispatches. -/
theorem at_most_one_interleaved_call_dispatches_sample :
    let final := interleavedCalls Sample.config (fun _ => Sample.surroundings)
      (fun _ => Sample.request) (List.replicate 20 0 ++ List.replicate 20 1)
      (World.start Ledger.initial)
    DispatchedBy final.log 0 "order-1" ∧ (dispatchers final.log "order-1").Subsingleton :=
  ⟨by decide +kernel,
    at_most_one_interleaved_call_dispatches Sample.config _ _ (by decide) (fun _ => rfl) _ _
      (by decide +kernel)⟩

end EaBot.Execution
