import EaBot.Foundation.Run
import EaBot.Orchestration.SignalRegistry

/-!
# The machine of the signal registry

The phases of a signal are documented as a machine, but an operation of the registry
sets a phase without looking at the one before.  Opening the signal of a symbol
refreshes the live one when the directions are spelt alike, and otherwise replaces it,
also while its order is on its way or its position is open.

A run keeps to the machine exactly when every operation finds a record in a phase from
which the machine has an edge, and every opening finds the spelling of the record.
-/

namespace EaBot.Orchestration

open EaBot.Foundation

namespace SignalPhase

/-- The edges of the machine, with those that the pipeline takes directly. -/
def Edge : SignalPhase → SignalPhase → Prop
  | pending, next => next = executing ∨ next = skipped ∨ next = opened ∨ next = failed
  | executing, next => next = opened ∨ next = failed
  | opened, next => next = closed
  | closed, next => next = pending
  | failed, next => next = pending
  | skipped, next => next = pending

instance (phase next : SignalPhase) : Decidable (phase.Edge next) :=
  match phase with
  | pending =>
      inferInstanceAs
        (Decidable (next = executing ∨ next = skipped ∨ next = opened ∨ next = failed))
  | executing => inferInstanceAs (Decidable (next = opened ∨ next = failed))
  | opened => inferInstanceAs (Decidable (next = closed))
  | closed | failed | skipped => inferInstanceAs (Decidable (next = pending))

/-- An order is on its way or a position is open. -/
def Engaged (phase : SignalPhase) : Prop :=
  phase = executing ∨ phase = opened

instance (phase : SignalPhase) : Decidable phase.Engaged :=
  inferInstanceAs (Decidable (phase = executing ∨ phase = opened))

/-- A record stays in its phase or follows an edge.  A new record is pending. -/
def Follows : Option SignalPhase → Option SignalPhase → Prop
  | none, none => True
  | none, some next => next = pending
  | some phase, some next => next = phase ∨ phase.Edge next
  | some _, none => False

theorem follows_self (phase : Option SignalPhase) : Follows phase phase := by
  cases phase with
  | none => trivial
  | some phase => exact .inl rfl

/-- Every phase but an engaged one is pending or leads back to it. -/
theorem reopens {phase : SignalPhase} (idle : ¬ phase.Engaged) :
    pending = phase ∨ phase.Edge pending := by
  cases phase with
  | pending => exact .inl rfl
  | executing => exact absurd (.inl rfl) idle
  | opened => exact absurd (.inr rfl) idle
  | closed | failed | skipped => exact .inr rfl

end SignalPhase

namespace SignalRegistry

/-- A move of a record to a phase. -/
inductive Mark
  | executing
  | opened (ticket : Val)
  | closed
  | failed
  | skipped
deriving DecidableEq

/-- The phase that a move leads to. -/
def Mark.phase : Mark → SignalPhase
  | executing => .executing
  | opened _ => .opened
  | closed => .closed
  | failed => .failed
  | skipped => .skipped

/-- An operation on the registry. -/
inductive Operation
  | openSignal (symbol direction : String) (confidence : ℚ) (levels : Levels)
      (proposalId : String)
  | mark (mark : Mark) (symbol reason : String)

/-- The phase of the record under a key. -/
def phaseAt (registry : SignalRegistry) (key : String) : Option SignalPhase :=
  (registry.signals.get key).map ActiveSignal.phase

/-- The symbol of an operation. -/
def Operation.symbol : Operation → String
  | openSignal symbol _ _ _ _ => symbol
  | mark _ symbol _ => symbol

/-- An operation and the instant of the clock at which it runs. -/
structure Request where
  operation : Operation
  now : ℚ

/-- The registry after an operation. -/
def step (registry : SignalRegistry) (request : Request) : SignalRegistry :=
  match request.operation with
  | .openSignal symbol direction confidence levels proposalId =>
      registry.openSignal symbol direction confidence levels proposalId request.now
  | .mark .executing symbol reason => registry.markExecuting symbol reason request.now
  | .mark (.opened ticket) symbol reason => registry.markOpen symbol ticket reason request.now
  | .mark .closed symbol reason => registry.markClosed symbol reason request.now
  | .mark .failed symbol reason => registry.markFailed symbol reason request.now
  | .mark .skipped symbol reason => registry.markSkipped symbol reason request.now

/-- An operation keeps to the machine: every record follows it, and an opening leaves the
phase and the ticket of an engaged record. -/
structure FollowsMachine (registry : SignalRegistry) (request : Request) : Prop where
  follows : ∀ key, SignalPhase.Follows (registry.phaseAt key)
    ((registry.step request).phaseAt key)
  keeps : ∀ symbol direction confidence levels proposalId,
    request.operation = .openSignal symbol direction confidence levels proposalId →
      ∀ record, registry.get symbol = some record → record.phase.Engaged →
        ∃ next, (registry.step request).get symbol = some next ∧ next.phase ≠ .pending ∧
          next.ticket = record.ticket

/-- The record that an operation finds is one that it may touch: an opening finds its own
spelling of the direction on an engaged record, and a move an edge to its phase. -/
def Admits (registry : SignalRegistry) (request : Request) : Prop :=
  ∀ record, registry.get request.operation.symbol = some record →
    match request.operation with
    | .openSignal _ direction _ _ _ => record.phase.Engaged → record.direction = direction
    | .mark mark _ _ => mark.phase = record.phase ∨ record.phase.Edge mark.phase

/-! ## One operation -/

variable {registry : SignalRegistry} {symbol other : String} {record : ActiveSignal} {now : ℚ}

/-- A move puts its phase into the record of its symbol and leaves every other one. -/
theorem phaseAt_mark (mark : Mark) (reason : String) (other : String) :
    (registry.step ⟨.mark mark symbol reason, now⟩).phaseAt other =
      (registry.phaseAt other).map fun phase =>
        if other = key symbol then mark.phase else phase := by
  have moved (phase : SignalPhase) :
      (registry.transition symbol phase reason now).phaseAt other =
        (registry.phaseAt other).map fun before =>
          if other = key symbol then phase else before := by
    unfold phaseAt
    rw [transition_get]
    by_cases same : other = key symbol
    · simp only [same, if_true, Option.map_map, Function.comp_def]
    · simp only [same, if_false, Option.map_id']
  cases mark with
  | executing => exact moved .executing
  | opened ticket =>
      change (registry.markOpen symbol ticket reason now).phaseAt other = _
      unfold phaseAt
      rw [markOpen_get]
      by_cases same : other = key symbol
      · simp only [same, if_true, Option.map_map, Function.comp_def, Mark.phase]
      · simp only [same, if_false, Option.map_id']
  | closed => exact moved .closed
  | failed => exact moved .failed
  | skipped => exact moved .skipped

/-- An opening leaves the phase and the ticket of a live record of its own spelling, and
otherwise makes a pending record. -/
theorem openSignal_get (direction : String) (confidence : ℚ) (levels : Levels)
    (proposalId : String) :
    ∃ next, (registry.openSignal symbol direction confidence levels proposalId now).signals.get
        (key symbol) = some next ∧
      ((∃ record, registry.get symbol = some record ∧ record.phase.isActive = true ∧
          record.direction = direction ∧ next.phase = record.phase ∧
            next.ticket = record.ticket) ∨
        next.phase = .pending ∧ ∀ record, registry.get symbol = some record →
          record.phase.isActive = true → record.direction ≠ direction) := by
  unfold openSignal get
  cases found : registry.signals.get (key symbol) with
  | none =>
      refine ⟨_, Dict.get_set_self _ _ _, .inr ⟨rfl, ?_⟩⟩
      intro record absent
      cases absent
  | some existing =>
      refine ⟨_, Dict.get_set_self _ _ _, ?_⟩
      dsimp only
      by_cases live : existing.phase.isActive = true ∧ existing.direction = direction
      · rw [if_pos live]
        exact .inl ⟨existing, rfl, live.1, live.2, rfl, rfl⟩
      · rw [if_neg live]
        refine .inr ⟨rfl, ?_⟩
        intro record same active spelt
        cases same
        exact live ⟨active, spelt⟩

theorem openSignal_get_of_ne (direction : String) (confidence : ℚ) (levels : Levels)
    (proposalId : String) (foreign : other ≠ key symbol) :
    (registry.openSignal symbol direction confidence levels proposalId now).signals.get other =
      registry.signals.get other := by
  unfold openSignal
  exact Dict.get_set_of_ne _ foreign _

/-- An operation keeps to the machine exactly when it finds a record that it may touch. -/
theorem followsMachine_iff (registry : SignalRegistry) (request : Request) :
    registry.FollowsMachine request ↔ registry.Admits request := by
  rcases request with ⟨operation, now⟩
  cases operation with
  | mark mark symbol reason =>
      constructor
      · rintro ⟨follows, -⟩ record found
        have edge := follows (key symbol)
        rw [phaseAt_mark] at edge
        simpa [phaseAt, show registry.signals.get (key symbol) = some record from found,
          SignalPhase.Follows] using edge
      · intro admits
        constructor
        · intro other
          rw [phaseAt_mark]
          by_cases same : other = key symbol
          · subst same
            cases found : registry.signals.get (key symbol) with
            | none => simp [phaseAt, found, SignalPhase.Follows]
            | some record =>
                simpa [phaseAt, found, SignalPhase.Follows] using admits record found
          · cases found : registry.signals.get other with
            | none => simp [phaseAt, found, SignalPhase.Follows]
            | some record => simp [phaseAt, found, same, SignalPhase.Follows]
        · rintro symbol direction confidence levels proposalId opens
          cases opens
  | openSignal symbol direction confidence levels proposalId =>
      have opened : ∃ next, (registry.step
          ⟨.openSignal symbol direction confidence levels proposalId, now⟩).get symbol = some next ∧
          _ := openSignal_get direction confidence levels proposalId
      rcases opened with ⟨next, made, way⟩
      constructor
      · rintro ⟨-, keeps⟩ record found engaged
        rcases keeps symbol direction confidence levels proposalId rfl record found engaged with
          ⟨other, same, moved, -⟩
        cases made.symm.trans same
        rcases way with ⟨live, held, -, spelt, -⟩ | ⟨pending, -⟩
        · cases found.symm.trans held
          exact spelt
        · exact absurd pending moved
      · intro admits
        have kept : ∀ record, registry.get symbol = some record → record.phase.Engaged →
            next.phase = record.phase ∧ next.ticket = record.ticket := by
          intro record found engaged
          rcases way with ⟨live, held, -, -, phase, ticket⟩ | ⟨-, replaced⟩
          · cases found.symm.trans held
            exact ⟨phase, ticket⟩
          · have active : record.phase.isActive = true := by
              rcases engaged with phase | phase <;> rw [phase] <;> rfl
            exact absurd (admits record found engaged) (replaced record found active)
        constructor
        · intro other
          by_cases same : other = key symbol
          · subst same
            change SignalPhase.Follows ((registry.get symbol).map ActiveSignal.phase)
              (((registry.step
                ⟨.openSignal symbol direction confidence levels proposalId, now⟩).get symbol).map
                  ActiveSignal.phase)
            rw [made]
            cases found : registry.get symbol with
            | none =>
                rcases way with ⟨live, held, -⟩ | ⟨pending, -⟩
                · cases found.symm.trans held
                · exact pending
            | some record =>
                rcases way with ⟨live, held, -, -, phase, -⟩ | ⟨pending, -⟩
                · cases found.symm.trans held
                  exact .inl phase
                · by_cases engaged : record.phase.Engaged
                  · exact .inl (kept record found engaged).1
                  · change next.phase = record.phase ∨ record.phase.Edge next.phase
                    rw [pending]
                    exact SignalPhase.reopens engaged
          · unfold phaseAt
            change SignalPhase.Follows _ (Option.map ActiveSignal.phase
              ((registry.openSignal symbol direction confidence levels proposalId now).signals.get
                other))
            rw [openSignal_get_of_ne direction confidence levels proposalId same]
            exact SignalPhase.follows_self _
        · rintro _ _ _ _ _ same record found engaged
          cases same
          rcases kept record found engaged with ⟨phase, ticket⟩
          refine ⟨next, made, ?_, ticket⟩
          rw [phase]
          rcases engaged with engaged | engaged <;> rw [engaged] <;> decide

/-! ## Whole runs -/

/-- A run of the registry keeps to the machine exactly when each of its operations finds
a record that it may touch. -/
theorem every_followsMachine_iff (registry : SignalRegistry) (requests : List Request) :
    Run.Every step FollowsMachine registry requests ↔ Run.Every step Admits registry requests :=
  Run.every_congr_of_mem (fun registry request _ => followsMachine_iff registry request) registry

/-- A live buy and a second signal of the same direction as the committee spells it. -/
private def reopenedBuy : List Request :=
  [⟨.openSignal "XAUUSD" "buy" 0 .empty "", 0⟩, ⟨.mark .executing "XAUUSD" "order dikirim", 1⟩,
    ⟨.mark (.opened (.int 7)) "XAUUSD" "entry terbuka", 2⟩,
    ⟨.openSignal "XAUUSD" "buy" 0 .empty "", 3⟩]

/-- A second opening in the same letter case makes the open record pending again and drops
its ticket. -/
theorem reopened_buy_not_followsMachine :
    ¬ Run.Every step FollowsMachine initial reopenedBuy := by
  rintro ⟨-, -, -, ⟨-, keeps⟩, -⟩
  rcases keeps _ _ _ _ _ rfl _ rfl (.inr rfl) with ⟨next, found, moved, -⟩
  cases found
  exact moved rfl

end SignalRegistry

end EaBot.Orchestration
