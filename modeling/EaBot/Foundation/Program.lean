import Mathlib.Data.Set.Function
import Mathlib.Logic.Function.Basic
import Mathlib.Logic.Relation

/-!
# Programs as sequences of atomic actions

A `Program σ α` is a finite computation over a shared state `σ`: it has ended
with a result, or it is about to perform one atomic action whose answer decides
the rest.  The same program is read in three ways.

* `run` performs every action in sequence.
* `stateAfter` stops after a number of actions, which is what a crash leaves.
* `interleave` lets several programs take turns on one state, one action at a
  time, in the order of a schedule.

`Conforms` relates a program to a protocol given by phases and permitted moves.
It is established once for a program, by induction on its structure, and then
holds for its complete runs, its prefixes and its interleavings.
-/

namespace EaBot.Foundation

/-- A computation that performs atomic actions on a state. -/
inductive Program (σ α : Type) : Type 1
  | done (result : α) : Program σ α
  | act {ρ : Type} (action : σ → ρ × σ) (resume : ρ → Program σ α) : Program σ α

namespace Program

variable {σ α β ρ : Type}

/-- Continue with `next` once the program has ended. -/
def bind (next : α → Program σ β) : Program σ α → Program σ β
  | done result => next result
  | act action resume => act action fun answer => bind next (resume answer)

instance : Monad (Program σ) where
  pure := done
  bind program next := bind next program

/-- The program that performs one action and returns its answer. -/
def perform (action : σ → ρ × σ) : Program σ ρ :=
  act action done

/-- Read the state without changing it. -/
def read (look : σ → ρ) : Program σ ρ :=
  perform fun state => (look state, state)

/-- Change the state without an answer. -/
def modify (change : σ → σ) : Program σ Unit :=
  perform fun state => ((), change state)

@[simp]
theorem pure_eq_done (result : α) : (pure result : Program σ α) = done result :=
  rfl

@[simp]
theorem done_bind (result : α) (next : α → Program σ β) :
    (done result >>= next) = next result :=
  rfl

@[simp]
theorem act_bind (action : σ → ρ × σ) (resume : ρ → Program σ α)
    (next : α → Program σ β) :
    (act action resume >>= next) = act action fun answer => resume answer >>= next :=
  rfl

@[simp]
theorem perform_bind (action : σ → ρ × σ) (next : ρ → Program σ β) :
    (perform action >>= next) = act action next :=
  rfl

@[simp]
theorem read_bind (look : σ → ρ) (next : ρ → Program σ β) :
    (read look >>= next) = act (fun state => (look state, state)) next :=
  rfl

@[simp]
theorem modify_bind (change : σ → σ) (next : Unit → Program σ β) :
    (modify change >>= next) = act (fun state => ((), change state)) next :=
  rfl

/-! ## Complete runs -/

/-- Perform every action in sequence. -/
def run : Program σ α → σ → α × σ
  | done result, state => (result, state)
  | act action resume, state => run (resume (action state).1) (action state).2

@[simp]
theorem run_done (result : α) (state : σ) : run (done result) state = (result, state) :=
  rfl

@[simp]
theorem run_act (action : σ → ρ × σ) (resume : ρ → Program σ α) (state : σ) :
    run (act action resume) state = run (resume (action state).1) (action state).2 :=
  rfl

@[simp]
theorem run_perform (action : σ → ρ × σ) (state : σ) :
    run (perform action) state = action state :=
  rfl

@[simp]
theorem run_read (look : σ → ρ) (state : σ) : run (read look) state = (look state, state) :=
  rfl

@[simp]
theorem run_modify (change : σ → σ) (state : σ) :
    run (modify change) state = ((), change state) :=
  rfl

theorem run_bind (program : Program σ α) (next : α → Program σ β) (state : σ) :
    run (program >>= next) state =
      run (next (run program state).1) (run program state).2 := by
  induction program generalizing state with
  | done result => rfl
  | act action resume ih =>
      rw [act_bind, run_act, run_act]
      exact ih (action state).1 (action state).2

theorem run_perform_bind (action : σ → ρ × σ) (next : ρ → Program σ β) (state : σ) :
    run (perform action >>= next) state = run (next (action state).1) (action state).2 :=
  rfl

/-! ## Prefixes of a run -/

/-- Perform the next action, if there is one. -/
def advance : Program σ α → σ → Program σ α × σ
  | done result, state => (done result, state)
  | act action resume, state => (resume (action state).1, (action state).2)

/-- What is left of a program, and the state, after `count` actions. -/
def advances (program : Program σ α) (state : σ) : Nat → Program σ α × σ
  | 0 => (program, state)
  | count + 1 => advances (advance program state).1 (advance program state).2 count

/-- The state in which a program that stops after `count` actions leaves
everything. -/
def stateAfter (program : Program σ α) (count : Nat) (state : σ) : σ :=
  (advances program state count).2

/-! ## Conformance to a protocol -/

section Conforms

variable {φ : Type}

/-- Every action of the program is a permitted move from its current phase to
some next phase, whatever the state it is performed in, and the program ends in
a phase that its result allows. -/
def Conforms (moves : φ → σ → φ → σ → Prop) (ends : φ → α → Prop) :
    Program σ α → φ → Prop
  | done result, phase => ends phase result
  | act action resume, phase =>
      ∀ state, ∃ next, moves phase state next (action state).2 ∧
        Conforms moves ends (resume (action state).1) next

variable {moves : φ → σ → φ → σ → Prop} {ends : φ → α → Prop} {ends' : φ → β → Prop}

/-- Sequential composition of conforming programs. -/
theorem Conforms.bind {program : Program σ α} {phase : φ} {next : α → Program σ β}
    (first : Conforms moves ends program phase)
    (second : ∀ phase result, ends phase result →
      Conforms moves ends' (next result) phase) :
    Conforms moves ends' (program >>= next) phase := by
  induction program generalizing phase with
  | done result => exact second phase result first
  | act action resume ih =>
      intro state
      obtain ⟨after, moved, rest⟩ := first state
      exact ⟨after, moved, ih _ rest⟩

theorem Conforms.mono {program : Program σ α} {phase : φ} {weaker : φ → α → Prop}
    (conforms : Conforms moves ends program phase)
    (weaken : ∀ phase result, ends phase result → weaker phase result) :
    Conforms moves weaker program phase := by
  induction program generalizing phase with
  | done result => exact weaken phase result conforms
  | act action resume ih =>
      intro state
      obtain ⟨after, moved, rest⟩ := conforms state
      exact ⟨after, moved, ih _ rest⟩

/-- A single action conforms when it is a permitted move to a phase that its
answer allows. -/
theorem conforms_perform {action : σ → ρ × σ} {phase : φ} {ends : φ → ρ → Prop}
    (permitted : ∀ state, ∃ next, moves phase state next (action state).2 ∧
      ends next (action state).1) :
    Conforms moves ends (perform action) phase :=
  permitted

/-- A program that begins with one action conforms when that action is a permitted
move and the rest conforms from where it leads. -/
theorem conforms_perform_bind {action : σ → ρ × σ} {phase : φ} {next : ρ → Program σ β}
    (permitted : ∀ state, ∃ after, moves phase state after (action state).2 ∧
      Conforms moves ends' (next (action state).1) after) :
    Conforms moves ends' (perform action >>= next) phase :=
  permitted

/-- One permitted move, with the phase and the state together. -/
def Move (moves : φ → σ → φ → σ → Prop) (source target : φ × σ) : Prop :=
  moves source.1 source.2 target.1 target.2

/-- Every prefix of a conforming program is a chain of permitted moves. -/
theorem Conforms.stateAfter {program : Program σ α} {phase : φ}
    (conforms : Conforms moves ends program phase) (count : Nat) (state : σ) :
    ∃ final, Relation.ReflTransGen (Move moves) (phase, state)
      (final, program.stateAfter count state) := by
  induction count generalizing program phase state with
  | zero => exact ⟨phase, Relation.ReflTransGen.refl⟩
  | succ count ih =>
      cases program with
      | done result => exact ih conforms state
      | act action resume =>
          obtain ⟨next, moved, rest⟩ := conforms state
          have first : Move moves (phase, state) (next, (action state).2) := moved
          obtain ⟨final, chain⟩ := ih rest (action state).2
          exact ⟨final, Relation.ReflTransGen.head first chain⟩

/-- A complete run of a conforming program is a chain of permitted moves that
ends in a phase its result allows. -/
theorem Conforms.run {program : Program σ α} {phase : φ}
    (conforms : Conforms moves ends program phase) (state : σ) :
    ∃ final, Relation.ReflTransGen (Move moves) (phase, state)
        (final, (program.run state).2) ∧
      ends final (program.run state).1 := by
  induction program generalizing phase state with
  | done result => exact ⟨phase, Relation.ReflTransGen.refl, conforms⟩
  | act action resume ih =>
      obtain ⟨next, moved, rest⟩ := conforms state
      have first : Move moves (phase, state) (next, (action state).2) := moved
      obtain ⟨final, chain, ended⟩ := ih _ rest (action state).2
      exact ⟨final, Relation.ReflTransGen.head first chain, ended⟩

/-- A property of phases and states that every permitted move keeps. -/
def Kept (moves : φ → σ → φ → σ → Prop) (property : φ → σ → Prop) : Prop :=
  ∀ phase before next after, moves phase before next after → property phase before →
    property next after

theorem Kept.chain {property : φ → σ → Prop} (kept : Kept moves property)
    {source target : φ × σ} (moved : Relation.ReflTransGen (Move moves) source target)
    (held : property source.1 source.2) : property target.1 target.2 := by
  induction moved with
  | refl => exact held
  | tail _ last ih => exact kept _ _ _ _ last ih

/-- What every move keeps holds after a complete run. -/
theorem Conforms.run_keeps {program : Program σ α} {phase : φ}
    (conforms : Conforms moves ends program phase) {property : φ → σ → Prop}
    (kept : Kept moves property) {state : σ} (held : property phase state) :
    ∃ final, property final (program.run state).2 := by
  obtain ⟨final, moved, -⟩ := conforms.run state
  exact ⟨final, kept.chain moved held⟩

/-- What every move keeps holds wherever a run is cut short. -/
theorem Conforms.stateAfter_keeps {program : Program σ α} {phase : φ}
    (conforms : Conforms moves ends program phase) {property : φ → σ → Prop}
    (kept : Kept moves property) (count : Nat) {state : σ} (held : property phase state) :
    ∃ final, property final (program.stateAfter count state) := by
  obtain ⟨final, moved⟩ := conforms.stateAfter count state
  exact ⟨final, kept.chain moved held⟩

end Conforms

/-! ## Invariants -/

section Keeps

/-- Every action of the program keeps a property of the state. -/
def Keeps (property : σ → Prop) : Program σ α → Prop
  | done _ => True
  | act action resume =>
      (∀ state, property state → property (action state).2) ∧
        ∀ answer, Keeps property (resume answer)

variable {property : σ → Prop}

theorem Keeps.bind {program : Program σ α} {next : α → Program σ β}
    (first : Keeps property program) (second : ∀ result, Keeps property (next result)) :
    Keeps property (program >>= next) := by
  induction program with
  | done result => exact second result
  | act action resume ih => exact ⟨first.1, fun answer => ih answer (first.2 answer)⟩

theorem keeps_perform {action : σ → ρ × σ}
    (kept : ∀ state, property state → property (action state).2) :
    Keeps property (perform action) :=
  ⟨kept, fun _ => trivial⟩

theorem keeps_read (look : σ → ρ) : Keeps property (read look) :=
  keeps_perform fun _ held => held

/-- What every action keeps holds after a complete run. -/
theorem Keeps.run {program : Program σ α} (keeps : Keeps property program) {state : σ}
    (held : property state) : property (program.run state).2 := by
  induction program generalizing state with
  | done result => exact held
  | act action resume ih => exact ih _ (keeps.2 _) (keeps.1 state held)

end Keeps

/-! ## Interleavings -/

section Interleave

variable {ι φ : Type} [DecidableEq ι]

/-- Let the programs take turns in the order of the schedule, one action at a
time. -/
def interleave : List ι → (ι → Program σ α) → σ → (ι → Program σ α) × σ
  | [], programs, state => (programs, state)
  | turn :: schedule, programs, state =>
      interleave schedule
        (Function.update programs turn (advance (programs turn) state).1)
        (advance (programs turn) state).2

/-- One party moves by its own protocol and every other party keeps its
phase. -/
def JointMove (moves : ι → φ → σ → φ → σ → Prop)
    (source target : (ι → φ) × σ) : Prop :=
  ∃ party next, moves party (source.1 party) source.2 next target.2 ∧
    target.1 = Function.update source.1 party next

variable {moves : ι → φ → σ → φ → σ → Prop} {ends : ι → φ → α → Prop}

/-- Every interleaving of conforming programs is a chain of joint moves, and
what is left of each program still conforms. -/
theorem interleave_conforms (schedule : List ι) {programs : ι → Program σ α}
    {phases : ι → φ}
    (conforms : ∀ party, Conforms (moves party) (ends party) (programs party)
      (phases party)) (state : σ) :
    ∃ final, Relation.ReflTransGen (JointMove moves) (phases, state)
        (final, (interleave schedule programs state).2) ∧
      ∀ party, Conforms (moves party) (ends party)
        ((interleave schedule programs state).1 party) (final party) := by
  induction schedule generalizing programs phases state with
  | nil => exact ⟨phases, Relation.ReflTransGen.refl, conforms⟩
  | cons turn schedule ih =>
      have here := conforms turn
      cases current : programs turn with
      | done result =>
          have unchanged : interleave (turn :: schedule) programs state =
              interleave schedule programs state := by
            simp only [interleave, current, advance]
            rw [← current, Function.update_eq_self]
          rw [unchanged]
          exact ih conforms state
      | act action resume =>
          rw [current] at here
          obtain ⟨next, moved, rest⟩ := here state
          have conforms' : ∀ party, Conforms (moves party) (ends party)
              (Function.update programs turn (resume (action state).1) party)
              (Function.update phases turn next party) := by
            intro party
            by_cases same : party = turn
            · subst same
              simpa using rest
            · simpa [same] using conforms party
          obtain ⟨final, chain, left⟩ := ih conforms' (action state).2
          have first : JointMove moves (phases, state)
              (Function.update phases turn next, (action state).2) :=
            ⟨turn, next, moved, rfl⟩
          simp only [interleave, current, advance]
          exact ⟨final, Relation.ReflTransGen.head first chain, left⟩

/-- What every joint move keeps holds after every interleaving. -/
theorem interleave_keeps (schedule : List ι) {programs : ι → Program σ α} {phases : ι → φ}
    (conforms : ∀ party, Conforms (moves party) (ends party) (programs party)
      (phases party)) (property : (ι → φ) → σ → Prop)
    (kept : ∀ party phases before next after,
      moves party (phases party) before next after → property phases before →
        property (Function.update phases party next) after)
    {state : σ} (held : property phases state) :
    ∃ final, property final (interleave schedule programs state).2 := by
  obtain ⟨final, moved, -⟩ := interleave_conforms schedule conforms state
  have carried : ∀ {target : (ι → φ) × σ},
      Relation.ReflTransGen (JointMove moves) (phases, state) target →
        property target.1 target.2 := by
    intro target chain
    induction chain with
    | refl => exact held
    | tail _ last ih =>
        obtain ⟨party, next, step, updated⟩ := last
        rw [updated]
        exact kept party _ _ next _ step ih
  exact ⟨final, carried moved⟩

/-! ### Interleavings with blocked turns -/

variable (allowed : σ → Prop) [DecidablePred allowed]

/-- Let the programs take turns, but skip every turn that leads to a state which is not
allowed: its party has to wait. -/
def interleaveWithin : List ι → (ι → Program σ α) → σ → (ι → Program σ α) × σ
  | [], programs, state => (programs, state)
  | turn :: schedule, programs, state =>
      if allowed (advance (programs turn) state).2 then
        interleaveWithin schedule
          (Function.update programs turn (advance (programs turn) state).1)
          (advance (programs turn) state).2
      else interleaveWithin schedule programs state

variable {allowed}

/-- What every joint move to an allowed state keeps holds after every interleaving with
blocked turns. -/
theorem interleaveWithin_keeps (schedule : List ι) {programs : ι → Program σ α}
    {phases : ι → φ}
    (conforms : ∀ party, Conforms (moves party) (ends party) (programs party)
      (phases party)) (property : (ι → φ) → σ → Prop)
    (kept : ∀ phases party before next after,
      moves party (phases party) before next after → allowed after → property phases before →
        property (Function.update phases party next) after)
    {state : σ} (held : property phases state) :
    ∃ final, property final (interleaveWithin allowed schedule programs state).2 := by
  induction schedule generalizing programs phases state with
  | nil => exact ⟨phases, held⟩
  | cons turn schedule ih =>
      unfold interleaveWithin
      split
      · rename_i permitted
        have here := conforms turn
        cases current : programs turn with
        | done result =>
            simp only [advance]
            rw [← current, Function.update_eq_self]
            exact ih conforms held
        | act action resume =>
            rw [current] at here permitted
            obtain ⟨next, moved, rest⟩ := here state
            have conforms' : ∀ party, Conforms (moves party) (ends party)
                (Function.update programs turn (resume (action state).1) party)
                (Function.update phases turn next party) := by
              intro party
              by_cases same : party = turn
              · subst same
                simpa using rest
              · simpa [same] using conforms party
            exact ih conforms' (kept phases turn state next _ moved permitted held)
      · exact ih conforms held

end Interleave

end Program

end EaBot.Foundation
