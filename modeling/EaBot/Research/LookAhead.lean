import EaBot.Foundation.Value
import EaBot.Research.BacktestV2

/-!
# What the realistic backtester knows about a bar

A position is opened at the open of a bar.  At that time the bars before it and its open
are known.  The trades that have ended before the bar, and the direction and the entry
price of the position, depend on nothing else; its size, its stop and its target are
computed from the range of the bar, which is known only when the bar is over.

Two backtests over bars that agree before an index come to one state before it.  What they
do at the index then differs only by the position that is opened there.
-/

namespace EaBot.Research

open EaBot.Foundation

/-- The signal at a bar depends on the bars up to it alone. -/
def SignalFn.UpTo (signal : SignalFn) : Prop :=
  ∀ (first second : List Bar) (index : Nat),
    first.take (index + 1) = second.take (index + 1) → signal first index = signal second index

/-- The bars are the same before an index, and at the index they have the same open. -/
structure AgreeBefore (index : Nat) (first second : List Bar) : Prop where
  earlier : first.take index = second.take index
  opens : first[index]?.map Bar.open = second[index]?.map Bar.open

/-- The trades that ended before an index are the same, and a position that was opened at
the index has the same terms. -/
structure NoLookAhead (index : Nat) (first second : Backtest) : Prop where
  trades : first.tradesBefore index = second.tradesBefore index
  opened : first.openedAt index = second.openedAt index

/-! ## One bar -/

section Step

variable {config : BacktestConfig} {signal : SignalFn} {first second : List Bar} {index : Nat}

theorem regimeForSeries_congr (same : first.take (index + 1) = second.take (index + 1))
    {entry : Nat} (entered : entry ≤ index) :
    regimeForSeries (first.map Bar.close) entry = regimeForSeries (second.map Bar.close) entry := by
  have known : first.take (entry + 1) = second.take (entry + 1) := by
    have shorter := congrArg (List.take (entry + 1)) same
    rwa [List.take_take, List.take_take, Nat.min_eq_left (by omega)] at shorter
  have window : ∀ bars : List Bar, ((bars.map Bar.close).drop (entry - 20)).take
      (entry + 1 - (entry - 20)) = ((bars.take (entry + 1)).map Bar.close).drop (entry - 20) := by
    intro bars
    rw [List.map_take, List.drop_take]
  unfold regimeForSeries
  dsimp only
  rw [window, window, known]

theorem closePosition_congr (same : first.take (index + 1) = second.take (index + 1))
    {position : Position} (entered : position.entryIndex ≤ index) (bar : Bar) (price : ℚ)
    (reason : ExitReason) :
    closePosition config first position bar price reason =
      closePosition config second position bar price reason := by
  unfold closePosition
  rw [regimeForSeries_congr same entered]

theorem exitAt_congr (upTo : signal.UpTo)
    (same : first.take (index + 1) = second.take (index + 1)) (bar : Bar) (position : Position) :
    exitAt signal first index bar position = exitAt signal second index bar position := by
  unfold exitAt
  rw [upTo first second index same]

namespace Backtest

/-- What holds before the bar of an index: an open position and every position that was
opened are from an earlier bar, and a pending signal has a direction. -/
structure Settled (index : Nat) (state : Backtest) : Prop where
  position : ∀ position, state.position = some position → position.entryIndex < index
  opened : ∀ position ∈ state.opened, position.entryIndex < index
  pending : ∀ direction since, state.pending = some (direction, since) →
    direction = 1 ∨ direction = -1

theorem settled_start (config : BacktestConfig) : Settled 0 (start config) := by
  constructor
  · rintro position ⟨⟩
  · intro position member
    cases member
  · rintro direction since ⟨⟩

theorem Settled.later {state : Backtest} (settled : Settled index state) :
    Settled (index + 1) state := by
  constructor
  · intro position held
    exact Nat.lt_succ_of_lt (settled.position position held)
  · intro position member
    exact Nat.lt_succ_of_lt (settled.opened position member)
  · exact settled.pending

theorem Settled.awaitSignal {state : Backtest} (settled : Settled index state)
    (bars : List Bar) (now : Nat) (bar : Bar) :
    Settled index (state.awaitSignal config signal bars now bar) := by
  unfold Backtest.awaitSignal
  split_ifs with free directed
  · constructor
    · exact settled.position
    · exact settled.opened
    · rintro direction since ⟨⟩
      exact directed
  · exact settled
  · exact settled

theorem openPosition_index {balance : ℚ} {direction : Int} {bar : Bar} {position : Position}
    (opens : openPosition config balance direction index bar = .ok position) :
    position.entryIndex = index := by
  unfold openPosition at opens
  rcases of_bind_eq_ok opens with ⟨lot, -, opens⟩
  cases opens
  rfl

theorem Settled.enter {state : Backtest} (settled : Settled index state) (bar : Bar) :
    Settled (index + 1) (state.enter config index bar) := by
  unfold Backtest.enter
  split
  · exact settled.later
  · split
    · exact ⟨settled.later.position, settled.later.opened, settled.later.pending⟩
    · rename_i position opens
      have here := openPosition_index opens
      constructor
      · rintro other ⟨⟩
        omega
      · intro other member
        rcases List.mem_append.mp member with earlier | new
        · exact settled.later.opened other earlier
        · cases List.mem_singleton.mp new
          omega
      · rintro direction since ⟨⟩

theorem Settled.manage {state : Backtest} (settled : Settled index state) (bars : List Bar)
    (now : Nat) (bar : Bar) : Settled index (state.manage config signal bars now bar) := by
  unfold Backtest.manage
  split
  · exact settled
  · split
    · exact settled
    · split
      · exact ⟨settled.position, settled.opened, settled.pending⟩
      · constructor
        · rintro position ⟨⟩
        · exact settled.opened
        · exact settled.pending

theorem Settled.step {state : Backtest} (settled : Settled index state) (bars : List Bar)
    (bar : Bar) : Settled (index + 1) (step config signal bars index bar state) := by
  unfold Backtest.step andThen
  split_ifs
  · exact settled.later
  · exact (settled.awaitSignal bars index bar).later
  · exact (settled.awaitSignal bars index bar).enter bar
  · exact ((settled.awaitSignal bars index bar).enter bar).manage bars index bar

/-- A bar does the same to the state in both backtests. -/
theorem step_congr (upTo : signal.UpTo)
    (same : first.take (index + 1) = second.take (index + 1)) (bar : Bar) {state : Backtest}
    (settled : Settled index state) :
    step config signal first index bar state = step config signal second index bar state := by
  have asks : ∀ state : Backtest, state.awaitSignal config signal first index bar =
      state.awaitSignal config signal second index bar := by
    intro state
    unfold Backtest.awaitSignal
    rw [upTo first second index same]
  have manages : ∀ state : Backtest, Settled (index + 1) state →
      state.manage config signal first index bar =
        state.manage config signal second index bar := by
    intro state settled
    unfold Backtest.manage
    cases held : state.position with
    | none => rfl
    | some position =>
        have entered := Nat.le_of_lt_succ (settled.position position held)
        simp only [exitAt_congr upTo same, closePosition_congr same entered]
  unfold step andThen
  rw [asks]
  split_ifs
  · rfl
  · rfl
  · rfl
  · exact manages _ ((settled.awaitSignal second index bar).enter bar)

end Backtest

end Step

/-! ## The loop -/

namespace Backtest

variable (config : BacktestConfig) (signal : SignalFn)

theorem settled_before (bars : List Bar) (index : Nat) :
    Settled (bars.take index).length (before config signal bars index) := by
  have keeps : ∀ position item state, Settled position state →
      Settled (position + 1) (step config signal bars position item state) :=
    fun position item state holds => holds.step bars item
  have settled := loop_keeps Settled keeps 0 (bars.take index) (settled_start config)
  rwa [Nat.zero_add] at settled

variable {signal} {first second : List Bar} {index : Nat}

/-- Bars that agree before an index lead to one state before it. -/
theorem before_congr (upTo : signal.UpTo) (same : first.take index = second.take index) :
    before config signal first index = before config signal second index := by
  unfold before
  rw [same]
  refine loop_congr Settled ?_ index ?_ 0 _ ?_ ?_
  · exact fun position item state holds => holds.step first item
  · intro position item state early settled
    apply step_congr upTo
    · have shorter := congrArg (List.take (position + 1)) same
      rwa [List.take_take, List.take_take, Nat.min_eq_left (by omega)] at shorter
    · exact settled
  · rw [List.length_take]
    omega
  · exact settled_start config

variable (signal)

theorem trades_awaitSignal (bars : List Bar) (index : Nat) (bar : Bar) (state : Backtest) :
    (state.awaitSignal config signal bars index bar).trades = state.trades ∧
      (state.awaitSignal config signal bars index bar).opened = state.opened := by
  unfold awaitSignal
  split_ifs <;> exact ⟨rfl, rfl⟩

theorem opened_enter (index : Nat) (bar : Bar) (state : Backtest) :
    (state.enter config index bar).trades = state.trades ∧
      ∃ more, (state.enter config index bar).opened = state.opened ++ more ∧
        ∀ position ∈ more, position.entryIndex = index := by
  unfold enter
  split
  · exact ⟨rfl, [], by simp, by simp⟩
  · split
    · exact ⟨rfl, [], by simp, by simp⟩
    · rename_i position opens
      refine ⟨rfl, [position], rfl, ?_⟩
      intro other member
      cases List.mem_singleton.mp member
      exact openPosition_index opens

theorem trades_manage (bars : List Bar) (index : Nat) (bar : Bar) (state : Backtest) :
    (state.manage config signal bars index bar).opened = state.opened ∧
      ∃ more, (state.manage config signal bars index bar).trades = state.trades ++ more ∧
        ∀ trade ∈ more, trade.1 = index := by
  unfold manage
  split
  · exact ⟨rfl, [], by simp, by simp⟩
  · split
    · exact ⟨rfl, [], by simp, by simp⟩
    · split
      · exact ⟨rfl, [], by simp, by simp⟩
      · refine ⟨rfl, _, rfl, ?_⟩
        intro other member
        cases List.mem_singleton.mp member
        rfl

theorem notes_trades (bars : List Bar) :
    Notes (step config signal bars) Backtest.trades Prod.fst := by
  intro index bar state
  have asked := (trades_awaitSignal config signal bars index bar state).1
  have entered := (opened_enter config index bar (state.awaitSignal config signal bars index bar)).1
  rcases (trades_manage config signal bars index bar
    ((state.awaitSignal config signal bars index bar).enter config index bar)).2 with
    ⟨more, managed, placed⟩
  unfold step andThen
  split_ifs
  · exact ⟨[], by simp, by simp⟩
  · exact ⟨[], by simp [asked], by simp⟩
  · exact ⟨[], by simp [asked, entered], by simp⟩
  · exact ⟨more, by rw [managed, entered, asked], placed⟩

theorem notes_opened (bars : List Bar) :
    Notes (step config signal bars) Backtest.opened Position.entryIndex := by
  intro index bar state
  have asked := (trades_awaitSignal config signal bars index bar state).2
  rcases (opened_enter config index bar (state.awaitSignal config signal bars index bar)).2 with
    ⟨more, entered, placed⟩
  have managed := (trades_manage config signal bars index bar
    ((state.awaitSignal config signal bars index bar).enter config index bar)).1
  unfold step andThen
  split_ifs
  · exact ⟨[], by simp, by simp⟩
  · exact ⟨[], by simp [asked], by simp⟩
  · exact ⟨more, by rw [entered, asked], placed⟩
  · exact ⟨more, by rw [managed, entered, asked], placed⟩

end Backtest

/-! ## The position that is opened at the index -/

theorem toList_eq_toList_iff {α : Type} {first second : Option α} :
    first.toList = second.toList ↔ first = second := by
  cases first <;> cases second <;> simp

/-- The terms of a position with a fill and a distance to its stop. -/
def openTerms (config : BacktestConfig) (balance : ℚ) (direction : Int) (fill distance : ℚ) :
    Except String PositionTerms := do
  let lot ← lotFor config balance distance
  return ⟨direction, fill, lot, fill - direction * config.stopMultiplier * distance / 2,
    fill + direction * config.stopMultiplier * config.rewardRisk * distance / 2⟩

theorem map_terms_openPosition (config : BacktestConfig) (balance : ℚ) (direction : Int)
    (index : Nat) (bar : Bar) :
    (openPosition config balance direction index bar).map Position.terms =
      openTerms config balance direction (fillPrice config direction bar)
        (config.stopMultiplier * barRange config bar) := by
  unfold openPosition openTerms
  dsimp only
  cases lotFor config balance (config.stopMultiplier * barRange config bar) <;> rfl

/-- Opening a position at a bar divides by zero neither for the risk nor for the steps of
the broker. -/
def Opens (config : BacktestConfig) (bar : Bar) : Prop :=
  config.spec.lotStep ≠ 0 ∧
    (0 < config.stopMultiplier * barRange config bar → config.spec.contractSize ≠ 0)

theorem lotFor_isSome_iff (config : BacktestConfig) (balance distance : ℚ) :
    (lotFor config balance distance).toOption.isSome = true ↔
      config.spec.lotStep ≠ 0 ∧ (0 < distance → config.spec.contractSize ≠ 0) := by
  have steps : ∀ lot, (config.spec.normalizeLot lot).toOption.isSome = true ↔
      config.spec.lotStep ≠ 0 := by
    intro lot
    unfold SymbolSpec.normalizeLot divide
    split_ifs with zero
    · simp [zero, bind, Except.bind, Except.toOption]
    · simp [zero, bind, Except.bind, pure, Except.pure, Except.toOption]
  unfold lotFor lotFor.sized divide
  split_ifs with far zero
  · have without : config.spec.contractSize = 0 := by
      rcases mul_eq_zero.mp zero with none_ | without
      · exact absurd none_ far.ne'
      · exact without
    simp [bind, Except.bind, Except.toOption, far, without]
  · have sized : config.spec.contractSize ≠ 0 := fun without => zero (by rw [without, mul_zero])
    rw [ok_bind, steps]
    exact ⟨fun stepped => ⟨stepped, fun _ => sized⟩, And.left⟩
  · rw [ok_bind, steps]
    exact ⟨fun stepped => ⟨stepped, fun near => absurd near far⟩, And.left⟩

theorem openTerms_isSome_iff (config : BacktestConfig) (balance : ℚ) (direction : Int)
    (fill : ℚ) (bar : Bar) :
    (openTerms config balance direction fill
      (config.stopMultiplier * barRange config bar)).toOption.isSome = true ↔ Opens config bar := by
  rw [Opens, ← lotFor_isSome_iff config balance]
  unfold openTerms
  cases lotFor config balance (config.stopMultiplier * barRange config bar) <;> rfl

/-- Positions that are opened with one fill have the same terms when they have the same
distance to their stops, and only then. -/
theorem openTerms_eq_iff {config : BacktestConfig} {direction : Int}
    (directed : direction = 1 ∨ direction = -1) (balance fill : ℚ) (left right : Bar) :
    (openTerms config balance direction fill
        (config.stopMultiplier * barRange config left)).toOption =
      (openTerms config balance direction fill
        (config.stopMultiplier * barRange config right)).toOption ↔
      config.stopMultiplier = 0 ∨ barRange config left = barRange config right ∨
        (¬ Opens config left ∧ ¬ Opens config right) := by
  have opensLeft := openTerms_isSome_iff config balance direction fill left
  have opensRight := openTerms_isSome_iff config balance direction fill right
  constructor
  · intro same
    by_cases opened : Opens config left
    · rcases Option.isSome_iff_exists.mp (opensLeft.mpr opened) with ⟨terms, known⟩
      have other := same.symm.trans known
      have stops : ∀ distance, (openTerms config balance direction fill distance).toOption =
          some terms →
            terms.stopPrice = fill - direction * config.stopMultiplier * distance / 2 := by
        intro distance found
        unfold openTerms at found
        rcases of_bind_eq_ok (ok_of_toOption found) with ⟨lot, -, built⟩
        cases built
        rfl
      have apart := (stops _ known).symm.trans (stops _ other)
      have turned : (direction : ℚ) ≠ 0 := by
        rcases directed with rfl | rfl <;> norm_num
      by_cases still : config.stopMultiplier = 0
      · exact Or.inl still
      · right
        left
        have product : (direction : ℚ) * (config.stopMultiplier * (config.stopMultiplier *
            (barRange config left - barRange config right))) = 0 := by
          linarith
        simpa [turned, still, sub_eq_zero] using product
    · right
      right
      refine ⟨opened, fun other => opened ?_⟩
      rw [← opensLeft, same]
      exact opensRight.mpr other
  · rintro (still | alike | ⟨left_, right_⟩)
    · rw [still, zero_mul, zero_mul]
    · rw [alike]
    · rw [← opensLeft, Bool.not_eq_true, Option.isSome_eq_false_iff,
        Option.isNone_iff_eq_none] at left_
      rw [← opensRight, Bool.not_eq_true, Option.isSome_eq_false_iff,
        Option.isNone_iff_eq_none] at right_
      rw [left_, right_]

namespace Backtest

variable (config : BacktestConfig) (signal : SignalFn)

/-- The terms of the position that a state opens at a bar. -/
def openedNow (index : Nat) (bar : Bar) (state : Backtest) : List PositionTerms :=
  if state.raised.isSome then []
  else
    match state.due config index with
    | none => []
    | some direction =>
        (openTerms config state.balance direction (fillPrice config direction bar)
          (config.stopMultiplier * barRange config bar)).toOption.toList

/-- A signal at the bar itself is not due yet. -/
theorem due_awaitSignal {config : BacktestConfig}
    (delayed : 1 ≤ config.costs.executionDelayBars) (bars : List Bar) (index : Nat) (bar : Bar)
    (state : Backtest) :
    (state.awaitSignal config signal bars index bar).due config index = state.due config index := by
  unfold awaitSignal
  split_ifs with free directed
  · rcases Option.isNone_iff_eq_none.mp free.1 with nothing
    rcases Option.isNone_iff_eq_none.mp free.2.1 with waiting
    have early : ¬((index : Int) + config.costs.executionDelayBars ≤ index) := by omega
    simp [due, nothing, waiting, early]
  · rfl
  · rfl

theorem balance_awaitSignal (bars : List Bar) (index : Nat) (bar : Bar) (state : Backtest) :
    (state.awaitSignal config signal bars index bar).balance = state.balance ∧
      (state.awaitSignal config signal bars index bar).raised = state.raised := by
  unfold awaitSignal
  split_ifs <;> exact ⟨rfl, rfl⟩

theorem openedAt_eq_nil {index : Nat} {state : Backtest}
    (earlier : ∀ position ∈ state.opened, position.entryIndex < index) :
    state.openedAt index = [] := by
  unfold openedAt
  rw [List.map_eq_nil_iff, List.filter_eq_nil_iff]
  intro position member
  have before := earlier position member
  simp only [decide_eq_true_eq]
  omega

/-- What a bar opens. -/
theorem openedAt_step {config : BacktestConfig}
    (delayed : 1 ≤ config.costs.executionDelayBars) (bars : List Bar) {index : Nat} (bar : Bar)
    {state : Backtest} (settled : Settled index state) :
    (step config signal bars index bar state).openedAt index =
      openedNow config index bar state := by
  have asked := trades_awaitSignal config signal bars index bar state
  have kept := balance_awaitSignal config signal bars index bar state
  have waits := due_awaitSignal signal delayed bars index bar state
  have waited : Settled index (state.awaitSignal config signal bars index bar) :=
    settled.awaitSignal bars index bar
  have earlier := waited.opened
  have managed := (trades_manage config signal bars index bar
    ((state.awaitSignal config signal bars index bar).enter config index bar)).1
  have entered : ((state.awaitSignal config signal bars index bar).enter config index
      bar).openedAt index =
      match state.due config index with
      | none => []
      | some direction =>
          (openTerms config state.balance direction (fillPrice config direction bar)
            (config.stopMultiplier * barRange config bar)).toOption.toList := by
    unfold enter
    rw [waits, kept.1]
    cases state.due config index with
    | none => exact openedAt_eq_nil earlier
    | some direction =>
        dsimp only
        rw [← map_terms_openPosition config state.balance direction index bar]
        cases opens : openPosition config state.balance direction index bar with
        | error raised => exact openedAt_eq_nil earlier
        | ok position =>
            have here := openPosition_index opens
            have none_ := openedAt_eq_nil earlier
            unfold openedAt at none_ ⊢
            simp only [List.filter_append, List.map_append, none_, List.nil_append]
            simp [here, Except.map, Except.toOption]
  have finally_ : ∀ next : Backtest, next.opened =
      ((state.awaitSignal config signal bars index bar).enter config index bar).opened →
      next.openedAt index = ((state.awaitSignal config signal bars index bar).enter config index
        bar).openedAt index := by
    intro next same
    rw [openedAt, openedAt, same]
  unfold openedNow
  unfold step andThen
  split_ifs with broken raised later
  · exact openedAt_eq_nil settled.opened
  · rw [kept.2] at raised
    exact absurd raised broken
  · exact entered
  · rw [finally_ _ managed]
    exact entered

/-- The last bar is not before any bar. -/
theorem finish_keeps {bars : List Bar} {index : Nat} (within : index < bars.length)
    (state : Backtest) :
    (state.andThen (finish config bars)).tradesBefore index = state.tradesBefore index ∧
      (state.andThen (finish config bars)).openedAt index = state.openedAt index := by
  unfold andThen
  split_ifs
  · exact ⟨rfl, rfl⟩
  · unfold finish
    split
    · split
      · exact ⟨rfl, rfl⟩
      · refine ⟨?_, rfl⟩
        have late : ¬ bars.length - 1 < index := by omega
        simp [tradesBefore, List.filter_append, late]
    · exact ⟨rfl, rfl⟩

variable {config} {bars : List Bar} {index : Nat} {bar : Bar}

/-- The trades that ended before a bar do not depend on it. -/
theorem tradesBefore_run (within : index < bars.length) :
    (run config signal bars).tradesBefore index =
      (before config signal bars index).tradesBefore index := by
  rw [run, (finish_keeps config within _).1, tradesBefore, tradesBefore, before,
    (notes_trades config signal bars).before index bars (start config)]

/-- What is opened at a bar follows from the state before it and the bar. -/
theorem openedAt_run (delayed : 1 ≤ config.costs.executionDelayBars)
    (found : bars[index]? = some bar) :
    (run config signal bars).openedAt index =
      openedNow config index bar (before config signal bars index) := by
  have within : index < bars.length := (List.getElem?_eq_some_iff.mp found).1
  have parts : bars = bars.take index ++ bar :: bars.drop (index + 1) := by
    rw [← (List.getElem?_eq_some_iff.mp found).2, List.cons_getElem_drop_succ,
      List.take_append_drop]
  have length : (bars.take index).length = index := by
    rw [List.length_take]
    omega
  have settled := settled_before config signal bars index
  rw [length] at settled
  have whole : loop (step config signal bars) 0 bars (start config) =
      loop (step config signal bars) (index + 1) (bars.drop (index + 1))
        (step config signal bars index bar (before config signal bars index)) := by
    have split := loop_append (step config signal bars) 0 (bars.take index)
      (bar :: bars.drop (index + 1)) (start config)
    rwa [← parts, length, Nat.zero_add, loop] at split
  rw [run, (finish_keeps config within _).2, whole, ← openedAt_step signal delayed bars bar settled]
  rcases (notes_opened config signal bars).loop (index + 1) (bars.drop (index + 1))
    (step config signal bars index bar (before config signal bars index)) with
    ⟨more, noted, beyond⟩
  have later : more.filter (fun position => position.entryIndex = index) = [] := by
    rw [List.filter_eq_nil_iff]
    intro position member
    have late := beyond position member
    simp only [decide_eq_true_eq]
    omega
  rw [openedAt, openedAt, noted, List.filter_append, later, List.append_nil]

/-- The risk of a position that is opened at the index is the same for both bars, where one
is opened at all. -/
def SameRisk (config : BacktestConfig) (index : Nat) (first second : List Bar)
    (state : Backtest) : Prop :=
  state.raised = none → (state.due config index).isSome = true →
    ∀ left right, first[index]? = some left → second[index]? = some right →
      config.stopMultiplier = 0 ∨ barRange config left = barRange config right ∨
        (¬ Opens config left ∧ ¬ Opens config right)

theorem openedNow_eq_iff (config : BacktestConfig) {state : Backtest}
    (settled : Settled index state) {left right : Bar} (opens : left.open = right.open) :
    openedNow config index left state = openedNow config index right state ↔
      (state.raised = none → (state.due config index).isSome = true →
        config.stopMultiplier = 0 ∨ barRange config left = barRange config right ∨
          (¬ Opens config left ∧ ¬ Opens config right)) := by
  unfold openedNow
  cases broken : state.raised with
  | some raised => simp
  | none =>
      cases isDue : state.due config index with
      | none => simp
      | some direction =>
          have directed : direction = 1 ∨ direction = -1 := by
            unfold due at isDue
            split at isDue
            · rename_i pending
              split_ifs at isDue
              cases isDue
              exact settled.pending _ _ pending
            · cases isDue
          have fills : fillPrice config direction left = fillPrice config direction right := by
            rw [fillPrice, fillPrice, opens]
          rw [← openTerms_eq_iff directed state.balance (fillPrice config direction left) left
            right]
          simp [toList_eq_toList_iff, ← fills]

end Backtest

open Backtest

/-- Two backtests over bars that agree before an index and on the open there look ahead
exactly when a position is opened at the index and the ranges of the two bars differ. -/
theorem noLookAhead_iff (config : BacktestConfig) {signal : SignalFn} {first second : List Bar}
    {index : Nat} (delayed : 1 ≤ config.costs.executionDelayBars) (upTo : signal.UpTo)
    (agree : AgreeBefore index first second) :
    NoLookAhead index (run config signal first) (run config signal second) ↔
      SameRisk config index first second (before config signal first index) := by
  have shared := before_congr config upTo agree.earlier
  cases found : first[index]? with
  | none =>
      -- Without a bar at the index the sequences are one sequence.
      have opens := agree.opens
      rw [found] at opens
      have other : second[index]? = none := by simpa using opens.symm
      have same := agree.earlier
      rw [List.take_of_length_le (List.getElem?_eq_none_iff.mp found),
        List.take_of_length_le (List.getElem?_eq_none_iff.mp other)] at same
      subst same
      constructor
      · intro _ _ _ left right known
        rw [found] at known
        cases known
      · exact fun _ => ⟨rfl, rfl⟩
  | some left =>
      have opens := agree.opens
      rw [found] at opens
      rcases Option.map_eq_some_iff.mp opens.symm with ⟨right, other, equal⟩
      have within : index < first.length := (List.getElem?_eq_some_iff.mp found).1
      have settled := settled_before config signal first index
      rw [List.length_take, Nat.min_eq_left (Nat.le_of_lt within)] at settled
      have risks := openedNow_eq_iff config settled equal.symm
      have trades : (run config signal first).tradesBefore index =
          (run config signal second).tradesBefore index := by
        rw [tradesBefore_run signal within, shared,
          tradesBefore_run signal (List.getElem?_eq_some_iff.mp other).1]
      have opened : NoLookAhead index (run config signal first) (run config signal second) ↔
          openedNow config index left (before config signal first index) =
            openedNow config index right (before config signal first index) := by
        constructor
        · intro stable
          rw [← openedAt_run signal delayed found, stable.opened, shared,
            openedAt_run signal delayed other]
        · intro same
          refine ⟨trades, ?_⟩
          rw [openedAt_run signal delayed found, same, shared,
            openedAt_run signal delayed other]
      rw [opened, risks]
      constructor
      · intro risk broken isDue one two oneFound twoFound
        rw [found] at oneFound
        rw [other] at twoFound
        cases oneFound
        cases twoFound
        exact risk broken isDue
      · exact fun risk broken isDue => risk broken isDue left right found other

namespace Sample

/-- The default configuration of a backtest. -/
def backtestConfig : BacktestConfig where
  spec := ⟨5, 1 / 100000, 100000, 1 / 100, 1 / 100⟩
  costs := ⟨10, 2, 7, -3 / 2, 1⟩
  risk := ⟨10000, 1 / 100, 10, none⟩
  stopMultiplier := 2
  rewardRisk := 2

/-- A strategy that buys at the first bar. -/
def buyFirst : SignalFn :=
  fun _ index => if index = 0 then 1 else 0

/-- An hour whose prices stay within a distance of their open. -/
def hourBar (hour : Fin 24) (distance : ℚ) : Bar where
  time := ⟨2026, 1, 1, ⟨hour, 0, 0, 0⟩, some 0, by
    constructor
    · decide
    · decide
    · decide
    · exact ⟨hour.isLt, Nat.zero_lt_succ _, Nat.zero_lt_succ _, Nat.zero_lt_succ _⟩
    · decide⟩
  «open» := 11 / 10
  high := 11 / 10 + distance
  low := 11 / 10 - distance
  close := 11 / 10

/-- Two calm hours and one in which the prices go far. -/
def fallingHours : List Bar :=
  [hourBar 0 (1 / 1000), hourBar 1 (1 / 1000), hourBar 2 (1 / 100)]

/-- Calm hours from midnight on that close at the given prices. -/
def hoursClosing (closes : List ℚ) : List Bar :=
  closes.mapIdx fun hour close =>
    { hourBar (Fin.ofNat 24 hour) (1 / 1000) with close := close }

theorem buyFirst_upTo : buyFirst.UpTo :=
  fun _ _ _ _ => rfl

/-- Hours that differ in the range of the second one agree before it and on its open. -/
theorem agreeBefore_hourBar (first second : ℚ) :
    AgreeBefore 1 [hourBar 0 (1 / 1000), hourBar 1 first]
      [hourBar 0 (1 / 1000), hourBar 1 second] :=
  ⟨rfl, rfl⟩

end Sample

/-- Where the hours agree in full, nothing is known ahead. -/
theorem noLookAhead_calm :
    NoLookAhead 1
      (run Sample.backtestConfig Sample.buyFirst
        [Sample.hourBar 0 (1 / 1000), Sample.hourBar 1 (1 / 1000)])
      (run Sample.backtestConfig Sample.buyFirst
        [Sample.hourBar 0 (1 / 1000), Sample.hourBar 1 (1 / 1000)]) :=
  (noLookAhead_iff Sample.backtestConfig (by decide) Sample.buyFirst_upTo
    (Sample.agreeBefore_hourBar (1 / 1000) (1 / 1000))).mpr (by
      intro _ _ left right found other
      rw [found] at other
      cases other
      exact Or.inr (Or.inl rfl))

/-- The position that is opened at an hour knows how far the prices of the hour will go. -/
theorem wild_hour_known_at_open :
    1 ≤ Sample.backtestConfig.costs.executionDelayBars ∧ Sample.buyFirst.UpTo ∧
      AgreeBefore 1 [Sample.hourBar 0 (1 / 1000), Sample.hourBar 1 (1 / 1000)]
        [Sample.hourBar 0 (1 / 1000), Sample.hourBar 1 (1 / 100)] ∧
      ¬ NoLookAhead 1
        (run Sample.backtestConfig Sample.buyFirst
          [Sample.hourBar 0 (1 / 1000), Sample.hourBar 1 (1 / 1000)])
        (run Sample.backtestConfig Sample.buyFirst
          [Sample.hourBar 0 (1 / 1000), Sample.hourBar 1 (1 / 100)]) := by
  refine ⟨by decide, Sample.buyFirst_upTo, Sample.agreeBefore_hourBar _ _, ?_⟩
  intro stable
  have apart : ((run Sample.backtestConfig Sample.buyFirst
      [Sample.hourBar 0 (1 / 1000), Sample.hourBar 1 (1 / 1000)]).openedAt 1).map
        PositionTerms.stopPrice ≠
      ((run Sample.backtestConfig Sample.buyFirst
        [Sample.hourBar 0 (1 / 1000), Sample.hourBar 1 (1 / 100)]).openedAt 1).map
        PositionTerms.stopPrice := by
    decide +kernel
  exact apart (congrArg _ stable.opened)

end EaBot.Research
