import EaBot.Research.LookAhead
import EaBot.Research.WalkForward

/-!
# The windows of a walk-forward validation

Every window has bars to train on and bars to test on within the series, and no bar is
tested on twice: the windows start at least as far apart as their test segments are long.
A strategy is robust when no window fails and some window passes; the others may have too
few trades.
-/

namespace EaBot.Research

open EaBot.Foundation

namespace WalkForwardValidator

variable (validator : WalkForwardValidator) {bars : Nat}

/-! ## One window -/

theorem two_le_windowSize (bars : Nat) : 2 ≤ validator.windowSize bars :=
  le_max_left _ _

theorem windowSize_le (enough : validator.nWindows < bars) : validator.windowSize bars ≤ bars := by
  have positive := validator.positive
  exact max_le (by omega) (Nat.div_le_self _ _)

/-- Some bars of a window are trained on, and some are left to test on. -/
theorem trainLen_bounds (bars : Nat) :
    1 ≤ validator.trainLen bars ∧ validator.trainLen bars < validator.windowSize bars := by
  have size := validator.two_le_windowSize bars
  refine ⟨le_max_left _ _, max_lt (by omega) ?_⟩
  have counted : (0 : ℚ) < validator.windowSize bars := by
    exact_mod_cast (by omega : 0 < validator.windowSize bars)
  have below : (validator.windowSize bars : ℚ) * validator.trainRatio <
      (validator.windowSize bars : ℤ) := by
    have part := mul_le_mul_of_nonneg_left validator.high counted.le
    push_cast
    linarith
  have floor := Int.floor_lt.mpr below
  omega

/-- Two of which one is a number of times as large as the other are that far apart after a
division. -/
theorem add_le_div_of_mul_le {far parts apart first second : Nat} (some_ : 0 < parts)
    (wide : apart * parts ≤ far) (earlier : first < second) :
    first * far / parts + apart ≤ second * far / parts := by
  rw [← Nat.add_mul_div_right _ _ some_]
  apply Nat.div_le_div_right
  have onwards := Nat.mul_le_mul_right far (Nat.succ_le_of_lt earlier)
  rw [Nat.succ_mul] at onwards
  omega

/-- The bars of a window to test on are no more than the windows start apart. -/
theorem testLen_mul_le (enough : validator.nWindows < bars) :
    (validator.windowSize bars - validator.trainLen bars) * (validator.nWindows - 1) ≤
      bars - validator.windowSize bars := by
  have positive := validator.positive
  rcases validator.trainLen_bounds bars with ⟨trained, -⟩
  rcases Nat.lt_or_ge (bars / validator.nWindows) 2 with small | large
  · have size : validator.windowSize bars = 2 := max_eq_left (by omega)
    have tested : validator.windowSize bars - validator.trainLen bars ≤ 1 := by omega
    have product := Nat.mul_le_mul_right (validator.nWindows - 1) tested
    omega
  · have size : validator.windowSize bars = bars / validator.nWindows := max_eq_right large
    have whole := Nat.div_mul_le_self bars validator.nWindows
    have tested : validator.windowSize bars - validator.trainLen bars ≤
        bars / validator.nWindows := by omega
    have product := Nat.mul_le_mul_right (validator.nWindows - 1) tested
    have others : bars / validator.nWindows * (validator.nWindows - 1) +
        bars / validator.nWindows = bars / validator.nWindows * validator.nWindows := by
      rw [← Nat.mul_succ]
      congr 1
      omega
    omega

/-- A window starts so early that it ends within the bars. -/
theorem startOf_le (enough : validator.nWindows < bars) {window : Nat}
    (inside : window < validator.nWindows) :
    validator.startOf bars window + validator.windowSize bars ≤ bars := by
  have size := validator.windowSize_le enough
  unfold startOf
  split_ifs with many
  · have part : window * (bars - validator.windowSize bars) /
        max 1 (validator.nWindows - 1) ≤ bars - validator.windowSize bars := by
      apply Nat.div_le_of_le_mul
      exact Nat.mul_le_mul_right _ (by omega)
    omega
  · omega

/-- The segments of a window, whose ends need no correction. -/
theorem segment?_eq (enough : validator.nWindows < bars) {window : Nat}
    (inside : window < validator.nWindows) :
    validator.segment? bars window =
      some ⟨validator.startOf bars window,
        validator.startOf bars window + validator.trainLen bars,
        validator.startOf bars window + validator.windowSize bars⟩ := by
  have ends := validator.startOf_le enough inside
  rcases validator.trainLen_bounds bars with ⟨trained, tested⟩
  have trainEnd : min (validator.startOf bars window + validator.trainLen bars) (bars - 1) =
      validator.startOf bars window + validator.trainLen bars := by
    omega
  have testEnd : min (validator.startOf bars window + validator.trainLen bars +
      (validator.windowSize bars - validator.trainLen bars)) bars =
        validator.startOf bars window + validator.windowSize bars := by
    omega
  unfold segment?
  dsimp only
  rw [trainEnd, testEnd, if_neg (by omega)]

/-! ## All windows -/

/-- The windows of enough bars. -/
theorem splitBounds_eq (enough : validator.nWindows < bars) :
    validator.splitBounds bars = (List.range validator.nWindows).map fun window =>
      ⟨validator.startOf bars window,
        validator.startOf bars window + validator.trainLen bars,
        validator.startOf bars window + validator.windowSize bars⟩ := by
  unfold splitBounds
  rw [if_neg (by omega), ← List.filterMap_eq_map]
  apply List.filterMap_congr
  intro window inside
  exact validator.segment?_eq enough (List.mem_range.mp inside)

/-- The segments are within the bars and not empty, the test segments follow each other
without an overlap, and there is one for every window. -/
structure SoundSplit (bars : Nat) (segments : List Segment) : Prop where
  within : ∀ segment ∈ segments, segment.trainStart < segment.trainEnd ∧
    segment.trainEnd < segment.testEnd ∧ segment.testEnd ≤ bars
  apart : segments.Pairwise fun first second => first.testEnd ≤ second.trainEnd
  all : validator.nWindows < bars → segments.length = validator.nWindows

theorem soundSplit (bars : Nat) : validator.SoundSplit bars (validator.splitBounds bars) := by
  rcases Nat.lt_or_ge validator.nWindows bars with enough | few
  · rcases validator.trainLen_bounds bars with ⟨trained, tested⟩
    rw [validator.splitBounds_eq enough]
    constructor
    · intro segment member
      rcases List.mem_map.mp member with ⟨window, inside, rfl⟩
      have ends := validator.startOf_le enough (List.mem_range.mp inside)
      dsimp only
      omega
    · rw [List.pairwise_map]
      apply List.pairwise_lt_range.imp_of_mem
      intro first second _ inside earlier
      have many : 1 < validator.nWindows := by
        have last := List.mem_range.mp inside
        omega
      have parts : max 1 (validator.nWindows - 1) = validator.nWindows - 1 := by omega
      have later := add_le_div_of_mul_le (by omega) (validator.testLen_mul_le enough) earlier
      unfold startOf
      rw [if_pos many, if_pos many, parts]
      dsimp only
      omega
    · intro _
      simp
  · have none_ : validator.splitBounds bars = [] := by
      rw [splitBounds, if_pos (by omega)]
    rw [none_]
    exact ⟨by simp, List.Pairwise.nil, fun enough => by omega⟩

/-! ## The report -/

/-- A validation that finds a strategy robust has a result for every window, of which some
pass and none fails. -/
structure Robust (report : WalkForwardReport) : Prop where
  evaluated : report.windows.length = validator.nWindows
  passes : ∃ window ∈ report.windows, window.status = .pass
  fails : ∀ window ∈ report.windows, window.status = .pass ∨ window.status = .insufficient

theorem robust_reportOf (windows : List WindowResult) :
    (validator.reportOf windows).robust = true ↔
      validator.Robust (validator.reportOf windows) := by
  have counts : ∀ status, withStatus status windows = 0 ↔
      ∀ window ∈ windows, window.status ≠ status := by
    intro status
    simp [withStatus]
  have passes : 0 < withStatus .pass windows ↔ ∃ window ∈ windows, window.status = .pass := by
    rw [Nat.pos_iff_ne_zero, Ne, counts]
    push Not
    rfl
  have fails : withStatus .fail windows = 0 ↔
      ∀ window ∈ windows, window.status = .pass ∨ window.status = .insufficient := by
    rw [counts]
    apply forall₂_congr
    intro window _
    cases window.status <;> simp
  have decided : (validator.reportOf windows).robust = true ↔ 0 < withStatus .pass windows ∧
      withStatus .fail windows = 0 ∧ windows.length = validator.nWindows :=
    decide_eq_true_iff
  rw [decided, passes, fails]
  exact ⟨fun both => ⟨both.2.2, both.1, both.2.1⟩,
    fun robust => ⟨robust.passes, robust.fails, robust.evaluated⟩⟩

theorem robust_validate {root : ℚ → ℚ} {bars : List Bar} {signal : SignalFn}
    {search : Option ParamSearch} {report : WalkForwardReport}
    (validated : validator.validate root bars signal search = .ok report) :
    report.robust = true ↔ validator.Robust report := by
  unfold validate at validated
  rcases of_bind_eq_ok validated with ⟨windows, -, validated⟩
  cases validated
  exact validator.robust_reportOf windows.reduceOption

end WalkForwardValidator

/-- The windows of every number of bars are sound, and a strategy is robust when every window
was evaluated, some pass and none fails, and only then. -/
theorem walkForward_sound (validator : WalkForwardValidator) :
    (∀ bars, validator.SoundSplit bars (validator.splitBounds bars)) ∧
      ∀ (root : ℚ → ℚ) (bars : List Bar) (signal : SignalFn) (search : Option ParamSearch)
        (report : WalkForwardReport),
        validator.validate root bars signal search = .ok report →
        (report.robust = true ↔ validator.Robust report) :=
  ⟨validator.soundSplit, fun _ _ _ _ _ validated => validator.robust_validate validated⟩

namespace Sample

/-- A validator with two windows that trains on a third of each. -/
def validator : WalkForwardValidator :=
  .init backtestConfig 2 (1 / 3) 1 1 0 50

/-- Six hours, of which the third one closes higher. -/
def sixHours : List Bar :=
  hoursClosing [11 / 10, 11 / 10, 1101 / 1000, 11 / 10, 11 / 10, 11 / 10]

/-- A strategy that buys in the second hour of the day. -/
def buyAtOne : SignalFn :=
  fun bars index => if (bars[index]?.map fun bar => bar.time.time.hour) = some 1 then 1 else 0

theorem sixHours_validated :
    ((validator.validate id sixHours buyAtOne none).toOption.map fun report =>
      (report.robust, report.windows.map WindowResult.status)) =
        some (true, [.pass, .insufficient]) := by
  decide +kernel

end Sample

theorem walkForward_sound_sixHours :
    Sample.validator.SoundSplit 6 (Sample.validator.splitBounds 6) ∧
      ∃ report, Sample.validator.validate id Sample.sixHours Sample.buyAtOne none =
          .ok report ∧ Sample.validator.Robust report := by
  rcases Option.map_eq_some_iff.mp Sample.sixHours_validated with ⟨report, found, same⟩
  have validated := ok_of_toOption found
  refine ⟨(walkForward_sound Sample.validator).1 6, report, validated, ?_⟩
  exact ((walkForward_sound Sample.validator).2 id Sample.sixHours Sample.buyAtOne none report
    validated).mp (congrArg Prod.fst same)

/-- A strategy is robust although it trades in one of the two windows only. -/
theorem robust_with_a_window_without_trades :
    ∃ report, Sample.validator.validate id Sample.sixHours Sample.buyAtOne none = .ok report ∧
      report.robust = true ∧ ¬ ∀ window ∈ report.windows, window.status = .pass := by
  rcases Option.map_eq_some_iff.mp Sample.sixHours_validated with ⟨report, found, same⟩
  refine ⟨report, ok_of_toOption found, congrArg Prod.fst same, ?_⟩
  intro pass
  have statuses : report.windows.map WindowResult.status = [.pass, .insufficient] :=
    congrArg Prod.snd same
  have second : WindowStatus.insufficient ∈ report.windows.map WindowResult.status := by
    simp [statuses]
  rcases List.mem_map.mp second with ⟨window, member, insufficient⟩
  rw [pass window member] at insufficient
  cases insufficient

end EaBot.Research
