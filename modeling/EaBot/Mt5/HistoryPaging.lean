import EaBot.Foundation.Paging
import EaBot.Mt5.SymbolResolver
import Mathlib.Algebra.Order.Ring.Rat
import Mathlib.Data.Rat.Floor

/-!
# Paging through a bar history

A chart that is moved to the left asks for the bars before its oldest one.  The connector asks the
terminal for bars up to a start time, a few bars more than a page before the given time, and
expects bars from there on.  The terminal counts bars backwards from the start time.

So a page ends at the start time and not at the given time, and is right only when no bar lies
between them.
-/

namespace EaBot.Mt5

open EaBot.Foundation SymbolResolver

/-! ## Bars -/

/-- A bar as the terminal gives it, with its opening in broker time. -/
structure Rate where
  time : Int
  «open» : ℚ
  high : ℚ
  low : ℚ
  close : ℚ
  tickVolume : ℚ
deriving DecidableEq

/-- A bar with its opening in seconds of UTC. -/
structure Ohlc where
  symbol : String
  timeframe : String
  «open» : ℚ
  high : ℚ
  low : ℚ
  close : ℚ
  volume : ℚ
  time : ℚ
deriving DecidableEq

/-- The bars of a symbol in the order of their openings. -/
structure BarHistory where
  rates : List Rate
  grows : rates.Pairwise fun first second => first.time < second.time

/-- What a terminal knows: its symbols, unless they cannot be listed, and the history of each
symbol and timeframe. -/
structure BarTerminal where
  symbols : Option (List String)
  history : String → String → BarHistory

/-- The latest bars up to a time. -/
def BarTerminal.copyRatesFrom (terminal : BarTerminal) (symbol timeframe : String) (start : Int)
    (count : Nat) : List Rate :=
  ((terminal.history symbol timeframe).rates.filter fun rate => rate.time ≤ start).rtake count

/-! ## Times -/

/-- The seconds of each timeframe. -/
def timeframes : List (String × Int) :=
  [("M1", 60), ("M5", 300), ("M15", 900), ("M30", 1800), ("H1", 3600), ("H4", 14400),
    ("D1", 86400), ("W1", 604800), ("MN1", 2592000)]

/-- The seconds of a timeframe; one that is not known counts as an hour. -/
def timeframeSeconds (timeframe : String) : Int :=
  (timeframes.find? fun entry => entry.1 = Text.upper timeframe).elim 3600 Prod.snd

/-- The timeframe that the terminal is asked for. -/
def mt5Timeframe (timeframe : String) : String :=
  if Text.upper timeframe ∈ timeframes.map Prod.fst then Text.upper timeframe else "H1"

/-- The seconds by which the broker's clock is ahead of UTC. -/
def brokerUtcOffset : Int :=
  3 * 3600

/-- A time in seconds of UTC as whole seconds of the broker's clock. -/
def toBrokerEpoch (offset : Int) (value : ℚ) : Int :=
  (if 0 ≤ value then value.floor else value.ceil) + offset

/-- A time of the broker's clock in seconds of UTC. -/
def fromBrokerEpoch (offset value : Int) : ℚ :=
  value - offset

/-! ## A page of history -/

/-- The symbols to try: the resolved one, and then the plausible ones. -/
def candidates (terminal : BarTerminal) (resolved symbol : String) : List String :=
  (candidateMatches symbol ((terminal.symbols.getD []).map Text.upper)).foldl
    (fun found name => if name ∈ found then found else found ++ [name]) [resolved]

/-- The last items of a list; all of them when none are asked for. -/
def fromEnd {α : Type} (count : Nat) (items : List α) : List α :=
  if count = 0 then items else items.rtake count

/-- A bar of the terminal as the connector returns it. -/
def ohlc (offset : Int) (symbol timeframe : String) (rate : Rate) : Ohlc where
  symbol := symbol
  timeframe := timeframe
  «open» := rate.open
  high := rate.high
  low := rate.low
  close := rate.close
  volume := rate.tickVolume
  time := fromBrokerEpoch offset rate.time

/-- A request for the bars before a time. -/
structure HistoryRequest where
  offset : Int
  terminal : BarTerminal
  resolved : String
  symbol : String
  timeframe : String
  count : Nat

namespace HistoryRequest

variable (request : HistoryRequest)

/-- The time up to which the terminal is asked for bars. -/
def startTs (before : ℚ) : Int :=
  toBrokerEpoch request.offset before - (request.count + 8) * timeframeSeconds request.timeframe

/-- The page of a candidate, if it has one. -/
def pageOf (before : ℚ) (candidate : String) : Option (List Ohlc) :=
  let rates := request.terminal.copyRatesFrom candidate (mt5Timeframe request.timeframe)
    (request.startTs before) ((request.count + 8) * 2)
  let older := rates.filter fun rate => rate.time < toBrokerEpoch request.offset before
  if rates.isEmpty then none
  else if older.isEmpty then none
  else some ((fromEnd request.count older).map (ohlc request.offset candidate request.timeframe))

/-- The bars of a symbol before a time, in live mode. -/
def getOhlc (before : ℚ) : List Ohlc :=
  ((candidates request.terminal request.resolved request.symbol).findSome?
    (request.pageOf before)).getD []

/-! ## The right page -/

/-- The bars of a candidate. -/
def line (candidate : String) : Timeline Rate ℚ where
  items := (request.terminal.history candidate (mt5Timeframe request.timeframe)).rates
  time := fun rate => fromBrokerEpoch request.offset rate.time
  grows := by
    refine (request.terminal.history _ _).grows.imp fun {first second} earlier => ?_
    unfold fromBrokerEpoch
    have cast : (first.time : ℚ) < second.time := Int.cast_lt.mpr earlier
    linarith

/-- The first candidate with a bar before the time. -/
def source (before : ℚ) : Option String :=
  (candidates request.terminal request.resolved request.symbol).find? fun candidate =>
    !((request.line candidate).before before).isEmpty

/-- The bars right before a time. -/
def preceding (before : ℚ) : List Ohlc :=
  match request.source before with
  | none => []
  | some candidate =>
      ((request.line candidate).page request.count before).map
        (ohlc request.offset candidate request.timeframe)

/-- No bar lies between the start time and the given time. -/
def Idle (before : ℚ) : Prop :=
  ∀ candidate ∈ request.source before, ∀ rate ∈ (request.line candidate).before before,
    rate.time ≤ request.startTs before

instance (before : ℚ) : Decidable (request.Idle before) :=
  inferInstanceAs (Decidable (∀ candidate ∈ request.source before, _))

/-- Some pages before a time: each request ends before the oldest bar of the page that was
fetched last. -/
def fetch : Nat → ℚ → List Ohlc
  | 0, _ => []
  | pages + 1, before =>
      match request.getOhlc before with
      | [] => []
      | oldest :: rest => fetch pages oldest.time ++ oldest :: rest

/-- No bar lies between the start time and the given time of any of the requests. -/
def IdleAll : Nat → ℚ → Prop
  | 0, _ => True
  | pages + 1, before =>
      request.Idle before ∧
        match request.getOhlc before with
        | [] => True
        | oldest :: _ => IdleAll pages oldest.time

/-! ## What the terminal is asked for -/

section Page

variable {request : HistoryRequest} {before : ℚ} {candidate : String}

theorem timeframeSeconds_pos (timeframe : String) : 0 < timeframeSeconds timeframe := by
  have facts : ∀ entry ∈ timeframes, 0 < entry.2 := by decide
  unfold timeframeSeconds
  cases found : timeframes.find? fun entry => entry.1 = Text.upper timeframe with
  | none => exact (by decide : (0 : Int) < 3600)
  | some entry => exact facts entry (List.mem_of_find?_eq_some found)

/-- Whole seconds of the broker's clock are less than a second late. -/
theorem fromBrokerEpoch_toBrokerEpoch_lt (offset : Int) (value : ℚ) :
    fromBrokerEpoch offset (toBrokerEpoch offset value) < value + 1 := by
  unfold fromBrokerEpoch toBrokerEpoch
  push_cast
  split
  · have floor := Rat.floor_le value
    linarith
  · have ceil : (value.ceil : ℚ) < value + 1 := Rat.ceil_lt
    linarith

theorem startTs_lt : request.startTs before + 1 < toBrokerEpoch request.offset before := by
  have positive := timeframeSeconds_pos request.timeframe
  have count : (8 : Int) ≤ request.count + 8 := by omega
  have slack : 8 * 1 ≤ (request.count + 8) * timeframeSeconds request.timeframe :=
    mul_le_mul count positive (by decide) (by omega)
  unfold startTs
  omega

/-- A bar up to the start time is a bar before the given time. -/
theorem lt_of_le_startTs {time : Int} (early : time ≤ request.startTs before) :
    fromBrokerEpoch request.offset time < before := by
  have whole : time + 1 < toBrokerEpoch request.offset before := by
    have start := @startTs_lt request before
    omega
  have cast : (time : ℚ) + 1 < toBrokerEpoch request.offset before := by exact_mod_cast whole
  have late := fromBrokerEpoch_toBrokerEpoch_lt request.offset before
  unfold fromBrokerEpoch at late ⊢
  linarith

/-- The bars of a candidate that the terminal counts from the start time. -/
def counted (request : HistoryRequest) (before : ℚ) (candidate : String) : List Rate :=
  (request.line candidate).items.filter fun rate => rate.time ≤ request.startTs before

theorem counted_eq_filter :
    request.counted before candidate = ((request.line candidate).before before).filter
      fun rate => rate.time ≤ request.startTs before := by
  rw [counted, Timeline.before, List.filter_filter]
  refine List.filter_congr fun rate _ => ?_
  rw [Bool.eq_iff_iff, Bool.and_eq_true, decide_eq_true_iff, decide_eq_true_iff]
  exact ⟨fun early => ⟨early, lt_of_le_startTs early⟩, And.left⟩

theorem rtake_rtake_of_le {α : Type} (items : List α) {first second : Nat} (le : first ≤ second) :
    (items.rtake second).rtake first = items.rtake first := by
  rw [List.rtake, List.rtake, List.rtake, List.length_drop, List.drop_drop]
  congr 1
  omega

/-- The page of a candidate holds the last bars up to the start time. -/
theorem pageOf_eq (positive : 0 < request.count) :
    request.pageOf before candidate =
      if request.counted before candidate = [] then none
      else some (((request.counted before candidate).rtake request.count).map
        (ohlc request.offset candidate request.timeframe)) := by
  have start := @startTs_lt request before
  have rates : request.terminal.copyRatesFrom candidate (mt5Timeframe request.timeframe)
      (request.startTs before) ((request.count + 8) * 2) =
        (request.counted before candidate).rtake ((request.count + 8) * 2) := rfl
  have older : ((request.counted before candidate).rtake ((request.count + 8) * 2)).filter
      (fun rate => rate.time < toBrokerEpoch request.offset before) =
        (request.counted before candidate).rtake ((request.count + 8) * 2) := by
    refine List.filter_eq_self.mpr fun rate member => ?_
    have held := List.mem_of_mem_drop member
    have early : rate.time ≤ request.startTs before :=
      of_decide_eq_true (List.mem_filter.mp held).2
    exact decide_eq_true (by omega)
  have last {α : Type} (items : List α) : fromEnd request.count items =
      items.rtake request.count :=
    if_neg (by omega)
  unfold pageOf
  dsimp only
  rw [rates, older, last, rtake_rtake_of_le _ (by omega)]
  have empty : ((request.counted before candidate).rtake ((request.count + 8) * 2)).isEmpty =
      true ↔ request.counted before candidate = [] := by
    rw [List.isEmpty_iff, List.rtake, List.drop_eq_nil_iff, ← List.length_eq_zero_iff]
    omega
  by_cases none_ : request.counted before candidate = []
  · rw [if_pos none_, if_pos (empty.mpr none_)]
  · rw [if_neg none_, if_neg (none_ ∘ empty.mp), if_neg (none_ ∘ empty.mp)]

/-- No bar that is returned opens after the start time. -/
theorem le_of_mem_getOhlc (positive : 0 < request.count) {bar : Ohlc}
    (member : bar ∈ request.getOhlc before) :
    bar.time ≤ fromBrokerEpoch request.offset (request.startTs before) := by
  unfold getOhlc at member
  cases found : (candidates request.terminal request.resolved request.symbol).findSome?
      (request.pageOf before) with
  | none =>
      rw [found] at member
      cases member
  | some bars =>
      rw [found] at member
      obtain ⟨candidate, -, paged⟩ := List.exists_of_findSome?_eq_some found
      rw [pageOf_eq positive] at paged
      split at paged
      · cases paged
      · cases paged
        obtain ⟨rate, held, rfl⟩ := List.mem_map.mp member
        have early := of_decide_eq_true (List.mem_filter.mp (List.mem_of_mem_drop held)).2
        have cast : (rate.time : ℚ) ≤ request.startTs before := Int.cast_le.mpr early
        exact sub_le_sub_right cast _

theorem source_eq_some_iff :
    request.source before = some candidate ↔
      (request.line candidate).before before ≠ [] ∧
        ∃ earlier later, candidates request.terminal request.resolved request.symbol =
            earlier ++ candidate :: later ∧
          ∀ other ∈ earlier, (request.line other).before before = [] := by
  simp [source, List.find?_eq_some_iff_append]

theorem source_eq_none_iff :
    request.source before = none ↔
      ∀ other ∈ candidates request.terminal request.resolved request.symbol,
        (request.line other).before before = [] := by
  simp [source]

theorem pageOf_of_before_eq_nil (positive : 0 < request.count)
    (none_ : (request.line candidate).before before = []) :
    request.pageOf before candidate = none := by
  rw [pageOf_eq positive, if_pos]
  rw [counted_eq_filter, none_, List.filter_nil]

/-- A page is right if and only if no bar lies between the start time and the given time. -/
theorem getOhlc_eq_iff (positive : 0 < request.count) (before : ℚ) :
    request.getOhlc before = request.preceding before ↔ request.Idle before := by
  unfold preceding Idle
  cases chosen : request.source before with
  | none =>
      rw [source_eq_none_iff] at chosen
      have nothing : (candidates request.terminal request.resolved request.symbol).findSome?
          (request.pageOf before) = none := by
        rw [List.findSome?_eq_none_iff]
        exact fun other member => pageOf_of_before_eq_nil positive (chosen other member)
      rw [getOhlc, nothing]
      exact iff_of_true rfl fun _ absent => nomatch absent
  | some candidate =>
      obtain ⟨some_, earlier, later, listed, before_⟩ := source_eq_some_iff.mp chosen
      constructor
      · rintro same _ ⟨⟩ rate member
        obtain ⟨last, held, le⟩ := Timeline.exists_mem_page positive member
        have returned : ohlc request.offset candidate request.timeframe last ∈
            request.getOhlc before := by
          rw [same]
          exact List.mem_map_of_mem held
        have early : (last.time : ℚ) ≤ request.startTs before :=
          (sub_le_sub_iff_right _).mp (le_of_mem_getOhlc positive returned)
        have le : (rate.time : ℚ) ≤ last.time := (sub_le_sub_iff_right _).mp le
        exact_mod_cast le.trans early
      · intro idle
        have whole : request.counted before candidate = (request.line candidate).before before := by
          rw [counted_eq_filter, List.filter_eq_self]
          exact fun rate member => decide_eq_true (idle candidate rfl rate member)
        have skipped : earlier.findSome? (request.pageOf before) = none := by
          rw [List.findSome?_eq_none_iff]
          exact fun other member => pageOf_of_before_eq_nil positive (before_ other member)
        have paged := @pageOf_eq request before candidate positive
        rw [whole, if_neg some_] at paged
        rw [getOhlc, listed, List.findSome?_append, skipped, Option.none_or, List.findSome?_cons,
          paged]
        rfl

/-- Before an earlier time the same candidate is asked as long as it has bars. -/
theorem source_of_le {earlier : ℚ} (chosen : request.source before = some candidate)
    (le : earlier ≤ before) (left : (request.line candidate).before earlier ≠ []) :
    request.source earlier = some candidate := by
  obtain ⟨-, first, later, listed, empty⟩ := source_eq_some_iff.mp chosen
  refine source_eq_some_iff.mpr ⟨left, first, later, listed, fun other member => ?_⟩
  rw [Timeline.before_before le, empty other member, List.filter_nil]

/-- Pages of right requests are pages of the history. -/
theorem fetch_eq (positive : 0 < request.count) (pages : Nat)
    (chosen : request.source before = some candidate)
    (enough : (pages - 1) * request.count < ((request.line candidate).before before).length)
    (idle : request.IdleAll pages before) :
    request.fetch pages before = ((request.line candidate).fetch request.count pages before).map
      (ohlc request.offset candidate request.timeframe) := by
  induction pages generalizing before with
  | zero => rfl
  | succ pages ih =>
      have now : request.Idle before := by
        rw [IdleAll] at idle
        exact idle.1
      have page := (getOhlc_eq_iff positive before).mpr now
      rw [preceding, chosen] at page
      dsimp only at page
      cases paged : (request.line candidate).page request.count before with
      | nil =>
          rw [paged] at page
          rw [fetch, Timeline.fetch, page, paged]
          rfl
      | cons oldest rest =>
          rw [paged, List.map_cons] at page
          rw [IdleAll, page] at idle
          have earlier : request.fetch pages ((request.line candidate).time oldest) =
              ((request.line candidate).fetch request.count pages
                ((request.line candidate).time oldest)).map
                (ohlc request.offset candidate request.timeframe) := by
            cases pages with
            | zero => rfl
            | succ pages =>
                have left := Timeline.before_oldest paged
                have length := congrArg List.length left
                rw [List.rdrop, List.length_take] at length
                rw [Nat.add_sub_cancel, Nat.succ_mul] at enough
                have more : pages * request.count < ((request.line candidate).before
                    ((request.line candidate).time oldest)).length := by
                  omega
                have member : oldest ∈ (request.line candidate).page request.count before := by
                  rw [paged]
                  exact List.mem_cons_self
                have older := le_of_lt (Timeline.lt_of_mem_page member)
                have filled := List.ne_nil_of_length_pos (Nat.lt_of_le_of_lt (Nat.zero_le _) more)
                exact ih (source_of_le chosen older filled) more idle.2
          rw [fetch, Timeline.fetch, page, paged, List.map_append, List.map_cons]
          exact congrArg (· ++ _) earlier

end Page

/-- A page holds the bars right before the given time if and only if no bar lies between the start
time and the given time.  Pages of such requests together hold the last bars before the time, each
one once and in order, as long as there are bars left. -/
theorem getOhlc_right_iff (positive : 0 < request.count) :
    (∀ before, request.getOhlc before = request.preceding before ↔ request.Idle before) ∧
      ∀ before candidate pages, request.source before = some candidate →
        (pages - 1) * request.count < ((request.line candidate).before before).length →
        request.IdleAll pages before →
        request.fetch pages before =
          (((request.line candidate).before before).rtake (pages * request.count)).map
            (ohlc request.offset candidate request.timeframe) := by
  refine ⟨getOhlc_eq_iff positive, fun before candidate pages chosen enough idle => ?_⟩
  rw [fetch_eq positive pages chosen enough idle, Timeline.fetch_eq positive]

end HistoryRequest

namespace Sample

/-- An hourly bar. -/
def hourlyBar (hour : Nat) : Rate :=
  ⟨3600 * hour, 1, 2, 1 / 2, 1, 10⟩

theorem hourlyBar_grows {first second : Nat} (earlier : first < second) :
    (hourlyBar first).time < (hourlyBar second).time := by
  simp only [hourlyBar]
  omega

/-- A terminal with one symbol whose hourly bars come one after the other. -/
def hourlyTerminal (bars : Nat) : BarTerminal where
  symbols := some ["XAUUSD"]
  history := fun symbol _ =>
    if symbol = "XAUUSD" then
      ⟨(List.range bars).map hourlyBar,
        List.pairwise_map.mpr (List.pairwise_lt_range.imp hourlyBar_grows)⟩
    else ⟨[], List.Pairwise.nil⟩

/-- A request for the last hourly bar. -/
def hourlyRequest (bars : Nat) : HistoryRequest where
  offset := brokerUtcOffset
  terminal := hourlyTerminal bars
  resolved := "XAUUSD"
  symbol := "XAUUSD"
  timeframe := "H1"
  count := 1

end Sample

/-- After a pause of ten hours the page is right. -/
theorem page_right_after_pause :
    (Sample.hourlyRequest 3).getOhlc (9 * 3600) = (Sample.hourlyRequest 3).preceding (9 * 3600) :=
  ((Sample.hourlyRequest 3).getOhlc_right_iff (by decide)).1 (9 * 3600) |>.mpr (by decide +kernel)

/-- Without a pause the page ends nine hours before the given time. -/
theorem page_ends_early :
    (Sample.hourlyRequest 24).getOhlc (20 * 3600) ≠
      (Sample.hourlyRequest 24).preceding (20 * 3600) := by
  decide +kernel

end EaBot.Mt5
