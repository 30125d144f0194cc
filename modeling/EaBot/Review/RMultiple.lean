import EaBot.Foundation.Grouping
import EaBot.Foundation.IsoWeek
import EaBot.Foundation.Numerals
import EaBot.Foundation.Rounding
import EaBot.Foundation.Value
import EaBot.Research.BacktestReport
import Mathlib.Data.String.Basic

/-!
# Results by day, week and month

The result of a closed trade is measured in units of the risk that was taken, its R.  The Rs are
summed up for each day, week or month in which trades were closed.

The order of the trades does not matter, and every usable trade is counted once.  The time of a
close is taken as it is written: a time without an offset is given that of universal time, but a
time with another offset is not converted.  The sums therefore depend on how an instant is
spelled, exactly where the spellings fall on different days, weeks or months.
-/

namespace EaBot.Review

open EaBot.Foundation EaBot.Research

/-! ## Buckets -/

/-- What some Rs sum up to. -/
structure RBucket where
  count : Nat
  wins : Nat
  losses : Nat
  winRate : ℚ
  avgR : ℚ
  totalR : ℚ
  profitFactor : Ratio
deriving DecidableEq

/-- A field `closed_at`. -/
inductive ClosedAt
  | datetime (moment : Datetime)
  | str (text : String)
  | missing

/-- An item of a list of trades, which may be no trade at all. -/
inductive TradeRow
  | trade (rMultiple : Val) (closedAt : ClosedAt)
  | noTrade

/-- The usable R of a trade. -/
def rOf (rMultiple : Val) : Option ℚ :=
  rMultiple.toFloat.toOption

/-- What the usable Rs of some trades sum up to. -/
def bucketOf (rs : List ℚ) : RBucket :=
  let count := rs.length
  if count = 0 then ⟨0, 0, 0, 0, 0, 0, .finite 0⟩
  else
    let wins := rs.filter (0 < ·)
    let losses := rs.filter (· < 0)
    let grossProfit := wins.sum
    let grossLoss := |losses.sum|
    { count := count
      wins := wins.length
      losses := losses.length
      winRate := Text.roundTo 2 (wins.length / count * 100)
      avgR := Text.roundTo 4 (rs.sum / count)
      totalR := Text.roundTo 4 rs.sum
      profitFactor :=
        if 0 < grossLoss then .finite (Text.roundTo 4 (grossProfit / grossLoss))
        else if 0 < grossProfit then .infinite
        else .finite 0 }

/-- What some trades sum up to. -/
def rBucketFromTrades (trades : List TradeRow) : RBucket :=
  bucketOf (trades.filterMap fun row =>
    match row with
    | .trade rMultiple _ => rOf rMultiple
    | .noTrade => none)

/-! ## Periods -/

/-- The periods that results are summed up for. -/
inductive Period
  | day | week | month
deriving DecidableEq

/-- The period with a name; any other name means days. -/
def Period.ofName (name : String) : Period :=
  if name = "month" then .month else if name = "week" then .week else .day

/-- The number of a time's day. -/
def dayNumber (moment : Datetime) : Nat :=
  Calendar.ordinal moment.year moment.month moment.day

/-- The key of a time's period. -/
def periodKey (moment : Datetime) : Period → String
  | .month => String.ofList
      (Datetime.digits 4 moment.year ++ '-' :: Datetime.digits 2 moment.month)
  | .week =>
      let iso := Calendar.isoCalendar moment.year moment.month moment.day
      String.ofList ((toString iso.1).toList ++ '-' :: 'W' :: Datetime.digits 2 iso.2)
  | .day => String.ofList (Datetime.writeDate moment.year moment.month moment.day)

/-- A character, with the mark of universal time written as an offset. -/
def zuluAsOffset (char : Char) : List Char :=
  if char = 'Z' then "+00:00".toList else [char]

/-- A text with the mark of universal time written as an offset. -/
def replaceZulu (text : String) : String :=
  String.ofList (text.toList.flatMap zuluAsOffset)

namespace ClosedAt

/-- The time that a field holds, in universal time where no offset is given. -/
def moment? : ClosedAt → Option Datetime
  | datetime moment => some moment.assumeUtc
  | str text =>
      if text = "" then none
      else (Datetime.fromIsoformat (replaceZulu text)).map Datetime.assumeUtc
  | missing => none

end ClosedAt

/-- The key and the R of a trade with a usable R and a usable time. -/
def keyed (period : Period) : TradeRow → Option (String × ℚ)
  | .trade rMultiple closedAt =>
      (rOf rMultiple).bind fun r =>
        closedAt.moment?.map fun moment => (periodKey moment period, r)
  | .noTrade => none

/-- The sums of each period, the newest first. -/
def aggregateRByPeriod (trades : List TradeRow) (period : String) : List (String × RBucket) :=
  Grouping.summaries bucketOf (trades.filterMap (keyed (Period.ofName period)))

/-- A trade with a usable R and a usable time. -/
def Usable : TradeRow → Prop
  | .trade rMultiple closedAt => (rOf rMultiple).isSome ∧ closedAt.moment?.isSome
  | .noTrade => False

instance (row : TradeRow) : Decidable (Usable row) :=
  match row with
  | .trade _ _ => inferInstanceAs (Decidable (_ ∧ _))
  | .noTrade => .isFalse id

/-- Two times are written with the same day, with days of the same week, or with the same
month. -/
def SamePeriod (first second : Datetime) : Period → Prop
  | .day => first.year = second.year ∧ first.month = second.month ∧ first.day = second.day
  | .week => Calendar.weekNumber (dayNumber first) = Calendar.weekNumber (dayNumber second)
  | .month => first.year = second.year ∧ first.month = second.month

instance (first second : Datetime) (period : Period) :
    Decidable (SamePeriod first second period) :=
  match period with
  | .day => inferInstanceAs (Decidable (_ ∧ _))
  | .week => inferInstanceAs (Decidable (_ = _))
  | .month => inferInstanceAs (Decidable (_ ∧ _))

/-! ## What is asked of the sums -/

/-- The sums do not depend on the order of the trades. -/
def OrderFree (trades : List TradeRow) (period : String) : Prop :=
  ∀ others, trades.Perm others → aggregateRByPeriod others period = aggregateRByPeriod trades period

/-- The counts add up to the number of the usable trades. -/
def CountsAll (trades : List TradeRow) (period : String) : Prop :=
  ((aggregateRByPeriod trades period).map fun entry => entry.2.count).sum =
    (trades.filter fun row => Usable row).length

/-- Two fields hold the same instant, written as two times. -/
structure Respells (closedAt respelled : ClosedAt) (moment moment' : Datetime) : Prop where
  reads : closedAt.moment? = some moment
  readsOther : respelled.moment? = some moment'
  sameInstant : moment.instant = moment'.instant

/-! ## Sums -/

@[simp]
theorem count_bucketOf (rs : List ℚ) : (bucketOf rs).count = rs.length := by
  unfold bucketOf
  dsimp only
  split
  · rename_i none
    exact none.symm
  · rfl

/-- The sums of Rs do not depend on their order. -/
theorem bucketOf_perm {rs others : List ℚ} (same : rs.Perm others) :
    bucketOf rs = bucketOf others := by
  have wins := same.filter (fun r => decide (0 < r))
  have losses := same.filter (fun r => decide (r < 0))
  unfold bucketOf
  dsimp only
  rw [same.length_eq, same.sum_eq, wins.length_eq, wins.sum_eq, losses.length_eq, losses.sum_eq]

theorem orderFree (trades : List TradeRow) (period : String) : OrderFree trades period := by
  intro others same
  refine Grouping.summaries_eq_iff.mpr fun key => ?_
  have group := Grouping.members_perm (same.filterMap (keyed (Period.ofName period))) key
  exact ⟨⟨fun empty => (empty ▸ group).eq_nil, fun empty => (empty ▸ group.symm).eq_nil⟩,
    fun _ => (bucketOf_perm group).symm⟩

/-- A trade is in a group exactly when its R and its time are usable. -/
theorem isSome_keyed (period : Period) (row : TradeRow) :
    (keyed period row).isSome = true ↔ Usable row := by
  cases row with
  | noTrade => simp [keyed, Usable]
  | trade rMultiple closedAt =>
      change ((rOf rMultiple).bind fun r => closedAt.moment?.map fun moment =>
        (periodKey moment period, r)).isSome = true ↔
          (rOf rMultiple).isSome = true ∧ closedAt.moment?.isSome = true
      cases rOf rMultiple with
      | none => simp
      | some r => cases closedAt.moment? <;> simp

theorem countsAll (trades : List TradeRow) (period : String) : CountsAll trades period := by
  unfold CountsAll aggregateRByPeriod
  rw [Grouping.sum_sizes count_bucketOf, List.length_filterMap_eq_countP,
    ← List.countP_eq_length_filter]
  refine List.countP_congr fun row _ => ?_
  rw [isSome_keyed, decide_eq_true_iff]

/-! ## Keys -/

theorem writeDate_injective {year month day year' month' day' : Nat}
    (fits : year < 10000 ∧ month < 100 ∧ day < 100)
    (fits' : year' < 10000 ∧ month' < 100 ∧ day' < 100)
    (same : Datetime.writeDate year month day = Datetime.writeDate year' month' day') :
    year = year' ∧ month = month' ∧ day = day' := by
  have read := Datetime.readDate_writeDate fits.1 fits.2.1 fits.2.2
  rw [same, Datetime.readDate_writeDate fits'.1 fits'.2.1 fits'.2.2] at read
  cases read
  exact ⟨rfl, rfl, rfl⟩

theorem digits_injective {width number other : Nat} (fits : number < 10 ^ width)
    (fits' : other < 10 ^ width)
    (same : Datetime.digits width number = Datetime.digits width other) : number = other := by
  have read := Datetime.number?_digits fits
  rw [same, Datetime.number?_digits fits'] at read
  exact (Option.some.inj read).symm

/-- The parts of a date have few digits. -/
theorem dateFits (moment : Datetime) :
    moment.year < 10000 ∧ moment.month < 100 ∧ moment.day < 100 := by
  have valid := moment.valid
  have years := valid.inYears.2
  have months := valid.inYear.2
  have days : moment.day ≤ 31 := by
    refine valid.inMonth.2.trans ?_
    unfold Calendar.daysInMonth
    split <;> first | split | skip
    all_goals decide
  omega

theorem week_injective {iso iso' : Nat × Nat} (fits : iso.2 < 100) (fits' : iso'.2 < 100)
    (same : (toString iso.1).toList ++ '-' :: 'W' :: Datetime.digits 2 iso.2 =
      (toString iso'.1).toList ++ '-' :: 'W' :: Datetime.digits 2 iso'.2) : iso = iso' := by
  have years := List.append_inj' same (by simp [Datetime.length_digits])
  rcases years with ⟨year, week⟩
  have digits := (List.cons.inj (List.cons.inj week).2).2
  have value := Text.natValue_toDigits iso.1
  rw [← Nat.toList_repr, show iso.1.repr.toList = iso'.1.repr.toList from year, Nat.toList_repr,
    Text.natValue_toDigits] at value
  exact Prod.ext (Option.some.inj value).symm (digits_injective fits fits' digits)

/-- Two times have the same key exactly when they are written in the same period. -/
theorem periodKey_eq_iff (first second : Datetime) (period : Period) :
    periodKey first period = periodKey second period ↔ SamePeriod first second period := by
  have fits := dateFits first
  have fits' := dateFits second
  have valid := first.valid
  have valid' := second.valid
  cases period with
  | day =>
      unfold periodKey SamePeriod
      rw [String.ofList_inj]
      constructor
      · exact writeDate_injective fits fits'
      · rintro ⟨years, months, days⟩
        rw [years, months, days]
  | month =>
      unfold periodKey SamePeriod
      rw [String.ofList_inj]
      constructor
      · intro same
        have dates : Datetime.writeDate first.year first.month 1 =
            Datetime.writeDate second.year second.month 1 := by
          unfold Datetime.writeDate
          rw [same]
        have parts := writeDate_injective ⟨fits.1, fits.2.1, by decide⟩
          ⟨fits'.1, fits'.2.1, by decide⟩ dates
        exact ⟨parts.1, parts.2.1⟩
      · rintro ⟨years, months⟩
        rw [years, months]
  | week =>
      have week := Calendar.inWeek_isoCalendar valid.inYears.1 valid.inYear valid.inMonth
      have week' := Calendar.inWeek_isoCalendar valid'.inYears.1 valid'.inYear valid'.inMonth
      unfold periodKey SamePeriod dayNumber
      dsimp only
      rw [String.ofList_inj, ← week.1.eq_iff week'.1 week.2 week'.2]
      constructor
      · exact week_injective (week.1.number_lt week.2) (week'.1.number_lt week'.2)
      · intro same
        rw [same]

/-! ## Another spelling -/

theorem zulu_notMem_digits (width number : Nat) : 'Z' ∉ Datetime.digits width number := by
  intro member
  exact absurd (Datetime.isDigit_of_mem_digits member) (by decide)

theorem zulu_notMem_writeTime (time : TimeOfDay) : 'Z' ∉ Datetime.writeTime time := by
  intro member
  exact absurd (Datetime.not_zoneMark_of_mem_writeTime member) (by decide)

theorem zulu_notMem_writeOffset (offset : Option Int) : 'Z' ∉ Datetime.writeOffset offset := by
  cases offset with
  | none => simp [Datetime.writeOffset]
  | some micros =>
      have amount : ∀ time, 'Z' ∉ Datetime.writeAmount time := by
        intro time
        unfold Datetime.writeAmount
        split
        · simp [zulu_notMem_digits]
        · exact zulu_notMem_writeTime time
      have sign : 'Z' ≠ if micros < 0 then '-' else '+' := by split <;> decide
      simp [Datetime.writeOffset, amount, sign]

/-- The text of a time has no mark of universal time. -/
theorem zulu_notMem_write (moment : Datetime) : 'Z' ∉ moment.write 'T' := by
  unfold Datetime.write Datetime.writeDate
  simp [zulu_notMem_digits, zulu_notMem_writeTime, zulu_notMem_writeOffset]

theorem replaceZulu_of_notMem {chars : List Char} (noMark : 'Z' ∉ chars) :
    chars.flatMap zuluAsOffset = chars := by
  induction chars with
  | nil => rfl
  | cons char rest ih =>
      rcases not_or.mp (mt List.mem_cons.mpr noMark) with ⟨other, noLater⟩
      rw [List.flatMap_cons, ih noLater, zuluAsOffset, if_neg (Ne.symm other),
        List.singleton_append]

theorem moment?_str {text : String} (nonempty : text ≠ "") :
    (ClosedAt.str text).moment? =
      (Datetime.fromIsoformat (replaceZulu text)).map Datetime.assumeUtc :=
  if_neg nonempty

/-- A time that was written in the extended format is read as the time. -/
theorem moment?_isoformat (moment : Datetime) :
    (ClosedAt.str moment.isoformat).moment? = (ClosedAt.datetime moment).moment? := by
  have whole : replaceZulu moment.isoformat = moment.isoformat := by
    rw [replaceZulu, Datetime.isoformat, String.toList_ofList,
      replaceZulu_of_notMem (zulu_notMem_write moment)]
  rw [moment?_str (Datetime.isoformat_ne_empty moment), whole, Datetime.fromIsoformat_isoformat]
  rfl

/-- A time that was written with the mark of universal time is read as the time in universal
time. -/
theorem moment?_zulu {moment : Datetime} (plain : moment.offset = none) :
    (ClosedAt.str (moment.isoformat ++ "Z")).moment? = (ClosedAt.datetime moment).moment? := by
  have whole : replaceZulu (moment.isoformat ++ "Z") = moment.assumeUtc.isoformat := by
    rw [replaceZulu, Datetime.isoformat, String.toList_append, String.toList_ofList,
      List.flatMap_append, replaceZulu_of_notMem (zulu_notMem_write moment), Datetime.isoformat]
    have utc : moment.assumeUtc.offset = some 0 :=
      congrArg (fun offset : Option Int => some (offset.getD 0)) plain
    apply congrArg String.ofList
    change _ ++ Datetime.writeOffset moment.offset ++ _ =
      _ ++ Datetime.writeOffset moment.assumeUtc.offset
    rw [utc, plain, List.append_assoc]
    rfl
  have nonempty : moment.isoformat ++ "Z" ≠ "" := by
    intro empty
    have chars := congrArg String.toList empty
    simp at chars
  rw [moment?_str nonempty, whole, Datetime.fromIsoformat_isoformat]
  rfl

/-- The sums stay when a trade's time is written in another way exactly when the trade has no
usable R or both times are written in the same period. -/
theorem aggregate_replace_iff (before after : List TradeRow) (rMultiple : Val)
    {closedAt respelled : ClosedAt} {moment moment' : Datetime}
    (reads : closedAt.moment? = some moment) (readsOther : respelled.moment? = some moment')
    (period : String) :
    aggregateRByPeriod (before ++ .trade rMultiple respelled :: after) period =
        aggregateRByPeriod (before ++ .trade rMultiple closedAt :: after) period ↔
      rOf rMultiple = none ∨ SamePeriod moment moment' (Period.ofName period) := by
  unfold aggregateRByPeriod
  rw [List.filterMap_append, List.filterMap_append, List.filterMap_cons, List.filterMap_cons]
  unfold keyed
  simp only [reads, readsOther]
  cases rOf rMultiple with
  | none => simp
  | some r =>
      simp only [Option.bind_some, Option.map_some, reduceCtorEq, false_or]
      rw [← periodKey_eq_iff, Grouping.summaries_rekey_iff count_bucketOf, eq_comm]

namespace Sample

/-- Half an hour before midnight in universal time. -/
def evening : Datetime :=
  ⟨2026, 7, 1, ⟨23, 30, 0, 0⟩, some 0, by decide⟩

/-- The same instant in Berlin. -/
def night : Datetime :=
  ⟨2026, 7, 2, ⟨1, 30, 0, 0⟩, some 7200000000, by decide⟩

end Sample

/-- The mark of universal time and an offset of two hours write one instant on two days. -/
theorem respells_sample : Respells (.str "2026-07-01T23:30:00Z") (.str "2026-07-02T01:30:00+02:00")
    Sample.evening Sample.night where
  reads := by decide +kernel
  readsOther := by decide +kernel
  sameInstant := by decide

end EaBot.Review
