import EaBot.Foundation.Text

/-!
# Dates with a time of day

A point in time is a calendar date of the proleptic Gregorian calendar with a time of
day in microseconds, and with an offset from universal time where one is known.  Its
text is the extended format of ISO 8601, and reading accepts the basic and the extended
formats, also with a week instead of a month.

A text that was written is read as the point in time that it was written from.
-/

namespace EaBot.Foundation

/-! ## The calendar -/

namespace Calendar

/-- Leap years have a February of 29 days. -/
def IsLeap (year : Nat) : Prop :=
  year % 4 = 0 ∧ (year % 100 ≠ 0 ∨ year % 400 = 0)

instance (year : Nat) : Decidable (IsLeap year) :=
  inferInstanceAs (Decidable (_ ∧ _))

/-- The days of a month. -/
def daysInMonth (year : Nat) : Nat → Nat
  | 1 | 3 | 5 | 7 | 8 | 10 | 12 => 31
  | 4 | 6 | 9 | 11 => 30
  | 2 => if IsLeap year then 29 else 28
  | _ => 0

/-- The days before the first of January. -/
def daysBeforeYear (year : Nat) : Nat :=
  (year - 1) * 365 + (year - 1) / 4 - (year - 1) / 100 + (year - 1) / 400

/-- The days of a year before the first of a month. -/
def daysBeforeMonth (year month : Nat) : Nat :=
  ((List.range month).map (daysInMonth year)).sum

/-- The number of a day, where the first of January of year 1 has the number 1. -/
def ordinal (year month day : Nat) : Nat :=
  daysBeforeYear year + daysBeforeMonth year month + day

/-- The month and the day of the day after so many days of a year. -/
def monthAndDay (year : Nat) (days : Nat) : Nat × Nat :=
  let month := ((List.range 13).filter fun month =>
    decide (0 < month) && decide (daysBeforeMonth year month ≤ days)).length
  (month, days - daysBeforeMonth year month + 1)

/-- The date of a day from its number. -/
def ofOrdinal (number : Nat) : Nat × Nat × Nat :=
  let days := number - 1
  let inCycle := days % 146097
  let inCentury := inCycle % 36524
  let inQuad := inCentury % 1461
  let year := days / 146097 * 400 + inCycle / 36524 * 100 + inCentury / 1461 * 4 + inQuad / 365 + 1
  -- The last day of a leap year falls out of the years of 365 days.
  if inQuad / 365 = 4 ∨ inCycle / 36524 = 4 then (year - 1, 12, 31)
  else (year, monthAndDay year (inQuad % 365))

/-- The number of the Monday of the first week of a year, the week that holds the fourth
of January. -/
def firstMonday (year : Nat) : Nat :=
  let first := ordinal year 1 1
  let weekday := (first + 6) % 7
  if 3 < weekday then first + 7 - weekday else first - weekday

/-- Whether a year has a week of this number. -/
def HasWeek (year week : Nat) : Prop :=
  0 < week ∧ (week < 53 ∨ week = 53 ∧
    (ordinal year 1 1 % 7 = 4 ∨ ordinal year 1 1 % 7 = 3 ∧ IsLeap year))

instance (year week : Nat) : Decidable (HasWeek year week) :=
  inferInstanceAs (Decidable (_ ∧ _))

/-- The date of a day of a week. -/
def ofWeek (year week day : Nat) : Option (Nat × Nat × Nat) :=
  if 1 ≤ year ∧ HasWeek year week ∧ 0 < day ∧ day < 8 then
    some (ofOrdinal (firstMonday year + (week - 1) * 7 + (day - 1)))
  else none

end Calendar

/-! ## Points in time -/

/-- A time of day, not yet known to lie within a day. -/
structure TimeOfDay where
  hour : Nat
  minute : Nat
  second : Nat
  microsecond : Nat
deriving DecidableEq

/-- The microseconds of a day. -/
def microsecondsPerDay : Nat := 86400000000

namespace TimeOfDay

/-- The microseconds since midnight. -/
def microseconds (time : TimeOfDay) : Nat :=
  ((time.hour * 60 + time.minute) * 60 + time.second) * 1000000 + time.microsecond

/-- The time after so many microseconds. -/
def ofMicroseconds (micros : Nat) : TimeOfDay :=
  { hour := micros / 3600000000, minute := micros / 60000000 % 60,
    second := micros / 1000000 % 60, microsecond := micros % 1000000 }

/-- The time lies within a day. -/
def Valid (time : TimeOfDay) : Prop :=
  time.hour < 24 ∧ time.minute < 60 ∧ time.second < 60 ∧ time.microsecond < 1000000

instance (time : TimeOfDay) : Decidable time.Valid :=
  inferInstanceAs (Decidable (_ ∧ _))

theorem microseconds_ofMicroseconds (micros : Nat) :
    (ofMicroseconds micros).microseconds = micros := by
  unfold ofMicroseconds microseconds
  dsimp only
  omega

theorem valid_ofMicroseconds {micros : Nat} (within : micros < microsecondsPerDay) :
    (ofMicroseconds micros).Valid := by
  unfold microsecondsPerDay at within
  unfold ofMicroseconds Valid
  dsimp only
  omega

end TimeOfDay

/-- The parts of a date, a time of day and an offset belong to a point in time. -/
structure Datetime.Valid (year month day : Nat) (time : TimeOfDay) (offset : Option Int) :
    Prop where
  inYears : 1 ≤ year ∧ year ≤ 9999
  inYear : 1 ≤ month ∧ month ≤ 12
  inMonth : 1 ≤ day ∧ day ≤ Calendar.daysInMonth year month
  inDay : time.Valid
  inZones : ∀ micros, offset = some micros → micros.natAbs < microsecondsPerDay

/-- A date with a time of day.  The offset from universal time is in microseconds and
missing where it is not known. -/
structure Datetime where
  year : Nat
  month : Nat
  day : Nat
  time : TimeOfDay
  offset : Option Int
  valid : Datetime.Valid year month day time offset
deriving DecidableEq

namespace Datetime

instance (year month day : Nat) (time : TimeOfDay) (offset : Option Int) :
    Decidable (Valid year month day time offset) :=
  decidable_of_iff
    ((1 ≤ year ∧ year ≤ 9999) ∧ (1 ≤ month ∧ month ≤ 12) ∧
      (1 ≤ day ∧ day ≤ Calendar.daysInMonth year month) ∧ time.Valid ∧
      ∀ micros ∈ offset, micros.natAbs < microsecondsPerDay)
    ⟨fun parts => ⟨parts.1, parts.2.1, parts.2.2.1, parts.2.2.2.1, parts.2.2.2.2⟩,
      fun valid => ⟨valid.inYears, valid.inYear, valid.inMonth, valid.inDay, valid.inZones⟩⟩

/-- The point in time with the given parts, when there is one. -/
def make? (year month day : Nat) (time : TimeOfDay) (offset : Option Int) : Option Datetime :=
  if valid : Valid year month day time offset then some ⟨year, month, day, time, offset, valid⟩
  else none

theorem valid_assumeUtc (moment : Datetime) :
    Valid moment.year moment.month moment.day moment.time (some (moment.offset.getD 0)) := by
  refine ⟨moment.valid.inYears, moment.valid.inYear, moment.valid.inMonth, moment.valid.inDay, ?_⟩
  intro micros same
  cases same
  cases known : moment.offset with
  | none => decide
  | some micros => exact moment.valid.inZones micros known

/-- The same date and time with an offset of zero where none is known. -/
def assumeUtc (moment : Datetime) : Datetime :=
  ⟨moment.year, moment.month, moment.day, moment.time, some (moment.offset.getD 0),
    valid_assumeUtc moment⟩

/-- The microseconds since the epoch, in universal time. -/
def instant (moment : Datetime) : Int :=
  ((Calendar.ordinal moment.year moment.month moment.day : Int) - 719163) * microsecondsPerDay +
    moment.time.microseconds - moment.offset.getD 0

/-- The point in universal time after so many microseconds since the epoch. -/
def ofInstant? (micros : Int) : Option Datetime :=
  let number := micros / microsecondsPerDay + 719163
  if 0 < number then
    let date := Calendar.ofOrdinal number.toNat
    make? date.1 date.2.1 date.2.2
      (TimeOfDay.ofMicroseconds (micros % microsecondsPerDay).toNat) (some 0)
  else none

/-- The point in universal time at a number of seconds since the epoch. -/
def fromTimestamp? (seconds : ℚ) : Option Datetime :=
  ofInstant? (Text.roundHalfEven (seconds * 1000000))

/-! ## Writing -/

/-- The lowest decimal digits of a number. -/
def digits : Nat → Nat → List Char
  | 0, _ => []
  | width + 1, number => digits width (number / 10) ++ [Nat.digitChar (number % 10)]

/-- The text of a time, with a fraction where there is one. -/
def writeTime (time : TimeOfDay) : List Char :=
  digits 2 time.hour ++ ':' :: digits 2 time.minute ++ ':' :: digits 2 time.second ++
    if time.microsecond = 0 then [] else '.' :: digits 6 time.microsecond

/-- The text of the amount of an offset, with seconds and a fraction where there are some. -/
def writeAmount (time : TimeOfDay) : List Char :=
  if time.second = 0 ∧ time.microsecond = 0 then
    digits 2 time.hour ++ ':' :: digits 2 time.minute
  else writeTime time

/-- The text of an offset. -/
def writeOffset : Option Int → List Char
  | none => []
  | some micros =>
      (if micros < 0 then '-' else '+') ::
        writeAmount (TimeOfDay.ofMicroseconds micros.natAbs)

/-- The text of a date. -/
def writeDate (year month day : Nat) : List Char :=
  digits 4 year ++ '-' :: digits 2 month ++ '-' :: digits 2 day

/-- The text of a point in time, with a mark between the date and the time. -/
def write (mark : Char) (moment : Datetime) : List Char :=
  writeDate moment.year moment.month moment.day ++ mark :: writeTime moment.time ++
    writeOffset moment.offset

/-- The text of a point in time in the extended format. -/
def isoformat (moment : Datetime) : String :=
  String.ofList (moment.write 'T')

/-! ## Reading -/

/-- The value of a run of digits. -/
def number? (chars : List Char) : Option Nat :=
  if chars.all Char.isDigit then
    some (chars.foldl (fun value char => 10 * value + (char.toNat - 48)) 0)
  else none

/-- The number that the next two characters write, and the characters after them. -/
def pair? : List Char → Option (Nat × List Char)
  | tens :: ones :: rest => (number? [tens, ones]).map fun value => (value, rest)
  | _ => none

/-- The fraction of a second in microseconds.  Digits after the sixth are dropped. -/
def fraction? (chars : List Char) : Option Nat :=
  if chars ≠ [] ∧ chars.all Char.isDigit then
    (number? (chars.take 6)).map fun value => value * 10 ^ (6 - chars.length)
  else none

/-- The characters after the separator of two parts, which stands either between all
parts of a time or between none. -/
def nextPart? (separated : Bool) (chars : List Char) : Option (List Char) :=
  if separated then
    match chars with
    | ':' :: rest => some rest
    | _ => none
  else some chars

/-- The time that a text writes. -/
def readTime (chars : List Char) : Option TimeOfDay := do
  let (hour, chars) ← pair? chars
  if chars = [] then
    return ⟨hour, 0, 0, 0⟩
  let separated : Bool := chars.head? = some ':'
  let (minute, chars) ← pair? (← nextPart? separated chars)
  if chars = [] then
    return ⟨hour, minute, 0, 0⟩
  let (second, chars) ← pair? (← nextPart? separated chars)
  match chars with
  | [] => return ⟨hour, minute, second, 0⟩
  | mark :: rest =>
      if mark = '.' ∨ mark = ',' then
        return ⟨hour, minute, second, ← fraction? rest⟩
      else none

/-- Whether an offset begins with the character. -/
def isZoneMark (char : Char) : Bool :=
  char = '+' ∨ char = '-' ∨ char = 'Z'

/-- The offset that a text writes after a time. -/
def readOffset : List Char → Option (Option Int)
  | [] => some none
  | ['Z'] => some (some 0)
  | '+' :: chars => (readTime chars).map fun time => some (time.microseconds : Int)
  | '-' :: chars => (readTime chars).map fun time => some (-(time.microseconds : Int))
  | _ => none

/-- The date that a text writes, as a day of a month or as a day of a week. -/
def readDate (chars : List Char) : Option (Nat × Nat × Nat) := do
  let year ← number? (chars.take 4)
  let chars := chars.drop 4
  let separated : Bool := chars.head? = some '-'
  let chars := if separated then chars.drop 1 else chars
  match chars with
  | 'W' :: chars =>
      let (week, chars) ← pair? chars
      match separated, chars with
      | _, [] => Calendar.ofWeek year week 1
      | true, ['-', day] => Calendar.ofWeek year week (← number? [day])
      | false, [day] => Calendar.ofWeek year week (← number? [day])
      | _, _ => none
  | chars =>
      let (month, chars) ← pair? chars
      match separated, chars with
      | true, ['-', tens, ones] => return (year, month, ← number? [tens, ones])
      | false, [tens, ones] => return (year, month, ← number? [tens, ones])
      | _, _ => none

/-- The length of the date at the start of a text. -/
def dateLength (chars : List Char) : Nat :=
  if chars.length = 7 then 7
  else if chars[4]? = some '-' then
    if chars[5]? = some 'W' then
      if chars[8]? = some '-' then
        if (chars[10]?).any Char.isDigit then 8 else 10
      else 8
    else 10
  else if chars[4]? = some 'W' then
    let last := 7 + ((chars.drop 7).takeWhile Char.isDigit).length
    if last < 9 then last else if last % 2 = 0 then 7 else 8
  else 8

/-- The point in time that a text writes. -/
def read (chars : List Char) : Option Datetime :=
  if chars.length < 7 then none
  else do
    let (year, month, day) ← readDate (chars.take (dateLength chars))
    match chars.drop (dateLength chars) with
    | [] => make? year month day ⟨0, 0, 0, 0⟩ none
    | _ :: chars =>
        let time ← readTime (chars.takeWhile fun char => !isZoneMark char)
        let offset ← readOffset (chars.dropWhile fun char => !isZoneMark char)
        make? year month day time offset

/-- The point in time that a text writes. -/
def fromIsoformat (text : String) : Option Datetime :=
  read text.toList

/-! ## What was written is read -/

theorem length_digits (width number : Nat) : (digits width number).length = width := by
  induction width generalizing number with
  | zero => rfl
  | succ width ih => rw [digits, List.length_append, ih, List.length_singleton]

theorem isDigit_digitChar {digit : Nat} (single : digit < 10) :
    (Nat.digitChar digit).isDigit = true := by
  revert digit
  decide

theorem toNat_digitChar {digit : Nat} (single : digit < 10) :
    (Nat.digitChar digit).toNat - 48 = digit := by
  revert digit
  decide

theorem isDigit_of_mem_digits {width number : Nat} {char : Char}
    (member : char ∈ digits width number) : char.isDigit = true := by
  induction width generalizing number with
  | zero => cases member
  | succ width ih =>
      rcases List.mem_append.mp member with before | last
      · exact ih before
      · rw [List.mem_singleton.mp last]
        exact isDigit_digitChar (Nat.mod_lt _ (by decide))

theorem all_isDigit_digits (width number : Nat) :
    (digits width number).all Char.isDigit = true :=
  List.all_eq_true.mpr fun _ member => isDigit_of_mem_digits member

/-- The digits of a number that fits are read as the number. -/
theorem number?_digits {width number : Nat} (fits : number < 10 ^ width) :
    number? (digits width number) = some number := by
  have value : ∀ width number, (digits width number).foldl
      (fun value char => 10 * value + (char.toNat - 48)) 0 = number % 10 ^ width := by
    intro width
    induction width with
    | zero => intro number; exact (Nat.mod_one number).symm
    | succ width ih =>
        intro number
        rw [digits, List.foldl_append, ih, List.foldl_cons, List.foldl_nil,
          toNat_digitChar (Nat.mod_lt _ (by decide)), Nat.pow_succ', Nat.mod_mul]
        omega
  rw [number?, if_pos (all_isDigit_digits width number), value, Nat.mod_eq_of_lt fits]

theorem pair?_digits {number : Nat} (fits : number < 100) (rest : List Char) :
    pair? (digits 2 number ++ rest) = some (number, rest) := by
  have read : number? (digits 2 number) = some number := number?_digits fits
  change (number? (digits 2 number)).map (fun value => (value, rest)) = _
  rw [read, Option.map_some]

theorem fraction?_digits {number : Nat} (fits : number < 1000000) :
    fraction? (digits 6 number) = some number := by
  have some : digits 6 number ≠ [] := by
    intro empty
    have width := congrArg List.length empty
    rw [length_digits] at width
    cases width
  have whole : (digits 6 number).take 6 = digits 6 number :=
    List.take_of_length_le (length_digits 6 number).le
  rw [fraction?, if_pos ⟨some, all_isDigit_digits 6 number⟩, whole, number?_digits fits,
    length_digits]
  exact congrArg Option.some (Nat.mul_one number)

/-- A time within a day is read from its text. -/
theorem readTime_writeTime {time : TimeOfDay} (valid : time.Valid) :
    readTime (writeTime time) = some time := by
  rcases time with ⟨hour, minute, second, microsecond⟩
  rcases valid with ⟨hours, minutes, seconds, micros⟩
  dsimp only at hours minutes seconds micros
  unfold writeTime readTime
  simp only [List.append_assoc, List.cons_append]
  rw [pair?_digits (by omega)]
  simp only [Option.bind_eq_bind, Option.bind_some, reduceCtorEq, if_false, List.head?_cons,
    decide_true, nextPart?, if_true]
  rw [pair?_digits (by omega)]
  simp only [Option.bind_some, reduceCtorEq, if_false]
  rw [pair?_digits (by omega)]
  by_cases whole : microsecond = 0
  · simp [whole]
  · simp [whole, fraction?_digits micros]

theorem readTime_writeAmount {time : TimeOfDay} (valid : time.Valid) :
    readTime (writeAmount time) = some time := by
  unfold writeAmount
  split
  · rename_i whole
    rcases time with ⟨hour, minute, second, microsecond⟩
    rcases whole with ⟨rfl, rfl⟩
    rcases valid with ⟨hours, minutes, -, -⟩
    dsimp only at hours minutes
    unfold readTime
    dsimp only
    rw [pair?_digits (by omega)]
    simp only [Option.bind_eq_bind, Option.bind_some, reduceCtorEq, if_false, List.head?_cons,
      decide_true, nextPart?, if_true]
    rw [← List.append_nil (digits 2 minute), pair?_digits (by omega)]
    simp
  · exact readTime_writeTime valid

/-- An offset of less than a day is read from its text. -/
theorem readOffset_writeOffset {offset : Option Int}
    (within : ∀ micros, offset = some micros → micros.natAbs < microsecondsPerDay) :
    readOffset (writeOffset offset) = some offset := by
  cases offset with
  | none => rfl
  | some micros =>
      have amount := readTime_writeAmount
        (TimeOfDay.valid_ofMicroseconds (within micros rfl))
      have size := TimeOfDay.microseconds_ofMicroseconds micros.natAbs
      simp only [writeOffset]
      by_cases negative : micros < 0
      · rw [if_pos negative]
        simp only [readOffset, amount, Option.map_some, size]
        congr 2
        omega
      · rw [if_neg negative]
        simp only [readOffset, amount, Option.map_some, size]
        congr 2
        omega

theorem not_zoneMark_of_isDigit {char : Char} (digit : char.isDigit = true) :
    isZoneMark char = false := by
  unfold isZoneMark
  rw [decide_eq_false_iff_not]
  rintro (same | same | same) <;> subst same <;> exact absurd digit (by decide)

/-- No character of a time begins an offset. -/
theorem not_zoneMark_of_mem_writeTime {time : TimeOfDay} {char : Char}
    (member : char ∈ writeTime time) : isZoneMark char = false := by
  have colon : isZoneMark ':' = false := by decide
  have point : isZoneMark '.' = false := by decide
  unfold writeTime at member
  simp only [List.append_assoc, List.cons_append, List.mem_append, List.mem_cons] at member
  rcases member with hour | rfl | minute | rfl | second | fraction
  · exact not_zoneMark_of_isDigit (isDigit_of_mem_digits hour)
  · exact colon
  · exact not_zoneMark_of_isDigit (isDigit_of_mem_digits minute)
  · exact colon
  · exact not_zoneMark_of_isDigit (isDigit_of_mem_digits second)
  · split at fraction
    · cases fraction
    · rcases List.mem_cons.mp fraction with rfl | micros
      · exact point
      · exact not_zoneMark_of_isDigit (isDigit_of_mem_digits micros)

/-- An offset begins at its first character. -/
theorem writeOffset_head (micros : Int) :
    ∃ mark rest, writeOffset (some micros) = mark :: rest ∧ isZoneMark mark = true := by
  refine ⟨_, _, rfl, ?_⟩
  split <;> decide

theorem takeWhile_writeOffset (offset : Option Int) :
    (writeOffset offset).takeWhile (fun char => !isZoneMark char) = [] := by
  cases offset with
  | none => rfl
  | some micros =>
      rcases writeOffset_head micros with ⟨mark, rest, text, zone⟩
      rw [text, List.takeWhile_cons_of_neg (by simp [zone])]

theorem dropWhile_writeOffset (offset : Option Int) :
    (writeOffset offset).dropWhile (fun char => !isZoneMark char) = writeOffset offset := by
  cases offset with
  | none => rfl
  | some micros =>
      rcases writeOffset_head micros with ⟨mark, rest, text, zone⟩
      rw [text, List.dropWhile_cons_of_neg (by simp [zone])]

theorem readDate_writeDate {year month day : Nat} (years : year < 10000) (months : month < 100)
    (days : day < 100) : readDate (writeDate year month day) = some (year, month, day) := by
  have split := length_digits 4 year
  have inYear : number? (digits 4 year) = some year := number?_digits years
  have inMonth := pair?_digits months ('-' :: digits 2 day)
  have inDay : number? (digits 2 day) = some day := number?_digits days
  have noWeek : ∀ rest, digits 2 month ++ '-' :: digits 2 day ≠ 'W' :: rest := by
    intro rest same
    have head : (Nat.digitChar (month / 10 % 10)) = 'W' := (List.cons.inj same).1
    have digit := isDigit_digitChar (Nat.mod_lt (month / 10) (show 0 < 10 by decide))
    rw [head] at digit
    exact absurd digit (by decide)
  unfold readDate writeDate
  rw [List.append_assoc, List.take_left' split, List.drop_left' split, inYear]
  simp only [List.cons_append, List.head?_cons, decide_true, if_true, List.drop_succ_cons,
    List.drop_zero, Option.bind_eq_bind, Option.bind_some]
  rw [inMonth]
  change (number? (digits 2 day)).bind _ = _
  rw [inDay]
  rfl

theorem length_writeDate (year month day : Nat) : (writeDate year month day).length = 10 := by
  simp [writeDate, length_digits]

/-- The date at the start of a text in the extended format has ten characters. -/
theorem dateLength_writeDate (year month day : Nat) (rest : List Char) :
    dateLength (writeDate year month day ++ rest) = 10 := by
  have longer : (writeDate year month day ++ rest).length ≠ 7 := by
    rw [List.length_append, length_writeDate]
    omega
  have dash : (writeDate year month day ++ rest)[4]? = some '-' := rfl
  have noWeek : (writeDate year month day ++ rest)[5]? ≠ some 'W' := by
    intro week
    have head : Nat.digitChar (month / 10 % 10) = 'W' := Option.some.inj week
    have digit := isDigit_digitChar (Nat.mod_lt (month / 10) (show 0 < 10 by decide))
    rw [head] at digit
    exact absurd digit (by decide)
  rw [dateLength, if_neg longer, if_pos dash, if_neg noWeek]

theorem make?_parts (moment : Datetime) :
    make? moment.year moment.month moment.day moment.time moment.offset = some moment :=
  dif_pos moment.valid

/-- A point in time is read from its text, whatever mark stands between date and time. -/
theorem read_write (mark : Char) (moment : Datetime) : read (moment.write mark) = some moment := by
  have valid := moment.valid
  have days : moment.day ≤ 31 := by
    refine valid.inMonth.2.trans ?_
    unfold Calendar.daysInMonth
    split <;> first | split | skip
    all_goals decide
  have date : readDate (writeDate moment.year moment.month moment.day) =
      some (moment.year, moment.month, moment.day) :=
    readDate_writeDate (by have := valid.inYears.2; omega) (by have := valid.inYear.2; omega)
      (by omega)
  have width := length_writeDate moment.year moment.month moment.day
  have inTime : ∀ char ∈ writeTime moment.time, (!isZoneMark char) = true := by
    intro char member
    rw [not_zoneMark_of_mem_writeTime member]
    rfl
  have time : (writeTime moment.time ++ writeOffset moment.offset).takeWhile
      (fun char => !isZoneMark char) = writeTime moment.time := by
    rw [List.takeWhile_append_of_pos inTime, takeWhile_writeOffset, List.append_nil]
  have offset : (writeTime moment.time ++ writeOffset moment.offset).dropWhile
      (fun char => !isZoneMark char) = writeOffset moment.offset := by
    rw [List.dropWhile_append_of_pos inTime, dropWhile_writeOffset]
  unfold read write
  rw [List.append_assoc, dateLength_writeDate, List.take_left' width, List.drop_left' width, date,
    if_neg (by rw [List.length_append, width]; omega)]
  simp only [Option.bind_eq_bind, Option.bind_some, List.cons_append, time, offset,
    readTime_writeTime valid.inDay, readOffset_writeOffset valid.inZones]
  exact make?_parts moment

theorem fromIsoformat_isoformat (moment : Datetime) :
    fromIsoformat moment.isoformat = some moment := by
  rw [fromIsoformat, isoformat, String.toList_ofList, read_write]

/-! ## The ends of a text -/

/-- A text whose last character is a digit. -/
def EndsInDigit (chars : List Char) : Prop :=
  ∃ front last, chars = front ++ [last] ∧ last.isDigit = true

theorem EndsInDigit.append {chars : List Char} (ends : EndsInDigit chars) (before : List Char) :
    EndsInDigit (before ++ chars) := by
  rcases ends with ⟨front, last, rfl, digit⟩
  exact ⟨before ++ front, last, (List.append_assoc _ _ _).symm, digit⟩

theorem EndsInDigit.cons {chars : List Char} (ends : EndsInDigit chars) (char : Char) :
    EndsInDigit (char :: chars) :=
  ends.append [char]

theorem endsInDigit_digits (width number : Nat) : EndsInDigit (digits (width + 1) number) :=
  ⟨_, _, rfl, isDigit_digitChar (Nat.mod_lt _ (by decide))⟩

theorem endsInDigit_writeTime (time : TimeOfDay) : EndsInDigit (writeTime time) := by
  unfold writeTime
  by_cases whole : time.microsecond = 0
  · rw [if_pos whole, List.append_nil]
    exact ((endsInDigit_digits 1 _).cons _).append _
  · rw [if_neg whole]
    exact ((endsInDigit_digits 5 _).cons _).append _

theorem endsInDigit_writeAmount (time : TimeOfDay) : EndsInDigit (writeAmount time) := by
  unfold writeAmount
  split
  · exact ((endsInDigit_digits 1 _).cons _).append _
  · exact endsInDigit_writeTime time

/-- The text of a point in time begins and ends with a digit. -/
theorem write_ends (mark : Char) (moment : Datetime) :
    EndsInDigit (moment.write mark) ∧
      ∃ first rest, moment.write mark = first :: rest ∧ first.isDigit = true := by
  constructor
  · unfold write
    cases moment.offset with
    | none =>
        rw [writeOffset, List.append_nil]
        exact ((endsInDigit_writeTime _).cons _).append _
    | some micros => exact ((endsInDigit_writeAmount _).cons _).append _
  · exact ⟨_, _, rfl, isDigit_digitChar (Nat.mod_lt _ (by decide))⟩

theorem not_isSpace_of_isDigit {char : Char} (digit : char.isDigit = true) :
    Text.isSpace char = false := by
  have range : 48 ≤ char.toNat ∧ char.toNat ≤ 57 := Char.isDigit_iff_toNat.mp digit
  unfold Text.isSpace
  simp only [Bool.or_eq_false_iff, Bool.and_eq_false_iff, decide_eq_false_iff_not,
    beq_eq_false_iff_ne]
  omega

theorem strip_isoformat (moment : Datetime) : Text.strip moment.isoformat = moment.isoformat := by
  rcases write_ends 'T' moment with
    ⟨⟨front, last, ends, lastDigit⟩, first, rest, starts, firstDigit⟩
  have head := not_isSpace_of_isDigit firstDigit
  have tail := not_isSpace_of_isDigit lastDigit
  unfold Text.strip isoformat
  rw [String.toList_ofList]
  apply congrArg String.ofList
  rw [Text.stripChars, starts, List.dropWhile_cons_of_neg (by simp [head]), ← starts, ends,
    List.reverse_append, List.reverse_singleton, List.singleton_append,
    List.dropWhile_cons_of_neg (by simp [tail]), List.reverse_cons, List.reverse_reverse]

theorem isoformat_ne_empty (moment : Datetime) : moment.isoformat ≠ "" := by
  intro empty
  have chars := congrArg String.toList empty
  rw [isoformat, String.toList_ofList] at chars
  cases chars

end Datetime

end EaBot.Foundation
