import EaBot.Foundation.Datetime
import Mathlib.Tactic.IntervalCases

/-!
# Weeks of the calendar

A week begins on a Monday and belongs to the year that holds its Thursday.  The year and the
number of a week are therefore another name for its Monday.
-/

namespace EaBot.Foundation.Calendar

/-- The year and the number of the week of a day. -/
def isoCalendar (year month day : Nat) : Nat × Nat :=
  let today := ordinal year month day
  if today < firstMonday year then
    (year - 1, (today - firstMonday (year - 1)) / 7 + 1)
  else if 52 ≤ (today - firstMonday year) / 7 ∧ firstMonday (year + 1) ≤ today then
    (year + 1, 1)
  else (year, (today - firstMonday year) / 7 + 1)

/-- The number of the week of a day, counted from the first of January of year 1, a Monday. -/
def weekNumber (number : Nat) : Nat :=
  (number - 1) / 7

/-- The week of a year that holds the day with a number. -/
structure InWeek (number : Nat) (week : Nat × Nat) : Prop where
  started : firstMonday week.1 ≤ number
  notOver : number < firstMonday (week.1 + 1)
  number : week.2 = (number - firstMonday week.1) / 7 + 1

theorem ordinal_first (year : Nat) : ordinal year 1 1 = daysBeforeYear year + 1 := by
  simp [ordinal, daysBeforeMonth, daysInMonth]

/-- The first week of a year begins on a Monday at most three days from the first of January. -/
theorem firstMonday_spec {year : Nat} (positive : 0 < year) :
    firstMonday year % 7 = 1 ∧ firstMonday year ≤ daysBeforeYear year + 4 ∧
      daysBeforeYear year ≤ firstMonday year + 2 := by
  have start : 7 ≤ daysBeforeYear year ∨ daysBeforeYear year = 0 := by
    unfold daysBeforeYear
    omega
  unfold firstMonday
  rw [ordinal_first]
  dsimp only
  split <;> omega

/-- A year has 365 days, a leap year one more. -/
theorem daysBeforeYear_succ {year : Nat} (positive : 0 < year) :
    daysBeforeYear (year + 1) = daysBeforeYear year + if IsLeap year then 366 else 365 := by
  rcases Nat.exists_eq_succ_of_ne_zero positive.ne' with ⟨before, rfl⟩
  have fewer : before / 100 ≤ before / 4 := Nat.div_le_div_left (by decide) (by decide)
  have leap : IsLeap (before + 1) ↔
      4 ∣ before + 1 ∧ (¬ 100 ∣ before + 1 ∨ 400 ∣ before + 1) := by
    simp only [IsLeap, ne_eq, Nat.dvd_iff_mod_eq_zero]
  have century : 100 ∣ before + 1 → 4 ∣ before + 1 := (show 4 ∣ 100 by decide).trans
  have cycle : 400 ∣ before + 1 → 100 ∣ before + 1 := (show 100 ∣ 400 by decide).trans
  unfold daysBeforeYear
  rw [Nat.succ_eq_add_one, Nat.add_sub_cancel, Nat.add_sub_cancel, Nat.succ_div, Nat.succ_div,
    Nat.succ_div]
  simp only [leap]
  generalize before / 4 = fours at *
  generalize before / 100 = hundreds at *
  by_cases four : 4 ∣ before + 1
  · by_cases hundred : 100 ∣ before + 1
    · by_cases fourHundred : 400 ∣ before + 1
      · simp only [four, hundred, fourHundred]
        simp
        omega
      · simp only [four, hundred, fourHundred]
        simp
        omega
    · simp only [four, hundred, mt cycle hundred]
      simp
      omega
  · simp only [four, mt century four, mt cycle (mt century four)]
    simp
    omega

/-- The days before a month and those of the month fit into the year. -/
theorem daysBeforeMonth_add_le {year month day : Nat} (months : 1 ≤ month ∧ month ≤ 12)
    (days : day ≤ daysInMonth year month) :
    daysBeforeMonth year month + day ≤ if IsLeap year then 366 else 365 := by
  rcases months with ⟨low, high⟩
  by_cases leap : IsLeap year
  · interval_cases month <;>
      simp [daysBeforeMonth, List.range_succ, daysInMonth, leap] at days ⊢ <;> omega
  · interval_cases month <;>
      simp [daysBeforeMonth, List.range_succ, daysInMonth, leap] at days ⊢ <;> omega

/-- A day of a year lies between the ends of the year. -/
theorem ordinal_bounds {year month day : Nat} (positive : 0 < year)
    (months : 1 ≤ month ∧ month ≤ 12) (days : 1 ≤ day ∧ day ≤ daysInMonth year month) :
    daysBeforeYear year < ordinal year month day ∧
      ordinal year month day ≤ daysBeforeYear (year + 1) := by
  have within := daysBeforeMonth_add_le months days.2
  rw [daysBeforeYear_succ positive]
  unfold ordinal
  omega

/-- The first weeks of later years begin later, by whole weeks. -/
theorem firstMonday_lt {year later : Nat} (positive : 0 < year) (order : year < later) :
    firstMonday year + 364 ≤ firstMonday later := by
  have grows : ∀ count, daysBeforeYear year + 365 * count ≤ daysBeforeYear (year + count) := by
    intro count
    induction count with
    | zero => simp
    | succ count ih =>
        have next := daysBeforeYear_succ (show 0 < year + count by omega)
        rw [← Nat.add_assoc, next]
        split <;> omega
  have far := grows (later - year)
  rw [Nat.add_sub_cancel' order.le] at far
  have first := firstMonday_spec positive
  have second := firstMonday_spec (positive.trans order)
  omega

/-- The calendar names the week that a day lies in. -/
theorem inWeek_isoCalendar {year month day : Nat} (positive : 0 < year)
    (months : 1 ≤ month ∧ month ≤ 12) (days : 1 ≤ day ∧ day ≤ daysInMonth year month) :
    InWeek (ordinal year month day) (isoCalendar year month day) ∧
      0 < (isoCalendar year month day).1 := by
  have bounds := ordinal_bounds positive months days
  have here := firstMonday_spec positive
  have next := firstMonday_spec (show 0 < year + 1 by omega)
  have length := firstMonday_lt positive (Nat.lt_add_one year)
  have lastDay := daysBeforeYear_succ positive
  unfold isoCalendar
  dsimp only
  by_cases early : ordinal year month day < firstMonday year
  · rw [if_pos early]
    have second : 1 < year := by
      by_contra first
      have one : year = 1 := by omega
      subst one
      have monday : firstMonday 1 = 1 := by decide
      omega
    have before := firstMonday_spec (show 0 < year - 1 by omega)
    have whole := daysBeforeYear_succ (show 0 < year - 1 by omega)
    rw [Nat.sub_add_cancel second.le] at whole
    refine ⟨⟨?_, ?_, rfl⟩, Nat.sub_pos_of_lt second⟩
    · have days : 365 ≤ if IsLeap (year - 1) then 366 else 365 := by split <;> omega
      change firstMonday (year - 1) ≤ ordinal year month day
      omega
    · change ordinal year month day < firstMonday (year - 1 + 1)
      rwa [Nat.sub_add_cancel second.le]
  · rw [if_neg early]
    have order := not_lt.mp early
    by_cases late : firstMonday (year + 1) ≤ ordinal year month day
    · have weeks : 52 ≤ (ordinal year month day - firstMonday year) / 7 := by omega
      have after := firstMonday_lt (show 0 < year + 1 by omega) (Nat.lt_add_one (year + 1))
      rw [if_pos ⟨weeks, late⟩]
      refine ⟨⟨late, ?_, ?_⟩, Nat.succ_pos year⟩
      · change ordinal year month day < firstMonday (year + 1 + 1)
        omega
      · change 1 = (ordinal year month day - firstMonday (year + 1)) / 7 + 1
        omega
    · rw [if_neg (fun both => late both.2)]
      exact ⟨⟨order, not_le.mp late, rfl⟩, positive⟩

/-- The number of a week has two digits. -/
theorem InWeek.number_lt {number : Nat} {week : Nat × Nat} (inWeek : InWeek number week)
    (positive : 0 < week.1) : week.2 < 100 := by
  have started := firstMonday_spec positive
  have next := firstMonday_spec (show 0 < week.1 + 1 by omega)
  have length : daysBeforeYear (week.1 + 1) ≤ daysBeforeYear week.1 + 366 := by
    rw [daysBeforeYear_succ positive]
    split <;> omega
  have notOver := inWeek.notOver
  rw [inWeek.number]
  omega

/-- Two days lie in one week of a year exactly when they lie in one week. -/
theorem InWeek.eq_iff {first second : Nat} {week week' : Nat × Nat} (inFirst : InWeek first week)
    (inSecond : InWeek second week') (positive : 0 < week.1) (positive' : 0 < week'.1) :
    week = week' ↔ weekNumber first = weekNumber second := by
  have monday := firstMonday_spec positive
  have monday' := firstMonday_spec positive'
  have started := inFirst.started
  have started' := inSecond.started
  have number := inFirst.number
  have number' := inSecond.number
  unfold weekNumber
  constructor
  · rintro rfl
    omega
  · intro same
    have years : week.1 = week'.1 := by
      have notOver := inFirst.notOver
      have notOver' := inSecond.notOver
      rcases Nat.lt_trichotomy week.1 week'.1 with earlier | equal | later
      · have next := firstMonday_spec (show 0 < week.1 + 1 by omega)
        rcases Nat.eq_or_lt_of_le (Nat.succ_le_of_lt earlier) with follows | apart
        · rw [show week.1 + 1 = week'.1 from follows] at notOver
          omega
        · have far := firstMonday_lt (show 0 < week.1 + 1 by omega) apart
          omega
      · exact equal
      · have next := firstMonday_spec (show 0 < week'.1 + 1 by omega)
        rcases Nat.eq_or_lt_of_le (Nat.succ_le_of_lt later) with follows | apart
        · rw [show week'.1 + 1 = week.1 from follows] at notOver'
          omega
        · have far := firstMonday_lt (show 0 < week'.1 + 1 by omega) apart
          omega
    rw [years] at number started monday
    exact Prod.ext years (by omega)

end EaBot.Foundation.Calendar
