/-!
# The proleptic Gregorian calendar

Days are numbered from 1 January 1970, which is day 0, in both directions and without end. A year
is counted astronomically: the year before year 1 is year 0, and the one before that is year -1.

Both directions of the conversion work on years that begin in March, so that a leap day is the
last day of its year. Within a cycle of 400 such years a day splits into a century, a group of
four years, a year and a day of the year.

## Main definitions

* `CalendarDate`: a year, a month and a day of the month.
* `CalendarDate.Valid`: the date exists.
* `CalendarDate.dayNumber` and `CalendarDate.ofDayNumber`: the number of a day, and the day of a
  number.

## Main results

* `CalendarDate.dayNumber_ofDayNumber`: every number is the number of its day.
-/

namespace PullWatch

/-- A date: astronomical year, month from 1, and day of the month from 1. -/
structure CalendarDate where
  year : Int
  month : Nat
  day : Nat
  deriving DecidableEq, Repr

namespace CalendarDate

/-- A year with 366 days. -/
def IsLeap (year : Int) : Prop := year % 4 = 0 ∧ (year % 100 ≠ 0 ∨ year % 400 = 0)

instance (year : Int) : Decidable (IsLeap year) :=
  inferInstanceAs (Decidable (year % 4 = 0 ∧ (year % 100 ≠ 0 ∨ year % 400 = 0)))

/-- How many days a month has; a month outside 1 to 12 has none. -/
def daysInMonth (year : Int) : Nat → Nat
  | 2 => if IsLeap year then 29 else 28
  | 4 | 6 | 9 | 11 => 30
  | 1 | 3 | 5 | 7 | 8 | 10 | 12 => 31
  | _ => 0

/-- The date exists in the calendar. -/
def Valid (date : CalendarDate) : Prop :=
  1 ≤ date.day ∧ date.day ≤ daysInMonth date.year date.month

instance (date : CalendarDate) : Decidable date.Valid :=
  inferInstanceAs (Decidable (1 ≤ date.day ∧ date.day ≤ daysInMonth date.year date.month))

/-- Days in 400 years. -/
def daysPerCycle : Int := 146097

/-- The number of the first day of year 0 counted from March, relative to 1 January 1970. -/
def marchEpoch : Int := -719468

/-- Days between the first day of March and the first day of a month, for months counted from
March as month 0. -/
def daysBeforeMonth (fromMarch : Nat) : Nat := (153 * fromMarch + 2) / 5

/-- The number of a day, counted from 1 January 1970. -/
def dayNumber (date : CalendarDate) : Int :=
  let marchYear := if date.month ≤ 2 then date.year - 1 else date.year
  let fromMarch := if date.month ≤ 2 then date.month + 9 else date.month - 3
  let cycle := marchYear / 400
  let yearOfCycle := marchYear % 400
  cycle * daysPerCycle + yearOfCycle * 365 + yearOfCycle / 4 - yearOfCycle / 100
    + daysBeforeMonth fromMarch + date.day - 1 + marchEpoch

/-- The year and the day of the year, both from 0, of a day of the 400-year cycle. The last day of
a fourth century and of a group of four years is a leap day, which is why the quotients stop
at 3. -/
def yearAndDay (dayOfCycle : Nat) : Nat × Nat :=
  let century := min 3 (dayOfCycle / 36524)
  let dayOfCentury := dayOfCycle - century * 36524
  let group := dayOfCentury / 1461
  let dayOfGroup := dayOfCentury % 1461
  let yearOfGroup := min 3 (dayOfGroup / 365)
  (century * 100 + group * 4 + yearOfGroup, dayOfGroup - yearOfGroup * 365)

/-- The month, counted from March as month 0, of a day of the year. -/
def monthOfDay (dayOfYear : Nat) : Nat := (5 * dayOfYear + 2) / 153

/-- The day with a given number. -/
def ofDayNumber (number : Int) : CalendarDate :=
  let shifted := number - marchEpoch
  let (yearOfCycle, dayOfYear) := yearAndDay (shifted % daysPerCycle).toNat
  let fromMarch := monthOfDay dayOfYear
  let marchYear : Int := shifted / daysPerCycle * 400 + yearOfCycle
  { year := if fromMarch < 10 then marchYear else marchYear + 1
    month := if fromMarch < 10 then fromMarch + 3 else fromMarch - 9
    day := dayOfYear - daysBeforeMonth fromMarch + 1 }

theorem yearAndDay_sum {dayOfCycle : Nat} (h : dayOfCycle < 146097) :
    (yearAndDay dayOfCycle).1 * 365 + (yearAndDay dayOfCycle).1 / 4
      + (yearAndDay dayOfCycle).2 = dayOfCycle + (yearAndDay dayOfCycle).1 / 100 := by
  simp only [yearAndDay]
  obtain ⟨century, hcentury⟩ : ∃ c, c = min 3 (dayOfCycle / 36524) := ⟨_, rfl⟩
  rw [← hcentury]
  have : century = 0 ∨ century = 1 ∨ century = 2 ∨ century = 3 := by omega
  obtain ⟨day, hday⟩ : ∃ d, d = dayOfCycle - century * 36524 := ⟨_, rfl⟩
  have : day ≤ 36524 ∧ day + century * 36524 = dayOfCycle := by omega
  rw [← hday]
  obtain ⟨group, rest, hgroup⟩ : ∃ g r, day / 1461 = g ∧ day % 1461 = r ∧ day = g * 1461 + r := by
    exact ⟨_, _, rfl, rfl, by omega⟩
  obtain ⟨hg, hr, hsplit⟩ := hgroup
  have : group ≤ 24 ∧ rest < 1461 := by omega
  rw [hg, hr]
  obtain ⟨year, hyear⟩ : ∃ y, y = min 3 (rest / 365) := ⟨_, rfl⟩
  rw [← hyear]
  have : year ≤ 3 ∧ year * 365 ≤ rest := by omega
  have hfour : (century * 100 + group * 4 + year) / 4 = century * 25 + group := by omega
  have hhundred : (century * 100 + group * 4 + year) / 100 = century := by omega
  rw [hfour, hhundred]
  omega

theorem yearAndDay_fst_lt {dayOfCycle : Nat} (h : dayOfCycle < 146097) :
    (yearAndDay dayOfCycle).1 < 400 := by
  simp only [yearAndDay]
  omega

theorem yearAndDay_snd_lt (dayOfCycle : Nat) : (yearAndDay dayOfCycle).2 < 366 := by
  simp only [yearAndDay]
  omega

theorem monthOfDay_lt {dayOfYear : Nat} (h : dayOfYear < 366) : monthOfDay dayOfYear < 12 := by
  simp only [monthOfDay]
  omega

theorem daysBeforeMonth_monthOfDay_le (dayOfYear : Nat) :
    daysBeforeMonth (monthOfDay dayOfYear) ≤ dayOfYear := by
  simp only [monthOfDay, daysBeforeMonth]
  omega

/-- Every number is the number of its day. -/
theorem dayNumber_ofDayNumber (number : Int) : (ofDayNumber number).dayNumber = number := by
  obtain ⟨shifted, hshifted⟩ : ∃ s, s = number - marchEpoch := ⟨_, rfl⟩
  obtain ⟨dayOfCycle, hday⟩ : ∃ d, d = (shifted % daysPerCycle).toNat := ⟨_, rfl⟩
  have hlt : dayOfCycle < 146097 ∧ shifted / daysPerCycle * 146097 + dayOfCycle = shifted := by
    simp only [daysPerCycle] at hday ⊢
    omega
  have hsum := yearAndDay_sum hlt.1
  have hyear := yearAndDay_fst_lt hlt.1
  have hmonth := monthOfDay_lt (yearAndDay_snd_lt dayOfCycle)
  have hbefore := daysBeforeMonth_monthOfDay_le (yearAndDay dayOfCycle).2
  simp only [ofDayNumber, dayNumber, ← hshifted, ← hday]
  generalize monthOfDay (yearAndDay dayOfCycle).2 = m at *
  generalize (yearAndDay dayOfCycle).1 = y at *
  generalize (yearAndDay dayOfCycle).2 = d at *
  generalize shifted / daysPerCycle = cycle at *
  have hmarch : (cycle * 400 + (y : Int)) / 400 = cycle ∧ (cycle * 400 + (y : Int)) % 400 = y := by
    omega
  have hnumber : number = shifted + marchEpoch := by omega
  by_cases h : m < 10
  · have h2 : ¬ m + 3 ≤ 2 := by omega
    simp only [h, if_true, h2, if_false, Nat.add_sub_cancel, hmarch.1, hmarch.2, hnumber,
      daysPerCycle]
    omega
  · have h2 : m - 9 ≤ 2 := by omega
    have h3 : m - 9 + 9 = m := by omega
    simp only [h, if_false, h2, if_true, h3, Int.add_sub_cancel, hmarch.1, hmarch.2, hnumber,
      daysPerCycle]
    omega

end CalendarDate

end PullWatch
