import PullWatch.Database.Row
import Mathlib.Data.List.TakeWhile
import Mathlib.Tactic.SplitIfs

/-!
# Times in columns

A time in the years 0 to 9999 is written with a year of four digits, which is all that the strict
reader takes. Every field is read back, and the fields denote the time that was written: leap
seconds and fractions keep their value.

## Main definitions

* `Instant.Storable`: the time lies in a year of four digits.

## Main results

* `CalendarDate.valid_ofDayNumber`: the day of a number is a day of the calendar.
* `Instant.parseStrict_rfc3339`: reading a written time gives the time back.
* `Instant.eq_of_parseStrict_rfc3339`: what is read of a written time is the time.
-/

namespace PullWatch

/-! ### Days -/

namespace CalendarDate

/-- The leap days in the years, counted from March, up to a year. -/
def leapDays (year : Int) : Int := year / 4 - year / 100 + year / 400

theorem leapDays_mono {y z : Int} (h : y ≤ z) : leapDays y ≤ leapDays z := by
  obtain ⟨n, rfl⟩ := Int.le.dest h
  induction n with
  | zero => simp
  | succ n ih =>
    have hn := ih (by omega)
    simp only [leapDays, Int.natCast_add, Int.cast_ofNat_Int] at hn ⊢
    omega

/-- The number of a day from the leap days before it. -/
theorem dayNumber_eq (date : CalendarDate) :
    let marchYear := if date.month ≤ 2 then date.year - 1 else date.year
    let fromMarch := if date.month ≤ 2 then date.month + 9 else date.month - 3
    date.dayNumber =
      365 * marchYear + leapDays marchYear + daysBeforeMonth fromMarch + date.day - 719469 := by
  intro marchYear fromMarch
  have hgroups : marchYear % 400 / 4 = marchYear / 4 - 100 * (marchYear / 400) := by omega
  have hcenturies : marchYear % 400 / 100 = marchYear / 100 - 4 * (marchYear / 400) := by omega
  have hday : date.dayNumber = marchYear / 400 * 146097 + marchYear % 400 * 365
      + marchYear % 400 / 4 - marchYear % 400 / 100 + daysBeforeMonth fromMarch + date.day - 1
      + -719468 := rfl
  rw [hday, hgroups, hcenturies, leapDays]
  omega

/-- The last day of a year counted from March has number 365 in leap years only. -/
theorem isLeap_of_yearAndDay_snd {dayOfCycle : Nat} (h : dayOfCycle < 146097)
    (hday : (yearAndDay dayOfCycle).2 = 365) : IsLeap ((yearAndDay dayOfCycle).1 + 1 : Nat) := by
  simp only [yearAndDay] at hday ⊢
  obtain ⟨century, hcentury⟩ : ∃ c, c = min 3 (dayOfCycle / 36524) := ⟨_, rfl⟩
  rw [← hcentury] at hday ⊢
  obtain ⟨day, hd⟩ : ∃ d, d = dayOfCycle - century * 36524 := ⟨_, rfl⟩
  rw [← hd] at hday ⊢
  obtain ⟨group, hgroup⟩ : ∃ g, g = day / 1461 := ⟨_, rfl⟩
  have hrest : day % 1461 = 1460 := by omega
  have hlast : min 3 (day % 1461 / 365) = 3 := by omega
  -- a group of four years with a leap day ends its century only when the century is the fourth
  have hend : group = 24 → century = 3 := by omega
  have hgroups : group ≤ 24 := by omega
  rw [← hgroup, hlast, IsLeap]
  omega

theorem isLeap_add_cycles (cycles year : Int) : IsLeap (cycles * 400 + year) ↔ IsLeap year := by
  simp only [IsLeap]
  omega

/-- Within a month counted from March, days do not run past its end. -/
theorem day_le_daysInMonth {dayOfYear : Nat} (hday : dayOfYear < 366) (year : Int)
    (hleap : dayOfYear = 365 → IsLeap year) :
    dayOfYear - daysBeforeMonth (monthOfDay dayOfYear) + 1 ≤
      daysInMonth year (if monthOfDay dayOfYear < 10 then monthOfDay dayOfYear + 3
        else monthOfDay dayOfYear - 9) := by
  have hmonth := monthOfDay_lt hday
  obtain ⟨m, hm⟩ : ∃ m, m = monthOfDay dayOfYear := ⟨_, rfl⟩
  rw [← hm] at hmonth ⊢
  rw [monthOfDay] at hm
  have hcases : m = 0 ∨ m = 1 ∨ m = 2 ∨ m = 3 ∨ m = 4 ∨ m = 5 ∨ m = 6 ∨ m = 7 ∨ m = 8 ∨ m = 9 ∨
      m = 10 ∨ m = 11 := by omega
  rcases hcases with h | h | h | h | h | h | h | h | h | h | h | h
  all_goals
    subst h
    simp only [daysBeforeMonth, daysInMonth]
  -- February ends the year
  case inr.inr.inr.inr.inr.inr.inr.inr.inr.inr.inr =>
    simp only [Nat.reduceLT, if_false, Nat.reduceSub, Nat.reduceMul, Nat.reduceAdd, Nat.reduceDiv]
    by_cases h : dayOfYear = 365
    · rw [if_pos (hleap h)]
      omega
    · split_ifs <;> omega
  all_goals
    simp only [Nat.reduceLT, if_true, if_false, Nat.reduceSub, Nat.reduceMul, Nat.reduceAdd,
      Nat.reduceDiv]
    omega

/-- The day of a number is a day of the calendar. -/
theorem valid_ofDayNumber (number : Int) : (ofDayNumber number).Valid := by
  simp only [ofDayNumber, Valid]
  obtain ⟨dayOfCycle, hday⟩ : ∃ d, d = ((number - marchEpoch) % daysPerCycle).toNat := ⟨_, rfl⟩
  have hlt : dayOfCycle < 146097 := by
    simp only [daysPerCycle] at hday
    omega
  rw [← hday]
  refine ⟨by omega, day_le_daysInMonth (yearAndDay_snd_lt dayOfCycle) _ fun hlast => ?_⟩
  have hleap := isLeap_of_yearAndDay_snd hlt hlast
  have hmonth : ¬ monthOfDay (yearAndDay dayOfCycle).2 < 10 := by
    rw [hlast]
    decide
  rw [if_neg hmonth, Int.add_assoc, isLeap_add_cycles]
  exact_mod_cast hleap

theorem month_ofDayNumber (number : Int) :
    1 ≤ (ofDayNumber number).month ∧ (ofDayNumber number).month ≤ 12 := by
  have hvalid := valid_ofDayNumber number
  simp only [Valid] at hvalid
  generalize ofDayNumber number = date at *
  rcases date with ⟨year, month, day⟩
  by_contra hmonth
  have hdays : daysInMonth year month = 0 := by
    simp only at hmonth
    unfold daysInMonth
    split <;> omega
  simp only [hdays] at hvalid
  omega

theorem day_ofDayNumber (number : Int) :
    1 ≤ (ofDayNumber number).day ∧ (ofDayNumber number).day ≤ 31 := by
  obtain ⟨hlow, hhigh⟩ := valid_ofDayNumber number
  refine ⟨hlow, hhigh.trans ?_⟩
  unfold daysInMonth
  split
  · split_ifs <;> omega
  all_goals omega

end CalendarDate

namespace Instant

/-! ### Fields -/

theorem exactDigits_padded {width n : Nat} (h : n < Nat.pow 10 width) (rest : List Char) :
    exactDigits width (Digits.padded width n ++ rest) = .ok (n, rest) := by
  have hlength := Digits.length_padded width n
  have hall : (Digits.padded width n).all Char.isDigit = true :=
    List.all_eq_true.2 fun _ => Digits.isDigit_of_mem_padded
  rw [exactDigits]
  simp only [List.take_left' hlength, List.drop_left' hlength, hlength, Nat.lt_irrefl, if_false,
    hall, if_true, Digits.value_padded, Nat.mod_eq_of_lt h]

theorem bounded_padded {lo hi width n : Nat} (h : n < Nat.pow 10 width) (hlo : lo ≤ n)
    (hhi : n ≤ hi) (rest : List Char) :
    bounded lo hi (exactDigits width) (Digits.padded width n ++ rest) = .ok (n, rest) := by
  rw [bounded, exactDigits_padded h]
  simp only [bind, Except.bind]
  rw [if_neg (by omega)]

theorem literal_self (c : Char) (rest : List Char) : literal c (c :: rest) = .ok rest := by
  simp [literal]

/-- Digits are read up to the first character that is none. -/
theorem upToDigits_padded {width w n : Nat} (hw : 0 < w) (hwidth : w ≤ width)
    (h : n < Nat.pow 10 w) {c : Char} (hc : c.isDigit = false) (rest : List Char) :
    upToDigits width (Digits.padded w n ++ c :: rest) = .ok (n, c :: rest) := by
  have hlength := Digits.length_padded w n
  have hall : ∀ d ∈ Digits.padded w n, d.isDigit = true := fun _ => Digits.isDigit_of_mem_padded
  obtain ⟨d, ds, hds⟩ : ∃ d ds, Digits.padded w n = d :: ds := by
    cases hp : Digits.padded w n with
    | nil =>
      rw [hp, List.length_nil] at hlength
      omega
    | cons d ds => exact ⟨d, ds, rfl⟩
  have htake : ((Digits.padded w n ++ c :: rest).take width).takeWhile Char.isDigit =
      Digits.padded w n := by
    rw [List.take_append, List.take_of_length_le (by omega), List.takeWhile_append_of_pos hall]
    cases width - (Digits.padded w n).length with
    | zero => rw [List.take_zero, List.takeWhile_nil, List.append_nil]
    | succ k =>
      rw [List.take_succ_cons, List.takeWhile_cons_of_neg (by simp [hc]), List.append_nil]
  rw [hds, List.cons_append, upToDigits, ← List.cons_append, ← hds,
    if_pos (hall d (by simp [hds])), htake]
  simp only [hlength, List.drop_left' hlength, Digits.value_padded, Nat.mod_eq_of_lt h]

/-- A fraction of a second is read back from its 0, 3, 6 or 9 digits. -/
theorem optionalFraction_fractionText {nanos : Nat} (h : nanos < 1000000000) {c : Char}
    (hc : c.isDigit = false) (hpoint : c ≠ '.') (rest : List Char) :
    optionalFraction (fractionText nanos ++ c :: rest) = .ok (nanos, c :: rest) := by
  have hdigits {w n : Nat} (hw : 0 < w) (hw9 : w ≤ 9) (hn : n < Nat.pow 10 w) :
      optionalFraction ('.' :: Digits.padded w n ++ c :: rest) =
        .ok (n * Nat.pow 10 (9 - w), c :: rest) := by
    rw [List.cons_append, optionalFraction, upToDigits_padded hw hw9 hn hc]
    simp only [bind, Except.bind, List.length_append, Digits.length_padded,
      Nat.add_sub_cancel, List.dropWhile_cons, hc, Bool.false_eq_true, if_false]
  rw [fractionText]
  split_ifs with h0 h6 h3
  · rw [List.nil_append, optionalFraction, h0]
    simpa using hpoint
  · rw [hdigits (by decide) (by decide) (by simp; omega)]
    simp only [Nat.reduceSub, Nat.pow_eq, Nat.reducePow]
    rw [Nat.div_mul_cancel (Nat.dvd_of_mod_eq_zero h6)]
  · rw [hdigits (by decide) (by decide) (by simp; omega)]
    simp only [Nat.reduceSub, Nat.pow_eq, Nat.reducePow]
    rw [Nat.div_mul_cancel (Nat.dvd_of_mod_eq_zero h3)]
  · rw [hdigits (by decide) (by decide) (by simpa using h)]
    simp

theorem strictOffset_zero : strictOffset ['+', '0', '0', ':', '0', '0'] = .ok (0, []) := by
  decide

/-! ### Times -/

/-- The time lies in a year that is written with four digits and no sign. -/
def Storable (t : Instant) : Prop := 0 ≤ t.date.year ∧ t.date.year ≤ 9999

instance (t : Instant) : Decidable t.Storable :=
  inferInstanceAs (Decidable (0 ≤ t.date.year ∧ t.date.year ≤ 9999))

theorem yearText_of_storable {year : Int} (h : 0 ≤ year ∧ year ≤ 9999) :
    yearText year = Digits.padded 4 year.natAbs := by
  rw [yearText, if_neg (by omega), if_neg (by omega), yearDigits, if_pos (by omega)]

variable (t : Instant)

/-- The fields that the written form of a time shows. -/
def fields : DateTimeFields :=
  { year := t.date.year, month := t.date.month, day := t.date.day
    hour := t.secondOfDay / 3600, minute := t.secondOfDay / 60 % 60
    second := t.secondOfDay % 60 + t.fraction / nanosPerSecond
    fraction := t.fraction % nanosPerSecond, offset := 0 }

theorem secondOfDay_lt : t.secondOfDay < 86400 := by
  simp only [secondOfDay, secondsPerDay]
  omega

/-- A leap second comes at the end of a minute only. -/
theorem second_fields_le : t.fields.second ≤ 60 := by
  have := t.wellFormed
  simp only [fields, secondOfDay, secondsPerDay, nanosPerSecond]
  omega

/-- The years of the calendar that instants cover. -/
theorem year_bounds : -262143 ≤ t.date.year ∧ t.date.year ≤ 262142 := by
  have hnumber : t.date.dayNumber = t.second / 86400 := CalendarDate.dayNumber_ofDayNumber _
  have hmonth : 1 ≤ t.date.month ∧ t.date.month ≤ 12 := CalendarDate.month_ofDayNumber _
  have hday : 1 ≤ t.date.day ∧ t.date.day ≤ 31 := CalendarDate.day_ofDayNumber _
  have hrange := t.inRange
  rw [CalendarDate.dayNumber_eq] at hnumber
  generalize t.date = date at *
  -- January and February belong to the year before, counted from March
  by_cases hearly : date.month ≤ 2
  · simp only [if_pos hearly, CalendarDate.daysBeforeMonth] at hnumber
    constructor
    · by_contra hyear
      have hleap : CalendarDate.leapDays (date.year - 1) ≤ CalendarDate.leapDays (-262145) :=
        CalendarDate.leapDays_mono (by omega)
      rw [show CalendarDate.leapDays (-262145) = -63571 by decide] at hleap
      omega
    · by_contra hyear
      have hleap : CalendarDate.leapDays 262142 ≤ CalendarDate.leapDays (date.year - 1) :=
        CalendarDate.leapDays_mono (by omega)
      rw [show CalendarDate.leapDays 262142 = 63569 by decide] at hleap
      omega
  · simp only [if_neg hearly, CalendarDate.daysBeforeMonth] at hnumber
    constructor
    · by_contra hyear
      have hleap : CalendarDate.leapDays date.year ≤ CalendarDate.leapDays (-262144) :=
        CalendarDate.leapDays_mono (by omega)
      rw [show CalendarDate.leapDays (-262144) = -63570 by decide] at hleap
      omega
    · by_contra hyear
      have hleap : CalendarDate.leapDays 262143 ≤ CalendarDate.leapDays date.year :=
        CalendarDate.leapDays_mono (by omega)
      rw [show CalendarDate.leapDays 262143 = 63569 by decide] at hleap
      omega

/-- The fields of a time with an offset denote the time that lies before it by the offset. -/
theorem toInstant_fields_offset {s : Instant} {offset : Int}
    (hoffset : -86400 < offset ∧ offset < 86400) (hshown : s.second = t.second + offset)
    (hsame : s.fraction = t.fraction) :
    DateTimeFields.toInstant { s.fields with offset } = .ok t := by
  have hvalid : (CalendarDate.mk s.fields.year s.fields.month s.fields.day).Valid :=
    CalendarDate.valid_ofDayNumber s.dayNumber
  have hyear : ¬ (s.fields.year < -262143 ∨ 262142 < s.fields.year) := by
    obtain ⟨hlow, hhigh⟩ := s.year_bounds
    simp only [fields]
    omega
  have hwell := s.wellFormed
  have hsecondOfDay : (s.secondOfDay : Int) = s.second % 86400 := by
    simp only [secondOfDay, secondsPerDay]
    omega
  have hfraction : s.fields.fraction + s.fields.second / 60 * nanosPerSecond = t.fraction := by
    simp only [fields, nanosPerSecond]
    omega
  have hseconds : s.fields.hour * 3600 + s.fields.minute * 60
      + (s.fields.second - s.fields.second / 60) = s.secondOfDay := by
    simp only [fields, nanosPerSecond]
    omega
  have hsecond : (CalendarDate.mk s.fields.year s.fields.month s.fields.day).dayNumber * 86400
      + (s.secondOfDay : Int) - offset = t.second := by
    have hnumber : (CalendarDate.mk s.fields.year s.fields.month s.fields.day).dayNumber =
        s.second / 86400 := CalendarDate.dayNumber_ofDayNumber s.dayNumber
    rw [hnumber, hsecondOfDay]
    omega
  simp only [DateTimeFields.toInstant]
  rw [if_neg (by simp [hvalid, hyear]), if_neg (by omega), hfraction, hseconds, hsecond,
    ofSeconds?, dif_pos t.inRange, dif_pos t.wellFormed]

/-- The fields of a time denote the time. -/
theorem toInstant_fields : t.fields.toInstant = .ok t :=
  t.toInstant_fields_offset (by decide) (by omega) rfl

variable {t}

/-- The strict reader reads the fields of a written time. -/
theorem strictFields_dateTimeText (h : t.Storable) :
    strictFields (t.dateTimeText ++ ['+', '0', '0', ':', '0', '0']) = .ok (t.fields, []) := by
  have hyear : t.date.year.natAbs < Nat.pow 10 4 := by
    obtain ⟨hlow, hhigh⟩ := h
    simp only [Nat.pow_eq]
    omega
  have hmonth : 1 ≤ t.date.month ∧ t.date.month ≤ 12 := CalendarDate.month_ofDayNumber _
  have hday : 1 ≤ t.date.day ∧ t.date.day ≤ 31 := CalendarDate.day_ofDayNumber _
  have hhour : t.secondOfDay / 3600 ≤ 23 := by
    have := t.secondOfDay_lt
    omega
  have hminute : t.secondOfDay / 60 % 60 ≤ 59 := by omega
  have hsecond : t.secondOfDay % 60 + t.fraction / nanosPerSecond ≤ 60 := t.second_fields_le
  have hnanos : t.fraction % nanosPerSecond < 1000000000 := Nat.mod_lt _ (by decide)
  have htwo {n m : Nat} (hn : n ≤ m) (hm : m < 100) : n < Nat.pow 10 2 := by
    simp only [Nat.pow_eq]
    omega
  simp only [dateTimeText, dateText, timeText, yearText_of_storable h, List.append_assoc,
    List.cons_append]
  simp only [strictFields, exactDigits_padded hyear,
    bounded_padded (htwo hmonth.2 (by decide)) hmonth.1 hmonth.2,
    bounded_padded (htwo hday.2 (by decide)) hday.1 hday.2,
    bounded_padded (htwo hhour (by decide)) (Nat.zero_le _) hhour,
    bounded_padded (htwo hminute (by decide)) (Nat.zero_le _) hminute,
    bounded_padded (htwo hsecond (by decide)) (Nat.zero_le _) hsecond,
    literal_self, dateTimeSeparator, true_or, if_true,
    optionalFraction_fractionText hnanos (show '+'.isDigit = false by decide) (by decide),
    strictOffset_zero, bind, Except.bind]
  rw [fields, Int.natAbs_of_nonneg h.1]

/-- Reading a written time gives the time back. -/
theorem parseStrict_rfc3339 (h : t.Storable) : parseStrict t.rfc3339 = .ok t := by
  rw [parseStrict, ofFields, rfc3339, String.toList_ofList, strictFields_dateTimeText h]
  exact t.toInstant_fields

/-- A time of any other year is not read back: its year begins with a sign, which is no digit. -/
theorem exists_parseStrict_rfc3339_eq_error (h : ¬ t.Storable) :
    ∃ e, parseStrict t.rfc3339 = .error e := by
  obtain ⟨sign, cs, htext, hsign⟩ :
      ∃ c cs, t.dateTimeText ++ ['+', '0', '0', ':', '0', '0'] = c :: cs ∧ c.isDigit = false := by
    simp only [dateTimeText, dateText, yearText]
    simp only [Storable, not_and_or] at h
    split_ifs
    · exact ⟨'-', _, rfl, by decide⟩
    · exact ⟨'+', _, rfl, by decide⟩
    · omega
  obtain ⟨e, he⟩ : ∃ e, exactDigits 4 (sign :: cs) = .error e := by
    rw [exactDigits]
    simp only [List.take_succ_cons, List.all_cons, hsign, Bool.false_and, Bool.false_eq_true,
      if_false]
    split_ifs <;> exact ⟨_, rfl⟩
  refine ⟨e, ?_⟩
  rw [parseStrict, ofFields, rfc3339, String.toList_ofList, htext, strictFields, he]
  rfl

/-- What the strict reader reads from a written time, if it reads anything, is the time. -/
theorem eq_of_parseStrict_rfc3339 {s : Instant} (h : parseStrict t.rfc3339 = .ok s) : s = t := by
  by_cases hyear : t.Storable
  · exact (Except.ok.inj ((parseStrict_rfc3339 hyear).symm.trans h)).symm
  · obtain ⟨e, he⟩ := exists_parseStrict_rfc3339_eq_error hyear
    cases he.symm.trans h

end Instant

/-- A storable time is read back from a column. -/
theorem Column.time_rfc3339 {t : Instant} (h : t.Storable) : Column.time t.rfc3339 = some t := by
  rw [Column.time, Instant.parseStrict_rfc3339 h]
  rfl

/-- What a column gives back of a written time is the time. -/
theorem Column.eq_of_time_rfc3339 {s t : Instant} (h : Column.time t.rfc3339 = some s) : s = t := by
  rw [Column.time] at h
  cases hread : Instant.parseStrict t.rfc3339 with
  | error e => simp [hread, Except.toOption] at h
  | ok u =>
    obtain rfl : u = s := by simpa [hread, Except.toOption] using h
    exact Instant.eq_of_parseStrict_rfc3339 hread

/-- A column gives back a written time exactly when the time can be stored. -/
theorem Column.time_rfc3339_eq_some {s t : Instant} :
    Column.time t.rfc3339 = some s ↔ t.Storable ∧ s = t := by
  refine ⟨fun h => ⟨?_, Column.eq_of_time_rfc3339 h⟩, ?_⟩
  · by_contra hyear
    obtain ⟨e, he⟩ := Instant.exists_parseStrict_rfc3339_eq_error hyear
    simp [Column.time, he, Except.toOption] at h
  · rintro ⟨hyear, rfl⟩
    exact Column.time_rfc3339 hyear

end PullWatch
