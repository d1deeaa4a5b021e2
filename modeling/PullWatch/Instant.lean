import PullWatch.Instant.Calendar

/-!
# Instants of universal time

An instant is a number of seconds since the beginning of 1970 and a fraction of a second in
nanoseconds. A leap second has no number of its own: it shares the number of the last second of
its minute and has a fraction of one second or more, so it lies after every other instant of that
second and before the next one. Instants cover the years -262143 to 262142.

## Main definitions

* `Instant`, `Instant.date`, `Instant.secondOfDay`: an instant, its day and its time of day.
* `Instant.ofSeconds?`: the instant with given numbers, if there is one.
* `Instant.addMinutes?`: a later instant, absent past the last year.
* `Instant.since`: the nanoseconds between two instants, leap seconds counted.

## Main results

* `Instant.le_trans`: the order is transitive.
-/

namespace PullWatch

/-- A point of universal time with nanosecond resolution. -/
structure Instant where
  /-- Whole seconds since 1970 began. -/
  second : Int
  /-- Nanoseconds into the second; a leap second goes on past one second. -/
  fraction : Nat
  inRange : -8334601228800 ≤ second ∧ second ≤ 8210266876799
  wellFormed : fraction < 1000000000 ∨ (fraction < 2000000000 ∧ second % 60 = 59)
  deriving DecidableEq

namespace Instant

/-- Seconds of a day without leap seconds. -/
def secondsPerDay : Int := 86400

/-- Nanoseconds of a second. -/
def nanosPerSecond : Nat := 1000000000

/-- The instant with a given second and fraction, if the calendar has it. -/
def ofSeconds? (second : Int) (fraction : Nat) : Option Instant :=
  if inRange : -8334601228800 ≤ second ∧ second ≤ 8210266876799 then
    if wellFormed : fraction < 1000000000 ∨ (fraction < 2000000000 ∧ second % 60 = 59) then
      some { second, fraction, inRange, wellFormed }
    else none
  else none

/-- The beginning of 1970. -/
def epoch : Instant := { second := 0, fraction := 0, inRange := by decide, wellFormed := by decide }

instance : Inhabited Instant := ⟨epoch⟩

/-- The number of the instant's day, counted from the first day of 1970. -/
def dayNumber (t : Instant) : Int := t.second / secondsPerDay

/-- The instant's day. -/
def date (t : Instant) : CalendarDate := CalendarDate.ofDayNumber t.dayNumber

/-- Seconds since the instant's day began. -/
def secondOfDay (t : Instant) : Nat := (t.second % secondsPerDay).toNat

/-- The instant lies in a leap second. -/
def InLeapSecond (t : Instant) : Prop := nanosPerSecond ≤ t.fraction

instance (t : Instant) : Decidable t.InLeapSecond :=
  inferInstanceAs (Decidable (nanosPerSecond ≤ t.fraction))

/-- Instants are ordered by second, then by fraction. -/
instance : LT Instant :=
  ⟨fun a b => a.second < b.second ∨ (a.second = b.second ∧ a.fraction < b.fraction)⟩

instance : LE Instant :=
  ⟨fun a b => a.second < b.second ∨ (a.second = b.second ∧ a.fraction ≤ b.fraction)⟩

instance (a b : Instant) : Decidable (a < b) :=
  inferInstanceAs (Decidable (a.second < b.second ∨ (a.second = b.second ∧ a.fraction < b.fraction)))

instance (a b : Instant) : Decidable (a ≤ b) :=
  inferInstanceAs (Decidable (a.second < b.second ∨ (a.second = b.second ∧ a.fraction ≤ b.fraction)))

theorem lt_def {a b : Instant} :
    a < b ↔ a.second < b.second ∨ (a.second = b.second ∧ a.fraction < b.fraction) := Iff.rfl

theorem le_def {a b : Instant} :
    a ≤ b ↔ a.second < b.second ∨ (a.second = b.second ∧ a.fraction ≤ b.fraction) := Iff.rfl

theorem ext_iff {a b : Instant} : a = b ↔ a.second = b.second ∧ a.fraction = b.fraction := by
  cases a
  cases b
  simp

theorem le_trans {a b c : Instant} (hab : a ≤ b) (hbc : b ≤ c) : a ≤ c := by
  rw [le_def] at *
  omega

/-- The instant a number of minutes later. Time that leaves a leap second goes on from the
beginning of that second, as if the leap second were its repetition. Absent when the result lies
past the last representable year. -/
def addMinutes? (t : Instant) (minutes : Nat) : Option Instant :=
  if minutes = 0 then some t
  else ofSeconds? (t.second + minutes * 60) (t.fraction % nanosPerSecond)

/-- Nanoseconds from `start` to `t`, negative when `t` comes first. When the earlier time of day
lies in a leap second, one more second is counted, since it passed the leap second's end. -/
def since (t start : Instant) : Int :=
  let leap : Int :=
    if start.secondOfDay < t.secondOfDay ∧ start.InLeapSecond then 1
    else if t.secondOfDay < start.secondOfDay ∧ t.InLeapSecond then -1
    else 0
  (t.second - start.second + leap) * nanosPerSecond + (t.fraction - start.fraction)

end Instant

end PullWatch
