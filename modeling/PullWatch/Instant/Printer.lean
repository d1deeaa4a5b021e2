import PullWatch.Instant
import PullWatch.Text.Digits

/-!
# The written form of an instant

An instant is written as a date, the letter `T`, a time of day and a mark for universal time. A
year has four digits; years before 0 and after 9999 carry a sign and as many digits as they need.
The fraction of a second is left out when it is zero and has three, six or nine digits otherwise,
the fewest that lose nothing. The second of a leap second is 60.

Two marks for universal time are in use: `Z` in records handed to other programs, and `+00:00` in
database text, cache keys and change reports.

## Main definitions

* `Instant.zulu`: the form that ends in `Z`.
* `Instant.rfc3339`: the form that ends in `+00:00`.
-/

namespace PullWatch.Instant

/-- Digits of a year without its sign: at least four. -/
def yearDigits (year : Nat) : List Char :=
  Digits.padded (if year < 10000 then 4 else if year < 100000 then 5 else 6) year

/-- The written year; the years 0 to 9999 carry no sign. -/
def yearText (year : Int) : List Char :=
  if year < 0 then '-' :: yearDigits year.natAbs
  else if 9999 < year then '+' :: yearDigits year.natAbs
  else yearDigits year.natAbs

/-- The written date. -/
def dateText (date : CalendarDate) : List Char :=
  yearText date.year ++ '-' :: Digits.padded 2 date.month ++ '-' :: Digits.padded 2 date.day

/-- The fraction of a second after the point, with the fewest of 0, 3, 6 and 9 digits that lose
nothing. -/
def fractionText (nanos : Nat) : List Char :=
  if nanos = 0 then []
  else if nanos % 1000000 = 0 then '.' :: Digits.padded 3 (nanos / 1000000)
  else if nanos % 1000 = 0 then '.' :: Digits.padded 6 (nanos / 1000)
  else '.' :: Digits.padded 9 nanos

/-- The written time of day: hour, minute, second and fraction. -/
def timeText (secondOfDay fraction : Nat) : List Char :=
  let leap := fraction / nanosPerSecond
  Digits.padded 2 (secondOfDay / 3600) ++ ':' :: Digits.padded 2 (secondOfDay / 60 % 60)
    ++ ':' :: Digits.padded 2 (secondOfDay % 60 + leap) ++ fractionText (fraction % nanosPerSecond)

/-- Date and time of day, without a mark for universal time. -/
def dateTimeText (t : Instant) : List Char :=
  dateText t.date ++ 'T' :: timeText t.secondOfDay t.fraction

/-- The instant as records handed to other programs write it. -/
def zulu (t : Instant) : String := String.ofList (t.dateTimeText ++ ['Z'])

/-- The instant as database text, cache keys and change reports write it. -/
def rfc3339 (t : Instant) : String :=
  String.ofList (t.dateTimeText ++ ['+', '0', '0', ':', '0', '0'])

end PullWatch.Instant
