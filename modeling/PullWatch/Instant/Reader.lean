import PullWatch.Instant
import PullWatch.Text.Blank
import PullWatch.Text.Digits

/-!
# Reading instants

Two readers for written times. The strict one takes RFC 3339 with a four-digit year and an offset
of hours and minutes; database text is read with it. The loose one also takes signed years of any
length, fields without leading zeros, blanks between the parts, and offsets such as `utc`, `+0530`
or `+05 30`; times in payloads are read with it. Both accept second 60 in any minute as a leap
second, and drop digits of a fraction beyond the ninth.

## Main definitions

* `TimeFault`: why a text is no time; `TimeFault.message` is its wording.
* `DateTimeFields.toInstant`: the instant that date, time of day and offset denote.
* `Instant.parseStrict`, `Instant.parseLoose`: the readers.
-/

namespace PullWatch

/-- Why a text is not a time. -/
inductive TimeFault where
  /-- A field has a value that no time has. -/
  | outOfRange
  /-- The offset leads out of the representable years. -/
  | impossible
  /-- A character stands where the form has none of its kind. -/
  | invalid
  /-- The text ends too early. -/
  | tooShort
  /-- Something follows the time. -/
  | trailing
  deriving DecidableEq, Repr

namespace TimeFault

/-- The wording of a fault. -/
def message : TimeFault → String
  | outOfRange => "input is out of range"
  | impossible => "no possible date and time matching input"
  | invalid => "input contains invalid characters"
  | tooShort => "premature end of input"
  | trailing => "trailing input"

end TimeFault

/-- The fields of a written time. The offset is in seconds east of universal time. -/
structure DateTimeFields where
  year : Int
  month : Nat
  day : Nat
  hour : Nat
  minute : Nat
  second : Nat
  fraction : Nat
  offset : Int

namespace DateTimeFields

/-- The instant that the fields denote. Second 60 is the leap second after second 59. -/
def toInstant (f : DateTimeFields) : Except TimeFault Instant :=
  let date : CalendarDate := ⟨f.year, f.month, f.day⟩
  if ¬ date.Valid ∨ f.year < -262143 ∨ 262142 < f.year then .error .outOfRange
  else if f.offset ≤ -86400 ∨ 86400 ≤ f.offset then .error .outOfRange
  else
    let leap := f.second / 60
    let seconds := f.hour * 3600 + f.minute * 60 + (f.second - leap)
    match Instant.ofSeconds? (date.dayNumber * 86400 + seconds - f.offset)
        (f.fraction + leap * Instant.nanosPerSecond) with
    | some t => .ok t
    | none => .error .impossible

end DateTimeFields

namespace Instant

/-- A step of a time reader: a value and the text after it. -/
abbrev Step (α : Type) := List Char → Except TimeFault (α × List Char)

/-- One to `width` digits. -/
def upToDigits (width : Nat) : Step Nat
  | [] => .error .tooShort
  | c :: cs =>
    if c.isDigit then
      let ds := ((c :: cs).take width).takeWhile Char.isDigit
      .ok (Digits.value ds, (c :: cs).drop ds.length)
    else .error .invalid

/-- Exactly `width` digits. -/
def exactDigits (width : Nat) : Step Nat := fun cs =>
  let ds := cs.take width
  if ds.length < width then .error .tooShort
  else if ds.all Char.isDigit then .ok (Digits.value ds, cs.drop width)
  else .error .invalid

/-- A field with its least and greatest value. -/
def bounded (lo hi : Nat) (field : Step Nat) : Step Nat := fun cs => do
  let (n, rest) ← field cs
  if n < lo ∨ hi < n then .error .outOfRange else .ok (n, rest)

/-- One given character. -/
def literal (c : Char) : List Char → Except TimeFault (List Char)
  | [] => .error .tooShort
  | d :: rest => if d = c then .ok rest else .error .invalid

/-- The letter or the blank between date and time of day. -/
def dateTimeSeparator : List Char → Except TimeFault (List Char)
  | [] => .error .tooShort
  | d :: rest => if d = 'T' ∨ d = 't' ∨ d = ' ' then .ok rest else .error .invalid

/-- A point and digits, or nothing. Nine digits count, further ones are dropped. -/
def optionalFraction : Step Nat
  | '.' :: cs => do
    let (n, rest) ← upToDigits 9 cs
    .ok (n * Nat.pow 10 (9 - (cs.length - rest.length)), rest.dropWhile Char.isDigit)
  | cs => .ok (0, cs)

/-- A year of up to four digits, or a sign and any number of digits. -/
def looseYear : Step Int
  | '-' :: cs => do
    let (n, rest) ← upToDigits cs.length cs
    if 2147483648 < n then .error .outOfRange else .ok (-(n : Int), rest)
  | '+' :: cs => do
    let (n, rest) ← upToDigits cs.length cs
    if 2147483648 ≤ n then .error .outOfRange else .ok ((n : Int), rest)
  | cs => do
    let (n, rest) ← upToDigits 4 cs
    .ok ((n : Int), rest)

/-- The sign of an offset; the mathematical minus counts as one. -/
def offsetSign : Step Int
  | [] => .error .tooShort
  | '+' :: rest => .ok (1, rest)
  | '-' :: rest => .ok (-1, rest)
  | '−' :: rest => .ok (-1, rest)
  | _ => .error .invalid

/-- Two digits of an offset. A single character that takes several bytes of text is an invalid
one, not the end of the text. -/
def offsetDigits : Step Nat
  | c :: d :: rest =>
    if c.isDigit ∧ d.isDigit then .ok (Digits.value [c, d], rest) else .error .invalid
  | [c] => if c.toNat < 128 then .error .tooShort else .error .invalid
  | [] => .error .tooShort

/-- The minutes of an offset. -/
def offsetMinutes : Step Nat := bounded 0 59 offsetDigits

/-- `Z`, or a sign, hours, a colon and minutes. -/
def strictOffset : Step Int := fun cs =>
  match cs with
  | 'Z' :: rest => .ok (0, rest)
  | 'z' :: rest => .ok (0, rest)
  | cs => do
    let (sign, cs) ← offsetSign cs
    let (hours, cs) ← offsetDigits cs
    let cs ← literal ':' cs
    let (minutes, cs) ← offsetMinutes cs
    if 23 < hours then .error .outOfRange
    else .ok (sign * ((hours * 3600 + minutes * 60 : Nat) : Int), cs)

/-- `Z`, `UTC`, or a sign, hours and minutes, with any colons and blanks between them. -/
def looseOffset : Step Int := fun cs =>
  match cs with
  | 'Z' :: rest => .ok (0, rest)
  | 'z' :: rest => .ok (0, rest)
  | cs =>
    if (cs.take 3).map Char.toUpper = ['U', 'T', 'C'] then .ok (0, cs.drop 3)
    else do
      let (sign, cs) ← offsetSign cs
      let (hours, cs) ← offsetDigits cs
      let (minutes, cs) ← offsetMinutes (cs.dropWhile fun c => c == ':' || Text.isBlank c)
      .ok (sign * ((hours * 3600 + minutes * 60 : Nat) : Int), cs)

/-- The fields of a time in strict form, and the text after it. -/
def strictFields : Step DateTimeFields := fun cs => do
  let (year, cs) ← exactDigits 4 cs
  let cs ← literal '-' cs
  let (month, cs) ← bounded 1 12 (exactDigits 2) cs
  let cs ← literal '-' cs
  let (day, cs) ← bounded 1 31 (exactDigits 2) cs
  let cs ← dateTimeSeparator cs
  let (hour, cs) ← bounded 0 23 (exactDigits 2) cs
  let cs ← literal ':' cs
  let (minute, cs) ← bounded 0 59 (exactDigits 2) cs
  let cs ← literal ':' cs
  let (second, cs) ← bounded 0 60 (exactDigits 2) cs
  let (fraction, cs) ← optionalFraction cs
  let (offset, cs) ← strictOffset cs
  .ok ({ year := (year : Int), month, day, hour, minute, second, fraction, offset }, cs)

/-- A field of one or two digits after any blanks. -/
def looseField (lo hi : Nat) : Step Nat := fun cs =>
  bounded lo hi (upToDigits 2) (Text.trimFront cs)

/-- A given character after any blanks. -/
def looseLiteral (c : Char) (cs : List Char) : Except TimeFault (List Char) :=
  literal c (Text.trimFront cs)

/-- The fields of a time in loose form, and the text after it. -/
def looseFields : Step DateTimeFields := fun cs => do
  let (year, cs) ← looseYear (Text.trimFront cs)
  let cs ← looseLiteral '-' cs
  let (month, cs) ← looseField 1 12 cs
  let cs ← looseLiteral '-' cs
  let (day, cs) ← looseField 1 31 cs
  let cs ← dateTimeSeparator cs
  let (hour, cs) ← looseField 0 23 cs
  let cs ← looseLiteral ':' cs
  let (minute, cs) ← looseField 0 59 cs
  let cs ← looseLiteral ':' cs
  let (second, cs) ← looseField 0 60 cs
  let (fraction, cs) ← optionalFraction cs
  let (offset, cs) ← looseOffset (Text.trimFront cs)
  .ok ({ year, month, day, hour, minute, second, fraction, offset }, Text.trimFront cs)

/-- The instant of a text whose fields a step reads, if nothing follows them. -/
def ofFields (fields : Step DateTimeFields) (text : String) : Except TimeFault Instant := do
  let (f, rest) ← fields text.toList
  if rest.isEmpty then f.toInstant else .error .trailing

/-- Reads a time in strict form. -/
def parseStrict (text : String) : Except TimeFault Instant := ofFields strictFields text

/-- Reads a time in loose form. -/
def parseLoose (text : String) : Except TimeFault Instant := ofFields looseFields text

end Instant

end PullWatch
