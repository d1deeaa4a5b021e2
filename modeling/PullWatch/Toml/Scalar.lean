import PullWatch.Instant.Calendar
import PullWatch.Text.Digits
import PullWatch.Toml

/-!
# Strings, numbers and times in TOML

Strings stand between quotes, on one line or on several; between double quotes there are escapes.
A value without quotes is a word: a truth value, a number or a time. Digits may be parted by single
underscores, and a whole number does not begin with a needless zero.

It is assumed that the document holds no control characters but tabs and line ends.

## Main definitions

* `Toml.basicBody`, `Toml.literalBody`: strings on one line, after the opening quote.
* `Toml.longBasic`, `Toml.longLiteral`: strings on several lines, after the opening quotes.
* `Toml.word?`: the value of a word.
-/

namespace PullWatch.Toml

/-! ### Strings -/

/-- The character begins a line end. -/
def isLineEnd (c : Char) : Bool := c == '\n' || c == '\r'

/-- The character of an escape of one letter. -/
def escape? (c : Char) : Option Char :=
  if c = 'b' then some (Char.ofNat 8)
  else if c = 't' then some '\t'
  else if c = 'n' then some '\n'
  else if c = 'f' then some (Char.ofNat 12)
  else if c = 'r' then some '\r'
  else if c = 'e' then some (Char.ofNat 27)
  else if c = '"' ∨ c = '\\' then some c
  else none

/-- The character with a code point written in hexadecimal digits. -/
def codePoint? (ds : List Char) : Option Char := do
  let n ← Digits.hexValue? ds
  if n.isValidChar then some (Char.ofNat n) else none

/-- An escape after its backslash: the character and the text after it. -/
def escaped? : List Char → Option (Char × List Char)
  | 'x' :: a :: b :: rest => (codePoint? [a, b]).map (·, rest)
  | 'u' :: a :: b :: c :: d :: rest => (codePoint? [a, b, c, d]).map (·, rest)
  | 'U' :: a :: b :: c :: d :: e :: f :: g :: h :: rest =>
    (codePoint? [a, b, c, d, e, f, g, h]).map (·, rest)
  | c :: rest => (escape? c).map (·, rest)
  | [] => none

theorem length_escaped? {cs rest : List Char} {c : Char} (h : escaped? cs = some (c, rest)) :
    rest.length < cs.length := by
  unfold escaped? at h
  split at h
  all_goals first
    | (obtain ⟨x, -, hx⟩ := Option.map_eq_some_iff.1 h
       cases hx
       simp only [List.length_cons]
       omega)
    | exact absurd h (by simp)

/-- A string between double quotes after the opening one, and the text after the closing one. -/
def basicBody : List Char → Option (List Char × List Char)
  | [] => none
  | '"' :: rest => some ([], rest)
  | c :: rest =>
    if c = '\\' then
      match h : escaped? rest with
      | none => none
      | some (char, after) => do
        have := length_escaped? h
        let (body, after) ← basicBody after
        some (char :: body, after)
    else if isLineEnd c then none
    else do
      let (body, after) ← basicBody rest
      some (c :: body, after)
termination_by cs => cs.length
decreasing_by
  · simp only [List.length_cons]
    omega
  · simp

/-- A string between single quotes after the opening one, and the text after the closing one. -/
def literalBody (cs : List Char) : Option (List Char × List Char) :=
  let body := cs.takeWhile fun c => !(c == '\'' || isLineEnd c)
  match cs.drop body.length with
  | '\'' :: rest => some (body, rest)
  | _ => none

/-- The text without the line end at its front. -/
def skipLineEnd : List Char → List Char
  | '\r' :: '\n' :: rest => rest
  | '\n' :: rest => rest
  | cs => cs

/-- Blanks and line ends. -/
def isSpace (c : Char) : Bool := c == ' ' || c == '\t' || isLineEnd c

/-- A backslash that only blanks part from the line end joins the lines: the text after it, without
all blanks and line ends at its front. -/
def joinLines? (rest : List Char) : Option (List Char) :=
  match rest.dropWhile fun c => c == ' ' || c == '\t' with
  | [] => none
  | c :: _ => if isLineEnd c then some (rest.dropWhile isSpace) else none

theorem length_joinLines? {cs rest : List Char} (h : joinLines? cs = some rest) :
    rest.length ≤ cs.length := by
  unfold joinLines? at h
  split at h
  · exact absurd h (by simp)
  · split at h
    · cases h
      exact (List.dropWhile_suffix _).length_le
    · exact absurd h (by simp)

/-- A string between three double quotes after the opening ones. Up to two further quotes before the
closing ones belong to the string. -/
def longBasicBody : List Char → Option (List Char × List Char)
  | [] => none
  | '"' :: '"' :: '"' :: '"' :: '"' :: rest => some (['"', '"'], rest)
  | '"' :: '"' :: '"' :: '"' :: rest => some (['"'], rest)
  | '"' :: '"' :: '"' :: rest => some ([], rest)
  | c :: rest =>
    if c = '\\' then
      match hj : joinLines? rest with
      | some after =>
        have := length_joinLines? hj
        longBasicBody after
      | none =>
        match h : escaped? rest with
        | none => none
        | some (char, after) => do
          have := length_escaped? h
          let (body, after) ← longBasicBody after
          some (char :: body, after)
    else do
      let (body, after) ← longBasicBody rest
      some (c :: body, after)
termination_by cs => cs.length
decreasing_by
  · simp only [List.length_cons]
    omega
  · simp only [List.length_cons]
    omega
  · simp

/-- A string between three double quotes after the opening ones; a line end right after them does
not belong to it. -/
def longBasic (cs : List Char) : Option (List Char × List Char) := longBasicBody (skipLineEnd cs)

/-- A string between three single quotes after the opening ones. -/
def longLiteralBody : List Char → Option (List Char × List Char)
  | [] => none
  | '\'' :: '\'' :: '\'' :: '\'' :: '\'' :: rest => some (['\'', '\''], rest)
  | '\'' :: '\'' :: '\'' :: '\'' :: rest => some (['\''], rest)
  | '\'' :: '\'' :: '\'' :: rest => some ([], rest)
  | c :: rest => do
    let (body, after) ← longLiteralBody rest
    some (c :: body, after)

/-- A string between three single quotes after the opening ones; a line end right after them does
not belong to it. -/
def longLiteral (cs : List Char) : Option (List Char × List Char) :=
  longLiteralBody (skipLineEnd cs)

/-! ### Numbers -/

/-- The digits of a run in which single underscores may part digits. -/
def ungrouped? (isDigit : Char → Bool) : List Char → Option (List Char)
  | [] => none
  | [d] => if isDigit d then some [d] else none
  | d :: '_' :: e :: rest =>
    if isDigit d then (ungrouped? isDigit (e :: rest)).map (d :: ·) else none
  | d :: e :: rest => if isDigit d then (ungrouped? isDigit (e :: rest)).map (d :: ·) else none

/-- The digits of a whole number, which does not begin with a needless zero. -/
def wholeDigits? (cs : List Char) : Option (List Char) := do
  let ds ← ungrouped? Char.isDigit cs
  if ds.head? = some '0' ∧ 1 < ds.length then none else some ds

/-- The number that digits of a base of at most sixteen denote. -/
def valueIn (base : Nat) (ds : List Char) : Nat :=
  ds.foldl (fun n c => n * base + (Digits.hexDigit? c).getD 0) 0

/-- The digit belongs to a base of at most sixteen. -/
def isDigitIn (base : Nat) (c : Char) : Bool := (Digits.hexDigit? c).any (· < base)

/-- A whole number in another base, after the zero that announces it. -/
def basedNumber? : List Char → Option Nat
  | 'x' :: ds => (ungrouped? (isDigitIn 16) ds).map (valueIn 16)
  | 'o' :: ds => (ungrouped? (isDigitIn 8) ds).map (valueIn 8)
  | 'b' :: ds => (ungrouped? (isDigitIn 2) ds).map (valueIn 2)
  | _ => none

/-- The sign at the front, true for minus, and the text after it. -/
def sign : List Char → Bool × List Char
  | '+' :: rest => (false, rest)
  | '-' :: rest => (true, rest)
  | cs => (false, cs)

/-- Digits and underscores. -/
def isGrouped (c : Char) : Bool := c.isDigit || c == '_'

/-- The exponent that makes up the rest of a word. -/
def exponent? : List Char → Option Int
  | c :: rest => do
    if c = 'e' ∨ c = 'E' then
      let (isNegative, ds) := sign rest
      let n := Digits.value (← ungrouped? Char.isDigit ds)
      some (if isNegative then -(n : Int) else n)
    else none
  | [] => none

/-- The floating-point number nearest to `digits * 10 ^ exponent`, if it is not too large. -/
def nearest (isNegative : Bool) (digits : List Char) (exponent : Int) : Option Binary64 :=
  let n := Digits.value digits
  let places := exponent + digits.length
  let x :=
    if n = 0 ∨ places < -400 then Binary64.withSign isNegative 0
    else if 400 < places - (digits.takeWhile (· == '0')).length then
      Binary64.withSign isNegative Binary64.infinityPattern
    else if 0 ≤ exponent then Binary64.ofRatio isNegative (n * Nat.pow 10 exponent.toNat) 1
    else Binary64.ofRatio isNegative n (Nat.pow 10 exponent.natAbs)
  if x.isFinite then some x else none

/-- A floating-point number after its sign: a whole part, and a fraction or an exponent or both. -/
def floatNumber? (isNegative : Bool) (cs : List Char) : Option Toml := do
  let grouped := cs.takeWhile isGrouped
  let whole ← wholeDigits? grouped
  match cs.drop grouped.length with
  | '.' :: rest =>
    let grouped := rest.takeWhile isGrouped
    let fraction ← ungrouped? Char.isDigit grouped
    let exponent ←
      match rest.drop grouped.length with
      | [] => some 0
      | rest => exponent? rest
    some (float (nearest isNegative (whole ++ fraction) (exponent - fraction.length)))
  | rest =>
    let exponent ← exponent? rest
    some (float (nearest isNegative whole exponent))

/-- The number that a word denotes. -/
def number? (cs : List Char) : Option Toml :=
  let (isNegative, magnitude) := sign cs
  if magnitude = ['i', 'n', 'f'] then
    some (float (some (Binary64.withSign isNegative Binary64.infinityPattern)))
  else if magnitude = ['n', 'a', 'n'] then some (float (some Binary64.undefined))
  else
    match wholeDigits? magnitude with
    | some ds =>
      let n := Digits.value ds
      some (integer (if isNegative then -(n : Int) else n))
    | none =>
      match cs with
      | '0' :: rest =>
        match basedNumber? rest with
        | some n => some (integer n)
        | none => floatNumber? isNegative magnitude
      | _ => floatNumber? isNegative magnitude

/-! ### Times -/

/-- The two digits at the front of a text, if they denote a number in a range. -/
def twoDigits? (low high : Nat) : List Char → Option (Nat × List Char)
  | a :: b :: rest =>
    let n := Digits.value [a, b]
    if a.isDigit ∧ b.isDigit ∧ low ≤ n ∧ n ≤ high then some (n, rest) else none
  | _ => none

/-- The text after a date. -/
def afterDate? : List Char → Option (List Char)
  | a :: b :: c :: d :: '-' :: rest => do
    if [a, b, c, d].all Char.isDigit then
      let (month, rest) ← twoDigits? 1 12 rest
      match rest with
      | '-' :: rest =>
        let (_, rest) ← twoDigits? 1 (CalendarDate.daysInMonth (Digits.value [a, b, c, d]) month) rest
        some rest
      | _ => none
    else none
  | _ => none

/-- The text after a time of day, whose seconds and their fraction may be left out. -/
def afterTime? (cs : List Char) : Option (List Char) := do
  let (_, rest) ← twoDigits? 0 23 cs
  match rest with
  | ':' :: rest =>
    let (_, rest) ← twoDigits? 0 59 rest
    match rest with
    | ':' :: rest =>
      let (_, rest) ← twoDigits? 0 60 rest
      match rest with
      | '.' :: rest =>
        let ds := rest.takeWhile Char.isDigit
        if ds.isEmpty then none else some (rest.drop ds.length)
      | rest => some rest
    | rest => some rest
  | _ => none

/-- The rest of a word is a mark for universal time or an offset from it. -/
def isOffset : List Char → Bool
  | ['Z'] | ['z'] => true
  | sign :: rest =>
    (sign == '+' || sign == '-') &&
      match twoDigits? 0 24 rest with
      | some (hours, ':' :: rest) =>
        (twoDigits? 0 (if hours = 24 then 0 else 59) rest).any fun r => r.2.isEmpty
      | _ => false
  | [] => false

/-- The character between a date and a time of day. -/
def isDateEnd (c : Char) : Bool := c == 'T' || c == 't' || c == ' '

/-- A word is a date, a time of day, or both with or without an offset. -/
def isMoment (cs : List Char) : Bool :=
  match afterDate? cs with
  | some [] => true
  | some (c :: rest) =>
    isDateEnd c && (afterTime? rest).any fun rest => rest.isEmpty || isOffset rest
  | none => (afterTime? cs).any List.isEmpty

/-! ### Words -/

/-- The characters of words. -/
def isWordChar (c : Char) : Bool :=
  c.isAlphanum || c == '+' || c == '-' || c == '_' || c == '.' || c == ':'

/-- The word at the front of a text. A blank parts a date from a time of day that follows it. -/
def wordOf (cs : List Char) : List Char :=
  let first := cs.takeWhile isWordChar
  match cs.drop first.length with
  | ' ' :: c :: rest =>
    if afterDate? first = some [] ∧ c.isDigit then
      first ++ ' ' :: (c :: rest).takeWhile isWordChar
    else first
  | _ => first

/-- The value of a word. -/
def word? (cs : List Char) : Option Toml :=
  if cs = ['t', 'r', 'u', 'e'] then some (flag true)
  else if cs = ['f', 'a', 'l', 's', 'e'] then some (flag false)
  else if isMoment cs then some (moment (String.ofList cs))
  else number? cs

end PullWatch.Toml
