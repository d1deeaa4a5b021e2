import PullWatch.Json
import PullWatch.Text.Digits

/-!
# Reading JSON text

A text is a value with blanks around it. Integers of 64 bits, with or without a sign, are kept
exactly; every other number becomes a floating-point number, and one too large for that is refused.
So are strings with unpaired surrogates and values nested 128 levels deep or more.

## Main definitions

* `Json.parse?`: the value of a text.
-/

namespace PullWatch.Json

/-- The blanks of JSON. -/
def isSpace (c : Char) : Bool := c == ' ' || c == '\n' || c == '\t' || c == '\r'

/-- The text without the blanks at its front. -/
def skipSpace (cs : List Char) : List Char := cs.dropWhile isSpace

/-- The character of a one-letter escape. -/
def simpleEscape? (c : Char) : Option Char :=
  if c = '"' ∨ c = '\\' ∨ c = '/' then some c
  else if c = 'b' then some (Char.ofNat 8)
  else if c = 'f' then some (Char.ofNat 12)
  else if c = 'n' then some (Char.ofNat 10)
  else if c = 'r' then some (Char.ofNat 13)
  else if c = 't' then some (Char.ofNat 9)
  else none

/-- The character that two surrogates denote. -/
def pairedSurrogates? (high low : Nat) : Option Char :=
  if 0xD800 ≤ high ∧ high < 0xDC00 ∧ 0xDC00 ≤ low ∧ low < 0xE000 then
    some (Char.ofNat (0x10000 + (high - 0xD800) * 0x400 + (low - 0xDC00)))
  else none

/-- The characters of a string after its opening quote, and the text after its closing one. -/
def stringBody : List Char → Option (List Char × List Char)
  | [] => none
  | '"' :: rest => some ([], rest)
  | '\\' :: 'u' :: a :: b :: c :: d :: '\\' :: 'u' :: e :: f :: g :: h :: rest => do
    let first ← Digits.hexValue? [a, b, c, d]
    if 0xD800 ≤ first ∧ first < 0xE000 then
      let second ← Digits.hexValue? [e, f, g, h]
      let char ← pairedSurrogates? first second
      let (body, after) ← stringBody rest
      some (char :: body, after)
    else
      let (body, after) ← stringBody ('\\' :: 'u' :: e :: f :: g :: h :: rest)
      some (Char.ofNat first :: body, after)
  | '\\' :: 'u' :: a :: b :: c :: d :: rest => do
    let first ← Digits.hexValue? [a, b, c, d]
    if 0xD800 ≤ first ∧ first < 0xE000 then none
    else
      let (body, after) ← stringBody rest
      some (Char.ofNat first :: body, after)
  | '\\' :: c :: rest => do
    let char ← simpleEscape? c
    let (body, after) ← stringBody rest
    some (char :: body, after)
  | c :: rest =>
    if c = '\\' ∨ c.toNat < 32 then none
    else do
      let (body, after) ← stringBody rest
      some (c :: body, after)

/-- Appends digits to a number as long as the result fits 64 bits; with it, how many were
appended. -/
def appendDigits : Nat → List Char → Nat × Nat
  | n, [] => (n, 0)
  | n, c :: cs =>
    let next := n * 10 + Digits.digit c
    if next < UInt64.size then
      let (m, k) := appendDigits next cs
      (m, k + 1)
    else (n, 0)

/-- The exponent after `e`, with its sign. -/
def exponentPart (cs : List Char) : Option (Int × List Char) :=
  let (negative, cs) :=
    match cs with
    | '+' :: rest => (false, rest)
    | '-' :: rest => (true, rest)
    | cs => (false, cs)
  let ds := cs.takeWhile Char.isDigit
  if ds.isEmpty then none
  else
    let n : Nat := Digits.value ds
    some (if negative then -(n : Int) else n, cs.drop ds.length)

/-- The value of a number whose whole part, fraction and exponent are known. Digits that no longer
fit 64 bits count only for their place. -/
def numberValue (negative : Bool) (whole fraction : List Char) (exponent : Int) :
    Option Json :=
  let (n, k) := appendDigits 0 whole
  let (m, j) := appendDigits n fraction
  (Binary64.ofDecimal negative m (exponent + (whole.length - k : Nat) - j)).map float

/-- The value of a number without fraction and exponent. -/
def wholeValue (negative : Bool) (whole : List Char) : Option Json :=
  let n : Nat := Digits.value whole
  if ¬ negative ∧ n < UInt64.size then some (int n)
  else if negative ∧ 0 < n ∧ 2 * n ≤ UInt64.size then some (int (-(n : Int)))
  else numberValue negative whole [] 0

/-- A number at the front of a text. -/
def number (cs : List Char) : Option (Json × List Char) := do
  let (negative, cs) :=
    match cs with
    | '-' :: rest => (true, rest)
    | cs => (false, cs)
  let whole := cs.takeWhile Char.isDigit
  if whole.isEmpty ∨ (whole.head? = some '0' ∧ 1 < whole.length) then none
  else
    let cs := cs.drop whole.length
    let (fraction, cs, hasPoint) :=
      match cs with
      | '.' :: rest =>
        let ds := rest.takeWhile Char.isDigit
        (ds, rest.drop ds.length, true)
      | cs => ([], cs, false)
    if hasPoint ∧ fraction.isEmpty then none
    else
      match cs with
      | c :: rest =>
        if c = 'e' ∨ c = 'E' then
          let (exponent, rest) ← exponentPart rest
          some (← numberValue negative whole fraction exponent, rest)
        else if hasPoint then some (← numberValue negative whole fraction 0, cs)
        else some (← wholeValue negative whole, cs)
      | [] =>
        if hasPoint then some (← numberValue negative whole fraction 0, [])
        else some (← wholeValue negative whole, [])

mutual

/-- A value at the front of a text. `depth` is how many more levels may be opened; `fuel` bounds the
number of steps and never runs out while it exceeds the length of the text. -/
def value (depth : Nat) : Nat → List Char → Option (Json × List Char)
  | 0, _ => none
  | fuel + 1, cs =>
    match skipSpace cs with
    | '"' :: rest => do
      let (body, rest) ← stringBody rest
      some (str (String.ofList body), rest)
    | '[' :: rest =>
      match depth with
      | depth + 2 =>
        match skipSpace rest with
        | ']' :: rest => some (arr [], rest)
        | rest => do
          let (items, rest) ← items (depth + 1) fuel rest
          some (arr items, rest)
      | _ => none
    | '{' :: rest =>
      match depth with
      | depth + 2 =>
        match skipSpace rest with
        | '}' :: rest => some (obj [], rest)
        | rest => do
          let (found, rest) ← members (depth + 1) fuel rest
          some (object found, rest)
      | _ => none
    | 't' :: 'r' :: 'u' :: 'e' :: rest => some (bool true, rest)
    | 'f' :: 'a' :: 'l' :: 's' :: 'e' :: rest => some (bool false, rest)
    | 'n' :: 'u' :: 'l' :: 'l' :: rest => some (null, rest)
    | cs => number cs

/-- The items of an array, up to and with its closing bracket. -/
def items (depth : Nat) : Nat → List Char → Option (List Json × List Char)
  | 0, _ => none
  | fuel + 1, cs => do
    let (v, rest) ← value depth fuel cs
    match skipSpace rest with
    | ']' :: rest => some ([v], rest)
    | ',' :: rest => do
      let (vs, rest) ← items depth fuel rest
      some (v :: vs, rest)
    | _ => none

/-- The members of an object, up to and with its closing brace. -/
def members (depth : Nat) : Nat → List Char → Option (List (String × Json) × List Char)
  | 0, _ => none
  | fuel + 1, cs =>
    match skipSpace cs with
    | '"' :: rest => do
      let (name, rest) ← stringBody rest
      match skipSpace rest with
      | ':' :: rest => do
        let (v, rest) ← value depth fuel rest
        match skipSpace rest with
        | '}' :: rest => some ([(String.ofList name, v)], rest)
        | ',' :: rest => do
          let (ms, rest) ← members depth fuel rest
          some ((String.ofList name, v) :: ms, rest)
        | _ => none
      | _ => none
    | _ => none

end

/-- One more than the greatest number of nested arrays and objects. -/
def nestingLimit : Nat := 128

/-- The value of a text. -/
def parse? (text : String) : Option Json := do
  let cs := text.toList
  let (v, rest) ← value nestingLimit (2 * cs.length + 2) cs
  if (skipSpace rest).isEmpty then some v else none

end PullWatch.Json
