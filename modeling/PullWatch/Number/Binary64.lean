/-!
# Binary floating-point numbers of 64 bits

A number is kept as its bit pattern: a sign, a biased exponent of 11 bits and a significand of 52
bits. All arithmetic on it is exact arithmetic on natural numbers followed by one rounding to
nearest, ties to even.

## Main definitions

* `Binary64.ofRatio`: the nearest number to a quotient.
* `Binary64.ofDecimal`: the number that a decimal literal denotes.
* `Binary64.shortest`: the fewest decimal digits that read back as the number.
* `Binary64.text`: the written form under a `FloatStyle`.
* `Binary64.fixedText`: the written form with a fixed number of places.
-/

namespace PullWatch

/-- A 64-bit floating-point number, as its bit pattern. -/
structure Binary64 where
  bits : UInt64
  deriving DecidableEq, Repr

namespace Binary64

/-- The value of the sign bit. -/
def signBit : Nat := 9223372036854775808

/-- The value of the leading bit of a significand, which is not stored. -/
def leadingBit : Nat := 4503599627370496

/-- The number is below zero or negative zero. -/
def isNegative (x : Binary64) : Bool := signBit ≤ x.bits.toNat

/-- The biased exponent. -/
def biasedExponent (x : Binary64) : Nat := x.bits.toNat / leadingBit % 2048

/-- The 52 stored bits of the significand. -/
def storedSignificand (x : Binary64) : Nat := x.bits.toNat % leadingBit

/-- The number is neither infinite nor undefined. -/
def isFinite (x : Binary64) : Bool := x.biasedExponent < 2047

/-- The number is the result of an undefined operation. -/
def isUndefined (x : Binary64) : Bool := x.biasedExponent == 2047 && x.storedSignificand != 0

/-- The significand with its leading bit: the magnitude is `significand * 2 ^ scale`. -/
def significand (x : Binary64) : Nat :=
  if x.biasedExponent = 0 then x.storedSignificand else x.storedSignificand + leadingBit

/-- The exponent of two that belongs to `significand`. -/
def scale (x : Binary64) : Int := (max 1 x.biasedExponent : Nat) - 1075

/-- The bit pattern of a sign and a magnitude pattern. -/
def withSign (negative : Bool) (magnitude : Nat) : Binary64 :=
  ⟨UInt64.ofNat (if negative then magnitude + signBit else magnitude)⟩

/-- The pattern of infinity. -/
def infinityPattern : Nat := 2047 * leadingBit

/-- Positive infinity. -/
def infinity : Binary64 := withSign false infinityPattern

/-- The pattern with all exponent bits and the first significand bit set. -/
def undefined : Binary64 := withSign false (infinityPattern + leadingBit / 2)

/-- The quotient of two numbers, rounded to nearest, ties to even. -/
def roundedQuotient (num den : Nat) : Nat :=
  let q := num / den
  let r := num % den
  if den < 2 * r ∨ (2 * r = den ∧ q % 2 = 1) then q + 1 else q

/-- The number nearest to `num / den`, ties to even; infinity when it is too large. The exponent is
first taken from the lengths of the two numbers and lowered by one if the quotient came out
short. -/
def ofRatio (negative : Bool) (num den : Nat) : Binary64 :=
  if num = 0 ∨ den = 0 then withSign negative 0
  else
    let quotientAt (e : Int) : Nat :=
      if e < 0 then roundedQuotient (num * Nat.pow 2 e.natAbs) den
      else roundedQuotient num (den * Nat.pow 2 e.natAbs)
    let floorAt (e : Int) : Nat :=
      if e < 0 then num * Nat.pow 2 e.natAbs / den else num / (den * Nat.pow 2 e.natAbs)
    let guess : Int := (num.log2 : Int) - den.log2 - 52
    let e := max (-1074) (if floorAt guess < leadingBit then guess - 1 else guess)
    let m := quotientAt e
    let pattern : Int := if m < leadingBit then m else m - leadingBit + (e + 1075) * leadingBit
    if (infinityPattern : Int) ≤ pattern then withSign negative infinityPattern
    else withSign negative pattern.toNat

/-- Numerator and denominator of the magnitude. -/
def ratio (x : Binary64) : Nat × Nat :=
  if x.scale < 0 then (x.significand, Nat.pow 2 x.scale.natAbs)
  else (x.significand * Nat.pow 2 x.scale.natAbs, 1)

/-- The nearest number to ten to a power. -/
def powerOfTen (n : Nat) : Binary64 := ofRatio false (Nat.pow 10 n) 1

/-- The number that the digits `digits` times ten to `exponent` denote: the digits are rounded
first, and their product or quotient with the power of ten is rounded again. Absent when the
number is too large. -/
def ofDecimal (negative : Bool) (digits : Nat) (exponent : Int) : Option Binary64 :=
  let start := ofRatio false digits 1
  if digits = 0 then some (withSign negative 0)
  else if 308 < exponent then none
  else if 0 ≤ exponent then
    let p := powerOfTen exponent.toNat
    let x := ofRatio negative (start.ratio.1 * p.ratio.1) (start.ratio.2 * p.ratio.2)
    if x.isFinite then some x else none
  else if -308 ≤ exponent then
    let p := powerOfTen exponent.natAbs
    some (ofRatio negative (start.ratio.1 * p.ratio.2) (start.ratio.2 * p.ratio.1))
  else
    let p := powerOfTen 308
    let first := ofRatio false (start.ratio.1 * p.ratio.2) (start.ratio.2 * p.ratio.1)
    let rest := powerOfTen (min 308 (exponent.natAbs - 308))
    some (ofRatio negative (first.ratio.1 * rest.ratio.2) (first.ratio.2 * rest.ratio.1))

/-- The interval of magnitudes that round to the number, as numerators over one denominator, and
whether its ends belong to it. -/
structure RoundingInterval where
  low : Nat
  value : Nat
  high : Nat
  den : Nat
  closed : Bool

/-- The magnitudes that round to a finite number. Below a power of two the grid is twice as fine,
so the lower end lies nearer. -/
def roundingInterval (x : Binary64) : RoundingInterval :=
  let m := x.significand
  let atPower : Bool := x.storedSignificand == 0 && 1 < x.biasedExponent
  let lo := if atPower then 4 * m - 1 else 4 * m - 2
  let closed := m % 2 == 0
  if x.scale < 0 then
    { low := lo, value := 4 * m, high := 4 * m + 2, den := 4 * Nat.pow 2 x.scale.natAbs, closed }
  else
    let s := Nat.pow 2 x.scale.natAbs
    { low := lo * s, value := 4 * m * s, high := (4 * m + 2) * s, den := 4, closed }

/-- Does a grid point, `numerator / denominator`, round to the number? -/
def RoundingInterval.contains (i : RoundingInterval) (numerator denominator : Nat) : Bool :=
  let p := numerator * i.den
  if i.closed then i.low * denominator ≤ p && p ≤ i.high * denominator
  else i.low * denominator < p && p < i.high * denominator

/-- The decimal exponent of the first digit: the greatest `e` with `10 ^ e ≤ num / den`. -/
def decimalExponent (num den : Nat) : Int :=
  let atLeast (e : Int) : Bool :=
    if 0 ≤ e then Nat.pow 10 e.natAbs * den ≤ num else den ≤ num * Nat.pow 10 e.natAbs
  let guess : Int := ((num.log2 : Int) - den.log2) * 30103 / 100000
  if atLeast (guess + 1) then guess + 1 else if atLeast guess then guess else guess - 1

/-- The two grid points of spacing `10 ^ e` around the value; the nearer one that rounds to the
number, if any does. -/
def onGrid (i : RoundingInterval) (e : Int) : Option Nat :=
  let (num, den) :=
    if 0 ≤ e then (i.value, i.den * Nat.pow 10 e.natAbs) else (i.value * Nat.pow 10 e.natAbs, i.den)
  let below := num / den
  let fits (k : Nat) : Bool :=
    if 0 ≤ e then i.contains (k * Nat.pow 10 e.natAbs) 1 else i.contains k (Nat.pow 10 e.natAbs)
  let nearer := roundedQuotient num den
  let farther := if nearer = below then below + 1 else below
  if fits nearer then some nearer
  else if fits farther then some farther
  else none

/-- The fewest digits that read back as a finite number other than zero, and the exponent of their
last digit. -/
def shortest (x : Binary64) : Nat × Int :=
  let i := x.roundingInterval
  let top := decimalExponent i.value i.den
  let grids := (List.range 17).map fun (n : Nat) => top - (n : Int)
  match grids.findSome? fun e => (onGrid i e).map fun d => (d, e) with
  | some (d, e) => if d % 10 = 0 then (d / 10, e + 1) else (d, e)
  | none => (0, 0)

/-- How a number is written. -/
structure FloatStyle where
  /-- Least decimal exponent written without an exponent. -/
  leastPositional : Int
  /-- Greatest decimal exponent written without an exponent. -/
  greatestPositional : Int
  /-- Least number of digits of a written exponent. -/
  exponentDigits : Nat

/-- The sign and digits of an exponent. -/
def exponentText (style : FloatStyle) (e : Int) : List Char :=
  let ds := Nat.toDigits 10 e.natAbs
  'e' :: (if e < 0 then '-' else '+') :: (List.replicate (style.exponentDigits - ds.length) '0' ++ ds)

/-- The written magnitude of `digits * 10 ^ exponent`. A whole number gets the ending `.0`. -/
def magnitudeText (style : FloatStyle) (digits : Nat) (exponent : Int) : List Char :=
  let ds := Nat.toDigits 10 digits
  let first : Int := exponent + ds.length - 1
  if first < style.leastPositional ∨ style.greatestPositional < first then
    match ds with
    | [d] => d :: exponentText style first
    | d :: rest => d :: '.' :: (rest ++ exponentText style first)
    | [] => []
  else if 0 ≤ exponent then ds ++ List.replicate exponent.toNat '0' ++ ['.', '0']
  else if 0 ≤ first then
    ds.take (first.toNat + 1) ++ '.' :: ds.drop (first.toNat + 1)
  else '0' :: '.' :: (List.replicate (first.natAbs - 1) '0' ++ ds)

/-- The number in a given style, with `inf` and `NaN` for what is not finite. -/
def text (style : FloatStyle) (x : Binary64) : String :=
  if x.isUndefined then "NaN"
  else
    let magnitude : List Char :=
      if ¬ x.isFinite then ['i', 'n', 'f']
      else if x.significand = 0 then ['0', '.', '0']
      else magnitudeText style x.shortest.1 x.shortest.2
    String.ofList (if x.isNegative then '-' :: magnitude else magnitude)

/-- The magnitude of a finite number with a fixed number of places after the point; an exact tie
goes to the even neighbour. -/
def fixedText (places : Nat) (x : Binary64) : String :=
  let n := roundedQuotient (x.ratio.1 * Nat.pow 10 places) x.ratio.2
  let ds := Nat.toDigits 10 n
  let ds := List.replicate (places + 1 - ds.length) '0' ++ ds
  let whole := ds.take (ds.length - places)
  String.ofList (if places = 0 then whole else whole ++ '.' :: ds.drop (ds.length - places))

/-- The product with a natural number, rounded. -/
def scaleBy (x : Binary64) (n : Nat) : Binary64 := ofRatio x.isNegative (x.ratio.1 * n) x.ratio.2

end Binary64

end PullWatch
