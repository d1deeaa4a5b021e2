import PullWatch.Json

/-!
# The written form of a JSON value

Compact text without blanks. In strings, quotes, backslashes and control characters are escaped
and every other character stands for itself.

## Main definitions

* `Json.quoted`: a string with its quotes and escapes.
* `Json.render`: the text of a value.
-/

namespace PullWatch.Json

/-- The letter or digit of a number below sixteen. -/
def hexDigit (n : Nat) : Char := if n < 10 then Char.ofNat (48 + n) else Char.ofNat (87 + n)

/-- A character inside a string. -/
def escaped (c : Char) : List Char :=
  if c = '"' then ['\\', '"']
  else if c = '\\' then ['\\', '\\']
  else if c.toNat = 8 then ['\\', 'b']
  else if c.toNat = 9 then ['\\', 't']
  else if c.toNat = 10 then ['\\', 'n']
  else if c.toNat = 12 then ['\\', 'f']
  else if c.toNat = 13 then ['\\', 'r']
  else if c.toNat < 32 then ['\\', 'u', '0', '0', hexDigit (c.toNat / 16), hexDigit (c.toNat % 16)]
  else [c]

/-- A string with its quotes. -/
def quoted (cs : List Char) : List Char := '"' :: (cs.flatMap escaped ++ ['"'])

/-- Decimal digits with a sign for a number below zero. -/
def intText (n : Int) : List Char :=
  if n < 0 then '-' :: Nat.toDigits 10 n.natAbs else Nat.toDigits 10 n.natAbs

/-- Numbers that are not whole, very large or very small have an exponent of at least two digits. -/
def floatStyle : Binary64.FloatStyle :=
  { leastPositional := -5, greatestPositional := 15, exponentDigits := 2 }

mutual

/-- The text of a value, as characters. -/
def chars : Json → List Char
  | null => ['n', 'u', 'l', 'l']
  | bool true => ['t', 'r', 'u', 'e']
  | bool false => ['f', 'a', 'l', 's', 'e']
  | int n => intText n
  | float x => (x.text floatStyle).toList
  | str s => quoted s.toList
  | arr items => '[' :: itemChars items
  | obj members => '{' :: memberChars members

/-- The items of an array up to its closing bracket. -/
def itemChars : List Json → List Char
  | [] => [']']
  | [v] => chars v ++ [']']
  | v :: w :: rest => chars v ++ ',' :: itemChars (w :: rest)

/-- The members of an object up to its closing brace. -/
def memberChars : List (String × Json) → List Char
  | [] => ['}']
  | [(name, v)] => quoted name.toList ++ ':' :: (chars v ++ ['}'])
  | (name, v) :: m :: rest =>
    quoted name.toList ++ ':' :: (chars v ++ ',' :: memberChars (m :: rest))

end

/-- The text of a value. -/
def render (v : Json) : String := String.ofList v.chars

end PullWatch.Json
