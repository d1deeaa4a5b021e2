/-!
# Decimal digits

Numbers of a fixed number of decimal digits, as calendar fields and fractions of a second are
written, and the value of a run of digits.

## Main definitions

* `Digits.padded w n`: the last `w` decimal digits of `n`, leading zeros included.
* `Digits.value ds`: the number that a run of digits denotes.
* `Digits.hexValue? ds`: the number that a run of hexadecimal digits denotes.

## Main results

* `Digits.value_padded`: reading `w` written digits gives the number back, modulo `10 ^ w`.
-/

namespace PullWatch.Digits

/-- The digit character of a number below ten. -/
def char (d : Nat) : Char := Char.ofNat (48 + d)

/-- The last `w` decimal digits of a number, leading zeros included. -/
def padded : Nat → Nat → List Char
  | 0, _ => []
  | w + 1, n => padded w (n / 10) ++ [char (n % 10)]

/-- The value of one digit character. -/
def digit (c : Char) : Nat := c.toNat - 48

/-- The number that a run of decimal digits denotes. -/
def value (ds : List Char) : Nat := ds.foldl (fun n c => n * 10 + digit c) 0

/-- The value of a hexadecimal digit. -/
def hexDigit? (c : Char) : Option Nat :=
  if c.isDigit then some (digit c)
  else if 'a' ≤ c ∧ c ≤ 'f' then some (c.toNat - 87)
  else if 'A' ≤ c ∧ c ≤ 'F' then some (c.toNat - 55)
  else none

/-- The number that a run of hexadecimal digits denotes. -/
def hexValue? (ds : List Char) : Option Nat :=
  ds.foldlM (fun n c => (hexDigit? c).map fun d => n * 16 + d) 0

@[simp] theorem length_padded (w n : Nat) : (padded w n).length = w := by
  induction w generalizing n with
  | zero => rfl
  | succ w ih => simp [padded, ih]

theorem digit_char {d : Nat} (h : d < 10) : digit (char d) = d := by
  have : d = 0 ∨ d = 1 ∨ d = 2 ∨ d = 3 ∨ d = 4 ∨ d = 5 ∨ d = 6 ∨ d = 7 ∨ d = 8 ∨ d = 9 := by
    omega
  rcases this with h | h | h | h | h | h | h | h | h | h <;> subst h <;> rfl

theorem isDigit_char {d : Nat} (h : d < 10) : (char d).isDigit = true := by
  have : d = 0 ∨ d = 1 ∨ d = 2 ∨ d = 3 ∨ d = 4 ∨ d = 5 ∨ d = 6 ∨ d = 7 ∨ d = 8 ∨ d = 9 := by
    omega
  rcases this with h | h | h | h | h | h | h | h | h | h <;> subst h <;> rfl

theorem isDigit_of_mem_padded {w n : Nat} {c : Char} (h : c ∈ padded w n) : c.isDigit = true := by
  induction w generalizing n with
  | zero => simp [padded] at h
  | succ w ih =>
    simp only [padded, List.mem_append, List.mem_singleton] at h
    rcases h with h | rfl
    · exact ih h
    · exact isDigit_char (by omega)

theorem value_append_singleton (ds : List Char) (c : Char) :
    value (ds ++ [c]) = value ds * 10 + digit c := by
  simp [value]

/-- Reading `w` written digits gives the number back, modulo `10 ^ w`. -/
theorem value_padded (w n : Nat) : value (padded w n) = n % Nat.pow 10 w := by
  induction w generalizing n with
  | zero => simp [padded, value, Nat.mod_one]
  | succ w ih =>
    have step : Nat.pow 10 (w + 1) = 10 * Nat.pow 10 w := Nat.mul_comm _ _
    rw [padded, value_append_singleton, ih, digit_char (by omega), step, Nat.mod_mul]
    omega

end PullWatch.Digits
