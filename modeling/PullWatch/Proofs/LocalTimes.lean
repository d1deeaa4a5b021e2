import PullWatch.Proofs.LooseTime

/-!
# Times of other zones

A time may be written as the clocks of another zone show it, followed by how far they are ahead of
universal time, in hours and minutes. The loose reader takes it back to universal time: a leap
second stays one, since whole minutes do not move it within its minute.

## Main definitions

* `Instant.Offset`: whole minutes by which the clocks that show a time may be ahead or behind.
* `Instant.Offset.localTime`, `Instant.Offset.text`: what they show, and how it is written.

## Main results

* `Instant.Offset.parseLoose_text`: reading a time of any zone gives the time back.
-/

namespace PullWatch.Instant

open Text

/-- Whole minutes, less than a day, by which clocks are ahead of universal time that show a time in
the representable years. -/
structure Offset (t : Instant) where
  minutes : Int
  withinDay : -1440 < minutes ∧ minutes < 1440
  inRange : -8334601228800 ≤ t.second + minutes * 60 ∧ t.second + minutes * 60 ≤ 8210266876799

namespace Offset

variable {t : Instant}

/-- Universal time itself. -/
def utc (t : Instant) : t.Offset where
  minutes := 0
  withinDay := by decide
  inRange := by simpa using t.inRange

/-- Clocks that are ahead by a number of minutes, or universal time where there are none. -/
def orUtc (minutes : Int) (t : Instant) : t.Offset :=
  if h : (-1440 < minutes ∧ minutes < 1440) ∧
      -8334601228800 ≤ t.second + minutes * 60 ∧ t.second + minutes * 60 ≤ 8210266876799 then
    { minutes, withinDay := h.1, inRange := h.2 }
  else utc t

/-- The time that the clocks show. -/
def localTime (o : t.Offset) : Instant where
  second := t.second + o.minutes * 60
  fraction := t.fraction
  inRange := o.inRange
  wellFormed := by
    have := t.wellFormed
    omega

/-- The mark of the offset: `Z` for universal time, and otherwise a sign, hours and minutes. -/
def mark (o : t.Offset) : List Char :=
  if o.minutes = 0 then ['Z']
  else
    (if o.minutes < 0 then '-' else '+') ::
      (Digits.padded 2 (o.minutes.natAbs / 60) ++
        ':' :: Digits.padded 2 (o.minutes.natAbs % 60))

/-- The time as the clocks show it, with the mark of their offset. -/
def text (o : t.Offset) : String := String.ofList (o.localTime.dateTimeText ++ o.mark)

/-! ### Reading an offset -/

theorem offsetDigits_padded {n : Nat} (h : n < 100) (rest : List Char) :
    offsetDigits (Digits.padded 2 n ++ rest) = .ok (n, rest) := by
  have hvalue : Digits.value (Digits.padded 2 n) = n := by
    rw [Digits.value_padded]
    exact Nat.mod_eq_of_lt (by simpa using h)
  have hten : Digits.padded 2 n = [Digits.char (n / 10 % 10), Digits.char (n % 10)] := rfl
  have htens := Digits.isDigit_char (Nat.mod_lt (n / 10) (by decide : 10 > 0))
  have hones := Digits.isDigit_char (Nat.mod_lt n (by decide : 10 > 0))
  rw [hten, List.cons_append, List.cons_append, List.nil_append, offsetDigits,
    if_pos ⟨htens, hones⟩, ← hten, hvalue]

/-- A colon before digits is passed over, and nothing else is. -/
theorem dropWhile_colon_padded (n : Nat) :
    ((':' :: Digits.padded 2 n).dropWhile fun c => c == ':' || isBlank c) = Digits.padded 2 n := by
  have hdigit := Digits.isDigit_char (Nat.mod_lt (n / 10) (by decide : 10 > 0))
  have hcolon : Digits.char (n / 10 % 10) ≠ ':' := by
    intro h
    rw [h] at hdigit
    exact absurd hdigit (by decide)
  have htens : Digits.padded 2 n = [Digits.char (n / 10 % 10), Digits.char (n % 10)] := rfl
  rw [List.dropWhile_cons_of_pos (by simp), htens, List.dropWhile_cons_of_neg]
  simp [hcolon, isBlank_of_isDigit hdigit]

/-- A sign, hours and minutes are read as a number of seconds. -/
theorem looseOffset_signed {sign : Char} {factor : Int}
    (hsign : sign = '+' ∧ factor = 1 ∨ sign = '-' ∧ factor = -1) {hours minutes : Nat}
    (hhours : hours < 100) (hminutes : minutes ≤ 59) :
    looseOffset (sign :: (Digits.padded 2 hours ++ ':' :: Digits.padded 2 minutes)) =
      .ok (factor * ((hours * 3600 + minutes * 60 : Nat) : Int), []) := by
  have hread : offsetMinutes (Digits.padded 2 minutes) = .ok (minutes, []) := by
    have hdigits := offsetDigits_padded (show minutes < 100 by omega) []
    rw [List.append_nil] at hdigits
    rw [offsetMinutes, bounded, hdigits]
    simp only [bind, Except.bind]
    rw [if_neg (by omega)]
  rcases hsign with ⟨rfl, rfl⟩ | ⟨rfl, rfl⟩
  all_goals
    rw [looseOffset, if_neg (by simp)]
    · simp only [offsetSign, offsetDigits_padded hhours, dropWhile_colon_padded, hread, bind,
        Except.bind]
    all_goals simp

/-- The mark of an offset is read as its seconds. -/
theorem looseOffset_mark (o : t.Offset) :
    ∃ c mark, o.mark = c :: mark ∧ c.isDigit = false ∧ c ≠ '.' ∧
      looseOffset (trimFront (c :: mark)) = .ok (o.minutes * 60, []) := by
  obtain ⟨hlow, hhigh⟩ := o.withinDay
  rw [mark]
  split_ifs with hzero hneg
  · exact ⟨'Z', [], rfl, by decide, by decide, by rw [hzero]; rfl⟩
  · refine ⟨'-', _, rfl, by decide, by decide, ?_⟩
    rw [trimFront_cons (by decide),
      looseOffset_signed (.inr ⟨rfl, rfl⟩) (by omega) (by omega)]
    congr 2
    omega
  · refine ⟨'+', _, rfl, by decide, by decide, ?_⟩
    rw [trimFront_cons (by decide),
      looseOffset_signed (.inl ⟨rfl, rfl⟩) (by omega) (by omega)]
    congr 2
    omega

/-- Reading a time of any zone gives the time back. -/
theorem parseLoose_text (o : t.Offset) : parseLoose o.text = .ok t := by
  obtain ⟨c, mark, hmark, hdigit, hpoint, hoffset⟩ := o.looseOffset_mark
  obtain ⟨hlow, hhigh⟩ := o.withinDay
  rw [parseLoose, ofFields, text, String.toList_ofList, hmark,
    o.localTime.looseFields_append hdigit hpoint hoffset]
  exact t.toInstant_fields_offset (by omega) rfl rfl

end Offset

end PullWatch.Instant
