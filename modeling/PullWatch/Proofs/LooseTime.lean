import PullWatch.Proofs.WrittenTime

/-!
# Times of any year

The loose reader takes signed years, so it reads every written time, not only those of the years 0
to 9999. Hence two times that are written alike are the same time: a text that holds a written time,
such as the name of a query, names that time.

## Main results

* `Instant.parseLoose_rfc3339`: reading a written time gives the time back.
* `Instant.rfc3339_inj`: different times are written differently.
-/

namespace PullWatch.Instant

open Text

/-! ### Parts of a written time -/

theorem isBlank_of_isDigit {c : Char} (h : c.isDigit = true) : isBlank c = false := by
  have hc : 48 ≤ c.toNat ∧ c.toNat ≤ 57 := by
    simpa [Char.isDigit, UInt32.le_iff_toNat_le] using h
  simp only [isBlank, blankRanges, List.any_eq_false, List.forall_mem_cons, Bool.and_eq_true,
    decide_eq_true_eq]
  refine ⟨?_, ?_, ?_, ?_, ?_, ?_, ?_, ?_, ?_, ?_, by simp⟩ <;> omega

theorem trimFront_cons {c : Char} (h : isBlank c = false) (rest : List Char) :
    trimFront (c :: rest) = c :: rest := by
  rw [trimFront, List.dropWhile_cons_of_neg (by simp [h])]

theorem trimFront_padded {w : Nat} (hw : 0 < w) (n : Nat) (rest : List Char) :
    trimFront (Digits.padded w n ++ rest) = Digits.padded w n ++ rest := by
  cases hp : Digits.padded w n with
  | nil =>
    have hlength := Digits.length_padded w n
    rw [hp, List.length_nil] at hlength
    omega
  | cons d ds =>
    have hd : d ∈ Digits.padded w n := by rw [hp]; exact List.mem_cons_self
    exact trimFront_cons (isBlank_of_isDigit (Digits.isDigit_of_mem_padded hd)) _

theorem looseField_padded {lo hi n : Nat} (hlo : lo ≤ n) (hhi : n ≤ hi) (h : n < 100) {c : Char}
    (hc : c.isDigit = false) (rest : List Char) :
    looseField lo hi (Digits.padded 2 n ++ c :: rest) = .ok (n, c :: rest) := by
  have hn : n < Nat.pow 10 2 := by simpa using h
  rw [looseField, trimFront_padded (by decide), bounded,
    upToDigits_padded (by decide) Nat.le.refl hn hc]
  simp only [bind, Except.bind]
  rw [if_neg (by omega)]

theorem looseLiteral_self {c : Char} (h : isBlank c = false) (rest : List Char) :
    looseLiteral c (c :: rest) = .ok rest := by
  rw [looseLiteral, trimFront_cons h, literal_self]

/-- A year that instants cover is read back with its sign, if it has one. -/
theorem looseYear_yearText {year : Int} (h : -262143 ≤ year ∧ year ≤ 262142) (rest : List Char) :
    looseYear (trimFront (yearText year ++ '-' :: rest)) = .ok (year, '-' :: rest) := by
  obtain ⟨w, hw, hw4, hdigits⟩ :
      ∃ w, year.natAbs < Nat.pow 10 w ∧ 4 ≤ w ∧
        yearDigits year.natAbs = Digits.padded w year.natAbs := by
    rw [yearDigits]
    split_ifs
    · exact ⟨4, by simpa using ‹_›, by decide, rfl⟩
    · exact ⟨5, by simpa using ‹_›, by decide, rfl⟩
    · exact ⟨6, by simp only [Nat.pow_eq]; omega, by decide, rfl⟩
  have hsigned : upToDigits (Digits.padded w year.natAbs ++ '-' :: rest).length
      (Digits.padded w year.natAbs ++ '-' :: rest) = .ok (year.natAbs, '-' :: rest) := by
    refine upToDigits_padded (by omega) ?_ hw (by decide) rest
    rw [List.length_append, Digits.length_padded]
    omega
  rw [yearText]
  split_ifs with hneg hlarge
  · rw [List.cons_append, trimFront_cons (by decide), looseYear, hdigits, hsigned]
    simp only [bind, Except.bind]
    rw [if_neg (by omega)]
    congr 2
    omega
  · rw [List.cons_append, trimFront_cons (by decide), looseYear, hdigits, hsigned]
    simp only [bind, Except.bind]
    rw [if_neg (by omega)]
    congr 2
    omega
  · have hsmall : year.natAbs < Nat.pow 10 4 := by
      simp only [Nat.pow_eq]
      omega
    have hread := upToDigits_padded (by decide) Nat.le.refl hsmall (by decide : '-'.isDigit = false)
      rest
    rw [yearDigits, if_pos (by omega), trimFront_padded (by decide), looseYear]
    · rw [hread]
      simp only [bind, Except.bind]
      congr 2
      omega
    -- no digit is a sign
    all_goals
      intro cs hcs
      have hd : (Digits.padded 4 year.natAbs ++ '-' :: rest).head? = some _ :=
        congrArg List.head? hcs
      simp only [Digits.padded, List.nil_append, List.cons_append, List.head?_cons,
        Option.some.injEq] at hd
      have hdigit :=
        Digits.isDigit_char (Nat.mod_lt (year.natAbs / 10 / 10 / 10) (by decide : 10 > 0))
      rw [hd] at hdigit
      exact absurd hdigit (by decide)

theorem looseOffset_zero :
    looseOffset (trimFront ['+', '0', '0', ':', '0', '0']) = .ok (0, []) := by decide

theorem exists_cons_fractionText (nanos : Nat) {c : Char} (hc : c.isDigit = false)
    (rest : List Char) :
    ∃ d ds, fractionText nanos ++ c :: rest = d :: ds ∧ d.isDigit = false := by
  rw [fractionText]
  split_ifs
  · exact ⟨_, _, rfl, hc⟩
  all_goals exact ⟨_, _, rfl, by decide⟩

variable (t : Instant)

/-- The loose reader reads the fields of a written time, and the offset that follows it. -/
theorem looseFields_append {c : Char} {mark : List Char} {offset : Int}
    (hdigit : c.isDigit = false) (hpoint : c ≠ '.')
    (hoffset : looseOffset (trimFront (c :: mark)) = .ok (offset, [])) :
    looseFields (t.dateTimeText ++ c :: mark) = .ok ({ t.fields with offset }, []) := by
  have hmonth : 1 ≤ t.date.month ∧ t.date.month ≤ 12 := CalendarDate.month_ofDayNumber _
  have hday : 1 ≤ t.date.day ∧ t.date.day ≤ 31 := CalendarDate.day_ofDayNumber _
  have hhour : t.secondOfDay / 3600 ≤ 23 := by
    have := t.secondOfDay_lt
    omega
  have hminute : t.secondOfDay / 60 % 60 ≤ 59 := by omega
  have hsecond : t.secondOfDay % 60 + t.fraction / nanosPerSecond ≤ 60 := t.second_fields_le
  have hnanos : t.fraction % nanosPerSecond < 1000000000 := Nat.mod_lt _ (by decide)
  obtain ⟨d, ds, hfraction, hd⟩ :=
    exists_cons_fractionText (t.fraction % nanosPerSecond) hdigit mark
  have hread : optionalFraction (d :: ds) = .ok (t.fraction % nanosPerSecond, c :: mark) := by
    rw [← hfraction]
    exact optionalFraction_fractionText hnanos hdigit hpoint _
  simp only [dateTimeText, dateText, timeText, List.append_assoc, List.cons_append]
  simp only [looseFields, looseYear_yearText t.year_bounds,
    looseLiteral_self (show isBlank '-' = false by decide),
    looseLiteral_self (show isBlank ':' = false by decide),
    looseField_padded hmonth.1 hmonth.2 (by omega) (show '-'.isDigit = false by decide),
    looseField_padded hday.1 hday.2 (by omega) (show 'T'.isDigit = false by decide),
    looseField_padded (Nat.zero_le _) hhour (by omega) (show ':'.isDigit = false by decide),
    looseField_padded (Nat.zero_le _) hminute (by omega) (show ':'.isDigit = false by decide),
    hfraction, looseField_padded (Nat.zero_le _) hsecond (by omega) hd, hread,
    dateTimeSeparator, true_or, if_true, hoffset, bind, Except.bind]
  rfl

/-- Reading a written time of any year gives the time back. -/
theorem parseLoose_rfc3339 : parseLoose t.rfc3339 = .ok t := by
  rw [parseLoose, ofFields, rfc3339, String.toList_ofList,
    t.looseFields_append (by decide) (by decide) looseOffset_zero]
  exact t.toInstant_fields

theorem rfc3339_inj {s t : Instant} : s.rfc3339 = t.rfc3339 ↔ s = t := by
  refine ⟨fun h => ?_, congrArg _⟩
  have hs := s.parseLoose_rfc3339
  rw [h, t.parseLoose_rfc3339] at hs
  exact (Except.ok.inj hs).symm

end PullWatch.Instant
