import PullWatch.Database.Row
import Mathlib.Tactic.SplitIfs

/-!
# Lists of names in columns

A list of names is stored as a JSON array of strings. Escapes keep every character, and the reader
takes one step for each name, of which it has more than the text has characters.

## Main results

* `Json.stringBody_quoted`: reading a written string gives its characters back.
* `Column.list_listText`: reading a written list of names gives the list back.
-/

namespace PullWatch

namespace Json

/-! ### Strings -/

theorem hexDigit?_hexDigit : ∀ n < 16, Digits.hexDigit? (hexDigit n) = some n := by
  decide

theorem hexValue?_escaped {n : Nat} (h : n < 32) :
    Digits.hexValue? ['0', '0', hexDigit (n / 16), hexDigit (n % 16)] = some n := by
  have hhigh := hexDigit?_hexDigit (n / 16) (by omega)
  have hlow := hexDigit?_hexDigit (n % 16) (by omega)
  have hzero : Digits.hexDigit? '0' = some 0 := by decide
  simp only [Digits.hexValue?, List.foldlM_cons, List.foldlM_nil, hzero, hhigh, hlow,
    Option.map_some, Option.bind_eq_bind, Option.bind_some, Option.pure_def]
  congr 1
  omega

/-- The escape of a control character is read as that character, whatever follows it. -/
theorem stringBody_control {c : Char} (hc : c.toNat < 32) (rest : List Char) :
    stringBody ('\\' :: 'u' :: '0' :: '0' :: hexDigit (c.toNat / 16) :: hexDigit (c.toNat % 16)
      :: rest) = (stringBody rest).map fun r => (c :: r.1, r.2) := by
  have hvalue := hexValue?_escaped hc
  have hsurrogate : ¬ (0xD800 ≤ c.toNat ∧ c.toNat < 0xE000) := by omega
  rw [stringBody.eq_def]
  split
  · rename_i heq
    simp at heq
  · rename_i heq
    simp at heq
  -- another escape of four digits follows
  · rename_i heq
    simp only [List.cons.injEq, true_and] at heq
    obtain ⟨rfl, rfl, rfl, rfl, rfl⟩ := heq
    simp only [hvalue, Option.bind_eq_bind, Option.bind_some, if_neg hsurrogate, Char.ofNat_toNat]
    rename_i e f g h rest
    cases stringBody ('\\' :: 'u' :: e :: f :: g :: h :: rest) <;> rfl
  · rename_i heq
    simp only [List.cons.injEq, true_and] at heq
    obtain ⟨rfl, rfl, rfl, rfl, rfl⟩ := heq
    simp only [hvalue, Option.bind_eq_bind, Option.bind_some, if_neg hsurrogate, Char.ofNat_toNat]
    cases stringBody rest <;> rfl
  · rename_i hlong hshort heq
    simp only [List.cons.injEq, true_and] at heq
    obtain ⟨rfl, rfl⟩ := heq
    exact (hshort _ _ _ _ _ rfl rfl).elim
  · rename_i hescape heq
    obtain ⟨rfl, rfl⟩ := List.cons.inj heq
    exact (hescape _ _ rfl rfl).elim

/-- An escape of one letter is read as its character. -/
theorem stringBody_simple {c letter : Char} (hletter : simpleEscape? letter = some c)
    (hu : letter ≠ 'u') (rest : List Char) :
    stringBody ('\\' :: letter :: rest) = (stringBody rest).map fun r => (c :: r.1, r.2) := by
  rw [stringBody.eq_def]
  split
  all_goals
    rename_i heq
    simp only [List.cons.injEq, reduceCtorEq, true_and, false_and, hu] at heq
  · exact absurd heq.1.symm (by decide)
  · obtain ⟨rfl, rfl⟩ := heq
    simp only [hletter, Option.bind_eq_bind, Option.bind_some]
    cases stringBody rest <;> rfl
  · rename_i hescape
    exact (hescape _ _ heq.1.symm heq.2.symm).elim

/-- A character that stands for itself is read as itself. -/
theorem stringBody_plain {c : Char} (hquote : c ≠ '"') (hslash : c ≠ '\\') (hc : ¬ c.toNat < 32)
    (rest : List Char) :
    stringBody (c :: rest) = (stringBody rest).map fun r => (c :: r.1, r.2) := by
  rw [stringBody.eq_def]
  split
  all_goals
    rename_i heq
    simp only [List.cons.injEq, reduceCtorEq] at heq
  · exact absurd heq.1 hquote
  · exact absurd heq.1 hslash
  · exact absurd heq.1 hslash
  · exact absurd heq.1 hslash
  · obtain ⟨rfl, rfl⟩ := heq
    simp only [hslash, hc, or_self, if_false, Option.bind_eq_bind]
    cases stringBody rest <;> rfl

theorem stringBody_escaped (c : Char) (rest : List Char) :
    stringBody (escaped c ++ rest) = (stringBody rest).map fun r => (c :: r.1, r.2) := by
  have hname {n : Nat} (h : c.toNat = n) : c = Char.ofNat n := by
    rw [← h, Char.ofNat_toNat]
  rw [escaped]
  split_ifs with hquote hslash h8 h9 h10 h12 h13 hcontrol
  · exact stringBody_simple (by rw [hquote]; decide) (by decide) rest
  · exact stringBody_simple (by rw [hslash]; decide) (by decide) rest
  · exact stringBody_simple (by rw [hname h8]; decide) (by decide) rest
  · exact stringBody_simple (by rw [hname h9]; decide) (by decide) rest
  · exact stringBody_simple (by rw [hname h10]; decide) (by decide) rest
  · exact stringBody_simple (by rw [hname h12]; decide) (by decide) rest
  · exact stringBody_simple (by rw [hname h13]; decide) (by decide) rest
  · exact stringBody_control hcontrol rest
  · exact stringBody_plain hquote hslash hcontrol rest

/-- Reading a written string after its opening quote gives its characters back. -/
theorem stringBody_quoted (cs rest : List Char) :
    stringBody (cs.flatMap escaped ++ '"' :: rest) = some (cs, rest) := by
  induction cs with
  | nil => rfl
  | cons c cs ih =>
    rw [List.flatMap_cons, List.append_assoc, stringBody_escaped, ih]
    rfl

/-! ### Arrays of strings -/

theorem chars_str (s : String) : chars (str s) = quoted s.toList := rfl

theorem skipSpace_of_not_isSpace {c : Char} (hc : isSpace c = false) (rest : List Char) :
    skipSpace (c :: rest) = c :: rest := by
  simp [skipSpace, hc]

theorem value_str (depth fuel : Nat) (s : String) (rest : List Char) :
    value depth (fuel + 1) (quoted s.toList ++ rest) = some (str s, rest) := by
  rw [quoted, List.cons_append, List.append_assoc, value,
    skipSpace_of_not_isSpace (by decide)]
  simp only [List.cons_append, List.nil_append]
  rw [stringBody_quoted]
  simp

theorem itemChars_cons (v w : Json) (rest : List Json) :
    itemChars (v :: w :: rest) = chars v ++ ',' :: itemChars (w :: rest) := rfl

/-- Reading the written items of an array of strings takes one step for each of them. -/
theorem items_strings (depth fuel : Nat) (name : String) (names : List String) (rest : List Char)
    (hfuel : names.length + 1 < fuel) :
    items depth fuel (itemChars ((name :: names).map str) ++ rest) =
      some ((name :: names).map str, rest) := by
  induction names generalizing name fuel with
  | nil =>
    obtain ⟨fuel, rfl⟩ : ∃ n, fuel = n + 2 := ⟨fuel - 2, by simp at hfuel; omega⟩
    rw [List.map_singleton, show itemChars [str name] = quoted name.toList ++ [']'] from rfl,
      List.append_assoc, items, value_str]
    simp [skipSpace, isSpace]
  | cons other names ih =>
    obtain ⟨fuel, rfl⟩ : ∃ n, fuel = n + 2 := ⟨fuel - 2, by simp at hfuel; omega⟩
    rw [List.map_cons, List.map_cons, itemChars_cons, chars_str, List.append_assoc,
      items, value_str]
    have hrest := ih (fuel + 1) other (by simp at hfuel ⊢; omega)
    rw [List.map_cons] at hrest
    simp [skipSpace, isSpace, hrest]

theorem length_quoted (cs : List Char) : 2 ≤ (quoted cs).length := by
  simp [quoted]

theorem length_itemChars_strings (names : List String) :
    names.length < (itemChars (names.map str)).length := by
  induction names with
  | nil => simp [itemChars]
  | cons name names ih =>
    have hname := length_quoted name.toList
    cases names with
    | nil =>
      rw [List.map_singleton, show itemChars [str name] = quoted name.toList ++ [']'] from rfl]
      simp only [List.length_cons, List.length_append, List.length_nil]
      omega
    | cons other names =>
      rw [List.map_cons] at ih
      rw [List.map_cons, List.map_cons, itemChars_cons, chars_str]
      simp at ih ⊢
      omega

theorem parse?_strings (names : List String) :
    parse? (list str names).render = some (list str names) := by
  have hlength := length_itemChars_strings names
  rw [parse?, render, list, show chars (arr (names.map str)) = '[' :: itemChars (names.map str)
    from rfl, String.toList_ofList]
  obtain ⟨fuel, hfuel⟩ : ∃ n, 2 * ('[' :: itemChars (names.map str)).length + 2 = n + 1 :=
    ⟨_, rfl⟩
  obtain ⟨depth, hdepth⟩ : ∃ n, nestingLimit = n + 2 := ⟨126, rfl⟩
  rw [hfuel, hdepth, value, skipSpace_of_not_isSpace (by decide)]
  cases names with
  | nil =>
    rw [List.map_nil, itemChars]
    simp only [skipSpace_of_not_isSpace (c := ']') (by decide)]
    rfl
  | cons name names =>
    have hitems := items_strings (depth + 1) fuel name names [] (by simp at hlength hfuel; omega)
    rw [List.append_nil] at hitems
    have hhead : ∃ cs, itemChars ((name :: names).map str) = '"' :: cs := by
      cases names with
      | nil => exact ⟨_, rfl⟩
      | cons other names => exact ⟨_, rfl⟩
    obtain ⟨cs, hcs⟩ := hhead
    rw [hcs] at hitems ⊢
    simp only [skipSpace_of_not_isSpace (c := '"') (by decide)]
    -- the first item starts with a quote, so the array is not empty
    split
    · rename_i heq
      exact absurd (List.cons.inj heq).1 (by decide)
    · rw [hitems]
      rfl

end Json

/-! ### Columns -/

/-- Reading a written list of names gives the list back. -/
@[simp] theorem Column.list_listText (names : List String) :
    Column.list (Column.listText names) = some names := by
  rw [Column.list, Column.listText, Json.parse?_strings]
  simp only [Json.list, Option.bind_eq_bind, Option.bind_some]
  induction names with
  | nil => rfl
  | cons name names ih =>
    rw [List.map_cons, List.mapM_cons, ih]
    rfl

example : Column.listText ["a\"b", "\n"] = "[\"a\\\"b\",\"\\n\"]" := by decide

end PullWatch
