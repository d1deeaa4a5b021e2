import PullWatch.Database.Table
import Mathlib.Data.List.Nodup

/-!
# Keyed tables

In a table that the database keeps in order, ids ascend with insertion, none exceeds the counter
that hands them out, and a key determines its row. Looking up a key in such a table finds the one
row that has it, and insertions and changes act on look-ups key by key.

## Main definitions

* `Table.Ordered`: ids ascend.
* `Table.Keyed`: ids ascend and keys are distinct.
* `Table.change`: a row replaced by a changed one.
* `Table.Extends`: later rows come after the ones that were there.

## Main results

* `Table.Keyed.insert`, `Table.Keyed.change`: the writes keep a table keyed.
* `Table.Keyed.find?_eq_some_iff`, `Table.Keyed.select_eq`: what look-ups find.
* `Table.find?_insert`, `Table.find?_change`: look-ups after writes.
* `Table.extends_insert`, `Table.extends_change`: what writes leave of the rows that were there.
-/

namespace PullWatch.Table

variable {ρ κ : Type} {t : Table ρ} {id : Int} {row : ρ}

/-! ### Rows after writes -/

/-- The table with the row of an id changed. -/
def change (t : Table ρ) (id : Int) (f : ρ → ρ) : Table ρ :=
  { t with rows := t.rows.map fun r => if r.1 = id then (r.1, f r.2) else r }

theorem modify?_eq (t : Table ρ) (id : Int) (f : ρ → ρ) :
    t.modify? id f = if t.hasId id then some (t.change id f) else none := rfl

@[simp] theorem lastId_change (t : Table ρ) (id : Int) (f : ρ → ρ) :
    (t.change id f).lastId = t.lastId := rfl

@[simp] theorem insert_fst (t : Table ρ) (row : ρ) : (t.insert row).1 = t.lastId + 1 := rfl

@[simp] theorem rows_insert (t : Table ρ) (row : ρ) :
    (t.insert row).2.rows = t.rows ++ [((t.lastId : Int) + 1, row)] := rfl

@[simp] theorem lastId_insert (t : Table ρ) (row : ρ) :
    (t.insert row).2.lastId = t.lastId + 1 := rfl

theorem hasId_iff : t.hasId id = true ↔ ∃ row, (id, row) ∈ t.rows := by
  simp only [hasId, List.any_eq_true, decide_eq_true_eq]
  constructor
  · rintro ⟨⟨i, row⟩, hr, rfl⟩
    exact ⟨row, hr⟩
  · rintro ⟨row, hr⟩
    exact ⟨_, hr, rfl⟩

/-- An id that no row has leaves all rows as they are. -/
theorem change_of_hasId_eq_false {f : ρ → ρ} (h : t.hasId id = false) : t.change id f = t := by
  have hne : ∀ r ∈ t.rows, r.1 ≠ id := by simpa [hasId] using h
  have hrows : t.rows.map (fun r => if r.1 = id then (r.1, f r.2) else r) = t.rows.map fun r => r :=
    List.map_congr_left fun r hr => if_neg (hne r hr)
  rw [change, hrows, List.map_id']

theorem mem_change {f : ρ → ρ} {r : Int × ρ} :
    r ∈ (t.change id f).rows ↔ ∃ s ∈ t.rows, r = if s.1 = id then (s.1, f s.2) else s := by
  simp only [change, List.mem_map, eq_comm]

theorem forall_insert {P : ρ → Prop} {row : ρ} (h : ∀ r ∈ t.rows, P r.2) (hrow : P row) :
    ∀ r ∈ (t.insert row).2.rows, P r.2 := by
  intro r hr
  rw [rows_insert, List.mem_append, List.mem_singleton] at hr
  rcases hr with hr | rfl
  · exact h r hr
  · exact hrow

theorem forall_change {P : ρ → Prop} {f : ρ → ρ} (h : ∀ r ∈ t.rows, P r.2)
    (hf : ∀ row, P (f row)) : ∀ r ∈ (t.change id f).rows, P r.2 := by
  intro r hr
  obtain ⟨s, hs, rfl⟩ := mem_change.1 hr
  split_ifs
  · exact hf s.2
  · exact h s hs

theorem hasId_insert (t : Table ρ) (row : ρ) (id : Int) :
    (t.insert row).2.hasId id = (t.hasId id || decide ((t.lastId : Int) + 1 = id)) := by
  simp [hasId]

theorem hasId_change (t : Table ρ) (f : ρ → ρ) (id other : Int) :
    (t.change id f).hasId other = t.hasId other := by
  simp only [hasId, change, List.any_map]
  congr 1
  funext r
  by_cases h : r.1 = id <;> simp [h]

theorem find?_insert (t : Table ρ) (row : ρ) (condition : ρ → Bool) :
    (t.insert row).2.find? condition =
      (t.find? condition).or
        (if condition row then some ((t.lastId : Int) + 1, row) else none) := by
  rw [find?, rows_insert, List.find?_append]
  cases h : condition row <;> simp [find?, h]

theorem select_insert (t : Table ρ) (row : ρ) (condition : ρ → Bool) :
    (t.insert row).2.select condition =
      t.select condition ++ (if condition row then [((t.lastId : Int) + 1, row)] else []) := by
  rw [select, rows_insert, List.filter_append]
  cases h : condition row <;> simp [select, h]

theorem get?_insert (t : Table ρ) (row : ρ) (id : Int) :
    (t.insert row).2.get? id =
      (t.get? id).or (if id = (t.lastId : Int) + 1 then some row else none) := by
  rw [get?, rows_insert, List.find?_append, get?]
  cases t.rows.find? fun r => r.1 = id with
  | some r => rfl
  | none => by_cases h : id = (t.lastId : Int) + 1 <;> simp [h, eq_comm]

theorem mem_of_get? {row : ρ} (h : t.get? id = some row) : (id, row) ∈ t.rows := by
  obtain ⟨r, hr, rfl⟩ := Option.map_eq_some_iff.1 h
  obtain rfl : r.1 = id := by simpa using List.find?_some hr
  exact List.mem_of_find?_eq_some hr

/-- A change of a row that is not chosen, before or after it, leaves the chosen rows as they are. -/
theorem select_change_of_not {f : ρ → ρ} {condition : ρ → Bool}
    (h : ∀ r ∈ t.rows, r.1 = id → condition r.2 = false ∧ condition (f r.2) = false) :
    (t.change id f).select condition = t.select condition := by
  rw [select, select, change, List.filter_map]
  have hfilter : t.rows.filter ((fun r => condition r.2) ∘
      fun r => if r.1 = id then (r.1, f r.2) else r) = t.rows.filter fun r => condition r.2 := by
    refine List.filter_congr fun r hr => ?_
    rw [Function.comp_apply]
    split_ifs with hid
    · rw [(h r hr hid).1, (h r hr hid).2]
    · rfl
  rw [hfilter]
  refine (List.map_congr_left fun r hr => ?_).trans (List.map_id _)
  obtain ⟨hr, hcondition⟩ := List.mem_filter.1 hr
  rw [if_neg fun hid => ?_]
  · rfl
  · rw [(h r hr hid).1] at hcondition
    exact Bool.false_ne_true hcondition

/-- A change that does not touch what the condition reads leaves the choice of rows as it is. -/
theorem find?_change (t : Table ρ) (id : Int) (f : ρ → ρ) (condition : ρ → Bool)
    (hf : ∀ row, condition (f row) = condition row) :
    (t.change id f).find? condition =
      (t.find? condition).map fun r => if r.1 = id then (r.1, f r.2) else r := by
  rw [find?, change, List.find?_map, find?]
  congr 2
  funext r
  by_cases h : r.1 = id <;> simp [h, hf]

theorem get?_change (t : Table ρ) (id other : Int) (f : ρ → ρ) :
    (t.change id f).get? other = if other = id then (t.get? other).map f else t.get? other := by
  have hsame : ((fun r : Int × ρ => decide (r.1 = other)) ∘
      fun r => if r.1 = id then (r.1, f r.2) else r) = fun r => decide (r.1 = other) := by
    funext r
    by_cases h : r.1 = id <;> simp [h]
  rw [get?, change, List.find?_map, hsame, get?]
  cases hfind : t.rows.find? fun r => r.1 = other with
  | none => simp
  | some r =>
    obtain rfl : r.1 = other := by simpa using List.find?_some hfind
    by_cases h : r.1 = id <;> simp [h]

/-! ### Ordered tables -/

/-- Ids ascend in the order of insertion up to the counter. -/
structure Ordered (t : Table ρ) : Prop where
  ascending : t.rows.Pairwise fun r s => r.1 < s.1
  bounded : ∀ r ∈ t.rows, r.1 ≤ t.lastId

namespace Ordered

/-- The counter's next id belongs to no row. -/
theorem fresh (h : t.Ordered) : t.hasId ((t.lastId : Int) + 1) = false := by
  rw [Bool.eq_false_iff, ne_eq, hasId_iff]
  rintro ⟨row, hr⟩
  have := h.bounded _ hr
  simp only at this
  omega

theorem insert (h : t.Ordered) (row : ρ) : (t.insert row).2.Ordered where
  ascending := by
    rw [rows_insert, List.pairwise_append]
    refine ⟨h.ascending, List.pairwise_singleton _ _, ?_⟩
    intro r hr s hs
    have := h.bounded r hr
    rw [List.mem_singleton.1 hs]
    simp only
    omega
  bounded := by
    intro r hr
    rw [rows_insert, List.mem_append, List.mem_singleton] at hr
    rw [lastId_insert]
    rcases hr with hr | rfl
    · have := h.bounded r hr
      omega
    · simp

theorem change (h : t.Ordered) (id : Int) (f : ρ → ρ) : (t.change id f).Ordered where
  ascending := by
    rw [Table.change, List.pairwise_map]
    refine h.ascending.imp fun {r s} hlt => ?_
    split_ifs <;> exact hlt
  bounded := by
    intro r hr
    obtain ⟨s, hs, rfl⟩ := mem_change.1 hr
    have := h.bounded s hs
    split_ifs <;> exact this

end Ordered

/-! ### Keyed tables -/

/-- Ids ascend in the order of insertion up to the counter, and a key determines its row. -/
structure Keyed (t : Table ρ) (key : ρ → κ) : Prop where
  ascending : t.rows.Pairwise fun r s => r.1 < s.1
  bounded : ∀ r ∈ t.rows, r.1 ≤ t.lastId
  distinct : ∀ r ∈ t.rows, ∀ s ∈ t.rows, key r.2 = key s.2 → r = s

namespace Keyed

variable {key : ρ → κ}

theorem empty (n : Nat) : Keyed { rows := [], lastId := n } key where
  ascending := List.Pairwise.nil
  bounded := by simp
  distinct := by simp

theorem ordered (h : t.Keyed key) : t.Ordered := ⟨h.ascending, h.bounded⟩

theorem nodup (h : t.Keyed key) : t.rows.Nodup :=
  h.ascending.imp fun {r s} hlt heq => by
    rw [heq] at hlt
    exact Int.lt_irrefl _ hlt

theorem nodup_ids (h : t.Keyed key) : (t.rows.map (·.1)).Nodup := by
  rw [List.Nodup, List.pairwise_map]
  exact h.ascending.imp fun hlt heq => by omega

theorem eq_of_id (h : t.Keyed key) {r s : Int × ρ} (hr : r ∈ t.rows) (hs : s ∈ t.rows)
    (hid : r.1 = s.1) : r = s :=
  List.inj_on_of_nodup_map h.nodup_ids hr hs hid

theorem get?_eq_some_iff (h : t.Keyed key) : t.get? id = some row ↔ (id, row) ∈ t.rows := by
  refine ⟨mem_of_get?, fun hrow => ?_⟩
  cases hget : t.get? id with
  | none =>
    rw [get?, Option.map_eq_none_iff, List.find?_eq_none] at hget
    exact absurd (decide_eq_true rfl) (hget _ hrow)
  | some other => exact congrArg (fun r => some r.2) (h.eq_of_id (mem_of_get? hget) hrow rfl)

/-- The counter's next id belongs to no row. -/
theorem fresh (h : t.Keyed key) : t.hasId ((t.lastId : Int) + 1) = false := h.ordered.fresh

theorem insert (h : t.Keyed key) (hnew : ∀ r ∈ t.rows, key r.2 ≠ key row) :
    (t.insert row).2.Keyed key where
  ascending := (h.ordered.insert row).ascending
  bounded := (h.ordered.insert row).bounded
  distinct := by
    intro r hr s hs hkey
    rw [rows_insert, List.mem_append, List.mem_singleton] at hr hs
    rcases hr with hr | rfl <;> rcases hs with hs | rfl
    · exact h.distinct r hr s hs hkey
    · exact absurd hkey (hnew r hr)
    · exact absurd hkey.symm (hnew s hs)
    · rfl

theorem change (h : t.Keyed key) (id : Int) {f : ρ → ρ} (hf : ∀ row, key (f row) = key row) :
    (t.change id f).Keyed key where
  ascending := (h.ordered.change id f).ascending
  bounded := (h.ordered.change id f).bounded
  distinct := by
    intro r hr s hs hkey
    obtain ⟨r', hr', rfl⟩ := mem_change.1 hr
    obtain ⟨s', hs', rfl⟩ := mem_change.1 hs
    have hrs : key r'.2 = key s'.2 := by
      by_cases h₁ : r'.1 = id <;> by_cases h₂ : s'.1 = id <;> simpa [h₁, h₂, hf] using hkey
    rw [h.distinct r' hr' s' hs' hrs]

variable {k : κ} {condition : ρ → Bool}

/-- Looking up a key finds the one row that has it. -/
theorem find?_eq_some_iff (h : t.Keyed key) (hk : ∀ row, condition row = true ↔ key row = k)
    {r : Int × ρ} : t.find? condition = some r ↔ r ∈ t.rows ∧ key r.2 = k := by
  constructor
  · intro hr
    exact ⟨List.mem_of_find?_eq_some hr, (hk _).1 (by simpa using List.find?_some hr)⟩
  · rintro ⟨hr, hkey⟩
    cases hfind : t.find? condition with
    | none => exact absurd ((hk _).2 hkey) (List.find?_eq_none.1 hfind r hr)
    | some s =>
      have hs := List.mem_of_find?_eq_some hfind
      have hskey : key s.2 = k := (hk _).1 (by simpa using List.find?_some hfind)
      rw [h.distinct s hs r hr (hskey.trans hkey.symm)]

/-- The rows that have a key are the one that looking it up finds. -/
theorem select_eq (h : t.Keyed key) (hk : ∀ row, condition row = true ↔ key row = k) :
    t.select condition = (t.find? condition).toList := by
  cases hfind : t.find? condition with
  | none =>
    rw [Option.toList_none, select, List.filter_eq_nil_iff]
    exact List.find?_eq_none.1 hfind
  | some r =>
    obtain ⟨hr, hkey⟩ := (h.find?_eq_some_iff hk).1 hfind
    have hmem : ∀ s, s ∈ t.select condition ↔ s = r := by
      intro s
      rw [select, List.mem_filter, hk]
      constructor
      · rintro ⟨hs, hskey⟩
        exact h.distinct s hs r hr (hskey.trans hkey.symm)
      · rintro rfl
        exact ⟨hr, hkey⟩
    rw [Option.toList_some]
    exact (List.perm_singleton.1 ((List.perm_ext_iff_of_nodup (h.nodup.filter _)
      (List.nodup_singleton r)).2 fun s => by rw [List.mem_singleton]; exact hmem s))

end Keyed

/-! ### Rows that stay -/

/-- The rows of a table with a part of what they hold. -/
def project (t : Table ρ) (part : ρ → κ) : List (Int × κ) := t.rows.map fun r => (r.1, part r.2)

/-- The rows of the first table are the first ones of the second, under their ids, and a part of
what they hold is as it was. -/
def Extends (part : ρ → κ) (t t' : Table ρ) : Prop := t.project part <+: t'.project part

section Extends

variable {t' t'' : Table ρ} {part : ρ → κ}

theorem Extends.refl (t : Table ρ) : Extends part t t := List.prefix_refl _

theorem Extends.trans (h : Extends part t t') (h' : Extends part t' t'') : Extends part t t'' :=
  List.IsPrefix.trans h h'

theorem extends_insert (t : Table ρ) (row : ρ) : Extends part t (t.insert row).2 := by
  rw [Extends, project, project, rows_insert, List.map_append]
  exact List.prefix_append _ _

theorem extends_change (t : Table ρ) (id : Int) {f : ρ → ρ} (hf : ∀ row, part (f row) = part row) :
    Extends part t (t.change id f) := by
  have hproject : (t.change id f).project part = t.project part := by
    rw [project, project, change, List.map_map]
    refine List.map_congr_left fun r _ => ?_
    rw [Function.comp_apply]
    split_ifs
    · rw [hf]
    · rfl
  exact (congrArg (t.project part <+: ·) hproject).mpr (List.prefix_refl _)

/-- A row that is there stays there, with the part as it is. -/
theorem Extends.exists_row (h : Extends part t t') (hrow : (id, row) ∈ t.rows) :
    ∃ row', (id, row') ∈ t'.rows ∧ part row' = part row := by
  have hmem : (id, part row) ∈ t'.project part :=
    List.IsPrefix.subset h (List.mem_map.2 ⟨_, hrow, rfl⟩)
  obtain ⟨⟨id', row'⟩, hrow', heq⟩ := List.mem_map.1 hmem
  obtain ⟨rfl, hpart⟩ := Prod.mk.inj heq
  exact ⟨row', hrow', hpart⟩

theorem Extends.hasId (h : Extends part t t') (hid : t.hasId id = true) : t'.hasId id = true := by
  obtain ⟨row, hrow⟩ := hasId_iff.1 hid
  obtain ⟨row', hrow', -⟩ := h.exists_row hrow
  exact hasId_iff.2 ⟨row', hrow'⟩

end Extends

end PullWatch.Table
