import PullWatch.Json.Record
import PullWatch.Proofs.LocalTimes
import PullWatch.Proofs.Outcome

/-!
# Values that say more

Another program may write more into its objects than is read of them, and leave out what is null. A
value elaborates another one when it says the same up to that, at any depth. Decoders do not see the
difference: each reads all elaborations of a value alike, and a record's decoder does when the
decoders of its fields do.

## Main definitions

* `Json.valueAt`: the value under a name, where an absent member is like null.
* `Json.Elaborates`: a value says what another one says, and perhaps more.
* `Json.Reads`: a decoder reads every elaboration of a value alike.

## Main results

* `Json.reads_text`, `Json.reads_time`, `Json.reads_optional`, `Json.reads_list` and others: what
  the decoders read.
* `Json.members_obj`: an object has the shape of a record when its fields fit.
-/

namespace PullWatch.Json

/-- The value under a name; an absent member is like null. -/
def valueAt (ms : List (String × Json)) (name : String) : Json := (lookup ms name).getD .null

/-- The first value says what the second one says. Its objects may have further members, and members
that are null may be absent from them. -/
inductive Elaborates : Json → Json → Prop
  | null : Elaborates .null .null
  | bool (b : Bool) : Elaborates (.bool b) (.bool b)
  | int (n : Int) : Elaborates (.int n) (.int n)
  | float (x : Binary64) : Elaborates (.float x) (.float x)
  | str (s : String) : Elaborates (.str s) (.str s)
  | arr {ws vs : List Json} (items : List.Forall₂ Elaborates ws vs) :
      Elaborates (.arr ws) (.arr vs)
  | obj {ws vs : List (String × Json)} (distinct : (ws.map Prod.fst).Nodup)
      (members : ∀ m ∈ vs, Elaborates (valueAt ws m.1) m.2) : Elaborates (.obj ws) (.obj vs)

/-! ### Members -/

theorem lookup_of_mem {ms : List (String × Json)} (distinct : (ms.map Prod.fst).Nodup)
    {m : String × Json} (hm : m ∈ ms) : lookup ms m.1 = some m.2 := by
  induction ms with
  | nil => exact absurd hm List.not_mem_nil
  | cons first rest ih =>
    rw [List.map_cons, List.nodup_cons] at distinct
    obtain ⟨hfirst, hrest⟩ := distinct
    rcases List.mem_cons.1 hm with rfl | hm
    · simp [lookup]
    · have hne : first.1 ≠ m.1 := fun h => hfirst (h ▸ List.mem_map_of_mem hm)
      have hlater := ih hrest hm
      rw [lookup] at hlater ⊢
      rwa [List.find?_cons_of_neg (by simpa using hne)]

theorem valueAt_of_mem {ms : List (String × Json)} (distinct : (ms.map Prod.fst).Nodup)
    {m : String × Json} (hm : m ∈ ms) : valueAt ms m.1 = m.2 := by
  rw [valueAt, lookup_of_mem distinct hm]
  rfl

/-- An object says what it says itself. -/
theorem elaborates_obj_self {ms : List (String × Json)} (distinct : (ms.map Prod.fst).Nodup)
    (h : ∀ m ∈ ms, m.2.Elaborates m.2) : (Json.obj ms).Elaborates (.obj ms) :=
  .obj distinct fun m hm => by
    rw [valueAt_of_mem distinct hm]
    exact h m hm

theorem eq_null_of_elaborates {v : Json} (h : Elaborates .null v) : v = .null := by
  cases h
  rfl

theorem elaborates_optional_self {α : Type} {f : α → Json} (h : ∀ a, (f a).Elaborates (f a))
    (x : Option α) : (Json.optional f x).Elaborates (Json.optional f x) := by
  cases x with
  | none => exact .null
  | some a => exact h a

theorem elaborates_list_self {α : Type} {f : α → Json} (h : ∀ a, (f a).Elaborates (f a))
    (xs : List α) : (Json.list f xs).Elaborates (Json.list f xs) :=
  .arr (List.forall₂_same.2 fun v hv => by
    obtain ⟨a, -, rfl⟩ := List.mem_map.1 hv
    exact h a)

/-! ### What decoders read -/

/-- The decoder reads every elaboration of the value, and always the same. -/
def Reads {α : Type} (decode : Decoder α) (v : Json) (a : α) : Prop :=
  ∀ w, Elaborates w v → decode w = .ok a

theorem reads_text (s : String) : Reads text (.str s) s := by
  rintro _ ⟨⟩
  rfl

theorem reads_flag (b : Bool) : Reads flag (.bool b) b := by
  rintro _ ⟨⟩
  rfl

theorem reads_word (n : UInt64) : Reads word (.nat n.toNat) n := by
  intro w h
  rw [nat] at h
  cases h
  rw [word, if_pos (Int.natCast_nonneg _), Int.toNat_natCast, UInt64.ofNat_toNat]

theorem reads_time {t : Instant} (o : t.Offset) : Reads time (.str o.text) t := by
  rintro _ ⟨⟩
  rw [time, o.parseLoose_text]

section Nested

variable {α : Type} {decode : Decoder α} {f : α → Json}

theorem reads_optional (h : ∀ a, Reads decode (f a) a) (hnull : ∀ a, f a ≠ .null)
    (x : Option α) : Reads (nullable decode) (Json.optional f x) x := by
  intro w hw
  cases x with
  | none =>
    cases hw
    rfl
  | some a =>
    have hread := h a w hw
    cases w with
    | null => exact absurd (eq_null_of_elaborates hw) (hnull a)
    | _ => rw [nullable, hread] <;> simp [Except.map]

theorem reads_list (h : ∀ a, Reads decode (f a) a) (xs : List α) :
    Reads (sequence decode) (Json.list f xs) xs := by
  rintro _ (_ | _ | _ | _ | _ | hitems)
  rw [sequence, Outcome.mapM_eq_ok]
  rw [List.forall₂_map_right_iff] at hitems
  exact hitems.imp fun w a hw => h a w hw

end Nested

/-! ### Records -/

section Records

variable {α : Type} {shape : RecordShape} {ms : List (String × Json)} {name : String}
  {decode : Decoder α}

theorem forM_eq_ok {check : String × Json → Except Misfit Unit} (h : ∀ m ∈ ms, check m = .ok ()) :
    ms.forM check = .ok () := by
  induction ms with
  | nil => rfl
  | cons m ms ih =>
    have hrest : (m :: ms).forM check = check m >>= fun _ => ms.forM check := rfl
    rw [hrest, h m List.mem_cons_self]
    exact ih fun m hm => h m (List.mem_cons_of_mem _ hm)

/-- An object has the shape of a record when its fields fit, whatever else it has. -/
theorem members_obj (distinct : (ms.map Prod.fst).Nodup)
    (h : ∀ field ∈ shape.fields, field.2 (valueAt ms field.1) = .ok ()) :
    shape.members (.obj ms) = .ok ms := by
  have hcheck : ms.forM shape.checkMember = .ok () := forM_eq_ok fun m hm => by
    rw [RecordShape.checkMember]
    cases hfield : shape.fields.find? fun field => field.1 == m.1 with
    | none => rfl
    | some field =>
      have hname : field.1 = m.1 := by simpa using List.find?_some hfield
      have hfits := h field (List.mem_of_find?_eq_some hfield)
      rwa [hname, valueAt_of_mem distinct hm] at hfits
  rw [RecordShape.members, hcheck]
  rfl

theorem fits_of_eq_ok {v : Json} {a : α} (h : decode v = .ok a) : fits decode v = .ok () := by
  rw [fits, h]
  rfl

/-- A field that is not null is there. -/
theorem required_of_eq_ok {a : α} (h : decode (valueAt ms name) = .ok a)
    (hnull : decode .null ≠ .ok a) : required ms name decode = .ok a := by
  rw [valueAt] at h
  rw [required]
  cases hlookup : lookup ms name with
  | none =>
    rw [hlookup] at h
    exact absurd h hnull
  | some v => rwa [hlookup] at h

theorem optional?_of_eq_ok {x : Option α} (h : nullable decode (valueAt ms name) = .ok x) :
    optional? ms name decode = .ok x := by
  rw [valueAt] at h
  rw [optional?]
  cases hlookup : lookup ms name with
  | none => rwa [hlookup] at h
  | some v => rwa [hlookup] at h

end Records

end PullWatch.Json
