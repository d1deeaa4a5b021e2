import PullWatch.Proofs.Outcome
import PullWatch.Synchronization

/-!
# Computations in pairs

Two computations are made side by side, in circumstances that are alike in what matters. Rules for
one computation become rules for two: what holds of both before a step, and of both results after
it.

## Main definitions

* `Outcome.Both`: two computations fail with one error, or succeed with related results.
* `Transaction.Paired`: what two transactions make of two databases.

## Main results

* `Outcome.Both.bind`, `Outcome.Both.mapM`: steps one after the other, and work on lists.
* `Transaction.paired_write`: a fault strikes both of two writes, or neither.
* `Transaction.paired_applyPart`: parts of change sets.
-/

namespace PullWatch

/-! ### Two computations -/

namespace Outcome

variable {ε α β γ δ : Type}

/-- Two computations fail with one error, or succeed with related results. -/
inductive Both (R : α → β → Prop) : Except ε α → Except ε β → Prop
  | error (e : ε) : Both R (.error e) (.error e)
  | ok {a : α} {b : β} (h : R a b) : Both R (.ok a) (.ok b)

namespace Both

variable {R : α → β → Prop} {S : γ → δ → Prop} {x : Except ε α} {y : Except ε β}

theorem mono {R' : α → β → Prop} (h : Both R x y) (hR : ∀ a b, R a b → R' a b) : Both R' x y := by
  cases h with
  | error e => exact .error e
  | ok h => exact .ok (hR _ _ h)

theorem bind {f : α → Except ε γ} {g : β → Except ε δ} (h : Both R x y)
    (hnext : ∀ a b, R a b → Both S (f a) (g b)) : Both S (x >>= f) (y >>= g) := by
  cases h with
  | error e => exact .error e
  | ok h => exact hnext _ _ h

theorem bind_same (x : Except ε α) {f : α → Except ε γ} {g : α → Except ε δ}
    (h : ∀ a, Both S (f a) (g a)) : Both S (x >>= f) (x >>= g) := by
  cases x with
  | error e => exact .error e
  | ok a => exact h a

theorem map {f : α → γ} {g : β → δ} (h : Both R x y) (hR : ∀ a b, R a b → S (f a) (g b)) :
    Both S (x.map f) (y.map g) := by
  cases h with
  | error e => exact .error e
  | ok h => exact .ok (hR _ _ h)

theorem mapM {f : α → Except ε γ} {g : β → Except ε δ} {xs : List α} {ys : List β}
    (h : List.Forall₂ R xs ys) (hstep : ∀ a b, R a b → Both S (f a) (g b)) :
    Both (List.Forall₂ S) (xs.mapM f) (ys.mapM g) := by
  induction h with
  | nil => exact .ok .nil
  | cons hab _ ih =>
    rw [List.mapM_cons, List.mapM_cons]
    exact (hstep _ _ hab).bind fun _ _ hcd => ih.bind fun _ _ hrest => .ok (.cons hcd hrest)

end Both

/-- A fault strikes both computations, or neither. -/
theorem both_strike {R : α → β → Prop} {x : Except StoreError α} {y : Except StoreError β}
    (fault : Option StoreError) (h : Both R x y) :
    Both R (Faults.strike fault x) (Faults.strike fault y) := by
  cases fault with
  | none => exact h
  | some e => exact .error e

end Outcome

open Outcome (Both)

/-! ### Two options and two lists -/

section Values

variable {α β γ δ : Type} {R : α → β → Prop} {S : γ → δ → Prop} {x : Option α} {y : Option β}

theorem isSome_eq_of_rel (h : Option.Rel R x y) : x.isSome = y.isSome := by
  cases h <;> rfl

theorem isNone_eq_of_rel (h : Option.Rel R x y) : x.isNone = y.isNone := by
  cases h <;> rfl

theorem map_rel {f : α → γ} {g : β → δ} (h : Option.Rel R x y)
    (hR : ∀ a b, R a b → S (f a) (g b)) : Option.Rel S (x.map f) (y.map g) := by
  cases h with
  | none => exact .none
  | some hab => exact .some (hR _ _ hab)

theorem rel_mono {R' : α → β → Prop} (h : Option.Rel R x y) (hR : ∀ a b, R a b → R' a b) :
    Option.Rel R' x y := by
  cases h with
  | none => exact .none
  | some hab => exact .some (hR _ _ hab)

theorem map_eq_map_of_forall₂ {f : α → γ} {g : β → γ} {xs : List α} {ys : List β}
    (h : List.Forall₂ (fun x y => f x = g y) xs ys) : xs.map f = ys.map g := by
  induction h with
  | nil => rfl
  | cons hxy _ ih => rw [List.map_cons, List.map_cons, hxy, ih]

/-- Two lists under two views that show the same, item by item. -/
theorem forall₂_of_map_eq_map {f : α → γ} {g : β → γ} {xs : List α} {ys : List β}
    (h : xs.map f = ys.map g) :
    List.Forall₂ (fun x y => x ∈ xs ∧ y ∈ ys ∧ f x = g y) xs ys := by
  induction xs generalizing ys with
  | nil =>
    obtain rfl : ys = [] := by simpa using h.symm
    exact .nil
  | cons x xs ih =>
    cases ys with
    | nil => cases h
    | cons y ys =>
      obtain ⟨hxy, hrest⟩ := List.cons.inj h
      refine .cons ⟨List.mem_cons_self, List.mem_cons_self, hxy⟩ ((ih hrest).imp ?_)
      rintro x' y' ⟨hx', hy', heq⟩
      exact ⟨List.mem_cons_of_mem _ hx', List.mem_cons_of_mem _ hy', heq⟩

theorem find?_rel {p : α → Bool} {q : β → Bool} {xs : List α}
    {ys : List β} (h : List.Forall₂ R xs ys) (hpq : ∀ x y, R x y → p x = q y) :
    Option.Rel R (xs.find? p) (ys.find? q) := by
  induction h with
  | nil => exact .none
  | cons hxy _ ih =>
    rw [List.find?_cons, List.find?_cons, hpq _ _ hxy]
    split
    · exact .some hxy
    · exact ih

end Values

/-! ### Two transactions -/

namespace Transaction

variable {α β γ δ : Type} {P : Database → Database → Prop} {faults : Faults}

/-- Two transactions that have begun the same number of writes, in databases that `P` relates, fail
with one error, or succeed with as many writes and with results and databases that `Q` relates. -/
def Paired (P : Database → Database → Prop) (work : Transaction α) (work' : Transaction β)
    (Q : α → β → Database → Database → Prop) : Prop :=
  ∀ copy copy', copy.writes = copy'.writes → P copy.db copy'.db →
    Both (fun r r' => r.2.writes = r'.2.writes ∧ Q r.1 r'.1 r.2.db r'.2.db)
      (work copy) (work' copy')

variable {work : Transaction α} {work' : Transaction β} {Q : α → β → Database → Database → Prop}

theorem paired_pure {a : α} {b : β} (h : ∀ db db', P db db' → Q a b db db') :
    Paired P (pure a) (pure b) Q :=
  fun _ _ hwrites hP => .ok ⟨hwrites, h _ _ hP⟩

theorem paired_look {read : Database → Except StoreError α} {read' : Database → Except StoreError β}
    (h : ∀ db db', P db db' → Both (fun a b => Q a b db db') (read db) (read' db')) :
    Paired P (look read) (look read') Q :=
  fun _ _ hwrites hP => (h _ _ hP).bind fun _ _ hQ => .ok ⟨hwrites, hQ⟩

theorem paired_write {change : Database → Except StoreError (α × Database)}
    {change' : Database → Except StoreError (β × Database)}
    (h : ∀ db db', P db db' → Both (fun r r' => Q r.1 r'.1 r.2 r'.2) (change db) (change' db')) :
    Paired P (write faults change) (write faults change') Q := by
  intro copy copy' hwrites hP
  rw [write, write, hwrites]
  exact (Outcome.both_strike _ (h _ _ hP)).bind fun _ _ hQ => .ok ⟨rfl, hQ⟩

theorem paired_write_ {change change' : Database → Except StoreError Database}
    {R : Database → Database → Prop}
    (h : ∀ db db', P db db' → Both R (change db) (change' db')) :
    Paired P (write_ faults change) (write_ faults change') fun _ _ => R :=
  paired_write fun db db' hP => (h db db' hP).map fun _ _ hR => hR

theorem Paired.bind {next : α → Transaction γ} {next' : β → Transaction δ}
    {R : γ → δ → Database → Database → Prop} (h : Paired P work work' Q)
    (hnext : ∀ a b, Paired (Q a b) (next a) (next' b) R) :
    Paired P (work >>= next) (work' >>= next') R :=
  fun copy copy' hwrites hP => (h copy copy' hwrites hP).bind fun r r' hQ =>
    hnext r.1 r'.1 r.2 r'.2 hQ.1 hQ.2

/-- The same when the results are equal. -/
theorem Paired.bind_same {work' : Transaction α} {R : Database → Database → Prop}
    {next : α → Transaction γ} {next' : α → Transaction δ}
    {S : γ → δ → Database → Database → Prop}
    (h : Paired P work work' fun a a' db db' => a = a' ∧ R db db')
    (hnext : ∀ a, Paired R (next a) (next' a) S) :
    Paired P (work >>= next) (work' >>= next') S := by
  refine h.bind fun a a' copy copy' hwrites hR => ?_
  obtain ⟨rfl, hR⟩ := hR
  exact hnext a copy copy' hwrites hR

/-- Two parts of change sets, change by change, whatever the chunks. -/
theorem paired_applyPart {R : α → β → Prop} {step : α → Transaction Nat}
    {step' : β → Transaction Nat} {changes : List α} {changes' : List β}
    (h : List.Forall₂ R changes changes')
    (hstep : ∀ c c', R c c' → Paired P (step c) (step' c') fun n n' db db' => n = n' ∧ P db db')
    (chunkSize count : Nat) :
    Paired P (applyPart chunkSize step changes count) (applyPart chunkSize step' changes' count)
      fun n n' db db' => n = n' ∧ P db db' := by
  rw [applyPart, applyPart, foldlM_chunks, foldlM_chunks]
  induction h generalizing count with
  | nil => exact paired_pure fun _ _ hP => ⟨rfl, hP⟩
  | cons hcc _ ih =>
    rw [List.foldlM_cons, List.foldlM_cons]
    refine Paired.bind_same (R := P) ?_ ih
    exact (hstep _ _ hcc).bind_same fun n => paired_pure fun _ _ hP => ⟨rfl, hP⟩

end Transaction

end PullWatch
