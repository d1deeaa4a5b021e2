import Mathlib.Data.List.Forall2

/-!
# Computations that may fail

Work that succeeds is taken apart into the successes of its steps, and work on a list is followed
from one item to the next.

## Main results

* `Outcome.bind_eq_ok`, `Outcome.map_eq_ok`, `Outcome.mapM_eq_ok`: a success comes from successes.
* `Outcome.exists_of_mem_mapM`, `Outcome.mapM_mem`: the results of work on a list, item by item.
* `Outcome.mapM_succeeds`: work on a list succeeds when it does on every item.
* `Outcome.mapM_eq_error_iff`: work on a list fails as it does on the first item on which it fails.
* `Outcome.foldlM_keeps`: what every step keeps holds after the last one.
* `Outcome.foldlM_eq_error`: where a series of steps fails.
* `Outcome.foldlM_view`: a view that no step changes is the same after the last one.
* `Outcome.foldlM_map_congr`: series whose steps agree up to a view of the state agree up to it.
* `Outcome.foldlM_succeeds`: a series of steps succeeds when each can be made.
-/

namespace PullWatch.Outcome

variable {ε α β σ : Type}

theorem bind_eq_ok {x : Except ε α} {f : α → Except ε β} {b : β} :
    x >>= f = .ok b ↔ ∃ a, x = .ok a ∧ f a = .ok b := by
  cases x with
  | error e => simp [bind, Except.bind]
  | ok a => simp [bind, Except.bind]

theorem bind_eq_error {x : Except ε α} {f : α → Except ε β} {e : ε} :
    x >>= f = .error e ↔ x = .error e ∨ ∃ a, x = .ok a ∧ f a = .error e := by
  cases x with
  | error e => simp [bind, Except.bind]
  | ok a => simp [bind, Except.bind]

theorem map_eq_ok {f : α → β} {x : Except ε α} {b : β} :
    x.map f = .ok b ↔ ∃ a, x = .ok a ∧ f a = b := by
  cases x with
  | error e => simp [Except.map]
  | ok a => simp [Except.map]

theorem map_eq_error {f : α → β} {x : Except ε α} {e : ε} : x.map f = .error e ↔ x = .error e := by
  cases x with
  | error e => simp [Except.map]
  | ok a => simp [Except.map]

theorem mapError_eq_ok {f : ε → σ} {x : Except ε α} {a : α} :
    x.mapError f = .ok a ↔ x = .ok a := by
  cases x with
  | error e => simp [Except.mapError]
  | ok a => simp [Except.mapError]

theorem mapError_eq_error {f : ε → σ} {x : Except ε α} {e : σ} :
    x.mapError f = .error e ↔ ∃ cause, x = .error cause ∧ f cause = e := by
  cases x with
  | error cause => simp [Except.mapError]
  | ok a => simp [Except.mapError]

theorem toOption_eq_some {x : Except ε α} {a : α} : x.toOption = some a ↔ x = .ok a := by
  cases x with
  | error e => simp [Except.toOption]
  | ok a => simp [Except.toOption]

theorem mapM_eq_ok {f : α → Except ε β} {xs : List α} {ys : List β} :
    xs.mapM f = .ok ys ↔ List.Forall₂ (fun x y => f x = .ok y) xs ys := by
  induction xs generalizing ys with
  | nil =>
    rw [List.mapM_nil, List.forall₂_nil_left_iff]
    exact ⟨fun h => (Except.ok.inj h).symm, fun h => h ▸ rfl⟩
  | cons x xs ih =>
    simp only [List.mapM_cons, bind_eq_ok, ih]
    constructor
    · rintro ⟨y, hy, rest, hrest, h⟩
      rw [← Except.ok.inj h]
      exact .cons hy hrest
    · rintro (_ | ⟨hy, hrest⟩)
      exact ⟨_, hy, _, hrest, rfl⟩

theorem exists_of_mem_mapM {f : α → Except ε β} {xs : List α} {ys : List β}
    (h : xs.mapM f = .ok ys) {y : β} (hy : y ∈ ys) : ∃ x ∈ xs, f x = .ok y := by
  induction mapM_eq_ok.1 h with
  | nil => simp at hy
  | cons hx hrest ih =>
    rcases List.mem_cons.1 hy with rfl | hy
    · exact ⟨_, List.mem_cons_self, hx⟩
    · obtain ⟨x, hmem, hx⟩ := ih (mapM_eq_ok.2 hrest) hy
      exact ⟨x, List.mem_cons_of_mem _ hmem, hx⟩

theorem mapM_mem {f : α → Except ε β} {xs : List α} {ys : List β} (h : xs.mapM f = .ok ys) {x : α}
    (hx : x ∈ xs) : ∃ y ∈ ys, f x = .ok y := by
  induction mapM_eq_ok.1 h with
  | nil => simp at hx
  | cons hy hrest ih =>
    rcases List.mem_cons.1 hx with rfl | hx
    · exact ⟨_, List.mem_cons_self, hy⟩
    · obtain ⟨y, hmem, hy⟩ := ih (mapM_eq_ok.2 hrest) hx
      exact ⟨y, List.mem_cons_of_mem _ hmem, hy⟩

theorem mapM_succeeds {f : α → Except ε β} {xs : List α} (h : ∀ x ∈ xs, ∃ y, f x = .ok y) :
    ∃ ys, xs.mapM f = .ok ys := by
  induction xs with
  | nil => exact ⟨[], rfl⟩
  | cons x xs ih =>
    obtain ⟨y, hy⟩ := h x List.mem_cons_self
    obtain ⟨ys, hys⟩ := ih fun x' hx' => h x' (List.mem_cons_of_mem _ hx')
    exact ⟨y :: ys, mapM_eq_ok.2 (.cons hy (mapM_eq_ok.1 hys))⟩

/-- Where the single results are given by a function, if they are accepted, so are the lists. -/
theorem mapM_eq_ok_of_iff {f : α → Except ε β} {g : α → β} {accepted : β → Prop}
    (h : ∀ x y, f x = .ok y ↔ accepted (g x) ∧ y = g x) {xs : List α} {ys : List β} :
    xs.mapM f = .ok ys ↔ (∀ y ∈ xs.map g, accepted y) ∧ ys = xs.map g := by
  induction xs generalizing ys with
  | nil =>
    rw [mapM_eq_ok, List.forall₂_nil_left_iff]
    exact ⟨fun hys => ⟨List.forall_mem_nil _, hys⟩, fun hys => hys.2⟩
  | cons x xs ih =>
    simp only [List.mapM_cons, bind_eq_ok, ih, h, List.map_cons, List.forall_mem_cons]
    constructor
    · rintro ⟨_, ⟨hx, rfl⟩, _, ⟨hxs, rfl⟩, hys⟩
      exact ⟨⟨hx, hxs⟩, (Except.ok.inj hys).symm⟩
    · rintro ⟨⟨hx, hxs⟩, rfl⟩
      exact ⟨_, ⟨hx, rfl⟩, _, ⟨hxs, rfl⟩, rfl⟩

/-- Work on a list fails as it does on the first item on which it fails. -/
theorem mapM_eq_error_iff {f : α → Except ε β} {xs : List α} {e : ε} :
    xs.mapM f = .error e ↔ ∃ before x after, xs = before ++ x :: after ∧
      (∀ y ∈ before, ∃ b, f y = .ok b) ∧ f x = .error e := by
  constructor
  · intro h
    induction xs with
    | nil => cases h
    | cons x xs ih =>
      rw [List.mapM_cons, bind_eq_error] at h
      rcases h with hx | ⟨b, hb, hrest⟩
      · exact ⟨[], x, xs, rfl, List.forall_mem_nil _, hx⟩
      · obtain hxs | ⟨bs, -, hpure⟩ := bind_eq_error.1 hrest
        · obtain ⟨before, y, after, rfl, hbefore, hy⟩ := ih hxs
          exact ⟨x :: before, y, after, rfl, List.forall_mem_cons.2 ⟨⟨b, hb⟩, hbefore⟩, hy⟩
        · cases hpure
  · rintro ⟨before, x, after, rfl, hbefore, hx⟩
    obtain ⟨bs, hbs⟩ := mapM_succeeds hbefore
    rw [List.mapM_append, hbs, List.mapM_cons, hx]
    rfl

theorem exists_of_mapM_eq_error {f : α → Except ε β} {xs : List α} {e : ε}
    (h : xs.mapM f = .error e) : ∃ x ∈ xs, f x = .error e := by
  obtain ⟨before, x, after, rfl, -, hx⟩ := mapM_eq_error_iff.1 h
  exact ⟨x, List.mem_append_right before List.mem_cons_self, hx⟩

/-- What every step keeps, as a statement about the state and the steps still to be made, holds of
the last state when no step is left. -/
theorem foldlM_keeps {step : σ → α → Except ε σ} {P : List α → σ → Prop}
    (hstep : ∀ x rest s s', P (x :: rest) s → step s x = .ok s' → P rest s') {xs : List α}
    {s s' : σ} (hs : P xs s) (h : xs.foldlM step s = .ok s') : P [] s' := by
  induction xs generalizing s with
  | nil =>
    rw [List.foldlM_nil] at h
    rwa [← Except.ok.inj h]
  | cons x xs ih =>
    rw [List.foldlM_cons, bind_eq_ok] at h
    obtain ⟨t, ht, h⟩ := h
    exact ih (hstep x xs s t hs ht) h

/-- A series of steps that fails does so at one of them, in a state that the ones before kept. -/
theorem foldlM_eq_error {step : σ → α → Except ε σ} {P : List α → σ → Prop}
    (hstep : ∀ x rest s s', P (x :: rest) s → step s x = .ok s' → P rest s') {xs : List α} {s : σ}
    {e : ε} (hs : P xs s) (h : xs.foldlM step s = .error e) :
    ∃ x rest s', P (x :: rest) s' ∧ step s' x = .error e := by
  induction xs generalizing s with
  | nil => cases h
  | cons x xs ih =>
    rw [List.foldlM_cons, bind_eq_error] at h
    obtain hx | ⟨t, ht, h⟩ := h
    · exact ⟨x, xs, s, hs, hx⟩
    · exact ih (hstep x xs s t hs ht) h

/-- A view of the state that no step changes. -/
theorem foldlM_view {step : σ → α → Except ε σ} {φ : σ → β}
    (hstep : ∀ s x s', step s x = .ok s' → φ s' = φ s) {xs : List α} {s s' : σ}
    (h : xs.foldlM step s = .ok s') : φ s' = φ s :=
  foldlM_keeps (P := fun _ t => φ t = φ s)
    (fun x _ t t' ht hok => (hstep t x t' hok).trans ht) rfl h

/-- Computations that agree up to a view of their results go on to agree, if what follows does. -/
theorem bind_map_congr {γ δ : Type} {φ : α → β} {ψ : γ → δ} {x y : Except ε α}
    {f g : α → Except ε γ} (h : x.map φ = y.map φ)
    (hnext : ∀ a b, φ a = φ b → (f a).map ψ = (g b).map ψ) :
    (x >>= f).map ψ = (y >>= g).map ψ := by
  cases x with
  | error e =>
    cases y with
    | error e' =>
      obtain rfl : e = e' := Except.error.inj h
      rfl
    | ok b => cases h
  | ok a =>
    cases y with
    | error e => cases h
    | ok b => exact hnext a b (Except.ok.inj h)

theorem foldlM_map_congr {φ : σ → β} {step step' : σ → α → Except ε σ}
    (hstep : ∀ s s' x, φ s = φ s' → (step s x).map φ = (step' s' x).map φ) (xs : List α) {s s' : σ}
    (h : φ s = φ s') : (xs.foldlM step s).map φ = (xs.foldlM step' s').map φ := by
  induction xs generalizing s s' with
  | nil => exact congrArg Except.ok h
  | cons x xs ih =>
    rw [List.foldlM_cons, List.foldlM_cons]
    exact bind_map_congr (hstep s s' x h) fun _ _ => ih

/-- A series of steps succeeds when each can be made in the state that the ones before leave. -/
theorem foldlM_succeeds {step : σ → α → Except ε σ} {P : List α → σ → Prop}
    (hstep : ∀ x rest s, P (x :: rest) s → ∃ s', step s x = .ok s' ∧ P rest s') {xs : List α}
    {s : σ} (hs : P xs s) : ∃ s', xs.foldlM step s = .ok s' ∧ P [] s' := by
  induction xs generalizing s with
  | nil => exact ⟨s, rfl, hs⟩
  | cons x xs ih =>
    obtain ⟨t, ht, hP⟩ := hstep x xs s hs
    obtain ⟨s', hs', hlast⟩ := ih hP
    refine ⟨s', ?_, hlast⟩
    rw [List.foldlM_cons, bind_eq_ok]
    exact ⟨t, ht, hs'⟩

end PullWatch.Outcome
