import PullWatch.Synchronization
import Mathlib.Tactic.SplitIfs

/-!
# What the event of a record says

A stored record and a fresh one differ in no compared attribute exactly when their snapshots agree.
Otherwise the event tells the values before and after of every attribute that differs, and these are
the values that the history takes from it.

## Main results

* `PullSnapshot.eq_iff`, `CheckSnapshot.eq_iff`: the compared attributes make up a snapshot.
* `detectPull_eq_none_iff`, `detectCheck_eq_none_iff`: when a known record is left alone.
* `formerValue_of_detectPull`, `formerValue_of_detectCheck`, `presentValue_of_detectCheck`: the
  values for the history.
-/

namespace PullWatch

/-! ### Differences -/

section Differences

variable {φ : Type} {tag : φ → ChangedField} {fields : List φ} {old new : φ → FieldValue}

theorem differences_eq_nil_iff :
    differences tag fields old new = [] ↔ ∀ f ∈ fields, old f = new f := by
  simp [differences, List.filter_eq_nil_iff]

/-- The difference of one of the compared attributes, if there is one. -/
theorem find?_differences (htag : Function.Injective tag) {f : φ} (hf : f ∈ fields) :
    (differences tag fields old new).find? (fun d => d.field = tag f) =
      if old f ≠ new f then some ⟨tag f, old f, new f⟩ else none := by
  rw [differences, List.find?_map]
  split_ifs with hne
  · cases hfind : (fields.filter fun g => old g ≠ new g).find?
        ((fun d : FieldDiff => decide (d.field = tag f)) ∘ fun g => ⟨tag g, old g, new g⟩) with
    | none =>
      have hno := List.find?_eq_none.1 hfind f (List.mem_filter.2 ⟨hf, by simpa using hne⟩)
      simp at hno
    | some g =>
      have hg : tag g = tag f := by simpa using List.find?_some hfind
      rw [htag hg, Option.map_some]
  · rw [Option.map_eq_none_iff, List.find?_eq_none]
    intro g hg hgf
    have hgf : g = f := htag (by simpa using hgf)
    exact hne (by simpa [hgf] using (List.mem_filter.1 hg).2)

end Differences

/-! ### Snapshots -/

theorem FieldValue.ofText?_inj {a b : Option String} : ofText? a = ofText? b ↔ a = b := by
  cases a <;> cases b <;> simp [ofText?]

theorem FieldValue.ofTime?_inj {a b : Option Instant} : ofTime? a = ofTime? b ↔ a = b := by
  cases a <;> cases b <;> simp [ofTime?]

theorem FieldValue.ofConclusion?_inj {a b : Option CheckConclusion} :
    ofConclusion? a = ofConclusion? b ↔ a = b := by
  cases a <;> cases b <;> simp [ofConclusion?]

theorem PullSnapshot.eq_iff {a b : PullSnapshot} :
    a = b ↔ ∀ f ∈ PullField.compared, a.value f = b.value f := by
  cases a
  cases b
  simp [PullField.compared, value, FieldValue.ofText?_inj]

theorem CheckSnapshot.eq_iff {a b : CheckSnapshot} :
    a = b ↔ ∀ f ∈ CheckField.compared, a.value f = b.value f := by
  cases a
  cases b
  simp [CheckField.compared, value, FieldValue.ofText?_inj, FieldValue.ofTime?_inj,
    FieldValue.ofConclusion?_inj]

/-! ### Events -/

section Pulls

variable {old : StoredPullRequest} {new : PullRequest} {e : Event}

theorem detectPull_eq_none_iff :
    detectPull (some old) new = none ↔ old.snapshot = new.snapshot := by
  have hdiffs : differences .pull PullField.compared old.snapshot.value new.snapshot.value = [] ↔
      old.snapshot = new.snapshot := by
    rw [differences_eq_nil_iff, PullSnapshot.eq_iff]
  rw [← hdiffs, detectPull]
  simp only [List.isEmpty_iff]
  split_ifs with h <;> simp [h]

theorem diffs_of_detectPull (h : detectPull (some old) new = some e) :
    e.diffs = differences .pull PullField.compared old.snapshot.value new.snapshot.value := by
  simp only [detectPull] at h
  split_ifs at h
  all_goals
    rw [← Option.some.inj h]

/-- The kind of event tells whether the state changed. -/
theorem kind_of_detectPull (h : detectPull (some old) new = some e) :
    e.kind = .pullStateChanged ↔ old.state ≠ new.state := by
  simp only [detectPull] at h
  split_ifs at h with hdiffs hstate
  all_goals
    rw [← Option.some.inj h]
    simp [hstate]

/-- The history takes the old state from the event. -/
theorem formerValue_of_detectPull (h : detectPull (some old) new = some e)
    (hstate : old.state ≠ new.state) : formerValue e (.pull .state) = some old.state.name := by
  have hvalue : old.snapshot.value .state ≠ new.snapshot.value .state := by
    simpa [PullSnapshot.value, PullRequest.snapshot] using hstate
  rw [formerValue, Event.oldValue?, diffs_of_detectPull h,
    find?_differences (fun _ _ => ChangedField.pull.inj) (by decide), if_pos hvalue]
  rfl

end Pulls

section Checks

variable {old : StoredCheckRun} {new : CheckRun} {e : Event}

theorem detectCheck_eq_none_iff :
    detectCheck (some old) new = none ↔ old.snapshot = new.snapshot := by
  have hdiffs : differences .check CheckField.compared old.snapshot.value new.snapshot.value = [] ↔
      old.snapshot = new.snapshot := by
    rw [differences_eq_nil_iff, CheckSnapshot.eq_iff]
  rw [← hdiffs, detectCheck]
  simp only [List.isEmpty_iff]
  split_ifs with h <;> simp [h]

theorem diffs_of_detectCheck (h : detectCheck (some old) new = some e) :
    e.diffs = differences .check CheckField.compared old.snapshot.value new.snapshot.value := by
  simp only [detectCheck] at h
  split_ifs at h
  all_goals
    rw [← Option.some.inj h]

/-- The difference of the conclusion, as an event tells it. -/
theorem conclusion_of_detectCheck (h : detectCheck (some old) new = some e) :
    e.diffs.find? (fun d => d.field = .check .conclusion) =
      if old.conclusion ≠ new.conclusion then
        some ⟨.check .conclusion, .ofConclusion? old.conclusion, .ofConclusion? new.conclusion⟩
      else none := by
  have hvalue : old.snapshot.value .conclusion ≠ new.snapshot.value .conclusion ↔
      old.conclusion ≠ new.conclusion := by
    simp [CheckSnapshot.value, CheckRun.snapshot, FieldValue.ofConclusion?_inj]
  rw [diffs_of_detectCheck h, find?_differences (fun _ _ => ChangedField.check.inj) (by decide)]
  simp only [hvalue]
  rfl

/-- The event tells whether the conclusion changed. -/
theorem changes_of_detectCheck (h : detectCheck (some old) new = some e) :
    e.changes (.check .conclusion) = true ↔ old.conclusion ≠ new.conclusion := by
  have hany : e.changes (.check .conclusion) =
      (e.diffs.find? fun d => d.field = .check .conclusion).isSome := by
    rw [Event.changes, List.isSome_find?]
  rw [hany, conclusion_of_detectCheck h]
  split_ifs with hne <;> simp [hne]

/-- The history takes the old conclusion from the event. -/
theorem formerValue_of_detectCheck (h : detectCheck (some old) new = some e)
    (hne : old.conclusion ≠ new.conclusion) :
    formerValue e (.check .conclusion) = old.conclusion.map CheckConclusion.name := by
  rw [formerValue, Event.oldValue?, conclusion_of_detectCheck h, if_pos hne]
  cases old.conclusion <;> rfl

/-- The history takes the new conclusion from the event, and `none` for its absence. -/
theorem presentValue_of_detectCheck (h : detectCheck (some old) new = some e)
    (hne : old.conclusion ≠ new.conclusion) :
    presentValue e (.check .conclusion) =
      (new.conclusion.map CheckConclusion.name).getD "none" := by
  rw [presentValue, conclusion_of_detectCheck h, if_pos hne]
  cases new.conclusion <;> rfl

end Checks

end PullWatch
