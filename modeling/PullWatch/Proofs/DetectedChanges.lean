import PullWatch.Proofs.Detection
import Mathlib.Data.List.Flatten

/-!
# The changes of a change set

A discovered record without a row is new, one whose row holds the same snapshot is left alone, and
any other is replaced and carries the id of its row. New records are written as often as they were
discovered, and of check runs with one id the last one is written.

## Main definitions

* `checkChange`: the change of one fresh check run among others.

## Main results

* `Database.newPulls_records`, `Database.newChecks_keys`: the records that are new.
* `Database.mem_updatedPulls`, `Database.mem_updatedChecks`: the records that are replaced.
* `Database.updatedPulls_sublist`, `Database.updatedChecks_sublist`: no record is replaced more
  often than it was discovered.
-/

namespace PullWatch.Database

variable {db : Database} {repositoryId : Int} {number externalId : UInt64} {f : Findings}

/-! ### Pull requests -/

theorem pullChange_eq_some {p : FetchedPullRequest} {c : PullChange} :
    db.pullChange repositoryId p = some c ↔
      c.record = p ∧ c.existingId = (db.knownPull repositoryId p.number).map (·.id) ∧
        detectPull (db.knownPull repositoryId p.number) p.toPullRequest = some c.event := by
  rw [pullChange, Option.map_eq_some_iff]
  constructor
  · rintro ⟨event, hevent, rfl⟩
    exact ⟨rfl, rfl, hevent⟩
  · rintro ⟨rfl, hid, hevent⟩
    exact ⟨c.event, hevent, by rw [← hid]⟩

/-- A pull request whose stored attributes are the discovered ones is left alone. -/
theorem pullChange_eq_none {p : FetchedPullRequest} {s : StoredPullRequest}
    (h : db.knownPull repositoryId p.number = some s) (hsnapshot : s.snapshot = p.snapshot) :
    db.pullChange repositoryId p = none := by
  rw [pullChange, h, detectPull_eq_none_iff.2 hsnapshot]
  rfl

/-- The new pull requests are those that are not stored, in order of discovery. -/
theorem newPulls_records (f : Findings) :
    (db.changesFor repositoryId f).newPulls.map (·.record) =
      f.pulls.filter fun p => (db.knownPull repositoryId p.number).isNone := by
  simp only [changesFor, ChangeSet.ofChanges]
  induction f.pulls with
  | nil => rfl
  | cons p pulls ih =>
    rw [List.filter_cons, ← ih]
    cases hknown : db.knownPull repositoryId p.number with
    | none => simp [pullChange, hknown, detectPull]
    | some s =>
      cases hevent : detectPull (some s) p.toPullRequest <;>
        simp [pullChange, hknown, hevent]

theorem mem_updatedPulls {c : PullChange} :
    c ∈ (db.changesFor repositoryId f).updatedPulls ↔
      c.record ∈ f.pulls ∧ ∃ old, db.knownPull repositoryId c.record.number = some old ∧
        c.existingId = some old.id ∧
        detectPull (some old) c.record.toPullRequest = some c.event := by
  simp only [changesFor, ChangeSet.ofChanges, List.mem_filter, List.mem_filterMap,
    pullChange_eq_some]
  constructor
  · rintro ⟨⟨p, hp, rfl, hid, hevent⟩, hsome⟩
    cases hknown : db.knownPull repositoryId c.record.number with
    | none => simp [hid, hknown] at hsome
    | some old =>
      rw [hknown] at hid hevent
      exact ⟨hp, old, rfl, hid, hevent⟩
  · rintro ⟨hp, old, hknown, hid, hevent⟩
    exact ⟨⟨_, hp, rfl, by rw [hknown]; exact hid, by rw [hknown]; exact hevent⟩, by simp [hid]⟩

/-- A pull request is written at most as often as it was discovered. -/
theorem updatedPulls_sublist (f : Findings) :
    ((db.changesFor repositoryId f).updatedPulls.map (·.record.number)).Sublist f.numbers := by
  have hall : ((f.pulls.filterMap (db.pullChange repositoryId)).map (·.record.number)).Sublist
      f.numbers := by
    rw [Findings.numbers]
    induction f.pulls with
    | nil => exact .slnil
    | cons p pulls ih =>
      rw [List.filterMap_cons, List.map_cons]
      cases hc : db.pullChange repositoryId p with
      | none => exact ih.cons _
      | some c =>
        rw [List.map_cons, (pullChange_eq_some.1 hc).1]
        exact ih.cons_cons _
  exact (List.Sublist.map _ List.filter_sublist).trans hall

/-! ### Check runs of one pull request -/

theorem mem_checkChanges {stored : List StoredCheckRun} {fresh : List CheckRun} {c : CheckChange} :
    c ∈ checkChanges number stored fresh ↔
      c.pullNumber = number ∧ ∃ d ∈ fresh,
        detectCheck (storedWith stored d.externalId) d = some c.event ∧
        (fresh.reverse.find? fun e => e.externalId = d.externalId) = some c.record ∧
        c.existingId = (storedWith stored d.externalId).map (·.id) := by
  simp only [checkChanges, List.mem_filterMap, Option.bind_eq_bind, Option.bind_eq_some_iff,
    Option.some.injEq]
  constructor
  · rintro ⟨d, hd, event, hevent, record, hrecord, rfl⟩
    exact ⟨rfl, d, hd, hevent, hrecord, rfl⟩
  · rintro ⟨rfl, d, hd, hevent, hrecord, hid⟩
    exact ⟨d, hd, c.event, hevent, c.record, hrecord, by rw [← hid]⟩

/-- Of the fresh check runs with the id of one of them there is a last. -/
theorem last_of_mem {fresh : List CheckRun} {d : CheckRun} (hd : d ∈ fresh) :
    ∃ e, (fresh.reverse.find? fun e => e.externalId = d.externalId) = some e ∧
      e.externalId = d.externalId := by
  cases hfind : fresh.reverse.find? fun e => e.externalId = d.externalId with
  | none =>
    have hno := List.find?_eq_none.1 hfind d (List.mem_reverse.2 hd)
    simp at hno
  | some e => exact ⟨e, rfl, by simpa using List.find?_some hfind⟩

/-- Of fresh check runs with distinct ids the written one is the compared one. -/
theorem mem_checkChanges_of_nodup {stored : List StoredCheckRun} {fresh : List CheckRun}
    (hfresh : (fresh.map (·.externalId)).Nodup) {c : CheckChange} :
    c ∈ checkChanges number stored fresh ↔
      c.pullNumber = number ∧ c.record ∈ fresh ∧
        detectCheck (storedWith stored c.record.externalId) c.record = some c.event ∧
        c.existingId = (storedWith stored c.record.externalId).map (·.id) := by
  have hlast {d e : CheckRun} (hd : d ∈ fresh) :
      (fresh.reverse.find? fun e => e.externalId = d.externalId) = some e ↔ e = d := by
    have hone {e : CheckRun} (he : e ∈ fresh) (hid : e.externalId = d.externalId) : e = d :=
      List.inj_on_of_nodup_map hfresh he hd hid
    constructor
    · intro hfind
      have hmem : e ∈ fresh := List.mem_reverse.1 (List.mem_of_find?_eq_some hfind)
      exact hone hmem (by simpa using List.find?_some hfind)
    · rintro rfl
      obtain ⟨d, hfind, hid⟩ := last_of_mem hd
      have hmem : d ∈ fresh := List.mem_reverse.1 (List.mem_of_find?_eq_some hfind)
      rw [hfind, hone hmem hid]
  rw [mem_checkChanges]
  refine and_congr_right fun _ => ?_
  constructor
  · rintro ⟨d, hd, hevent, hrecord, hid⟩
    obtain rfl := (hlast hd).1 hrecord
    exact ⟨hd, hevent, hid⟩
  · rintro ⟨hd, hevent, hid⟩
    exact ⟨c.record, hd, hevent, (hlast hd).2 rfl, hid⟩

/-- The change of one fresh check run among others. -/
def checkChange (number : UInt64) (stored : List StoredCheckRun) (fresh : List CheckRun)
    (d : CheckRun) : Option CheckChange := do
  let event ← detectCheck (storedWith stored d.externalId) d
  let record ← fresh.reverse.find? fun e => e.externalId = d.externalId
  some { record, pullNumber := number, event
         existingId := (storedWith stored d.externalId).map (·.id) }

theorem checkChanges_eq (number : UInt64) (stored : List StoredCheckRun) (fresh : List CheckRun) :
    checkChanges number stored fresh = fresh.filterMap (checkChange number stored fresh) := rfl

theorem newChecks_keys_of_pull (number : UInt64) (stored : List StoredCheckRun)
    {fresh ds : List CheckRun} (hds : ∀ d ∈ ds, d ∈ fresh) :
    ((ds.filterMap (checkChange number stored fresh)).filter fun c => c.existingId.isNone).map
        (fun c => (c.pullNumber, c.record.externalId)) =
      (ds.filter fun d => (storedWith stored d.externalId).isNone).map
        fun d => (number, d.externalId) := by
  induction ds with
  | nil => rfl
  | cons d ds ih =>
    obtain ⟨e, he, hid⟩ := last_of_mem (hds d List.mem_cons_self)
    have hrest := ih fun d' hd' => hds d' (List.mem_cons_of_mem _ hd')
    cases hstored : storedWith stored d.externalId with
    | none => simpa [checkChange, hstored, detectCheck, he, hid] using hrest
    | some s =>
      cases hevent : detectCheck (some s) d with
      | none => simpa [checkChange, hstored, hevent] using hrest
      | some event => simpa [checkChange, hstored, hevent, he] using hrest

theorem checkChanges_sublist (number : UInt64) (stored : List StoredCheckRun)
    {fresh ds : List CheckRun} (hds : ∀ d ∈ ds, d ∈ fresh) :
    ((ds.filterMap (checkChange number stored fresh)).map
        fun c => (c.pullNumber, c.record.externalId)).Sublist
      (ds.map fun d => (number, d.externalId)) := by
  induction ds with
  | nil => exact .slnil
  | cons d ds ih =>
    obtain ⟨e, he, hid⟩ := last_of_mem (hds d List.mem_cons_self)
    have hrest := ih fun d' hd' => hds d' (List.mem_cons_of_mem _ hd')
    rw [List.map_cons, List.filterMap_cons]
    cases hc : checkChange number stored fresh d with
    | none => exact hrest.cons _
    | some c =>
      obtain ⟨hnumber, hrecord⟩ : c.pullNumber = number ∧ c.record = e := by
        simp only [checkChange, he, Option.bind_eq_bind, Option.bind_eq_some_iff,
          Option.some.injEq] at hc
        obtain ⟨event, -, _, rfl, rfl⟩ := hc
        exact ⟨rfl, rfl⟩
      rw [List.map_cons, hnumber, hrecord, hid]
      exact hrest.cons_cons _

/-! ### Check runs -/

/-- Check runs whose stored attributes are the discovered ones are left alone. -/
theorem changesOfChecks_eq_nil
    (h : ∀ c ∈ f.checksFor number, ∃ s, db.knownCheck repositoryId number c.externalId = some s ∧
      s.snapshot = c.snapshot) : db.changesOfChecks repositoryId f number = [] := by
  rw [List.eq_nil_iff_forall_not_mem]
  intro c hc
  obtain ⟨-, d, hd, hevent, -⟩ := mem_checkChanges.1 hc
  obtain ⟨s, hknown, hsnapshot⟩ := h d hd
  rw [← knownCheck, hknown, detectCheck_eq_none_iff.2 hsnapshot] at hevent
  exact Option.some_ne_none _ hevent.symm

theorem mem_changesOfChecks {c : CheckChange} :
    c ∈ f.pulls.flatMap (fun p => db.changesOfChecks repositoryId f p.number) ↔
      c.pullNumber ∈ f.numbers ∧ c ∈ db.changesOfChecks repositoryId f c.pullNumber := by
  simp only [List.mem_flatMap, Findings.numbers, List.mem_map]
  constructor
  · rintro ⟨p, hp, hc⟩
    have hnumber := (mem_checkChanges.1 hc).1
    exact ⟨⟨p, hp, hnumber.symm⟩, by rw [hnumber]; exact hc⟩
  · rintro ⟨⟨p, hp, hnumber⟩, hc⟩
    exact ⟨p, hp, by rw [hnumber]; exact hc⟩

/-- The new check runs are those that are not stored, in order of discovery. -/
theorem newChecks_keys (f : Findings) :
    (db.changesFor repositoryId f).newChecks.map (fun c => (c.pullNumber, c.record.externalId)) =
      f.checkKeys.filter fun k => (db.knownCheck repositoryId k.1 k.2).isNone := by
  simp only [changesFor, ChangeSet.ofChanges, Findings.checkKeys, List.filter_flatMap,
    List.map_flatMap, changesOfChecks, checkChanges_eq, newChecks_keys_of_pull _ _ fun _ => id,
    List.filter_map]
  rfl

/-- A check run is written at most as often as it was discovered. -/
theorem updatedChecks_sublist (f : Findings) :
    ((db.changesFor repositoryId f).updatedChecks.map
      fun c => (c.pullNumber, c.record.externalId)).Sublist f.checkKeys := by
  have hall : ((f.pulls.flatMap fun p => db.changesOfChecks repositoryId f p.number).map
      fun c => (c.pullNumber, c.record.externalId)).Sublist f.checkKeys := by
    rw [Findings.checkKeys, List.map_flatMap]
    exact .flatMap_right _ fun p _ => checkChanges_sublist _ _ fun _ => id
  exact (List.Sublist.map _ List.filter_sublist).trans hall

/-- Of findings without repetitions every change of a check run is about a discovered one, compared
with its row. -/
theorem mem_changesOfChecks_of_distinct (hf : f.Distinct) {c : CheckChange} :
    c ∈ f.pulls.flatMap (fun p => db.changesOfChecks repositoryId f p.number) ↔
      c.pullNumber ∈ f.numbers ∧ c.record ∈ f.checksFor c.pullNumber ∧
        detectCheck (db.knownCheck repositoryId c.pullNumber c.record.externalId) c.record =
          some c.event ∧
        c.existingId =
          (db.knownCheck repositoryId c.pullNumber c.record.externalId).map (·.id) := by
  rw [mem_changesOfChecks]
  refine and_congr_right fun hnumber => ?_
  rw [changesOfChecks, mem_checkChanges_of_nodup (hf.checksFor hnumber), eq_self, true_and]
  rfl

theorem mem_newChecks (hf : f.Distinct) {c : CheckChange} :
    c ∈ (db.changesFor repositoryId f).newChecks ↔
      c.pullNumber ∈ f.numbers ∧ c.record ∈ f.checksFor c.pullNumber ∧
        db.knownCheck repositoryId c.pullNumber c.record.externalId = none ∧
        c.existingId = none ∧ detectCheck none c.record = some c.event := by
  simp only [changesFor, ChangeSet.ofChanges, List.mem_filter, mem_changesOfChecks_of_distinct hf]
  constructor
  · rintro ⟨⟨hnumber, hrecord, hevent, hid⟩, hnone⟩
    cases hknown : db.knownCheck repositoryId c.pullNumber c.record.externalId with
    | none =>
      rw [hknown] at hid hevent
      exact ⟨hnumber, hrecord, rfl, hid, hevent⟩
    | some old => simp [hid, hknown] at hnone
  · rintro ⟨hnumber, hrecord, hknown, hid, hevent⟩
    rw [hknown]
    exact ⟨⟨hnumber, hrecord, hevent, hid⟩, by simp [hid]⟩

theorem mem_updatedChecks (hf : f.Distinct) {c : CheckChange} :
    c ∈ (db.changesFor repositoryId f).updatedChecks ↔
      c.pullNumber ∈ f.numbers ∧ c.record ∈ f.checksFor c.pullNumber ∧
        ∃ old, db.knownCheck repositoryId c.pullNumber c.record.externalId = some old ∧
          c.existingId = some old.id ∧ detectCheck (some old) c.record = some c.event := by
  simp only [changesFor, ChangeSet.ofChanges, List.mem_filter, mem_changesOfChecks_of_distinct hf]
  constructor
  · rintro ⟨⟨hnumber, hrecord, hevent, hid⟩, hsome⟩
    cases hknown : db.knownCheck repositoryId c.pullNumber c.record.externalId with
    | none => simp [hid, hknown] at hsome
    | some old =>
      rw [hknown] at hid hevent
      exact ⟨hnumber, hrecord, old, rfl, hid, hevent⟩
  · rintro ⟨hnumber, hrecord, old, hknown, hid, hevent⟩
    rw [hknown]
    exact ⟨⟨hnumber, hrecord, hevent, hid⟩, by simp [hid]⟩

/-- A check run that is replaced is stored, also when it was discovered more than once. -/
theorem exists_of_mem_updatedChecks {c : CheckChange}
    (h : c ∈ (db.changesFor repositoryId f).updatedChecks) :
    ∃ externalId old, db.knownCheck repositoryId c.pullNumber externalId = some old ∧
      c.existingId = some old.id := by
  simp only [changesFor, ChangeSet.ofChanges, List.mem_filter, mem_changesOfChecks] at h
  obtain ⟨⟨-, hc⟩, hsome⟩ := h
  obtain ⟨-, d, -, -, -, hid⟩ := mem_checkChanges.1 hc
  obtain ⟨old, hold⟩ : ∃ old, db.knownCheck repositoryId c.pullNumber d.externalId = some old := by
    rw [← Option.isSome_iff_exists, knownCheck]
    simpa [hid] using hsome
  exact ⟨d.externalId, old, hold, by rw [hid, ← knownCheck, hold]; rfl⟩

end PullWatch.Database
