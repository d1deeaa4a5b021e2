import PullWatch.Processor.Pass
import PullWatch.Proofs.Differences
import PullWatch.Proofs.Schema
import PullWatch.Proofs.WrittenRows
import Mathlib.Data.List.Nodup

/-!
# What detection finds

Detection reads the stored pull requests that were discovered, and the check runs of those whose
check runs were discovered. When these reads succeed the change set does not depend on how: it is a
function of the rows and the findings. A record that detection does not know has no row.

## Main definitions

* `Findings.numbers`, `Findings.checksFor`, `Findings.checkKeys`: the records that were discovered.
* `Findings.Distinct`: no record was discovered twice.
* `Database.knownPull`, `Database.knownCheck`: the stored records that fresh ones are compared with.
* `Database.changesFor`: the change set of some findings.
* `Database.Readable`: the reads for one pull request succeed.

## Main results

* `detect_eq_ok_iff`: when detection succeeds, and the change set that it finds.
* `detect_never`: faults that detection survives do not change what it finds.
* `Database.Sound.readable_iff`: the reads for a pull request succeed when its rows decode.
* `Database.knownPull_eq_some`, `Database.Sound.knownCheck_eq_some`: stored records have rows.
* `Database.Readable.knownPull_eq_none_iff`, `Database.Sound.knownCheck_eq_none_iff`: records
  without rows.
-/

namespace PullWatch

/-! ### Discovered records -/

namespace Findings

/-- The numbers of the discovered pull requests, in order of discovery. -/
def numbers (f : Findings) : List UInt64 := f.pulls.map (·.number)

/-- The check runs discovered for a pull request. -/
def checksFor (f : Findings) (number : UInt64) : List CheckRun := (f.checks.get? number).getD []

/-- The check runs discovered for each pull request, by its number and their ids. -/
def checkKeys (f : Findings) : List (UInt64 × UInt64) :=
  f.pulls.flatMap fun p => (f.checksFor p.number).map fun c => (p.number, c.externalId)

/-- No pull request was discovered twice, and no check run twice for one pull request. -/
structure Distinct (f : Findings) : Prop where
  numbers : f.numbers.Nodup
  checkKeys : f.checkKeys.Nodup

theorem Distinct.checksFor {f : Findings} (h : f.Distinct) {number : UInt64}
    (hnumber : number ∈ f.numbers) : ((f.checksFor number).map (·.externalId)).Nodup := by
  obtain ⟨p, hp, rfl⟩ := List.mem_map.1 hnumber
  have hkeys := (List.nodup_flatMap.1 h.checkKeys).1 p hp
  rw [show ((f.checksFor p.number).map fun c => (p.number, c.externalId)) =
    ((f.checksFor p.number).map (·.externalId)).map (Prod.mk p.number) by simp] at hkeys
  exact hkeys.of_map

/-- A pull request with a discovered check run is one whose check runs were asked for. -/
theorem isSome_get?_of_mem {f : Findings} {number : UInt64} {c : CheckRun}
    (hc : c ∈ f.checksFor number) : (f.checks.get? number).isSome := by
  rw [Findings.checksFor] at hc
  cases hget : f.checks.get? number with
  | none => simp [hget] at hc
  | some fresh => rfl

end Findings

namespace Database

variable (db : Database) (repositoryId : Int)

/-! ### Stored records -/

/-- The stored pull request of a number, as far as it can be read. -/
def knownPull (number : UInt64) : Option StoredPullRequest :=
  (db.pull? repositoryId number).toOption.join

/-- The stored check runs of a pull request, as far as they can be read. -/
def knownChecks (number : UInt64) : List StoredCheckRun :=
  match db.knownPull repositoryId number with
  | none => []
  | some s => (db.checksOf s.id).toOption.getD []

/-- The stored check run of a pull request and an external id. -/
def knownCheck (number externalId : UInt64) : Option StoredCheckRun :=
  storedWith (db.knownChecks repositoryId number) externalId

/-- What detection reads for one pull request can be read. -/
def Readable (checks : ChecksByPull) (number : UInt64) : Prop :=
  ∃ stored, db.pull? repositoryId number = .ok stored ∧
    ((checks.get? number).isSome → ∀ s ∈ stored, ∃ found, db.checksOf s.id = .ok found)

/-! ### The change set -/

/-- The change of a discovered pull request, if it is new or differs. -/
def pullChange (p : FetchedPullRequest) : Option PullChange :=
  (detectPull (db.knownPull repositoryId p.number) p.toPullRequest).map fun event =>
    { record := p, existingId := (db.knownPull repositoryId p.number).map (·.id), event }

/-- The changes of the check runs discovered for a pull request. -/
def changesOfChecks (f : Findings) (number : UInt64) : List CheckChange :=
  checkChanges number (db.knownChecks repositoryId number) (f.checksFor number)

/-- The change set of some findings. -/
def changesFor (f : Findings) : ChangeSet :=
  .ofChanges repositoryId (f.pulls.filterMap (db.pullChange repositoryId))
    (f.pulls.flatMap fun p => db.changesOfChecks repositoryId f p.number)

variable {db repositoryId}

theorem viewUnder_never : db.viewUnder .never repositoryId = db.view repositoryId := rfl

/-- When the changes of one pull request can be told, and which they are. -/
theorem pullChanges_eq_ok {f : Findings} {p : FetchedPullRequest}
    {r : Option PullChange × List CheckChange} :
    pullChanges (db.view repositoryId) f.checks p = .ok r ↔
      db.Readable repositoryId f.checks p.number ∧
        r = (db.pullChange repositoryId p, db.changesOfChecks repositoryId f p.number) := by
  simp only [pullChanges, view, Readable, pullChange, changesOfChecks, knownPull, knownChecks,
    Findings.checksFor, bind, Except.bind, pure, Except.pure]
  cases hpull : db.pull? repositoryId p.number with
  | error e => simp
  | ok stored =>
    cases hget : f.checks.get? p.number with
    | none => simp [checkChanges, Except.toOption, eq_comm]
    | some fresh =>
      cases stored with
      | none => simp [Except.toOption, eq_comm]
      | some s => cases hfound : db.checksOf s.id <;> simp [Except.toOption, eq_comm, hfound]

end Database

section Detection

variable {db : Database} {repositoryId : Int} {f : Findings} {changes : ChangeSet}

/-- Detection succeeds when the changes of every discovered pull request can be told. -/
theorem detectChanges_eq_ok {view : StoredView StoreError} :
    detectChanges view repositoryId f.pulls f.checks = .ok changes ↔
      ∃ found, List.Forall₂ (fun p r => pullChanges view f.checks p = .ok r) f.pulls found ∧
        changes = .ofChanges repositoryId (found.filterMap (·.1)) (found.flatMap (·.2)) := by
  have hone (p : FetchedPullRequest) (r : Option PullChange × List CheckChange) :
      (pullChanges view f.checks p).mapError (DetectionFailure.mk p.number) = .ok r ↔
        pullChanges view f.checks p = .ok r := by
    cases pullChanges view f.checks p <;> simp [Except.mapError]
  have hall : detectChanges view repositoryId f.pulls f.checks =
      (f.pulls.mapM fun p =>
        (pullChanges view f.checks p).mapError (DetectionFailure.mk p.number)) >>= fun found =>
          .ok (.ofChanges repositoryId (found.filterMap (·.1)) (found.flatMap (·.2))) := by
    rw [detectChanges]
    congr 2
    funext p
    cases pullChanges view f.checks p <;> rfl
  simp only [hall, Outcome.bind_eq_ok, Outcome.mapM_eq_ok, hone, Except.ok.injEq]
  exact exists_congr fun found => and_congr_right fun _ => eq_comm

/-- When detection succeeds, and the change set that it finds. -/
theorem detect_eq_ok_iff :
    detect db .never repositoryId f = .ok changes ↔
      (∀ p ∈ f.pulls, db.Readable repositoryId f.checks p.number) ∧
        changes = db.changesFor repositoryId f := by
  have hchanges : db.changesFor repositoryId f = .ofChanges repositoryId
      ((f.pulls.map fun p => (db.pullChange repositoryId p,
        db.changesOfChecks repositoryId f p.number)).filterMap (·.1))
      ((f.pulls.map fun p => (db.pullChange repositoryId p,
        db.changesOfChecks repositoryId f p.number)).flatMap (·.2)) := by
    rw [Database.changesFor, List.filterMap_map, List.flatMap_map]
    rfl
  rw [detect, Database.viewUnder_never, detectChanges_eq_ok, hchanges]
  simp only [Database.pullChanges_eq_ok, List.forall₂_and_left]
  constructor
  · rintro ⟨found, ⟨hreadable, hfound⟩, rfl⟩
    have hfound :=
      List.forall₂_eq_eq_eq ▸ List.forall₂_map_left_iff.2 (hfound.imp fun _ _ => Eq.symm)
    exact ⟨hreadable, by rw [hfound]⟩
  · rintro ⟨hreadable, rfl⟩
    refine ⟨_, ⟨hreadable, ?_⟩, rfl⟩
    rw [List.forall₂_map_right_iff, List.forall₂_same]
    exact fun _ _ => rfl

/-- Faults that detection survives do not change what it finds. -/
theorem detect_never {faults : Faults} (h : detect db faults repositoryId f = .ok changes) :
    detect db .never repositoryId f = .ok changes := by
  have hstrike {α : Type} {fault : Option StoreError} {x : Except StoreError α} {y : α}
      (h : Faults.strike fault x = .ok y) : x = .ok y := by
    cases fault with
    | none => exact h
    | some e => exact absurd h (by simp [Faults.strike])
  rw [detect, detectChanges_eq_ok] at h ⊢
  obtain ⟨found, hfound, h⟩ := h
  refine ⟨found, hfound.imp fun p r hr => ?_, h⟩
  rw [pullChanges, Outcome.bind_eq_ok] at hr ⊢
  obtain ⟨stored, hpull, hr⟩ := hr
  refine ⟨stored, hstrike hpull, ?_⟩
  cases hget : f.checks.get? p.number with
  | none => simpa only [hget] using hr
  | some fresh =>
    cases stored with
    | none => simpa only [hget] using hr
    | some s =>
      simp only [hget, Outcome.bind_eq_ok] at hr ⊢
      obtain ⟨found, hfound, hr⟩ := hr
      exact ⟨found, hstrike hfound, hr⟩

end Detection

/-! ### Stored records and rows -/

namespace Database

variable {db : Database} {repositoryId : Int} {number externalId : UInt64}

theorem knownPull_eq_some {s : StoredPullRequest} (h : db.knownPull repositoryId number = some s) :
    ∃ row, db.pullRow? repositoryId number = some (s.id, row) ∧ row.decode s.id = .ok s := by
  have hpull : db.pull? repositoryId number = .ok (some s) := by
    rw [knownPull, Option.join_eq_some_iff] at h
    cases hpull : db.pull? repositoryId number with
    | error e => simp [hpull, Except.toOption] at h
    | ok stored => rw [show stored = some s by simpa [hpull, Except.toOption] using h]
  rw [pull?_eq] at hpull
  cases hrow : db.pullRow? repositoryId number with
  | none => simp [hrow] at hpull
  | some r =>
    simp only [hrow, Outcome.map_eq_ok, Option.some.injEq, exists_eq_right] at hpull
    have hid : s.id = r.1 := (PullRow.columns_of_decode hpull).2.2.1
    exact ⟨r.2, by rw [hid], by rw [hid]; exact hpull⟩

theorem Readable.knownPull_eq_none_iff {checks : ChecksByPull}
    (h : db.Readable repositoryId checks number) :
    db.knownPull repositoryId number = none ↔ db.pullRow? repositoryId number = none := by
  obtain ⟨stored, hpull, -⟩ := h
  rw [knownPull, hpull]
  rw [pull?_eq] at hpull
  cases hrow : db.pullRow? repositoryId number with
  | none =>
    rw [hrow] at hpull
    simp [← Except.ok.inj hpull, Except.toOption]
  | some r =>
    simp only [hrow, Outcome.map_eq_ok] at hpull
    obtain ⟨s, -, rfl⟩ := hpull
    simp [Except.toOption]

/-- A row that decodes is known. -/
theorem knownPull_of_row {r : Int × PullRow} {old : StoredPullRequest}
    (hrow : db.pullRow? repositoryId number = some r) (hdecode : r.2.decode r.1 = .ok old) :
    db.knownPull repositoryId number = some old := by
  rw [knownPull, pull?_eq, hrow]
  simp [hdecode, Except.map, Except.toOption]

theorem storedWith_eq_some {old : List StoredCheckRun} {s : StoredCheckRun}
    (h : storedWith old externalId = some s) : s ∈ old ∧ s.externalId = externalId :=
  ⟨List.mem_reverse.1 (List.mem_of_find?_eq_some h), by simpa using List.find?_some h⟩

namespace Sound

/-- A check run that is found is among those of its pull request. -/
theorem mem_select_of_checkRow? (hdb : db.Sound) {pullId : Int} {r : Int × CheckRow}
    (h : db.checkRow? pullId externalId = some r) :
    r ∈ db.checks.select fun row => row.pullRequestId = pullId := by
  obtain ⟨hr, hkey⟩ := hdb.checkRow?_eq_some.1 h
  have hpull : r.2.pullRequestId = pullId := congrArg Prod.fst hkey
  exact List.mem_filter.2 ⟨hr, decide_eq_true hpull⟩

/-- A check run of a pull request is found under its external id. -/
theorem checkRow?_of_mem_select (hdb : db.Sound) {pullId : Int} {r : Int × CheckRow}
    (h : r ∈ db.checks.select fun row => row.pullRequestId = pullId) :
    db.checkRow? pullId r.2.externalId.toUInt64 = some r := by
  obtain ⟨hr, hpull⟩ := List.mem_filter.1 h
  refine hdb.checkRow?_eq_some.2 ⟨hr, ?_⟩
  rw [CheckRow.key, Int64.toInt64_toUInt64, of_decide_eq_true hpull]

theorem knownCheck_eq_some (hdb : db.Sound) {s : StoredCheckRun}
    (h : db.knownCheck repositoryId number externalId = some s) :
    ∃ row, db.checkRowOf? repositoryId number externalId = some (s.id, row) ∧
      row.decode s.id = .ok s := by
  obtain ⟨hs, hext⟩ := storedWith_eq_some h
  rw [knownChecks] at hs
  cases hknown : db.knownPull repositoryId number with
  | none => simp [hknown] at hs
  | some p =>
    obtain ⟨prow, hprow, -⟩ := knownPull_eq_some hknown
    cases hfound : db.checksOf p.id with
    | error e => simp [hknown, hfound, Except.toOption] at hs
    | ok found =>
      simp only [hknown, hfound, Except.toOption, Option.getD_some] at hs
      obtain ⟨r, hr, hdecode⟩ := Outcome.exists_of_mem_mapM hfound hs
      have hrow : db.checkRow? p.id r.2.externalId.toUInt64 = some r :=
        hdb.checkRow?_of_mem_select hr
      obtain ⟨-, hid, -, hextRow⟩ := CheckRow.columns_of_decode hdecode
      refine ⟨r.2, ?_, by rw [hid]; exact hdecode⟩
      rw [checkRowOf?, hprow, Option.bind_some, hid, ← hext, hextRow]
      exact hrow

/-- A check run with a row is known, if detection can read the check runs of its pull request. -/
theorem exists_knownCheck (hdb : db.Sound) {checks : ChecksByPull}
    (h : db.Readable repositoryId checks number) (hget : (checks.get? number).isSome)
    {r : Int × CheckRow} (hr : db.checkRowOf? repositoryId number externalId = some r) :
    ∃ s, db.knownCheck repositoryId number externalId = some s := by
  rw [checkRowOf?, Option.bind_eq_some_iff] at hr
  obtain ⟨p, hp, hr⟩ := hr
  obtain ⟨s, hs⟩ : ∃ s, db.knownPull repositoryId number = some s := by
    rw [← Option.ne_none_iff_exists', ne_eq, h.knownPull_eq_none_iff, hp]
    exact Option.some_ne_none p
  obtain ⟨prow, hprow, -⟩ := knownPull_eq_some hs
  obtain rfl : p = (s.id, prow) := Option.some.inj (hp.symm.trans hprow)
  obtain ⟨found, hfound⟩ : ∃ found, db.checksOf s.id = .ok found := by
    obtain ⟨stored, hpull, hall⟩ := h
    refine hall hget s ?_
    simpa [knownPull, hpull, Except.toOption] using hs
  obtain ⟨c, hc, hdecode⟩ := Outcome.mapM_mem hfound (hdb.mem_select_of_checkRow? hr)
  have hext : c.externalId = externalId := by
    have hkey : r.2.externalId = externalId.toInt64 :=
      congrArg Prod.snd (hdb.checkRow?_eq_some.1 hr).2
    rw [(CheckRow.columns_of_decode hdecode).2.2.2, hkey, UInt64.toUInt64_toInt64]
  rw [← Option.ne_none_iff_exists', ne_eq, knownCheck, storedWith, knownChecks, hs]
  simp only [hfound, Except.toOption, Option.getD_some]
  intro hnone
  exact absurd hext (by simpa using List.find?_eq_none.1 hnone c (List.mem_reverse.2 hc))

theorem knownCheck_eq_none_iff (hdb : db.Sound) {checks : ChecksByPull}
    (h : db.Readable repositoryId checks number) (hget : (checks.get? number).isSome) :
    db.knownCheck repositoryId number externalId = none ↔
      db.checkRowOf? repositoryId number externalId = none := by
  rw [← not_iff_not, ← ne_eq, Option.ne_none_iff_exists', ← ne_eq, Option.ne_none_iff_exists']
  constructor
  · rintro ⟨s, hs⟩
    obtain ⟨row, hrow, -⟩ := hdb.knownCheck_eq_some hs
    exact ⟨_, hrow⟩
  · rintro ⟨r, hr⟩
    exact hdb.exists_knownCheck h hget hr

/-- A row that decodes is known, if detection can read the check runs of its pull request. -/
theorem knownCheck_of_row (hdb : db.Sound) {checks : ChecksByPull}
    (h : db.Readable repositoryId checks number) (hget : (checks.get? number).isSome)
    {r : Int × CheckRow} {old : StoredCheckRun}
    (hrow : db.checkRowOf? repositoryId number externalId = some r)
    (hdecode : r.2.decode r.1 = .ok old) :
    db.knownCheck repositoryId number externalId = some old := by
  obtain ⟨s, hs⟩ := hdb.exists_knownCheck h hget hrow
  obtain ⟨row, hrow', hdecode'⟩ := hdb.knownCheck_eq_some hs
  obtain rfl : r = (s.id, row) := Option.some.inj (hrow.symm.trans hrow')
  rw [hs, Except.ok.inj (hdecode'.symm.trans hdecode)]

/-- Detection can read what it needs of a pull request when the rows decode. -/
theorem readable_iff (hdb : db.Sound) {checks : ChecksByPull} :
    db.Readable repositoryId checks number ↔
      (∀ r, db.pullRow? repositoryId number = some r → ∃ old, r.2.decode r.1 = .ok old) ∧
        ((checks.get? number).isSome → ∀ externalId r,
          db.checkRowOf? repositoryId number externalId = some r →
            ∃ old, r.2.decode r.1 = .ok old) := by
  rw [Readable, pull?_eq]
  cases hrow : db.pullRow? repositoryId number with
  | none => simp [checkRowOf?, hrow]
  | some p =>
    simp only [Outcome.map_eq_ok, Option.some.injEq, forall_eq', checkRowOf?, hrow,
      Option.bind_some]
    constructor
    · rintro ⟨stored, ⟨s, hs, rfl⟩, hall⟩
      refine ⟨⟨s, hs⟩, fun hget externalId r hr => ?_⟩
      obtain ⟨found, hfound⟩ := hall hget s rfl
      have hid : s.id = p.1 := (PullRow.columns_of_decode hs).2.2.1
      rw [← hid] at hr
      obtain ⟨c, -, hdecode⟩ := Outcome.mapM_mem hfound (hdb.mem_select_of_checkRow? hr)
      exact ⟨c, hdecode⟩
    · rintro ⟨⟨s, hs⟩, hall⟩
      refine ⟨some s, ⟨s, hs, rfl⟩, fun hget s' hs' => ?_⟩
      obtain rfl : s = s' := Option.some.inj hs'
      refine Outcome.mapM_succeeds fun r hr => hall hget r.2.externalId.toUInt64 r ?_
      have hid : s.id = p.1 := (PullRow.columns_of_decode hs).2.2.1
      rw [← hid]
      exact hdb.checkRow?_of_mem_select hr

end Sound

end Database

end PullWatch
