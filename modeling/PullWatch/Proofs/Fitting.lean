import PullWatch.Proofs.DetectedChanges
import PullWatch.Proofs.Steps

/-!
# Change sets and the databases they were made for

A change set that was detected in a database can be written to it unless it repeats a record: two
changes that both add the same record cannot both succeed, and nothing else can go wrong. Ids of
rows stay as they are all the while, so a change finds the row that it replaces. The same holds when
another change set is written first: then no record that has got a row may be added again.

## Main definitions

* `Database.Grown`: rows were added and replaced, and the rules of the schema hold.
* `Database.Covers`: every discovered pull request has a row.
* `Findings.newNumbers`, `Findings.newCheckKeys`: the discovered records without a row.

## Main results

* `Database.Sound.store`: change sets of any kind keep the rules of the schema.
* `Database.isSome_pullRow?_store`, `Database.isSome_checkRowOf?_store`: which records have a row
  after a change set is written.
* `Database.store_changesFor_iff`: when a detected change set can be written.
* `Database.store_changesFor_grown_iff`: when it can be written on top of other changes.
* `Database.store_changesFor_after_iff`: when two change sets can be written that were detected in
  the same database.
-/

namespace PullWatch

/-- The discovered pull requests that have no row, in order of discovery. -/
def Findings.newNumbers (f : Findings) (db : Database) (repositoryId : Int) : List UInt64 :=
  f.numbers.filter fun n => (db.pullRow? repositoryId n).isNone

/-- The check runs discovered for pull requests that have no row, in order of discovery. -/
def Findings.newCheckKeys (f : Findings) (db : Database) (repositoryId : Int) :
    List (UInt64 × UInt64) :=
  f.checkKeys.filter fun k => (db.checkRowOf? repositoryId k.1 k.2).isNone

/-- Lists without repetitions, the second of which has nothing that the first brings. -/
theorem nodup_append_iff_forall {α β : Type} {xs ys : List α} {look : α → Option β}
    (hxs : xs.Nodup) (hlook : ∀ y ∈ ys, (look y).isSome ↔ y ∈ xs) :
    (ys.Nodup ∧ ∀ y ∈ ys, look y = none) ↔ (xs ++ ys).Nodup := by
  have hnone : (∀ y ∈ ys, look y = none) ↔ xs.Disjoint ys := by
    rw [List.disjoint_right]
    refine forall₂_congr fun y hy => ?_
    rw [← hlook y hy, Option.not_isSome_iff_eq_none]
  rw [List.nodup_append', hnone, and_iff_right hxs]

namespace Database

variable {db s s' : Database} {repositoryId id : Int} {time : Instant} {f : Findings}
  {number externalId : UInt64}

/-! ### Growing -/

/-- Rows were added and replaced under their ids, and the rules of the schema hold. -/
structure Grown (repositoryId : Int) (db s : Database) : Prop where
  sound : s.Sound
  repositories : s.repositories = db.repositories
  pulls : ∀ number r, db.pullRow? repositoryId number = some r →
    ∃ row, s.pullRow? repositoryId number = some (r.1, row)
  checks : ∀ number externalId r, db.checkRowOf? repositoryId number externalId = some r →
    ∃ row, s.checkRowOf? repositoryId number externalId = some (r.1, row)

namespace Grown

theorem refl (h : db.Sound) : Grown repositoryId db db :=
  ⟨h, rfl, fun _ r hr => ⟨r.2, hr⟩, fun _ _ r hr => ⟨r.2, hr⟩⟩

theorem addPull {c : PullChange} (h : Grown repositoryId db s)
    (hok : s.addPull repositoryId time c = .ok s') : Grown repositoryId db s' where
  sound := h.sound.addPull hok
  repositories := (repositories_addPull hok).trans h.repositories
  pulls := by
    intro number r hr
    obtain ⟨row, hrow⟩ := h.pulls number r hr
    refine ⟨row, ?_⟩
    rw [pullRow?_addPull hok, if_neg, hrow]
    rintro ⟨-, rfl⟩
    rw [(addPull_eq_ok.1 hok).1] at hrow
    exact Option.some_ne_none _ hrow.symm
  checks := by
    intro number externalId r hr
    rw [checkRowOf?_addPull hok h.sound]
    exact h.checks number externalId r hr

theorem replacePull {c : PullChange} (h : Grown repositoryId db s)
    (hok : s.replacePull time c = .ok s') : Grown repositoryId db s' := by
  obtain rfl | ⟨id, hid⟩ := eq_or_existingId_of_replacePull hok
  · exact h
  · refine ⟨h.sound.replacePull hid hok, (repositories_replacePull hok).trans h.repositories,
      fun number r hr => ?_, fun number externalId r hr => ?_⟩
    · obtain ⟨row, hrow⟩ := h.pulls number r hr
      rw [pullRow?_replacePull hid hok, hrow, Option.map_some]
      split_ifs <;> exact ⟨_, rfl⟩
    · rw [checkRowOf?_replacePull hid hok]
      exact h.checks number externalId r hr

theorem addCheck {c : CheckChange} (h : Grown repositoryId db s)
    (hok : s.addCheck repositoryId time c = .ok s') : Grown repositoryId db s' where
  sound := h.sound.addCheck hok
  repositories := (repositories_addCheck hok).trans h.repositories
  pulls := by
    intro number r hr
    rw [pullRow?_addCheck h.sound hok]
    exact h.pulls number r hr
  checks := by
    intro number externalId r hr
    obtain ⟨row, hrow⟩ := h.checks number externalId r hr
    refine ⟨row, ?_⟩
    rw [checkRowOf?_addCheck h.sound hok, if_neg, hrow]
    rintro ⟨-, rfl, rfl⟩
    obtain ⟨p, hp, hnew, -⟩ := (addCheck_eq_ok h.sound).1 hok
    rw [checkRowOf?, hp, Option.bind_some, hnew] at hrow
    exact Option.some_ne_none _ hrow.symm

theorem replaceCheck {c : CheckChange} (h : Grown repositoryId db s)
    (hok : s.replaceCheck time c = .ok s') : Grown repositoryId db s' := by
  obtain rfl | ⟨id, hid⟩ := eq_or_existingId_of_replaceCheck hok
  · exact h
  · refine ⟨h.sound.replaceCheck hid hok, (repositories_replaceCheck hok).trans h.repositories,
      fun number r hr => ?_, fun number externalId r hr => ?_⟩
    · rw [pullRow?_replaceCheck hid hok]
      exact h.pulls number r hr
    · obtain ⟨row, hrow⟩ := h.checks number externalId r hr
      rw [checkRowOf?_replaceCheck hid hok, hrow, Option.map_some]
      split_ifs <;> exact ⟨_, rfl⟩

theorem writePulls {added replaced : List PullChange} {s₁ s₂ : Database}
    (h : Grown repositoryId db s)
    (hadd : added.foldlM (Database.addPull repositoryId time) s = .ok s₁)
    (hreplace : replaced.foldlM (Database.replacePull time) s₁ = .ok s₂) :
    Grown repositoryId db s₂ := by
  have h₁ : Grown repositoryId db s₁ :=
    Outcome.foldlM_keeps (fun _ _ _ _ (h : Grown repositoryId db _) hok => h.addPull hok) h hadd
  exact Outcome.foldlM_keeps
    (fun _ _ _ _ (h : Grown repositoryId db _) hok => h.replacePull hok) h₁ hreplace

theorem store {changes : ChangeSet} (h : Grown repositoryId db s)
    (hok : changes.store repositoryId time s = .ok s') : Grown repositoryId db s' := by
  obtain ⟨s₁, s₂, s₃, hadd, hreplace, haddChecks, hreplaceChecks⟩ := ChangeSet.store_eq_ok.1 hok
  have h₂ : Grown repositoryId db s₂ := h.writePulls hadd hreplace
  have h₃ : Grown repositoryId db s₃ :=
    Outcome.foldlM_keeps (fun _ _ _ _ (h : Grown repositoryId db _) hok => h.addCheck hok) h₂
      haddChecks
  exact Outcome.foldlM_keeps
    (fun _ _ _ _ (h : Grown repositoryId db _) hok => h.replaceCheck hok) h₃ hreplaceChecks

/-- A row that was there is found under its id. -/
theorem hasId_pull (h : Grown repositoryId db s) {r : Int × PullRow}
    (hr : db.pullRow? repositoryId number = some r) : s.pulls.hasId r.1 = true := by
  obtain ⟨row, hrow⟩ := h.pulls number r hr
  exact Table.hasId_iff.2 ⟨row, (h.sound.pullRow?_eq_some.1 hrow).1⟩

theorem hasId_check (h : Grown repositoryId db s) {r : Int × CheckRow}
    (hr : db.checkRowOf? repositoryId number externalId = some r) :
    s.checks.hasId r.1 = true := by
  obtain ⟨row, hrow⟩ := h.checks number externalId r hr
  rw [checkRowOf?, Option.bind_eq_some_iff] at hrow
  obtain ⟨p, -, hrow⟩ := hrow
  exact Table.hasId_iff.2 ⟨row, (h.sound.checkRow?_eq_some.1 hrow).1⟩

end Grown

/-- A change set of any kind keeps the rules of the schema. -/
theorem Sound.store {changes : ChangeSet} (hdb : db.Sound)
    (hok : changes.store repositoryId time db = .ok s) : s.Sound :=
  ((Grown.refl hdb).store hok).sound

/-! ### Changes and rows -/

section Rows

variable (hdb : db.Sound) (hread : ∀ p ∈ f.pulls, db.Readable repositoryId f.checks p.number)

include hread

/-- The new pull requests are those without a row. -/
theorem newPulls_numbers :
    (db.changesFor repositoryId f).newPulls.map (·.record.number) =
      f.newNumbers db repositoryId := by
  rw [show (fun c : PullChange => c.record.number) = (fun p => p.number) ∘ (·.record) from rfl,
    ← List.map_map, newPulls_records, Findings.newNumbers, Findings.numbers, List.filter_map]
  congr 1
  refine List.filter_congr fun p hp => ?_
  rw [Bool.eq_iff_iff, Option.isNone_iff_eq_none, (hread p hp).knownPull_eq_none_iff,
    ← Option.isNone_iff_eq_none]
  rfl

include hdb

/-- The new check runs are those without a row. -/
theorem newChecks_keys_eq :
    (db.changesFor repositoryId f).newChecks.map (fun c => (c.pullNumber, c.record.externalId)) =
      f.newCheckKeys db repositoryId := by
  rw [newChecks_keys, Findings.newCheckKeys]
  refine List.filter_congr fun k hk => ?_
  obtain ⟨p, hp, hk⟩ := List.mem_flatMap.1 hk
  obtain ⟨c, hc, rfl⟩ := List.mem_map.1 hk
  have hget : (f.checks.get? p.number).isSome := Findings.isSome_get?_of_mem hc
  rw [Bool.eq_iff_iff, Option.isNone_iff_eq_none,
    hdb.knownCheck_eq_none_iff (hread p hp) hget, ← Option.isNone_iff_eq_none]

end Rows

theorem exists_pullRow {c : PullChange}
    (hc : c ∈ (db.changesFor repositoryId f).updatedPulls) :
    ∃ r, db.pullRow? repositoryId c.record.number = some r ∧ c.existingId = some r.1 := by
  obtain ⟨-, old, hknown, hid, -⟩ := mem_updatedPulls.1 hc
  obtain ⟨row, hrow, -⟩ := knownPull_eq_some hknown
  exact ⟨_, hrow, hid⟩

theorem exists_checkRow (hdb : db.Sound) {c : CheckChange}
    (hc : c ∈ (db.changesFor repositoryId f).updatedChecks) :
    ∃ externalId r, db.checkRowOf? repositoryId c.pullNumber externalId = some r ∧
      c.existingId = some r.1 := by
  obtain ⟨externalId, old, hknown, hid⟩ := exists_of_mem_updatedChecks hc
  obtain ⟨row, hrow, -⟩ := hdb.knownCheck_eq_some hknown
  exact ⟨externalId, _, hrow, hid⟩

theorem pullNumber_mem_of_newChecks {c : CheckChange}
    (hc : c ∈ (db.changesFor repositoryId f).newChecks) : c.pullNumber ∈ f.numbers :=
  (mem_changesOfChecks.1 (List.mem_filter.1 hc).1).1

/-! ### What a change set adds -/

section Added

/-- Changes of pull requests leave the rows of check runs alone. -/
theorem checkRowOf?_writePulls {added replaced : List PullChange} {s₁ s₂ : Database}
    (hs : s.Sound) (hadd : added.foldlM (addPull repositoryId time) s = .ok s₁)
    (hreplace : replaced.foldlM (replacePull time) s₁ = .ok s₂) (number externalId : UInt64) :
    s₂.checkRowOf? repositoryId number externalId =
      s.checkRowOf? repositoryId number externalId := by
  have hadded : s₁.Sound ∧ s₁.checkRowOf? repositoryId number externalId =
      s.checkRowOf? repositoryId number externalId :=
    Outcome.foldlM_keeps (P := fun _ t => t.Sound ∧ t.checkRowOf? repositoryId number externalId =
        s.checkRowOf? repositoryId number externalId)
      (fun _ _ _ _ h hok => ⟨h.1.addPull hok, (checkRowOf?_addPull hok h.1 ..).trans h.2⟩)
      ⟨hs, rfl⟩ hadd
  refine (Outcome.foldlM_view
    (φ := fun t : Database => t.checkRowOf? repositoryId number externalId)
    (fun t c t' hok => ?_) hreplace).trans hadded.2
  obtain rfl | ⟨id, hid⟩ := eq_or_existingId_of_replacePull hok
  · rfl
  · exact checkRowOf?_replacePull hid hok ..

theorem isSome_pullRow?_addPulls {changes : List PullChange}
    (hok : changes.foldlM (addPull repositoryId time) s = .ok s') (number : UInt64) :
    (s'.pullRow? repositoryId number).isSome ↔ (s.pullRow? repositoryId number).isSome ∨
      number ∈ changes.map (·.record.number) := by
  induction changes generalizing s with
  | nil =>
    rw [List.foldlM_nil] at hok
    simp [← Except.ok.inj hok]
  | cons c changes ih =>
    rw [List.foldlM_cons, Outcome.bind_eq_ok] at hok
    obtain ⟨t, ht, hok⟩ := hok
    rw [ih hok, pullRow?_addPull ht, List.map_cons, List.mem_cons]
    by_cases h : number = c.record.number <;> simp [h]

theorem isSome_checkRowOf?_addChecks {changes : List CheckChange} (hs : s.Sound)
    (hok : changes.foldlM (addCheck repositoryId time) s = .ok s') (number externalId : UInt64) :
    (s'.checkRowOf? repositoryId number externalId).isSome ↔
      (s.checkRowOf? repositoryId number externalId).isSome ∨
        (number, externalId) ∈ changes.map fun c => (c.pullNumber, c.record.externalId) := by
  induction changes generalizing s with
  | nil =>
    rw [List.foldlM_nil] at hok
    simp [← Except.ok.inj hok]
  | cons c changes ih =>
    rw [List.foldlM_cons, Outcome.bind_eq_ok] at hok
    obtain ⟨t, ht, hok⟩ := hok
    obtain ⟨r, hr, -⟩ := (addCheck_eq_ok hs).1 ht
    rw [ih (hs.addCheck ht) hok, checkRowOf?_addCheck hs ht, hr, List.map_cons, List.mem_cons,
      Prod.mk.injEq]
    by_cases h : number = c.pullNumber ∧ externalId = c.record.externalId <;> simp [h]

variable {changes : ChangeSet}

/-- After a change set is written, the pull requests with a row are those that had one and those
that it adds. -/
theorem isSome_pullRow?_store (hok : changes.store repositoryId time s = .ok s')
    (number : UInt64) :
    (s'.pullRow? repositoryId number).isSome ↔ (s.pullRow? repositoryId number).isSome ∨
      number ∈ changes.newPulls.map (·.record.number) := by
  obtain ⟨s₁, s₂, s₃, hadd, hreplace, haddChecks, hreplaceChecks⟩ := ChangeSet.store_eq_ok.1 hok
  rw [← isSome_pullRow?_addPulls hadd, pullRow?, pullRow?,
    Outcome.foldlM_view (fun _ _ _ => pulls_replaceCheck) hreplaceChecks,
    Outcome.foldlM_view (fun _ _ _ => pulls_addCheck) haddChecks, ← pullRow?, ← pullRow?,
    Outcome.foldlM_view (φ := fun t : Database => (t.pullRow? repositoryId number).isSome)
      (fun t c t' hok => ?_) hreplace]
  obtain rfl | ⟨id, hid⟩ := eq_or_existingId_of_replacePull hok
  · rfl
  · rw [pullRow?_replacePull hid hok, Option.isSome_map]

/-- After a change set is written, the check runs with a row are those that had one and those that
it adds. -/
theorem isSome_checkRowOf?_store (hs : s.Sound)
    (hok : changes.store repositoryId time s = .ok s') (number externalId : UInt64) :
    (s'.checkRowOf? repositoryId number externalId).isSome ↔
      (s.checkRowOf? repositoryId number externalId).isSome ∨
        (number, externalId) ∈ changes.newChecks.map fun c =>
          (c.pullNumber, c.record.externalId) := by
  obtain ⟨s₁, s₂, s₃, hadd, hreplace, haddChecks, hreplaceChecks⟩ := ChangeSet.store_eq_ok.1 hok
  have hsound : s₂.Sound := ((Grown.refl hs).writePulls hadd hreplace).sound
  rw [← checkRowOf?_writePulls hs hadd hreplace,
    ← isSome_checkRowOf?_addChecks hsound haddChecks,
    Outcome.foldlM_view
      (φ := fun t : Database => (t.checkRowOf? repositoryId number externalId).isSome)
      (fun t c t' hok => ?_) hreplaceChecks]
  obtain rfl | ⟨id, hid⟩ := eq_or_existingId_of_replaceCheck hok
  · rfl
  · rw [checkRowOf?_replaceCheck hid hok, Option.isSome_map]

end Added

/-! ### Writing the parts -/

section Parts

variable {start : Database} (hgrown : Grown repositoryId db start)
  (hread : ∀ p ∈ f.pulls, db.Readable repositoryId f.checks p.number)

/-- Every discovered pull request has a row. -/
def Covers (repositoryId : Int) (f : Findings) (s : Database) : Prop :=
  ∀ number ∈ f.numbers, (s.pullRow? repositoryId number).isSome

include hgrown hread in
/-- Once the new pull requests are added, every discovered one has a row. -/
theorem covers_of_addPulls {time : Instant}
    (hadd : (db.changesFor repositoryId f).newPulls.foldlM (addPull repositoryId time) start =
      .ok s) : Covers repositoryId f s := by
  intro number hnumber
  rw [isSome_pullRow?_addPulls hadd number, newPulls_numbers hread, Findings.newNumbers,
    List.mem_filter]
  cases hrow : db.pullRow? repositoryId number with
  | none => exact .inr ⟨hnumber, rfl⟩
  | some r =>
    obtain ⟨row, hrow⟩ := hgrown.pulls number r hrow
    exact .inl (hrow ▸ rfl)

include hgrown hread in
theorem newPulls_succeed (hrepository : db.repositories.hasId repositoryId = true)
    (hnodup : (f.newNumbers db repositoryId).Nodup)
    (hfree : ∀ number ∈ f.newNumbers db repositoryId, start.pullRow? repositoryId number = none)
    (time : Instant) :
    ∃ s, (db.changesFor repositoryId f).newPulls.foldlM (addPull repositoryId time) start = .ok s ∧
      Grown repositoryId db s ∧ Covers repositoryId f s := by
  let P (rest : List PullChange) (s : Database) : Prop :=
    Grown repositoryId db s ∧ (rest.map (·.record.number)).Nodup ∧
      ∀ c ∈ rest, s.pullRow? repositoryId c.record.number = none
  have hstep (c : PullChange) (rest : List PullChange) (s : Database) (h : P (c :: rest) s) :
      ∃ s', s.addPull repositoryId time c = .ok s' ∧ P rest s' := by
    obtain ⟨hgrown, hdistinct, hnew⟩ := h
    obtain ⟨hc, hdistinct⟩ := List.nodup_cons.1 (List.map_cons ▸ hdistinct)
    have hfree : s.pullRow? repositoryId c.record.number = none := hnew c List.mem_cons_self
    have hhas : s.repositories.hasId repositoryId = true := hgrown.repositories ▸ hrepository
    obtain ⟨s', hok⟩ : ∃ s', s.addPull repositoryId time c = .ok s' :=
      ⟨_, addPull_eq_ok.2 ⟨hfree, hhas, rfl⟩⟩
    refine ⟨s', hok, hgrown.addPull hok, hdistinct, fun c' hc' => ?_⟩
    rw [pullRow?_addPull hok, if_neg, hnew c' (List.mem_cons_of_mem _ hc')]
    rintro ⟨-, hnumber⟩
    exact hc (hnumber ▸ List.mem_map_of_mem hc')
  have hnumbers := newPulls_numbers hread
  have hstart : P (db.changesFor repositoryId f).newPulls start :=
    ⟨hgrown, hnumbers ▸ hnodup, fun c hc => hfree _ (hnumbers ▸ List.mem_map_of_mem hc)⟩
  obtain ⟨s, hs, hlast, -⟩ := Outcome.foldlM_succeeds hstep hstart
  exact ⟨s, hs, hlast, covers_of_addPulls hgrown hread hs⟩

theorem updatedPulls_succeed (h : Grown repositoryId db s) (hcovers : Covers repositoryId f s)
    (time : Instant) :
    ∃ s', (db.changesFor repositoryId f).updatedPulls.foldlM (replacePull time) s = .ok s' ∧
      Grown repositoryId db s' ∧ Covers repositoryId f s' := by
  let P (rest : List PullChange) (s : Database) : Prop :=
    (Grown repositoryId db s ∧ Covers repositoryId f s) ∧
      ∀ c ∈ rest, c ∈ (db.changesFor repositoryId f).updatedPulls
  have hstep (c : PullChange) (rest : List PullChange) (s : Database) (hP : P (c :: rest) s) :
      ∃ s', s.replacePull time c = .ok s' ∧ P rest s' := by
    obtain ⟨⟨h, hcovers⟩, hall⟩ := hP
    obtain ⟨r, hr, hid⟩ := exists_pullRow (hall c List.mem_cons_self)
    have hhas : s.pulls.hasId r.1 = true := h.hasId_pull hr
    have hrest : ∀ c' ∈ rest, c' ∈ (db.changesFor repositoryId f).updatedPulls :=
      fun c' hc' => hall c' (List.mem_cons_of_mem _ hc')
    obtain ⟨s', hok⟩ : ∃ s', s.replacePull time c = .ok s' :=
      ⟨_, (replacePull_eq_ok hid).2 ⟨hhas, rfl⟩⟩
    refine ⟨s', hok, ⟨h.replacePull hok, fun number hnumber => ?_⟩, hrest⟩
    rw [pullRow?_replacePull hid hok, Option.isSome_map]
    exact hcovers number hnumber
  have hstart : P (db.changesFor repositoryId f).updatedPulls s := ⟨⟨h, hcovers⟩, fun _ => id⟩
  obtain ⟨s', hs', h', -⟩ := Outcome.foldlM_succeeds hstep hstart
  exact ⟨s', hs', h'⟩

include hgrown hread in
theorem newChecks_succeed (hdb : db.Sound) (hnodup : (f.newCheckKeys db repositoryId).Nodup)
    (hfree : ∀ k ∈ f.newCheckKeys db repositoryId, start.checkRowOf? repositoryId k.1 k.2 = none)
    (hcovers : Covers repositoryId f start) (time : Instant) :
    ∃ s, (db.changesFor repositoryId f).newChecks.foldlM (addCheck repositoryId time) start =
        .ok s ∧ Grown repositoryId db s := by
  let P (rest : List CheckChange) (s : Database) : Prop :=
    Grown repositoryId db s ∧
      (rest.map fun c => (c.pullNumber, c.record.externalId)).Nodup ∧
      ∀ c ∈ rest, (s.pullRow? repositoryId c.pullNumber).isSome ∧
        s.checkRowOf? repositoryId c.pullNumber c.record.externalId = none
  have hstep (c : CheckChange) (rest : List CheckChange) (s : Database) (hP : P (c :: rest) s) :
      ∃ s', s.addCheck repositoryId time c = .ok s' ∧ P rest s' := by
    obtain ⟨hgrown, hdistinct, hall⟩ := hP
    obtain ⟨hc, hdistinct⟩ := List.nodup_cons.1 (List.map_cons ▸ hdistinct)
    obtain ⟨howner, hnew⟩ := hall c List.mem_cons_self
    obtain ⟨r, hr⟩ := Option.isSome_iff_exists.1 howner
    obtain ⟨s', hok⟩ : ∃ s', s.addCheck repositoryId time c = .ok s' := by
      rw [checkRowOf?, hr, Option.bind_some] at hnew
      exact ⟨_, (addCheck_eq_ok hgrown.sound).2 ⟨r, hr, hnew, rfl⟩⟩
    refine ⟨s', hok, hgrown.addCheck hok, hdistinct, fun c' hc' => ?_⟩
    obtain ⟨howner', hnew'⟩ := hall c' (List.mem_cons_of_mem _ hc')
    rw [pullRow?_addCheck hgrown.sound hok, checkRowOf?_addCheck hgrown.sound hok, if_neg]
    · exact ⟨howner', hnew'⟩
    · rintro ⟨-, hnumber, hid⟩
      exact hc (by rw [← hnumber, ← hid]; exact List.mem_map_of_mem hc')
  have hkeys := newChecks_keys_eq hdb hread
  have hstart : P (db.changesFor repositoryId f).newChecks start :=
    ⟨hgrown, hkeys ▸ hnodup, fun c hc => ⟨hcovers _ (pullNumber_mem_of_newChecks hc),
      hfree (c.pullNumber, c.record.externalId) (hkeys ▸ List.mem_map_of_mem hc)⟩⟩
  obtain ⟨s, hs, hlast, -⟩ := Outcome.foldlM_succeeds hstep hstart
  exact ⟨s, hs, hlast⟩

theorem updatedChecks_succeed (hdb : db.Sound) (h : Grown repositoryId db s) (time : Instant) :
    ∃ s', (db.changesFor repositoryId f).updatedChecks.foldlM (replaceCheck time) s = .ok s' ∧
      Grown repositoryId db s' := by
  let P (rest : List CheckChange) (s : Database) : Prop :=
    Grown repositoryId db s ∧ ∀ c ∈ rest, c ∈ (db.changesFor repositoryId f).updatedChecks
  have hstep (c : CheckChange) (rest : List CheckChange) (s : Database) (hP : P (c :: rest) s) :
      ∃ s', s.replaceCheck time c = .ok s' ∧ P rest s' := by
    obtain ⟨h, hall⟩ := hP
    obtain ⟨externalId, r, hr, hid⟩ := exists_checkRow hdb (hall c List.mem_cons_self)
    have hhas : s.checks.hasId r.1 = true := h.hasId_check hr
    have hrest : ∀ c' ∈ rest, c' ∈ (db.changesFor repositoryId f).updatedChecks :=
      fun c' hc' => hall c' (List.mem_cons_of_mem _ hc')
    obtain ⟨s', hok⟩ : ∃ s', s.replaceCheck time c = .ok s' :=
      ⟨_, (replaceCheck_eq_ok hid).2 ⟨hhas, rfl⟩⟩
    exact ⟨s', hok, h.replaceCheck hok, hrest⟩
  have hstart : P (db.changesFor repositoryId f).updatedChecks s := ⟨h, fun _ => id⟩
  obtain ⟨s', hs', h', -⟩ := Outcome.foldlM_succeeds hstep hstart
  exact ⟨s', hs', h'⟩

end Parts

/-! ### Repeated records -/

/-- Pull requests that were all added are distinct, and none of them had a row. -/
theorem fresh_of_addPulls {changes : List PullChange}
    (hok : changes.foldlM (addPull repositoryId time) s = .ok s') :
    (changes.map (·.record.number)).Nodup ∧
      ∀ c ∈ changes, s.pullRow? repositoryId c.record.number = none := by
  induction changes generalizing s with
  | nil => exact ⟨.nil, List.forall_mem_nil _⟩
  | cons c changes ih =>
    rw [List.foldlM_cons, Outcome.bind_eq_ok] at hok
    obtain ⟨t, ht, hok⟩ := hok
    obtain ⟨hnodup, hfree⟩ := ih hok
    simp only [pullRow?_addPull ht, true_and] at hfree
    have hother : ∀ d ∈ changes, d.record.number ≠ c.record.number ∧
        s.pullRow? repositoryId d.record.number = none := by
      intro d hd
      have hne : d.record.number ≠ c.record.number := fun heq => by simpa [heq] using hfree d hd
      exact ⟨hne, by simpa [hne] using hfree d hd⟩
    refine ⟨List.nodup_cons.2 ⟨fun hmem => ?_, hnodup⟩, List.forall_mem_cons.2
      ⟨(addPull_eq_ok.1 ht).1, fun d hd => (hother d hd).2⟩⟩
    obtain ⟨d, hd, heq⟩ := List.mem_map.1 hmem
    exact (hother d hd).1 heq

/-- Check runs that were all added are distinct, and none of them had a row. -/
theorem fresh_of_addChecks {changes : List CheckChange} (hs : s.Sound)
    (hok : changes.foldlM (addCheck repositoryId time) s = .ok s') :
    (changes.map fun c => (c.pullNumber, c.record.externalId)).Nodup ∧
      ∀ c ∈ changes, s.checkRowOf? repositoryId c.pullNumber c.record.externalId = none := by
  induction changes generalizing s with
  | nil => exact ⟨.nil, List.forall_mem_nil _⟩
  | cons c changes ih =>
    rw [List.foldlM_cons, Outcome.bind_eq_ok] at hok
    obtain ⟨t, ht, hok⟩ := hok
    obtain ⟨r, hr, hnew, -⟩ := (addCheck_eq_ok hs).1 ht
    obtain ⟨hnodup, hfree⟩ := ih (hs.addCheck ht) hok
    have hother : ∀ d ∈ changes,
        ¬ (d.pullNumber = c.pullNumber ∧ d.record.externalId = c.record.externalId) ∧
          s.checkRowOf? repositoryId d.pullNumber d.record.externalId = none := by
      intro d hd
      have hd := hfree d hd
      rw [checkRowOf?_addCheck hs ht, hr] at hd
      by_cases hkey : d.pullNumber = c.pullNumber ∧ d.record.externalId = c.record.externalId
      · rw [if_pos ⟨rfl, hkey⟩] at hd
        cases hd
      · rw [if_neg fun h => hkey h.2] at hd
        exact ⟨hkey, hd⟩
    refine ⟨List.nodup_cons.2 ⟨fun hmem => ?_, hnodup⟩, List.forall_mem_cons.2
      ⟨by rw [checkRowOf?, hr, Option.bind_some, hnew], fun d hd => (hother d hd).2⟩⟩
    obtain ⟨d, hd, heq⟩ := List.mem_map.1 hmem
    exact (hother d hd).1 (Prod.mk.inj heq)

/-- A change set that was detected before other changes were written can be written on top of them
exactly when it adds no record twice, and none that has got a row. -/
theorem store_changesFor_grown_iff (hdb : db.Sound) {start : Database}
    (hgrown : Grown repositoryId db start)
    (hrepository : db.repositories.hasId repositoryId = true)
    (hread : ∀ p ∈ f.pulls, db.Readable repositoryId f.checks p.number) (time : Instant) :
    (∃ db', (db.changesFor repositoryId f).store repositoryId time start = .ok db') ↔
      ((f.newNumbers db repositoryId).Nodup ∧
        ∀ number ∈ f.newNumbers db repositoryId, start.pullRow? repositoryId number = none) ∧
      (f.newCheckKeys db repositoryId).Nodup ∧
        ∀ k ∈ f.newCheckKeys db repositoryId, start.checkRowOf? repositoryId k.1 k.2 = none := by
  simp only [ChangeSet.store_eq_ok]
  constructor
  · rintro ⟨db', db₁, db₂, db₃, h₁, h₂, h₃, -⟩
    have hsound : db₂.Sound := (hgrown.writePulls h₁ h₂).sound
    obtain ⟨hnumbers, hpulls⟩ := fresh_of_addPulls h₁
    obtain ⟨hkeys, hchecks⟩ := fresh_of_addChecks hsound h₃
    simp only [checkRowOf?_writePulls hgrown.sound h₁ h₂] at hchecks
    rw [← newPulls_numbers hread, ← newChecks_keys_eq hdb hread]
    exact ⟨⟨hnumbers, List.forall_mem_map.2 hpulls⟩, hkeys, List.forall_mem_map.2 hchecks⟩
  · rintro ⟨⟨hnumbers, hpulls⟩, hkeys, hchecks⟩
    obtain ⟨db₁, h₁, hgrown₁, hcovers⟩ :=
      newPulls_succeed hgrown hread hrepository hnumbers hpulls time
    obtain ⟨db₂, h₂, hgrown₂, hcovers⟩ := updatedPulls_succeed hgrown₁ hcovers time
    simp only [← checkRowOf?_writePulls hgrown.sound h₁ h₂] at hchecks
    obtain ⟨db₃, h₃, hgrown₃⟩ := newChecks_succeed hgrown₂ hread hdb hkeys hchecks hcovers time
    obtain ⟨db₄, h₄, -⟩ := updatedChecks_succeed hdb hgrown₃ time
    exact ⟨db₄, db₁, db₂, db₃, h₁, h₂, h₃, h₄⟩

/-- A detected change set can be written exactly when it adds no record twice. -/
theorem store_changesFor_iff (hdb : db.Sound)
    (hrepository : db.repositories.hasId repositoryId = true)
    (hread : ∀ p ∈ f.pulls, db.Readable repositoryId f.checks p.number) (time : Instant) :
    (∃ db', (db.changesFor repositoryId f).store repositoryId time db = .ok db') ↔
      (f.newNumbers db repositoryId).Nodup ∧ (f.newCheckKeys db repositoryId).Nodup := by
  rw [store_changesFor_grown_iff hdb (.refl hdb) hrepository hread time]
  refine and_congr (and_iff_left fun number hnumber => ?_) (and_iff_left fun k hk => ?_)
  · exact Option.isNone_iff_eq_none.1 (List.mem_filter.1 hnumber).2
  · exact Option.isNone_iff_eq_none.1 (List.mem_filter.1 hk).2

/-- Of two change sets that were detected in the same database, the second can be written after the
first exactly when together they add no record twice. -/
theorem store_changesFor_after_iff {g : Findings} {later : Instant} (hdb : db.Sound)
    (hrepository : db.repositories.hasId repositoryId = true)
    (hread : ∀ p ∈ f.pulls, db.Readable repositoryId f.checks p.number)
    (hread' : ∀ p ∈ g.pulls, db.Readable repositoryId g.checks p.number)
    (hstore : (db.changesFor repositoryId f).store repositoryId time db = .ok s) :
    (∃ db', (db.changesFor repositoryId g).store repositoryId later s = .ok db') ↔
      (f.newNumbers db repositoryId ++ g.newNumbers db repositoryId).Nodup ∧
        (f.newCheckKeys db repositoryId ++ g.newCheckKeys db repositoryId).Nodup := by
  obtain ⟨hnumbers, hkeys⟩ := (store_changesFor_iff hdb hrepository hread time).1 ⟨s, hstore⟩
  rw [store_changesFor_grown_iff hdb ((Grown.refl hdb).store hstore) hrepository hread' later]
  refine and_congr (nodup_append_iff_forall hnumbers fun number hnumber => ?_)
    (nodup_append_iff_forall hkeys fun k hk => ?_)
  · have hnone := Option.isNone_iff_eq_none.1 (List.mem_filter.1 hnumber).2
    rw [isSome_pullRow?_store hstore, hnone, newPulls_numbers hread]
    simp
  · have hnone := Option.isNone_iff_eq_none.1 (List.mem_filter.1 hk).2
    rw [isSome_checkRowOf?_store hdb hstore, hnone, newChecks_keys_eq hdb hread]
    simp

end Database

end PullWatch
