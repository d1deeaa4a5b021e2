import PullWatch.Proofs.Writing

/-!
# One change at a time

Each kind of change succeeds under a condition on look-ups, keeps the rules of the schema, and
changes the look-up of one record: the one that it is about.

## Main definitions

* `Database.record`: an entry of the history written, if there is one.
* `Database.pullPart`: the pull requests and their history.

## Main results

* `Database.addPull_eq_ok`, `Database.replacePull_eq_ok`, `Database.addCheck_eq_ok`,
  `Database.replaceCheck_eq_ok`: when a change succeeds, and what it leaves.
* `Database.pullRow?_addPull`, `Database.checkRowOf?_addCheck` and the like: look-ups after a
  change.
* `Database.Sound.addPull` and the like: changes keep the rules.
* `Database.pullPart_addCheck`, `Database.pullPart_replaceCheck`: changes of check runs do not touch
  the pull requests.
* `Database.repositories_synchronize`: writing a change set does not touch the repositories.
-/

namespace PullWatch

/-! ### Entries of the history -/

/-- The entry that a replaced pull request leaves, if its state changed. -/
def PullChange.transition? (c : PullChange) (id : Int) (time : Instant) : Option HistoryEntry :=
  if c.event.kind = .pullStateChanged then some (c.entry id time) else none

/-- The entry that a new check run leaves, if it has a conclusion. -/
def CheckChange.beginning? (c : CheckChange) (id : Int) (time : Instant) : Option HistoryEntry :=
  c.record.conclusion.map fun conclusion => c.firstEntry id conclusion time

/-- The entry that a replaced check run leaves, if its conclusion changed. -/
def CheckChange.transition? (c : CheckChange) (id : Int) (time : Instant) : Option HistoryEntry :=
  if c.event.changes (.check .conclusion) then some (c.entry id time) else none

namespace Database

/-- The database with an entry of the history, if there is one. -/
def record (db : Database) : Option HistoryEntry → Database
  | none => db
  | some e => db.appendHistory e

section Record

variable {db : Database} {e : Option HistoryEntry} {repositoryId pullRequestId id : Int}
  {number externalId : UInt64} {subject : HistorySubject}

@[simp] theorem pulls_record : (db.record e).pulls = db.pulls := by cases e <;> rfl

@[simp] theorem checks_record : (db.record e).checks = db.checks := by cases e <;> rfl

@[simp] theorem repositories_record : (db.record e).repositories = db.repositories := by
  cases e <;> rfl

@[simp] theorem pullRow?_record :
    (db.record e).pullRow? repositoryId number = db.pullRow? repositoryId number := by
  cases e <;> rfl

@[simp] theorem checkRow?_record :
    (db.record e).checkRow? pullRequestId externalId = db.checkRow? pullRequestId externalId := by
  cases e <;> rfl

theorem historyOf_record :
    (db.record e).historyOf subject id = db.historyOf subject id ++
      ((e.filter fun e => e.subject = subject ∧ e.subjectId = id).map
        HistoryRow.ofEntry).toList := by
  cases e with
  | none => simp [record]
  | some e =>
    rw [record, historyOf_appendHistory, Option.filter_some]
    by_cases h : e.subject = subject ∧ e.subjectId = id <;> simp [h]

/-- An entry about a record of the other kind is none about this kind. -/
theorem historyOf_record_other (he : ∀ x ∈ e, x.subject ≠ subject) :
    (db.record e).historyOf subject = db.historyOf subject := by
  funext id
  rw [historyOf_record]
  cases e with
  | none => simp
  | some x => simp [he x rfl]

theorem Sound.record (h : db.Sound) : (db.record e).Sound := by
  cases e with
  | none => exact h
  | some e => exact h.appendHistory e

end Record

variable {db db' : Database} {repositoryId id other : Int} {time : Instant}
  {number externalId : UInt64}

/-! ### New pull requests -/

section AddPull

variable {c : PullChange}

theorem addPull_eq_ok :
    db.addPull repositoryId time c = .ok db' ↔
      db.pullRow? repositoryId c.record.number = none ∧
        db.repositories.hasId repositoryId = true ∧
        db' = (db.withPulls (db.pulls.insert (.ofRecord repositoryId c.record)).2).appendHistory
          (c.firstEntry (db.pulls.lastId + 1) time) := by
  rw [addPull, Outcome.bind_eq_ok]
  constructor
  · rintro ⟨⟨id, db₁⟩, hinsert, h⟩
    obtain ⟨hnew, hrepository, rfl, rfl⟩ := insertPull_eq_ok.1 hinsert
    exact ⟨hnew, hrepository, (Except.ok.inj h).symm⟩
  · rintro ⟨hnew, hrepository, rfl⟩
    exact ⟨_, insertPull_eq_ok.2 ⟨hnew, hrepository, rfl, rfl⟩, rfl⟩

variable (h : db.addPull repositoryId time c = .ok db')

include h

theorem pullRow?_addPull (other : Int) (number : UInt64) :
    db'.pullRow? other number =
      if other = repositoryId ∧ number = c.record.number then
        some ((db.pulls.lastId : Int) + 1, .ofRecord repositoryId c.record)
      else db.pullRow? other number := by
  obtain ⟨hnew, -, rfl⟩ := addPull_eq_ok.1 h
  exact pullRow?_insert db repositoryId c.record other number hnew

theorem checkRow?_addPull (pullRequestId : Int) (externalId : UInt64) :
    db'.checkRow? pullRequestId externalId = db.checkRow? pullRequestId externalId := by
  obtain ⟨-, -, rfl⟩ := addPull_eq_ok.1 h
  rfl

theorem repositories_addPull : db'.repositories = db.repositories := by
  obtain ⟨-, -, rfl⟩ := addPull_eq_ok.1 h
  rfl

theorem Sound.addPull (hdb : db.Sound) : db'.Sound := by
  obtain ⟨hnew, hrepository, rfl⟩ := addPull_eq_ok.1 h
  exact (hdb.insertPull (insertPull_eq_ok.2 ⟨hnew, hrepository, rfl, rfl⟩)).appendHistory _

/-- A new pull request has no check runs. -/
theorem checkRowOf?_addPull (hdb : db.Sound) (other : Int) (number externalId : UInt64) :
    db'.checkRowOf? other number externalId = db.checkRowOf? other number externalId := by
  rw [checkRowOf?, checkRowOf?, pullRow?_addPull h]
  simp only [checkRow?_addPull h]
  split_ifs with hkey
  · obtain ⟨rfl, rfl⟩ := hkey
    rw [(addPull_eq_ok.1 h).1, Option.bind_some, Option.bind_none]
    exact hdb.checkRow?_of_no_owner hdb.pulls.fresh
  · rfl

end AddPull

/-! ### Replaced pull requests -/

section ReplacePull

variable {c : PullChange} (hid : c.existingId = some id)

include hid

theorem replacePull_eq_ok :
    db.replacePull time c = .ok db' ↔
      db.pulls.hasId id = true ∧
        db' = (db.withPulls (db.pulls.change id (·.update c.record))).record
          (c.transition? id time) := by
  simp only [replacePull, hid, Outcome.bind_eq_ok, updatePull_eq_ok, PullChange.transition?,
    and_assoc, exists_and_left, exists_eq_left]
  refine and_congr_right fun _ => ?_
  split_ifs <;> rw [Except.ok.injEq, eq_comm] <;> rfl

omit hid in
/-- A change that replaces no row does nothing. -/
theorem eq_or_existingId_of_replacePull (h : db.replacePull time c = .ok db') :
    db' = db ∨ ∃ id, c.existingId = some id := by
  cases hid : c.existingId with
  | none =>
    rw [replacePull, hid] at h
    exact .inl (Except.ok.inj h).symm
  | some id => exact .inr ⟨id, rfl⟩

omit hid in
theorem repositories_replacePull (h : db.replacePull time c = .ok db') :
    db'.repositories = db.repositories := by
  obtain rfl | ⟨id, hid⟩ := eq_or_existingId_of_replacePull h
  · rfl
  · obtain ⟨-, rfl⟩ := (replacePull_eq_ok hid).1 h
    exact repositories_record

variable (h : db.replacePull time c = .ok db')

include h

theorem pullRow?_replacePull (other : Int) (number : UInt64) :
    db'.pullRow? other number =
      (db.pullRow? other number).map
        fun r => if r.1 = id then (r.1, r.2.update c.record) else r := by
  obtain ⟨-, rfl⟩ := (replacePull_eq_ok hid).1 h
  rw [pullRow?_record]
  exact pullRow?_change db id c.record other number

theorem checkRow?_replacePull (pullRequestId : Int) (externalId : UInt64) :
    db'.checkRow? pullRequestId externalId = db.checkRow? pullRequestId externalId := by
  obtain ⟨-, rfl⟩ := (replacePull_eq_ok hid).1 h
  rw [checkRow?_record]
  rfl

theorem checkRowOf?_replacePull (other : Int) (number externalId : UInt64) :
    db'.checkRowOf? other number externalId = db.checkRowOf? other number externalId := by
  rw [checkRowOf?, checkRowOf?, pullRow?_replacePull hid h]
  simp only [checkRow?_replacePull hid h]
  cases db.pullRow? other number with
  | none => rfl
  | some r =>
    simp only [Option.map_some, Option.bind_some]
    split_ifs <;> rfl

theorem Sound.replacePull (hdb : db.Sound) : db'.Sound := by
  obtain ⟨hhas, rfl⟩ := (replacePull_eq_ok hid).1 h
  exact (hdb.updatePull (updatePull_eq_ok.2 ⟨hhas, rfl⟩)).record

end ReplacePull

/-! ### New check runs -/

section AddCheck

variable {c : CheckChange}

theorem addCheck_eq_ok (hdb : db.Sound) :
    db.addCheck repositoryId time c = .ok db' ↔
      ∃ r, db.pullRow? repositoryId c.pullNumber = some r ∧
        db.checkRow? r.1 c.record.externalId = none ∧
        db' = (db.withChecks (db.checks.insert (.ofRecord r.1 c.record)).2).record
          (c.beginning? (db.checks.lastId + 1) time) := by
  rw [addCheck, pullId?_eq]
  cases hrow : db.pullRow? repositoryId c.pullNumber with
  | none => simp
  | some r =>
    have hhas : db.pulls.hasId r.1 = true :=
      Table.hasId_iff.2 ⟨r.2, (hdb.pullRow?_eq_some.1 hrow).1⟩
    simp only [Option.map_some, addCheckTo, Outcome.bind_eq_ok, Option.some.injEq,
      exists_eq_left', CheckChange.beginning?]
    constructor
    · rintro ⟨⟨id, db₁⟩, hinsert, h⟩
      obtain ⟨hnew, -, rfl, rfl⟩ := insertCheck_eq_ok.1 hinsert
      refine ⟨hnew, ?_⟩
      cases hconclusion : c.record.conclusion <;>
        simp only [hconclusion, Except.ok.injEq] at h <;> rw [← h] <;> rfl
    · rintro ⟨hnew, rfl⟩
      refine ⟨_, insertCheck_eq_ok.2 ⟨hnew, hhas, rfl, rfl⟩, ?_⟩
      cases c.record.conclusion <;> rfl

/-- A new check run is one more row, and an entry of the history if it has a conclusion. -/
theorem exists_of_addCheck (h : db.addCheck repositoryId time c = .ok db') :
    ∃ pullRequestId, db' =
      (db.withChecks (db.checks.insert (.ofRecord pullRequestId c.record)).2).record
        (c.beginning? (db.checks.lastId + 1) time) := by
  rw [addCheck] at h
  split at h
  · cases h
  · rename_i pullRequestId _
    obtain ⟨⟨id, db₁⟩, hinsert, h⟩ := Outcome.bind_eq_ok.1 h
    obtain ⟨-, -, rfl, rfl⟩ := insertCheck_eq_ok.1 hinsert
    refine ⟨pullRequestId, ?_⟩
    rw [CheckChange.beginning?]
    cases hconclusion : c.record.conclusion with
    | none =>
      rw [hconclusion] at h
      exact (Except.ok.inj h).symm
    | some conclusion =>
      rw [hconclusion] at h
      exact (Except.ok.inj h).symm

theorem repositories_addCheck (h : db.addCheck repositoryId time c = .ok db') :
    db'.repositories = db.repositories := by
  obtain ⟨pullRequestId, rfl⟩ := exists_of_addCheck h
  exact repositories_record

variable (hdb : db.Sound) (h : db.addCheck repositoryId time c = .ok db')

include hdb h

theorem pullRow?_addCheck (other : Int) (number : UInt64) :
    db'.pullRow? other number = db.pullRow? other number := by
  obtain ⟨r, -, -, rfl⟩ := (addCheck_eq_ok hdb).1 h
  rw [pullRow?_record]
  rfl

theorem Sound.addCheck : db'.Sound := by
  obtain ⟨r, hrow, hnew, rfl⟩ := (addCheck_eq_ok hdb).1 h
  have hhas : db.pulls.hasId r.1 = true :=
    Table.hasId_iff.2 ⟨r.2, (hdb.pullRow?_eq_some.1 hrow).1⟩
  exact (hdb.insertCheck (insertCheck_eq_ok.2 ⟨hnew, hhas, rfl, rfl⟩)).record

theorem checkRowOf?_addCheck (other : Int) (number externalId : UInt64) :
    db'.checkRowOf? other number externalId =
      if other = repositoryId ∧ number = c.pullNumber ∧ externalId = c.record.externalId then
        (db.pullRow? repositoryId c.pullNumber).map fun r =>
          ((db.checks.lastId : Int) + 1, .ofRecord r.1 c.record)
      else db.checkRowOf? other number externalId := by
  rw [checkRowOf?, checkRowOf?, pullRow?_addCheck hdb h]
  obtain ⟨r, hrow, hnew, rfl⟩ := (addCheck_eq_ok hdb).1 h
  cases hother : db.pullRow? other number with
  | none =>
    rw [if_neg]
    · rfl
    · rintro ⟨rfl, rfl, -⟩
      rw [hrow] at hother
      exact Option.some_ne_none _ hother
  | some s =>
    -- the two rows are the same exactly when their keys are
    have hsame : s.1 = r.1 ↔ other = repositoryId ∧ number = c.pullNumber := by
      obtain ⟨hr, hrkey⟩ := hdb.pullRow?_eq_some.1 hrow
      obtain ⟨hs, hskey⟩ := hdb.pullRow?_eq_some.1 hother
      constructor
      · intro hid
        have hkeys := hdb.pulls.eq_of_id hs hr hid ▸ hskey
        rw [hrkey, Prod.ext_iff, toInt64_inj] at hkeys
        exact ⟨hkeys.1.symm, hkeys.2.symm⟩
      · rintro ⟨rfl, rfl⟩
        rw [hrow] at hother
        rw [Option.some.inj hother]
    rw [Option.bind_some, Option.bind_some, checkRow?_record,
      checkRow?_insert db r.1 c.record s.1 externalId hnew, hrow, Option.map_some]
    simp only [hsame, and_assoc]

end AddCheck

/-! ### Replaced check runs -/

section ReplaceCheck

variable {c : CheckChange} (hid : c.existingId = some id)

include hid

theorem replaceCheck_eq_ok :
    db.replaceCheck time c = .ok db' ↔
      db.checks.hasId id = true ∧
        db' = (db.withChecks (db.checks.change id (·.update c.record))).record
          (c.transition? id time) := by
  simp only [replaceCheck, hid, Outcome.bind_eq_ok, updateCheck_eq_ok, CheckChange.transition?,
    and_assoc, exists_and_left, exists_eq_left]
  refine and_congr_right fun _ => ?_
  split_ifs <;> rw [Except.ok.injEq, eq_comm] <;> rfl

omit hid in
/-- A change that replaces no row does nothing. -/
theorem eq_or_existingId_of_replaceCheck (h : db.replaceCheck time c = .ok db') :
    db' = db ∨ ∃ id, c.existingId = some id := by
  cases hid : c.existingId with
  | none =>
    rw [replaceCheck, hid] at h
    exact .inl (Except.ok.inj h).symm
  | some id => exact .inr ⟨id, rfl⟩

omit hid in
theorem repositories_replaceCheck (h : db.replaceCheck time c = .ok db') :
    db'.repositories = db.repositories := by
  obtain rfl | ⟨id, hid⟩ := eq_or_existingId_of_replaceCheck h
  · rfl
  · obtain ⟨-, rfl⟩ := (replaceCheck_eq_ok hid).1 h
    exact repositories_record

variable (h : db.replaceCheck time c = .ok db')

include h

theorem pullRow?_replaceCheck (other : Int) (number : UInt64) :
    db'.pullRow? other number = db.pullRow? other number := by
  obtain ⟨-, rfl⟩ := (replaceCheck_eq_ok hid).1 h
  rw [pullRow?_record]
  rfl

theorem checkRowOf?_replaceCheck (other : Int) (number externalId : UInt64) :
    db'.checkRowOf? other number externalId =
      (db.checkRowOf? other number externalId).map
        fun r => if r.1 = id then (r.1, r.2.update c.record) else r := by
  rw [checkRowOf?, checkRowOf?, pullRow?_replaceCheck hid h]
  obtain ⟨-, rfl⟩ := (replaceCheck_eq_ok hid).1 h
  cases db.pullRow? other number with
  | none => rfl
  | some r =>
    rw [Option.bind_some, Option.bind_some, checkRow?_record]
    exact checkRow?_change db id c.record r.1 externalId

theorem Sound.replaceCheck (hdb : db.Sound) : db'.Sound := by
  obtain ⟨hhas, rfl⟩ := (replaceCheck_eq_ok hid).1 h
  exact (hdb.updateCheck (updateCheck_eq_ok.2 ⟨hhas, rfl⟩)).record

end ReplaceCheck

/-! ### The part of the pull requests -/

section PullPart

variable {c : CheckChange}

/-- The pull requests and their history. -/
def pullPart (db : Database) : Table PullRow × (Int → List HistoryRow) :=
  (db.pulls, db.historyOf .pullRequest)

theorem pullPart_record {e : Option HistoryEntry} (he : ∀ x ∈ e, x.subject = .checkRun) :
    (db.record e).pullPart = db.pullPart := by
  rw [pullPart, pulls_record, historyOf_record_other fun x hx => by simp [he x hx]]
  rfl

theorem pullPart_addCheck (h : db.addCheck repositoryId time c = .ok db') :
    db'.pullPart = db.pullPart := by
  obtain ⟨pullRequestId, rfl⟩ := exists_of_addCheck h
  refine pullPart_record fun x hx => ?_
  obtain ⟨conclusion, -, rfl⟩ := Option.map_eq_some_iff.1 hx
  rfl

theorem pullPart_replaceCheck (h : db.replaceCheck time c = .ok db') :
    db'.pullPart = db.pullPart := by
  obtain rfl | ⟨id, hid⟩ := eq_or_existingId_of_replaceCheck h
  · rfl
  · obtain ⟨-, rfl⟩ := (replaceCheck_eq_ok hid).1 h
    refine pullPart_record fun x hx => ?_
    rw [CheckChange.transition?] at hx
    split_ifs at hx
    · rw [← Option.some.inj hx]
      rfl
    · cases hx

theorem pulls_addCheck (h : db.addCheck repositoryId time c = .ok db') : db'.pulls = db.pulls :=
  (Prod.mk.inj (pullPart_addCheck h)).1

theorem pulls_replaceCheck (h : db.replaceCheck time c = .ok db') : db'.pulls = db.pulls :=
  (Prod.mk.inj (pullPart_replaceCheck h)).1

end PullPart

/-! ### The table of repositories -/

/-- Writing a change set does not touch the repositories. -/
theorem repositories_synchronize {faults : Faults} {chunkSize n : Nat} {changes : ChangeSet}
    (h : synchronize faults chunkSize repositoryId time changes db = .ok (n, db')) :
    db'.repositories = db.repositories := by
  obtain ⟨db₁, db₂, db₃, hadd, hreplace, haddChecks, hreplaceChecks⟩ :=
    ChangeSet.store_eq_ok.1 (synchronize_eq_ok.1 h).1
  rw [Outcome.foldlM_view (fun _ _ _ => repositories_replaceCheck) hreplaceChecks,
    Outcome.foldlM_view (fun _ _ _ => repositories_addCheck) haddChecks,
    Outcome.foldlM_view (fun _ _ _ => repositories_replacePull) hreplace,
    Outcome.foldlM_view (fun _ _ _ => repositories_addPull) hadd]

end Database

end PullWatch
