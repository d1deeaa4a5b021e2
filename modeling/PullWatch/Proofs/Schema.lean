import PullWatch.Database
import PullWatch.Proofs.Table

/-!
# The rules of the schema

Number and repository determine the row of a pull request, external id and pull request that of a
check run, and a check run belongs to an existing pull request. Every write of a transaction that
succeeds keeps these rules, and what it does to look-ups is told key by key.

## Main definitions

* `PullRow.key`, `CheckRow.key`: what determines a row.
* `Database.Sound`: the rules.
* `Database.pullRow?`, `Database.checkRow?`, `Database.checkRowOf?`, `Database.historyOf`: look-ups
  of rows.

## Main results

* `Database.insertPull_eq_ok`, `Database.updatePull_eq_ok` and the like: when a write succeeds, and
  what it leaves.
* `Database.Sound.insertPull`, `Database.Sound.updatePull` and the like: writes keep the rules.
-/

namespace PullWatch

/-- What determines the row of a pull request. -/
def PullRow.key (row : PullRow) : Int × Int64 := (row.repositoryId, row.number)

/-- What determines the row of a check run. -/
def CheckRow.key (row : CheckRow) : Int × Int64 := (row.pullRequestId, row.externalId)

theorem toInt64_inj {a b : UInt64} : a.toInt64 = b.toInt64 ↔ a = b := by
  constructor
  · intro h
    rw [← UInt64.toUInt64_toInt64 a, h, UInt64.toUInt64_toInt64]
  · rintro rfl
    rfl

namespace PullRow

variable {repositoryId : Int} {number : UInt64} (row : PullRow)

theorem isAt_iff :
    row.isAt repositoryId number = true ↔ row.key = (repositoryId, number.toInt64) := by
  simp [isAt, key, Prod.ext_iff]

@[simp] theorem key_ofRecord (p : FetchedPullRequest) :
    (ofRecord repositoryId p).key = (repositoryId, p.number.toInt64) := rfl

@[simp] theorem key_update (p : FetchedPullRequest) : (row.update p).key = row.key := rfl

@[simp] theorem isAt_update (p : FetchedPullRequest) :
    (row.update p).isAt repositoryId number = row.isAt repositoryId number := rfl

theorem isAt_ofRecord (p : FetchedPullRequest) {other : Int} :
    (ofRecord repositoryId p).isAt other number = true ↔
      other = repositoryId ∧ number = p.number := by
  rw [isAt_iff, key_ofRecord, Prod.ext_iff, toInt64_inj]
  exact and_congr eq_comm eq_comm

end PullRow

namespace CheckRow

variable {pullRequestId : Int} {externalId : UInt64} (row : CheckRow)

theorem isAt_iff :
    row.isAt pullRequestId externalId = true ↔ row.key = (pullRequestId, externalId.toInt64) := by
  simp [isAt, key, Prod.ext_iff]

@[simp] theorem key_ofRecord (c : CheckRun) :
    (ofRecord pullRequestId c).key = (pullRequestId, c.externalId.toInt64) := rfl

@[simp] theorem key_update (c : CheckRun) : (row.update c).key = row.key := rfl

@[simp] theorem isAt_update (c : CheckRun) :
    (row.update c).isAt pullRequestId externalId = row.isAt pullRequestId externalId := rfl

theorem isAt_ofRecord (c : CheckRun) {other : Int} :
    (ofRecord pullRequestId c).isAt other externalId = true ↔
      other = pullRequestId ∧ externalId = c.externalId := by
  rw [isAt_iff, key_ofRecord, Prod.ext_iff, toInt64_inj]
  exact and_congr eq_comm eq_comm

end CheckRow

namespace Database

variable {db db' : Database} {id repositoryId pullRequestId : Int} {p : FetchedPullRequest}
  {c : CheckRun}

/-! ### Look-ups of rows -/

/-- The row of a pull request, with its id. -/
def pullRow? (db : Database) (repositoryId : Int) (number : UInt64) : Option (Int × PullRow) :=
  db.pulls.find? fun row => row.isAt repositoryId number

/-- The row of a check run, with its id. -/
def checkRow? (db : Database) (pullRequestId : Int) (externalId : UInt64) :
    Option (Int × CheckRow) :=
  db.checks.find? fun row => row.isAt pullRequestId externalId

/-- The row of a check run of a pull request that is given by its number. -/
def checkRowOf? (db : Database) (repositoryId : Int) (number externalId : UInt64) :
    Option (Int × CheckRow) :=
  (db.pullRow? repositoryId number).bind fun r => db.checkRow? r.1 externalId

/-- The rows of a record's history, oldest first. -/
def historyOf (db : Database) (subject : HistorySubject) (id : Int) : List HistoryRow :=
  (db.history.select fun row => row.isAbout subject id).map (·.2)

theorem pullId?_eq (db : Database) (repositoryId : Int) (number : UInt64) :
    db.pullId? repositoryId number = (db.pullRow? repositoryId number).map (·.1) := rfl

theorem pull?_eq (db : Database) (repositoryId : Int) (number : UInt64) :
    db.pull? repositoryId number =
      match db.pullRow? repositoryId number with
      | none => .ok none
      | some r => (r.2.decode r.1).map some := by
  simp only [pull?, pullRow?]
  cases db.pulls.find? fun row => row.isAt repositoryId number <;> rfl

/-! ### The rules -/

/-- The rules of the schema on pull requests and check runs. -/
structure Sound (db : Database) : Prop where
  pulls : db.pulls.Keyed PullRow.key
  checks : db.checks.Keyed CheckRow.key
  owners : ∀ r ∈ db.checks.rows, db.pulls.hasId r.2.pullRequestId = true

/-- A database without pull requests and check runs obeys the rules. -/
theorem Sound.of_rows_eq_nil (hpulls : db.pulls.rows = []) (hchecks : db.checks.rows = []) :
    db.Sound where
  pulls := by
    rw [show db.pulls = { rows := [], lastId := db.pulls.lastId } by rw [← hpulls]]
    exact .empty _
  checks := by
    rw [show db.checks = { rows := [], lastId := db.checks.lastId } by rw [← hchecks]]
    exact .empty _
  owners := by simp [hchecks]

namespace Sound

variable {number externalId : UInt64}

/-- The rules say nothing of repositories. -/
theorem withRepositories (h : db.Sound) (repositories : Table RepositoryRow) :
    Sound { db with repositories } := ⟨h.pulls, h.checks, h.owners⟩

theorem pullRow?_eq_some (h : db.Sound) {r : Int × PullRow} :
    db.pullRow? repositoryId number = some r ↔
      r ∈ db.pulls.rows ∧ r.2.key = (repositoryId, number.toInt64) :=
  h.pulls.find?_eq_some_iff PullRow.isAt_iff

theorem checkRow?_eq_some (h : db.Sound) {r : Int × CheckRow} :
    db.checkRow? pullRequestId externalId = some r ↔
      r ∈ db.checks.rows ∧ r.2.key = (pullRequestId, externalId.toInt64) :=
  h.checks.find?_eq_some_iff CheckRow.isAt_iff

theorem select_pulls (h : db.Sound) (repositoryId : Int) (number : UInt64) :
    (db.pulls.select fun row => row.isAt repositoryId number) =
      (db.pullRow? repositoryId number).toList :=
  h.pulls.select_eq PullRow.isAt_iff

theorem select_checks (h : db.Sound) (pullRequestId : Int) (externalId : UInt64) :
    (db.checks.select fun row => row.isAt pullRequestId externalId) =
      (db.checkRow? pullRequestId externalId).toList :=
  h.checks.select_eq CheckRow.isAt_iff

/-- One row is not found under two numbers. -/
theorem pullRow?_inj (h : db.Sound) {other : Int} {number' : UInt64} {row row' : PullRow}
    (hrow : db.pullRow? repositoryId number = some (id, row))
    (hrow' : db.pullRow? other number' = some (id, row')) :
    (repositoryId, number) = (other, number') := by
  obtain ⟨hr, hkey⟩ := h.pullRow?_eq_some.1 hrow
  obtain ⟨hr', hkey'⟩ := h.pullRow?_eq_some.1 hrow'
  rw [h.pulls.eq_of_id hr hr' rfl, hkey', Prod.ext_iff, toInt64_inj] at hkey
  exact Prod.ext hkey.1.symm hkey.2.symm

/-- One row is not found under two external ids. -/
theorem checkRow?_inj (h : db.Sound) {other : Int} {externalId' : UInt64} {row row' : CheckRow}
    (hrow : db.checkRow? pullRequestId externalId = some (id, row))
    (hrow' : db.checkRow? other externalId' = some (id, row')) :
    (pullRequestId, externalId) = (other, externalId') := by
  obtain ⟨hr, hkey⟩ := h.checkRow?_eq_some.1 hrow
  obtain ⟨hr', hkey'⟩ := h.checkRow?_eq_some.1 hrow'
  rw [h.checks.eq_of_id hr hr' rfl, hkey', Prod.ext_iff, toInt64_inj] at hkey
  exact Prod.ext hkey.1.symm hkey.2.symm

/-- One row is not found under two pairs of numbers. -/
theorem checkRowOf?_inj (h : db.Sound) {other : Int} {number' externalId' : UInt64}
    {row row' : CheckRow} (hrow : db.checkRowOf? repositoryId number externalId = some (id, row))
    (hrow' : db.checkRowOf? other number' externalId' = some (id, row')) :
    (repositoryId, number, externalId) = (other, number', externalId') := by
  obtain ⟨⟨pid, prow⟩, hp, hrow⟩ := Option.bind_eq_some_iff.1 hrow
  obtain ⟨⟨pid', prow'⟩, hp', hrow'⟩ := Option.bind_eq_some_iff.1 hrow'
  obtain ⟨hpid, hexternal⟩ := Prod.mk.inj (h.checkRow?_inj hrow hrow')
  obtain rfl : pid = pid' := hpid
  have hpulls := h.pullRow?_inj hp hp'
  rw [Prod.ext_iff] at hpulls
  exact Prod.ext hpulls.1 (Prod.ext hpulls.2 hexternal)

/-- No check run belongs to an id that no pull request has. -/
theorem checkRow?_of_no_owner (h : db.Sound) (hid : db.pulls.hasId pullRequestId = false) :
    db.checkRow? pullRequestId externalId = none := by
  cases hrow : db.checkRow? pullRequestId externalId with
  | none => rfl
  | some r =>
    obtain ⟨hr, hkey⟩ := h.checkRow?_eq_some.1 hrow
    have howner := h.owners r hr
    rw [show r.2.pullRequestId = pullRequestId from congrArg Prod.fst hkey, hid] at howner
    exact absurd howner Bool.false_ne_true

end Sound

/-! ### The writes of transactions -/

/-- The database with the pull requests replaced. -/
abbrev withPulls (db : Database) (pulls : Table PullRow) : Database := { db with pulls }

/-- The database with the check runs replaced. -/
abbrev withChecks (db : Database) (checks : Table CheckRow) : Database := { db with checks }

theorem pullRow?_eq_none {number : UInt64} :
    db.pullRow? repositoryId number = none ↔
      ∀ r ∈ db.pulls.rows, r.2.key ≠ (repositoryId, number.toInt64) := by
  simp only [pullRow?, Table.find?, List.find?_eq_none, PullRow.isAt_iff, ne_eq]

theorem checkRow?_eq_none {externalId : UInt64} :
    db.checkRow? pullRequestId externalId = none ↔
      ∀ r ∈ db.checks.rows, r.2.key ≠ (pullRequestId, externalId.toInt64) := by
  simp only [checkRow?, Table.find?, List.find?_eq_none, CheckRow.isAt_iff, ne_eq]

theorem insertPull_eq_ok :
    db.insertPull repositoryId p = .ok (id, db') ↔
      db.pullRow? repositoryId p.number = none ∧ db.repositories.hasId repositoryId = true ∧
        id = db.pulls.lastId + 1 ∧
        db' = db.withPulls (db.pulls.insert (.ofRecord repositoryId p)).2 := by
  have hany : (db.pulls.any fun row => row.isAt repositoryId p.number) = false ↔
      db.pullRow? repositoryId p.number = none := by
    simp only [Table.any, pullRow?, Table.find?, List.any_eq_false, List.find?_eq_none]
  rw [insertPull, ← hany]
  cases db.pulls.any fun row => row.isAt repositoryId p.number with
  | true => simp
  | false => cases db.repositories.hasId repositoryId <;> simp [eq_comm]

theorem insertCheck_eq_ok :
    db.insertCheck pullRequestId c = .ok (id, db') ↔
      db.checkRow? pullRequestId c.externalId = none ∧ db.pulls.hasId pullRequestId = true ∧
        id = db.checks.lastId + 1 ∧
        db' = db.withChecks (db.checks.insert (.ofRecord pullRequestId c)).2 := by
  have hany : (db.checks.any fun row => row.isAt pullRequestId c.externalId) = false ↔
      db.checkRow? pullRequestId c.externalId = none := by
    simp only [Table.any, checkRow?, Table.find?, List.any_eq_false, List.find?_eq_none]
  rw [insertCheck, ← hany]
  cases db.checks.any fun row => row.isAt pullRequestId c.externalId with
  | true => simp
  | false => cases db.pulls.hasId pullRequestId <;> simp [eq_comm]

theorem updatePull_eq_ok :
    db.updatePull id p = .ok db' ↔
      db.pulls.hasId id = true ∧ db' = db.withPulls (db.pulls.change id (·.update p)) := by
  rw [updatePull, Table.modify?_eq]
  cases db.pulls.hasId id <;> simp [eq_comm]

theorem updateCheck_eq_ok :
    db.updateCheck id c = .ok db' ↔
      db.checks.hasId id = true ∧ db' = db.withChecks (db.checks.change id (·.update c)) := by
  rw [updateCheck, Table.modify?_eq]
  cases db.checks.hasId id <;> simp [eq_comm]

/-! ### Look-ups after writes -/

section Views

variable {number externalId : UInt64} {e : HistoryEntry} {subject : HistorySubject}

theorem pullRow?_insert (db : Database) (repositoryId : Int) (p : FetchedPullRequest) (other : Int)
    (number : UInt64) (hnew : db.pullRow? repositoryId p.number = none) :
    (db.withPulls (db.pulls.insert (.ofRecord repositoryId p)).2).pullRow? other number =
      if other = repositoryId ∧ number = p.number then
        some ((db.pulls.lastId : Int) + 1, .ofRecord repositoryId p)
      else db.pullRow? other number := by
  rw [pullRow?, Table.find?_insert]
  by_cases h : other = repositoryId ∧ number = p.number
  · obtain ⟨rfl, rfl⟩ := h
    rw [← pullRow?, hnew, if_pos (PullRow.isAt_ofRecord p |>.2 ⟨rfl, rfl⟩), if_pos ⟨rfl, rfl⟩]
    rfl
  · rw [if_neg (fun hat => h ((PullRow.isAt_ofRecord p).1 hat)), if_neg h, Option.or_none,
      ← pullRow?]

theorem checkRow?_insert (db : Database) (pullRequestId : Int) (c : CheckRun) (other : Int)
    (externalId : UInt64) (hnew : db.checkRow? pullRequestId c.externalId = none) :
    (db.withChecks (db.checks.insert (.ofRecord pullRequestId c)).2).checkRow? other externalId =
      if other = pullRequestId ∧ externalId = c.externalId then
        some ((db.checks.lastId : Int) + 1, .ofRecord pullRequestId c)
      else db.checkRow? other externalId := by
  rw [checkRow?, Table.find?_insert]
  by_cases h : other = pullRequestId ∧ externalId = c.externalId
  · obtain ⟨rfl, rfl⟩ := h
    rw [← checkRow?, hnew, if_pos (CheckRow.isAt_ofRecord c |>.2 ⟨rfl, rfl⟩), if_pos ⟨rfl, rfl⟩]
    rfl
  · rw [if_neg (fun hat => h ((CheckRow.isAt_ofRecord c).1 hat)), if_neg h, Option.or_none,
      ← checkRow?]

theorem pullRow?_change (db : Database) (id : Int) (p : FetchedPullRequest) (repositoryId : Int)
    (number : UInt64) :
    (db.withPulls (db.pulls.change id (·.update p))).pullRow? repositoryId number =
      (db.pullRow? repositoryId number).map fun r => if r.1 = id then (r.1, r.2.update p) else r :=
  db.pulls.find?_change id (·.update p) _ fun row => row.isAt_update p

theorem checkRow?_change (db : Database) (id : Int) (c : CheckRun) (pullRequestId : Int)
    (externalId : UInt64) :
    (db.withChecks (db.checks.change id (·.update c))).checkRow? pullRequestId externalId =
      (db.checkRow? pullRequestId externalId).map
        fun r => if r.1 = id then (r.1, r.2.update c) else r :=
  db.checks.find?_change id (·.update c) _ fun row => row.isAt_update c

theorem historyOf_appendHistory :
    (db.appendHistory e).historyOf subject id =
      db.historyOf subject id ++
        if e.subject = subject ∧ e.subjectId = id then [.ofEntry e] else [] := by
  have habout : (HistoryRow.ofEntry e).isAbout subject id = true ↔
      e.subject = subject ∧ e.subjectId = id := by
    cases he : e.subject <;> cases subject <;>
      simp [HistoryRow.isAbout, HistoryRow.ofEntry, HistorySubject.name, he]
  simp only [historyOf, appendHistory, Table.select_insert, List.map_append, habout]
  split_ifs <;> rfl

end Views

/-! ### The rules after writes -/

namespace Sound

theorem appendHistory (h : db.Sound) (e : HistoryEntry) : (db.appendHistory e).Sound :=
  ⟨h.pulls, h.checks, h.owners⟩

theorem insertPull (h : db.Sound) (hok : db.insertPull repositoryId p = .ok (id, db')) :
    db'.Sound := by
  obtain ⟨hnew, -, -, rfl⟩ := insertPull_eq_ok.1 hok
  refine ⟨h.pulls.insert (pullRow?_eq_none.1 hnew), h.checks, fun r hr => ?_⟩
  rw [Table.hasId_insert, h.owners r hr, Bool.true_or]

theorem updatePull (h : db.Sound) (hok : db.updatePull id p = .ok db') : db'.Sound := by
  obtain ⟨-, rfl⟩ := updatePull_eq_ok.1 hok
  refine ⟨h.pulls.change id fun row => row.key_update p, h.checks, fun r hr => ?_⟩
  rw [Table.hasId_change]
  exact h.owners r hr

theorem insertCheck (h : db.Sound) (hok : db.insertCheck pullRequestId c = .ok (id, db')) :
    db'.Sound := by
  obtain ⟨hnew, howner, -, rfl⟩ := insertCheck_eq_ok.1 hok
  refine ⟨h.pulls, h.checks.insert (checkRow?_eq_none.1 hnew), fun r hr => ?_⟩
  rw [Table.rows_insert, List.mem_append, List.mem_singleton] at hr
  rcases hr with hr | rfl
  · exact h.owners r hr
  · exact howner

theorem updateCheck (h : db.Sound) (hok : db.updateCheck id c = .ok db') : db'.Sound := by
  obtain ⟨-, rfl⟩ := updateCheck_eq_ok.1 hok
  refine ⟨h.pulls, h.checks.change id fun row => row.key_update c, fun r hr => ?_⟩
  obtain ⟨s, hs, rfl⟩ := Table.mem_change.1 hr
  have := h.owners s hs
  split_ifs <;> exact this

end Sound

end Database

end PullWatch
