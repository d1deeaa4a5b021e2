import PullWatch.Proofs.Reachable
import PullWatch.Proofs.Series
import PullWatch.Proofs.WrittenRows

/-!
# Reading back what was written

A ledger keeps the records themselves that committed transactions wrote, where the database keeps
columns of text and of numbers with a sign. Of a row it keeps who owns it, the record that was
inserted and the record that was written last. The tables of the database are the ledger, column by
column, and reading the database gives what the ledger says: the record written last, under the
number and with the time of creation of the record inserted.

Transactions may be any series of writes, to any ids. One that fails leaves nothing behind, neither
in the database nor in the ledger. The records may hold any numbers, texts, lists of names and
times. A row whose times do not lie in the years 0 to 9999 cannot be read, and then nothing is read
of the check runs of its pull request; all other rows are read as if it were not there.

## Main definitions

* `PullEntry`, `CheckEntry`, `Ledger`: what a ledger keeps.
* `Ledger.pull?`, `Ledger.checksOf`: what it says of a pull request, and of check runs.
* `Ledger.enter`: the ledger after a write.
* `Written`: a database that committed transactions made, and the ledger of what they wrote.
* `Ledger.ReadFrom`: the database gives back what the ledger keeps.

## Main results

* `PullEntry.decode_row_eq_ok`, `CheckEntry.decode_row_eq_ok`: when rows decode, and to what.
* `Written.fills`: the tables are the ledger, column by column.
* `Written.synchronize`: change sets are written by such transactions.
* `written_records_read_back`: reading the database gives what the ledger says.
-/

namespace PullWatch

/-! ### Rows seen through a function -/

namespace Table

variable {ρ σ : Type} {t : Table ρ} {f : ρ → σ}

/-- The table with every row replaced by its image. -/
def map (t : Table ρ) (f : ρ → σ) : Table σ :=
  { rows := t.rows.map fun r => (r.1, f r.2), lastId := t.lastId }

theorem insert_map (t : Table ρ) (f : ρ → σ) (row : ρ) :
    ((t.map f).insert (f row)).2 = ((t.insert row).2).map f := by
  simp [map, insert]

/-- Changing the image of a row is changing the row, if both changes say the same. -/
theorem change_map (t : Table ρ) (f : ρ → σ) (id : Int) {g : ρ → ρ} {k : σ → σ}
    (hg : ∀ row, k (f row) = f (g row)) : (t.map f).change id k = (t.change id g).map f := by
  simp only [map, change, List.map_map, mk.injEq, and_true]
  refine List.map_congr_left fun r _ => ?_
  simp only [Function.comp_apply]
  split_ifs
  · rw [hg]
  · rfl

theorem find?_map (t : Table ρ) (f : ρ → σ) (condition : σ → Bool) :
    (t.map f).find? condition =
      (t.find? fun row => condition (f row)).map fun r => (r.1, f r.2) := by
  rw [find?, map, List.find?_map, find?]
  rfl

theorem select_map (t : Table ρ) (f : ρ → σ) (condition : σ → Bool) :
    (t.map f).select condition =
      (t.select fun row => condition (f row)).map fun r => (r.1, f r.2) := by
  rw [select, map, List.filter_map, select]
  rfl

/-- A table is keyed if its image is, and the key of an image is no finer than that of the row. -/
theorem Keyed.of_map {κ κ' : Type} {key : σ → κ} {k : ρ → κ'} (h : (t.map f).Keyed key)
    (hkey : ∀ a b, k a = k b → key (f a) = key (f b)) : t.Keyed k where
  ascending := by
    have hascending := h.ascending
    rwa [map, List.pairwise_map] at hascending
  bounded := fun r hr => h.bounded _ (List.mem_map_of_mem hr)
  distinct := by
    intro r hr s hs heq
    have himage := h.distinct _ (List.mem_map_of_mem hr) _ (List.mem_map_of_mem hs)
      (hkey r.2 s.2 heq)
    have hids : ((t.map f).rows.map (·.1)).Nodup := h.nodup_ids
    rw [map, List.map_map] at hids
    exact List.inj_on_of_nodup_map hids hr hs (Prod.mk.inj himage).1

end Table

/-! ### The ledger -/

/-- What the ledger keeps of a pull request's row. -/
structure PullEntry where
  repositoryId : Int
  /-- The record that was inserted. -/
  first : FetchedPullRequest
  /-- The record that was written last. -/
  last : FetchedPullRequest

namespace PullEntry

/-- What determines the row: its repository and the number of 64 bits. -/
def key (e : PullEntry) : Int × UInt64 := (e.repositoryId, e.first.number)

/-- The pull request that reading the row gives: the record written last, with number and time of
creation of the record inserted. -/
def stored (id : Int) (e : PullEntry) : StoredPullRequest :=
  { e.last.toPullRequest with
    number := e.first.number, createdAt := e.first.createdAt
    id := id, repositoryId := e.repositoryId }

/-- The columns of an entry. -/
def row (e : PullEntry) : PullRow := (PullRow.ofRecord e.repositoryId e.first).update e.last

/-- The entry after another record was written. -/
def rewrite (p : FetchedPullRequest) (e : PullEntry) : PullEntry := { e with last := p }

theorem update_row (p : FetchedPullRequest) (e : PullEntry) :
    e.row.update p = (e.rewrite p).row := rfl

theorem isAt_row (e : PullEntry) (repositoryId : Int) (number : UInt64) :
    e.row.isAt repositoryId number =
      decide (e.repositoryId = repositoryId ∧ e.first.number = number) := by
  rw [row, PullRow.isAt_update, Bool.eq_iff_iff, PullRow.isAt_ofRecord, decide_eq_true_eq]
  exact and_congr eq_comm eq_comm

/-- The row of a pull request decodes exactly when the times that it holds can be stored. -/
theorem decode_row_eq_ok {e : PullEntry} {id : Int} {stored : StoredPullRequest} :
    e.row.decode id = .ok stored ↔ (e.stored id).Storable ∧ stored = e.stored id := by
  simp only [row, PullRow.decode, PullRow.update, PullRow.ofRecord, Outcome.bind_eq_ok,
    Column.decode_eq_ok, PullState.ofName?_name, Column.list_listText, UInt64.toUInt64_toInt64,
    Column.time_rfc3339_eq_some, Column.decode?_time_eq_ok, Option.some.injEq, Except.ok.injEq,
    and_assoc, exists_and_left, exists_eq_left, exists_eq_left']
  constructor
  · rintro ⟨hcreated, hupdated, hclosed, hmerged, rfl⟩
    exact ⟨⟨hcreated, hupdated, hclosed, hmerged⟩, rfl⟩
  · rintro ⟨⟨hcreated, hupdated, hclosed, hmerged⟩, rfl⟩
    exact ⟨hcreated, hupdated, hclosed, hmerged, rfl⟩

end PullEntry

/-- What the ledger keeps of a check run's row. -/
structure CheckEntry where
  pullRequestId : Int
  /-- The record that was inserted. -/
  first : CheckRun
  /-- The record that was written last. -/
  last : CheckRun

namespace CheckEntry

/-- The check run that reading the row gives: the record written last, with the external id of the
record inserted. -/
def stored (id : Int) (e : CheckEntry) : StoredCheckRun :=
  { e.last with externalId := e.first.externalId, id := id, pullRequestId := e.pullRequestId }

/-- The columns of an entry. -/
def row (e : CheckEntry) : CheckRow := (CheckRow.ofRecord e.pullRequestId e.first).update e.last

/-- The entry after another record was written. -/
def rewrite (c : CheckRun) (e : CheckEntry) : CheckEntry := { e with last := c }

theorem update_row (c : CheckRun) (e : CheckEntry) : e.row.update c = (e.rewrite c).row := rfl

/-- What is read has the times of the record written last. -/
theorem storable_stored {id : Int} {e : CheckEntry} : (e.stored id).Storable ↔ e.last.Storable :=
  ⟨fun h => ⟨h.startedAt, h.completedAt⟩, fun h => ⟨h.startedAt, h.completedAt⟩⟩

/-- The row of a check run decodes exactly when the times that it holds can be stored. -/
theorem decode_row_eq_ok {e : CheckEntry} {id : Int} {stored : StoredCheckRun} :
    e.row.decode id = .ok stored ↔ e.last.Storable ∧ stored = e.stored id := by
  have hsuite : (e.last.suiteId.map UInt64.toInt64).map Int64.toUInt64 = e.last.suiteId := by
    simp [Option.map_map, Function.comp_def]
  simp only [row, CheckRow.decode, CheckRow.update, CheckRow.ofRecord, Outcome.bind_eq_ok,
    Column.decode_eq_ok, CheckStatus.ofName?_name, UInt64.toUInt64_toInt64, hsuite,
    Column.decode?_map fun k _ => CheckConclusion.ofName?_name k, Column.decode?_time_eq_ok,
    Option.some.injEq, Except.ok.injEq, and_assoc, exists_and_left, exists_eq_left,
    exists_eq_left']
  constructor
  · rintro ⟨hstarted, hcompleted, rfl⟩
    exact ⟨⟨hstarted, hcompleted⟩, rfl⟩
  · rintro ⟨⟨hstarted, hcompleted⟩, rfl⟩
    exact ⟨hstarted, hcompleted, rfl⟩

end CheckEntry

/-- The records that were written, row by row. -/
structure Ledger where
  pulls : Table PullEntry := {}
  checks : Table CheckEntry := {}

namespace Ledger

/-- The row of a number, with its id. -/
def pullEntry? (l : Ledger) (repositoryId : Int) (number : UInt64) : Option (Int × PullEntry) :=
  l.pulls.find? fun e => e.repositoryId = repositoryId ∧ e.first.number = number

/-- What the ledger says of the pull request with a number. -/
def pull? (l : Ledger) (repositoryId : Int) (number : UInt64) : Option StoredPullRequest :=
  (l.pullEntry? repositoryId number).map fun r => r.2.stored r.1

/-- What the ledger says of the check runs of a pull request's row, in the order of their ids. -/
def checksOf (l : Ledger) (pullRequestId : Int) : List StoredCheckRun :=
  (l.checks.select fun e => e.pullRequestId = pullRequestId).map fun r => r.2.stored r.1

end Ledger

/-! ### Writes -/

/-- The ledger after a write that was committed. -/
def Ledger.enter (l : Ledger) : StoreWrite → Ledger
  | .insertPull repositoryId p => { l with pulls := (l.pulls.insert ⟨repositoryId, p, p⟩).2 }
  | .updatePull id p => { l with pulls := l.pulls.change id (·.rewrite p) }
  | .insertCheck pullRequestId c => { l with checks := (l.checks.insert ⟨pullRequestId, c, c⟩).2 }
  | .updateCheck id c => { l with checks := l.checks.change id (·.rewrite c) }
  | .appendHistory _ => l

/-! ### Databases and their ledgers -/

/-- A database that operations made, beginning with the empty one, and the ledger of what was
written in transactions that were committed. Other operations write no records, and those that fail
leave both as they are. -/
inductive Written : Database → Ledger → Prop
  | empty : Written .empty {}
  | register {db db' : Database} {l : Ledger} {r : NewRepository} {id : Int} (h : Written db l)
      (hok : db.insertRepository r = .ok (id, db')) : Written db' l
  | setActive {db db' : Database} {l : Ledger} {id : Int} {isActive : Bool} (h : Written db l)
      (hok : db.setActive id isActive = .ok db') : Written db' l
  | markPolled {db db' : Database} {l : Ledger} {id : Int} {time : Instant} (h : Written db l)
      (hok : db.markPolled id time = .ok db') : Written db' l
  | commit {db db' : Database} {l : Ledger} {faults : Faults} {writes : List StoreWrite}
      (h : Written db l) (hok : (Transaction.series faults writes).commit db = .ok ((), db')) :
      Written db' (writes.foldl Ledger.enter l)

/-- The tables of records are a ledger, column by column. -/
structure Ledger.Fills (l : Ledger) (db : Database) : Prop where
  pulls : db.pulls = l.pulls.map PullEntry.row
  checks : db.checks = l.checks.map CheckEntry.row
  sound : db.Sound

namespace Ledger.Fills

variable {l : Ledger} {db db' : Database}

/-- What is entered into the ledger is what the write does to the columns. -/
theorem run {w : StoreWrite} (h : l.Fills db) (hok : w.run db = .ok db') :
    (l.enter w).Fills db' := by
  cases w with
  | insertPull repositoryId p =>
    obtain ⟨⟨id, s⟩, hinsert, rfl⟩ := Outcome.map_eq_ok.1 hok
    have hsound := h.sound.insertPull hinsert
    obtain ⟨-, -, -, rfl⟩ := Database.insertPull_eq_ok.1 hinsert
    have hpulls := l.pulls.insert_map PullEntry.row ⟨repositoryId, p, p⟩
    exact ⟨h.pulls ▸ hpulls, h.checks, hsound⟩
  | updatePull id p =>
    have hsound := h.sound.updatePull hok
    obtain ⟨-, rfl⟩ := Database.updatePull_eq_ok.1 hok
    have hpulls := l.pulls.change_map PullEntry.row (k := (·.update p)) id (PullEntry.update_row p)
    exact ⟨h.pulls ▸ hpulls, h.checks, hsound⟩
  | insertCheck pullRequestId c =>
    obtain ⟨⟨id, s⟩, hinsert, rfl⟩ := Outcome.map_eq_ok.1 hok
    have hsound := h.sound.insertCheck hinsert
    obtain ⟨-, -, -, rfl⟩ := Database.insertCheck_eq_ok.1 hinsert
    have hchecks := l.checks.insert_map CheckEntry.row ⟨pullRequestId, c, c⟩
    exact ⟨h.pulls, h.checks ▸ hchecks, hsound⟩
  | updateCheck id c =>
    have hsound := h.sound.updateCheck hok
    obtain ⟨-, rfl⟩ := Database.updateCheck_eq_ok.1 hok
    have hchecks :=
      l.checks.change_map CheckEntry.row (k := (·.update c)) id (CheckEntry.update_row c)
    exact ⟨h.pulls, h.checks ▸ hchecks, hsound⟩
  | appendHistory e =>
    obtain rfl := Except.ok.inj hok
    exact { h with sound := h.sound.appendHistory e }

theorem series {writes : List StoreWrite} (h : l.Fills db)
    (hok : writes.foldlM StoreWrite.run db = .ok db') :
    (writes.foldl Ledger.enter l).Fills db' := by
  induction writes generalizing l db with
  | nil =>
    rw [← Except.ok.inj hok]
    exact h
  | cons w writes ih =>
    rw [List.foldlM_cons, Outcome.bind_eq_ok] at hok
    obtain ⟨s, hs, hok⟩ := hok
    exact ih (h.run hs) hok

variable (h : l.Fills db)

include h

theorem pullRow?_eq (repositoryId : Int) (number : UInt64) :
    db.pullRow? repositoryId number =
      (l.pullEntry? repositoryId number).map fun r => (r.1, r.2.row) := by
  rw [Database.pullRow?, h.pulls, Table.find?_map, Ledger.pullEntry?]
  simp only [PullEntry.isAt_row]

/-- Reading a pull request gives what the ledger says, when the times of its row can be stored. -/
theorem pull?_eq_ok {repositoryId : Int} {number : UInt64} {found : Option StoredPullRequest} :
    db.pull? repositoryId number = .ok found ↔
      (∀ stored ∈ l.pull? repositoryId number, stored.Storable) ∧
        found = l.pull? repositoryId number := by
  rw [Database.pull?_eq, h.pullRow?_eq, Ledger.pull?]
  cases l.pullEntry? repositoryId number with
  | none => simp [eq_comm]
  | some r =>
    simp only [Option.map_some, Outcome.map_eq_ok, PullEntry.decode_row_eq_ok,
      Option.mem_some_iff, forall_eq']
    exact ⟨fun ⟨_, ⟨hstorable, hstored⟩, hfound⟩ => ⟨hstorable, hfound ▸ congrArg some hstored⟩,
      fun ⟨hstorable, hfound⟩ => ⟨_, ⟨hstorable, rfl⟩, hfound.symm⟩⟩

/-- Every row of the ledger is found under its own number. -/
theorem pull?_of_mem (r : Int × PullEntry) (hr : r ∈ l.pulls.rows) :
    l.pull? r.2.repositoryId r.2.first.number = some (r.2.stored r.1) := by
  have hkeyed : l.pulls.Keyed PullEntry.key := by
    refine (h.pulls ▸ h.sound.pulls).of_map fun a b hab => ?_
    obtain ⟨hrepository, hnumber⟩ := Prod.mk.inj hab
    exact Prod.ext hrepository (toInt64_inj.2 hnumber)
  have hentry : l.pullEntry? r.2.repositoryId r.2.first.number = some r :=
    (hkeyed.find?_eq_some_iff (k := r.2.key) fun e => by
      simp [PullEntry.key, Prod.ext_iff]).2 ⟨hr, rfl⟩
  rw [Ledger.pull?, hentry, Option.map_some]

/-- Reading check runs gives what the ledger says, when the times of these rows can be stored. -/
theorem checksOf_eq_ok {pullRequestId : Int} {found : List StoredCheckRun} :
    db.checksOf pullRequestId = .ok found ↔
      (∀ stored ∈ l.checksOf pullRequestId, stored.Storable) ∧
        found = l.checksOf pullRequestId := by
  rw [Database.checksOf, h.checks, Table.select_map, List.mapM_map, Ledger.checksOf]
  exact Outcome.mapM_eq_ok_of_iff fun r stored =>
    CheckEntry.decode_row_eq_ok.trans (and_congr_left' CheckEntry.storable_stored.symm)

end Ledger.Fills

/-- The tables are the ledger, column by column. -/
theorem Written.fills {db : Database} {l : Ledger} (h : Written db l) : l.Fills db := by
  induction h with
  | empty =>
    exact ⟨rfl, rfl, .of_rows_eq_nil rfl rfl⟩
  | register h hok ih =>
    obtain ⟨-, -, rfl⟩ := Database.insertRepository_eq_ok.1 hok
    exact { ih with sound := ih.sound.withRepositories _ }
  | setActive h hok ih =>
    rw [Database.modifyRepository_eq_ok hok]
    exact { ih with sound := ih.sound.withRepositories _ }
  | markPolled h hok ih =>
    rw [Database.modifyRepository_eq_ok hok]
    exact { ih with sound := ih.sound.withRepositories _ }
  | commit h hok ih =>
    exact ih.series (Transaction.series_commit_eq_ok.1 hok).1

/-- Change sets are written by such transactions. -/
theorem Written.synchronize {db db' : Database} {l : Ledger} {faults : Faults} {chunkSize n : Nat}
    {repositoryId : Int} {time : Instant} {changes : ChangeSet} {kind : StoreWrite → Prop}
    (h : Written db l) (hkind : changes.WrittenBy kind repositoryId)
    (hok : PullWatch.synchronize faults chunkSize repositoryId time changes db = .ok (n, db')) :
    ∃ writes : List StoreWrite, (∀ w ∈ writes, kind w) ∧
      Written db' (writes.foldl Ledger.enter l) := by
  obtain ⟨writes, hwrites, hdb⟩ :=
    (Database.LeadsTo.refl.store hkind (synchronize_eq_ok.1 hok).1).exists_series
  have hcommit : (Transaction.series .never writes).commit db = .ok ((), db') :=
    Transaction.series_commit_eq_ok.2 ⟨hdb, .never⟩
  exact ⟨writes, hwrites, h.commit hcommit⟩

/-- The database gives back what the ledger keeps. -/
structure Ledger.ReadFrom (l : Ledger) (db : Database) : Prop where
  /-- Reading a pull request gives what the ledger says, if the times of its own row can be stored.
  Other rows may hold what they like. -/
  pull : ∀ repositoryId number, (∀ stored ∈ l.pull? repositoryId number, stored.Storable) →
    db.pull? repositoryId number = .ok (l.pull? repositoryId number)
  /-- Reading a pull request never gives anything else. -/
  onlyPull : ∀ repositoryId number found, db.pull? repositoryId number = .ok found →
    found = l.pull? repositoryId number
  /-- Every row of the ledger is the one of its number. -/
  entry : ∀ r ∈ l.pulls.rows, l.pull? r.2.repositoryId r.2.first.number = some (r.2.stored r.1)
  /-- Reading the check runs of a pull request gives what the ledger says, if the times of these
  rows can be stored. Other rows may hold what they like. -/
  checks : ∀ pullRequestId, (∀ stored ∈ l.checksOf pullRequestId, stored.Storable) →
    db.checksOf pullRequestId = .ok (l.checksOf pullRequestId)
  /-- Reading check runs never gives anything else. -/
  onlyChecks : ∀ pullRequestId found, db.checksOf pullRequestId = .ok found →
    found = l.checksOf pullRequestId
  /-- The payload is kept, although no operation reads it. -/
  payload : ∀ r ∈ l.pulls.rows, ∃ row, (r.1, row) ∈ db.pulls.rows ∧
    row.rawMetadata = some r.2.last.payload.render
  /-- Records with different numbers do not address one row. -/
  numbers : ∀ id repositoryId number row repositoryId' number' row',
    db.pullRow? repositoryId number = some (id, row) →
      db.pullRow? repositoryId' number' = some (id, row') →
        (repositoryId, number) = (repositoryId', number')
  /-- Records with different external ids do not address one row. -/
  externalIds : ∀ id pullRequestId externalId row pullRequestId' externalId' row',
    db.checkRow? pullRequestId externalId = some (id, row) →
      db.checkRow? pullRequestId' externalId' = some (id, row') →
        (pullRequestId, externalId) = (pullRequestId', externalId')

/-- **Records are read back as they were written.** Whatever was written in committed transactions,
reading a pull request gives the record that was written last, with the number and the time of
creation of the record that was inserted, if the times of that row lie in the years 0 to 9999.
Reading the check runs of a pull request gives the ones that were written last, with the external
ids inserted, if that holds of the times of each of them. No other row matters, and reading never
gives anything else. And a row is addressed by no more than one number, or external id, of 64
bits. -/
theorem written_records_read_back {db : Database} {l : Ledger} (h : Written db l) :
    l.ReadFrom db where
  pull := fun _ _ hstorable => h.fills.pull?_eq_ok.2 ⟨hstorable, rfl⟩
  onlyPull := fun _ _ _ hfound => (h.fills.pull?_eq_ok.1 hfound).2
  entry := h.fills.pull?_of_mem
  checks := fun _ hstorable => h.fills.checksOf_eq_ok.2 ⟨hstorable, rfl⟩
  onlyChecks := fun _ _ hfound => (h.fills.checksOf_eq_ok.1 hfound).2
  payload := by
    intro r hr
    refine ⟨r.2.row, ?_, rfl⟩
    rw [h.fills.pulls]
    exact List.mem_map_of_mem hr
  numbers := fun _ _ _ _ _ _ _ => h.fills.sound.pullRow?_inj
  externalIds := fun _ _ _ _ _ _ _ => h.fills.sound.checkRow?_inj

/-! ### Records beside rows that cannot be read -/

/-- A pull request with the largest number and with a title that needs escapes. -/
def sampleRecord : FetchedPullRequest :=
  { number := 18446744073709551615, title := "say \"no\"\x00", author := "octo", state := .opened
    draft := false, baseBranch := "main", baseSha := "b0", headBranch := "reader", headSha := "h0"
    url := "https://example.org/1", body := none, labels := ["a\"b", ""], assignees := []
    milestone := none, createdAt := .epoch, updatedAt := .epoch, closedAt := none, mergedAt := none
    payload := samplePull }

/-- The same pull request after it was merged. -/
def mergedRecord : FetchedPullRequest :=
  { sampleRecord with
    number := 1, state := .merged, createdAt := laterMoment.time
    mergedAt := some laterMoment.time }

/-- The first second of the year 10000. -/
def yearTenThousand : Instant := (Instant.ofSeconds? 253402300800 0).getD .epoch

/-- A check run without times. -/
def sampleRun : CheckRun :=
  { externalId := 18446744073709551615, name := "build", status := .queued, conclusion := none
    suiteId := none, detailsUrl := none, logsUrl := none, outputTitle := none
    outputSummary := none, outputText := none, startedAt := none, completedAt := none }

/-- A check run that began in the year 10000. -/
def farRun : CheckRun := { sampleRun with externalId := 2, startedAt := some yearTenThousand }

/-- A transaction that adds a pull request with two check runs, of which one cannot be read, and
replaces the pull request. -/
def sampleWrites : List StoreWrite :=
  [.insertPull 1 sampleRecord, .insertCheck 1 sampleRun, .insertCheck 1 farRun,
    .updatePull 1 mergedRecord]

theorem written_sample : Written sampleDatabase {} :=
  .register (r := { owner := "acme", name := "widgets" }) .empty rfl

theorem commit_sample :
    ∃ db, (Transaction.series .never sampleWrites).commit sampleDatabase = .ok ((), db) := ⟨_, rfl⟩

/-- The record written last is read back, under the number and with the time of creation of the
record inserted, although the check runs of the pull request are not. -/
theorem written_records_read_back_sample :
    ∃ db, (Transaction.series .never sampleWrites).commit sampleDatabase = .ok ((), db) ∧
      db.pull? 1 18446744073709551615 =
        .ok (some { mergedRecord.toPullRequest with
          number := 18446744073709551615, createdAt := .epoch, id := 1, repositoryId := 1 }) := by
  obtain ⟨db, hdb⟩ := commit_sample
  have hread := written_records_read_back (written_sample.commit hdb)
  refine ⟨db, hdb, hread.pull 1 18446744073709551615 ?_⟩
  decide +kernel

/-- A transaction that adds a pull request of the year 10000 and replaces it by a record of other
years. -/
def replacingWrites : List StoreWrite :=
  [.insertPull 1 { sampleRecord with createdAt := yearTenThousand }, .updatePull 1 mergedRecord]

/-- Records whose own times can be stored are not always read back: a check run stands beside the
others of its pull request, and a pull request keeps the time of creation that was inserted. -/
theorem not_forall_written_read_back :
    (¬ ∀ db l, Written db l → ∀ r ∈ l.checks.rows, r.2.first.Storable → r.2.last.Storable →
        ∃ found, db.checksOf r.2.pullRequestId = .ok found ∧ r.2.stored r.1 ∈ found) ∧
      ¬ ∀ db l, Written db l → ∀ r ∈ l.pulls.rows, r.2.last.Storable →
        db.pull? r.2.repositoryId r.2.first.number = .ok (some (r.2.stored r.1)) := by
  constructor
  · intro h
    obtain ⟨db, hdb⟩ := commit_sample
    have hwritten := written_sample.commit hdb
    obtain ⟨found, hfound, -⟩ := h _ _ hwritten (1, ⟨1, sampleRun, sampleRun⟩)
      List.mem_cons_self (by decide) (by decide)
    exact absurd (hwritten.fills.checksOf_eq_ok.1 hfound).1 (by decide +kernel)
  · intro h
    obtain ⟨db, hdb⟩ :
        ∃ db, (Transaction.series .never replacingWrites).commit sampleDatabase = .ok ((), db) :=
      ⟨_, rfl⟩
    have hwritten := written_sample.commit hdb
    have hfound := h _ _ hwritten
      (1, ⟨1, { sampleRecord with createdAt := yearTenThousand }, mergedRecord⟩) List.mem_cons_self
      (by decide)
    exact absurd (hwritten.fills.pull?_eq_ok.1 hfound).1 (by decide +kernel)

end PullWatch
