import PullWatch.Database

/-!
# Transactions

A transaction is a series of writes to a working copy of the database. Each write may read what
earlier ones wrote. When one of them fails the working copy is given up, so the database stays as it
was before the first.

Operations can be made to fail from outside: a fault plan names the errors that strike, by the write
of a transaction, by the repository or by the pull request. Looking up a row is no write.

## Main definitions

* `Faults`: which operations fail, and how.
* `Transaction`: a series of writes with a result.
* `Transaction.commit`: the result and the database after all writes.
-/

namespace PullWatch

/-- Errors that strike database operations from outside, each by the call that it strikes. Left out
are failures that come and go: a row or a table that is read again in the same call of the program
is struck again, and all transactions about one repository meet the same faults. So is a failure of
the commit itself, which leaves the database as a failed write does. -/
structure Faults where
  /-- The error of the n-th write of every transaction, counted from 1, unless `writeAbout` says
  otherwise. -/
  write : Nat → Option StoreError := fun _ => none
  /-- The error of the n-th write of the transaction about a repository. -/
  writeAbout : Int → Nat → Option StoreError := fun _ => write
  /-- The error of recording a poll of a repository, when this many of its polls were recorded, or
  refused, before in the same session. -/
  mark : Int → Nat → Option StoreError := fun _ _ => none
  /-- The error of reading a repository. -/
  repository : Int → Option StoreError := fun _ => none
  /-- The error of reading the monitored repositories. -/
  active : Option StoreError := none
  /-- The error of reading the stored pull request of a repository with a number. -/
  pull : Int → UInt64 → Option StoreError := fun _ _ => none
  /-- The error of reading the stored check runs of that pull request. -/
  checks : Int → UInt64 → Option StoreError := fun _ _ => none

namespace Faults

/-- An error that is given alone strikes every call. -/
instance {ι : Type} : Coe (Option StoreError) (ι → Option StoreError) := ⟨fun fault _ => fault⟩

instance {ι κ : Type} : Coe (Option StoreError) (ι → κ → Option StoreError) :=
  ⟨fun fault _ _ => fault⟩

/-- No operation fails. -/
def never : Faults := {}

/-- The faults that the transaction about a repository meets. -/
def about (faults : Faults) (repositoryId : Int) : Faults :=
  { faults with write := faults.writeAbout repositoryId }

/-- An operation that fails with an error, if there is one. -/
def strike {α : Type} (fault : Option StoreError) (result : Except StoreError α) :
    Except StoreError α :=
  match fault with
  | some e => .error e
  | none => result

end Faults

/-- The stored state of one repository, as change detection reads it under a fault plan. -/
def Database.viewUnder (db : Database) (faults : Faults) (repositoryId : Int) :
    StoredView StoreError :=
  { pull? := fun number =>
      Faults.strike (faults.pull repositoryId number) (db.pull? repositoryId number)
    checks := fun stored =>
      Faults.strike (faults.checks repositoryId stored.number) (db.checksOf stored.id) }

/-- The working copy of a transaction and the number of writes begun. -/
structure WorkingCopy where
  db : Database
  writes : Nat := 0

/-- A series of writes with a result. -/
abbrev Transaction (α : Type) := StateT WorkingCopy (Except StoreError) α

namespace Transaction

/-- One write, unless the fault plan strikes it. -/
def write {α : Type} (faults : Faults) (change : Database → Except StoreError (α × Database)) :
    Transaction α := fun copy => do
  let writes := copy.writes + 1
  let (result, db) ← Faults.strike (faults.write writes) (change copy.db)
  .ok (result, { db, writes })

/-- One write without a result. -/
def write_ (faults : Faults) (change : Database → Except StoreError Database) :
    Transaction Unit :=
  write faults fun db => (change db).map fun db => ((), db)

/-- A look at the working copy. -/
def look {α : Type} (read : Database → Except StoreError α) : Transaction α := fun copy => do
  let result ← read copy.db
  .ok (result, copy)

/-- Adds a pull request; the result is the id of its row. -/
def insertPull (faults : Faults) (repositoryId : Int) (p : FetchedPullRequest) : Transaction Int :=
  write faults fun db => db.insertPull repositoryId p

/-- Replaces a pull request. -/
def updatePull (faults : Faults) (id : Int) (p : FetchedPullRequest) : Transaction Unit :=
  write_ faults fun db => db.updatePull id p

/-- Adds a check run; the result is the id of its row. -/
def insertCheck (faults : Faults) (pullRequestId : Int) (c : CheckRun) : Transaction Int :=
  write faults fun db => db.insertCheck pullRequestId c

/-- Replaces a check run. -/
def updateCheck (faults : Faults) (id : Int) (c : CheckRun) : Transaction Unit :=
  write_ faults fun db => db.updateCheck id c

/-- Adds an entry to the history. -/
def appendHistory (faults : Faults) (e : HistoryEntry) : Transaction Unit :=
  write_ faults fun db => .ok (db.appendHistory e)

/-- The id of the row of a pull request. -/
def pullId? (repositoryId : Int) (number : UInt64) : Transaction (Option Int) :=
  look fun db => .ok (db.pullId? repositoryId number)

/-- The result of a transaction and the database after it. -/
def commit {α : Type} (work : Transaction α) (db : Database) : Except StoreError (α × Database) :=
  (work { db }).map fun r => (r.1, r.2.db)

end Transaction

end PullWatch
