import PullWatch.Change.Detection
import PullWatch.Database.Row
import PullWatch.Database.Table

/-!
# The database

The database is a value: four tables of rows. Owner and name of a repository, number of a pull
request within its repository, and external id of a check run within its pull request are unique,
and every pull request and check run refers to an existing row. Operations that would break these
rules fail and leave the database as it is.

## Main definitions

* `Database`: the tables.
* `Database.repository?`, `Database.activeRepositories`, `Database.needingPoll`, `Database.pull?`,
  `Database.checksOf`, `Database.entries`: reads, which decode rows.
* `Database.insertRepository`, `Database.setActive`, `Database.markPolled`: writes to repositories.
* `Database.insertPull`, `Database.updatePull`, `Database.insertCheck`, `Database.updateCheck`,
  `Database.appendHistory`: the writes that transactions are made of.
-/

namespace PullWatch

/-- The tables of the database. -/
structure Database where
  repositories : Table RepositoryRow := {}
  pulls : Table PullRow := {}
  checks : Table CheckRow := {}
  history : Table HistoryRow := {}

namespace Database

/-- The database without rows. -/
def empty : Database := {}

/-! ### Reads -/

/-- The repository of an id. -/
def repository? (db : Database) (id : Int) : Except StoreError (Option Repository) :=
  match db.repositories.get? id with
  | none => .ok none
  | some row => (row.decode id).map some

/-- The monitored repositories in the order of their ids. -/
def activeRepositories (db : Database) : Except StoreError (List Repository) :=
  (db.repositories.select fun row => row.isActive).mapM fun r => r.2.decode r.1

/-- The monitored repositories that are due, most urgent first. -/
def needingPoll (db : Database) (now : Instant) : Except StoreError (List Repository) :=
  db.activeRepositories.map fun active => Repository.needingPoll active now

/-- The id of the row of a pull request. -/
def pullId? (db : Database) (repositoryId : Int) (number : UInt64) : Option Int :=
  (db.pulls.find? fun row => row.isAt repositoryId number).map (·.1)

/-- The stored pull request of a repository and a number. -/
def pull? (db : Database) (repositoryId : Int) (number : UInt64) :
    Except StoreError (Option StoredPullRequest) :=
  match db.pulls.find? fun row => row.isAt repositoryId number with
  | none => .ok none
  | some (id, row) => (row.decode id).map some

/-- The stored check runs of a pull request's row in the order of their ids. -/
def checksOf (db : Database) (pullRequestId : Int) : Except StoreError (List StoredCheckRun) :=
  (db.checks.select fun row => row.pullRequestId = pullRequestId).mapM fun r => r.2.decode r.1

/-- The history of a record, oldest entry first. -/
def entries (db : Database) (subject : HistorySubject) (id : Int) :
    Except StoreError (List HistoryEntry) :=
  (db.history.select fun row => row.isAbout subject id).mapM fun r => r.2.decode

/-- The stored state of one repository, as change detection reads it. -/
def view (db : Database) (repositoryId : Int) : StoredView StoreError :=
  { pull? := db.pull? repositoryId, checks := fun stored => db.checksOf stored.id }

/-! ### Writes to repositories -/

/-- Registers a repository. -/
def insertRepository (db : Database) (r : NewRepository) : Except StoreError (Int × Database) :=
  if db.repositories.any fun row => row.owner = r.owner ∧ row.name = r.name then
    .error (.constraint (.unique "repositories" ["owner", "name"]))
  else
    let (id, repositories) := db.repositories.insert (.ofNew r)
    .ok (id, { db with repositories })

/-- Changes the row of a repository. -/
def modifyRepository (db : Database) (id : Int) (change : RepositoryRow → RepositoryRow) :
    Except StoreError Database :=
  match db.repositories.modify? id change with
  | some repositories => .ok { db with repositories }
  | none => .error (.rowNotFound .repository id)

/-- Starts or ends the monitoring of a repository. -/
def setActive (db : Database) (id : Int) (isActive : Bool) : Except StoreError Database :=
  db.modifyRepository id fun row => { row with isActive }

/-- Records when a repository was polled. -/
def markPolled (db : Database) (id : Int) (time : Instant) : Except StoreError Database :=
  db.modifyRepository id fun row => { row with lastPolledAt := some time.rfc3339 }

/-! ### Writes of transactions -/

/-- Adds a pull request. -/
def insertPull (db : Database) (repositoryId : Int) (p : FetchedPullRequest) :
    Except StoreError (Int × Database) :=
  if db.pulls.any fun row => row.isAt repositoryId p.number then
    .error (.constraint (.unique "pull_requests" ["repository_id", "number"]))
  else if ¬ db.repositories.hasId repositoryId then .error (.constraint .foreignKey)
  else
    let (id, pulls) := db.pulls.insert (.ofRecord repositoryId p)
    .ok (id, { db with pulls })

/-- Replaces a pull request, except for its number and its time of creation. -/
def updatePull (db : Database) (id : Int) (p : FetchedPullRequest) : Except StoreError Database :=
  match db.pulls.modify? id fun row => row.update p with
  | some pulls => .ok { db with pulls }
  | none => .error (.rowNotFound .pullRequest id)

/-- Adds a check run. -/
def insertCheck (db : Database) (pullRequestId : Int) (c : CheckRun) :
    Except StoreError (Int × Database) :=
  if db.checks.any fun row => row.isAt pullRequestId c.externalId then
    .error (.constraint (.unique "check_runs" ["pull_request_id", "external_id"]))
  else if ¬ db.pulls.hasId pullRequestId then .error (.constraint .foreignKey)
  else
    let (id, checks) := db.checks.insert (.ofRecord pullRequestId c)
    .ok (id, { db with checks })

/-- Replaces a check run, except for its external id. -/
def updateCheck (db : Database) (id : Int) (c : CheckRun) : Except StoreError Database :=
  match db.checks.modify? id fun row => row.update c with
  | some checks => .ok { db with checks }
  | none => .error (.rowNotFound .checkRun id)

/-- Adds an entry to the history. -/
def appendHistory (db : Database) (e : HistoryEntry) : Database :=
  { db with history := (db.history.insert (.ofEntry e)).2 }

end Database

end PullWatch
