import PullWatch.Database

/-!
# Opening a database

A database file records the version of its schema. Opening it runs the statements that lead from
that version to the current one, each of which leaves alone what is there already, and then records
the current version. The statements are not one transaction: a file may have been left after any of
them.

## Main definitions

* `DatabaseFile`: the tables that a file has, and the version that it records.
* `SchemaStatement`, `migration`: the statements, and those that lead on from a version.
* `DatabaseFile.openDatabase`: the database of a file.
* `DatabaseFile.ofDatabase`: the file that holds a database.
-/

namespace PullWatch

/-- A database file. Tables may be absent, and so may the record of the version. -/
structure DatabaseFile where
  version : Option Int := none
  repositories : Option (Table RepositoryRow) := none
  pulls : Option (Table PullRow) := none
  checks : Option (Table CheckRow) := none
  history : Option (Table HistoryRow) := none

/-- The version that this library reads and writes. -/
def currentVersion : Int := 2

/-- The statements of the schema. -/
inductive SchemaStatement where
  | createRepositories
  | createPulls
  | createChecks
  | createHistory
  | recordVersion
  deriving DecidableEq, Repr

/-- What a statement does to a file. A table that is there already is kept. -/
def SchemaStatement.run (file : DatabaseFile) : SchemaStatement → DatabaseFile
  | createRepositories => { file with repositories := some (file.repositories.getD {}) }
  | createPulls => { file with pulls := some (file.pulls.getD {}) }
  | createChecks => { file with checks := some (file.checks.getD {}) }
  | createHistory => { file with history := some (file.history.getD {}) }
  | recordVersion => { file with version := some currentVersion }

/-- The statements that lead from a version to the current one. -/
def migration (version : Int) : List SchemaStatement :=
  if currentVersion ≤ version then []
  else
    (if version < 1 then [.createRepositories, .createPulls, .createChecks] else [])
      ++ (if version < 2 then [.createHistory] else []) ++ [.recordVersion]

namespace DatabaseFile

/-- A file without tables. -/
def empty : DatabaseFile := {}

/-- The version that counts: a file that records none is older than all versions. -/
def effectiveVersion (file : DatabaseFile) : Int := file.version.getD 0

/-- The file after the statements that opening it runs. -/
def migrate (file : DatabaseFile) : Except StoreError DatabaseFile :=
  if currentVersion < file.effectiveVersion then
    .error (.unsupportedSchema file.effectiveVersion currentVersion)
  else .ok ((migration file.effectiveVersion).foldl SchemaStatement.run file)

/-- The database that the tables of a file make up. -/
def database (file : DatabaseFile) : Except StoreError Database :=
  match file.repositories, file.pulls, file.checks, file.history with
  | some repositories, some pulls, some checks, some history =>
    .ok { repositories, pulls, checks, history }
  | none, _, _, _ => .error (.noSuchTable "repositories")
  | _, none, _, _ => .error (.noSuchTable PullRow.table)
  | _, _, none, _ => .error (.noSuchTable CheckRow.table)
  | _, _, _, none => .error (.noSuchTable HistoryRow.table)

/-- Opens a file: brings it to the current version and takes its tables. -/
def openDatabase (file : DatabaseFile) : Except StoreError Database := do
  let migrated ← file.migrate
  migrated.database

/-- The file that holds a database. -/
def ofDatabase (db : Database) : DatabaseFile :=
  { version := some currentVersion, repositories := some db.repositories, pulls := some db.pulls
    checks := some db.checks, history := some db.history }

end DatabaseFile

end PullWatch
