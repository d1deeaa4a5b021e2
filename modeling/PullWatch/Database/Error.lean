/-!
# Database errors

## Main definitions

* `StoreError`: why a database operation failed, and `StoreError.message`, its wording.
-/

namespace PullWatch

/-- The record kinds that updates look for by id. -/
inductive RowKind where
  | repository
  | pullRequest
  | checkRun
  deriving DecidableEq, Repr

/-- The wording of a record kind. -/
def RowKind.description : RowKind → String
  | repository => "repository"
  | pullRequest => "pull request"
  | checkRun => "check run"

/-- A rule of the schema that a statement would break. -/
inductive Constraint where
  /-- Some columns of a table have distinct values in distinct rows. -/
  | unique (table : String) (columns : List String)
  /-- A row refers to an existing row of another table. -/
  | foreignKey
  /-- A column is never null. -/
  | notNull (table column : String)
  deriving DecidableEq, Repr

/-- The wording of a broken rule. -/
def Constraint.description : Constraint → String
  | unique table columns =>
    "UNIQUE constraint failed: "
      ++ String.intercalate ", " (columns.map fun c => table ++ "." ++ c)
  | foreignKey => "FOREIGN KEY constraint failed"
  | notNull table column => "NOT NULL constraint failed: " ++ table ++ "." ++ column

/-- Why a database operation failed. -/
inductive StoreError where
  /-- The directory of the database could not be created. -/
  | createDirectory (path reason : String)
  /-- The database could not be opened or created. -/
  | openFailed (path reason : String)
  /-- The file holds something else than a database. -/
  | notADatabase
  /-- The file has the current version, and a table is absent. -/
  | noSuchTable (table : String)
  /-- The database was written by a newer release. -/
  | unsupportedSchema (found supported : Int)
  /-- A statement would break a rule of the schema. -/
  | constraint (broken : Constraint)
  /-- A stored value could not be decoded. -/
  | corrupt (table column value : String)
  /-- The row to update does not exist. -/
  | rowNotFound (kind : RowKind) (id : Int)
  /-- The pull request of a new check run is not stored. -/
  | missingPullRequest (repositoryId : Int) (number : UInt64)
  /-- The operation was broken off from outside. -/
  | task (reason : String)
  deriving DecidableEq, Repr

/-- The wording of an error. -/
def StoreError.message : StoreError → String
  | createDirectory path reason =>
    "Failed to create database directory '" ++ path ++ "': " ++ reason
  | openFailed path reason => "Failed to open database '" ++ path ++ "': " ++ reason
  | notADatabase => "Database error: file is not a database"
  | noSuchTable table => "Database error: no such table: " ++ table
  | unsupportedSchema found supported =>
    "Database schema version " ++ toString found ++ " is newer than supported version "
      ++ toString supported
  | constraint broken => "Database error: " ++ broken.description
  | corrupt table column value =>
    "Corrupt value in " ++ table ++ "." ++ column ++ ": '" ++ value ++ "'"
  | rowNotFound kind id => kind.description ++ " with id " ++ toString id ++ " does not exist"
  | missingPullRequest repositoryId number =>
    "Pull request #" ++ toString number ++ " is not stored for repository " ++ toString repositoryId
  | task reason => "Database task failed: " ++ reason

end PullWatch
