import PullWatch.Processor.Error
import PullWatch.Report.Session

/-!
# Errors as JSON

An error is an object with its kind and its wording. A processor error also names the kind of its
cause and holds what a failed session had gathered.

## Main definitions

* `StoreError.kind`, `StoreError.json`, `ProcessorError.kind`, `ProcessorError.members`.
-/

namespace PullWatch

/-- An error with its wording. -/
def Json.failure (kind message : String) : Json :=
  Json.object [("error", .str kind), ("message", .str message)]

/-- The kind of a database error. -/
def StoreError.kind : StoreError → String
  | createDirectory .. => "CreateDir"
  | openFailed .. => "Open"
  | notADatabase | noSuchTable _ | constraint _ => "Sqlite"
  | unsupportedSchema .. => "UnsupportedSchema"
  | corrupt .. => "Corrupt"
  | rowNotFound .. => "RowNotFound"
  | missingPullRequest .. => "MissingPullRequest"
  | task _ => "Task"

/-- A database error. -/
def StoreError.json (e : StoreError) : Json := Json.failure e.kind e.message

/-- The kind of a processor error. -/
def ProcessorError.kind : ProcessorError → String
  | configuration _ => "Config"
  | limitTooLarge _ => "Panic"
  | unknownRepository _ => "UnknownRepository"
  | store e => "Store." ++ e.kind
  | alreadyRunning => "AlreadyRunning"
  | invalidTransition .. => "InvalidTransition"
  | aborted _ => "Aborted"
  | sessionFailed .. => "SessionFailed"

/-- The members of a processor error, with what a failed session had gathered in the given form. -/
def ProcessorError.members (e : ProcessorError) (gathered : Batch → List (String × Json)) :
    List (String × Json) :=
  [("error", .str e.kind), ("cause", .str e.cause.kind), ("message", .str e.message),
   ("partial", Json.optional (fun b => Json.object (gathered b)) e.gathered?)]

end PullWatch
