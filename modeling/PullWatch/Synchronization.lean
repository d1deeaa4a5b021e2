import PullWatch.Chunks
import PullWatch.Database.Transaction

/-!
# Writing change sets

All changes of one pass over a repository are written in one transaction: new pull requests first,
so that new check runs find the rows they belong to, then updated pull requests, new check runs and
updated check runs. Every change of a pull request's state and of a check run's conclusion leaves an
entry in the history. The parts of a change set are written in chunks.

## Main definitions

* `writePull`, `overwritePull`, `writeCheck`, `overwriteCheck`: the writes of one change.
* `applyChanges`: the writes of a change set.
* `synchronize`: the number of rows written and the database after the transaction.
* `RolledBack`: the failure of a transaction, for messages.
-/

namespace PullWatch

/-- The value that an attribute had before, as the history writes it. -/
def formerValue (event : Event) (field : ChangedField) : Option String :=
  match event.oldValue? field with
  | none | some .absent => none
  | some value => some value.written

/-- The value that an attribute has now, as the history writes it. -/
def presentValue (event : Event) (field : ChangedField) : String :=
  match event.diffs.find? fun d => d.field = field with
  | some d => d.new.written
  | none => FieldValue.absent.written

/-- Adds a new pull request, and its state to the history. -/
def writePull (faults : Faults) (repositoryId : Int) (time : Instant) (c : PullChange) :
    Transaction Nat := do
  let id ← Transaction.insertPull faults repositoryId c.record
  Transaction.appendHistory faults
    { subject := .pullRequest, subjectId := id, oldValue := none
      newValue := c.record.state.name, trigger := c.event.kind.name, recordedAt := time }
  pure 1

/-- Replaces a pull request; a change of state goes to the history. -/
def overwritePull (faults : Faults) (time : Instant) (c : PullChange) : Transaction Nat :=
  match c.existingId with
  | none => pure 0
  | some id => do
    Transaction.updatePull faults id c.record
    if c.event.kind = .pullStateChanged then
      Transaction.appendHistory faults
        { subject := .pullRequest, subjectId := id
          oldValue := formerValue c.event (.pull .state)
          newValue := c.record.state.name, trigger := c.event.kind.name, recordedAt := time }
    pure 1

/-- Adds a new check run to its pull request; a conclusion goes to the history. -/
def writeCheck (faults : Faults) (repositoryId : Int) (time : Instant) (c : CheckChange) :
    Transaction Nat := do
  match ← Transaction.pullId? repositoryId c.pullNumber with
  | none => throw (.missingPullRequest repositoryId c.pullNumber)
  | some pullRequestId =>
    let id ← Transaction.insertCheck faults pullRequestId c.record
    match c.record.conclusion with
    | none => pure 1
    | some conclusion =>
      Transaction.appendHistory faults
        { subject := .checkRun, subjectId := id, oldValue := none
          newValue := conclusion.name, trigger := c.event.kind.name, recordedAt := time }
      pure 1

/-- Replaces a check run; a change of conclusion goes to the history. -/
def overwriteCheck (faults : Faults) (time : Instant) (c : CheckChange) : Transaction Nat :=
  match c.existingId with
  | none => pure 0
  | some id => do
    Transaction.updateCheck faults id c.record
    if c.event.changes (.check .conclusion) then
      Transaction.appendHistory faults
        { subject := .checkRun, subjectId := id
          oldValue := formerValue c.event (.check .conclusion)
          newValue := presentValue c.event (.check .conclusion)
          trigger := c.event.kind.name, recordedAt := time }
    pure 1

/-- Writes changes chunk by chunk and adds the number of rows written to a count. -/
def applyPart {α : Type} (chunkSize : Nat) (step : α → Transaction Nat) (changes : List α)
    (count : Nat) : Transaction Nat :=
  (chunks chunkSize changes).foldlM
    (fun count chunk => chunk.foldlM (fun count c => do pure (count + (← step c))) count) count

/-- The writes of a change set; the result is the number of rows written. -/
def applyChanges (faults : Faults) (chunkSize : Nat) (repositoryId : Int) (time : Instant)
    (changes : ChangeSet) : Transaction Nat := do
  let count ← applyPart chunkSize (writePull faults repositoryId time) changes.newPulls 0
  let count ← applyPart chunkSize (overwritePull faults time) changes.updatedPulls count
  let count ← applyPart chunkSize (writeCheck faults repositoryId time) changes.newChecks count
  applyPart chunkSize (overwriteCheck faults time) changes.updatedChecks count

/-- Writes a change set in one transaction. An empty one does not touch the database. -/
def synchronize (faults : Faults) (chunkSize : Nat) (repositoryId : Int) (time : Instant)
    (changes : ChangeSet) (db : Database) : Except StoreError (Nat × Database) :=
  if changes.hasChanges then
    (applyChanges (faults.about repositoryId) chunkSize repositoryId time changes).commit db
  else .ok (0, db)

/-- A change set could not be written. -/
structure RolledBack where
  repositoryId : Int
  cause : StoreError

/-- The wording of the failure. -/
def RolledBack.message (r : RolledBack) : String :=
  "Synchronization of repository " ++ toString r.repositoryId ++ " rolled back: "
    ++ r.cause.message

/-- The wording of a failed read during detection. -/
def DetectionFailure.message (f : DetectionFailure StoreError) : String :=
  "Failed to load stored state for PR #" ++ toString f.pullNumber ++ ": " ++ f.cause.message

end PullWatch
