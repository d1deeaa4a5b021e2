import PullWatch.CheckRun
import PullWatch.Database.Error
import PullWatch.History
import PullWatch.Instant.Printer
import PullWatch.Instant.Reader
import PullWatch.Json.Printer
import PullWatch.Json.Reader
import PullWatch.PullRequest
import PullWatch.Repository

/-!
# Rows and their columns

Times are stored as text in strict form, lists of names as JSON arrays, and states under their
names. Numbers of 64 bits without a sign are stored as the numbers with a sign that have the same
bits. Decoding a row reports the first column, in a fixed order, whose text does not decode.

## Main definitions

* `RepositoryRow`, `PullRow`, `CheckRow`, `HistoryRow`: the rows.
* `PullRow.ofRecord`, `PullRow.update`, `PullRow.decode`, and the same for check runs: writing and
  reading rows.
-/

namespace PullWatch

/-- A row of the table of repositories. -/
structure RepositoryRow where
  owner : String
  name : String
  isActive : Bool
  pollingInterval : UInt32
  priority : Int32
  lastPolledAt : Option String
  deriving DecidableEq, Repr

/-- A row of the table of pull requests. -/
structure PullRow where
  repositoryId : Int
  number : Int64
  title : String
  author : String
  state : String
  draft : Bool
  baseBranch : String
  baseSha : String
  headBranch : String
  headSha : String
  url : String
  body : Option String
  labels : String
  assignees : String
  milestone : Option String
  createdAt : String
  lastUpdatedAt : String
  closedAt : Option String
  mergedAt : Option String
  rawMetadata : Option String
  deriving DecidableEq, Repr

/-- A row of the table of check runs. -/
structure CheckRow where
  pullRequestId : Int
  externalId : Int64
  name : String
  status : String
  conclusion : Option String
  suiteId : Option Int64
  detailsUrl : Option String
  logsUrl : Option String
  outputTitle : Option String
  outputSummary : Option String
  outputText : Option String
  startedAt : Option String
  completedAt : Option String
  deriving DecidableEq, Repr

/-- A row of the table of state history. -/
structure HistoryRow where
  subject : String
  subjectId : Int
  oldValue : Option String
  newValue : String
  trigger : String
  recordedAt : String
  deriving DecidableEq, Repr

namespace Column

/-- A column of one table, for messages. -/
structure Place where
  table : String
  column : String

/-- The value of a column, or the report that it does not decode. -/
def decode {α : Type} (place : Place) (read : String → Option α) (text : String) :
    Except StoreError α :=
  match read text with
  | some x => .ok x
  | none => .error (.corrupt place.table place.column text)

/-- The value of a column that may be null. -/
def decode? {α : Type} (place : Place) (read : String → Option α) :
    Option String → Except StoreError (Option α)
  | none => .ok none
  | some text => (decode place read text).map some

/-- A stored time. -/
def time (text : String) : Option Instant := (Instant.parseStrict text).toOption

/-- The written form of a list of names. -/
def listText (names : List String) : String := (Json.list Json.str names).render

/-- A stored list of names. -/
def list (text : String) : Option (List String) := do
  let v ← Json.parse? text
  match v with
  | .arr items => items.mapM fun
    | .str s => some s
    | _ => none
  | _ => none

end Column

namespace RepositoryRow

/-- The row of a new repository. -/
def ofNew (r : NewRepository) : RepositoryRow :=
  { owner := r.owner, name := r.name, isActive := r.isActive
    pollingInterval := r.pollingInterval, priority := r.priority, lastPolledAt := none }

/-- The repository that a row holds. -/
def decode (id : Int) (row : RepositoryRow) : Except StoreError Repository := do
  let lastPolledAt ←
    Column.decode? ⟨"repositories", "last_polled_at"⟩ Column.time row.lastPolledAt
  .ok { id, owner := row.owner, name := row.name, isActive := row.isActive
        pollingInterval := row.pollingInterval, priority := row.priority, lastPolledAt }

end RepositoryRow

namespace PullRow

/-- The table, for messages. -/
def table : String := "pull_requests"

/-- The row with all columns but number and time of creation taken from a record. -/
def update (row : PullRow) (p : FetchedPullRequest) : PullRow :=
  { row with
    title := p.title, author := p.author, state := p.state.name, draft := p.draft
    baseBranch := p.baseBranch, baseSha := p.baseSha
    headBranch := p.headBranch, headSha := p.headSha, url := p.url, body := p.body
    labels := Column.listText p.labels, assignees := Column.listText p.assignees
    milestone := p.milestone, lastUpdatedAt := p.updatedAt.rfc3339
    closedAt := p.closedAt.map Instant.rfc3339, mergedAt := p.mergedAt.map Instant.rfc3339
    rawMetadata := some p.payload.render }

/-- The row of a new record. -/
def ofRecord (repositoryId : Int) (p : FetchedPullRequest) : PullRow :=
  { repositoryId, number := p.number.toInt64
    title := p.title, author := p.author, state := p.state.name, draft := p.draft
    baseBranch := p.baseBranch, baseSha := p.baseSha
    headBranch := p.headBranch, headSha := p.headSha, url := p.url, body := p.body
    labels := Column.listText p.labels, assignees := Column.listText p.assignees
    milestone := p.milestone, createdAt := p.createdAt.rfc3339
    lastUpdatedAt := p.updatedAt.rfc3339
    closedAt := p.closedAt.map Instant.rfc3339, mergedAt := p.mergedAt.map Instant.rfc3339
    rawMetadata := some p.payload.render }

/-- The row belongs to a repository and a number. -/
def isAt (row : PullRow) (repositoryId : Int) (number : UInt64) : Bool :=
  row.repositoryId = repositoryId ∧ row.number = number.toInt64

/-- The pull request that a row holds. -/
def decode (id : Int) (row : PullRow) : Except StoreError StoredPullRequest := do
  let state ← Column.decode ⟨table, "state"⟩ PullState.ofName? row.state
  let labels ← Column.decode ⟨table, "labels"⟩ Column.list row.labels
  let assignees ← Column.decode ⟨table, "assignees"⟩ Column.list row.assignees
  let createdAt ← Column.decode ⟨table, "created_at"⟩ Column.time row.createdAt
  let updatedAt ← Column.decode ⟨table, "last_updated_at"⟩ Column.time row.lastUpdatedAt
  let closedAt ← Column.decode? ⟨table, "closed_at"⟩ Column.time row.closedAt
  let mergedAt ← Column.decode? ⟨table, "merged_at"⟩ Column.time row.mergedAt
  .ok { id, repositoryId := row.repositoryId, number := row.number.toUInt64
        title := row.title, author := row.author, state, draft := row.draft
        baseBranch := row.baseBranch, baseSha := row.baseSha
        headBranch := row.headBranch, headSha := row.headSha, url := row.url, body := row.body
        labels, assignees, milestone := row.milestone, createdAt, updatedAt, closedAt, mergedAt }

end PullRow

namespace CheckRow

/-- The table, for messages. -/
def table : String := "check_runs"

/-- The row with all columns but the external id taken from a record. -/
def update (row : CheckRow) (c : CheckRun) : CheckRow :=
  { row with
    name := c.name, status := c.status.name, conclusion := c.conclusion.map CheckConclusion.name
    suiteId := c.suiteId.map UInt64.toInt64, detailsUrl := c.detailsUrl, logsUrl := c.logsUrl
    outputTitle := c.outputTitle, outputSummary := c.outputSummary, outputText := c.outputText
    startedAt := c.startedAt.map Instant.rfc3339
    completedAt := c.completedAt.map Instant.rfc3339 }

/-- The row of a new record. -/
def ofRecord (pullRequestId : Int) (c : CheckRun) : CheckRow :=
  { pullRequestId, externalId := c.externalId.toInt64
    name := c.name, status := c.status.name, conclusion := c.conclusion.map CheckConclusion.name
    suiteId := c.suiteId.map UInt64.toInt64, detailsUrl := c.detailsUrl, logsUrl := c.logsUrl
    outputTitle := c.outputTitle, outputSummary := c.outputSummary, outputText := c.outputText
    startedAt := c.startedAt.map Instant.rfc3339
    completedAt := c.completedAt.map Instant.rfc3339 }

/-- The row belongs to a pull request's row and an external id. -/
def isAt (row : CheckRow) (pullRequestId : Int) (externalId : UInt64) : Bool :=
  row.pullRequestId = pullRequestId ∧ row.externalId = externalId.toInt64

/-- The check run that a row holds. -/
def decode (id : Int) (row : CheckRow) : Except StoreError StoredCheckRun := do
  let status ← Column.decode ⟨table, "status"⟩ CheckStatus.ofName? row.status
  let conclusion ←
    Column.decode? ⟨table, "conclusion"⟩ CheckConclusion.ofName? row.conclusion
  let startedAt ← Column.decode? ⟨table, "started_at"⟩ Column.time row.startedAt
  let completedAt ← Column.decode? ⟨table, "completed_at"⟩ Column.time row.completedAt
  .ok { id, pullRequestId := row.pullRequestId, externalId := row.externalId.toUInt64
        name := row.name, status, conclusion, suiteId := row.suiteId.map Int64.toUInt64
        detailsUrl := row.detailsUrl, logsUrl := row.logsUrl, outputTitle := row.outputTitle
        outputSummary := row.outputSummary, outputText := row.outputText
        startedAt, completedAt }

end CheckRow

namespace HistoryRow

/-- The table, for messages. -/
def table : String := "state_history"

/-- The row of an entry. -/
def ofEntry (e : HistoryEntry) : HistoryRow :=
  { subject := e.subject.name, subjectId := e.subjectId, oldValue := e.oldValue
    newValue := e.newValue, trigger := e.trigger, recordedAt := e.recordedAt.rfc3339 }

/-- The row belongs to a record. -/
def isAbout (row : HistoryRow) (subject : HistorySubject) (id : Int) : Bool :=
  row.subject = subject.name ∧ row.subjectId = id

/-- The entry that a row holds. -/
def decode (row : HistoryRow) : Except StoreError HistoryEntry := do
  let subject ← Column.decode ⟨table, "subject"⟩ HistorySubject.ofName? row.subject
  let recordedAt ← Column.decode ⟨table, "recorded_at"⟩ Column.time row.recordedAt
  .ok { subject, subjectId := row.subjectId, oldValue := row.oldValue, newValue := row.newValue
        trigger := row.trigger, recordedAt }

end HistoryRow

end PullWatch
