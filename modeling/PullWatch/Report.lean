import PullWatch.Change.Event
import PullWatch.CheckRun
import PullWatch.History
import PullWatch.Problem
import PullWatch.Repository
import PullWatch.Session

/-!
# Records as JSON

Records, events and problems are handed to other programs as JSON objects. Times end in `Z`, states
and kinds appear under their names, and an absent value is null.

## Main definitions

* `FetchedPullRequest.json`, `StoredPullRequest.json`, `CheckRun.json`, `StoredCheckRun.json`,
  `Repository.json`, `RepositoryContext.json`, `HistoryEntry.json`: records.
* `Event.json`: events, with their snapshots and differences.
* `Problem.json`: problems.
-/

namespace PullWatch

namespace Json

/-- A time. -/
def ofTime (t : Instant) : Json := .str t.zulu

/-- A natural number of 64 bits. -/
def ofWord (n : UInt64) : Json := .int n.toNat

/-- A list of texts. -/
def ofTexts (xs : List String) : Json := list .str xs

end Json

/-- A name in capital letters. -/
def capitals (name : String) : String := name.map Char.toUpper

/-- The members of a pull request, with its last update under a given name. -/
def PullRequest.members (p : PullRequest) (updated : String) : List (String × Json) :=
  [("number", .ofWord p.number), ("title", .str p.title), ("author", .str p.author),
   ("state", .str p.state.name), ("draft", .bool p.draft), ("base_branch", .str p.baseBranch),
   ("base_sha", .str p.baseSha), ("head_branch", .str p.headBranch), ("head_sha", .str p.headSha),
   ("url", .str p.url), ("body", Json.optional .str p.body), ("labels", .ofTexts p.labels),
   ("assignees", .ofTexts p.assignees), ("milestone", Json.optional .str p.milestone),
   ("created_at", .ofTime p.createdAt), (updated, .ofTime p.updatedAt),
   ("closed_at", Json.optional .ofTime p.closedAt), ("merged_at", Json.optional .ofTime p.mergedAt)]

/-- A discovered pull request, without its payload. -/
def FetchedPullRequest.json (p : FetchedPullRequest) : Json :=
  Json.object (p.toPullRequest.members "updated_at")

/-- A stored pull request. -/
def StoredPullRequest.json (p : StoredPullRequest) : Json :=
  Json.object (("id", .int p.id) :: ("repository_id", .int p.repositoryId)
    :: p.toPullRequest.members "last_updated_at")

/-- The members of a check run. -/
def CheckRun.members (c : CheckRun) : List (String × Json) :=
  [("external_id", .ofWord c.externalId), ("name", .str c.name), ("status", .str c.status.name),
   ("conclusion", Json.optional (fun x => .str x.name) c.conclusion),
   ("check_suite_id", Json.optional .ofWord c.suiteId),
   ("details_url", Json.optional .str c.detailsUrl), ("logs_url", Json.optional .str c.logsUrl),
   ("output_title", Json.optional .str c.outputTitle),
   ("output_summary", Json.optional .str c.outputSummary),
   ("output_text", Json.optional .str c.outputText),
   ("started_at", Json.optional .ofTime c.startedAt),
   ("completed_at", Json.optional .ofTime c.completedAt)]

/-- A check run. -/
def CheckRun.json (c : CheckRun) : Json := Json.object c.members

/-- A stored check run. -/
def StoredCheckRun.json (c : StoredCheckRun) : Json :=
  Json.object (("id", .int c.id) :: ("pull_request_id", .int c.pullRequestId)
    :: c.toCheckRun.members)

/-- A repository. -/
def Repository.json (r : Repository) : Json :=
  Json.object
    [("id", .int r.id), ("owner", .str r.owner), ("name", .str r.name),
     ("is_active", .bool r.isActive), ("polling_interval_minutes", .nat r.pollingInterval.toNat),
     ("priority", .int r.priority.toInt),
     ("last_polled_at", Json.optional .ofTime r.lastPolledAt)]

/-- The context of a repository. -/
def RepositoryContext.json (r : RepositoryContext) : Json :=
  Json.object
    [("id", .int r.id), ("owner", .str r.owner), ("name", .str r.name),
     ("full_name", .str r.fullName), ("last_updated_at", Json.optional .ofTime r.lastUpdatedAt),
     ("priority", .int r.priority.toInt)]

/-- A history entry. -/
def HistoryEntry.json (e : HistoryEntry) : Json :=
  Json.object
    [("subject", .str e.subject.name), ("subject_id", .int e.subjectId),
     ("old_value", Json.optional .str e.oldValue), ("new_value", .str e.newValue),
     ("trigger", .str e.trigger), ("recorded_at", .ofTime e.recordedAt)]

/-- A value of an attribute. -/
def FieldValue.json : FieldValue → Json
  | absent => .null
  | text s => .str s
  | flag b => .bool b
  | time t => .ofTime t
  | state s => .str s.name
  | status s => .str s.name
  | conclusion c => .str c.name

/-- A difference. -/
def FieldDiff.json (d : FieldDiff) : Json :=
  Json.object [("field", .str d.field.name), ("old", d.old.json), ("new", d.new.json)]

/-- The compared attributes of a pull request. -/
def PullSnapshot.json (s : PullSnapshot) : Json :=
  Json.object (PullField.compared.map fun f => (f.name, (s.value f).json))

/-- The compared attributes of a check run. -/
def CheckSnapshot.json (s : CheckSnapshot) : Json :=
  Json.object (CheckField.compared.map fun f => (f.name, (s.value f).json))

/-- What an event is about. -/
def Subject.json : Subject → Json
  | pullRequest number old new =>
    Json.object
      [("subject", .str HistorySubject.pullRequest.name), ("number", .ofWord number),
       ("old", Json.optional PullSnapshot.json old), ("new", new.json)]
  | checkRun externalId old new =>
    Json.object
      [("subject", .str HistorySubject.checkRun.name), ("external_id", .ofWord externalId),
       ("old", Json.optional CheckSnapshot.json old), ("new", new.json)]

/-- The members of an event. -/
def Event.members (e : Event) : List (String × Json) :=
  [("event_type", .str (capitals e.kind.name)), ("severity", .str (capitals e.severity.name)),
   ("diffs", Json.list FieldDiff.json e.diffs), ("subject", e.subject.json)]

/-- An event. -/
def Event.json (e : Event) : Json := Json.object e.members

/-- The members of a problem. -/
def Problem.members (p : Problem) : List (String × Json) :=
  [("kind", .str p.kind.name), ("message", .str p.message),
   ("context", Json.object (p.context.map fun e => (e.1, .str e.2)))]

/-- A problem. -/
def Problem.json (p : Problem) : Json := Json.object p.members

end PullWatch
