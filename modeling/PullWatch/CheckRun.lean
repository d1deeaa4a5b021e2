import PullWatch.Instant

/-!
# Check runs

## Main definitions

* `CheckStatus` and `CheckConclusion`: how far a check run has come and how it ended, with their
  stored names and the further names that the service uses.
* `CheckRun` and `StoredCheckRun`: a check run, and one that the database holds.
-/

namespace PullWatch

/-- How far a check run has come. -/
inductive CheckStatus where
  | queued
  | inProgress
  | completed
  | cancelled
  deriving DecidableEq, Repr, Inhabited

namespace CheckStatus

/-- All statuses, in declaration order. -/
def all : List CheckStatus := [queued, inProgress, completed, cancelled]

/-- The stored name. -/
def name : CheckStatus → String
  | queued => "queued"
  | inProgress => "in_progress"
  | completed => "completed"
  | cancelled => "cancelled"

/-- The status of a name; the service's waiting states count as queued. -/
def ofName? (s : String) : Option CheckStatus :=
  if s = "queued" ∨ s = "waiting" ∨ s = "requested" ∨ s = "pending" then some queued
  else if s = "in_progress" then some inProgress
  else if s = "completed" then some completed
  else if s = "cancelled" then some cancelled
  else none

@[simp] theorem ofName?_name (s : CheckStatus) : ofName? s.name = some s := by
  cases s <;> rfl

end CheckStatus

/-- How a completed check run ended. -/
inductive CheckConclusion where
  | success
  | failure
  | neutral
  | cancelled
  | timedOut
  | actionRequired
  deriving DecidableEq, Repr, Inhabited

namespace CheckConclusion

/-- All conclusions, in declaration order. -/
def all : List CheckConclusion :=
  [success, failure, neutral, cancelled, timedOut, actionRequired]

/-- The stored name. -/
def name : CheckConclusion → String
  | success => "success"
  | failure => "failure"
  | neutral => "neutral"
  | cancelled => "cancelled"
  | timedOut => "timed_out"
  | actionRequired => "action_required"

/-- The conclusion of a name; skipped and stale runs count as neutral. -/
def ofName? (s : String) : Option CheckConclusion :=
  if s = "success" then some success
  else if s = "failure" then some failure
  else if s = "neutral" ∨ s = "skipped" ∨ s = "stale" then some neutral
  else if s = "cancelled" then some cancelled
  else if s = "timed_out" then some timedOut
  else if s = "action_required" then some actionRequired
  else none

/-- The conclusion stands for a broken build. -/
def isFailure : CheckConclusion → Bool
  | failure | timedOut => true
  | success | neutral | cancelled | actionRequired => false

@[simp] theorem ofName?_name (c : CheckConclusion) : ofName? c.name = some c := by
  cases c <;> rfl

end CheckConclusion

/-- The attributes of a check run. -/
structure CheckRun where
  /-- The service's id of the run. -/
  externalId : UInt64
  /-- The name of the check, such as `build`. -/
  name : String
  status : CheckStatus
  conclusion : Option CheckConclusion
  /-- The service's id of the suite that the run belongs to. -/
  suiteId : Option UInt64
  detailsUrl : Option String
  logsUrl : Option String
  outputTitle : Option String
  outputSummary : Option String
  outputText : Option String
  startedAt : Option Instant
  completedAt : Option Instant
  deriving DecidableEq

/-- A check run as the database holds it. -/
structure StoredCheckRun extends CheckRun where
  /-- The row's id. -/
  id : Int
  /-- The id of the pull request's row. -/
  pullRequestId : Int
  deriving DecidableEq

end PullWatch
