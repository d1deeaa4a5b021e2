import PullWatch.Instant

/-!
# State history

Every change of a pull request's state and of a check run's conclusion leaves an entry that names
the row, the values before and after, and the kind of event that brought the change.
-/

namespace PullWatch

/-- The kind of record that an entry describes. -/
inductive HistorySubject where
  | pullRequest
  | checkRun
  deriving DecidableEq, Repr, Inhabited

namespace HistorySubject

/-- All kinds, in declaration order. -/
def all : List HistorySubject := [pullRequest, checkRun]

/-- The stored name. -/
def name : HistorySubject → String
  | pullRequest => "pull_request"
  | checkRun => "check_run"

/-- The kind of a stored name. -/
def ofName? (s : String) : Option HistorySubject :=
  if s = "pull_request" then some pullRequest
  else if s = "check_run" then some checkRun
  else none

@[simp] theorem ofName?_name (s : HistorySubject) : ofName? s.name = some s := by
  cases s <;> rfl

end HistorySubject

/-- One recorded transition. -/
structure HistoryEntry where
  subject : HistorySubject
  /-- The id of the pull request's or check run's row. -/
  subjectId : Int
  /-- The value before; absent when the record was new. -/
  oldValue : Option String
  newValue : String
  /-- The name of the kind of event that brought the change. -/
  trigger : String
  recordedAt : Instant
  deriving DecidableEq

end PullWatch
