import PullWatch.Number.Binary64
import PullWatch.Session.Phase
import PullWatch.Session.Result

/-!
# Sessions

A session is one run over a set of repositories. It records its phases and sums up the results for
the repositories.

## Main definitions

* `Session`: phase, transitions, counters, problems and warnings.
* `Session.enter?`: the session in its next phase, if the phases allow it.
* `Session.record`: the session with one more result.
* `SuccessRate`: the share of repositories that were processed with success.
* `Batch`: a session with the results for its repositories.
* `Status`: what an observer sees of a processor.
-/

namespace PullWatch

/-- A recorded change of phase. -/
structure Transition where
  source : Phase
  target : Phase
  time : Instant
  deriving DecidableEq

/-- One run over a set of repositories. -/
structure Session where
  mode : Mode
  phase : Phase := .initialization
  startedAt : Instant
  finishedAt : Option Instant := none
  transitions : List Transition := []
  totalRepositories : Nat := 0
  repositoriesProcessed : Nat := 0
  repositoriesSucceeded : Nat := 0
  repositoriesFailed : Nat := 0
  pullsDiscovered : Nat := 0
  checksDiscovered : Nat := 0
  changesDetected : Nat := 0
  changesSynchronized : Nat := 0
  actionableEvents : Nat := 0
  /-- Problems of the session itself, not of single repositories. -/
  problems : List Problem := []
  warnings : List String := []
  /-- The session failed and was cleaned up. -/
  recoveryAttempted : Bool := false

/-- A number of successes out of a number of trials. -/
structure SuccessRate where
  succeeded : Nat
  processed : Nat
  deriving DecidableEq, Repr

namespace SuccessRate

/-- The rate as a number; it is one when nothing was tried. -/
def value (r : SuccessRate) : Binary64 :=
  if r.processed = 0 then .ofRatio false 1 1 else .ofRatio false r.succeeded r.processed

end SuccessRate

namespace Session

/-- A session at its beginning. -/
def start (mode : Mode) (time : Instant) : Session := { mode, startedAt := time }

/-- The session in another phase. Absent when it may not move there. -/
def enter? (s : Session) (next : Phase) (time : Instant) : Option Session :=
  if s.phase.mayMoveTo next then
    some { s with
      phase := next
      transitions := s.transitions ++ [{ source := s.phase, target := next, time }]
      finishedAt := if next.isTerminal then some time else s.finishedAt }
  else none

/-- The session with the figures of one more result. -/
def record (s : Session) (r : RepositoryResult) : Session :=
  { s with
    repositoriesProcessed := s.repositoriesProcessed + 1
    repositoriesSucceeded := s.repositoriesSucceeded + (if r.success then 1 else 0)
    repositoriesFailed := s.repositoriesFailed + (if r.success then 0 else 1)
    pullsDiscovered := s.pullsDiscovered + r.pullsDiscovered
    checksDiscovered := s.checksDiscovered + r.checksDiscovered
    changesDetected := s.changesDetected + r.changesDetected
    changesSynchronized := s.changesSynchronized + r.changesSynchronized
    actionableEvents := s.actionableEvents + r.actionableEvents.length }

/-- The session with one more warning. -/
def warn (s : Session) (warning : String) : Session := { s with warnings := s.warnings ++ [warning] }

/-- The session with one more problem. -/
def addProblem (s : Session) (p : Problem) : Session := { s with problems := s.problems ++ [p] }

/-- The share of processed repositories that succeeded. -/
def successRate (s : Session) : SuccessRate :=
  { succeeded := s.repositoriesSucceeded, processed := s.repositoriesProcessed }

/-- When the session entered a phase, if it did. -/
def enteredAt? (s : Session) (phase : Phase) : Option Instant :=
  (s.transitions.find? fun t => t.target = phase).map (·.time)

/-- Nanoseconds from the session's beginning to its end, or to the present time while it lasts. -/
def duration (s : Session) (now : Instant) : Nat :=
  ((s.finishedAt.getD now).since s.startedAt).toNat

end Session

/-- A session with the results for its repositories. -/
structure Batch where
  session : Session
  results : List RepositoryResult

namespace Batch

/-- The number of results. -/
def repositoriesProcessed (b : Batch) : Nat := b.results.length

/-- The number of problems, of repositories and of the session. -/
def totalErrors (b : Batch) : Nat :=
  (b.results.flatMap (·.problems)).length + b.session.problems.length

/-- The share of results that are successes. -/
def successRate (b : Batch) : SuccessRate :=
  { succeeded := (b.results.filter (·.success)).length, processed := b.results.length }

/-- The results that are failures. -/
def failures (b : Batch) : List RepositoryResult := b.results.filter fun r => !r.success

end Batch

/-- How far a session has come. -/
structure Progress where
  processed : Nat
  total : Nat
  successRate : SuccessRate
  deriving DecidableEq, Repr

/-- The figures of a session. -/
structure Figures where
  pulls : Nat
  checks : Nat
  changes : Nat
  deriving DecidableEq, Repr

/-- What an observer sees of a running session. -/
structure ActiveStatus where
  phase : Phase
  mode : Mode
  progress : Progress
  figures : Figures
  errorCount : Nat
  warningCount : Nat
  deriving DecidableEq, Repr

/-- What an observer sees of a processor. -/
inductive Status where
  | idle
  | active (status : ActiveStatus)
  deriving DecidableEq, Repr

/-- What an observer sees of a running session. -/
def Session.status (s : Session) : Status :=
  .active
    { phase := s.phase, mode := s.mode
      progress :=
        { processed := s.repositoriesProcessed, total := s.totalRepositories
          successRate := s.successRate }
      figures :=
        { pulls := s.pullsDiscovered, checks := s.checksDiscovered, changes := s.changesDetected }
      errorCount := s.problems.length, warningCount := s.warnings.length }

end PullWatch
