import PullWatch.Change.Event
import PullWatch.Problem
import PullWatch.Repository

/-!
# The result for one repository

## Main definitions

* `RepositoryResult`: what a pass over one repository found and did.
* `RepositoryResult.duration`: how long the pass took.
-/

namespace PullWatch

/-- What a pass over one repository found and did. -/
structure RepositoryResult where
  repositoryId : Int
  /-- The full name of the repository. -/
  repository : String
  pullsDiscovered : Nat := 0
  /-- Check runs of all open pull requests. -/
  checksDiscovered : Nat := 0
  changesDetected : Nat := 0
  /-- Rows written. -/
  changesSynchronized : Nat := 0
  actionableEvents : List Event := []
  /-- Every phase was completed. -/
  success : Bool := false
  /-- The phase that failed, as a kind of problem. -/
  failedPhase : Option ProblemKind := none
  /-- All problems met, fatal or not. -/
  problems : List Problem := []
  startedAt : Instant
  finishedAt : Instant
  deriving DecidableEq

namespace RepositoryResult

/-- The result at the beginning of a pass. -/
def start (repo : RepositoryContext) (time : Instant) : RepositoryResult :=
  { repositoryId := repo.id, repository := repo.fullName, startedAt := time, finishedAt := time }

/-- The result of a pass that completed every phase. -/
def succeed (r : RepositoryResult) (time : Instant) : RepositoryResult :=
  { r with success := true, finishedAt := time }

/-- The result of a pass that failed in a phase. -/
def fail (r : RepositoryResult) (phase : ProblemKind) (time : Instant) : RepositoryResult :=
  { r with success := false, failedPhase := some phase, finishedAt := time }

/-- The result with further problems. -/
def withProblems (r : RepositoryResult) (problems : List Problem) : RepositoryResult :=
  { r with problems := r.problems ++ problems }

/-- Nanoseconds that the pass took; none when the clock went back. -/
def duration (r : RepositoryResult) : Nat := (r.finishedAt.since r.startedAt).toNat

end RepositoryResult

end PullWatch
