import PullWatch.Configuration
import PullWatch.Discovery.Listing
import PullWatch.Session.Result
import PullWatch.Synchronization

/-!
# A pass over one repository

A pass discovers the present pull requests and check runs of a repository, detects what differs from
the database, and writes it. It never fails as a whole: whatever goes wrong becomes part of its
result. A pass that is only a trial does not write.

The steps of a pass are apart, since two passes over one repository may overlap: discovery asks the
service and uses the cache, detection reads the database, and writing is one transaction.

## Main definitions

* `Moment`: a reading of the clocks.
* `allListingsFailed`: whether discovery brought nothing because every listing failed.
* `Findings`, `discover`: what discovery brings.
* `detect`: the change set of a pass.
* `beginPass`, `comparePass`, `finishPass`: the steps of a pass.
* `Pass`, `runPass`: the result of a pass, and the database and the cache after it.
-/

namespace PullWatch

open GitHub (Call Service)

/-- A reading of the clocks: the time of day, and the nanoseconds of a clock that never goes back.
-/
structure Moment where
  time : Instant
  ticks : Nat

/-- The listing that a problem is about, if a listing failed. -/
def failedListing? (p : Problem) : Option String :=
  if p.kind = .notFound ∨ p.kind = .apiError then p.context.get? "state" else none

/-- Every listing of pull requests failed: the repository does not exist, or as many listings failed
as were asked for. -/
def allListingsFailed (states : List PullState) (problems : List Problem) : Bool :=
  let failed := (problems.filterMap failedListing?).eraseDups
  (problems.any fun p => p.kind = .notFound ∧ (failedListing? p).isSome) ||
    (!failed.isEmpty && (listingsOf states).length ≤ failed.length)

/-- What discovery brings. -/
structure Findings where
  pulls : List FetchedPullRequest
  checks : ChecksByPull
  problems : List Problem

/-- Discovers a repository: the findings, or the problems of a discovery that brought nothing. Also
the cache and the requests sent. -/
def discover (service : Service) (config : Configuration) (now : Moment)
    (repo : RepositoryContext) (since : Option Instant) (cache : Cache) :
    Except (List Problem) Findings × Cache × List Call :=
  let (listed, cache) :=
    discoverPulls service config.maxPagesPerQuery now.ticks repo config.pullStates since cache
  if listed.found.isEmpty && allListingsFailed config.pullStates listed.problems then
    (.error listed.problems, cache, listed.calls)
  else
    let (looked, cache) :=
      discoverChecksByPull service config.maxPagesPerQuery now.ticks repo listed.found cache
    (.ok { pulls := listed.found, checks := looked.found
           problems := listed.problems ++ looked.problems },
     cache, listed.calls ++ looked.calls)

/-- The change set of a pass. -/
def detect (db : Database) (faults : Faults) (repositoryId : Int) (findings : Findings) :
    Except (DetectionFailure StoreError) ChangeSet :=
  detectChanges (db.viewUnder faults repositoryId) repositoryId findings.pulls findings.checks

/-- A failure of a whole phase as a problem of a repository. -/
def phaseProblem (kind : ProblemKind) (repo : RepositoryContext) (message : String) : Problem :=
  Problem.about { kind, message } "repository" repo.fullName

/-- A finished pass: its result, the database and the cache after it, and the requests it sent. -/
structure Pass where
  result : RepositoryResult
  db : Database
  cache : Cache
  calls : List Call

/-- The first step of a pass: discovery. A pass that discovered nothing is over. Otherwise its
result so far and what it found. -/
def beginPass (service : Service) (config : Configuration) (now : Moment)
    (repo : RepositoryContext) (since : Option Instant) (cache : Cache) :
    Except RepositoryResult (RepositoryResult × Findings) × Cache × List Call :=
  let result := RepositoryResult.start repo now.time
  match discover service config now repo since cache with
  | (.error problems, cache, calls) =>
    (.error ((result.withProblems problems).fail .discoveryFailure now.time), cache, calls)
  | (.ok findings, cache, calls) =>
    let result :=
      { result.withProblems findings.problems with
        pullsDiscovered := findings.pulls.length
        checksDiscovered := findings.checks.total }
    (.ok (result, findings), cache, calls)

/-- The second step of a pass: detection. A pass that could not read the database is over. -/
def comparePass (faults : Faults) (now : Moment) (repo : RepositoryContext)
    (result : RepositoryResult) (findings : Findings) (db : Database) :
    Except RepositoryResult ChangeSet :=
  (detect db faults repo.id findings).mapError fun failure =>
    let problem := phaseProblem .changeDetectionFailure repo failure.message
    (result.withProblems [problem]).fail .changeDetectionFailure now.time

/-- The last step of a pass: its change set is written. When that fails, what the cache holds for
the repository is dropped, so that the next pass asks again. -/
def finishPass (config : Configuration) (faults : Faults) (now : Moment)
    (repo : RepositoryContext) (isTrial : Bool) (result : RepositoryResult) (changes : ChangeSet)
    (db : Database) (cache : Cache) (calls : List Call) : Pass :=
  let result :=
    { result with
      changesDetected := changes.total
      actionableEvents := changes.actionableEvents }
  if isTrial || !changes.hasChanges then
    { result := result.succeed now.time, db, cache, calls }
  else
    match synchronize faults config.syncChunkSize repo.id now.time changes db with
    | .ok (rows, db) =>
      { result := { result with changesSynchronized := rows }.succeed now.time, db, cache, calls }
    | .error cause =>
      let failure : RolledBack := { repositoryId := repo.id, cause }
      let problem := phaseProblem .synchronizationFailure repo failure.message
      { result := (result.withProblems [problem]).fail .synchronizationFailure now.time
        db, cache := (cache.dropRepository repo.id).2, calls }

/-- A pass over one repository that nothing interrupts. -/
def runPass (service : Service) (config : Configuration) (faults : Faults) (now : Moment)
    (repo : RepositoryContext) (since : Option Instant) (isTrial : Bool) (db : Database)
    (cache : Cache) : Pass :=
  match beginPass service config now repo since cache with
  | (.error result, cache, calls) => { result, db, cache, calls }
  | (.ok (result, findings), cache, calls) =>
    match comparePass faults now repo result findings db with
    | .error result => { result, db, cache, calls }
    | .ok changes => finishPass config faults now repo isTrial result changes db cache calls

end PullWatch
