import PullWatch.Discovery.Cache
import PullWatch.GitHub.Payload
import PullWatch.GitHub.Service
import PullWatch.Change.Detection
import PullWatch.Repository

/-!
# Discovery

Discovery asks the service for the present state of a repository and returns what could be read,
together with the problems met. It never touches the database.

The pull requests of a listing are read page by page, most recently updated first. With a cutoff,
pull requests last updated before it are left out, and the page that has one is the last. A
repository that does not exist ends the discovery of pull requests; any other failure ends one
listing. Check runs are read page by page for the head commit of every open pull request.

## Main definitions

* `Discovered`: what a step of discovery found, the problems and the requests sent.
* `listPages`, `listStates`, `discoverPulls`: pull requests.
* `checkPages`, `discoverChecks`, `discoverChecksByPull`: check runs.
-/

namespace PullWatch

open GitHub (Call Failure Page Service)

/-- What a step of discovery found. -/
structure Discovered (α : Type) where
  found : α
  problems : List Problem := []
  /-- The requests sent, in order. -/
  calls : List Call := []

/-- A failed request as a problem. Only what does not exist is told apart. -/
def Problem.ofFailure (f : Failure) : Problem :=
  { kind := if f.isNotFound then .notFound else .apiError, message := f.message }

/-- The listings that show pull requests in some states, each once, in order of first mention. -/
def listingsOf (states : List PullState) : List Listing :=
  states.foldl (fun ls s => if ls.contains s.listing then ls else ls ++ [s.listing]) []

/-- What became of one listing. -/
structure ListingOutcome where
  pulls : List FetchedPullRequest := []
  problems : List Problem := []
  /-- The failure that ended the listing early. -/
  failure : Option Failure := none
  calls : List Call := []

/-- The pull request was last updated before the cutoff. -/
def isBefore (since : Option Instant) (p : FetchedPullRequest) : Bool :=
  since.any fun cutoff => p.updatedAt < cutoff

/-- The payloads of a page: pull requests and problems, in order. -/
def readPulls (fullName : String) (items : List Json) : List (Except Problem FetchedPullRequest) :=
  items.map fun item => (GitHub.parsePull item).mapError (·.about "repository" fullName)

/-- The values that were read. -/
def successes {α : Type} (results : List (Except Problem α)) : List α :=
  results.filterMap Except.toOption

/-- The problems met in reading. -/
def failures {α : Type} (results : List (Except Problem α)) : List Problem :=
  results.filterMap fun
    | .error p => some p
    | .ok _ => none

/-- Reads the pages of a listing from `page` on, `left` of them at the most. Pages read before a
failure are kept. -/
def listPages (service : Service) (repo : RepositoryContext) (listing : Listing)
    (since : Option Instant) : Nat → Nat → ListingOutcome
  | 0, _ => {}
  | left + 1, page =>
    let query : GitHub.PullQuery :=
      { owner := repo.owner, name := repo.name, listing, perPage := GitHub.perPage, page }
    match service.pulls query with
    | .error failure => { failure := some failure, calls := [.pulls query] }
    | .ok answer =>
      let results := readPulls repo.fullName answer.items
      let read := successes results
      let kept := read.filter fun p => !isBefore since p
      let passedCutoff := read.any fun p => isBefore since p
      let rest : ListingOutcome :=
        if passedCutoff || !answer.hasNext then {}
        else listPages service repo listing since left (page + 1)
      { pulls := kept ++ rest.pulls
        problems := failures results ++ rest.problems
        failure := rest.failure
        calls := .pulls query :: rest.calls }

/-- The problem of a listing that ended early. -/
def listingProblem (repo : RepositoryContext) (listing : Listing) (failure : Failure) : Problem :=
  ((Problem.ofFailure failure).about "repository" repo.fullName).about "state" listing.name

/-- Reads listings one after the other. A repository that does not exist ends the series. -/
def listStates (service : Service) (maxPages : Nat) (repo : RepositoryContext)
    (since : Option Instant) : List Listing → Discovered (List FetchedPullRequest)
  | [] => { found := [] }
  | listing :: rest =>
    let outcome := listPages service repo listing since maxPages 1
    match outcome.failure with
    | none =>
      let later := listStates service maxPages repo since rest
      { found := outcome.pulls ++ later.found
        problems := outcome.problems ++ later.problems
        calls := outcome.calls ++ later.calls }
    | some failure =>
      let problem := listingProblem repo listing failure
      if failure.isNotFound then
        { found := outcome.pulls, problems := outcome.problems ++ [problem],
          calls := outcome.calls }
      else
        let later := listStates service maxPages repo since rest
        { found := outcome.pulls ++ later.found
          problems := outcome.problems ++ problem :: later.problems
          calls := outcome.calls ++ later.calls }

/-- The pull requests of a repository in given states, as the service shows them. -/
def listPulls (service : Service) (maxPages : Nat) (repo : RepositoryContext)
    (states : List PullState) (since : Option Instant) : Discovered (List FetchedPullRequest) :=
  let listed := listStates service (max 1 maxPages) repo since (listingsOf states)
  { listed with found := listed.found.filter fun p => states.contains p.state }

/-- The pull requests of a repository in given states, from the cache if it has them. Only a result
without problems is kept. -/
def discoverPulls (service : Service) (maxPages now : Nat) (repo : RepositoryContext)
    (states : List PullState) (since : Option Instant) (cache : Cache) :
    Discovered (List FetchedPullRequest) × Cache :=
  let key := Cache.pullsKey states since
  match cache.findPulls now repo.id key with
  | (some found, cache) => ({ found }, cache)
  | (none, cache) =>
    let result := listPulls service maxPages repo states since
    if result.problems.isEmpty then
      (result, cache.store now repo.id key (.pulls result.found))
    else (result, cache)

/-- The payloads of a page: check runs and problems, in order. -/
def readChecks (sha : String) (items : List Json) : List (Except Problem CheckRun) :=
  items.map fun item => (GitHub.parseCheck item).mapError (·.about "commit" sha)

/-- Reads the pages of a commit's check runs from `page` on, `left` of them at the most. `seen`
payloads were on the pages before. A page that is not full is the last, and so is the page that
completes the stated total. -/
def checkPages (service : Service) (repo : RepositoryContext) (sha : String) :
    Nat → Nat → Nat → Discovered (List CheckRun)
  | 0, _, _ => { found := [] }
  | left + 1, page, seen =>
    let query : GitHub.CheckQuery :=
      { owner := repo.owner, name := repo.name, sha, perPage := GitHub.perPage, page }
    match service.checks query with
    | .error failure =>
      let problem := ((Problem.ofFailure failure).about "repository" repo.fullName).about
        "commit" sha
      { found := [], problems := [problem], calls := [.checks query] }
    | .ok envelope =>
      match GitHub.openEnvelope envelope with
      | .error fault =>
        let problem : Problem := { kind := .malformedRecord, message := fault.message }
        { found := [], problems := [problem.about "commit" sha], calls := [.checks query] }
      | .ok (items, total) =>
        let results := readChecks sha items
        let seen := seen + items.length
        let isLast := items.length < GitHub.perPage || total.any fun n => n ≤ seen
        let rest : Discovered (List CheckRun) :=
          if isLast then { found := [] } else checkPages service repo sha left (page + 1) seen
        { found := successes results ++ rest.found
          problems := failures results ++ rest.problems
          calls := .checks query :: rest.calls }

/-- The check runs of a commit, as the service shows them. -/
def listChecks (service : Service) (maxPages : Nat) (repo : RepositoryContext) (sha : String) :
    Discovered (List CheckRun) :=
  checkPages service repo sha (max 1 maxPages) 1 0

/-- The check runs of a commit, from the cache if it has them. Only a result without problems is
kept. -/
def discoverChecks (service : Service) (maxPages now : Nat) (repo : RepositoryContext)
    (sha : String) (cache : Cache) : Discovered (List CheckRun) × Cache :=
  let key := Cache.checksKey sha
  match cache.findChecks now repo.id key with
  | (some found, cache) => ({ found }, cache)
  | (none, cache) =>
    let result := listChecks service maxPages repo sha
    if result.problems.isEmpty then
      (result, cache.store now repo.id key (.checks result.found))
    else (result, cache)

/-- The numbers and head commits of the open pull requests. -/
def checkTargets (pulls : List FetchedPullRequest) : List (UInt64 × String) :=
  (pulls.filter fun p => p.state = .opened).map fun p => (p.number, p.headSha)

/-- The check runs of some head commits, one lookup after the other. Each problem names the number
of its pull request. -/
def discoverTargets (service : Service) (maxPages now : Nat) (repo : RepositoryContext) :
    List (UInt64 × String) → Discovered ChecksByPull → Cache → Discovered ChecksByPull × Cache
  | [], done, cache => (done, cache)
  | (number, sha) :: rest, done, cache =>
    let (result, cache) := discoverChecks service maxPages now repo sha cache
    let problems := result.problems.map (·.about "pr_number" (toString number))
    discoverTargets service maxPages now repo rest
      { found := done.found.insert number result.found
        problems := done.problems ++ problems
        calls := done.calls ++ result.calls }
      cache

/-- The check runs of the head commit of every open pull request. -/
def discoverChecksByPull (service : Service) (maxPages now : Nat) (repo : RepositoryContext)
    (pulls : List FetchedPullRequest) (cache : Cache) : Discovered ChecksByPull × Cache :=
  discoverTargets service maxPages now repo (checkTargets pulls) { found := [] } cache

end PullWatch
