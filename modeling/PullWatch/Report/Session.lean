import PullWatch.Configuration
import PullWatch.Change.ChangeSet
import PullWatch.GitHub.Service
import PullWatch.Report

/-!
# Sessions as JSON

Modes and phases appear in capital letters, rates as texts with six places. The problems of a result
are those of the whole repository first and then those of single pull requests by number, since
look-ups for several pull requests may end in any order.

## Main definitions

* `RepositoryResult.members`, `Session.json`, `Batch.members`: what a session brought.
* `Status.json`: what an observer sees.
* `ChangeSet.json`, `Configuration.json`: changes and settings.
* `GitHub.Call.logJson`: the requests that were sent.
-/

namespace PullWatch

/-- A rate with six places. -/
def SuccessRate.json (r : SuccessRate) : Json := .str (r.value.fixedText 6)

/-- A problem together with its wording. -/
def Problem.jsonWithText (p : Problem) : Json := Json.object (("text", .str p.text) :: p.members)

/-- The number of the pull request that a problem is about. -/
def Problem.pullNumber? (p : Problem) : Option Nat := (p.context.get? "pr_number").bind String.toNat?

/-- Problems of whole repositories first, then those of pull requests by number. -/
def Problem.arrange (problems : List Problem) : List Problem :=
  problems.filter (fun p => p.pullNumber?.isNone)
    ++ (problems.filter fun p => p.pullNumber?.isSome).mergeSort fun a b =>
        decide (a.pullNumber?.getD 0 ≤ b.pullNumber?.getD 0)

/-- Problems with their wordings. -/
def Problem.listJson (problems : List Problem) : Json :=
  .list Problem.jsonWithText (Problem.arrange problems)

/-- A recorded change of phase. -/
def Transition.json (t : Transition) : Json :=
  .ofTexts [capitals t.source.name, capitals t.target.name]

/-- A session. -/
def Session.json (s : Session) : Json :=
  Json.object
    [("mode", .str (capitals s.mode.name)), ("phase", .str (capitals s.phase.name)),
     ("finished", .bool s.finishedAt.isSome), ("transitions", .list Transition.json s.transitions),
     ("total_repositories", .nat s.totalRepositories),
     ("repositories_processed", .nat s.repositoriesProcessed),
     ("repositories_succeeded", .nat s.repositoriesSucceeded),
     ("repositories_failed", .nat s.repositoriesFailed),
     ("prs_discovered", .nat s.pullsDiscovered), ("check_runs_discovered", .nat s.checksDiscovered),
     ("changes_detected", .nat s.changesDetected),
     ("changes_synchronized", .nat s.changesSynchronized),
     ("actionable_events", .nat s.actionableEvents),
     ("errors", .list Problem.json s.problems), ("warnings", .ofTexts s.warnings),
     ("recovery_attempted", .bool s.recoveryAttempted), ("success_rate", s.successRate.json)]

/-- The members of a result. -/
def RepositoryResult.members (r : RepositoryResult) : List (String × Json) :=
  [("repository_id", .int r.repositoryId), ("repository", .str r.repository),
   ("prs_discovered", .nat r.pullsDiscovered), ("check_runs_discovered", .nat r.checksDiscovered),
   ("changes_detected", .nat r.changesDetected),
   ("changes_synchronized", .nat r.changesSynchronized),
   ("actionable_events", .list Event.json r.actionableEvents), ("success", .bool r.success),
   ("failed_phase", Json.optional (fun k => .str k.name) r.failedPhase),
   ("errors", Problem.listJson r.problems)]

/-- The figures of a batch and its session. -/
def Batch.figures (b : Batch) : List (String × Json) :=
  [("session", b.session.json), ("repositories_processed", .nat b.repositoriesProcessed),
   ("total_errors", .nat b.totalErrors), ("success_rate", b.successRate.json),
   ("failures", .ofTexts (b.failures.map (·.repository)))]

/-- The members of a batch. -/
def Batch.members (b : Batch) : List (String × Json) :=
  ("results", .list (fun r => Json.object r.members) b.results)
    :: ("failure_count", .nat b.failures.length) :: b.figures

/-- The batch with its results in the order of their repositories' ids. -/
def Batch.arranged (b : Batch) : Batch :=
  { b with
    results := b.results.mergeSort fun x y => decide (x.repositoryId ≤ y.repositoryId) }

/-- What an observer sees. -/
def Status.json : Status → Json
  | idle =>
    Json.object
      [("status", .str "idle"), ("session_id", .bool false), ("phase", .null), ("mode", .null),
       ("progress", .null), ("metrics", .null), ("error_count", .int 0),
       ("warning_count", .int 0)]
  | active a =>
    Json.object
      [("status", .str "active"), ("session_id", .bool true),
       ("phase", .str (capitals a.phase.name)), ("mode", .str (capitals a.mode.name)),
       ("progress",
        Json.object
          [("processed", .nat a.progress.processed), ("total", .nat a.progress.total),
           ("success_rate", a.progress.successRate.json)]),
       ("metrics",
        Json.object
          [("prs", .nat a.figures.pulls), ("checks", .nat a.figures.checks),
           ("changes", .nat a.figures.changes)]),
       ("error_count", .nat a.errorCount), ("warning_count", .nat a.warningCount)]

/-- The settings. -/
def Configuration.json (c : Configuration) : Json :=
  Json.object
    [("max_concurrent_repos", .nat c.maxConcurrentRepos),
     ("max_concurrent_api_calls", .nat c.maxConcurrentApiCalls),
     ("max_concurrent_check_discoveries", .nat c.maxConcurrentCheckDiscoveries),
     ("batch_size", .nat c.batchSize), ("sync_chunk_size", .nat c.syncChunkSize),
     ("pr_states", .ofTexts (c.pullStates.map PullState.name)),
     ("inter_batch_delay_ms", .nat c.interBatchDelay),
     ("session_timeout_secs", .nat c.sessionTimeout), ("memory_limit_mb", .nat c.memoryLimit),
     ("resource_sample_interval_ms", .nat c.resourceSampleInterval),
     ("cache_ttl_secs", .nat c.cacheLifetime), ("max_pages_per_query", .nat c.maxPagesPerQuery),
     ("stop_on_first_error", .bool c.stopOnFirstError)]

/-- What an event of a change set is about, its kind and its severity. -/
def Event.brief (e : Event) : Json :=
  let subject : List Json :=
    match e.subject with
    | .pullRequest number .. => [.str "pr", .ofWord number]
    | .checkRun externalId .. => [.str "check", .ofWord externalId]
  .arr (subject ++ [.str (capitals e.kind.name), .str (capitals e.severity.name)])

/-- A change of a pull request: its number and the row it replaces. -/
def PullChange.brief (c : PullChange) : Json :=
  .arr [.ofWord c.record.number, Json.optional .int c.existingId]

/-- A change of a check run: the number of its pull request, its id and the row it replaces. -/
def CheckChange.brief (c : CheckChange) : Json :=
  .arr [.ofWord c.pullNumber, .ofWord c.record.externalId, Json.optional .int c.existingId]

/-- A change set. -/
def ChangeSet.json (s : ChangeSet) : Json :=
  Json.object
    [("repository_id", .int s.repositoryId), ("new_prs", .list PullChange.brief s.newPulls),
     ("updated_prs", .list PullChange.brief s.updatedPulls),
     ("new_check_runs", .list CheckChange.brief s.newChecks),
     ("updated_check_runs", .list CheckChange.brief s.updatedChecks),
     ("total_changes", .nat s.total), ("has_changes", .bool s.hasChanges),
     ("events", .list Event.brief s.events)]

namespace GitHub

/-- A request of a log: repository, state or commit, page and page size. -/
structure LoggedCall where
  repository : String
  subject : String
  page : Nat
  perPage : Nat

namespace LoggedCall

/-- A logged request. -/
def json (c : LoggedCall) : Json :=
  .arr [.str c.repository, .str c.subject, .nat c.page, .nat c.perPage]

/-- Requests are compared part by part. -/
def atMost (a b : LoggedCall) : Bool :=
  if a.repository ≠ b.repository then decide (a.repository < b.repository)
  else if a.subject ≠ b.subject then decide (a.subject < b.subject)
  else if a.page ≠ b.page then decide (a.page < b.page)
  else decide (a.perPage ≤ b.perPage)

end LoggedCall

/-- The request for pull requests that a call is. -/
def Call.loggedPulls? : Call → Option LoggedCall
  | pulls q => some ⟨q.owner ++ "/" ++ q.name, q.listing.name, q.page, q.perPage⟩
  | checks _ => none

/-- The request for check runs that a call is. -/
def Call.loggedChecks? : Call → Option LoggedCall
  | checks q => some ⟨q.owner ++ "/" ++ q.name, q.sha, q.page, q.perPage⟩
  | pulls _ => none

/-- The requests that were sent. Those for check runs are sorted, since they are sent side by side;
those for pull requests only where repositories are processed side by side. -/
def Call.logJson (sideBySide : Bool) (sent : List Call) : Json :=
  let pulls := sent.filterMap Call.loggedPulls?
  let checks := sent.filterMap Call.loggedChecks?
  Json.object
    [("pulls",
      .list LoggedCall.json (if sideBySide then pulls.mergeSort LoggedCall.atMost else pulls)),
     ("checks", .list LoggedCall.json (checks.mergeSort LoggedCall.atMost))]

end GitHub

end PullWatch
