import PullWatch.Json.Member
import PullWatch.Problem
import PullWatch.PullRequest
import PullWatch.CheckRun
import PullWatch.Repository
import PullWatch.History
import PullWatch.Instant.Reader

/-!
# Records from JSON

Records are read from objects under the names that reports use. Fields may be left out; each has a
default that suits a record of no particular kind.

## Main definitions

* `StoredPullRequest.ofJson`, `StoredCheckRun.ofJson`, `Repository.ofJson`, `HistoryEntry.ofJson`,
  `Problem.ofJson`: records.
-/

namespace PullWatch

open Json (Decoder member member? memberOr)

/-- The time of records that name none. -/
def defaultTime : Instant := (Instant.ofSeconds? 1709251200 0).getD Instant.epoch

/-- A pull request. -/
def StoredPullRequest.ofJson : Decoder StoredPullRequest := fun v => do
  .ok
    { id := ← memberOr v "id" Json.integer 1
      repositoryId := ← memberOr v "repository_id" Json.integer 1
      number := ← memberOr v "number" Json.word 1
      title := ← memberOr v "title" Json.text "T"
      author := ← memberOr v "author" Json.text "octocat"
      state := ← memberOr v "state" (Json.oneOf PullState.all PullState.name) .opened
      draft := ← memberOr v "draft" Json.flag false
      baseBranch := ← memberOr v "base_branch" Json.text "main"
      baseSha := ← memberOr v "base_sha" Json.text "base0"
      headBranch := ← memberOr v "head_branch" Json.text "feature"
      headSha := ← memberOr v "head_sha" Json.text "head0"
      url := ← memberOr v "url" Json.text "u"
      body := ← member? v "body" Json.text
      labels := ← memberOr v "labels" (Json.sequence Json.text) []
      assignees := ← memberOr v "assignees" (Json.sequence Json.text) []
      milestone := ← member? v "milestone" Json.text
      createdAt := ← memberOr v "created_at" Json.time defaultTime
      updatedAt := ← memberOr v "updated_at" Json.time defaultTime
      closedAt := ← member? v "closed_at" Json.time
      mergedAt := ← member? v "merged_at" Json.time }

/-- A pull request as discovery finds it, without a payload. -/
def FetchedPullRequest.ofJson : Decoder FetchedPullRequest := fun v => do
  let p ← StoredPullRequest.ofJson v
  .ok { p.toPullRequest with payload := .null }

/-- A check run. -/
def StoredCheckRun.ofJson : Decoder StoredCheckRun := fun v => do
  .ok
    { id := ← memberOr v "id" Json.integer 1
      pullRequestId := ← memberOr v "pull_request_id" Json.integer 1
      externalId := ← memberOr v "external_id" Json.word 1
      name := ← memberOr v "name" Json.text "build"
      status := ← memberOr v "status" (Json.oneOf CheckStatus.all CheckStatus.name) .queued
      conclusion :=
        ← member? v "conclusion" (Json.oneOf CheckConclusion.all CheckConclusion.name)
      suiteId := ← member? v "check_suite_id" Json.word
      detailsUrl := ← member? v "details_url" Json.text
      logsUrl := ← member? v "logs_url" Json.text
      outputTitle := ← member? v "output_title" Json.text
      outputSummary := ← member? v "output_summary" Json.text
      outputText := ← member? v "output_text" Json.text
      startedAt := ← member? v "started_at" Json.time
      completedAt := ← member? v "completed_at" Json.time }

/-- A check run as discovery finds it. -/
def CheckRun.ofJson : Decoder CheckRun := fun v => do .ok (← StoredCheckRun.ofJson v).toCheckRun

/-- A repository. -/
def Repository.ofJson : Decoder Repository := fun v => do
  .ok
    { id := ← member v "id" Json.integer
      owner := ← memberOr v "owner" Json.text ""
      name := ← memberOr v "name" Json.text ""
      isActive := !(← memberOr v "inactive" Json.flag false)
      pollingInterval := UInt32.ofNat (← memberOr v "interval" Json.natural 0)
      priority := Int32.ofInt (← memberOr v "priority" Json.integer 0)
      lastPolledAt := ← member? v "last_polled_at" Json.time }

/-- A repository to register. -/
def NewRepository.ofJson : Decoder NewRepository := fun v => do
  .ok
    { owner := ← memberOr v "owner" Json.text ""
      name := ← memberOr v "name" Json.text ""
      isActive := ← memberOr v "active" Json.flag true
      pollingInterval := UInt32.ofNat (← memberOr v "interval" Json.natural 15)
      priority := Int32.ofInt (← memberOr v "priority" Json.integer 0) }

/-- An entry of the history. -/
def HistoryEntry.ofJson : Decoder HistoryEntry := fun v => do
  .ok
    { subject := ← member v "subject" (Json.oneOf HistorySubject.all HistorySubject.name)
      subjectId := ← member v "id" Json.integer
      oldValue := ← member? v "old" Json.text
      newValue := ← member v "new" Json.text
      trigger := ← member v "trigger" Json.text
      recordedAt := ← member v "at" Json.time }

/-- A name and a value. -/
def contextEntry : Decoder (String × String)
  | .arr [.str key, .str value] => .ok (key, value)
  | v => .error (.invalidType v.found "a pair of texts")

/-- A problem with the context values of an object added in their order. -/
def Problem.aboutAll (p : Problem) (v : Json) : Except Misfit Problem := do
  let entries ← memberOr v "context" (Json.sequence contextEntry) []
  .ok (entries.foldl (fun p e => p.about e.1 e.2) p)

/-- The kind of a problem. -/
def ProblemKind.ofJson : Decoder ProblemKind := Json.oneOf ProblemKind.all ProblemKind.name

/-- A problem. -/
def Problem.ofJson : Decoder Problem := fun v => do
  let p : Problem :=
    { kind := ← member v "kind" ProblemKind.ofJson, message := ← memberOr v "message" Json.text "" }
  p.aboutAll v

end PullWatch
