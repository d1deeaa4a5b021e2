import PullWatch.CheckRun
import PullWatch.Json.Record
import PullWatch.Problem
import PullWatch.PullRequest

/-!
# Reading payloads

Each payload is read on its own, so that a malformed one costs only itself. Unknown members are
passed over, and optional ones may be absent or null. A closed pull request with a time of merging
counts as merged.

## Main definitions

* `GitHub.PullPayload.decode`, `GitHub.CheckPayload.decode`: the fields of a payload.
* `GitHub.parsePull`, `GitHub.parseCheck`: the record of a payload.
* `GitHub.openEnvelope`: the items of a page of check runs and the total that it states.
-/

namespace PullWatch.GitHub

open Json (Decoder RecordShape required optional?)

/-- A shape with one text field. -/
def singleText (record field : String) : RecordShape :=
  { name := record, fields := [(field, Json.fits Json.text)] }

/-- The one text field of a record. -/
def decodeSingleText (record field : String) : Decoder String := fun v => do
  let ms ← (singleText record field).members v
  required ms field Json.text

/-- An account, as its login. -/
def decodeLogin : Decoder String := decodeSingleText "RawUser" "login"

/-- A label, as its name. -/
def decodeLabel : Decoder String := decodeSingleText "RawLabel" "name"

/-- A milestone, as its title. -/
def decodeMilestone : Decoder String := decodeSingleText "RawMilestone" "title"

/-- A branch and its commit. -/
structure BranchPayload where
  ref : String
  sha : String

/-- The fields of a branch. -/
def BranchPayload.shape : RecordShape :=
  { name := "RawRef", fields := [("ref", Json.fits Json.text), ("sha", Json.fits Json.text)] }

/-- A branch and its commit. -/
def BranchPayload.decode : Decoder BranchPayload := fun v => do
  let ms ← shape.members v
  let ref ← required ms "ref" Json.text
  let sha ← required ms "sha" Json.text
  .ok { ref, sha }

/-- The fields of a pull request's payload. -/
structure PullPayload where
  number : UInt64
  title : String
  user : Option String
  state : String
  draft : Option Bool
  base : BranchPayload
  head : BranchPayload
  htmlUrl : String
  body : Option String
  labels : Option (List String)
  assignees : Option (List String)
  milestone : Option String
  createdAt : Instant
  updatedAt : Instant
  closedAt : Option Instant
  mergedAt : Option Instant

namespace PullPayload

/-- The fields in declared order. -/
def shape : RecordShape :=
  { name := "RawPullRequest"
    fields :=
      [("number", Json.fits Json.word),
       ("title", Json.fits Json.text),
       ("user", Json.fits (Json.nullable decodeLogin)),
       ("state", Json.fits Json.text),
       ("draft", Json.fits (Json.nullable Json.flag)),
       ("base", Json.fits BranchPayload.decode),
       ("head", Json.fits BranchPayload.decode),
       ("html_url", Json.fits Json.text),
       ("body", Json.fits (Json.nullable Json.text)),
       ("labels", Json.fits (Json.nullable (Json.sequence decodeLabel))),
       ("assignees", Json.fits (Json.nullable (Json.sequence decodeLogin))),
       ("milestone", Json.fits (Json.nullable decodeMilestone)),
       ("created_at", Json.fits Json.time),
       ("updated_at", Json.fits Json.time),
       ("closed_at", Json.fits (Json.nullable Json.time)),
       ("merged_at", Json.fits (Json.nullable Json.time))] }

/-- The fields of a payload. -/
def decode : Decoder PullPayload := fun v => do
  let ms ← shape.members v
  let number ← required ms "number" Json.word
  let title ← required ms "title" Json.text
  let user ← optional? ms "user" decodeLogin
  let state ← required ms "state" Json.text
  let draft ← optional? ms "draft" Json.flag
  let base ← required ms "base" BranchPayload.decode
  let head ← required ms "head" BranchPayload.decode
  let htmlUrl ← required ms "html_url" Json.text
  let body ← optional? ms "body" Json.text
  let labels ← optional? ms "labels" (Json.sequence decodeLabel)
  let assignees ← optional? ms "assignees" (Json.sequence decodeLogin)
  let milestone ← optional? ms "milestone" decodeMilestone
  let createdAt ← required ms "created_at" Json.time
  let updatedAt ← required ms "updated_at" Json.time
  let closedAt ← optional? ms "closed_at" Json.time
  let mergedAt ← optional? ms "merged_at" Json.time
  .ok { number, title, user, state, draft, base, head, htmlUrl, body, labels, assignees,
        milestone, createdAt, updatedAt, closedAt, mergedAt }

end PullPayload

/-- The output of a check run. -/
structure OutputPayload where
  title : Option String
  summary : Option String
  text : Option String

/-- The fields of an output. -/
def OutputPayload.shape : RecordShape :=
  { name := "RawCheckOutput"
    fields :=
      [("title", Json.fits (Json.nullable Json.text)),
       ("summary", Json.fits (Json.nullable Json.text)),
       ("text", Json.fits (Json.nullable Json.text))] }

/-- The output of a check run. -/
def OutputPayload.decode : Decoder OutputPayload := fun v => do
  let ms ← shape.members v
  let title ← optional? ms "title" Json.text
  let summary ← optional? ms "summary" Json.text
  let text ← optional? ms "text" Json.text
  .ok { title, summary, text }

/-- The fields of a check suite. -/
def suiteShape : RecordShape :=
  { name := "RawCheckSuite", fields := [("id", Json.fits Json.word)] }

/-- A check suite, as its id. -/
def decodeSuite : Decoder UInt64 := fun v => do
  let ms ← suiteShape.members v
  required ms "id" Json.word

/-- The fields of a check run's payload. -/
structure CheckPayload where
  id : UInt64
  name : String
  status : String
  conclusion : Option String
  suite : Option UInt64
  detailsUrl : Option String
  htmlUrl : Option String
  output : Option OutputPayload
  startedAt : Option Instant
  completedAt : Option Instant

namespace CheckPayload

/-- The fields in declared order. -/
def shape : RecordShape :=
  { name := "RawCheckRun"
    fields :=
      [("id", Json.fits Json.word),
       ("name", Json.fits Json.text),
       ("status", Json.fits Json.text),
       ("conclusion", Json.fits (Json.nullable Json.text)),
       ("check_suite", Json.fits (Json.nullable decodeSuite)),
       ("details_url", Json.fits (Json.nullable Json.text)),
       ("html_url", Json.fits (Json.nullable Json.text)),
       ("output", Json.fits (Json.nullable OutputPayload.decode)),
       ("started_at", Json.fits (Json.nullable Json.time)),
       ("completed_at", Json.fits (Json.nullable Json.time))] }

/-- The fields of a payload. -/
def decode : Decoder CheckPayload := fun v => do
  let ms ← shape.members v
  let id ← required ms "id" Json.word
  let name ← required ms "name" Json.text
  let status ← required ms "status" Json.text
  let conclusion ← optional? ms "conclusion" Json.text
  let suite ← optional? ms "check_suite" decodeSuite
  let detailsUrl ← optional? ms "details_url" Json.text
  let htmlUrl ← optional? ms "html_url" Json.text
  let output ← optional? ms "output" OutputPayload.decode
  let startedAt ← optional? ms "started_at" Json.time
  let completedAt ← optional? ms "completed_at" Json.time
  .ok { id, name, status, conclusion, suite, detailsUrl, htmlUrl, output, startedAt, completedAt }

end CheckPayload

/-- Why a payload was skipped. -/
inductive PayloadFault where
  /-- It has not the shape of a record. -/
  | misfit (cause : Misfit)
  | unknownState (name : String)
  | unknownStatus (name : String)
  | unknownConclusion (name : String)
  deriving DecidableEq, Repr

/-- The wording of a fault. -/
def PayloadFault.message : PayloadFault → String
  | misfit cause => cause.message
  | unknownState name => "unknown state '" ++ name ++ "'"
  | unknownStatus name => "unknown status '" ++ name ++ "'"
  | unknownConclusion name => "unknown conclusion '" ++ name ++ "'"

/-- The state that a payload states; a closed pull request with a time of merging is merged. -/
def payloadState? (state : String) (mergedAt : Option Instant) : Option PullState :=
  if state = "open" then some .opened
  else if state = "closed" then some (if mergedAt.isSome then .merged else .closed)
  else none

/-- The login of deleted accounts. -/
def ghostLogin : String := "ghost"

/-- The pull request that the fields of a payload describe. -/
def PullPayload.toPullRequest (p : PullPayload) (state : PullState) : PullRequest :=
  { number := p.number, title := p.title, author := p.user.getD ghostLogin, state
    draft := p.draft.getD false, baseBranch := p.base.ref, baseSha := p.base.sha
    headBranch := p.head.ref, headSha := p.head.sha, url := p.htmlUrl, body := p.body
    labels := p.labels.getD [], assignees := p.assignees.getD [], milestone := p.milestone
    createdAt := p.createdAt, updatedAt := p.updatedAt, closedAt := p.closedAt
    mergedAt := p.mergedAt }

/-- The pull request of a payload, or why there is none. -/
def decodePull (payload : Json) : Except PayloadFault FetchedPullRequest :=
  match PullPayload.decode payload with
  | .error cause => .error (.misfit cause)
  | .ok p =>
    match payloadState? p.state p.mergedAt with
    | none => .error (.unknownState p.state)
    | some state => .ok { p.toPullRequest state with payload }

/-- The check run that the fields of a payload describe. -/
def CheckPayload.toCheckRun (p : CheckPayload) (status : CheckStatus)
    (conclusion : Option CheckConclusion) : CheckRun :=
  { externalId := p.id, name := p.name, status, conclusion, suiteId := p.suite
    detailsUrl := p.detailsUrl, logsUrl := p.htmlUrl
    outputTitle := p.output.bind (·.title), outputSummary := p.output.bind (·.summary)
    outputText := p.output.bind (·.text)
    startedAt := p.startedAt, completedAt := p.completedAt }

/-- The check run of a payload, or why there is none. -/
def decodeCheck (payload : Json) : Except PayloadFault CheckRun :=
  match CheckPayload.decode payload with
  | .error cause => .error (.misfit cause)
  | .ok p =>
    match CheckStatus.ofName? p.status with
    | none => .error (.unknownStatus p.status)
    | some status =>
      match p.conclusion with
      | none => .ok (p.toCheckRun status none)
      | some name =>
        match CheckConclusion.ofName? name with
        | none => .error (.unknownConclusion name)
        | some conclusion => .ok (p.toCheckRun status (some conclusion))

/-- A natural number of 64 bits under a name, if there is one. -/
def statedNumber? (name : String) (payload : Json) : Option Nat :=
  match payload.get? name with
  | some (.int n) => if 0 ≤ n then some n.toNat else none
  | _ => none

/-- The problem of a payload that was skipped; it names the record if the payload does. -/
def malformed (record : String) (id : Option Nat) (fault : PayloadFault) : Problem :=
  let problem : Problem :=
    { kind := .malformedRecord
      message := "Malformed " ++ record ++ " payload: " ++ fault.message }
  match id with
  | some id => problem.about "id" (toString id)
  | none => problem

/-- The pull request of a payload. -/
def parsePull (payload : Json) : Except Problem FetchedPullRequest :=
  (decodePull payload).mapError (malformed "pull request" (statedNumber? "number" payload))

/-- The check run of a payload. A payload in array form has no named id, but once it has the shape
of a check run its first item is the id. -/
def parseCheck (payload : Json) : Except Problem CheckRun :=
  (decodeCheck payload).mapError fun fault =>
    let id :=
      match CheckPayload.decode payload with
      | .ok p => some p.id.toNat
      | .error _ => statedNumber? "id" payload
    malformed "check run" id fault

/-- Why the envelope of a page of check runs cannot be opened. -/
inductive EnvelopeFault where
  | notAnObject
  | noCheckRuns
  deriving DecidableEq, Repr

/-- The wording of a fault. -/
def EnvelopeFault.message : EnvelopeFault → String
  | notAnObject => "check run listing is not an object"
  | noCheckRuns => "check run listing has no check_runs array"

/-- The payloads in an envelope, and the total that it states. -/
def openEnvelope (envelope : Json) : Except EnvelopeFault (List Json × Option Nat) :=
  match envelope with
  | .obj _ =>
    match envelope.get? "check_runs" with
    | some (.arr items) => .ok (items, statedNumber? "total_count" envelope)
    | _ => .error .noCheckRuns
  | _ => .error .notAnObject

end PullWatch.GitHub
