import PullWatch.CheckRun
import PullWatch.Instant.Printer
import PullWatch.PullRequest

/-!
# Compared attributes

A pull request and a check run each have eight attributes that are compared between passes. A
snapshot holds them, and a difference names one of them with its values before and after.

## Main definitions

* `PullField`, `CheckField`, `ChangedField`: the attributes, with a marker for new records.
* `FieldValue`: a value of any attribute, and `FieldValue.text`, its written form.
* `PullSnapshot`, `CheckSnapshot`: the compared attributes of a record.
* `differences`: the attributes in which two snapshots differ.
-/

namespace PullWatch

/-- The compared attributes of a pull request. -/
inductive PullField where
  /-- Marks a pull request seen for the first time. -/
  | created
  | title
  | state
  | draft
  | headSha
  | baseSha
  | body
  | author
  | lastUpdatedAt
  deriving DecidableEq, Repr

namespace PullField

/-- The attributes compared on every update, in reporting order. -/
def compared : List PullField :=
  [title, state, draft, headSha, baseSha, body, author, lastUpdatedAt]

/-- The name in reports. -/
def name : PullField → String
  | created => "created"
  | title => "title"
  | state => "state"
  | draft => "draft"
  | headSha => "head_sha"
  | baseSha => "base_sha"
  | body => "body"
  | author => "author"
  | lastUpdatedAt => "last_updated_at"

end PullField

/-- The compared attributes of a check run. -/
inductive CheckField where
  /-- Marks a check run seen for the first time. -/
  | created
  | status
  | conclusion
  | outputSummary
  | outputText
  | startedAt
  | completedAt
  | detailsUrl
  | logsUrl
  deriving DecidableEq, Repr

namespace CheckField

/-- The attributes compared on every update, in reporting order. -/
def compared : List CheckField :=
  [status, conclusion, outputSummary, outputText, startedAt, completedAt, detailsUrl, logsUrl]

/-- The name in reports. -/
def name : CheckField → String
  | created => "created"
  | status => "status"
  | conclusion => "conclusion"
  | outputSummary => "output_summary"
  | outputText => "output_text"
  | startedAt => "started_at"
  | completedAt => "completed_at"
  | detailsUrl => "details_url"
  | logsUrl => "logs_url"

end CheckField

/-- An attribute of either kind of record. -/
inductive ChangedField where
  | pull (field : PullField)
  | check (field : CheckField)
  deriving DecidableEq, Repr

/-- The name in reports. -/
def ChangedField.name : ChangedField → String
  | pull f => f.name
  | check f => f.name

/-- A value of an attribute. -/
inductive FieldValue where
  | absent
  | text (value : String)
  | flag (value : Bool)
  | time (value : Instant)
  | state (value : PullState)
  | status (value : CheckStatus)
  | conclusion (value : CheckConclusion)
  deriving DecidableEq

namespace FieldValue

/-- A text that may be absent. -/
def ofText? : Option String → FieldValue
  | some s => text s
  | none => absent

/-- A time that may be absent. -/
def ofTime? : Option Instant → FieldValue
  | some t => time t
  | none => absent

/-- A conclusion that may be absent. -/
def ofConclusion? : Option CheckConclusion → FieldValue
  | some c => conclusion c
  | none => absent

/-- The written form. -/
def written : FieldValue → String
  | absent => "none"
  | text s => s
  | flag true => "true"
  | flag false => "false"
  | time t => t.rfc3339
  | state s => s.name
  | status s => s.name
  | conclusion c => c.name

end FieldValue

/-- One attribute that differs, with its values before and after. -/
structure FieldDiff where
  field : ChangedField
  old : FieldValue
  new : FieldValue
  deriving DecidableEq

/-- The compared attributes of a pull request. -/
structure PullSnapshot where
  title : String
  state : PullState
  draft : Bool
  headSha : String
  baseSha : String
  body : Option String
  author : String
  lastUpdatedAt : Instant
  deriving DecidableEq

/-- The value of an attribute; the marker has none. -/
def PullSnapshot.value (s : PullSnapshot) : PullField → FieldValue
  | .created => .absent
  | .title => .text s.title
  | .state => .state s.state
  | .draft => .flag s.draft
  | .headSha => .text s.headSha
  | .baseSha => .text s.baseSha
  | .body => .ofText? s.body
  | .author => .text s.author
  | .lastUpdatedAt => .time s.lastUpdatedAt

/-- The snapshot of a pull request. -/
def PullRequest.snapshot (p : PullRequest) : PullSnapshot :=
  { title := p.title, state := p.state, draft := p.draft, headSha := p.headSha,
    baseSha := p.baseSha, body := p.body, author := p.author, lastUpdatedAt := p.updatedAt }

/-- The compared attributes of a check run. -/
structure CheckSnapshot where
  status : CheckStatus
  conclusion : Option CheckConclusion
  outputSummary : Option String
  outputText : Option String
  startedAt : Option Instant
  completedAt : Option Instant
  detailsUrl : Option String
  logsUrl : Option String
  deriving DecidableEq

/-- The value of an attribute; the marker has none. -/
def CheckSnapshot.value (s : CheckSnapshot) : CheckField → FieldValue
  | .created => .absent
  | .status => .status s.status
  | .conclusion => .ofConclusion? s.conclusion
  | .outputSummary => .ofText? s.outputSummary
  | .outputText => .ofText? s.outputText
  | .startedAt => .ofTime? s.startedAt
  | .completedAt => .ofTime? s.completedAt
  | .detailsUrl => .ofText? s.detailsUrl
  | .logsUrl => .ofText? s.logsUrl

/-- The snapshot of a check run. -/
def CheckRun.snapshot (c : CheckRun) : CheckSnapshot :=
  { status := c.status, conclusion := c.conclusion, outputSummary := c.outputSummary,
    outputText := c.outputText, startedAt := c.startedAt, completedAt := c.completedAt,
    detailsUrl := c.detailsUrl, logsUrl := c.logsUrl }

/-- The attributes among `fields` in which two readings differ, in the order of `fields`. -/
def differences {φ : Type} (tag : φ → ChangedField) (fields : List φ)
    (old new : φ → FieldValue) : List FieldDiff :=
  (fields.filter fun f => old f ≠ new f).map fun f => ⟨tag f, old f, new f⟩

end PullWatch
