import PullWatch.Change.Field

/-!
# Change events

An event says that a record is new or differs from the stored one. It carries the snapshots before
and after, the differing attributes and a severity. Severity comes from an ordered table of rules:
the first rule that applies to the subject decides, and a subject to which none applies is of low
severity.

## Main definitions

* `EventKind`, `Severity`, `Subject`, `Event`: events and their parts.
* `severityRules`, `Subject.severity`: the rules and the severity they give.
* `Event.isActionable`: whether an event is passed on to those who act on it.
-/

namespace PullWatch

/-- What happened to a record. -/
inductive EventKind where
  | pullCreated
  | pullUpdated
  | pullStateChanged
  | checkCreated
  | checkUpdated
  | checkStatusChanged
  deriving DecidableEq, Repr

namespace EventKind

/-- All kinds, in declaration order. -/
def all : List EventKind :=
  [pullCreated, pullUpdated, pullStateChanged, checkCreated, checkUpdated, checkStatusChanged]

/-- The name under which the history records the kind. -/
def name : EventKind → String
  | pullCreated => "pr_created"
  | pullUpdated => "pr_updated"
  | pullStateChanged => "pr_state_changed"
  | checkCreated => "check_run_created"
  | checkUpdated => "check_run_updated"
  | checkStatusChanged => "check_run_status_changed"

/-- The kind belongs to a record seen for the first time. -/
def isCreation : EventKind → Bool
  | pullCreated | checkCreated => true
  | pullUpdated | pullStateChanged | checkUpdated | checkStatusChanged => false

end EventKind

/-- How much an event matters. -/
inductive Severity where
  | low
  | medium
  | high
  | critical
  deriving DecidableEq, Repr

namespace Severity

/-- All severities, from low to critical. -/
def all : List Severity := [low, medium, high, critical]

/-- The name in reports. -/
def name : Severity → String
  | low => "low"
  | medium => "medium"
  | high => "high"
  | critical => "critical"

/-- The place in the order of severities. -/
def rank : Severity → Nat
  | low => 0
  | medium => 1
  | high => 2
  | critical => 3

instance : LE Severity := ⟨fun a b => a.rank ≤ b.rank⟩

instance (a b : Severity) : Decidable (a ≤ b) := inferInstanceAs (Decidable (a.rank ≤ b.rank))

end Severity

/-- What an event is about, with the snapshots before and after. The earlier one is absent for a
record seen for the first time. -/
inductive Subject where
  | pullRequest (number : UInt64) (old : Option PullSnapshot) (new : PullSnapshot)
  | checkRun (externalId : UInt64) (old : Option CheckSnapshot) (new : CheckSnapshot)
  deriving DecidableEq

namespace Subject

/-- The check run's conclusion became a failure. -/
def isNewFailure : Subject → Bool
  | checkRun _ old new =>
    new.conclusion.any (·.isFailure) && old.all fun o => o.conclusion ≠ new.conclusion
  | pullRequest .. => false

/-- The pull request became closed or merged. -/
def isNewlyTerminal : Subject → Bool
  | pullRequest _ old new => new.state.isTerminal && old.all fun o => o.state ≠ new.state
  | checkRun .. => false

/-- The check run became completed, or the pull request left the draft stage. -/
def isCompletedOrReady : Subject → Bool
  | checkRun _ old new =>
    new.status = .completed && old.all fun o => o.status ≠ .completed
  | pullRequest _ old new => old.any (·.draft) && !new.draft

/-- The head or the base commit of a known pull request changed. -/
def hasNewCommits : Subject → Bool
  | pullRequest _ (some old) new => old.headSha ≠ new.headSha || old.baseSha ≠ new.baseSha
  | pullRequest _ none _ => false
  | checkRun .. => false

end Subject

/-- A named condition on a subject and the severity it gives. -/
structure SeverityRule where
  name : String
  applies : Subject → Bool
  severity : Severity

/-- The rules in order; the first that applies decides. -/
def severityRules : List SeverityRule :=
  [{ name := "check_run_failed", applies := Subject.isNewFailure, severity := .high },
   { name := "pr_closed_or_merged", applies := Subject.isNewlyTerminal, severity := .high },
   { name := "check_run_completed_or_pr_ready", applies := Subject.isCompletedOrReady,
     severity := .medium },
   { name := "pr_commits_changed", applies := Subject.hasNewCommits, severity := .medium }]

/-- The severity that the rules give to a subject. -/
def Subject.severity (s : Subject) : Severity :=
  match severityRules.find? fun r => r.applies s with
  | some r => r.severity
  | none => .low

/-- One detected change. -/
structure Event where
  kind : EventKind
  subject : Subject
  diffs : List FieldDiff
  severity : Severity
  deriving DecidableEq

namespace Event

/-- The event with the severity that the rules give. -/
def classified (e : Event) : Event := { e with severity := e.subject.severity }

/-- The differing attributes, in order. -/
def changedFields (e : Event) : List ChangedField := e.diffs.map (·.field)

/-- An attribute is among the differing ones. -/
def changes (e : Event) (field : ChangedField) : Bool := e.diffs.any fun d => d.field = field

/-- The value that an attribute had before, if it differs. -/
def oldValue? (e : Event) (field : ChangedField) : Option FieldValue :=
  (e.diffs.find? fun d => d.field = field).map (·.old)

/-- The event is passed on: its severity is high or above, or it is a new check run that failed, a
pull request that became closed or merged, or a new pull request that is no draft. -/
def isActionable (e : Event) : Bool :=
  decide (Severity.high ≤ e.severity) ||
    match e.subject, e.kind with
    | .checkRun _ _ new, .checkCreated => new.conclusion.any (·.isFailure)
    | .pullRequest _ _ new, .pullCreated => !new.draft
    | .pullRequest .., _ => e.subject.isNewlyTerminal
    | .checkRun .., _ => false

end Event

end PullWatch
