import PullWatch.Change.Event

/-!
# Change sets

A change set collects what one pass found to write for one repository: new and updated pull
requests, and new and updated check runs.

## Main definitions

* `PullChange`, `CheckChange`: a record to write, the row it replaces and the event.
* `ChangeSet.ofChanges`: changes sorted into the four parts.
* `ChangeSet.total`, `ChangeSet.events`: the number of changes, and their events.
-/

namespace PullWatch

/-- A pull request to write. -/
structure PullChange where
  record : FetchedPullRequest
  /-- The row to replace; absent for a new record. -/
  existingId : Option Int
  event : Event

/-- A check run to write. -/
structure CheckChange where
  record : CheckRun
  /-- The number of the pull request whose head commit the check ran on. -/
  pullNumber : UInt64
  /-- The row to replace; absent for a new record. -/
  existingId : Option Int
  event : Event

/-- What one pass found to write for one repository. -/
structure ChangeSet where
  repositoryId : Int
  newPulls : List PullChange
  updatedPulls : List PullChange
  newChecks : List CheckChange
  updatedChecks : List CheckChange

namespace ChangeSet

/-- No changes. -/
def empty (repositoryId : Int) : ChangeSet :=
  { repositoryId, newPulls := [], updatedPulls := [], newChecks := [], updatedChecks := [] }

/-- Changes sorted by whether they replace a row, in their order. -/
def ofChanges (repositoryId : Int) (pulls : List PullChange) (checks : List CheckChange) :
    ChangeSet :=
  { repositoryId
    newPulls := pulls.filter fun c => c.existingId.isNone
    updatedPulls := pulls.filter fun c => c.existingId.isSome
    newChecks := checks.filter fun c => c.existingId.isNone
    updatedChecks := checks.filter fun c => c.existingId.isSome }

/-- The number of changes. -/
def total (s : ChangeSet) : Nat :=
  s.newPulls.length + s.updatedPulls.length + s.newChecks.length + s.updatedChecks.length

/-- There is something to write. -/
def hasChanges (s : ChangeSet) : Bool := 0 < s.total

/-- The events of all changes: pull requests before check runs, new before updated. -/
def events (s : ChangeSet) : List Event :=
  (s.newPulls ++ s.updatedPulls).map (·.event) ++ (s.newChecks ++ s.updatedChecks).map (·.event)

/-- The events that are passed on. -/
def actionableEvents (s : ChangeSet) : List Event := s.events.filter Event.isActionable

theorem length_events (s : ChangeSet) : s.events.length = s.total := by
  simp [events, total]
  omega

end ChangeSet

end PullWatch
