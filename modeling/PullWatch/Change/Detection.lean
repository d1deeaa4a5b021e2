import PullWatch.Change.ChangeSet

/-!
# Detecting changes

Fresh records are compared with stored ones. A record without a stored counterpart is new; one that
agrees with it in every compared attribute is left alone; any other is updated. Stored records that
no longer turn up are not reported.

## Main definitions

* `detectPull`: the event of one pull request, if there is one.
* `detectChecks`: the events of the check runs of one pull request.
* `ChecksByPull`: check runs by pull request number.
* `StoredView`: the two reads that detection makes.
* `detectChanges`: the change set of one repository.
-/

namespace PullWatch

/-- The event of a pull request, given the stored one. -/
def detectPull (old : Option StoredPullRequest) (new : PullRequest) : Option Event :=
  match old with
  | none =>
    let subject := Subject.pullRequest new.number none new.snapshot
    some { kind := .pullCreated, subject, severity := subject.severity,
           diffs := [⟨.pull .created, .absent, .absent⟩] }
  | some old =>
    let diffs := differences .pull PullField.compared old.snapshot.value new.snapshot.value
    if diffs.isEmpty then none
    else
      let subject := Subject.pullRequest new.number (some old.snapshot) new.snapshot
      let kind := if old.state = new.state then .pullUpdated else .pullStateChanged
      some { kind, subject, diffs, severity := subject.severity }

/-- The event of a check run, given the stored one. -/
def detectCheck (old : Option StoredCheckRun) (new : CheckRun) : Option Event :=
  match old with
  | none =>
    let subject := Subject.checkRun new.externalId none new.snapshot
    some { kind := .checkCreated, subject, severity := subject.severity,
           diffs := [⟨.check .created, .absent, .absent⟩] }
  | some old =>
    let diffs := differences .check CheckField.compared old.snapshot.value new.snapshot.value
    if diffs.isEmpty then none
    else
      let subject := Subject.checkRun new.externalId (some old.snapshot) new.snapshot
      let kind :=
        if old.status = new.status ∧ old.conclusion = new.conclusion then .checkUpdated
        else .checkStatusChanged
      some { kind, subject, diffs, severity := subject.severity }

/-- The last of some stored check runs with a given external id. -/
def storedWith (old : List StoredCheckRun) (externalId : UInt64) : Option StoredCheckRun :=
  old.reverse.find? fun c => c.externalId = externalId

/-- The events of fresh check runs, in their order, given the stored ones. -/
def detectChecks (old : List StoredCheckRun) (new : List CheckRun) : List Event :=
  new.filterMap fun c => detectCheck (storedWith old c.externalId) c

/-- Check runs by pull request number, in ascending order of the numbers. -/
abbrev ChecksByPull := List (UInt64 × List CheckRun)

namespace ChecksByPull

/-- The check runs of a pull request, if there is an entry for it. -/
def get? (m : ChecksByPull) (number : UInt64) : Option (List CheckRun) :=
  (m.find? fun e => e.1 = number).map (·.2)

/-- Sets the check runs of a pull request. -/
def insert (number : UInt64) (checks : List CheckRun) : ChecksByPull → ChecksByPull
  | [] => [(number, checks)]
  | (n, old) :: rest =>
    if number < n then (number, checks) :: (n, old) :: rest
    else if number = n then (number, checks) :: rest
    else (n, old) :: insert number checks rest

/-- The number of check runs of all pull requests. -/
def total (m : ChecksByPull) : Nat := (m.flatMap (·.2)).length

end ChecksByPull

/-- The reads of the stored state that detection makes; each may fail. -/
structure StoredView (ε : Type) where
  /-- The pull request with a number. -/
  pull? : UInt64 → Except ε (Option StoredPullRequest)
  /-- The check runs of a stored pull request. -/
  checks : StoredPullRequest → Except ε (List StoredCheckRun)

/-- A read of stored state failed while a pull request was compared. -/
structure DetectionFailure (ε : Type) where
  pullNumber : UInt64
  cause : ε

/-- The changes of the check runs of one pull request. Of several fresh records with one external id
the last one is written. -/
def checkChanges (pullNumber : UInt64) (stored : List StoredCheckRun) (fresh : List CheckRun) :
    List CheckChange :=
  fresh.filterMap fun c => do
    let event ← detectCheck (storedWith stored c.externalId) c
    let record ← fresh.reverse.find? fun d => d.externalId = c.externalId
    some { record, pullNumber, event
           existingId := (storedWith stored c.externalId).map (·.id) }

/-- The changes of one pull request and of its check runs. Without an entry in `checks` its check
runs are left alone. -/
def pullChanges {ε : Type} (view : StoredView ε) (checks : ChecksByPull)
    (fresh : FetchedPullRequest) : Except ε (Option PullChange × List CheckChange) := do
  let stored ← view.pull? fresh.number
  let change := (detectPull stored fresh.toPullRequest).map fun event =>
    { record := fresh, existingId := stored.map (·.id), event : PullChange }
  match checks.get? fresh.number with
  | none => pure (change, [])
  | some freshChecks =>
    let storedChecks ← match stored with
      | some s => view.checks s
      | none => pure []
    pure (change, checkChanges fresh.number storedChecks freshChecks)

/-- The change set of one repository. -/
def detectChanges {ε : Type} (view : StoredView ε) (repositoryId : Int)
    (pulls : List FetchedPullRequest) (checks : ChecksByPull) :
    Except (DetectionFailure ε) ChangeSet := do
  let found ← pulls.mapM fun p =>
    match pullChanges view checks p with
    | .ok changes => .ok changes
    | .error cause => .error { pullNumber := p.number, cause }
  pure (ChangeSet.ofChanges repositoryId (found.filterMap (·.1)) (found.flatMap (·.2)))

end PullWatch
