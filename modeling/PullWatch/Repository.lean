import PullWatch.Instant

/-!
# Watched repositories

A repository is polled again when its interval has passed since the last poll. The most urgent one
comes first: higher priority, then never polled, then longest not polled, then smaller id.

## Main definitions

* `Repository`: a watched repository.
* `Repository.isDue?`: whether it should be polled at a given time.
* `Repository.Precedes`, `Repository.sortByUrgency`: the order of polling.
* `Repository.needingPoll`: the repositories that are due, in that order.
* `RepositoryContext`: what a session keeps of a repository while it works on it.
-/

namespace PullWatch

/-- A repository that has not been registered yet. -/
structure NewRepository where
  owner : String
  name : String
  isActive : Bool := true
  /-- Minutes between two polls. -/
  pollingInterval : UInt32 := 15
  priority : Int32 := 0
  deriving DecidableEq, Repr

/-- A watched repository. -/
structure Repository where
  /-- The row's id. -/
  id : Int
  owner : String
  name : String
  /-- Whether the repository is monitored at present. -/
  isActive : Bool
  /-- Least number of minutes between two polls. -/
  pollingInterval : UInt32
  /-- Repositories with higher priority are polled first. -/
  priority : Int32
  /-- When the repository was last polled with success. -/
  lastPolledAt : Option Instant
  deriving DecidableEq

namespace Repository

/-- Owner and name, joined by a slash. -/
def fullName (r : Repository) : String := r.owner ++ "/" ++ r.name

/-- Whether the repository should be polled: it is active, and it was never polled or its interval
has passed. Absent when the end of the interval lies past the last representable year. -/
def isDue? (r : Repository) (now : Instant) : Option Bool :=
  if r.isActive then
    match r.lastPolledAt with
    | none => some true
    | some last => (last.addMinutes? r.pollingInterval.toNat).map fun next => decide (next ≤ now)
  else some false

/-- `a` is polled before `b`. -/
def Precedes (a b : Repository) : Prop :=
  b.priority < a.priority ∨ (a.priority = b.priority ∧
    match a.lastPolledAt, b.lastPolledAt with
    | none, some _ => True
    | some _, none => False
    | none, none => a.id < b.id
    | some x, some y => x < y ∨ (x = y ∧ a.id < b.id))

instance (a b : Repository) : Decidable (a.Precedes b) := by
  unfold Precedes
  cases a.lastPolledAt <;> cases b.lastPolledAt <;> simp only <;> infer_instance

/-- Repositories in the order of polling. -/
def sortByUrgency (repositories : List Repository) : List Repository :=
  repositories.mergeSort fun a b => !decide (b.Precedes a)

/-- The repositories that are due at a time, most urgent first. One whose interval ends past the
last representable year is never due. -/
def needingPoll (repositories : List Repository) (now : Instant) : List Repository :=
  sortByUrgency (repositories.filter fun r => r.isDue? now = some true)

end Repository

/-- What a session keeps of a repository while it works on it. -/
structure RepositoryContext where
  id : Int
  owner : String
  name : String
  fullName : String
  /-- When the repository was last brought up to date. -/
  lastUpdatedAt : Option Instant
  priority : Int32
  deriving DecidableEq

/-- The context of a repository. -/
def Repository.context (r : Repository) : RepositoryContext :=
  { id := r.id, owner := r.owner, name := r.name, fullName := r.fullName,
    lastUpdatedAt := r.lastPolledAt, priority := r.priority }

end PullWatch
