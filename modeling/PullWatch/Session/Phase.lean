/-!
# Modes and phases of a session

A session passes through its phases in a fixed order. From every phase that is not the last it may
also be cleaned up or fail, but it never enters the phase that it is in.

## Main definitions

* `Mode`: how repositories are selected and processed.
* `Phase`, `Phase.mayMoveTo`: the phases and the moves between them.
-/

namespace PullWatch

/-- How a session selects and processes repositories. -/
inductive Mode where
  /-- All monitored repositories, without cutoff and with an empty cache. -/
  | full
  /-- Repositories that are due, with their last poll as cutoff. -/
  | incremental
  /-- As `full`, but without writing. -/
  | dryRun
  deriving DecidableEq, Repr

namespace Mode

/-- All modes, in declaration order. -/
def all : List Mode := [full, incremental, dryRun]

/-- The name in reports. -/
def name : Mode → String
  | full => "full"
  | incremental => "incremental"
  | dryRun => "dry_run"

/-- Nothing is written in this mode. -/
def isDryRun : Mode → Bool
  | dryRun => true
  | full | incremental => false

end Mode

/-- What a session is doing. -/
inductive Phase where
  | initialization
  | discovery
  | changeDetection
  | synchronization
  | cleanup
  | completed
  | failed
  deriving DecidableEq, Repr

namespace Phase

/-- All phases, in declaration order. -/
def all : List Phase :=
  [initialization, discovery, changeDetection, synchronization, cleanup, completed, failed]

/-- The name in reports. -/
def name : Phase → String
  | initialization => "initialization"
  | discovery => "discovery"
  | changeDetection => "change_detection"
  | synchronization => "synchronization"
  | cleanup => "cleanup"
  | completed => "completed"
  | failed => "failed"

/-- A session that has reached this phase is over. -/
def isTerminal : Phase → Bool
  | completed | failed => true
  | initialization | discovery | changeDetection | synchronization | cleanup => false

/-- A session may move from one phase to another. -/
def mayMoveTo (current next : Phase) : Bool :=
  !current.isTerminal && current ≠ next &&
    match current, next with
    | _, cleanup => true
    | _, failed => true
    | initialization, discovery => true
    | discovery, changeDetection => true
    | changeDetection, synchronization => true
    | cleanup, completed => true
    | _, _ => false

end Phase

end PullWatch
