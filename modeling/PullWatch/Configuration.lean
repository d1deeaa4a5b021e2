import PullWatch.PullRequest

/-!
# The configuration

All settings have defaults. A configuration is used only if its settings fit together; the first
setting that does not, in a fixed order, is reported.

## Main definitions

* `Configuration`: the settings and their defaults.
* `ConfigurationFault`: a setting out of its range.
* `Configuration.validate`: the first fault, if there is one.
-/

namespace PullWatch

/-- The settings. -/
structure Configuration where
  /-- Repositories processed at once within a batch. -/
  maxConcurrentRepos : Nat := 5
  /-- Requests under way at once, over all repositories. -/
  maxConcurrentApiCalls : Nat := 10
  /-- Lookups of check runs under way at once, over all repositories. -/
  maxConcurrentCheckDiscoveries : Nat := 5
  /-- Repositories of one batch. -/
  batchSize : Nat := 50
  /-- Changes of one chunk of a transaction. -/
  syncChunkSize : Nat := 100
  /-- The states that discovery asks for. -/
  pullStates : List PullState := [.opened]
  /-- Milliseconds between two batches. -/
  interBatchDelay : Nat := 100
  /-- Seconds after which a session is reported as too long. -/
  sessionTimeout : Nat := 1800
  /-- Megabytes of memory above which use is reported. -/
  memoryLimit : Nat := 1024
  /-- Milliseconds between two samples of resource use. -/
  resourceSampleInterval : Nat := 5000
  /-- Seconds that discovered listings are kept; none are kept when it is zero. -/
  cacheLifetime : Nat := 300
  /-- Pages read of one listing at the most. -/
  maxPagesPerQuery : Nat := 20
  /-- A session ends with the batch in which a repository failed. -/
  stopOnFirstError : Bool := false
  deriving DecidableEq, Repr

/-- A setting out of its range. -/
inductive ConfigurationFault where
  | noConcurrentRepos
  | fewerApiCallsThanRepos (apiCalls repos : Nat)
  | noCheckDiscoveries
  | batchSize (value : Nat)
  | syncChunkSize (value : Nat)
  | memoryLimit
  | noSampleInterval
  | noPages
  | noStates
  deriving DecidableEq, Repr

namespace Configuration

/-- The smallest accepted memory limit. -/
def leastMemoryLimit : Nat := 256

/-- The smallest and the largest size of batches and chunks. -/
def sizeRange : Nat × Nat := (1, 1000)

/-- The size lies in the accepted range. -/
def isSize (n : Nat) : Bool := sizeRange.1 ≤ n ∧ n ≤ sizeRange.2

/-- The first fault, in the order of the report. -/
def validate (c : Configuration) : Except ConfigurationFault Unit :=
  if c.maxConcurrentRepos = 0 then .error .noConcurrentRepos
  else if c.maxConcurrentApiCalls < c.maxConcurrentRepos then
    .error (.fewerApiCallsThanRepos c.maxConcurrentApiCalls c.maxConcurrentRepos)
  else if c.maxConcurrentCheckDiscoveries = 0 then .error .noCheckDiscoveries
  else if ¬ isSize c.batchSize then .error (.batchSize c.batchSize)
  else if ¬ isSize c.syncChunkSize then .error (.syncChunkSize c.syncChunkSize)
  else if c.memoryLimit < leastMemoryLimit then .error .memoryLimit
  else if c.resourceSampleInterval = 0 then .error .noSampleInterval
  else if c.maxPagesPerQuery = 0 then .error .noPages
  else if c.pullStates.isEmpty then .error .noStates
  else .ok ()

end Configuration

namespace ConfigurationFault

/-- The key of the setting. -/
def field : ConfigurationFault → String
  | noConcurrentRepos => "max-concurrent-repos"
  | fewerApiCallsThanRepos _ _ => "max-concurrent-api-calls"
  | noCheckDiscoveries => "max-concurrent-check-discoveries"
  | batchSize _ => "batch-size"
  | syncChunkSize _ => "sync-chunk-size"
  | memoryLimit => "memory-limit-mb"
  | noSampleInterval => "resource-sample-interval-ms"
  | noPages => "max-pages-per-query"
  | noStates => "pr-states"

/-- What a size should have been, and what it is. -/
def sizeReason (n : Nat) : String :=
  "must be in [" ++ toString Configuration.sizeRange.1 ++ ", "
    ++ toString Configuration.sizeRange.2 ++ "], got " ++ toString n

/-- What is wrong with the setting. -/
def reason : ConfigurationFault → String
  | noConcurrentRepos | noCheckDiscoveries | noSampleInterval | noPages => "must be at least 1"
  | fewerApiCallsThanRepos a r =>
    "must be >= max-concurrent-repos (" ++ toString a ++ " < " ++ toString r ++ ")"
  | batchSize n | syncChunkSize n => sizeReason n
  | memoryLimit => "must be at least " ++ toString Configuration.leastMemoryLimit
  | noStates => "must name at least one state"

/-- The wording of the fault. -/
def message (f : ConfigurationFault) : String :=
  "Invalid configuration for '" ++ f.field ++ "': " ++ f.reason

end ConfigurationFault

end PullWatch
