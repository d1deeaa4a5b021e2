import PullWatch.Chunks
import PullWatch.Processor.Error
import PullWatch.Processor.Overlap

/-!
# The processor

A processor runs sessions, one at a time. A session selects repositories, passes over them batch by
batch, sums up their results and records when they were polled. A session that fails after it has
started is cleaned up and reported together with what it had gathered.

What a session meets from outside is given with it: the service's answers, faults of the database,
readings of the clocks, the moments at which a shutdown has been requested, and the order in which
the repositories of a batch take effect. Passes over different repositories do not meet: they are
made one after the other, in the order in which they take effect. Where a batch names a repository
twice, its passes overlap as a schedule says.

## Main definitions

* `Surroundings`: what a session meets from outside.
* `Processor`, `Processor.create`: a processor and its construction.
* `Run`, `RunEvent`: the state of a running session, and the record of what it did.
* `selectRepositories`, `runBatch`, `runBatches`, `runSession`: the parts of a session.
* `Processor.processAll`, `Processor.processOne`: a session, and a pass outside of a session.
-/

namespace PullWatch

open GitHub (Call Service)

/-- What a session meets from outside. Left out are answers of the service that change in the course
of a session: one call has the same answer in all its passes. -/
structure Surroundings where
  service : Service
  faults : Faults := {}
  /-- The n-th reading of the clocks. -/
  clock : Nat → Moment
  /-- Whether a shutdown has been requested when this many requests were begun. -/
  shutdown : Nat → Bool := fun _ => false
  /-- Whether a shutdown has been requested when the clocks were read this often. -/
  shutdownByReading : Nat → Bool := fun _ => false
  /-- The order in which the repositories of a batch take effect. -/
  order : List Repository → List Repository := id
  rearranges : ∀ batch, (order batch).Perm batch := by exact fun batch => .refl batch
  /-- The order in which the passes of a batch take their steps, where they overlap. -/
  schedule : List Repository → List Nat := fun _ => []

/-- Whether a shutdown has been requested when this many requests were begun and the clocks were
read this often. -/
def Surroundings.isShutdown (env : Surroundings) (requests readings : Nat) : Bool :=
  env.shutdown requests || env.shutdownByReading readings

/-- What a session did, as far as others see it. -/
inductive RunEvent where
  /-- The session was shown to observers. -/
  | published (session : Session)
  /-- A request was begun. -/
  | sent (call : Call)

/-- A processor. -/
structure Processor where
  config : Configuration
  cache : Cache
  /-- A shutdown was requested; it stays so. -/
  isShutdown : Bool := false
  /-- A session is running. -/
  isRunning : Bool := false
  /-- The running session, as observers see it. -/
  live : Option Session := none

/-- The largest limit on concurrent work. -/
def largestLimit : Nat := UInt64.size / 8 - 1

namespace Processor

/-- Nanoseconds of a second. -/
def ticksPerSecond : Nat := 1000000000

/-- A processor with an empty cache, if the configuration is usable. -/
def create (config : Configuration) : Except ProcessorError Processor :=
  match config.validate with
  | .error fault => .error (.configuration fault)
  | .ok () =>
    let limits :=
      [config.maxConcurrentApiCalls, config.maxConcurrentCheckDiscoveries,
       config.maxConcurrentRepos]
    match limits.find? fun n => largestLimit < n with
    | some limit => .error (.limitTooLarge limit)
    | none => .ok { config, cache := { lifetime := config.cacheLifetime * ticksPerSecond } }

/-- The processor after a request for a shutdown. -/
def requestShutdown (p : Processor) : Processor := { p with isShutdown := true }

/-- What an observer sees. -/
def status (p : Processor) : Status :=
  match p.live with
  | some session => session.status
  | none => .idle

/-- The processor with a session begun; absent when one is running. -/
def begin? (p : Processor) : Option Processor :=
  if p.isRunning then none else some { p with isRunning := true }

/-- The processor with a session shown to observers. -/
def publish (p : Processor) (session : Session) : Processor := { p with live := some session }

/-- The processor after the end of its session. -/
def finish (p : Processor) : Processor := { p with live := none, isRunning := false }

end Processor

/-! ### The state of a running session -/

/-- The state of a running session. -/
structure Run where
  session : Session
  /-- The results, in the order in which they took effect. -/
  results : List RepositoryResult := []
  db : Database
  cache : Cache
  /-- Readings taken of the clocks. -/
  readings : Nat := 0
  /-- Requests begun. -/
  requests : Nat := 0
  trace : List RunEvent := []

/-- A step of a session, which may end it with an error. The state is kept in either case. -/
abbrev Step (α : Type) := ExceptT ProcessorError (StateM Run) α

namespace Run

/-- The state after a pass. -/
def addPass (r : Run) (p : Pass) : Run :=
  { r with
    db := p.db
    cache := p.cache
    results := r.results ++ [p.result]
    requests := r.requests + p.calls.length
    trace := r.trace ++ p.calls.map .sent }

/-- What the passes of the session share, when they begin together. -/
def shared (r : Run) : Shared := { db := r.db, cache := r.cache }

/-- The state after passes that were made together. -/
def addShared (r : Run) (s : Shared) : Run :=
  { r with
    db := s.db
    cache := s.cache
    results := r.results ++ s.results
    requests := r.requests + s.calls.length
    trace := r.trace ++ s.calls.map .sent }

/-- The state with the session shown to observers. -/
def publish (r : Run) : Run := { r with trace := r.trace ++ [.published r.session] }

/-- The state with one more warning. -/
def warn (r : Run) (warning : String) : Run := { r with session := r.session.warn warning }

end Run

namespace Step

/-- Reads the clocks. -/
def now (env : Surroundings) : Step Moment := do
  let r ← get
  set { r with readings := r.readings + 1 }
  pure (env.clock r.readings)

/-- Moves the session to another phase. -/
def enter (env : Surroundings) (next : Phase) : Step Unit := do
  let moment ← now env
  let r ← get
  match r.session.enter? next moment.time with
  | some session => set { r with session }
  | none => throw (.invalidTransition r.session.phase next)

/-- Shows the session to observers. -/
def publish : Step Unit := modify Run.publish

end Step

/-! ### Selection -/

/-- The repository of an id. -/
def selectId (db : Database) (faults : Faults) (id : Int) : Except ProcessorError Repository :=
  match Faults.strike (faults.repository id) (db.repository? id) with
  | .error cause => .error (.store cause)
  | .ok none => .error (.unknownRepository id)
  | .ok (some repository) => .ok repository

/-- The repositories of a session: those of the given ids, or those that are due, or all monitored
ones. -/
def selectRepositories (db : Database) (faults : Faults) (ids : Option (List Int)) (mode : Mode)
    (now : Instant) : Except ProcessorError (List Repository) :=
  match ids with
  | some ids => ids.mapM (selectId db faults)
  | none =>
    let selected :=
      match mode with
      | .incremental => Faults.strike faults.active (db.needingPoll now)
      | .full | .dryRun =>
        (Faults.strike faults.active db.activeRepositories).map Repository.sortByUrgency
    selected.mapError .store

/-! ### Batches -/

/-- The cutoff of a pass. -/
def cutoff (mode : Mode) (repository : Repository) : Option Instant :=
  match mode with
  | .incremental => repository.lastPolledAt
  | .full | .dryRun => none

/-- A pass over one repository of a session. -/
def passOver (env : Surroundings) (config : Configuration) (repository : Repository) :
    Step RepositoryResult := do
  let moment ← Step.now env
  let r ← get
  let mode := r.session.mode
  let pass :=
    runPass env.service config env.faults moment repository.context (cutoff mode repository)
      mode.isDryRun r.db r.cache
  set (r.addPass pass)
  pure pass.result

/-- The plan of a pass over a repository of a session. -/
def planPass (env : Surroundings) (mode : Mode) (repository : Repository) : Step PassPlan := do
  let moment ← Step.now env
  pure
    { service := env.service, now := moment, repo := repository.context
      since := cutoff mode repository }

/-- Passes over repositories of a session that overlap. -/
def passOverTogether (env : Surroundings) (config : Configuration) (batch : List Repository) :
    Step (List RepositoryResult) := do
  let r ← get
  let mode := r.session.mode
  let plans ← batch.mapM (planPass env mode)
  let r ← get
  let s :=
    passesTogether config env.faults mode.isDryRun (env.schedule batch) plans r.shared
  set (r.addShared s)
  pure s.results

/-- The warning about a session that takes too long, unless it was given before. -/
def checkTime (config : Configuration) (moment : Moment) (isReported : Bool) : Step Bool := do
  let r ← get
  if !isReported && config.sessionTimeout * Processor.ticksPerSecond
      < r.session.duration moment.time then
    set (r.warn ("Session exceeded " ++ toString config.sessionTimeout ++ "s time ceiling"))
    pure true
  else pure isReported

/-- Passes of the batch may meet: several are under way, and a repository is named twice. -/
def passesMeet (config : Configuration) (batch : List Repository) : Bool :=
  1 < config.maxConcurrentRepos ∧ ¬ (batch.map (·.id)).Nodup

/-- Passes over the repositories of a batch in the order in which they take effect. -/
def passOverAll (env : Surroundings) (config : Configuration) (batch : List Repository) :
    Step (List RepositoryResult) :=
  if passesMeet config batch then passOverTogether env config batch
  else batch.mapM (passOver env config)

/-- Passes over the repositories of a batch. The results are those of the batch. -/
def runBatch (env : Surroundings) (config : Configuration) (batch : List Repository) :
    Step (List RepositoryResult) := do
  let results ← passOverAll env config (env.order batch)
  modify fun r => { r with session := results.foldl Session.record r.session }
  pure results

/-- Runs the batches one after the other. Before each, a requested shutdown ends the series with a
warning. After each, a failure ends the session if it is to end with the first failure. -/
def runBatches (env : Surroundings) (config : Configuration) (isShutdown : Bool) :
    List (List Repository) → Bool → Step Unit
  | [], _ => pure ()
  | batch :: rest, isReported => do
    let r ← get
    if isShutdown || env.isShutdown r.requests r.readings then
      let remaining := (batch :: rest).flatten.length
      set (r.warn
        ("Shutdown requested; " ++ toString remaining ++ " repositories not processed"))
    else
      let results ← runBatch env config batch
      let moment ← Step.now env
      let isReported ← checkTime config moment isReported
      Step.publish
      match results.find? fun r => !r.success with
      | some failed =>
        if config.stopOnFirstError then throw (.aborted failed.repository)
        else runBatches env config isShutdown rest isReported
      | none => runBatches env config isShutdown rest isReported

/-! ### Sessions -/

/-- The ids in their order, each with the number of times that it stands before. -/
def occurrences : List Int → List Int → List (Int × Nat)
  | _, [] => []
  | earlier, id :: rest => (id, earlier.count id) :: occurrences (id :: earlier) rest

/-- Records that a repository was polled, for which this was done some times before; a failure
becomes a warning. -/
def markPolled (env : Surroundings) (time : Instant) : Int × Nat → Step Unit
  | (id, times) => do
    let r ← get
    match Faults.strike (env.faults.mark id times) (r.db.markPolled id time) with
    | .ok db => set { r with db }
    | .error e =>
      set (r.warn ("Failed to record poll time for " ++ toString id ++ ": " ++ e.message))

/-- Selects the repositories of a session; a full session empties the cache once they are known. -/
def selectAll (env : Surroundings) (ids : Option (List Int)) : Step (List Repository) := do
  let moment ← Step.now env
  let r ← get
  match selectRepositories r.db env.faults ids r.session.mode moment.time with
  | .error e => throw e
  | .ok repositories =>
    set { r with
      session := { r.session with totalRepositories := repositories.length }
      cache := if r.session.mode = Mode.full then r.cache.clear else r.cache }
    pure repositories

/-- The work of a session, from selection to the recording of polls. -/
def runSession (env : Surroundings) (config : Configuration) (isShutdown : Bool)
    (ids : Option (List Int)) : Step Unit := do
  let repositories ← selectAll env ids
  Step.enter env .discovery
  Step.publish
  runBatches env config isShutdown (chunks config.batchSize repositories) false
  Step.enter env .changeDetection
  Step.publish
  let r ← get
  if !r.session.mode.isDryRun then
    Step.enter env .synchronization
    Step.publish
    let moment ← Step.now env
    let r ← get
    let succeeded := (r.results.filter (·.success)).map (·.repositoryId)
    (occurrences [] succeeded).forM (markPolled env moment.time)

/-- The kind of problem that a failure in a phase is. -/
def Phase.problemKind : Phase → ProblemKind
  | .changeDetection => .changeDetectionFailure
  | .synchronization | .cleanup => .synchronizationFailure
  | .initialization | .discovery | .completed | .failed => .discoveryFailure

/-- The session in another phase, or as it is when it may not move there. -/
def Session.enterIfAllowed (s : Session) (next : Phase) (time : Instant) : Session :=
  (s.enter? next time).getD s

/-- The end of a session whose work is done. -/
def concludeSession (env : Surroundings) : Step Unit := do
  let moment ← Step.now env
  modify fun r => { r with session := r.session.enterIfAllowed .cleanup moment.time }
  Step.enter env .completed

/-- The end of a session whose work failed: the failure is recorded and what can be saved is kept.
-/
def recoverSession (env : Surroundings) (e : ProcessorError) (r : Run) : Run :=
  let problem : Problem := { kind := r.session.phase.problemKind, message := e.message }
  let session := { r.session.addProblem problem with recoveryAttempted := true }
  let session := session.enterIfAllowed .cleanup (env.clock r.readings).time
  let session := session.enterIfAllowed .failed (env.clock (r.readings + 1)).time
  { r with session, readings := r.readings + 2 }

/-- What a call left behind: its outcome, the processor, the database and the record of what was
done. -/
structure Outcome (α : Type) where
  result : Except ProcessorError α
  processor : Processor
  db : Database
  trace : List RunEvent := []
  /-- Readings taken of the clocks. -/
  readings : Nat := 0

/-- What a session left behind, from its outcome and its state. -/
def Processor.conclude (p : Processor) (env : Surroundings) (result : Except ProcessorError Unit)
    (r : Run) : Outcome Batch :=
  let batch : Batch := { session := r.session, results := r.results }
  { result := result.map fun _ => batch
    processor :=
      { p with
        cache := r.cache
        isShutdown := p.isShutdown || env.isShutdown r.requests r.readings }.finish
    db := r.db, trace := r.trace, readings := r.readings }

/-- Runs a session over the repositories of the given ids, or over those that its mode selects. -/
def Processor.processAll (p : Processor) (env : Surroundings) (db : Database)
    (ids : Option (List Int)) (mode : Mode) : Outcome Batch :=
  match p.begin? with
  | none => { result := .error .alreadyRunning, processor := p, db }
  | some p =>
    let session := Session.start mode (env.clock 0).time
    let first : Run :=
      { session, db, cache := p.cache, readings := 1, trace := [.published session] }
    match (runSession env p.config p.isShutdown ids).run first with
    | (.ok (), r) =>
      match (concludeSession env).run r with
      | (.ok (), r) => p.conclude env (.ok ()) r
      | (.error e, r) => p.conclude env (.error e) r
    | (.error e, r) =>
      let r := recoverSession env e r
      p.conclude env (.error (.sessionFailed { session := r.session, results := r.results } e)) r

/-- Passes over one repository outside of a session. -/
def Processor.processOne (p : Processor) (env : Surroundings) (db : Database) (id : Int)
    (since : Option Instant) (isTrial : Bool) : Outcome RepositoryResult :=
  match selectId db env.faults id with
  | .error e => { result := .error e, processor := p, db }
  | .ok repository =>
    let pass :=
      runPass env.service p.config env.faults (env.clock 0) repository.context since isTrial db
        p.cache
    { result := .ok pass.result, processor := { p with cache := pass.cache }, db := pass.db
      trace := pass.calls.map .sent, readings := 1 }

end PullWatch
