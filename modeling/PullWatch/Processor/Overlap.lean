import PullWatch.Processor.Pass

/-!
# Passes that overlap

Nothing keeps two passes over one repository apart: a repository may be named twice in a selection,
and a single pass may be asked for beside a session. Each pass then takes its three steps,
discovery, detection and writing, in its own time, and they share the database and the cache. Each
step is taken as a whole, since writing is one transaction.

## Main definitions

* `PassPlan`: a pass that is to be made.
* `PassStage`: how far a pass has come.
* `Shared`: what passes share.
* `PassPlan.advance`: one step of one pass.
* `advanceAt`, `advanceAll`: steps of several passes.
* `passesTogether`: passes that take their steps in an order given from outside.
-/

namespace PullWatch

open GitHub (Call Service)

/-- A pass that is to be made. -/
structure PassPlan where
  service : Service
  now : Moment
  repo : RepositoryContext
  since : Option Instant

/-- How far a pass has come that is not over. -/
inductive PassStage where
  | planned
  /-- It has discovered; its result so far, and what it found. -/
  | discovered (result : RepositoryResult) (findings : Findings)
  /-- It has compared what it found with the database. -/
  | detected (result : RepositoryResult) (changes : ChangeSet)

/-- What passes share, and the results of those that are over, in the order in which they ended. -/
structure Shared where
  db : Database
  cache : Cache
  calls : List Call := []
  results : List RepositoryResult := []

/-- One step of a pass. No stage is left when the pass is over. -/
def PassPlan.advance (plan : PassPlan) (config : Configuration) (faults : Faults) (isTrial : Bool)
    (s : Shared) : PassStage → Option PassStage × Shared
  | .planned =>
    match beginPass plan.service config plan.now plan.repo plan.since s.cache with
    | (.error result, cache, calls) =>
      (none, { s with cache, calls := s.calls ++ calls, results := s.results ++ [result] })
    | (.ok (result, findings), cache, calls) =>
      (some (.discovered result findings), { s with cache, calls := s.calls ++ calls })
  | .discovered result findings =>
    match comparePass faults plan.now plan.repo result findings s.db with
    | .error result => (none, { s with results := s.results ++ [result] })
    | .ok changes => (some (.detected result changes), s)
  | .detected result changes =>
    let pass := finishPass config faults plan.now plan.repo isTrial result changes s.db s.cache []
    (none,
      { s with db := pass.db, cache := pass.cache, results := s.results ++ [pass.result] })

/-- One step of the pass at a position, if there is one there. -/
def advanceAt (config : Configuration) (faults : Faults) (isTrial : Bool) :
    Nat → List (PassPlan × PassStage) → Shared → List (PassPlan × PassStage) × Shared
  | _, [], s => ([], s)
  | 0, (plan, stage) :: rest, s =>
    match plan.advance config faults isTrial s stage with
    | (some stage, s) => ((plan, stage) :: rest, s)
    | (none, s) => (rest, s)
  | k + 1, first :: rest, s =>
    let (rest, s) := advanceAt config faults isTrial k rest s
    (first :: rest, s)

/-- Steps of passes that are not over, in an order given by their positions. -/
def advanceAll (config : Configuration) (faults : Faults) (isTrial : Bool) (steps : List Nat)
    (passes : List (PassPlan × PassStage)) (s : Shared) : List (PassPlan × PassStage) × Shared :=
  steps.foldl (fun (passes, s) k => advanceAt config faults isTrial k passes s) (passes, s)

/-- Passes that take their steps as a schedule says: each entry is the position of a pass among
those that are not over, of which a limited number is under way. What the schedule leaves is done in
order; no pass has more than three steps. -/
def passesTogether (config : Configuration) (faults : Faults) (isTrial : Bool)
    (schedule : List Nat) (plans : List PassPlan) (s : Shared) : Shared :=
  let steps := schedule.filter (· < config.maxConcurrentRepos) ++ .replicate (3 * plans.length) 0
  (advanceAll config faults isTrial steps (plans.map (·, .planned)) s).2

end PullWatch
