import PullWatch.Discovery.Listing

/-!
# Lookups that overlap

The check runs of the pull requests of one repository may be looked up side by side. Each lookup
asks the cache first. When the cache has nothing, the service is asked, which takes a while in which
other lookups go on, and what it answered without problems is kept. The lookups share the cache, and
what they found is put together in the order in which they ended.

## Main definitions

* `Lookup`, `LookupOutcome`: a lookup that is under way, and one that is over.
* `Lookup.advance`, `advanceLookups`: a step of one lookup, and of one among several.
* `advanceAllLookups`: steps of several lookups.
* `lookupsTogether`: lookups that take their steps in an order given from outside.
* `gatherLookups`: what they found, put together.
-/

namespace PullWatch

open GitHub (Service)

/-- A lookup of the check runs of a pull request's head commit that is not over. -/
structure Lookup where
  number : UInt64
  sha : String
  /-- What the service answered; absent as long as the cache was not asked. -/
  answer : Option (Discovered (List CheckRun)) := none

/-- A lookup that has yet to ask the cache. -/
def Lookup.of (target : UInt64 × String) : Lookup := { number := target.1, sha := target.2 }

/-- A lookup that is over. -/
structure LookupOutcome where
  number : UInt64
  result : Discovered (List CheckRun)

/-- The cache that lookups share, and those that are over, in the order in which they ended. -/
structure LookupState where
  cache : Cache
  outcomes : List LookupOutcome := []

/-- One step of a lookup: it asks the cache and, in vain, the service; or it keeps what the service
answered. No lookup is left when it is over. -/
def Lookup.advance (service : Service) (maxPages : Nat) (repo : RepositoryContext) (now : Nat)
    (s : LookupState) (l : Lookup) : Option Lookup × LookupState :=
  let key := Cache.checksKey l.sha
  match l.answer with
  | none =>
    match s.cache.findChecks now repo.id key with
    | (some found, cache) =>
      (none, { cache, outcomes := s.outcomes ++ [{ number := l.number, result := { found } }] })
    | (none, cache) =>
      (some { l with answer := some (listChecks service maxPages repo l.sha) }, { s with cache })
  | some result =>
    let cache :=
      if result.problems.isEmpty then s.cache.store now repo.id key (.checks result.found)
      else s.cache
    (none, { cache, outcomes := s.outcomes ++ [{ number := l.number, result }] })

/-- One step of the lookup at a position, if there is one there. -/
def advanceLookups (service : Service) (maxPages : Nat) (repo : RepositoryContext) (now : Nat) :
    Nat → List Lookup → LookupState → List Lookup × LookupState
  | _, [], s => ([], s)
  | 0, l :: rest, s =>
    match l.advance service maxPages repo now s with
    | (some l, s) => (l :: rest, s)
    | (none, s) => (rest, s)
  | k + 1, l :: rest, s =>
    let (rest, s) := advanceLookups service maxPages repo now k rest s
    (l :: rest, s)

/-- Steps of lookups that are not over, each with a position and a reading of the clock. -/
def advanceAllLookups (service : Service) (maxPages : Nat) (repo : RepositoryContext)
    (steps : List (Nat × Nat)) (run : List Lookup × LookupState) : List Lookup × LookupState :=
  steps.foldl (fun run step =>
    advanceLookups service maxPages repo step.2 step.1 run.1 run.2) run

/-- Lookups that take their steps as a schedule says: each entry is the position of a lookup among
those that are not over, and a reading of the clock. How many of them are under way at once is up to
the schedule. What it leaves is done in order, at a last reading; no lookup has more than two steps.
-/
def lookupsTogether (service : Service) (maxPages : Nat) (repo : RepositoryContext)
    (schedule : List (Nat × Nat)) (last : Nat) (targets : List (UInt64 × String)) (cache : Cache) :
    List LookupOutcome × Cache :=
  let steps := schedule ++ .replicate (2 * targets.length) (0, last)
  let ended := advanceAllLookups service maxPages repo steps (targets.map .of, { cache })
  (ended.2.outcomes, ended.2.cache)

/-- What lookups found, put together in their order. Each problem names the number of its pull
request. -/
def gatherLookups (outcomes : List LookupOutcome) : Discovered ChecksByPull :=
  { found := outcomes.foldl (fun m o => m.insert o.number o.result.found) []
    problems := outcomes.flatMap fun o =>
      o.result.problems.map (·.about "pr_number" (toString o.number))
    calls := outcomes.flatMap (·.result.calls) }

end PullWatch
