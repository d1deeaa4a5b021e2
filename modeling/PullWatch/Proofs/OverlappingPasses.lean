import PullWatch.Proofs.Overlap
import PullWatch.Proofs.PassesAbreast
import PullWatch.Proofs.TransparentCache

/-!
# Passes whose lookups overlap

A pass may look up the check runs of several pull requests at once, and other passes may end between
its detection and its transaction. While the service answers equal requests equally, such a pass
ends like one that nothing interrupts: what it finds is what the service shows, but for the order in
which lookups meet their problems, and what it writes concerns its own repository. There is one
exception. Discovery may bring a number twice, as when a listing shifts under its pages, and with
another head commit the second time. Then the check runs of either commit may be looked up last.

## Main definitions

* `discoverTogether`: discovery whose lookups overlap.
* `OneHead`: no number is discovered open with two head commits.
* `concludePass`: what a pass makes of its discovery.
* `RepositoryResult.Agrees`: results are the same but for times and the order of problems.

## Main results

* `discoverTogether_agrees`: what overlapping lookups find is what the service shows.
* `concludePass_agrees`: passes that have discovered the same end alike.
-/

namespace PullWatch

open GitHub (Service)
open Outcome (Both)
open Database (Abreast)

/-! ### Discovery -/

/-- Discovery whose lookups of check runs overlap: those under way at once are no more than the
configuration allows, and what their schedule leaves is done in order. -/
def discoverTogether (service : Service) (config : Configuration) (timing : Timing)
    (repo : RepositoryContext) (since : Option Instant) (cache : Cache) :
    Except (List Problem) Findings × Cache :=
  let (listed, cache) := discoverPulls service config.maxPagesPerQuery timing.reading repo
    config.pullStates since cache
  if listed.found.isEmpty && allListingsFailed config.pullStates listed.problems then
    (.error listed.problems, cache)
  else
    let schedule := timing.schedule.filter (·.1 < config.maxConcurrentCheckDiscoveries)
    let (outcomes, cache) := lookupsTogether service config.maxPagesPerQuery repo schedule
      timing.reading (checkTargets listed.found) cache
    let looked := gatherLookups outcomes
    (.ok { pulls := listed.found, checks := looked.found
           problems := listed.problems ++ looked.problems },
     cache)

/-- No number is discovered open with two head commits. -/
def OneHead (service : Service) (config : Configuration) (repo : RepositoryContext)
    (since : Option Instant) : Prop :=
  let found := (listPulls service config.maxPagesPerQuery repo config.pullStates since).found
  ∀ target ∈ checkTargets found, ∀ other ∈ checkTargets found,
    target.1 = other.1 → target.2 = other.2

/-- Findings are the same but for the order of problems. -/
structure Findings.Agrees (f f' : Findings) : Prop where
  pulls : f.pulls = f'.pulls
  checks : f.checks = f'.checks
  problems : f.problems.Perm f'.problems

section Discovery

variable {service : Service} {config : Configuration} {repo : RepositoryContext}
  {since : Option Instant} {cache : Cache} {names : Names}

/-- Without a schedule lookups are made one after the other, as a pass makes them that nothing
interrupts. -/
theorem discoverTogether_nil (now : Moment) :
    discoverTogether service config { reading := now.ticks } repo since cache =
      ((discover service config now repo since cache).1,
        (discover service config now repo since cache).2.1) := by
  simp only [discoverTogether, discover, List.filter_nil, discoverChecksByPull_eq]
  split_ifs <;> rfl

/-- Discovery keeps nothing but what the service shows. -/
theorem Cache.Faithful.discoverTogether
    (h : cache.Faithful service config.maxPagesPerQuery names) (hrepo : repo.IsNamed names)
    (timing : Timing) (since : Option Instant) :
    (PullWatch.discoverTogether service config timing repo since cache).2.Faithful service
      config.maxPagesPerQuery names := by
  obtain ⟨-, -, hlisted⟩ := h.discoverPulls hrepo timing.reading config.pullStates since
  rw [PullWatch.discoverTogether]
  simp only
  split_ifs
  · exact hlisted
  · exact (hlisted.lookups hrepo _ timing.reading _).2

/-- The check runs that lookups have found, by pull request, in whatever order the lookups ended. -/
theorem gatherLookups_found_of_perm {outcomes : List LookupOutcome}
    {targets : List (UInt64 × String)}
    (hperm : (outcomes.map LookupOutcome.seen).Perm
      (targets.map (shownLookup service config.maxPagesPerQuery repo)))
    (hone : ∀ target ∈ targets, ∀ other ∈ targets, target.1 = other.1 → target.2 = other.2) :
    (gatherLookups outcomes).found = shownChecks service config repo targets := by
  have hsame : ∀ x ∈ outcomes.map LookupOutcome.seen, ∀ y ∈ outcomes.map LookupOutcome.seen,
      x.1 = y.1 → x.2.1 = y.2.1 := by
    intro x hx y hy hnumber
    obtain ⟨target, htarget, rfl⟩ := List.mem_map.1 (hperm.subset hx)
    obtain ⟨other, hother, rfl⟩ := List.mem_map.1 (hperm.subset hy)
    have hhead : target.2 = other.2 := hone target htarget other hother hnumber
    simp only [shownLookup, hhead]
  rw [gatherLookups_found, hperm.foldl_eq' (fun x hx y hy m => ?_) [], List.foldl_map]
  · rfl
  · by_cases hnumber : x.1 = y.1
    · rw [hnumber, hsame x hx y hy hnumber]
    · exact ChecksByPull.insert_comm hnumber x.2.1 y.2.1 m

/-- What overlapping lookups find is what the service shows. -/
theorem discoverTogether_agrees (h : cache.Faithful service config.maxPagesPerQuery names)
    (hrepo : repo.IsNamed names) (hone : OneHead service config repo since) (timing : Timing) :
    Both Findings.Agrees (discoverTogether service config timing repo since cache).1
      (shown service config repo since) := by
  obtain ⟨hfound, hproblems, hlisted⟩ :=
    h.discoverPulls hrepo timing.reading config.pullStates since
  rw [discoverTogether, shown]
  simp only [hfound, hproblems]
  split_ifs
  · exact .error _
  · obtain ⟨hperm, -⟩ := hlisted.lookups hrepo
      (timing.schedule.filter (·.1 < config.maxConcurrentCheckDiscoveries)) timing.reading
      (checkTargets (listPulls service config.maxPagesPerQuery repo config.pullStates since).found)
    refine .ok ⟨rfl, gatherLookups_found_of_perm hperm hone, List.Perm.append_left _ ?_⟩
    rw [gatherLookups_problems, shownProblems]
    refine (hperm.flatMap_right _).trans ?_
    rw [List.flatMap_map]
    rfl

end Discovery

/-! ### Results -/

/-- The result without its times and its problems. -/
def RepositoryResult.bare (r : RepositoryResult) : RepositoryResult :=
  { r.untimed with problems := [] }

/-- Results are the same but for times and the order of problems. -/
structure RepositoryResult.Agrees (r r' : RepositoryResult) : Prop where
  bare : r.bare = r'.bare
  problems : r.problems.Perm r'.problems

namespace RepositoryResult.Agrees

variable {r r' r'' : RepositoryResult}

theorem of_untimed (h : r.untimed = r'.untimed) : r.Agrees r' := by
  have hproblems : r.untimed.problems = r'.untimed.problems := congrArg RepositoryResult.problems h
  exact ⟨congrArg (fun r => { r with problems := [] }) h, .of_eq hproblems⟩

theorem symm (h : r.Agrees r') : r'.Agrees r := ⟨h.bare.symm, h.problems.symm⟩

theorem trans (h : r.Agrees r') (h' : r'.Agrees r'') : r.Agrees r'' :=
  ⟨h.bare.trans h'.bare, h.problems.trans h'.problems⟩

theorem success_eq (h : r.Agrees r') : r.success = r'.success := by
  have hsuccess : r.bare.success = r'.bare.success := congrArg RepositoryResult.success h.bare
  exact hsuccess

end RepositoryResult.Agrees

/-! ### What a pass makes of its discovery -/

/-- What a pass reports and leaves, whose detection reads the database `seen` and whose transaction
finds the database `db`. -/
def concludePass (config : Configuration) (faults : Faults) (now : Moment)
    (repo : RepositoryContext) (isTrial : Bool) (seen db : Database) :
    Except (List Problem) Findings → RepositoryResult × Database
  | .error problems =>
    let result := RepositoryResult.start repo now.time
    ((result.withProblems problems).fail .discoveryFailure now.time, db)
  | .ok findings =>
    let result :=
      { (RepositoryResult.start repo now.time).withProblems findings.problems with
        pullsDiscovered := findings.pulls.length
        checksDiscovered := findings.checks.total }
    match comparePass faults now repo result findings seen with
    | .error result => (result, db)
    | .ok changes =>
      let pass := finishPass config faults now repo isTrial result changes db { lifetime := 0 } []
      (pass.result, pass.db)

section Conclusion

variable {service : Service} {config : Configuration} {faults : Faults} {now now' : Moment}
  {repo : RepositoryContext} {since : Option Instant} {isTrial : Bool}
  {seen db start : Database} {cache : Cache} {changes changes' : ChangeSet}
  {result : RepositoryResult} {problems : List Problem} {x x' : Except (List Problem) Findings}

/-- A pass that nothing interrupts. -/
theorem runPass_eq_concludePass :
    let pass := runPass service config faults now repo since isTrial db cache
    (pass.result, pass.db) =
      concludePass config faults now repo isTrial db db
        (discover service config now repo since cache).1 := by
  rw [runPass, beginPass]
  rcases discover service config now repo since cache with ⟨problems | findings, later, calls⟩
  · rfl
  · simp only [concludePass]
    cases comparePass faults now repo _ findings db with
    | error result => rfl
    | ok changes => exact Prod.ext (finishPass_result _ _ _ _) (finishPass_db _ _ _ _)

theorem concludePass_repositoryId :
    (concludePass config faults now repo isTrial seen db x).1.repositoryId = repo.id := by
  cases x with
  | error problems => rfl
  | ok findings =>
    simp only [concludePass, comparePass]
    cases detect seen faults repo.id findings with
    | error failure => rfl
    | ok changes =>
      simp only [Except.mapError, finishPass]
      split_ifs
      · rfl
      · cases synchronize faults config.syncChunkSize repo.id now.time changes db <;> rfl

/-- The order of the problems that discovery has met does not matter to what is written. -/
theorem finishPass_reorder (config : Configuration) (faults : Faults) (now : Moment)
    (repo : RepositoryContext) (isTrial : Bool) (changes : ChangeSet) (db : Database)
    (cache : Cache) (calls : List GitHub.Call) (h : result.problems.Perm problems) :
    let pass := finishPass config faults now repo isTrial result changes db cache calls
    let pass' :=
      finishPass config faults now repo isTrial { result with problems } changes db cache calls
    pass.result.Agrees pass'.result ∧ pass.db = pass'.db := by
  rw [finishPass, finishPass]
  split_ifs
  · exact ⟨⟨rfl, h⟩, rfl⟩
  · cases synchronize faults config.syncChunkSize repo.id now.time changes db with
    | error cause => exact ⟨⟨rfl, h.append_right _⟩, rfl⟩
    | ok written => exact ⟨⟨rfl, h⟩, rfl⟩

/-- The last steps of two passes whose results agree so far. -/
theorem finishPass_agrees {result' : RepositoryResult} {cache' : Cache}
    {calls calls' : List GitHub.Call} (h : Abreast repo.id db start db start)
    (hchanges : changes.Matches repo.id db start changes') (hresult : result.Agrees result') :
    let pass := finishPass config faults now repo isTrial result changes db cache calls
    let pass' := finishPass config faults now' repo isTrial result' changes' start cache' calls'
    pass.result.Agrees pass'.result ∧ Abreast repo.id db start pass.db pass'.db := by
  intro pass pass'
  let reordered : RepositoryResult := { result with problems := result'.problems }
  have huntimed : reordered.untimed = result'.untimed :=
    congrArg (fun r => { r with problems := result'.problems }) hresult.bare
  let between := finishPass config faults now repo isTrial reordered changes db cache calls
  obtain ⟨hbetween, hdb⟩ : pass.result.Agrees between.result ∧ pass.db = between.db :=
    finishPass_reorder config faults now repo isTrial changes db cache calls hresult.problems
  obtain ⟨hsame, habreast⟩ : between.result.untimed = pass'.result.untimed ∧
      Abreast repo.id db start between.db pass'.db :=
    finishPass_abreast h hchanges huntimed
  exact ⟨hbetween.trans (.of_untimed hsame), hdb ▸ habreast⟩

/-- Changes match those of another database also when rows have been added in the meantime. -/
theorem ChangeSet.Matches.extend {repositoryId : Int} {db later db' : Database}
    (h : changes.Matches repositoryId db db' changes') (hextends : db.Extends later) :
    changes.Matches repositoryId later db' changes' := by
  have hpull (c c' : PullChange) (hc : c.Matches repositoryId db db' c') :
      c.Matches repositoryId later db' c' :=
    { hc with existing := rel_mono hc.existing fun _ _ hat => ⟨hextends.pullAt hat.1, hat.2⟩ }
  have hcheck (c c' : CheckChange) (hc : c.Matches repositoryId db db' c') :
      c.Matches repositoryId later db' c' :=
    { hc with existing := rel_mono hc.existing fun _ _ ⟨externalId, hat, hat'⟩ =>
        ⟨externalId, hextends.checkAt hat, hat'⟩ }
  exact ⟨h.newPulls.imp hpull, h.updatedPulls.imp hpull, h.newChecks.imp hcheck,
    h.updatedChecks.imp hcheck⟩

/-- A pass whose detection and transaction find the dossiers of its repository as they were at the
start ends like a pass that is made at the start, if the discoveries agree. -/
theorem concludePass_agrees (h : Both Findings.Agrees x x')
    (hseen : Abreast repo.id seen start seen start) (hdb : Abreast repo.id db start db start)
    (hextends : seen.Extends db) (now now' : Moment) :
    let ended := concludePass config faults now repo isTrial seen db x
    let ended' := concludePass config faults now' repo isTrial start start x'
    ended.1.Agrees ended'.1 ∧ Abreast repo.id db start ended.2 ended'.2 := by
  cases h with
  | error problems => exact ⟨.of_untimed rfl, hdb⟩
  | @ok f f' hf =>
    obtain ⟨pulls, checks, problems⟩ := f
    obtain ⟨pulls', checks', problems'⟩ := f'
    obtain ⟨rfl, rfl, hproblems⟩ := hf
    have hdetect := both_detect hseen faults ⟨pulls, checks, problems⟩
    have hsame : detect start faults repo.id ⟨pulls, checks, problems'⟩ =
        detect start faults repo.id ⟨pulls, checks, problems⟩ := rfl
    simp only [concludePass, comparePass, hsame]
    generalize detect seen faults repo.id ⟨pulls, checks, problems⟩ = found,
      detect start faults repo.id ⟨pulls, checks, problems⟩ = found' at hdetect
    cases hdetect with
    | error failure => exact ⟨⟨rfl, hproblems.append_right _⟩, hdb⟩
    | ok hchanges =>
      exact finishPass_agrees hdb (hchanges.extend hextends) ⟨rfl, hproblems⟩

/-- A pass that nothing interrupts, whose cache holds nothing of its repository, ends like a pass
that is made at the start and finds what the service shows. -/
theorem runPass_agrees (hcache : ∀ e ∈ cache.entries, e.repositoryId ≠ repo.id)
    (h : Abreast repo.id db start db start) (now now' : Moment) :
    let pass := runPass service config faults now repo since isTrial db cache
    let ended := concludePass config faults now' repo isTrial start start
      (shown service config repo since)
    pass.result.Agrees ended.1 ∧ pass.db.dossiers repo.id = ended.2.dossiers repo.id := by
  intro pass ended
  have hpass : (pass.result, pass.db) =
      concludePass config faults now repo isTrial db db (shown service config repo since) := by
    rw [← discover_of_forall_ne hcache]
    exact runPass_eq_concludePass
  have hsame : Both Findings.Agrees (shown service config repo since)
      (shown service config repo since) := by
    cases shown service config repo since with
    | error problems => exact .error problems
    | ok f => exact .ok ⟨rfl, rfl, .refl _⟩
  obtain ⟨hresult, hdb⟩ :
      (pass.result, pass.db).1.Agrees ended.1 ∧
        Abreast repo.id db start (pass.result, pass.db).2 ended.2 :=
    hpass ▸ concludePass_agrees hsame h h (.refl db) now now'
  exact ⟨hresult, hdb.dossiers⟩

end Conclusion

end PullWatch
