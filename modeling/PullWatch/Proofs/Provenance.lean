import PullWatch.Proofs.DetectedChanges
import PullWatch.Proofs.Listings
import PullWatch.Proofs.Series
import PullWatch.Proofs.Succession

/-!
# Where records come from

Discovery makes up no record. Everything that it finds was accepted from a payload that the service
showed it, or was kept in the cache; and it keeps nothing but what it has found. So as long as all
payloads that are accepted hold records of some kind, the cache holds records of that kind, passes
find records of that kind, and these are what they write.

## Main definitions

* `Sources`: the records that payloads hold, and the times that clocks read.
* `GitHub.Service.DrawnFrom`, `PassPlan.DrawnFrom`: what is accepted and read is among the sources.
* `Cache.DrawnFrom`, `Findings.DrawnFrom`, `StoreWrite.DrawnFrom`: so is what is kept, found and
  written.

## Main results

* `discover_drawnFrom`: what discovery finds, and what it keeps.
* `HandedOn.drawnFrom`: what passes keep.
* `Findings.DrawnFrom.changesFor`: what is written of findings.
-/

namespace PullWatch

open GitHub (Service)

/-- What comes from outside: the records that payloads hold, and the times that clocks read. -/
structure Sources where
  pulls : FetchedPullRequest → Prop
  checks : CheckRun → Prop
  times : Instant → Prop

variable {S : Sources}

/-! ### Payloads -/

/-- Every payload of the service that is accepted holds one of the records. -/
structure GitHub.Service.DrawnFrom (S : Sources) (service : Service) : Prop where
  pulls : ∀ query page, service.pulls query = .ok page →
    ∀ item ∈ page.items, ∀ p, GitHub.parsePull item = .ok p → S.pulls p
  checks : ∀ query envelope, service.checks query = .ok envelope →
    ∀ items total, GitHub.openEnvelope envelope = .ok (items, total) →
      ∀ item ∈ items, ∀ c, GitHub.parseCheck item = .ok c → S.checks c

section Listings

variable {service : Service} (h : service.DrawnFrom S) (repo : RepositoryContext)
  (since : Option Instant)

include h

theorem listPages_drawnFrom (listing : Listing) (left page : Nat) :
    ∀ p ∈ (listPages service repo listing since left page).pulls, S.pulls p := by
  induction left generalizing page with
  | zero => exact List.forall_mem_nil _
  | succ left ih =>
    cases hanswer : service.pulls (repo.query listing page) with
    | error failure =>
      rw [listPages_of_error hanswer]
      exact List.forall_mem_nil _
    | ok answer =>
      rw [listPages_of_ok hanswer]
      refine List.forall_mem_append.2 ⟨fun p hp => ?_, ?_⟩
      · obtain ⟨item, hitem, hparse⟩ := mem_successes_readPulls.1 (List.mem_filter.1 hp).1
        exact h.pulls _ _ hanswer item hitem p hparse
      · split_ifs
        · exact List.forall_mem_nil _
        · exact ih (page + 1)

theorem listStates_drawnFrom (maxPages : Nat) (listings : List Listing) :
    ∀ p ∈ (listStates service maxPages repo since listings).found, S.pulls p := by
  induction listings with
  | nil => exact List.forall_mem_nil _
  | cons listing rest ih =>
    have hfirst := listPages_drawnFrom h repo since listing maxPages 1
    rw [listStates]
    cases (listPages service repo listing since maxPages 1).failure with
    | none => exact List.forall_mem_append.2 ⟨hfirst, ih⟩
    | some failure =>
      simp only
      split_ifs
      · exact hfirst
      · exact List.forall_mem_append.2 ⟨hfirst, ih⟩

/-- The pull requests of a listing were accepted. -/
theorem listPulls_drawnFrom (maxPages : Nat) (states : List PullState) :
    ∀ p ∈ (listPulls service maxPages repo states since).found, S.pulls p :=
  fun p hp => listStates_drawnFrom h repo since _ _ p (List.mem_filter.1 hp).1

theorem checkPages_drawnFrom (sha : String) (left page seen : Nat) :
    ∀ c ∈ (checkPages service repo sha left page seen).found, S.checks c := by
  induction left generalizing page seen with
  | zero => exact List.forall_mem_nil _
  | succ left ih =>
    rw [checkPages]
    cases hanswer : service.checks { owner := repo.owner, name := repo.name, sha
                                     perPage := GitHub.perPage, page } with
    | error failure => exact List.forall_mem_nil _
    | ok envelope =>
      simp only
      cases hopen : GitHub.openEnvelope envelope with
      | error fault => exact List.forall_mem_nil _
      | ok r =>
        refine List.forall_mem_append.2 ⟨fun c hc => ?_, ?_⟩
        · obtain ⟨item, hitem, hread⟩ := List.mem_map.1 (mem_successes.1 hc)
          exact h.checks _ _ hanswer _ _ hopen item hitem c (Outcome.mapError_eq_ok.1 hread)
        · split_ifs
          · exact List.forall_mem_nil _
          · exact ih _ _

/-- The check runs of a listing were accepted. -/
theorem listChecks_drawnFrom (maxPages : Nat) (sha : String) :
    ∀ c ∈ (listChecks service maxPages repo sha).found, S.checks c :=
  checkPages_drawnFrom h repo sha _ 1 0

end Listings

/-! ### Kept listings -/

/-- The records of a kept listing are among the sources. -/
def Cached.DrawnFrom (S : Sources) : Cached → Prop
  | pulls found => ∀ p ∈ found, S.pulls p
  | checks found => ∀ c ∈ found, S.checks c

/-- Everything that is kept is among the sources. -/
def Cache.DrawnFrom (S : Sources) (cache : Cache) : Prop :=
  ∀ e ∈ cache.entries, e.value.DrawnFrom S

namespace Cache.DrawnFrom

variable {cache : Cache} {now : Nat} {repositoryId : Int} {key : String}

theorem find (h : cache.DrawnFrom S) : (cache.find now repositoryId key).2.DrawnFrom S :=
  fun e he => h e (mem_find he)

theorem store (h : cache.DrawnFrom S) {value : Cached} (hvalue : value.DrawnFrom S) :
    (cache.store now repositoryId key value).DrawnFrom S := by
  intro e he
  rcases mem_store he with he | rfl
  · exact h e he
  · exact hvalue

theorem dropRepository (h : cache.DrawnFrom S) (id : Int) :
    (cache.dropRepository id).2.DrawnFrom S :=
  fun e he => h e (mem_dropRepository.1 he).1

theorem clear (cache : Cache) : cache.clear.DrawnFrom S := List.forall_mem_nil _

end Cache.DrawnFrom

/-! ### Discovery -/

/-- Everything that was found is among the sources. -/
structure Findings.DrawnFrom (S : Sources) (f : Findings) : Prop where
  pulls : ∀ p ∈ f.pulls, S.pulls p
  checks : ∀ e ∈ f.checks, ∀ c ∈ e.2, S.checks c

section Discovery

variable {service : Service} {cache : Cache} (hservice : service.DrawnFrom S)
  (hcache : cache.DrawnFrom S) (config : Configuration) (repo : RepositoryContext)
  (since : Option Instant)

include hservice hcache

theorem discoverPulls_drawnFrom (maxPages now : Nat) (states : List PullState) :
    let discovered := discoverPulls service maxPages now repo states since cache
    (∀ p ∈ discovered.1.found, S.pulls p) ∧ discovered.2.DrawnFrom S := by
  have hlisted := listPulls_drawnFrom hservice repo since maxPages states
  rcases discoverPulls_cases service maxPages now repo cache states since
    with ⟨e, he, -, -, -, hvalue, -, hafter⟩ | ⟨hfound, -, hafter⟩ | ⟨hfound, hafter⟩
  · have hkept := hcache e he
    rw [hvalue] at hkept
    exact ⟨hkept, hafter ▸ hcache.find⟩
  · exact ⟨hfound ▸ hlisted, hafter ▸ hcache.find.store hlisted⟩
  · exact ⟨hfound ▸ hlisted, hafter ▸ hcache.find⟩

theorem discoverChecks_drawnFrom (maxPages now : Nat) (sha : String) :
    let discovered := discoverChecks service maxPages now repo sha cache
    (∀ c ∈ discovered.1.found, S.checks c) ∧ discovered.2.DrawnFrom S := by
  have hlisted := listChecks_drawnFrom hservice repo maxPages sha
  rcases discoverChecks_cases service maxPages now repo cache sha
    with ⟨e, he, -, -, -, hvalue, -, hafter⟩ | ⟨hfound, -, hafter⟩ | ⟨hfound, hafter⟩
  · have hkept := hcache e he
    rw [hvalue] at hkept
    exact ⟨hkept, hafter ▸ hcache.find⟩
  · exact ⟨hfound ▸ hlisted, hafter ▸ hcache.find.store hlisted⟩
  · exact ⟨hfound ▸ hlisted, hafter ▸ hcache.find⟩

theorem discoverTargets_drawnFrom (maxPages now : Nat) (targets : List (UInt64 × String))
    (done : Discovered ChecksByPull) (hdone : ∀ e ∈ done.found, ∀ c ∈ e.2, S.checks c) :
    let discovered := discoverTargets service maxPages now repo targets done cache
    (∀ e ∈ discovered.1.found, ∀ c ∈ e.2, S.checks c) ∧ discovered.2.DrawnFrom S := by
  induction targets generalizing done cache with
  | nil => exact ⟨hdone, hcache⟩
  | cons target targets ih =>
    obtain ⟨hfound, hafter⟩ := discoverChecks_drawnFrom hservice hcache repo maxPages now target.2
    refine ih hafter _ fun e he => ?_
    rcases ChecksByPull.mem_insert he with rfl | he
    · exact hfound
    · exact hdone e he

/-- Discovery finds nothing but what was accepted, and keeps nothing else. -/
theorem discover_drawnFrom (now : Moment) :
    (∀ f, (discover service config now repo since cache).1 = .ok f → f.DrawnFrom S) ∧
      (discover service config now repo since cache).2.1.DrawnFrom S := by
  obtain ⟨hpulls, hlooked⟩ := discoverPulls_drawnFrom hservice hcache repo since
    config.maxPagesPerQuery now.ticks config.pullStates
  simp only [discover]
  split_ifs
  · exact ⟨fun f hf => hf.elim, hlooked⟩
  · obtain ⟨hchecks, hlast⟩ := discoverTargets_drawnFrom hservice hlooked repo
      config.maxPagesPerQuery now.ticks
      (checkTargets (discoverPulls service config.maxPagesPerQuery now.ticks repo config.pullStates
        since cache).1.found) { found := [] } (List.forall_mem_nil _)
    refine ⟨fun f hf => ?_, hlast⟩
    rw [← Except.ok.inj hf]
    exact ⟨hpulls, hchecks⟩

end Discovery

/-! ### Passes -/

/-- What the pass may accept and the time that it is given are among the sources. -/
structure PassPlan.DrawnFrom (S : Sources) (plan : PassPlan) : Prop where
  service : plan.service.DrawnFrom S
  now : S.times plan.now.time

/-- What passes keep of what was accepted was accepted. -/
theorem HandedOn.drawnFrom {config : Configuration} {plans : PassPlan → Prop} {first cache : Cache}
    (h : HandedOn config plans first cache) (hplans : ∀ plan, plans plan → plan.DrawnFrom S)
    (hfirst : first.DrawnFrom S) : cache.DrawnFrom S := by
  induction h with
  | first => exact hfirst
  | discover _ hplan ih => exact (discover_drawnFrom (hplans _ hplan).service ih _ _ _ _).2
  | drop _ id ih => exact ih.dropRepository id

/-! ### Change sets -/

/-- The record or the time that is written is among the sources. -/
def StoreWrite.DrawnFrom (S : Sources) : StoreWrite → Prop
  | insertPull _ p | updatePull _ p => S.pulls p
  | insertCheck _ c | updateCheck _ c => S.checks c
  | appendHistory e => S.times e.recordedAt

namespace Findings.DrawnFrom

variable {f : Findings}

theorem mem_checksFor (h : f.DrawnFrom S) {number : UInt64} :
    ∀ c ∈ f.checksFor number, S.checks c := by
  rw [Findings.checksFor, ChecksByPull.get?]
  cases hfind : f.checks.find? fun e => e.1 = number with
  | none => exact List.forall_mem_nil _
  | some e => exact h.checks e (List.mem_of_find?_eq_some hfind)

/-- What is written of findings is what was found, and a time. -/
theorem changesFor (h : f.DrawnFrom S) {time : Instant} (htime : S.times time) (db : Database)
    (repositoryId : Int) :
    (db.changesFor repositoryId f).WrittenAt (·.DrawnFrom S) repositoryId time := by
  have hpulls : ∀ c ∈ f.pulls.filterMap (db.pullChange repositoryId), S.pulls c.record := by
    intro c hc
    obtain ⟨p, hp, hchange⟩ := List.mem_filterMap.1 hc
    rw [(Database.pullChange_eq_some.1 hchange).1]
    exact h.pulls p hp
  have hchecks : ∀ c ∈ f.pulls.flatMap fun p => db.changesOfChecks repositoryId f p.number,
      S.checks c.record := by
    intro c hc
    obtain ⟨-, d, -, -, hrecord, -⟩ :=
      Database.mem_checkChanges.1 (Database.mem_changesOfChecks.1 hc).2
    exact h.mem_checksFor c.record (List.mem_reverse.1 (List.mem_of_find?_eq_some hrecord))
  exact
    { newPulls := fun c hc => hpulls c (List.mem_filter.1 hc).1
      updatedPulls := fun c hc _ => hpulls c (List.mem_filter.1 hc).1
      newChecks := fun c hc _ => hchecks c (List.mem_filter.1 hc).1
      updatedChecks := fun c hc _ => hchecks c (List.mem_filter.1 hc).1
      entries := fun e he => by
        rw [StoreWrite.DrawnFrom, he]
        exact htime }

end Findings.DrawnFrom

end PullWatch
