import PullWatch.Proofs.DiscoveryCache
import PullWatch.Proofs.Selection

/-!
# Where listings come from

A pass asks the service for the pull requests of its repository, or it uses a listing that the cache
keeps. A kept listing was obtained earlier, by this or another pass over the same repository, for
the same states and the same cutoff, and without problems. So every listing that a pass uses is what
the service showed at one look, and the look is the pass's own or the one at which the kept listing
was stored.

A repository keeps its owner and its name, so a listing depends on its id alone.

## Main definitions

* `Look`: the service as it is asked at a moment.
* `Cache.KeptFrom`: every kept listing was obtained at one of some looks.
* `PassPlan.Obtains`: the look at which the listing that a pass uses was obtained.

## Main results

* `Cache.KeptFrom.discover`: discovery keeps nothing but listings that were obtained at looks.
* `Cache.KeptFrom.exists_obtains`: every listing that a pass uses was obtained at a look.
-/

namespace PullWatch

open GitHub (Service)

/-! ### Names of repositories -/

/-- Owner and name of the repository of an id. -/
abbrev Names := Int → String × String

variable {names : Names} {config : Configuration}

/-- The context has the names that belong to its id. -/
structure RepositoryContext.NamedBy (names : Names) (repo : RepositoryContext) : Prop where
  names_eq : names repo.id = (repo.owner, repo.name)
  fullName_eq : repo.fullName = repo.owner ++ "/" ++ repo.name

/-- Every row of a repository has the names that belong to its id. -/
def Database.NamedBy (names : Names) (db : Database) : Prop :=
  ∀ r ∈ db.repositories.rows, names r.1 = (r.2.owner, r.2.name)

namespace Database

variable {db : Database} {repository : Repository}

theorem NamedBy.context (h : db.NamedBy names) (hrepository : db.Holds repository) :
    repository.context.NamedBy names := by
  obtain ⟨row, hrow, hdecode⟩ := hrepository
  obtain ⟨lastPolledAt, -, hdecoded⟩ := RepositoryRow.decode_eq_ok.1 hdecode
  refine ⟨?_, rfl⟩
  rw [show repository.context.id = repository.id from rfl, h _ hrow, ← hdecoded]
  rfl

theorem NamedBy.pollAll (h : db.NamedBy names) (ids : List Int) (time : Instant) :
    (db.pollAll ids time).NamedBy names := by
  induction ids generalizing db with
  | nil => exact h
  | cons id ids ih =>
    refine ih fun r hr => ?_
    obtain ⟨s, hs, rfl⟩ := Table.mem_change.1 hr
    split_ifs <;> exact h s hs

end Database

/-! ### Listings under one name -/

section Congr

variable {service : Service} {repo repo' : RepositoryContext} {since : Option Instant}
  (howner : repo.owner = repo'.owner) (hname : repo.name = repo'.name)
  (hfull : repo.fullName = repo'.fullName)

include howner hname hfull

theorem listPages_congr (listing : Listing) (left page : Nat) :
    listPages service repo listing since left page =
      listPages service repo' listing since left page := by
  induction left generalizing page with
  | zero => rfl
  | succ left ih => simp only [listPages, howner, hname, hfull, ih]

theorem listStates_congr (maxPages : Nat) (listings : List Listing) :
    listStates service maxPages repo since listings =
      listStates service maxPages repo' since listings := by
  induction listings with
  | nil => rfl
  | cons listing rest ih =>
    simp only [listStates, listPages_congr howner hname hfull, listingProblem, hfull, ih]

/-- A listing depends on the names of the repository only. -/
theorem listPulls_congr (maxPages : Nat) (states : List PullState) :
    listPulls service maxPages repo states since =
      listPulls service maxPages repo' states since := by
  rw [listPulls, listPulls, listStates_congr howner hname hfull]

end Congr

theorem RepositoryContext.NamedBy.listPulls_eq {repo repo' : RepositoryContext}
    (h : repo.NamedBy names) (h' : repo'.NamedBy names) (hid : repo.id = repo'.id)
    (service : Service) (maxPages : Nat) (states : List PullState) (since : Option Instant) :
    listPulls service maxPages repo states since =
      listPulls service maxPages repo' states since := by
  have hnames : (repo.owner, repo.name) = (repo'.owner, repo'.name) := by
    rw [← h.names_eq, ← h'.names_eq, hid]
  obtain ⟨howner, hname⟩ := Prod.mk.inj hnames
  exact listPulls_congr howner hname (by rw [h.fullName_eq, h'.fullName_eq, howner, hname]) _ _

/-! ### Kept listings -/

/-- The service as it is asked at a moment. -/
structure Look where
  service : Service
  moment : Moment

/-- The pull requests that a look shows. -/
def Look.listing (look : Look) (config : Configuration) (repo : RepositoryContext)
    (since : Option Instant) : Discovered (List FetchedPullRequest) :=
  listPulls look.service config.maxPagesPerQuery repo config.pullStates since

/-- The entry keeps a listing that was obtained without problems at a look. -/
structure CacheEntry.KeptFrom (config : Configuration) (repo : RepositoryContext)
    (since : Option Instant) (look : Look) (e : CacheEntry) : Prop where
  id_eq : e.repositoryId = repo.id
  key_eq : e.key = Cache.pullsKey config.pullStates since
  storedAt_eq : e.storedAt = look.moment.ticks
  value_eq : e.value = .pulls (look.listing config repo since).found
  problems_eq : (look.listing config repo since).problems = []

/-- Every kept listing of pull requests was obtained at one of the looks. -/
def Cache.KeptFrom (config : Configuration) (names : Names) (log : List Look) (cache : Cache) :
    Prop :=
  ∀ e ∈ cache.entries, ∀ found, e.value = .pulls found →
    ∃ look ∈ log, ∃ repo since, repo.NamedBy names ∧ e.KeptFrom config repo since look

namespace Cache.KeptFrom

variable {log log' : List Look} {cache : Cache}

theorem mono (h : cache.KeptFrom config names log) (hlog : log ⊆ log') :
    cache.KeptFrom config names log' := by
  intro e he found hvalue
  obtain ⟨look, hlook, hkept⟩ := h e he found hvalue
  exact ⟨look, hlog hlook, hkept⟩

theorem of_subset {cache' : Cache} (h : cache.KeptFrom config names log)
    (hsubset : ∀ e ∈ cache'.entries, e ∈ cache.entries) : cache'.KeptFrom config names log :=
  fun e he => h e (hsubset e he)

theorem dropRepository (h : cache.KeptFrom config names log) (id : Int) :
    (cache.dropRepository id).2.KeptFrom config names log :=
  h.of_subset fun _ he => (mem_dropRepository.1 he).1

theorem clear (cache : Cache) : cache.clear.KeptFrom config names log := List.forall_mem_nil _

end Cache.KeptFrom

section Discovery

variable {service : Service} {now : Moment} {repo : RepositoryContext} {since : Option Instant}
  {cache : Cache} {e : CacheEntry}

theorem mem_discoverChecks {maxPages ticks : Nat} {sha : String}
    (he : e ∈ (discoverChecks service maxPages ticks repo sha cache).2.entries) :
    e ∈ cache.entries ∨ e.repositoryId = repo.id ∧ ∃ checks, e.value = .checks checks := by
  rcases discoverChecks_cases service maxPages ticks repo cache sha
    with ⟨-, -, -, -, -, -, -, hcache⟩ | ⟨-, -, hcache⟩ | ⟨-, hcache⟩
  · exact .inl (Cache.mem_find (hcache ▸ he))
  · rw [hcache] at he
    rcases Cache.mem_store he with he | rfl
    · exact .inl (Cache.mem_find he)
    · exact .inr ⟨rfl, _, rfl⟩
  · exact .inl (Cache.mem_find (hcache ▸ he))

theorem mem_discoverTargets {maxPages ticks : Nat} (targets : List (UInt64 × String))
    (done : Discovered ChecksByPull)
    (he : e ∈ (discoverTargets service maxPages ticks repo targets done cache).2.entries) :
    e ∈ cache.entries ∨ e.repositoryId = repo.id ∧ ∃ checks, e.value = .checks checks := by
  induction targets generalizing done cache with
  | nil => exact .inl he
  | cons target targets ih =>
    rcases ih _ he with he | he
    · exact mem_discoverChecks he
    · exact .inr he

/-- Discovery adds at most the listing that it has obtained, and listings of check runs, all of its
own repository. -/
theorem mem_discover (he : e ∈ (discover service config now repo since cache).2.1.entries) :
    e ∈ cache.entries ∨ (e.repositoryId = repo.id ∧ ∃ checks, e.value = .checks checks) ∨
      e.KeptFrom config repo since ⟨service, now⟩ := by
  have hpulls : e ∈ (discoverPulls service config.maxPagesPerQuery now.ticks repo config.pullStates
      since cache).2.entries ∨ e.repositoryId = repo.id ∧ ∃ checks, e.value = .checks checks := by
    simp only [discover] at he
    split_ifs at he
    · exact .inl he
    · exact mem_discoverTargets _ _ he
  rcases hpulls with he | he
  · rcases discoverPulls_cases service config.maxPagesPerQuery now.ticks repo cache
      config.pullStates since
      with ⟨-, -, -, -, -, -, -, hcache⟩ | ⟨-, hproblems, hcache⟩ | ⟨-, hcache⟩
    · exact .inl (Cache.mem_find (hcache ▸ he))
    · rw [hcache] at he
      rcases Cache.mem_store he with he | rfl
      · exact .inl (Cache.mem_find he)
      · exact .inr (.inr ⟨rfl, rfl, rfl, rfl, hproblems⟩)
    · exact .inl (Cache.mem_find (hcache ▸ he))
  · exact .inr (.inl he)

/-- What the cache holds of other repositories was there before. -/
theorem mem_of_mem_discover (he : e ∈ (discover service config now repo since cache).2.1.entries)
    (hother : e.repositoryId ≠ repo.id) : e ∈ cache.entries := by
  rcases mem_discover he with he | ⟨hid, -⟩ | hkept
  · exact he
  · exact absurd hid hother
  · exact absurd hkept.id_eq hother

theorem Cache.KeptFrom.discover {log : List Look} (h : cache.KeptFrom config names log)
    (hrepo : repo.NamedBy names) (hlook : ⟨service, now⟩ ∈ log) :
    (PullWatch.discover service config now repo since cache).2.1.KeptFrom config names log := by
  intro e he found hvalue
  rcases mem_discover he with he | ⟨-, checks, hchecks⟩ | hkept
  · exact h e he found hvalue
  · cases hvalue.symm.trans hchecks
  · exact ⟨_, hlook, repo, since, hrepo, hkept⟩

/-- The findings show the pull requests of a listing and hide no problem that was met in it. When
they show none, not every request of the listing failed. -/
structure Findings.Show (config : Configuration) (listing : Discovered (List FetchedPullRequest))
    (f : Findings) : Prop where
  pulls_eq : f.pulls = listing.found
  problems_subset : listing.problems ⊆ f.problems
  answered : listing.found = [] → allListingsFailed config.pullStates listing.problems = false

/-- The findings of a discovery show the pull requests that it listed. -/
theorem show_of_discover {f : Findings}
    (h : (discover service config now repo since cache).1 = .ok f) :
    f.Show config (discoverPulls service config.maxPagesPerQuery now.ticks repo config.pullStates
      since cache).1 := by
  simp only [discover] at h
  split_ifs at h with hfailed
  obtain rfl := Except.ok.inj h
  refine ⟨rfl, List.subset_append_left _ _, fun hempty => ?_⟩
  rwa [hempty, List.isEmpty_nil, Bool.true_and, Bool.not_eq_true] at hfailed

end Discovery

/-! ### The listing that a pass uses -/

/-- The look at which the listing that a pass uses was obtained: its own when the cache keeps none,
and otherwise the one at which the kept listing was stored. -/
inductive PassPlan.Obtains (plan : PassPlan) (config : Configuration) (cache : Cache) : Look → Prop
  | asked
      (hnone : (cache.findPulls plan.now.ticks plan.repo.id
        (Cache.pullsKey config.pullStates plan.since)).1 = none) :
      Obtains plan config cache ⟨plan.service, plan.now⟩
  | kept {look : Look} {e : CacheEntry} (he : e ∈ cache.entries)
      (hlive : e.isExpired cache.lifetime plan.now.ticks = false)
      (hfind : (cache.findPulls plan.now.ticks plan.repo.id
          (Cache.pullsKey config.pullStates plan.since)).1 =
        some (look.listing config plan.repo plan.since).found)
      (hkept : e.KeptFrom config plan.repo plan.since look) :
      Obtains plan config cache look

theorem RepositoryContext.NamedBy.listing_eq {repo repo' : RepositoryContext}
    (h : repo.NamedBy names) (h' : repo'.NamedBy names) (hid : repo.id = repo'.id) (look : Look)
    (since : Option Instant) : look.listing config repo since = look.listing config repo' since :=
  h.listPulls_eq h' hid _ _ _ _

/-- Every listing that a pass uses was obtained at a look. -/
theorem Cache.KeptFrom.exists_obtains {log : List Look} {cache : Cache} {plan : PassPlan}
    {f : Findings} (hcache : cache.KeptFrom config names log) (hrepo : plan.repo.NamedBy names)
    (hown : ⟨plan.service, plan.now⟩ ∈ log)
    (h : (PullWatch.discover plan.service config plan.now plan.repo plan.since cache).1 = .ok f) :
    ∃ look ∈ log, plan.Obtains config cache look ∧
      f.Show config (look.listing config plan.repo plan.since) := by
  have hshow := show_of_discover h
  rw [discoverPulls] at hshow
  rcases hfind : cache.findPulls plan.now.ticks plan.repo.id
    (Cache.pullsKey config.pullStates plan.since) with ⟨_ | found, rest⟩
  · refine ⟨_, hown, .asked (by rw [hfind]), ?_⟩
    rw [hfind] at hshow
    simp only at hshow
    split_ifs at hshow <;> exact hshow
  · rw [hfind] at hshow
    obtain ⟨e, he, hid, hkey, hlive, hvalue⟩ :=
      find_eq_some (findPulls_eq_some (congrArg Prod.fst hfind))
    obtain ⟨look, hlook, repo, since, hnamed, hkept⟩ := hcache e he found hvalue
    obtain rfl : since = plan.since := (pullsKey_inj.1 (hkept.key_eq.symm.trans hkey)).2
    have hlisting :
        look.listing config repo plan.since = look.listing config plan.repo plan.since :=
      hnamed.listing_eq hrepo (hkept.id_eq.symm.trans hid) look plan.since
    have hproblems : (look.listing config plan.repo plan.since).problems = [] :=
      hlisting ▸ hkept.problems_eq
    have hfound : found = (look.listing config plan.repo plan.since).found := by
      rw [← hlisting]
      exact Cached.pulls.inj (hvalue.symm.trans hkept.value_eq)
    refine ⟨look, hlook, .kept he hlive (by rw [hfind, ← hfound])
      ⟨hid, hkey, hkept.storedAt_eq, by rw [hvalue, hfound], hproblems⟩, ?_⟩
    refine ⟨hshow.pulls_eq.trans hfound, ?_, fun hempty => ?_⟩
    · rw [hproblems]
      exact List.nil_subset _
    · rw [hproblems]
      exact hshow.answered (hfound.trans hempty)

end PullWatch
