import PullWatch.Processor.Pass
import PullWatch.Proofs.QueryNames
import Mathlib.Tactic.SplitIfs

/-!
# Discovery and its cache

As long as the cache holds nothing but what the service shows, discovery brings the same as without
it, and leaves a cache that again holds nothing else. So passes that find the service unchanged
discover the same, however much of it they ask for.

## Main definitions

* `Cache.Reflects`: what the cache holds for a repository is what the service shows.
* `shown`: what discovery brings when it asks for everything.

## Main results

* `discover_of_reflects`: such a cache does not change what is discovered, and remains one.
* `Cache.Reflects.later`: such a cache remains one as time goes by.
* `mem_checks_of_discover`: the pull requests whose check runs are discovered.
-/

namespace PullWatch

open GitHub (Service)

/-! ### Operations of the cache -/

namespace Cache

variable {cache : Cache} {now : Nat} {repositoryId : Int} {key : String} {value : Cached}

@[simp] theorem lifetime_find : (cache.find now repositoryId key).2.lifetime = cache.lifetime := by
  rw [find]
  split_ifs
  · cases cache.entries.find? fun e => e.isAt repositoryId key with
    | none => rfl
    | some e =>
      simp only
      split_ifs <;> rfl
  · rfl

/-- A look-up removes entries at the most. -/
theorem mem_find {e : CacheEntry} (he : e ∈ (cache.find now repositoryId key).2.entries) :
    e ∈ cache.entries := by
  rw [find] at he
  split_ifs at he
  · cases hfind : cache.entries.find? fun e => e.isAt repositoryId key with
    | none => simpa only [hfind] using he
    | some d =>
      simp only [hfind] at he
      split_ifs at he
      · exact (List.mem_filter.1 he).1
      · exact he
  · exact he

/-- What is found is held by an entry whose time is not over. -/
theorem find_eq_some (h : (cache.find now repositoryId key).1 = some value) :
    ∃ e ∈ cache.entries, e.repositoryId = repositoryId ∧ e.key = key ∧
      e.isExpired cache.lifetime now = false ∧ e.value = value := by
  rw [find] at h
  split_ifs at h
  · cases hfind : cache.entries.find? fun e => e.isAt repositoryId key with
    | none => simp [hfind] at h
    | some e =>
      simp only [hfind] at h
      split_ifs at h with hexpired
      · obtain ⟨hid, hkey⟩ : e.repositoryId = repositoryId ∧ e.key = key := by
          simpa [CacheEntry.isAt] using List.find?_some hfind
        exact ⟨e, List.mem_of_find?_eq_some hfind, hid, hkey, by simpa using hexpired,
          Option.some.inj h⟩

@[simp] theorem lifetime_store :
    (cache.store now repositoryId key value).lifetime = cache.lifetime := by
  rw [store]
  split_ifs <;> rfl

theorem mem_store {e : CacheEntry} (he : e ∈ (cache.store now repositoryId key value).entries) :
    e ∈ cache.entries ∨ e = { repositoryId, key, storedAt := now, value } := by
  rw [store] at he
  split_ifs at he
  · rw [List.mem_append, List.mem_singleton] at he
    exact he.imp_left fun h => (List.mem_filter.1 h).1
  · exact .inl he

/-- Nothing is held for a repository that was dropped. -/
theorem mem_dropRepository {e : CacheEntry} :
    e ∈ (cache.dropRepository repositoryId).2.entries ↔
      e ∈ cache.entries ∧ e.repositoryId ≠ repositoryId := by
  simp [dropRepository]

theorem findPulls_snd :
    (cache.findPulls now repositoryId key).2 = (cache.find now repositoryId key).2 := by
  rw [findPulls]
  split
  · rename_i hfind
    rw [hfind]
  · rename_i hfind
    rw [hfind]

theorem findChecks_snd :
    (cache.findChecks now repositoryId key).2 = (cache.find now repositoryId key).2 := by
  rw [findChecks]
  split
  · rename_i hfind
    rw [hfind]
  · rename_i hfind
    rw [hfind]

theorem findPulls_eq_some {found : List FetchedPullRequest}
    (h : (cache.findPulls now repositoryId key).1 = some found) :
    (cache.find now repositoryId key).1 = some (.pulls found) := by
  rw [findPulls] at h
  split at h
  · rename_i hfind
    rw [hfind, Option.some.inj h]
  · cases h

theorem findChecks_eq_some {found : List CheckRun}
    (h : (cache.findChecks now repositoryId key).1 = some found) :
    (cache.find now repositoryId key).1 = some (.checks found) := by
  rw [findChecks] at h
  split at h
  · rename_i hfind
    rw [hfind, Option.some.inj h]
  · cases h

end Cache

/-! ### What the service shows -/

/-- What the entry holds is what the service shows, read without problems. -/
structure CacheEntry.Reflects (service : Service) (config : Configuration)
    (repo : RepositoryContext) (since : Option Instant) (e : CacheEntry) : Prop where
  pulls : ∀ found, e.key = Cache.pullsKey config.pullStates since → e.value = .pulls found →
    (listPulls service config.maxPagesPerQuery repo config.pullStates since).found = found ∧
      (listPulls service config.maxPagesPerQuery repo config.pullStates since).problems = []
  checks : ∀ sha found, e.key = Cache.checksKey sha → e.value = .checks found →
    (listChecks service config.maxPagesPerQuery repo sha).found = found ∧
      (listChecks service config.maxPagesPerQuery repo sha).problems = []

/-- What the cache holds for a repository, but for entries whose time is over, is what the service
shows. -/
def Cache.Reflects (service : Service) (config : Configuration) (repo : RepositoryContext)
    (since : Option Instant) (now : Nat) (cache : Cache) : Prop :=
  ∀ e ∈ cache.entries, e.repositoryId = repo.id → e.isExpired cache.lifetime now = false →
    e.Reflects service config repo since

namespace Cache

variable {service : Service} {config : Configuration} {repo : RepositoryContext}
  {since : Option Instant} {now : Nat} {cache : Cache} {key : String}

namespace Reflects

/-- A cache that holds nothing for the repository. -/
theorem of_forall_ne (h : ∀ e ∈ cache.entries, e.repositoryId ≠ repo.id) :
    cache.Reflects service config repo since now :=
  fun e he hid => absurd hid (h e he)

theorem later (h : cache.Reflects service config repo since now) {next : Nat}
    (hlater : now ≤ next) : cache.Reflects service config repo since next := by
  intro e he hid hlive
  refine h e he hid ?_
  simp only [CacheEntry.isExpired, decide_eq_false_iff_not] at hlive ⊢
  omega

theorem find (h : cache.Reflects service config repo since now) :
    (cache.find now repo.id key).2.Reflects service config repo since now := by
  intro e he hid hlive
  rw [lifetime_find] at hlive
  exact h e (mem_find he) hid hlive

theorem storePulls (h : cache.Reflects service config repo since now)
    (hproblems :
      (listPulls service config.maxPagesPerQuery repo config.pullStates since).problems = []) :
    (cache.store now repo.id (pullsKey config.pullStates since)
      (.pulls
        (listPulls service config.maxPagesPerQuery repo config.pullStates since).found)).Reflects
        service config repo since now := by
  intro e he hid hlive
  rw [lifetime_store] at hlive
  rcases mem_store he with he | rfl
  · exact h e he hid hlive
  · exact ⟨fun _ _ hvalue => ⟨Cached.pulls.inj hvalue, hproblems⟩, fun _ _ _ => nofun⟩

theorem storeChecks (h : cache.Reflects service config repo since now) {sha : String}
    (hproblems : (listChecks service config.maxPagesPerQuery repo sha).problems = []) :
    (cache.store now repo.id (checksKey sha)
      (.checks (listChecks service config.maxPagesPerQuery repo sha).found)).Reflects
        service config repo since now := by
  intro e he hid hlive
  rw [lifetime_store] at hlive
  rcases mem_store he with he | rfl
  · exact h e he hid hlive
  · refine ⟨fun _ _ => nofun, fun sha' _ hkey hvalue => ?_⟩
    obtain rfl := checksKey_inj.1 hkey
    exact ⟨Cached.checks.inj hvalue, hproblems⟩

end Reflects

end Cache

/-! ### Discovery -/

/-- The check runs of some head commits, as the service shows them. -/
def shownChecks (service : Service) (config : Configuration) (repo : RepositoryContext)
    (targets : List (UInt64 × String)) : ChecksByPull :=
  targets.foldl (fun m target =>
    m.insert target.1 (listChecks service config.maxPagesPerQuery repo target.2).found) []

/-- The problems met in listing the check runs of some head commits. -/
def shownProblems (service : Service) (config : Configuration) (repo : RepositoryContext)
    (targets : List (UInt64 × String)) : List Problem :=
  targets.flatMap fun target =>
    (listChecks service config.maxPagesPerQuery repo target.2).problems.map
      (·.about "pr_number" (toString target.1))

/-- What discovery brings when it asks for everything. -/
def shown (service : Service) (config : Configuration) (repo : RepositoryContext)
    (since : Option Instant) : Except (List Problem) Findings :=
  let listed := listPulls service config.maxPagesPerQuery repo config.pullStates since
  if listed.found.isEmpty && allListingsFailed config.pullStates listed.problems then
    .error listed.problems
  else
    let targets := checkTargets listed.found
    .ok { pulls := listed.found, checks := shownChecks service config repo targets
          problems := listed.problems ++ shownProblems service config repo targets }

section Cases

variable (service : Service) (maxPages now : Nat) (repo : RepositoryContext) (cache : Cache)

/-- A listing of pull requests is kept, or the service is asked, and what it answers without
problems is kept from then on. -/
theorem discoverPulls_cases (states : List PullState) (since : Option Instant) :
    let key := Cache.pullsKey states since
    let listed := listPulls service maxPages repo states since
    let looked := (cache.find now repo.id key).2
    let discovered := discoverPulls service maxPages now repo states since cache
    (∃ e ∈ cache.entries, e.repositoryId = repo.id ∧ e.key = key ∧
        e.isExpired cache.lifetime now = false ∧ e.value = .pulls discovered.1.found ∧
        discovered.1.problems = [] ∧ discovered.2 = looked) ∨
      (discovered.1 = listed ∧ listed.problems = [] ∧
        discovered.2 = looked.store now repo.id key (.pulls listed.found)) ∨
      discovered.1 = listed ∧ discovered.2 = looked := by
  intro key listed looked discovered
  have hlooked : (cache.findPulls now repo.id key).2 = looked := Cache.findPulls_snd
  simp only [discovered, discoverPulls]
  rcases hfind : cache.findPulls now repo.id key with ⟨_ | found, rest⟩
  · have hrest : rest = looked := by rwa [hfind] at hlooked
    simp only [hrest]
    split_ifs with hproblems
    · exact .inr (.inl ⟨rfl, List.isEmpty_iff.1 hproblems, rfl⟩)
    · exact .inr (.inr ⟨rfl, rfl⟩)
  · have hrest : rest = looked := by rwa [hfind] at hlooked
    obtain ⟨e, he, hid, hkey, hlive, hvalue⟩ :=
      Cache.find_eq_some (Cache.findPulls_eq_some (congrArg Prod.fst hfind))
    exact .inl ⟨e, he, hid, hkey, hlive, hvalue, rfl, hrest⟩

/-- A listing of check runs is kept, or the service is asked, and what it answers without problems
is kept from then on. -/
theorem discoverChecks_cases (sha : String) :
    let key := Cache.checksKey sha
    let listed := listChecks service maxPages repo sha
    let looked := (cache.find now repo.id key).2
    let discovered := discoverChecks service maxPages now repo sha cache
    (∃ e ∈ cache.entries, e.repositoryId = repo.id ∧ e.key = key ∧
        e.isExpired cache.lifetime now = false ∧ e.value = .checks discovered.1.found ∧
        discovered.1.problems = [] ∧ discovered.2 = looked) ∨
      (discovered.1 = listed ∧ listed.problems = [] ∧
        discovered.2 = looked.store now repo.id key (.checks listed.found)) ∨
      discovered.1 = listed ∧ discovered.2 = looked := by
  intro key listed looked discovered
  have hlooked : (cache.findChecks now repo.id key).2 = looked := Cache.findChecks_snd
  simp only [discovered, discoverChecks]
  rcases hfind : cache.findChecks now repo.id key with ⟨_ | found, rest⟩
  · have hrest : rest = looked := by rwa [hfind] at hlooked
    simp only [hrest]
    split_ifs with hproblems
    · exact .inr (.inl ⟨rfl, List.isEmpty_iff.1 hproblems, rfl⟩)
    · exact .inr (.inr ⟨rfl, rfl⟩)
  · have hrest : rest = looked := by rwa [hfind] at hlooked
    obtain ⟨e, he, hid, hkey, hlive, hvalue⟩ :=
      Cache.find_eq_some (Cache.findChecks_eq_some (congrArg Prod.fst hfind))
    exact .inl ⟨e, he, hid, hkey, hlive, hvalue, rfl, hrest⟩

end Cases

section Discovery

variable {service : Service} {config : Configuration} {repo : RepositoryContext}
  {since : Option Instant} {cache : Cache}

theorem discoverPulls_of_reflects {now : Nat} (h : cache.Reflects service config repo since now) :
    let listed := listPulls service config.maxPagesPerQuery repo config.pullStates since
    let discovered :=
      discoverPulls service config.maxPagesPerQuery now repo config.pullStates since cache
    discovered.1.found = listed.found ∧ discovered.1.problems = listed.problems ∧
      discovered.2.Reflects service config repo since now := by
  intro listed discovered
  rcases discoverPulls_cases service config.maxPagesPerQuery now repo cache config.pullStates since
    with ⟨e, he, hid, hkey, hlive, hvalue, hnone, hcache⟩ | ⟨hlisted, hproblems, hcache⟩ |
      ⟨hlisted, hcache⟩
  · obtain ⟨hfound, hproblems⟩ := (h e he hid hlive).pulls _ hkey hvalue
    exact ⟨hfound.symm, hnone.trans hproblems.symm, hcache ▸ h.find⟩
  · exact ⟨congrArg _ hlisted, congrArg _ hlisted, hcache ▸ h.find.storePulls hproblems⟩
  · exact ⟨congrArg _ hlisted, congrArg _ hlisted, hcache ▸ h.find⟩

theorem discoverChecks_of_reflects {now : Nat} (h : cache.Reflects service config repo since now)
    (sha : String) :
    let listed := listChecks service config.maxPagesPerQuery repo sha
    let discovered := discoverChecks service config.maxPagesPerQuery now repo sha cache
    discovered.1.found = listed.found ∧ discovered.1.problems = listed.problems ∧
      discovered.2.Reflects service config repo since now := by
  intro listed discovered
  rcases discoverChecks_cases service config.maxPagesPerQuery now repo cache sha
    with ⟨e, he, hid, hkey, hlive, hvalue, hnone, hcache⟩ | ⟨hlisted, hproblems, hcache⟩ |
      ⟨hlisted, hcache⟩
  · obtain ⟨hfound, hproblems⟩ := (h e he hid hlive).checks sha _ hkey hvalue
    exact ⟨hfound.symm, hnone.trans hproblems.symm, hcache ▸ h.find⟩
  · exact ⟨congrArg _ hlisted, congrArg _ hlisted, hcache ▸ h.find.storeChecks hproblems⟩
  · exact ⟨congrArg _ hlisted, congrArg _ hlisted, hcache ▸ h.find⟩

theorem discoverTargets_of_reflects {now : Nat} (targets : List (UInt64 × String))
    (done : Discovered ChecksByPull) (h : cache.Reflects service config repo since now) :
    let discovered := discoverTargets service config.maxPagesPerQuery now repo targets done cache
    discovered.1.found = targets.foldl (fun m target =>
        m.insert target.1 (listChecks service config.maxPagesPerQuery repo target.2).found)
        done.found ∧
      discovered.1.problems = done.problems ++ shownProblems service config repo targets ∧
      discovered.2.Reflects service config repo since now := by
  induction targets generalizing done cache with
  | nil => exact ⟨rfl, by simp [discoverTargets, shownProblems], h⟩
  | cons target targets ih =>
    obtain ⟨number, sha⟩ := target
    obtain ⟨hfound, hproblems, hcache⟩ := discoverChecks_of_reflects h sha
    simp only [discoverTargets]
    obtain ⟨ihfound, ihproblems, ihcache⟩ := ih _ hcache
    refine ⟨?_, ?_, ihcache⟩
    · rw [ihfound, hfound, List.foldl_cons]
    · rw [ihproblems, hproblems, shownProblems, shownProblems, List.flatMap_cons, List.append_assoc]

/-- A cache that holds nothing but what the service shows does not change what is discovered, and
remains one. -/
theorem discover_of_reflects {now : Moment}
    (h : cache.Reflects service config repo since now.ticks) :
    (discover service config now repo since cache).1 = shown service config repo since ∧
      (discover service config now repo since cache).2.1.Reflects service config repo since
        now.ticks := by
  obtain ⟨hfound, hproblems, hcache⟩ := discoverPulls_of_reflects h
  simp only [discover, shown, hfound, hproblems]
  split_ifs with hfailed
  · exact ⟨rfl, hcache⟩
  · obtain ⟨hchecks, hlooked, hlast⟩ := discoverTargets_of_reflects
      (checkTargets (listPulls service config.maxPagesPerQuery repo config.pullStates since).found)
      { found := [] } hcache
    refine ⟨?_, hlast⟩
    simp only [discoverChecksByPull, hchecks, hlooked, List.nil_append]
    rfl

end Discovery

/-! ### Check runs by pull request -/

namespace ChecksByPull

/-- The numbers ascend. -/
def Ascending (m : ChecksByPull) : Prop := m.Pairwise fun e e' => e.1 < e'.1

variable {m : ChecksByPull} {number : UInt64} {checks : List CheckRun} {e : UInt64 × List CheckRun}

theorem mem_insert (he : e ∈ m.insert number checks) : e = (number, checks) ∨ e ∈ m := by
  induction m with
  | nil => exact .inl (by simpa [insert] using he)
  | cons d m ih =>
    rw [insert] at he
    split_ifs at he
    · exact (List.mem_cons.1 he)
    · exact (List.mem_cons.1 he).imp_right (List.mem_cons_of_mem _)
    · rcases List.mem_cons.1 he with rfl | he
      · exact .inr List.mem_cons_self
      · exact (ih he).imp_right (List.mem_cons_of_mem _)

theorem Ascending.insert (h : m.Ascending) (number : UInt64) (checks : List CheckRun) :
    (m.insert number checks).Ascending := by
  induction m with
  | nil => exact List.pairwise_singleton _ _
  | cons d m ih =>
    obtain ⟨hd, hm⟩ := List.pairwise_cons.1 h
    rw [ChecksByPull.insert]
    split_ifs with hlt heq
    · refine List.pairwise_cons.2 ⟨fun e he => ?_, h⟩
      rcases List.mem_cons.1 he with rfl | he
      · exact hlt
      · exact UInt64.lt_trans hlt (hd e he)
    · exact List.pairwise_cons.2 ⟨fun e he => heq ▸ hd e he, hm⟩
    · refine List.pairwise_cons.2 ⟨fun e he => ?_, ih hm⟩
      rcases mem_insert he with rfl | he
      · exact UInt64.lt_of_le_of_ne (UInt64.not_lt.1 hlt) fun h => heq h.symm
      · exact hd e he

/-- Every entry is found under its number. -/
theorem Ascending.get?_eq (h : m.Ascending) (he : e ∈ m) : m.get? e.1 = some e.2 := by
  induction m with
  | nil => simp at he
  | cons d m ih =>
    obtain ⟨hd, hm⟩ := List.pairwise_cons.1 h
    rcases List.mem_cons.1 he with rfl | he
    · simp [get?]
    · have hne : d.1 ≠ e.1 := UInt64.ne_of_lt (hd e he)
      rw [get?, List.find?_cons_of_neg (by simpa using hne)]
      exact ih hm he

end ChecksByPull

theorem discoverTargets_checks (service : Service) (maxPages now : Nat) (repo : RepositoryContext)
    (targets : List (UInt64 × String)) (done : Discovered ChecksByPull) (cache : Cache)
    (h : ChecksByPull.Ascending done.found) :
    let discovered := (discoverTargets service maxPages now repo targets done cache).1.found
    ChecksByPull.Ascending discovered ∧
      ∀ e ∈ discovered, e ∈ done.found ∨ ∃ target ∈ targets, target.1 = e.1 := by
  induction targets generalizing done cache with
  | nil => exact ⟨h, fun _ => .inl⟩
  | cons target targets ih =>
    obtain ⟨number, sha⟩ := target
    let looked := discoverChecks service maxPages now repo sha cache
    let next : Discovered ChecksByPull :=
      { found := done.found.insert number looked.1.found
        problems := done.problems ++ looked.1.problems.map (·.about "pr_number" (toString number))
        calls := done.calls ++ looked.1.calls }
    obtain ⟨hascending, hmem⟩ := ih next looked.2 (h.insert number looked.1.found)
    refine ⟨hascending, fun e he => ?_⟩
    rcases hmem e he with he | ⟨target, htarget, heq⟩
    · rcases ChecksByPull.mem_insert he with rfl | he
      · exact .inr ⟨_, List.mem_cons_self, rfl⟩
      · exact .inl he
    · exact .inr ⟨target, List.mem_cons_of_mem _ htarget, heq⟩

/-- Check runs are discovered for open pull requests, and all of one pull request at once. -/
theorem mem_checks_of_discover {service : Service} {config : Configuration} {now : Moment}
    {repo : RepositoryContext} {since : Option Instant} {cache : Cache} {f : Findings}
    (h : (discover service config now repo since cache).1 = .ok f)
    {e : UInt64 × List CheckRun} (he : e ∈ f.checks) :
    f.checks.get? e.1 = some e.2 ∧ ∃ p ∈ f.pulls, p.state = .opened ∧ p.number = e.1 := by
  simp only [discover] at h
  split_ifs at h
  obtain rfl := Except.ok.inj h
  obtain ⟨hascending, hmem⟩ := discoverTargets_checks service config.maxPagesPerQuery now.ticks repo
    (checkTargets (discoverPulls service config.maxPagesPerQuery now.ticks repo config.pullStates
      since cache).1.found) { found := [] }
    (discoverPulls service config.maxPagesPerQuery now.ticks repo config.pullStates since cache).2
    List.Pairwise.nil
  refine ⟨hascending.get?_eq he, ?_⟩
  obtain ⟨target, htarget, heq⟩ := (hmem e he).resolve_left (by simp)
  obtain ⟨p, hp, rfl⟩ := List.mem_map.1 htarget
  obtain ⟨hp, hopened⟩ := List.mem_filter.1 hp
  exact ⟨p, hp, of_decide_eq_true hopened, heq⟩

end PullWatch
