import PullWatch.Proofs.KeptListings
import PullWatch.Proofs.OverlappingLookups
import PullWatch.Proofs.Passes

/-!
# The cache is transparent

While the service answers equal requests equally, discovery gives the same answers with a cache of
any lifetime as without one. Every kept listing is what the service shows, read without problems,
and it is found again under the same query of the same repository only. So it does not matter
which listings are kept and when they leave the cache. Nor does it matter that lookups overlap, but
for the order in which they end.

What a listing finds, and whether it meets problems, depends on owner and name of the repository
only. The problems themselves may name the repository otherwise.

## Main definitions

* `Cache.Faithful`: every kept listing is what the service shows.
* `Inquiry`, `Reply`, `replies`: questions to discovery, and its answers one after the other.
* `Reply.Agrees`: answers that differ in the order of lookups at the most.

## Main results

* `Cache.Faithful.discoverPulls`, `Cache.Faithful.discoverChecks`: listings come out as shown.
* `Cache.Faithful.lookups`: so do lookups that overlap.
* `cache_transparent`: the answers do not depend on the cache.
-/

namespace PullWatch

open GitHub (Service)

/-! ### Listings under one name -/

theorem toOption_mapError {α ε σ : Type} (f : ε → σ) (x : Except ε α) :
    (x.mapError f).toOption = x.toOption := by
  cases x <;> rfl

/-- What can be read of some payloads does not depend on how problems name their place. -/
theorem successes_mapError {α ε β : Type} (read : β → Except ε α) (f : ε → Problem)
    (items : List β) :
    successes (items.map fun item => (read item).mapError f) =
      items.filterMap fun item => (read item).toOption := by
  simp only [successes, List.filterMap_map, Function.comp_def, toOption_mapError]

theorem failures_mapError_eq_nil {α ε β : Type} (read : β → Except ε α) (f : ε → Problem)
    (items : List β) :
    failures (items.map fun item => (read item).mapError f) = [] ↔
      ∀ item ∈ items, ∃ a, read item = .ok a := by
  simp only [failures, List.filterMap_map, List.filterMap_eq_nil_iff, Function.comp_apply]
  refine forall₂_congr fun item _ => ?_
  cases read item <;> simp [Except.mapError]

/-- Two listings found the same, and both met problems or none did. -/
structure Discovered.Alike {α : Type} (a b : Discovered α) : Prop where
  found : a.found = b.found
  problems : a.problems = [] ↔ b.problems = []

section Alike

variable {repo repo' : RepositoryContext} (howner : repo.owner = repo'.owner)
  (hname : repo.name = repo'.name) (service : Service) (since : Option Instant)

include howner hname

theorem listPages_alike (listing : Listing) (left page : Nat) :
    let a := listPages service repo listing since left page
    let b := listPages service repo' listing since left page
    a.pulls = b.pulls ∧ a.failure = b.failure ∧ (a.problems = [] ↔ b.problems = []) := by
  induction left generalizing page with
  | zero => exact ⟨rfl, rfl, Iff.rfl⟩
  | succ left ih =>
    simp only [listPages, howner, hname]
    cases service.pulls _ with
    | error failure => exact ⟨rfl, rfl, Iff.rfl⟩
    | ok answer =>
      obtain ⟨hpulls, hfailure, hproblems⟩ := ih (page + 1)
      simp only [readPulls, successes_mapError, List.append_eq_nil_iff, failures_mapError_eq_nil]
      split_ifs
      · exact ⟨rfl, rfl, Iff.rfl⟩
      · exact ⟨by rw [hpulls], hfailure, and_congr_right fun _ => hproblems⟩

theorem listStates_alike (maxPages : Nat) (listings : List Listing) :
    (listStates service maxPages repo since listings).Alike
      (listStates service maxPages repo' since listings) := by
  induction listings with
  | nil => exact ⟨rfl, Iff.rfl⟩
  | cons listing rest ih =>
    obtain ⟨hpulls, hfailure, hproblems⟩ := listPages_alike howner hname service since listing
      maxPages 1
    simp only [listStates, hfailure]
    cases (listPages service repo' listing since maxPages 1).failure with
    | none =>
      exact ⟨by simp only [hpulls, ih.found], by
        simp only [List.append_eq_nil_iff, hproblems, ih.problems]⟩
    | some failure =>
      simp only
      split_ifs
      · exact ⟨hpulls, by simp⟩
      · exact ⟨by simp only [hpulls, ih.found], by simp⟩

/-- What a listing of pull requests finds depends on owner and name only. -/
theorem listPulls_alike (maxPages : Nat) (states : List PullState) :
    (listPulls service maxPages repo states since).Alike
      (listPulls service maxPages repo' states since) := by
  have hlisted := listStates_alike howner hname service since (max 1 maxPages)
    (listingsOf states)
  exact ⟨by simp only [listPulls, hlisted.found], hlisted.problems⟩

theorem checkPages_alike (sha : String) (left page seen : Nat) :
    (checkPages service repo sha left page seen).Alike
      (checkPages service repo' sha left page seen) := by
  induction left generalizing page seen with
  | zero => exact ⟨rfl, Iff.rfl⟩
  | succ left ih =>
    simp only [checkPages, howner, hname]
    cases service.checks _ with
    | error failure => exact ⟨rfl, by simp⟩
    | ok envelope =>
      simp only
      cases GitHub.openEnvelope envelope with
      | error fault => exact ⟨rfl, Iff.rfl⟩
      | ok opened =>
        have hrest := ih (page + 1) (seen + opened.1.length)
        simp only
        split_ifs
        · exact ⟨rfl, Iff.rfl⟩
        · exact ⟨by rw [hrest.found], by simp only [List.append_eq_nil_iff, hrest.problems]⟩

/-- What a listing of check runs finds depends on owner and name only. -/
theorem listChecks_alike (maxPages : Nat) (sha : String) :
    (listChecks service maxPages repo sha).Alike (listChecks service maxPages repo' sha) :=
  checkPages_alike howner hname service sha (max 1 maxPages) 1 0

end Alike

/-- The context has the owner and the name that belong to its id. -/
def RepositoryContext.IsNamed (names : Names) (repo : RepositoryContext) : Prop :=
  names repo.id = (repo.owner, repo.name)

theorem RepositoryContext.IsNamed.eq {names : Names} {repo repo' : RepositoryContext}
    (h : repo.IsNamed names) (h' : repo'.IsNamed names) (hid : repo.id = repo'.id) :
    repo.owner = repo'.owner ∧ repo.name = repo'.name := by
  rw [IsNamed, hid, h'] at h
  exact ⟨(Prod.mk.inj h).1.symm, (Prod.mk.inj h).2.symm⟩

/-! ### Faithful caches -/

/-- What the entry keeps is what the service shows, without problems, of the repository that its id
names. -/
structure CacheEntry.Faithful (service : Service) (maxPages : Nat) (names : Names)
    (e : CacheEntry) : Prop where
  pulls : ∀ states since found, e.key = Cache.pullsKey states since → e.value = .pulls found →
    ∀ repo : RepositoryContext, repo.id = e.repositoryId → repo.IsNamed names →
      (listPulls service maxPages repo states since).found = found ∧
        (listPulls service maxPages repo states since).problems = []
  checks : ∀ sha found, e.key = Cache.checksKey sha → e.value = .checks found →
    ∀ repo : RepositoryContext, repo.id = e.repositoryId → repo.IsNamed names →
      (listChecks service maxPages repo sha).found = found ∧
        (listChecks service maxPages repo sha).problems = []

/-- Every kept listing is what the service shows. -/
def Cache.Faithful (service : Service) (maxPages : Nat) (names : Names) (cache : Cache) : Prop :=
  ∀ e ∈ cache.entries, e.Faithful service maxPages names

variable {service : Service} {maxPages : Nat} {names : Names} {cache : Cache}
  {repo : RepositoryContext}

namespace Cache.Faithful

theorem of_subset {cache' : Cache} (h : cache.Faithful service maxPages names)
    (hsubset : ∀ e ∈ cache'.entries, e ∈ cache.entries) :
    cache'.Faithful service maxPages names := fun e he => h e (hsubset e he)

theorem find (h : cache.Faithful service maxPages names) (now : Nat) (id : Int) (key : String) :
    (cache.find now id key).2.Faithful service maxPages names := h.of_subset fun _ => mem_find

theorem dropRepository (h : cache.Faithful service maxPages names) (id : Int) :
    (cache.dropRepository id).2.Faithful service maxPages names :=
  h.of_subset fun _ he => (mem_dropRepository.1 he).1

theorem clear (cache : Cache) : cache.clear.Faithful service maxPages names :=
  List.forall_mem_nil _

/-- A listing without problems may be kept. It is found again under its own states and cutoff only,
since its name tells them. -/
theorem storePulls (h : cache.Faithful service maxPages names) (hrepo : repo.IsNamed names)
    {states : List PullState} {since : Option Instant}
    (hproblems : (listPulls service maxPages repo states since).problems = []) (now : Nat) :
    (cache.store now repo.id (pullsKey states since)
      (.pulls (listPulls service maxPages repo states since).found)).Faithful
        service maxPages names := by
  intro e he
  rcases mem_store he with he | rfl
  · exact h e he
  · refine ⟨fun states' since' found hkey hvalue repo' hid hnamed => ?_, fun _ _ _ => nofun⟩
    obtain ⟨rfl, rfl⟩ := pullsKey_inj.1 hkey
    obtain ⟨howner, hname⟩ := hrepo.eq hnamed hid.symm
    have halike := listPulls_alike howner hname service since maxPages states
    exact ⟨halike.found.symm.trans (Cached.pulls.inj hvalue), halike.problems.1 hproblems⟩

/-- The same for the check runs of a commit. -/
theorem storeChecks (h : cache.Faithful service maxPages names) (hrepo : repo.IsNamed names)
    {sha : String} (hproblems : (listChecks service maxPages repo sha).problems = []) (now : Nat) :
    (cache.store now repo.id (checksKey sha)
      (.checks (listChecks service maxPages repo sha).found)).Faithful service maxPages names := by
  intro e he
  rcases mem_store he with he | rfl
  · exact h e he
  · refine ⟨fun _ _ _ _ => nofun, fun sha' found hkey hvalue repo' hid hnamed => ?_⟩
    obtain rfl := checksKey_inj.1 hkey
    obtain ⟨howner, hname⟩ := hrepo.eq hnamed hid.symm
    have halike := listChecks_alike howner hname service maxPages sha
    exact ⟨halike.found.symm.trans (Cached.checks.inj hvalue), halike.problems.1 hproblems⟩

/-- Pull requests are discovered as the service shows them. -/
theorem discoverPulls (h : cache.Faithful service maxPages names) (hrepo : repo.IsNamed names)
    (now : Nat) (states : List PullState) (since : Option Instant) :
    let listed := listPulls service maxPages repo states since
    let discovered := PullWatch.discoverPulls service maxPages now repo states since cache
    discovered.1.found = listed.found ∧ discovered.1.problems = listed.problems ∧
      discovered.2.Faithful service maxPages names := by
  intro listed discovered
  have hlooked := h.find now repo.id (pullsKey states since)
  rcases discoverPulls_cases service maxPages now repo cache states since
    with ⟨e, he, hid, hkey, -, hvalue, hnone, hcache⟩ | ⟨hlisted, hproblems, hcache⟩ |
      ⟨hlisted, hcache⟩
  · obtain ⟨hfound, hproblems⟩ := (h e he).pulls states since _ hkey hvalue repo hid.symm hrepo
    exact ⟨hfound.symm, hnone.trans hproblems.symm, hcache ▸ hlooked⟩
  · exact ⟨congrArg _ hlisted, congrArg _ hlisted,
      hcache ▸ hlooked.storePulls hrepo hproblems now⟩
  · exact ⟨congrArg _ hlisted, congrArg _ hlisted, hcache ▸ hlooked⟩

/-- Check runs are discovered as the service shows them. -/
theorem discoverChecks (h : cache.Faithful service maxPages names) (hrepo : repo.IsNamed names)
    (now : Nat) (sha : String) :
    let listed := listChecks service maxPages repo sha
    let discovered := PullWatch.discoverChecks service maxPages now repo sha cache
    discovered.1.found = listed.found ∧ discovered.1.problems = listed.problems ∧
      discovered.2.Faithful service maxPages names := by
  intro listed discovered
  have hlooked := h.find now repo.id (checksKey sha)
  rcases discoverChecks_cases service maxPages now repo cache sha
    with ⟨e, he, hid, hkey, -, hvalue, hnone, hcache⟩ | ⟨hlisted, hproblems, hcache⟩ |
      ⟨hlisted, hcache⟩
  · obtain ⟨hfound, hproblems⟩ := (h e he).checks sha _ hkey hvalue repo hid.symm hrepo
    exact ⟨hfound.symm, hnone.trans hproblems.symm, hcache ▸ hlooked⟩
  · exact ⟨congrArg _ hlisted, congrArg _ hlisted,
      hcache ▸ hlooked.storeChecks hrepo hproblems now⟩
  · exact ⟨congrArg _ hlisted, congrArg _ hlisted, hcache ▸ hlooked⟩

end Cache.Faithful

/-! ### Lookups that overlap -/

/-- What a lookup found and which problems it met, without the requests that it sent. -/
def LookupOutcome.seen (o : LookupOutcome) : UInt64 × List CheckRun × List Problem :=
  (o.number, o.result.found, o.result.problems)

/-- What the service shows of the check runs of a head commit. -/
def shownLookup (service : Service) (maxPages : Nat) (repo : RepositoryContext)
    (target : UInt64 × String) : UInt64 × List CheckRun × List Problem :=
  let listed := listChecks service maxPages repo target.2
  (target.1, listed.found, listed.problems)

/-- What a lookup is about. -/
def Lookup.target (l : Lookup) : UInt64 × String := (l.number, l.sha)

/-- What lookups have found, and what the service shows of those that are not over. -/
def lookupsSeen (service : Service) (maxPages : Nat) (repo : RepositoryContext)
    (lookups : List Lookup) (s : LookupState) : List (UInt64 × List CheckRun × List Problem) :=
  s.outcomes.map LookupOutcome.seen ++
    lookups.map fun l => shownLookup service maxPages repo l.target

/-- Lookups that are under way over a faithful cache: what the service has answered them so far is
what it shows. -/
structure LookupsShow (service : Service) (maxPages : Nat) (names : Names)
    (repo : RepositoryContext) (lookups : List Lookup) (s : LookupState) : Prop where
  cache : s.cache.Faithful service maxPages names
  answers : ∀ l ∈ lookups, ∀ answer ∈ l.answer, answer = listChecks service maxPages repo l.sha

/-- One step of a lookup keeps the cache faithful and the answer right, or it ends the lookup with
what the service shows. -/
theorem Lookup.advance_shows {l : Lookup} {s s' : LookupState} {l' : Option Lookup} {now : Nat}
    (hrepo : repo.IsNamed names) (hcache : s.cache.Faithful service maxPages names)
    (hanswer : ∀ answer ∈ l.answer, answer = listChecks service maxPages repo l.sha)
    (h : l.advance service maxPages repo now s = (l', s')) :
    s'.cache.Faithful service maxPages names ∧
      match l' with
      | some next => next.target = l.target ∧ s'.outcomes = s.outcomes ∧
          ∀ answer ∈ next.answer, answer = listChecks service maxPages repo next.sha
      | none => ∃ o : LookupOutcome, s'.outcomes = s.outcomes ++ [o] ∧
          o.seen = shownLookup service maxPages repo l.target := by
  have hlooked := hcache.find now repo.id (Cache.checksKey l.sha)
  cases Lookup.advances h with
  | found _ hfind =>
    obtain ⟨e, he, hid, hkey, -, hvalue⟩ := Cache.find_eq_some (Cache.findChecks_eq_some hfind)
    obtain ⟨hfound, hproblems⟩ := (hcache e he).checks l.sha _ hkey hvalue repo hid.symm hrepo
    refine ⟨hlooked, _, rfl, ?_⟩
    rw [LookupOutcome.seen, shownLookup, target, hfound, hproblems]
  | asked => exact ⟨hlooked, rfl, rfl, fun answer ha => (Option.some.inj ha).symm⟩
  | kept hasked hclean =>
    obtain rfl := hanswer _ hasked
    exact ⟨hcache.storeChecks hrepo hclean now, _, rfl, rfl⟩
  | dropped hasked =>
    obtain rfl := hanswer _ hasked
    exact ⟨hcache, _, rfl, rfl⟩

/-- A step of one among several lookups. -/
theorem LookupsShow.advance {lookups : List Lookup} {s : LookupState}
    (h : LookupsShow service maxPages names repo lookups s) (hrepo : repo.IsNamed names)
    (now k : Nat) :
    let next := advanceLookups service maxPages repo now k lookups s
    LookupsShow service maxPages names repo next.1 next.2 ∧
      (lookupsSeen service maxPages repo next.1 next.2).Perm
        (lookupsSeen service maxPages repo lookups s) := by
  induction lookups generalizing k with
  | nil => simpa only [advanceLookups] using ⟨h, List.Perm.refl _⟩
  | cons l rest ih =>
    have hl := h.answers l List.mem_cons_self
    have hrest : ∀ x ∈ rest, ∀ answer ∈ x.answer,
        answer = listChecks service maxPages repo x.sha :=
      fun x hx => h.answers x (List.mem_cons_of_mem _ hx)
    cases k with
    | zero =>
      rw [advanceLookups]
      rcases hstep : l.advance service maxPages repo now s with ⟨_ | l', s'⟩
      · obtain ⟨hcache, o, houtcomes, hseen⟩ := Lookup.advance_shows hrepo h.cache hl hstep
        refine ⟨⟨hcache, hrest⟩, ?_⟩
        simp only [lookupsSeen, houtcomes, List.map_append, List.map_cons, List.map_nil, hseen,
          List.append_assoc, List.singleton_append]
        exact List.Perm.refl _
      · obtain ⟨hcache, htarget, houtcomes, hanswer⟩ :=
          Lookup.advance_shows hrepo h.cache hl hstep
        refine ⟨⟨hcache, List.forall_mem_cons.2 ⟨hanswer, hrest⟩⟩, ?_⟩
        simp only [lookupsSeen, houtcomes, List.map_cons, htarget]
        exact List.Perm.refl _
    | succ k =>
      obtain ⟨hnext, hperm⟩ := ih ⟨h.cache, hrest⟩ k
      refine ⟨⟨hnext.cache, List.forall_mem_cons.2 ⟨hl, hnext.answers⟩⟩, ?_⟩
      simp only [advanceLookups, lookupsSeen, List.map_cons] at hperm ⊢
      exact List.perm_middle.trans ((hperm.cons _).trans List.perm_middle.symm)

/-- Steps of several lookups. -/
theorem LookupsShow.advanceAll {lookups : List Lookup} {s : LookupState}
    (h : LookupsShow service maxPages names repo lookups s) (hrepo : repo.IsNamed names)
    (steps : List (Nat × Nat)) :
    let next := advanceAllLookups service maxPages repo steps (lookups, s)
    LookupsShow service maxPages names repo next.1 next.2 ∧
      (lookupsSeen service maxPages repo next.1 next.2).Perm
        (lookupsSeen service maxPages repo lookups s) := by
  induction steps generalizing lookups s with
  | nil => exact ⟨h, List.Perm.refl _⟩
  | cons step steps ih =>
    obtain ⟨hnext, hperm⟩ := h.advance hrepo step.2 step.1
    obtain ⟨hlast, hperm'⟩ := ih hnext
    exact ⟨hlast, hperm'.trans hperm⟩

/-- Lookups that overlap find what the service shows, in some order. -/
theorem Cache.Faithful.lookups (h : cache.Faithful service maxPages names)
    (hrepo : repo.IsNamed names) (schedule : List (Nat × Nat)) (last : Nat)
    (targets : List (UInt64 × String)) :
    let ended := lookupsTogether service maxPages repo schedule last targets cache
    (ended.1.map LookupOutcome.seen).Perm (targets.map (shownLookup service maxPages repo)) ∧
      ended.2.Faithful service maxPages names := by
  have hbegin : LookupsShow service maxPages names repo (targets.map .of) { cache } := by
    refine ⟨h, fun l hl => ?_⟩
    obtain ⟨target, -, rfl⟩ := List.mem_map.1 hl
    exact nofun
  obtain ⟨hended, hperm⟩ := hbegin.advanceAll hrepo
    (schedule ++ .replicate (2 * targets.length) (0, last))
  refine ⟨?_, hended.cache⟩
  simp only [lookupsSeen, lookups_end, List.map_nil, List.append_nil, List.nil_append,
    List.map_map] at hperm
  exact hperm

/-! ### What lookups found, put together -/

theorem ChecksByPull.insert_comm {a b : UInt64} (h : a ≠ b) (x y : List CheckRun)
    (m : ChecksByPull) :
    ChecksByPull.insert b y (m.insert a x) = ChecksByPull.insert a x (m.insert b y) := by
  induction m with
  | nil => grind [ChecksByPull.insert]
  | cons d m ih => grind [ChecksByPull.insert]

/-- Lookups that found the same, in whatever order they ended: their problems are the same but for
the order, and so are the check runs, at least if no number occurs twice. -/
structure LookupsAgree (a b : List LookupOutcome) : Prop where
  seen : (a.map LookupOutcome.seen).Perm (b.map LookupOutcome.seen)
  problems : (gatherLookups a).problems.Perm (gatherLookups b).problems
  found : (a.map (·.number)).Nodup → (gatherLookups a).found = (gatherLookups b).found

theorem gatherLookups_problems (outcomes : List LookupOutcome) :
    (gatherLookups outcomes).problems = (outcomes.map LookupOutcome.seen).flatMap fun o =>
      o.2.2.map (·.about "pr_number" (toString o.1)) := by
  rw [List.flatMap_map]
  rfl

theorem gatherLookups_found (outcomes : List LookupOutcome) :
    (gatherLookups outcomes).found =
      (outcomes.map LookupOutcome.seen).foldl (fun m o => ChecksByPull.insert o.1 o.2.1 m) [] := by
  rw [List.foldl_map]
  rfl

theorem LookupsAgree.of_perm {a b : List LookupOutcome}
    (h : (a.map LookupOutcome.seen).Perm (b.map LookupOutcome.seen)) : LookupsAgree a b where
  seen := h
  problems := by
    rw [gatherLookups_problems, gatherLookups_problems]
    exact h.flatMap_right _
  found := by
    intro hnodup
    have hkeys : ((a.map LookupOutcome.seen).map (·.1)).Nodup := by
      rw [List.map_map]
      exact hnodup
    rw [gatherLookups_found, gatherLookups_found]
    refine h.foldl_eq' (fun x hx y hy m => ?_) []
    by_cases hxy : x.1 = y.1
    · rw [List.inj_on_of_nodup_map hkeys hx hy hxy]
    · exact ChecksByPull.insert_comm hxy x.2.1 y.2.1 m

/-! ### Questions and answers -/

/-- A question to discovery, or a request to its cache. -/
inductive Inquiry where
  | pulls (repo : RepositoryContext) (states : List PullState) (since : Option Instant)
  | checks (repo : RepositoryContext) (sha : String)
  | checksOfPulls (repo : RepositoryContext) (found : List FetchedPullRequest)
  | dropRepository (id : Int)
  | clear

/-- When a question is asked: a reading of the clock, and for lookups that overlap the order of
their steps, each with a reading of its own. -/
structure Timing where
  reading : Nat
  schedule : List (Nat × Nat) := []

/-- An answer. -/
inductive Reply where
  | pulls (found : List FetchedPullRequest) (problems : List Problem)
  | checks (found : List CheckRun) (problems : List Problem)
  | checksOfPulls (outcomes : List LookupOutcome)
  | dropped (count : Nat)
  | cleared

namespace Inquiry

/-- The repository of a question has the names that belong to its id. -/
def IsNamed (names : Names) : Inquiry → Prop
  | pulls repo _ _ | checks repo _ | checksOfPulls repo _ => repo.IsNamed names
  | dropRepository _ | clear => True

/-- The answer to a question, and the cache after it. -/
def answer (service : Service) (maxPages : Nat) (timing : Timing) (cache : Cache) :
    Inquiry → Reply × Cache
  | pulls repo states since =>
    let (result, cache) := discoverPulls service maxPages timing.reading repo states since cache
    (.pulls result.found result.problems, cache)
  | checks repo sha =>
    let (result, cache) := discoverChecks service maxPages timing.reading repo sha cache
    (.checks result.found result.problems, cache)
  | checksOfPulls repo found =>
    let (outcomes, cache) := lookupsTogether service maxPages repo timing.schedule timing.reading
      (checkTargets found) cache
    (.checksOfPulls outcomes, cache)
  | dropRepository id =>
    let (count, cache) := cache.dropRepository id
    (.dropped count, cache)
  | clear => (.cleared, cache.clear)

/-- The answer is what the service shows; of the cache it may tell anything. -/
def Shows (service : Service) (maxPages : Nat) : Inquiry → Reply → Prop
  | pulls repo states since, reply =>
    let listed := listPulls service maxPages repo states since
    reply = .pulls listed.found listed.problems
  | checks repo sha, reply =>
    let listed := listChecks service maxPages repo sha
    reply = .checks listed.found listed.problems
  | checksOfPulls repo found, reply => ∃ outcomes, reply = .checksOfPulls outcomes ∧
      (outcomes.map LookupOutcome.seen).Perm
        ((checkTargets found).map (shownLookup service maxPages repo))
  | dropRepository _, reply => ∃ count, reply = .dropped count
  | clear, reply => reply = .cleared

/-- Over a faithful cache every answer is what the service shows, and the cache stays faithful. -/
theorem answer_shows {inquiry : Inquiry} (h : inquiry.IsNamed names)
    (hcache : cache.Faithful service maxPages names) (timing : Timing) :
    inquiry.Shows service maxPages (inquiry.answer service maxPages timing cache).1 ∧
      (inquiry.answer service maxPages timing cache).2.Faithful service maxPages names := by
  cases inquiry with
  | pulls repo states since =>
    obtain ⟨hfound, hproblems, hnext⟩ := hcache.discoverPulls h timing.reading states since
    exact ⟨by simp only [Shows, answer, hfound, hproblems], hnext⟩
  | checks repo sha =>
    obtain ⟨hfound, hproblems, hnext⟩ := hcache.discoverChecks h timing.reading sha
    exact ⟨by simp only [Shows, answer, hfound, hproblems], hnext⟩
  | checksOfPulls repo found =>
    obtain ⟨hseen, hnext⟩ :=
      hcache.lookups h timing.schedule timing.reading (checkTargets found)
    exact ⟨⟨_, rfl, hseen⟩, hnext⟩
  | dropRepository id => exact ⟨⟨_, rfl⟩, hcache.dropRepository id⟩
  | clear => exact ⟨rfl, .clear cache⟩

end Inquiry

/-- The answers to questions that are asked one after the other. -/
def replies (service : Service) (maxPages : Nat) : List (Inquiry × Timing) → Cache → List Reply
  | [], _ => []
  | (inquiry, timing) :: rest, cache =>
    let (reply, cache) := inquiry.answer service maxPages timing cache
    reply :: replies service maxPages rest cache

/-- The same records and the same problems, but for the order in which lookups end. How many entries
a cache drops is not compared. -/
inductive Reply.Agrees : Reply → Reply → Prop
  | pulls (found : List FetchedPullRequest) (problems : List Problem) :
      Agrees (.pulls found problems) (.pulls found problems)
  | checks (found : List CheckRun) (problems : List Problem) :
      Agrees (.checks found problems) (.checks found problems)
  | checksOfPulls {outcomes outcomes' : List LookupOutcome} (h : LookupsAgree outcomes outcomes') :
      Agrees (.checksOfPulls outcomes) (.checksOfPulls outcomes')
  | dropped (count count' : Nat) : Agrees (.dropped count) (.dropped count')
  | cleared : Agrees .cleared .cleared

/-- Two answers to one question that are both what the service shows agree. -/
theorem Inquiry.Shows.agrees {inquiry : Inquiry} {reply reply' : Reply}
    (h : inquiry.Shows service maxPages reply) (h' : inquiry.Shows service maxPages reply') :
    reply.Agrees reply' := by
  cases inquiry with
  | pulls repo states since =>
    obtain rfl : reply = _ := h
    obtain rfl : reply' = _ := h'
    exact .pulls _ _
  | checks repo sha =>
    obtain rfl : reply = _ := h
    obtain rfl : reply' = _ := h'
    exact .checks _ _
  | checksOfPulls repo found =>
    obtain ⟨outcomes, rfl, hseen⟩ := h
    obtain ⟨outcomes', rfl, hseen'⟩ := h'
    exact .checksOfPulls (.of_perm (hseen.trans hseen'.symm))
  | dropRepository id =>
    obtain ⟨count, rfl⟩ := h
    obtain ⟨count', rfl⟩ := h'
    exact .dropped _ _
  | clear =>
    obtain rfl : reply = _ := h
    obtain rfl : reply' = _ := h'
    exact .cleared

/-- Two engines over faithful caches give answers that agree. -/
theorem replies_agree {inquiries : List (Inquiry × Timing × Timing)}
    (h : ∀ i ∈ inquiries, i.1.IsNamed names) {cache cache' : Cache}
    (hcache : cache.Faithful service maxPages names)
    (hcache' : cache'.Faithful service maxPages names) :
    List.Forall₂ Reply.Agrees
      (replies service maxPages (inquiries.map fun i => (i.1, i.2.1)) cache)
      (replies service maxPages (inquiries.map fun i => (i.1, i.2.2)) cache') := by
  induction inquiries generalizing cache cache' with
  | nil => exact .nil
  | cons i inquiries ih =>
    obtain ⟨inquiry, timing, timing'⟩ := i
    have hnamed := h _ List.mem_cons_self
    obtain ⟨hshows, hnext⟩ := inquiry.answer_shows hnamed hcache timing
    obtain ⟨hshows', hnext'⟩ := inquiry.answer_shows hnamed hcache' timing'
    exact .cons (hshows.agrees hshows')
      (ih (fun j hj => h j (List.mem_cons_of_mem _ hj)) hnext hnext')

/-- **The cache is transparent.** However long listings are kept, and whenever entries are dropped
or their time is over: every question is answered as by an engine that keeps nothing, whose clock and
whose order of lookups may be others. Only owner and name have to belong to a repository's id. -/
theorem cache_transparent (service : Service) (maxPages lifetime : Nat) (names : Names)
    (inquiries : List (Inquiry × Timing × Timing)) (h : ∀ i ∈ inquiries, i.1.IsNamed names) :
    List.Forall₂ Reply.Agrees
      (replies service maxPages (inquiries.map fun i => (i.1, i.2.1)) { lifetime })
      (replies service maxPages (inquiries.map fun i => (i.1, i.2.2)) { lifetime := 0 }) :=
  replies_agree h (List.forall_mem_nil _) (List.forall_mem_nil _)

/-- The sample pull requests are listed, listed once more, and their check runs are looked up, with
a cache of five minutes and without one. -/
theorem cache_transparent_sample :
    List.Forall₂ Reply.Agrees
      (replies (sampleService false) 10
        [(.pulls sampleRepository [.opened] none, { reading := 0 }),
          (.pulls sampleRepository [.opened] none, { reading := 1 }),
          (.checksOfPulls sampleRepository sampleFindings.pulls,
            { reading := 3, schedule := [(0, 2)] })]
        { lifetime := 300000000000 })
      (replies (sampleService false) 10
        [(.pulls sampleRepository [.opened] none, { reading := 0 }),
          (.pulls sampleRepository [.opened] none, { reading := 1 }),
          (.checksOfPulls sampleRepository sampleFindings.pulls, { reading := 2 })]
        { lifetime := 0 }) :=
  cache_transparent (sampleService false) 10 300000000000 (fun _ => ("acme", "widgets"))
    [(.pulls sampleRepository [.opened] none, { reading := 0 }, { reading := 0 }),
      (.pulls sampleRepository [.opened] none, { reading := 1 }, { reading := 1 }),
      (.checksOfPulls sampleRepository sampleFindings.pulls,
        { reading := 3, schedule := [(0, 2)] }, { reading := 2 })]
    (by simp [Inquiry.IsNamed, RepositoryContext.IsNamed, sampleRepository])

end PullWatch
