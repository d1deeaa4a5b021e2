import PullWatch.Proofs.CheckPaging
import PullWatch.Proofs.IncrementalPasses
import PullWatch.Proofs.TransparentCache

/-!
# The order of lookups does not matter

The head commits of the open pull requests are looked up side by side, through one cache that holds
nothing at first. The lookups may end in any order, and one that begins late may be spared its
requests, because another lookup of the same commit has ended before it. Together they find what
each of them finds alone, and when no number occurs twice, only the order of their problems tells
how they ran.

## Main definitions

* `discoverChecksTogether`: the check runs of open pull requests, looked up side by side.
* `LookupsAsked`: which commits were asked for so far, and which lookups were spared.
* `FannedOut`: what lookups find together, given what each of them finds alone.

## Main results

* `advanceLookups_cases`: a step of one among several lookups.
* `LookupsAsked.advanceAll`: lookups are spared only what another one has asked for.
* `exists_schedule_of_perm`: lookups can end in any order.
* `lookups_order_free`: what they find together does not depend on the order.
-/

namespace PullWatch

open GitHub (Call Service)

variable {service : Service} {maxPages : Nat} {names : Names} {repo : RepositoryContext}

/-- The check runs of the head commit of every open pull request, looked up side by side. -/
def discoverChecksTogether (service : Service) (maxPages : Nat) (timing : Timing)
    (repo : RepositoryContext) (pulls : List FetchedPullRequest) (cache : Cache) :
    Discovered ChecksByPull × Cache :=
  let (outcomes, cache) := lookupsTogether service maxPages repo timing.schedule timing.reading
    (checkTargets pulls) cache
  (gatherLookups outcomes, cache)

/-- Without a schedule they are looked up one after the other. -/
theorem discoverChecksTogether_unscheduled (reading : Nat) (pulls : List FetchedPullRequest)
    (cache : Cache) :
    discoverChecksTogether service maxPages { reading } repo pulls cache =
      discoverChecksByPull service maxPages reading repo pulls cache :=
  (discoverChecksByPull_eq reading pulls cache).symm

/-! ### Steps of one among several -/

section Steps

variable (service) (maxPages) (repo)

/-- A step of one among several lookups leaves the others as they are. -/
theorem advanceLookups_cases (now k : Nat) (lookups : List Lookup) (s : LookupState) :
    advanceLookups service maxPages repo now k lookups s = (lookups, s) ∨
      ∃ before l after l' s', lookups = before ++ l :: after ∧
        l.advance service maxPages repo now s = (l', s') ∧
        advanceLookups service maxPages repo now k lookups s =
          (before ++ (l'.toList ++ after), s') := by
  induction lookups generalizing k with
  | nil => exact .inl (by rw [advanceLookups])
  | cons l rest ih =>
    cases k with
    | zero =>
      rcases hstep : l.advance service maxPages repo now s with ⟨_ | l', s'⟩
      · exact .inr ⟨[], l, rest, none, s', rfl, hstep, by rw [advanceLookups, hstep]; rfl⟩
      · exact .inr ⟨[], l, rest, some l', s', rfl, hstep, by rw [advanceLookups, hstep]; rfl⟩
    | succ k =>
      rw [advanceLookups]
      obtain hsame | ⟨before, m, after, m', s', rfl, hstep, hnext⟩ := ih k
      · exact .inl (by rw [hsame])
      · exact .inr ⟨l :: before, m, after, m', s', rfl, hstep, by rw [hnext]; rfl⟩

/-- Lookups in front of others are passed over. -/
theorem advanceLookups_append (now k : Nat) (before rest : List Lookup) (s : LookupState) :
    advanceLookups service maxPages repo now (before.length + k) (before ++ rest) s =
      let next := advanceLookups service maxPages repo now k rest s
      (before ++ next.1, next.2) := by
  induction before with
  | nil => rw [List.length_nil, Nat.zero_add]; rfl
  | cons l before ih =>
    rw [List.length_cons, Nat.succ_add, List.cons_append, advanceLookups, ih]
    rfl

theorem advanceAllLookups_append (steps : List (Nat × Nat)) (before rest : List Lookup)
    (s : LookupState) :
    advanceAllLookups service maxPages repo
        (steps.map fun step => (before.length + step.1, step.2)) (before ++ rest, s) =
      let next := advanceAllLookups service maxPages repo steps (rest, s)
      (before ++ next.1, next.2) := by
  induction steps generalizing rest s with
  | nil => rfl
  | cons step steps ih =>
    rw [List.map_cons, advanceAllLookups, List.foldl_cons, advanceLookups_append]
    exact ih _ _

theorem advanceAllLookups_nil (steps : List (Nat × Nat)) (s : LookupState) :
    advanceAllLookups service maxPages repo steps ([], s) = ([], s) := by
  induction steps with
  | nil => rfl
  | cons step steps ih =>
    rw [advanceAllLookups, List.foldl_cons, advanceLookups]
    exact ih

/-! ### Any order of ends -/

/-- Steps that end lookups in a given order. Each of them makes its steps with nothing in between. -/
theorem exists_steps_of_perm {order targets : List (UInt64 × String)} (h : order.Perm targets)
    (now : Nat) (s : LookupState) :
    ∃ steps, let ended := advanceAllLookups service maxPages repo steps (targets.map .of, s)
      ended.1 = [] ∧ ended.2.outcomes.map (·.number) =
        s.outcomes.map (·.number) ++ order.map (·.1) := by
  induction order generalizing targets s with
  | nil =>
    obtain rfl := h.nil_eq
    exact ⟨[], rfl, (List.append_nil _).symm⟩
  | cons target order ih =>
    obtain ⟨before, after, rfl⟩ := List.append_of_mem (h.mem_iff.1 List.mem_cons_self)
    have hrest : order.Perm (before ++ after) :=
      (h.trans List.perm_middle).cons_inv
    obtain ⟨m, -, hhead⟩ := exists_advanceAllLookups_head service maxPages repo now target
      (after.map .of) s
    obtain ⟨steps, hended, hnumbers⟩ := ih hrest
      { cache := (discoverChecks service maxPages now repo target.2 s.cache).2
        outcomes := s.outcomes ++
          [⟨target.1, (discoverChecks service maxPages now repo target.2 s.cache).1⟩] }
    have hfirst := advanceAllLookups_append service maxPages repo (.replicate m (0, now))
      (before.map .of) (.of target :: after.map .of) s
    rw [hhead] at hfirst
    rw [List.map_append] at hended hnumbers
    refine ⟨(List.replicate m (0, now)).map (fun step => ((before.map Lookup.of).length + step.1,
      step.2)) ++ steps, ?_⟩
    simp only [List.map_append, List.map_cons]
    rw [advanceAllLookups, List.foldl_append, ← advanceAllLookups, ← advanceAllLookups, hfirst]
    refine ⟨hended, hnumbers.trans ?_⟩
    simp

/-- Lookups can end in any order. -/
theorem exists_schedule_of_perm {order targets : List (UInt64 × String)} (h : order.Perm targets)
    (reading : Nat) (cache : Cache) :
    ∃ schedule, (lookupsTogether service maxPages repo schedule reading targets cache).1.map
      (·.number) = order.map (·.1) := by
  obtain ⟨steps, hended, hnumbers⟩ := exists_steps_of_perm service maxPages repo h reading { cache }
  refine ⟨steps, ?_⟩
  rw [lookupsTogether, advanceAllLookups, List.foldl_append, ← advanceAllLookups,
    ← advanceAllLookups]
  generalize advanceAllLookups service maxPages repo steps (targets.map .of, { cache }) = ended
    at hended hnumbers
  obtain ⟨lookups, s⟩ := ended
  obtain rfl : lookups = [] := hended
  rw [advanceAllLookups_nil]
  exact hnumbers

end Steps

/-! ### Commits asked for -/

/-- What was asked for while lookups of some commits were under way. The requests that were sent are
those of the listings of `asked`. The lookups of `spared` found what another one has kept. -/
structure LookupsAsked (service : Service) (maxPages : Nat) (repo : RepositoryContext)
    (commits : List String) (lookups : List Lookup) (s : LookupState)
    (asked spared : List String) : Prop where
  calls : s.outcomes.flatMap (·.result.calls) =
    asked.flatMap fun sha => (listChecks service maxPages repo sha).calls
  commits : (asked ++ spared ++ lookups.map (·.sha)).Perm commits
  spared : ∀ sha ∈ spared, sha ∈ asked
  kept : ∀ e ∈ s.cache.entries, ∃ sha ∈ asked, e.key = Cache.checksKey sha

namespace LookupsAsked

variable {commits asked spared : List String} {lookups : List Lookup} {s s' : LookupState}

/-- A step of one among several lookups. -/
theorem advance (h : LookupsAsked service maxPages repo commits lookups s asked spared)
    (hanswers : ∀ l ∈ lookups, ∀ answer ∈ l.answer, answer = listChecks service maxPages repo l.sha)
    (now k : Nat) :
    let next := advanceLookups service maxPages repo now k lookups s
    ∃ asked spared, LookupsAsked service maxPages repo commits next.1 next.2 asked spared := by
  obtain hsame | ⟨before, l, after, l', s', rfl, hstep, hnext⟩ :=
    advanceLookups_cases service maxPages repo now k lookups s
  · rw [hsame]
    exact ⟨asked, spared, h⟩
  rw [hnext]
  have hl := hanswers l (List.mem_append_right _ List.mem_cons_self)
  have hkept : ∀ e ∈ (s.cache.find now repo.id (Cache.checksKey l.sha)).2.entries,
      ∃ sha ∈ asked, e.key = Cache.checksKey sha := fun e he => h.kept e (Cache.mem_find he)
  -- a lookup that ends is counted among `asked` or `spared` from then on
  have hcommits (asked' spared' : List String)
      (hone : (asked' ++ spared').Perm (asked ++ spared ++ [l.sha])) :
      (asked' ++ spared' ++ (before ++ after).map (·.sha)).Perm commits := by
    refine ((hone.append_right _).trans ?_).trans h.commits
    rw [List.append_assoc _ [l.sha], List.map_append, List.map_append, List.map_cons,
      List.singleton_append]
    exact List.perm_middle.symm.append_left _
  have hended (cache : Cache)
      (hcache : ∀ e ∈ cache.entries, e ∈ s.cache.entries ∨ e.key = Cache.checksKey l.sha) :
      LookupsAsked service maxPages repo commits (before ++ after)
        { cache, outcomes := s.outcomes ++ [⟨l.number, listChecks service maxPages repo l.sha⟩] }
        (asked ++ [l.sha]) spared := by
    refine ⟨by simp [h.calls], hcommits _ _ ?_, fun sha hsha => ?_, fun e he => ?_⟩
    · rw [List.append_assoc, List.append_assoc]
      exact List.perm_append_comm.append_left _
    · exact List.mem_append_left _ (h.spared sha hsha)
    · rcases hcache e he with he | hkey
      · obtain ⟨sha, hsha, hkey⟩ := h.kept e he
        exact ⟨sha, List.mem_append_left _ hsha, hkey⟩
      · exact ⟨l.sha, List.mem_append_right _ List.mem_cons_self, hkey⟩
  cases Lookup.advances hstep with
  | found _ hfind =>
    obtain ⟨e, he, -, hkey, -⟩ := Cache.find_eq_some (Cache.findChecks_eq_some hfind)
    obtain ⟨sha, hsha, hsame⟩ := h.kept e he
    obtain rfl := Cache.checksKey_inj.1 (hkey.symm.trans hsame)
    refine ⟨asked, spared ++ [l.sha], by simpa using h.calls, hcommits _ _ ?_, ?_, hkept⟩
    · rw [List.append_assoc]
    · exact List.forall_mem_append.2 ⟨h.spared, List.forall_mem_singleton.2 hsha⟩
  | asked => exact ⟨asked, spared, h.calls, by simpa using h.commits, h.spared, hkept⟩
  | kept hasked =>
    obtain rfl := hl _ hasked
    exact ⟨_, _, hended _ fun e he =>
      (Cache.mem_store he).imp_right fun hnew => congrArg CacheEntry.key hnew⟩
  | dropped hasked =>
    obtain rfl := hl _ hasked
    exact ⟨_, _, hended _ fun e he => .inl he⟩

/-- Steps of several lookups. -/
theorem advanceAll (h : LookupsAsked service maxPages repo commits lookups s asked spared)
    (hshow : LookupsShow service maxPages names repo lookups s) (hrepo : repo.IsNamed names)
    (steps : List (Nat × Nat)) :
    let next := advanceAllLookups service maxPages repo steps (lookups, s)
    ∃ asked spared, LookupsAsked service maxPages repo commits next.1 next.2 asked spared := by
  induction steps generalizing lookups s asked spared with
  | nil => exact ⟨asked, spared, h⟩
  | cons step steps ih =>
    obtain ⟨asked, spared, hnext⟩ := h.advance hshow.answers step.2 step.1
    exact ih hnext (hshow.advance hrepo step.2 step.1).1

end LookupsAsked

/-- Lookups over an empty cache ask for the commits they are about, and for each of them at least
once. -/
theorem exists_asked_lookupsTogether (service : Service) (maxPages : Nat) (repo : RepositoryContext)
    (schedule : List (Nat × Nat)) (last lifetime : Nat) (targets : List (UInt64 × String)) :
    ∃ asked : List String, asked.Subperm (targets.map (·.2)) ∧
      (∀ sha ∈ targets.map (·.2), sha ∈ asked) ∧
      (gatherLookups (lookupsTogether service maxPages repo schedule last targets
        { lifetime }).1).calls =
          asked.flatMap fun sha => (listChecks service maxPages repo sha).calls := by
  have hbegin : LookupsAsked service maxPages repo (targets.map (·.2)) (targets.map .of)
      { cache := { lifetime } } [] [] :=
    ⟨rfl, by simp [Function.comp_def, Lookup.of], List.forall_mem_nil _, List.forall_mem_nil _⟩
  have hshow : LookupsShow service maxPages (fun _ => (repo.owner, repo.name)) repo
      (targets.map .of) { cache := { lifetime } } := by
    refine ⟨List.forall_mem_nil _, fun l hl => ?_⟩
    obtain ⟨target, -, rfl⟩ := List.mem_map.1 hl
    exact fun answer hanswer => absurd hanswer (Option.not_mem_none answer)
  obtain ⟨asked, spared, hended⟩ := hbegin.advanceAll hshow rfl
    (schedule ++ .replicate (2 * targets.length) (0, last))
  have hall : (asked ++ spared).Perm (targets.map (·.2)) := by
    simpa [lookups_end] using hended.commits
  refine ⟨asked, (List.sublist_append_left asked spared).subperm.trans hall.subperm,
    fun sha hsha => ?_, hended.calls⟩
  exact (List.mem_append.1 (hall.mem_iff.2 hsha)).elim id (hended.spared sha)

/-! ### What is found together -/

theorem ascending_gatherLookups (outcomes : List LookupOutcome) :
    (gatherLookups outcomes).found.Ascending := by
  induction outcomes using List.reverseRecOn with
  | nil => exact List.Pairwise.nil
  | append_singleton outcomes o ih =>
    rw [gatherLookups_concat]
    exact ih.insert o.number o.result.found

/-- Without two lookups of one number, every lookup is found under its number. -/
theorem get?_gatherLookups {outcomes : List LookupOutcome} {number : UInt64}
    {checks : List CheckRun} (h : (outcomes.map (·.number)).Nodup) :
    (gatherLookups outcomes).found.get? number = some checks ↔
      ∃ o ∈ outcomes, o.number = number ∧ o.result.found = checks := by
  induction outcomes using List.reverseRecOn with
  | nil => simp [gatherLookups, ChecksByPull.get?]
  | append_singleton outcomes o ih =>
    rw [List.map_append, List.nodup_append] at h
    obtain ⟨hrest, -, hnew⟩ := h
    simp only [gatherLookups_concat, ChecksByPull.get?_insert, List.mem_append,
      List.mem_singleton, or_and_right, exists_or, exists_eq_left]
    split_ifs with hnumber
    · have hother : ¬ ∃ other ∈ outcomes, other.number = number ∧ other.result.found = checks := by
        rintro ⟨other, hmem, hsame, -⟩
        exact hnew _ (List.mem_map_of_mem hmem) o.number (by simp) (hsame.trans hnumber)
      rw [or_iff_right hother, Option.some.injEq, and_iff_right hnumber.symm]
    · rw [ih hrest, or_iff_left fun hsame => hnumber hsame.1.symm]

/-- A discovery of check runs that is made alone, over an empty cache, asks the service. -/
theorem discoverChecks_alone (now lifetime : Nat) (sha : String) :
    (discoverChecks service maxPages now repo sha { lifetime }).1 =
      listChecks service maxPages repo sha := by
  obtain ⟨e, he, -⟩ | ⟨hlisted, -⟩ | ⟨hlisted, -⟩ :=
    discoverChecks_cases service maxPages now repo { lifetime } sha
  · exact absurd he List.not_mem_nil
  · exact hlisted
  · exact hlisted

/-- The open ones among some pull requests. -/
def openPulls (pulls : List FetchedPullRequest) : List FetchedPullRequest :=
  pulls.filter fun p => p.state = .opened

theorem checkTargets_eq (pulls : List FetchedPullRequest) :
    checkTargets pulls = (openPulls pulls).map fun p => (p.number, p.headSha) := rfl

/-- What lookups of pull requests find together, when `alone` is what each of them finds alone. -/
structure FannedOut (repo : RepositoryContext) (pulls : List FetchedPullRequest)
    (alone : String → Discovered (List CheckRun)) (told : Discovered ChecksByPull) : Prop where
  /-- No number has two entries. -/
  ascending : told.found.Ascending
  /-- The numbers of open pull requests have entries, each with the check runs of its own head
  commit, and no other number has one. -/
  found : ∀ number checks, told.found.get? number = some checks ↔
    ∃ p ∈ openPulls pulls, p.number = number ∧ (alone p.headSha).found = checks
  /-- Every problem names the number of its pull request. -/
  problems : told.problems.Perm ((openPulls pulls).flatMap fun p =>
    (alone p.headSha).problems.map (·.about "pr_number" (toString p.number)))
  /-- Only head commits of open pull requests are asked for. -/
  requests : ∀ call ∈ told.calls, ∃ p ∈ openPulls pulls, ∃ page,
    call = .checks (repo.checkQuery p.headSha page)
  /-- Each of them is asked for, and no more often than there are pull requests that have it. -/
  asked : ∃ commits : List String, commits.Subperm ((openPulls pulls).map (·.headSha)) ∧
    (∀ p ∈ openPulls pulls, p.headSha ∈ commits) ∧
      told.calls = commits.flatMap fun sha => (alone sha).calls

/-- Lookups over an empty cache find what the service shows, in some order. -/
theorem seen_lookupsTogether (service : Service) (maxPages : Nat) (repo : RepositoryContext)
    (timing : Timing) (lifetime : Nat) (targets : List (UInt64 × String)) :
    ((lookupsTogether service maxPages repo timing.schedule timing.reading targets
      { lifetime }).1.map LookupOutcome.seen).Perm
        (targets.map (shownLookup service maxPages repo)) := by
  have hempty : Cache.Faithful service maxPages (fun _ => (repo.owner, repo.name)) { lifetime } :=
    List.forall_mem_nil _
  exact (hempty.lookups rfl timing.schedule timing.reading targets).1

section Outcomes

variable {pulls : List FetchedPullRequest} {outcomes : List LookupOutcome}

/-- Pull requests with distinct numbers are looked up once each. -/
theorem nodup_numbers_of_seen (h : (pulls.map (·.number)).Nodup)
    (hseen : (outcomes.map LookupOutcome.seen).Perm
      ((checkTargets pulls).map (shownLookup service maxPages repo))) :
    (outcomes.map (·.number)).Nodup := by
  have hopen : ((openPulls pulls).map (·.number)).Nodup := (List.filter_sublist.map _).nodup h
  have hfirst := hseen.map (·.1)
  rw [checkTargets_eq, List.map_map, List.map_map, List.map_map] at hfirst
  exact hfirst.nodup_iff.2 hopen

theorem get?_gatherLookups_of_seen (h : (pulls.map (·.number)).Nodup)
    (hseen : (outcomes.map LookupOutcome.seen).Perm
      ((checkTargets pulls).map (shownLookup service maxPages repo))) {number : UInt64}
    {checks : List CheckRun} :
    (gatherLookups outcomes).found.get? number = some checks ↔
      ∃ p ∈ openPulls pulls, p.number = number ∧
        (listChecks service maxPages repo p.headSha).found = checks := by
  rw [get?_gatherLookups (nodup_numbers_of_seen h hseen)]
  constructor
  · rintro ⟨o, ho, rfl, rfl⟩
    obtain ⟨target, htarget, hshown⟩ := List.mem_map.1
      (hseen.subset (List.mem_map_of_mem (f := LookupOutcome.seen) ho))
    obtain ⟨p, hp, rfl⟩ := List.mem_map.1 htarget
    exact ⟨p, hp, congrArg (·.1) hshown, congrArg (·.2.1) hshown⟩
  · rintro ⟨p, hp, rfl, rfl⟩
    have htarget : (p.number, p.headSha) ∈ checkTargets pulls :=
      List.mem_map_of_mem (f := fun p : FetchedPullRequest => (p.number, p.headSha)) hp
    obtain ⟨o, ho, hshown⟩ := List.mem_map.1 (hseen.symm.subset
      (List.mem_map_of_mem (f := shownLookup service maxPages repo) htarget))
    exact ⟨o, ho, congrArg (·.1) hshown, congrArg (·.2.1) hshown⟩

end Outcomes

/-- The pages of a commit's check runs are asked for under that commit. -/
theorem exists_page_of_mem_calls {sha : String} {call : Call}
    (h : call ∈ (listChecks service maxPages repo sha).calls) :
    ∃ page, call = .checks (repo.checkQuery sha page) := by
  have hread : ReadPages service repo sha 1 (listChecks service maxPages repo sha).calls.length
    (listChecks service maxPages repo sha) := readPages_checkPages _ 1 0
  rw [hread.calls] at h
  obtain ⟨page, -, rfl⟩ := List.mem_map.1 h
  exact ⟨page, rfl⟩

/-- Lookups over an empty cache, however they overlap. -/
theorem fannedOut_discoverChecksTogether {pulls : List FetchedPullRequest}
    (h : (pulls.map (·.number)).Nodup) (timing : Timing) (lifetime : Nat) :
    FannedOut repo pulls (listChecks service maxPages repo)
      (discoverChecksTogether service maxPages timing repo pulls { lifetime }).1 := by
  have hseen := seen_lookupsTogether service maxPages repo timing lifetime (checkTargets pulls)
  obtain ⟨commits, hfew, hall, hcalls⟩ := exists_asked_lookupsTogether service maxPages repo
    timing.schedule timing.reading lifetime (checkTargets pulls)
  have hcommits : (checkTargets pulls).map (·.2) = (openPulls pulls).map (·.headSha) := by
    rw [checkTargets_eq, List.map_map]
    rfl
  rw [hcommits] at hfew hall
  exact
    { ascending := ascending_gatherLookups _
      found := fun _ _ => get?_gatherLookups_of_seen h hseen
      problems := by
        rw [discoverChecksTogether, gatherLookups_problems]
        refine (hseen.flatMap_right _).trans (.of_eq ?_)
        rw [checkTargets_eq, List.map_map, List.flatMap_map]
        rfl
      requests := fun call hcall => by
        obtain ⟨sha, hsha, hcall⟩ := List.mem_flatMap.1 (hcalls ▸ hcall)
        obtain ⟨p, hp, rfl⟩ := List.mem_map.1 (hfew.subset hsha)
        exact ⟨p, hp, exists_page_of_mem_calls hcall⟩
      asked := ⟨commits, hfew, fun p hp => hall _ (List.mem_map_of_mem hp), hcalls⟩ }

/-- What lookups find together does not depend on their order. When the pull requests have distinct
numbers, the open ones have one entry each, with what a discovery made alone finds for its own head
commit, and no other number has an entry. The problems are those of such discoveries, each with the
number of its pull request, and only head commits of open pull requests are asked for. Between two
orders, of which any can come about, nothing but the order of the problems and what the cache has
spared is different. -/
theorem lookups_order_free (service : Service) (maxPages lifetime : Nat) (repo : RepositoryContext)
    (pulls : List FetchedPullRequest) (h : (pulls.map (·.number)).Nodup) :
    let told (timing : Timing) :=
      (discoverChecksTogether service maxPages timing repo pulls { lifetime }).1
    (∀ timing now, FannedOut repo pulls
        (fun sha => (discoverChecks service maxPages now repo sha { lifetime }).1) (told timing)) ∧
      (∀ timing timing', (told timing).found = (told timing').found ∧
        (told timing).problems.Perm (told timing').problems) ∧
      ∀ order : List (UInt64 × String), order.Perm (checkTargets pulls) → ∀ reading, ∃ schedule,
        (lookupsTogether service maxPages repo schedule reading (checkTargets pulls)
          { lifetime }).1.map (·.number) = order.map (·.1) := by
  intro told
  refine ⟨fun timing now => ?_, fun timing timing' => ?_, fun order horder reading =>
    exists_schedule_of_perm service maxPages repo horder reading _⟩
  · simpa only [discoverChecks_alone] using fannedOut_discoverChecksTogether h timing lifetime
  · have hseen := seen_lookupsTogether service maxPages repo timing lifetime (checkTargets pulls)
    have hseen' := seen_lookupsTogether service maxPages repo timing' lifetime (checkTargets pulls)
    have hagree := LookupsAgree.of_perm (hseen.trans hseen'.symm)
    exact ⟨hagree.found (nodup_numbers_of_seen h hseen), hagree.problems⟩

/-- Two open pull requests with one head commit, one whose head commit the service does not know,
and a merged one. -/
def branchedPulls : List FetchedPullRequest :=
  sampleFindings.pulls.flatMap fun p =>
    [p, { p with number := 2 }, { p with number := 3, headSha := "h1" },
      { p with number := 4, state := .merged }]

/-- The sample service, which does not know one of the commits. -/
def branchedService : Service :=
  { sampleService false with
    checks := fun q =>
      if q.sha = "h1" then .error (.notFound "acme/widgets@h1") else (sampleService false).checks q }

/-- With the lookups one after the other the second one is spared its request. When both have asked
the cache before one of them ends, and the last one ends first, they find the same. -/
theorem lookups_order_free_branched :
    (branchedPulls.map (·.number)).Nodup ∧
      let told (timing : Timing) := (discoverChecksTogether branchedService 10 timing
        sampleRepository branchedPulls { lifetime := 300000000000 }).1
      let turns : Timing := { reading := 1 }
      let crossed : Timing := { reading := 1, schedule := [(0, 0), (1, 0), (2, 0), (2, 0), (1, 0)] }
      (told turns).calls.length = 2 ∧ (told crossed).calls.length = 3 ∧
        (told turns).found = (told crossed).found ∧
        (told turns).problems.Perm (told crossed).problems := by
  have hdistinct : (branchedPulls.map (·.number)).Nodup := by decide +kernel
  have hsame := (lookups_order_free branchedService 10 300000000000 sampleRepository branchedPulls
    hdistinct).2.1 { reading := 1 }
    { reading := 1, schedule := [(0, 0), (1, 0), (2, 0), (2, 0), (1, 0)] }
  exact ⟨hdistinct, by decide +kernel, by decide +kernel, hsame⟩

end PullWatch
