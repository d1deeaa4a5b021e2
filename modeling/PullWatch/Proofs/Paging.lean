import PullWatch.Proofs.Listings
import PullWatch.Proofs.Passes
import Mathlib.Data.List.Nodup

/-!
# Paging is sound and complete

A service that lists finitely many pull requests shows them in pages, all but the last of which are
full. When they are listed newest first, discovery finds exactly those that were asked for, although
it stops at the first page that has an older one, at the first page that is not full and at the
limit of pages, and although some payloads cannot be read.

## Main definitions

* `wellFormed`, `isMalformed`: the payloads of a listing that can be read, and those that cannot.
* `GitHub.Service.ShowsPages`: a service that shows finite listings in pages.
* `GitHub.Call.asksFor`: a request for a page of a listing.

## Main results

* `listingsOf_eq`: the listings that are read, each once and in order of first mention.
* `listPages_calls`: the pages that are asked for, whatever the service answers.
* `listPages_pulls`, `listPages_problems`: what is read from a service that shows pages.
* `pulls_paged`: the pull requests, the problems and the requests of a discovery.
-/

namespace PullWatch

open GitHub (Call Page Service)

/-! ### Listings -/

/-- The listings that show some states are those of the states, each once, in order of first
mention. -/
theorem listingsOf_eq (states : List PullState) :
    listingsOf states = (states.map PullState.listing).eraseDups := by
  have hfold (states : List PullState) (seen : List Listing) :
      states.foldl (fun ls s => if ls.contains s.listing then ls else ls ++ [s.listing]) seen =
        seen ++ ((states.map PullState.listing).filter fun l => !seen.contains l).eraseDups := by
    induction states generalizing seen with
    | nil => simp
    | cons s states ih =>
      rw [List.foldl_cons, ih, List.map_cons]
      by_cases hseen : s.listing ∈ seen
      · simp [hseen]
      · simp only [List.contains_eq_mem, hseen, decide_false, Bool.false_eq_true, if_false,
          Bool.not_false, List.filter_cons_of_pos, List.eraseDups_cons, List.filter_filter,
          List.append_assoc, List.singleton_append]
        congr 3
        refine List.filter_congr fun l _ => ?_
        simp [Bool.and_comm, beq_eq_decide]
  simpa [listingsOf] using hfold states []

theorem nodup_listingsOf (states : List PullState) : (listingsOf states).Nodup := by
  refine List.foldlRecOn states _ List.nodup_nil fun ls hls s _ => ?_
  split_ifs with hseen
  · exact hls
  · rw [List.nodup_append', List.disjoint_singleton]
    exact ⟨hls, List.nodup_singleton _, by simpa using hseen⟩

/-! ### Requests -/

/-- The request is for a page of a listing of pull requests. -/
def GitHub.Call.asksFor (listing : Listing) : Call → Bool
  | .pulls query => query.listing = listing
  | .checks _ => false

section Requests

variable (service : Service) (repo : RepositoryContext) (since : Option Instant)

/-- Whatever the service answers, the pages of a listing are asked for one after the other. -/
theorem listPages_calls (listing : Listing) (left page : Nat) :
    (listPages service repo listing since left page).calls =
      (List.range' page (listPages service repo listing since left page).calls.length).map
        fun n => .pulls (repo.query listing n) := by
  induction left generalizing page with
  | zero => rfl
  | succ left ih =>
    cases hanswer : service.pulls (repo.query listing page) with
    | error failure =>
      rw [listPages_of_error hanswer]
      rfl
    | ok answer =>
      rw [listPages_of_ok hanswer]
      simp only
      split_ifs
      · rfl
      · rw [List.length_cons, List.range'_succ, List.map_cons, ← ih]

/-- No more pages are asked for than the limit allows. -/
theorem length_calls_listPages (listing : Listing) (left page : Nat) :
    (listPages service repo listing since left page).calls.length ≤ left := by
  induction left generalizing page with
  | zero => exact le_rfl
  | succ left ih =>
    cases hanswer : service.pulls (repo.query listing page) with
    | error failure =>
      rw [listPages_of_error hanswer]
      exact Nat.succ_le_succ (Nat.zero_le left)
    | ok answer =>
      rw [listPages_of_ok hanswer]
      simp only
      split_ifs
      · exact Nat.succ_le_succ (Nat.zero_le left)
      · exact Nat.succ_le_succ (ih (page + 1))

/-- A listing that may be read is asked for. -/
theorem length_calls_listPages_pos (listing : Listing) (left page : Nat) :
    0 < (listPages service repo listing since (left + 1) page).calls.length := by
  cases hanswer : service.pulls (repo.query listing page) with
  | error failure =>
    rw [listPages_of_error hanswer]
    exact Nat.one_pos
  | ok answer =>
    rw [listPages_of_ok hanswer]
    exact Nat.succ_pos _

/-- The requests for a listing among those for the pages of one. -/
theorem filter_calls_listPages (listing other : Listing) (left page : Nat) :
    (listPages service repo other since left page).calls.filter (·.asksFor listing) =
      if other = listing then (listPages service repo other since left page).calls else [] := by
  rw [listPages_calls, List.filter_map]
  split_ifs with h <;> simp [Function.comp_def, GitHub.Call.asksFor, RepositoryContext.query, h]

/-- Of every listing in a series no more pages are asked for than the limit allows. -/
theorem length_calls_listStates (limit : Nat) (listing : Listing) {listings : List Listing}
    (hlistings : listings.Nodup) :
    ((listStates service limit repo since listings).calls.filter (·.asksFor listing)).length ≤
      if listing ∈ listings then limit else 0 := by
  induction listings with
  | nil => exact le_rfl
  | cons first rest ih =>
    obtain ⟨hfirst, hrest⟩ := List.nodup_cons.1 hlistings
    have hlater := ih hrest
    have hpages := length_calls_listPages service repo since first limit 1
    have hnow := filter_calls_listPages service repo since listing first limit 1
    have hboth : ((listPages service repo first since limit 1).calls.filter
          (·.asksFor listing)).length +
        ((listStates service limit repo since rest).calls.filter (·.asksFor listing)).length ≤
          if listing ∈ first :: rest then limit else 0 := by
      rw [hnow]
      by_cases heq : first = listing
      · subst heq
        simp only [hfirst, if_false, if_true, List.mem_cons_self] at hlater ⊢
        omega
      · rw [if_neg heq, List.length_nil, Nat.zero_add]
        simpa [List.mem_cons, Ne.symm heq] using hlater
    generalize (if listing ∈ first :: rest then limit else 0) = bound at hboth ⊢
    rw [listStates]
    cases hfailure : (listPages service repo first since limit 1).failure with
    | none => simpa only [List.filter_append, List.length_append] using hboth
    | some failure =>
      simp only
      split_ifs
      · exact Nat.le_trans (Nat.le_add_right _ _) hboth
      · simpa only [List.filter_append, List.length_append] using hboth

end Requests

/-! ### Listings in pages -/

/-- The pull requests that payloads hold, without those that cannot be read. -/
def wellFormed (items : List Json) : List FetchedPullRequest :=
  items.filterMap fun item => (GitHub.parsePull item).toOption

/-- A payload holds no pull request. -/
def isMalformed (item : Json) : Bool := (GitHub.parsePull item).toOption.isNone

/-- The first page of what is left of a listing. Another one may follow when it is full. -/
def firstPage (items : List Json) : Page :=
  { items := items.take GitHub.perPage
    hasNext := GitHub.perPage ≤ (items.take GitHub.perPage).length }

/-- The service shows finite listings of a repository in pages, which count from one. -/
def GitHub.Service.ShowsPages (service : Service) (repo : RepositoryContext)
    (payloads : Listing → List Json) : Prop :=
  ∀ listing n, service.pulls (repo.query listing (n + 1)) =
    .ok (firstPage ((payloads listing).drop (GitHub.perPage * n)))

theorem successes_readPulls (fullName : String) (items : List Json) :
    successes (readPulls fullName items) = wellFormed items :=
  successes_map_parse GitHub.parsePull _ items

@[simp] theorem wellFormed_append (items others : List Json) :
    wellFormed (items ++ others) = wellFormed items ++ wellFormed others :=
  List.filterMap_append

theorem failures_readPulls_append (fullName : String) (items others : List Json) :
    failures (readPulls fullName (items ++ others)) =
      failures (readPulls fullName items) ++ failures (readPulls fullName others) := by
  rw [readPulls, List.map_append, failures, List.filterMap_append]
  rfl

section Pages

variable {service : Service} {repo : RepositoryContext} {payloads : Listing → List Json}
  {listing : Listing} {since : Option Instant}

/-- The pull requests that are read from a page on. Those of the pages that are not asked for were
updated before the cutoff, if there are any. -/
theorem listPages_pulls (hshows : service.ShowsPages repo payloads) {left n : Nat}
    (hfits : (payloads listing).length ≤ GitHub.perPage * (n + left))
    (hsorted : NewestFirst (wellFormed ((payloads listing).drop (GitHub.perPage * n)))) :
    (listPages service repo listing since left (n + 1)).pulls =
      (wellFormed ((payloads listing).drop (GitHub.perPage * n))).filter
        fun p => !isBefore since p := by
  induction left generalizing n with
  | zero =>
    rw [List.drop_eq_nil_of_le (by simpa using hfits)]
    rfl
  | succ left ih =>
    rw [listPages_of_ok (hshows listing n)]
    set rest := (payloads listing).drop (GitHub.perPage * n)
    have hsplit : wellFormed rest =
        wellFormed (firstPage rest).items ++ wellFormed (rest.drop GitHub.perPage) := by
      rw [← wellFormed_append]
      exact congrArg wellFormed (List.take_append_drop _ _).symm
    have hnext : rest.drop GitHub.perPage =
        (payloads listing).drop (GitHub.perPage * (n + 1)) := by
      rw [List.drop_drop, Nat.mul_succ]
    rw [hsplit] at hsorted ⊢
    obtain ⟨-, hlater, hcross⟩ := List.pairwise_append.1 hsorted
    simp only [successes_readPulls]
    rw [List.filter_append]
    congr 1
    split_ifs with hstop
    · rcases Bool.or_eq_true_iff.1 hstop with hpast | hlast
      · -- the page has an older pull request, and all that follow are older still
        obtain ⟨p, hp, hbefore⟩ := List.any_eq_true.1 hpast
        refine (List.filter_eq_nil_iff.2 fun q hq => ?_).symm
        rw [isBefore_of_le hbefore (hcross p hp q hq)]
        exact Bool.false_ne_true
      · -- a page that is not full is the last
        have hshort : (rest.take GitHub.perPage).length < GitHub.perPage := by
          simpa [firstPage] using hlast
        rw [List.drop_eq_nil_of_le (by rw [List.length_take] at hshort; omega)]
        rfl
    · rw [hnext]
      exact ih (by rw [Nat.add_right_comm]; exact hfits) (hnext ▸ hlater)

/-- The payloads of the pages that are asked for are complained about when they cannot be read. -/
theorem listPages_problems (hshows : service.ShowsPages repo payloads) (left n : Nat) :
    (listPages service repo listing since left (n + 1)).problems =
      failures (readPulls repo.fullName (((payloads listing).drop (GitHub.perPage * n)).take
        (GitHub.perPage * (listPages service repo listing since left (n + 1)).calls.length))) := by
  induction left generalizing n with
  | zero => rfl
  | succ left ih =>
    rw [listPages_of_ok (hshows listing n)]
    simp only
    split_ifs
    · exact List.append_nil _
    · rw [List.length_cons, Nat.mul_succ, Nat.add_comm _ GitHub.perPage, List.take_add,
        failures_readPulls_append, List.drop_drop, ← Nat.mul_succ, ih]
      rfl

/-- One complaint is made for each payload that cannot be read. -/
theorem forall₂_failures (fullName : String) (items : List Json) :
    List.Forall₂ (fun item problem => problem.kind = .malformedRecord ∧
        ∃ cause, GitHub.parsePull item = .error cause ∧
          problem = cause.about "repository" fullName)
      (items.filter isMalformed) (failures (readPulls fullName items)) := by
  refine (forall₂_failures_map_parse GitHub.parsePull (·.about "repository" fullName) items).imp ?_
  rintro item - ⟨cause, hparse, rfl⟩
  exact ⟨(cause.kind_about ..).trans (GitHub.kind_of_parsePull_eq_error hparse), cause, hparse, rfl⟩

theorem GitHub.Service.ShowsPages.failure (hshows : service.ShowsPages repo payloads)
    (listing : Listing) {left : Nat} :
    (listPages service repo listing since left 1).failure = none :=
  failure_listPages_of_pages fun n hn => by
    obtain ⟨n, rfl⟩ := Nat.exists_eq_add_one.2 hn
    exact ⟨_, hshows listing n⟩

/-- What the listings bring together. -/
theorem listPulls_of_pages (hshows : service.ShowsPages repo payloads) {maxPages : Nat}
    (hfits : ∀ listing, (payloads listing).length ≤ GitHub.perPage * max 1 maxPages)
    (hsorted : ∀ listing, NewestFirst (wellFormed (payloads listing))) (states : List PullState)
    (since : Option Instant) :
    (listPulls service maxPages repo states since).found =
      ((listingsOf states).flatMap fun l => wellFormed (payloads l)).filter fun p =>
        states.contains p.state && !isBefore since p := by
  have hpulls (l : Listing) : (listPages service repo l since (max 1 maxPages) 1).pulls =
      (wellFormed (payloads l)).filter fun p => !isBefore since p :=
    listPages_pulls hshows (by rw [Nat.zero_add]; exact hfits l) (hsorted l)
  rw [listPulls, listStates_of_success fun l _ => hshows.failure l]
  simp only [hpulls, ← List.filter_flatMap, List.filter_filter]

end Pages

/-- With caching off every discovery asks the service. -/
theorem discoverPulls_of_lifetime_zero {service : Service} {repo : RepositoryContext}
    {maxPages now : Nat} {cache : Cache} (hoff : cache.lifetime = 0) (states : List PullState)
    (since : Option Instant) :
    (discoverPulls service maxPages now repo states since cache).1 =
      listPulls service maxPages repo states since := by
  obtain ⟨e, -, -, -, hlive, -⟩ | ⟨hlisted, -⟩ | ⟨hlisted, -⟩ :=
    discoverPulls_cases service maxPages now repo cache states since
  · simp [CacheEntry.isExpired, hoff] at hlive
  · exact hlisted
  · exact hlisted

/-- What a discovery of pull requests tells of finite listings that are shown in pages. -/
structure PagedExactly (repo : RepositoryContext) (payloads : Listing → List Json)
    (states : List PullState) (since : Option Instant) (maxPages : Nat)
    (told unlimited : Discovered (List FetchedPullRequest)) : Prop where
  /-- Exactly the pull requests in the requested states and from the cutoff on are found, in the
  order of the listings. -/
  found : told.found = ((states.map PullState.listing).eraseDups.flatMap
    fun l => wellFormed (payloads l)).filter fun p => states.contains p.state && !isBefore since p
  /-- The cutoff leaves out the older ones and nothing else. -/
  since : told.found = unlimited.found.filter fun p => !isBefore since p
  /-- Each listing is read once, from its first page on and within the limit, and each payload on
  the pages read that holds no pull request is complained about. -/
  requests : ∃ pages : Listing → Nat, (∀ l, 0 < pages l ∧ pages l ≤ max 1 maxPages) ∧
    told.calls = ((states.map PullState.listing).eraseDups.flatMap
      fun l => (List.range' 1 (pages l)).map fun n => .pulls (repo.query l n)) ∧
    List.Forall₂ (fun item problem => problem.kind = .malformedRecord ∧
        ∃ cause, GitHub.parsePull item = .error cause ∧
          problem = cause.about "repository" repo.fullName)
      (((states.map PullState.listing).eraseDups.flatMap
        fun l => (payloads l).take (GitHub.perPage * pages l)).filter isMalformed)
      told.problems

/-- Paging is sound and complete. When a service shows finite listings, newest first, in pages that
fit the limit, and nothing is kept in the cache, discovery brings exactly the pull requests that
were asked for. And no service whatsoever is asked for more pages of a listing than the limit, which
is at least one. -/
theorem pulls_paged :
    (∀ (service : Service) (repo : RepositoryContext) (payloads : Listing → List Json)
        (maxPages now : Nat) (cache : Cache), service.ShowsPages repo payloads →
      (∀ l, (payloads l).length ≤ GitHub.perPage * max 1 maxPages) →
      (∀ l, NewestFirst (wellFormed (payloads l))) → cache.lifetime = 0 →
      ∀ (states : List PullState) (since : Option Instant),
        PagedExactly repo payloads states since maxPages
          (discoverPulls service maxPages now repo states since cache).1
          (discoverPulls service maxPages now repo states none cache).1) ∧
    ∀ (service : Service) (repo : RepositoryContext) (maxPages now : Nat) (cache : Cache)
      (states : List PullState) (since : Option Instant) (listing : Listing),
      ((discoverPulls service maxPages now repo states since cache).1.calls.filter
        (·.asksFor listing)).length ≤ max 1 maxPages := by
  refine ⟨fun service repo payloads maxPages now cache hshows hfits hsorted hoff states since => ?_,
    fun service repo maxPages now cache states since listing => ?_⟩
  · rw [discoverPulls_of_lifetime_zero hoff, discoverPulls_of_lifetime_zero hoff]
    have hfound := listPulls_of_pages hshows hfits hsorted states
    have hanswers (l : Listing) :
        (listPages service repo l since (max 1 maxPages) 1).failure = none := hshows.failure l
    refine ⟨?_, ?_, fun l => (listPages service repo l since (max 1 maxPages) 1).calls.length,
      ?_, ?_, ?_⟩
    · rw [hfound, listingsOf_eq]
    · rw [hfound since, hfound none, List.filter_filter]
      refine List.filter_congr fun p _ => ?_
      simp [Bool.and_comm]
    · intro l
      obtain ⟨limit, hlimit⟩ : ∃ limit, max 1 maxPages = limit + 1 := ⟨max 1 maxPages - 1, by omega⟩
      rw [hlimit]
      exact ⟨length_calls_listPages_pos .., length_calls_listPages ..⟩
    · rw [listPulls, listStates_of_success fun l _ => hanswers l, ← listingsOf_eq]
      exact List.flatMap_congr fun l _ => listPages_calls ..
    · have hproblems : (listPulls service maxPages repo states since).problems =
          failures (readPulls repo.fullName ((listingsOf states).flatMap fun l =>
            (payloads l).take (GitHub.perPage *
              (listPages service repo l since (max 1 maxPages) 1).calls.length))) := by
        rw [listPulls, listStates_of_success fun l _ => hanswers l, readPulls, failures,
          List.map_flatMap, List.filterMap_flatMap]
        exact List.flatMap_congr fun l _ => listPages_problems hshows _ 0
      rw [hproblems, ← listingsOf_eq]
      exact forall₂_failures ..
  · have hlisted : ((listPulls service maxPages repo states since).calls.filter
        (·.asksFor listing)).length ≤ max 1 maxPages := by
      refine (length_calls_listStates service repo since (max 1 maxPages) listing
        (nodup_listingsOf states)).trans ?_
      split_ifs
      · exact le_rfl
      · exact Nat.zero_le _
    rw [discoverPulls]
    rcases cache.findPulls now repo.id (Cache.pullsKey states since) with ⟨_ | found, cache⟩
    · simp only
      split_ifs <;> exact hlisted
    · exact Nat.zero_le _

/-- A listing of a hundred payloads that hold no pull request, and one that does. -/
def longListing : Listing → List Json
  | .open => List.replicate 100 .null ++ [samplePull]
  | .closed => []

/-- A service that shows the long listing in pages. -/
def pagedService : Service :=
  { pulls := fun q => .ok (firstPage ((longListing q.listing).drop (q.perPage * (q.page - 1))))
    checks := fun _ => .error (.api "no check runs") }

/-- The pull request is found on the second page, and a hundred payloads are complained about. -/
theorem pulls_paged_sample :
    pagedService.ShowsPages sampleRepository longListing ∧
    (∀ l, (longListing l).length ≤ GitHub.perPage * max 1 2) ∧
    (∀ l, NewestFirst (wellFormed (longListing l))) ∧
    let told := (discoverPulls pagedService 2 0 sampleRepository [.opened] none { lifetime := 0 }).1
    told.found.length = 1 ∧ told.problems.length = 100 := by
  have hshows : pagedService.ShowsPages sampleRepository longListing := fun _ _ => rfl
  have hfits (l : Listing) : (longListing l).length ≤ GitHub.perPage * max 1 2 := by
    cases l <;> decide +kernel
  have hsorted (l : Listing) : NewestFirst (wellFormed (longListing l)) := by
    cases l with
    | «open» =>
      have hone : (wellFormed (longListing .open)).length = 1 := by decide +kernel
      obtain ⟨p, hp⟩ := List.length_eq_one_iff.1 hone
      rw [hp]
      exact List.pairwise_singleton _ p
    | closed => exact List.Pairwise.nil
  obtain ⟨hfound, -, pages, hpages, -, hproblems⟩ :=
    pulls_paged.1 pagedService sampleRepository longListing 2 0 { lifetime := 0 } hshows hfits
      hsorted rfl [.opened] none
  refine ⟨hshows, hfits, hsorted, ?_, ?_⟩
  · rw [hfound]
    decide +kernel
  · have hneeded : ([PullState.opened].map PullState.listing).eraseDups = [.open] := rfl
    rw [← hproblems.length_eq, hneeded, List.flatMap_cons, List.flatMap_nil, List.append_nil]
    obtain hone | htwo : pages .open = 1 ∨ pages .open = 2 := by
      have hbounds := hpages .open
      omega
    · rw [hone]
      decide +kernel
    · rw [htwo]
      decide +kernel

/-- With a limit of no pages at all one page is asked for, here of an empty listing. -/
theorem not_forall_pages_within_limit :
    ¬ ∀ (service : Service) (repo : RepositoryContext) (maxPages now : Nat) (cache : Cache)
      (states : List PullState) (since : Option Instant) (listing : Listing),
      ((discoverPulls service maxPages now repo states since cache).1.calls.filter
        (·.asksFor listing)).length ≤ maxPages := by
  intro h
  let service : Service :=
    { pulls := fun _ => .ok { items := [], hasNext := false }
      checks := fun _ => .error (.api "no check runs") }
  have hasked := h service sampleRepository 0 0 { lifetime := 0 } [.opened] none .open
  exact absurd hasked (by decide +kernel)

end PullWatch
