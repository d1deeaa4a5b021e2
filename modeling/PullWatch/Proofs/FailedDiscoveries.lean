import PullWatch.Proofs.FailingPages
import Mathlib.Data.List.Perm.Subperm

/-!
# When discovery fails as a phase

Whether discovery failed is told from the problems that it has met: each listing that ended early
left one, which has the listing's name. They tell which listings were completed, except that after
the first one that reports the repository missing no listing counts as completed, even if earlier
ones were.

## Main definitions

* `GitHub.Service.Completes`: the pages of a listing that were asked for were all answered.

## Main results

* `failure_listPages_iff`: a listing ends early with the failure of a page that was asked for.
* `failedListings_eq`: the listings that ended early, as the problems tell them.
* `discovery_fails_iff`: when a pass ends because discovery failed.
-/

namespace PullWatch

open GitHub (Call Failure Service)

/-- A listing was completed: pages of it were asked for, and all of those were answered. -/
def GitHub.Service.Completes (service : Service) (repo : RepositoryContext) (calls : List Call)
    (listing : Listing) : Prop :=
  (∃ page, .pulls (repo.query listing page) ∈ calls) ∧
    ∀ page, .pulls (repo.query listing page) ∈ calls →
      ∃ answer, service.pulls (repo.query listing page) = .ok answer

/-! ### Listings that end early -/

section Listings

variable {service : Service} {repo : RepositoryContext} {since : Option Instant}
  {listing : Listing} {failure : Failure} {listings : List Listing} {limit : Nat}

/-- A listing ends early with the failure of a page that was asked for. -/
theorem failure_listPages_iff :
    (listPages service repo listing since limit 1).failure = some failure ↔
      ∃ page, .pulls (repo.query listing page) ∈
          (listPages service repo listing since limit 1).calls ∧
        service.pulls (repo.query listing page) = .error failure := by
  refine ⟨exists_failing_page, ?_⟩
  rintro ⟨page, hasked, hfailure⟩
  exact (listPages_endingBefore hfailure false [] (page_pos_of_mem_calls hasked) hasked).1

theorem mem_calls_listStates_iff {page : Nat} :
    .pulls (repo.query listing page) ∈ (listStates service limit repo since listings).calls ↔
      listing ∈ listingsRead (fun l => (listPages service repo l since limit 1).failure) listings ∧
        .pulls (repo.query listing page) ∈
          (listPages service repo listing since limit 1).calls := by
  refine ⟨asked_of_mem_calls, fun ⟨hread, hasked⟩ => ?_⟩
  rw [listStates_eq]
  exact List.mem_flatMap.2 ⟨listing, hread, hasked⟩

/-- The completed listings are those that were read without ending early. -/
theorem completes_iff :
    service.Completes repo (listStates service (limit + 1) repo since listings).calls listing ↔
      listing ∈
          listingsRead (fun l => (listPages service repo l since (limit + 1) 1).failure) listings ∧
        (listPages service repo listing since (limit + 1) 1).failure = none := by
  simp only [Service.Completes, mem_calls_listStates_iff]
  constructor
  · rintro ⟨⟨page, hread, -⟩, hanswers⟩
    refine ⟨hread, Option.eq_none_iff_forall_ne_some.2 fun failure hfailure => ?_⟩
    obtain ⟨k, hasked, herror⟩ := failure_listPages_iff.1 hfailure
    obtain ⟨answer, hanswer⟩ := hanswers k ⟨hread, hasked⟩
    cases herror.symm.trans hanswer
  · rintro ⟨hread, hnone⟩
    refine ⟨?_, fun page ⟨_, hasked⟩ => ?_⟩
    · obtain ⟨call, hcall⟩ := List.exists_mem_of_length_pos
        (length_calls_listPages_pos service repo since listing limit 1)
      have hquery := hcall
      rw [listPages_calls] at hquery
      obtain ⟨page, -, rfl⟩ := List.mem_map.1 hquery
      exact ⟨page, hread, hcall⟩
    · cases hanswer : service.pulls (repo.query listing page) with
      | error failure =>
        cases hnone.symm.trans (failure_listPages_iff.2 ⟨page, hasked, hanswer⟩)
      | ok answer => exact ⟨answer, rfl⟩

end Listings

/-! ### What the problems tell -/

theorem eraseDups_of_nodup {α : Type} [BEq α] [LawfulBEq α] {l : List α} (h : l.Nodup) :
    l.eraseDups = l := by
  induction l with
  | nil => rfl
  | cons a l ih =>
    obtain ⟨ha, hl⟩ := List.nodup_cons.1 h
    have hother : l.filter (fun b => !b == a) = l :=
      List.filter_eq_self.2 fun b hb => by simpa using fun heq : b = a => ha (heq ▸ hb)
    rw [List.eraseDups_cons, hother, ih hl]

theorem Listing.name_injective : Function.Injective Listing.name := by
  intro l l' h
  cases l <;> cases l' <;> first | rfl | exact absurd h (by decide)

section Problems

variable {service : Service} {repo : RepositoryContext} {since : Option Instant} {limit : Nat}
  {listings : List Listing}

theorem failedListing?_listingProblem (listing : Listing) (failure : Failure) :
    failedListing? (listingProblem repo listing failure) = some listing.name := by
  cases failure <;> rfl

theorem failedListing?_of_malformed {problem : Problem} (h : problem.kind = .malformedRecord) :
    failedListing? problem = none := by
  simp [failedListing?, h]

/-- The problems of one listing name it exactly when it ended early. -/
theorem filterMap_failedListing? (listing : Listing) :
    let outcome := listPages service repo listing since limit 1
    (outcome.allProblems repo listing).filterMap failedListing? =
      if outcome.failure.isSome then [listing.name] else [] := by
  intro outcome
  have hnone : outcome.problems.filterMap failedListing? = [] :=
    List.filterMap_eq_nil_iff.2 fun problem hproblem =>
      failedListing?_of_malformed (kind_of_mem_problems hproblem)
  rw [ListingOutcome.allProblems, List.filterMap_append, hnone]
  cases outcome.failure with
  | none => rfl
  | some failure => simp [failedListing?_listingProblem]

/-- The problems of a series name the listings that ended early, in their order. -/
theorem failedListings_eq (listings : List Listing) :
    let failure := fun l => (listPages service repo l since limit 1).failure
    (listStates service limit repo since listings).problems.filterMap failedListing? =
      ((listingsRead failure listings).filter fun l => (failure l).isSome).map Listing.name := by
  intro failure
  rw [listStates_eq]
  simp only [List.filterMap_flatMap, filterMap_failedListing?]
  induction listingsRead failure listings with
  | nil => rfl
  | cons listing read ih =>
    rw [List.flatMap_cons, ih, List.filter_cons]
    split_ifs <;> rfl

/-- One of the problems of a listing tells that the repository is missing exactly when the listing
ended so. -/
theorem any_missing_allProblems (listing : Listing) :
    let outcome := listPages service repo listing since limit 1
    ((outcome.allProblems repo listing).any fun p =>
      p.kind = .notFound ∧ (failedListing? p).isSome) = outcome.failure.any Failure.isNotFound := by
  intro outcome
  have hpages : (outcome.problems.any fun p =>
      p.kind = .notFound ∧ (failedListing? p).isSome) = false :=
    List.any_eq_false.2 fun problem hproblem => by
      simp [failedListing?_of_malformed (kind_of_mem_problems hproblem)]
  rw [ListingOutcome.allProblems, List.any_append, hpages, Bool.false_or]
  cases outcome.failure with
  | none => rfl
  | some failure => cases failure <;> rfl

/-- All listings are said to have failed when one of them ended with the repository missing, or when
none was completed. -/
theorem allListingsFailed_listStates_iff {states : List PullState} :
    let failure := fun l => (listPages service repo l since limit 1).failure
    let read := listingsRead failure (listingsOf states)
    allListingsFailed states (listStates service limit repo since (listingsOf states)).problems =
        true ↔
      (∃ l ∈ read, (failure l).any Failure.isNotFound = true) ∨
        listingsOf states ≠ [] ∧ ∀ l ∈ listingsOf states, l ∈ read ∧ failure l ≠ none := by
  intro failure read
  have hmissing : ((listStates service limit repo since (listingsOf states)).problems.any fun p =>
      p.kind = .notFound ∧ (failedListing? p).isSome) =
      read.any fun l => (failure l).any Failure.isNotFound := by
    rw [listStates_eq, List.any_flatMap]
    simp only [any_missing_allProblems]
    rfl
  set failed := read.filter fun l => (failure l).isSome
  have hsublist : failed.Sublist (listingsOf states) :=
    List.filter_sublist.trans (listingsRead_sublist _ _)
  have hdistinct : (failed.map Listing.name).eraseDups = failed.map Listing.name :=
    eraseDups_of_nodup (((nodup_listingsOf states).sublist hsublist).map Listing.name_injective)
  have hmem {l : Listing} : l ∈ failed ↔ l ∈ read ∧ failure l ≠ none := by
    rw [List.mem_filter, Option.isSome_iff_ne_none]
  rw [allListingsFailed, hmissing, failedListings_eq, hdistinct]
  simp only [Bool.or_eq_true, Bool.and_eq_true, List.any_eq_true, decide_eq_true_eq,
    Bool.not_eq_true', List.isEmpty_eq_false_iff, ne_eq, List.map_eq_nil_iff, List.length_map]
  refine or_congr_right ⟨?_, ?_⟩
  · -- as many as there are, each once: these are all
    rintro ⟨hfailed, hlength⟩
    have heq : failed = listingsOf states := hsublist.eq_of_length_le hlength
    exact ⟨heq ▸ hfailed, fun l hl => hmem.1 (heq ▸ hl)⟩
  · rintro ⟨hlistings, hall⟩
    have hsubset : listingsOf states ⊆ failed := fun l hl => hmem.2 (hall l hl)
    have hlength := ((nodup_listingsOf states).subperm hsubset).length_le
    exact ⟨fun hnil => hlistings (List.length_eq_zero_iff.1 (by simpa [hnil] using hlength)),
      hlength⟩

end Problems

/-! ### Passes that end in discovery -/

theorem mem_listingsOf {states : List PullState} {listing : Listing} :
    listing ∈ listingsOf states ↔ ∃ s ∈ states, s.listing = listing := by
  rw [listingsOf_eq, List.mem_eraseDups, List.mem_map]

/-- When no listing that was read reports the repository missing, all were read. -/
theorem listingsRead_eq_self {failure : Listing → Option Failure} {listings : List Listing}
    (h : ∀ l ∈ listingsRead failure listings, (failure l).any Failure.isNotFound = false) :
    listingsRead failure listings = listings := by
  induction listings with
  | nil => rfl
  | cons listing rest ih =>
    have hfirst := h listing List.mem_cons_self
    rw [listingsRead, hfirst, if_neg Bool.false_ne_true] at h ⊢
    rw [ih fun l hl => h l (List.mem_cons_of_mem _ hl)]

section Passes

variable {service : Service} {config : Configuration} {faults : Faults} {now : Moment}
  {repo : RepositoryContext} {since : Option Instant} {isTrial : Bool} {db : Database}
  {cache : Cache}

theorem discover_eq_error_iff :
    let told := (discoverPulls service config.maxPagesPerQuery now.ticks repo config.pullStates
      since cache).1
    (∃ problems, (discover service config now repo since cache).1 = .error problems) ↔
      told.found = [] ∧ allListingsFailed config.pullStates told.problems = true := by
  intro told
  rw [← List.isEmpty_iff, ← Bool.and_eq_true]
  simp only [discover]
  split_ifs with hfailed
  · exact iff_of_true ⟨_, rfl⟩ hfailed
  · refine iff_of_false ?_ hfailed
    rintro ⟨problems, hproblems⟩
    cases hproblems

/-- A pass fails in discovery exactly when discovery brings nothing but problems. -/
theorem failedPhase_eq_discoveryFailure_iff :
    (runPass service config faults now repo since isTrial db cache).result.failedPhase =
        some .discoveryFailure ↔
      ∃ problems, (discover service config now repo since cache).1 = .error problems := by
  set pass := runPass service config faults now repo since isTrial db cache
  have houtcome : PassOutcome service config faults now repo since isTrial db db cache pass :=
    passOutcome_runPass
  have hother {f : Findings} (hok : (discover service config now repo since cache).1 = .ok f)
      (hphase : pass.result.failedPhase ≠ some .discoveryFailure) :
      pass.result.failedPhase = some .discoveryFailure ↔
        ∃ problems, (discover service config now repo since cache).1 = .error problems :=
    iff_of_false hphase fun ⟨_, herror⟩ => nomatch hok.symm.trans herror
  cases houtcome with
  | undiscovered hdiscover hfailed => exact iff_of_true hfailed ⟨_, hdiscover⟩
  | undetected hdiscover _ hfailed => exact hother hdiscover (by rw [hfailed]; decide)
  | rolledBack hdiscover _ _ _ hfailed => exact hother hdiscover (by rw [hfailed]; decide)
  | completed hdiscover _ hfailed => exact hother hdiscover (by rw [hfailed]; decide)

/-- With nothing kept, a pass ends because discovery failed exactly when no pull request was found
and either none of the listings was completed or one of them reported the repository missing. -/
theorem discovery_fails_iff (service : Service) (config : Configuration) (faults : Faults)
    (now : Moment) (repo : RepositoryContext) (since : Option Instant) (isTrial : Bool)
    (db : Database) (cache : Cache) (hoff : cache.lifetime = 0) :
    let told := (discoverPulls service config.maxPagesPerQuery now.ticks repo config.pullStates
      since cache).1
    (runPass service config faults now repo since isTrial db cache).result.failedPhase =
        some .discoveryFailure ↔
      config.pullStates ≠ [] ∧ told.found = [] ∧
        ((∀ s ∈ config.pullStates, ¬ service.Completes repo told.calls s.listing) ∨
          ∃ listing page resource, .pulls (repo.query listing page) ∈ told.calls ∧
            service.pulls (repo.query listing page) = .error (.notFound resource)) := by
  refine (failedPhase_eq_discoveryFailure_iff.trans discover_eq_error_iff).trans ?_
  simp only [discoverPulls_of_lifetime_zero hoff]
  obtain ⟨limit, hlimit⟩ : ∃ limit, max 1 config.maxPagesPerQuery = limit + 1 :=
    ⟨max 1 config.maxPagesPerQuery - 1, by omega⟩
  let failure := fun l => (listPages service repo l since (limit + 1) 1).failure
  let read := listingsRead failure (listingsOf config.pullStates)
  have hfailed : allListingsFailed config.pullStates
      (listPulls service config.maxPagesPerQuery repo config.pullStates since).problems = true ↔
      (∃ l ∈ read, (failure l).any Failure.isNotFound = true) ∨
        listingsOf config.pullStates ≠ [] ∧
          ∀ l ∈ listingsOf config.pullStates, l ∈ read ∧ failure l ≠ none := by
    rw [listPulls, hlimit]
    exact allListingsFailed_listStates_iff
  have hcompletes (l : Listing) : service.Completes repo
      (listPulls service config.maxPagesPerQuery repo config.pullStates since).calls l ↔
        l ∈ read ∧ failure l = none := by
    rw [listPulls, hlimit]
    exact completes_iff
  have hmissing : (∃ listing page resource, .pulls (repo.query listing page) ∈
      (listPulls service config.maxPagesPerQuery repo config.pullStates since).calls ∧
        service.pulls (repo.query listing page) = .error (.notFound resource)) ↔
      ∃ l ∈ read, (failure l).any Failure.isNotFound = true := by
    rw [listPulls, hlimit]
    simp only [mem_calls_listStates_iff, Option.any_eq_true]
    constructor
    · rintro ⟨l, page, resource, ⟨hl, hasked⟩, hanswer⟩
      exact ⟨l, hl, _, failure_listPages_iff.2 ⟨page, hasked, hanswer⟩, rfl⟩
    · rintro ⟨l, hl, cause, hcause, hresource⟩
      obtain ⟨page, hasked, hanswer⟩ := failure_listPages_iff.1 hcause
      obtain ⟨resource, rfl⟩ : ∃ resource, cause = .notFound resource := by
        cases cause <;> first | exact ⟨_, rfl⟩ | cases hresource
      exact ⟨l, page, resource, ⟨hl, hasked⟩, hanswer⟩
  simp only [hfailed, hcompletes, hmissing]
  rw [and_left_comm]
  refine and_congr_right fun _ => ⟨?_, ?_⟩
  · rintro (⟨l, hl, hgone⟩ | ⟨hlistings, hall⟩)
    · obtain ⟨s, hs, -⟩ := mem_listingsOf.1 ((listingsRead_sublist _ _).subset hl)
      exact ⟨List.ne_nil_of_mem hs, .inr ⟨l, hl, hgone⟩⟩
    · obtain ⟨l, hl⟩ := List.exists_mem_of_ne_nil _ hlistings
      obtain ⟨s, hs, -⟩ := mem_listingsOf.1 hl
      exact ⟨List.ne_nil_of_mem hs, .inl fun s hs hdone =>
        (hall s.listing (mem_listingsOf.2 ⟨s, hs, rfl⟩)).2 hdone.2⟩
  · rintro ⟨hstates, hnone⟩
    by_cases hgone : ∃ l ∈ read, (failure l).any Failure.isNotFound = true
    · exact .inl hgone
    · -- nothing is missing, so every listing was read
      have hall : read = listingsOf config.pullStates :=
        listingsRead_eq_self fun l hl => by simpa using fun h => hgone ⟨l, hl, h⟩
      obtain ⟨s, hs⟩ := List.exists_mem_of_ne_nil _ hstates
      refine .inr ⟨List.ne_nil_of_mem (mem_listingsOf.2 ⟨s, hs, rfl⟩), fun l hl => ?_⟩
      obtain ⟨s, hs, rfl⟩ := mem_listingsOf.1 hl
      have hread : s.listing ∈ read := hall ▸ hl
      exact ⟨hread, fun hdone => hnone.resolve_right hgone s hs ⟨hread, hdone⟩⟩

end Passes

/-! ### One listing of two -/

/-- A service whose open listing is empty and whose closed listing fails. -/
def halfService (failure : Failure) : Service :=
  { pulls := fun q =>
      if q.listing = .open then .ok { items := [], hasNext := false } else .error failure
    checks := fun _ => .error (.api "no check runs") }

/-- Open and closed pull requests are asked for. -/
def halfConfiguration : Configuration := { pullStates := [.opened, .closed] }

/-- The pull requests that the service shows, with nothing kept. -/
def halfTold (failure : Failure) : Discovered (List FetchedPullRequest) :=
  (discoverPulls (halfService failure) halfConfiguration.maxPagesPerQuery sampleMoment.ticks
    sampleRepository halfConfiguration.pullStates none { lifetime := 0 }).1

theorem halfService_completes (resource : String) :
    (halfService (.notFound resource)).Completes sampleRepository
      (halfTold (.notFound resource)).calls .open :=
  ⟨⟨1, List.mem_cons_self⟩, fun _ _ => ⟨_, rfl⟩⟩

/-- When the closed listing reports the repository missing, discovery fails although the open one
was completed. With any other failure it does not fail. -/
theorem discovery_fails_iff_half :
    (halfService (.notFound "acme/widgets")).Completes sampleRepository
      (halfTold (.notFound "acme/widgets")).calls .open ∧
    (runPass (halfService (.notFound "acme/widgets")) halfConfiguration .never sampleMoment
      sampleRepository none false sampleDatabase { lifetime := 0 }).result.failedPhase =
        some .discoveryFailure ∧
    (runPass (halfService (.api "timeout")) halfConfiguration .never sampleMoment
      sampleRepository none false sampleDatabase { lifetime := 0 }).result.failedPhase ≠
        some .discoveryFailure := by
  refine ⟨halfService_completes _, ?_, fun hfailed => ?_⟩
  · refine (discovery_fails_iff _ _ _ _ _ _ _ _ _ rfl).2 ⟨by decide, rfl, .inr ?_⟩
    exact ⟨.closed, 1, _, List.mem_cons_of_mem _ List.mem_cons_self, rfl⟩
  · obtain ⟨-, -, hnone | ⟨listing, page, resource, -, hanswer⟩⟩ :=
      (discovery_fails_iff _ _ _ _ _ _ _ _ _ rfl).1 hfailed
    · exact hnone .opened List.mem_cons_self ⟨⟨1, List.mem_cons_self⟩, fun _ _ => ⟨_, rfl⟩⟩
    · cases listing <;> cases hanswer

/-- That no listing was completed is not needed for discovery to fail, even under a valid
configuration. -/
theorem not_forall_discovery_fails_iff_none_completed :
    ¬ ∀ (service : Service) (config : Configuration) (faults : Faults) (now : Moment)
      (repo : RepositoryContext) (since : Option Instant) (isTrial : Bool) (db : Database)
      (cache : Cache), cache.lifetime = 0 → config.validate = .ok () →
      let told := (discoverPulls service config.maxPagesPerQuery now.ticks repo config.pullStates
        since cache).1
      (runPass service config faults now repo since isTrial db cache).result.failedPhase =
          some .discoveryFailure ↔
        told.found = [] ∧
          ∀ s ∈ config.pullStates, ¬ service.Completes repo told.calls s.listing := by
  intro h
  have hfailed : (runPass (halfService (.notFound "acme/widgets")) halfConfiguration .never
      sampleMoment sampleRepository none false sampleDatabase
      { lifetime := 0 }).result.failedPhase = some .discoveryFailure := by
    decide +kernel
  obtain ⟨-, hnone⟩ := (h _ halfConfiguration .never sampleMoment sampleRepository none false
    sampleDatabase { lifetime := 0 } rfl rfl).1 hfailed
  exact hnone .opened List.mem_cons_self (halfService_completes "acme/widgets")

end PullWatch
