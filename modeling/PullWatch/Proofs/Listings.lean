import PullWatch.Proofs.DiscoveryCache
import PullWatch.Proofs.Outcome

/-!
# Reading listings

A listing is read page by page. As long as no request fails, all of it is read that the limit of
pages allows, and when the pull requests are listed newest first, a cutoff leaves out the older ones
and nothing else: the pages that are not asked for have only older ones.

## Main definitions

* `RepositoryContext.query`: the query for a page of a listing.
* `Service.Answers`: no request for pull requests fails.
* `NewestFirst`: pull requests in the order of their last updates.

## Main results

* `listPages_of_error`, `listPages_of_ok`: how a listing is read from a page on.
* `listPulls_since`: what a cutoff leaves out.
* `exists_shown`: discovery brings findings as long as no request for pull requests fails.
-/

namespace PullWatch

open GitHub (Failure Page PullQuery Service)

/-! ### Pages -/

/-- The query for a page of a listing. -/
def RepositoryContext.query (repo : RepositoryContext) (listing : Listing) (page : Nat) :
    PullQuery :=
  { owner := repo.owner, name := repo.name, listing, perPage := GitHub.perPage, page }

section Pages

variable {service : Service} {repo : RepositoryContext} {since : Option Instant} {listing : Listing}

theorem mem_successes {α : Type} {results : List (Except Problem α)} {a : α} :
    a ∈ successes results ↔ .ok a ∈ results := by
  simp only [successes, List.mem_filterMap]
  constructor
  · rintro ⟨_ | b, hb, h⟩
    · cases h
    · rwa [← Option.some.inj h]
  · exact fun h => ⟨.ok a, h, rfl⟩

theorem mem_failures {α : Type} {results : List (Except Problem α)} {problem : Problem} :
    problem ∈ failures results ↔ .error problem ∈ results := by
  simp only [failures, List.mem_filterMap]
  constructor
  · rintro ⟨cause | a, hmem, h⟩
    · rwa [← Option.some.inj h]
    · cases h
  · exact fun h => ⟨.error problem, h, rfl⟩

section Payloads

variable {α : Type} (parse : Json → Except Problem α) (tag : Problem → Problem)

/-- What is read of payloads, each on its own. -/
theorem successes_map_parse (items : List Json) :
    successes (items.map fun item => (parse item).mapError tag) =
      items.filterMap fun item => (parse item).toOption := by
  rw [successes, List.filterMap_map]
  refine List.filterMap_congr fun item _ => ?_
  cases hparse : parse item <;> simp [hparse, Except.mapError, Except.toOption]

/-- One complaint is made for each payload that cannot be read. -/
theorem forall₂_failures_map_parse (items : List Json) :
    List.Forall₂ (fun item problem => ∃ cause, parse item = .error cause ∧ problem = tag cause)
      (items.filter fun item => (parse item).toOption.isNone)
      (failures (items.map fun item => (parse item).mapError tag)) := by
  induction items with
  | nil => exact .nil
  | cons item items ih =>
    cases hparse : parse item with
    | ok pull =>
      rw [List.filter_cons_of_neg (by simp [hparse, Except.toOption])]
      simpa [failures, hparse, Except.mapError] using ih
    | error cause =>
      rw [List.filter_cons_of_pos (by simp [hparse, Except.toOption])]
      have hfailures : failures ((item :: items).map fun item => (parse item).mapError tag) =
          tag cause :: failures (items.map fun item => (parse item).mapError tag) := by
        simp [failures, hparse, Except.mapError]
      rw [hfailures]
      exact .cons ⟨cause, hparse, rfl⟩ ih

end Payloads

theorem mem_successes_readPulls {fullName : String} {items : List Json}
    {pull : FetchedPullRequest} :
    pull ∈ successes (readPulls fullName items) ↔
      ∃ item ∈ items, GitHub.parsePull item = .ok pull := by
  simp only [mem_successes, readPulls, List.mem_map, Outcome.mapError_eq_ok]

theorem listPages_of_error {left page : Nat} {failure : Failure}
    (h : service.pulls (repo.query listing page) = .error failure) :
    listPages service repo listing since (left + 1) page =
      { failure := some failure, calls := [.pulls (repo.query listing page)] } := by
  rw [RepositoryContext.query] at h
  simp only [listPages, h, RepositoryContext.query]

/-- A page that has an older pull request, or no next page, is the last. -/
theorem listPages_of_ok {left page : Nat} {answer : Page}
    (h : service.pulls (repo.query listing page) = .ok answer) :
    let read := successes (readPulls repo.fullName answer.items)
    let rest : ListingOutcome :=
      if read.any (isBefore since) || !answer.hasNext then {}
      else listPages service repo listing since left (page + 1)
    listPages service repo listing since (left + 1) page =
      { pulls := (read.filter fun p => !isBefore since p) ++ rest.pulls
        problems := failures (readPulls repo.fullName answer.items) ++ rest.problems
        failure := rest.failure
        calls := .pulls (repo.query listing page) :: rest.calls } := by
  rw [RepositoryContext.query] at h
  simp only [listPages, h, RepositoryContext.query]

/-- A listing that ends early has a page that was asked for and failed. -/
theorem exists_failing_page {left page : Nat} {failure : Failure}
    (h : (listPages service repo listing since left page).failure = some failure) :
    ∃ k, .pulls (repo.query listing k) ∈
        (listPages service repo listing since left page).calls ∧
      service.pulls (repo.query listing k) = .error failure := by
  induction left generalizing page with
  | zero => cases h
  | succ left ih =>
    cases hanswer : service.pulls (repo.query listing page) with
    | error cause =>
      rw [listPages_of_error hanswer] at h ⊢
      obtain rfl := Option.some.inj h
      exact ⟨page, List.mem_singleton_self _, hanswer⟩
    | ok answer =>
      rw [listPages_of_ok hanswer] at h ⊢
      simp only at h ⊢
      split_ifs at h ⊢
      obtain ⟨k, hasked, hfailure⟩ := ih h
      exact ⟨k, List.mem_cons_of_mem _ hasked, hfailure⟩

/-- A listing does not end early when its pages are answered. -/
theorem failure_listPages_of_pages {left page : Nat}
    (hpages : ∀ n, page ≤ n → ∃ answer, service.pulls (repo.query listing n) = .ok answer) :
    (listPages service repo listing since left page).failure = none := by
  induction left generalizing page with
  | zero => rfl
  | succ left ih =>
    obtain ⟨answer, hanswer⟩ := hpages page le_rfl
    rw [listPages_of_ok hanswer]
    simp only
    split_ifs
    · rfl
    · exact ih fun n hn => hpages n (Nat.le_of_succ_le hn)

/-- A listing depends on the answers for its own pages only. -/
theorem listPages_congr_answers {service' : Service} {left page : Nat}
    (h : ∀ n, page ≤ n →
      service'.pulls (repo.query listing n) = service.pulls (repo.query listing n)) :
    listPages service' repo listing since left page =
      listPages service repo listing since left page := by
  induction left generalizing page with
  | zero => rfl
  | succ left ih =>
    have hanswer := h page le_rfl
    rw [RepositoryContext.query] at hanswer
    simp only [listPages, hanswer, ih fun n hn => h n (Nat.le_of_succ_le hn)]

/-- A listing whose first page is empty brings nothing. -/
theorem listPages_of_empty {left page : Nat}
    (h : service.pulls (repo.query listing page) = .ok { items := [], hasNext := false }) :
    let outcome := listPages service repo listing since left page
    outcome.pulls = [] ∧ outcome.problems = [] ∧ outcome.failure = none := by
  cases left with
  | zero => exact ⟨rfl, rfl, rfl⟩
  | succ left =>
    rw [listPages_of_ok h]
    exact ⟨rfl, rfl, rfl⟩

/-! ### Listings one after the other -/

/-- The problems of a listing: what could not be read, and then the failure that ended it. -/
def ListingOutcome.allProblems (repo : RepositoryContext) (listing : Listing)
    (outcome : ListingOutcome) : List Problem :=
  outcome.problems ++ (outcome.failure.map (listingProblem repo listing)).toList

/-- The listings that are read: a repository that does not exist ends the series. -/
def listingsRead (failure : Listing → Option Failure) : List Listing → List Listing
  | [] => []
  | listing :: rest =>
    listing :: if (failure listing).any Failure.isNotFound then [] else listingsRead failure rest

/-- What listings bring together is what those bring that are read. -/
theorem listStates_eq (limit : Nat) (listings : List Listing) :
    let outcome := fun l => listPages service repo l since limit 1
    let read := listingsRead (fun l => (outcome l).failure) listings
    listStates service limit repo since listings =
      { found := read.flatMap fun l => (outcome l).pulls
        problems := read.flatMap fun l => (outcome l).allProblems repo l
        calls := read.flatMap fun l => (outcome l).calls } := by
  induction listings with
  | nil => rfl
  | cons listing rest ih =>
    simp only [listStates, listingsRead, ih, ListingOutcome.allProblems]
    cases hfailure : (listPages service repo listing since limit 1).failure with
    | none => simp [hfailure]
    | some failure =>
      cases hmissing : failure.isNotFound <;> simp [hfailure, hmissing]

/-- As long as nothing is missing, the series goes on. -/
theorem listingsRead_append {failure : Listing → Option Failure} {before : List Listing}
    (h : ∀ l ∈ before, (failure l).any Failure.isNotFound = false) (rest : List Listing) :
    listingsRead failure (before ++ rest) = before ++ listingsRead failure rest := by
  induction before with
  | nil => rfl
  | cons listing before ih =>
    rw [List.cons_append, listingsRead, h listing List.mem_cons_self,
      ih fun l hl => h l (List.mem_cons_of_mem _ hl)]
    rfl

theorem listingsRead_of_forall {failure : Listing → Option Failure} {listings : List Listing}
    (h : ∀ l ∈ listings, (failure l).any Failure.isNotFound = false) :
    listingsRead failure listings = listings := by
  simpa [listingsRead] using listingsRead_append h []

/-- What is read from listings none of which ends early. -/
theorem listStates_of_success {limit : Nat} {listings : List Listing}
    (h : ∀ listing ∈ listings, (listPages service repo listing since limit 1).failure = none) :
    listStates service limit repo since listings =
      { found := listings.flatMap fun l => (listPages service repo l since limit 1).pulls
        problems := listings.flatMap fun l => (listPages service repo l since limit 1).problems
        calls := listings.flatMap fun l => (listPages service repo l since limit 1).calls } := by
  rw [listStates_eq, listingsRead_of_forall fun l hl => by simp [h l hl]]
  congr 1
  refine List.flatMap_congr fun l hl => ?_
  simp [ListingOutcome.allProblems, h l hl]

@[simp] theorem Problem.kind_about (problem : Problem) (key value : String) :
    (problem.about key value).kind = problem.kind := rfl

theorem GitHub.kind_malformed (record : String) (id : Option Nat) (fault : GitHub.PayloadFault) :
    (GitHub.malformed record id fault).kind = .malformedRecord := by
  cases id <;> rfl

theorem GitHub.kind_of_parsePull_eq_error {item : Json} {cause : Problem}
    (h : GitHub.parsePull item = .error cause) : cause.kind = .malformedRecord := by
  obtain ⟨fault, -, rfl⟩ := Outcome.mapError_eq_error.1 h
  exact GitHub.kind_malformed ..

theorem GitHub.kind_of_parseCheck_eq_error {item : Json} {cause : Problem}
    (h : GitHub.parseCheck item = .error cause) : cause.kind = .malformedRecord := by
  obtain ⟨fault, -, rfl⟩ := Outcome.mapError_eq_error.1 h
  exact GitHub.kind_malformed ..

/-- A payload that cannot be read is a malformed record. -/
theorem kind_of_mem_failures {fullName : String} {items : List Json} {problem : Problem}
    (h : problem ∈ failures (readPulls fullName items)) : problem.kind = .malformedRecord := by
  obtain ⟨item, -, hitem⟩ := List.mem_map.1 (mem_failures.1 h)
  obtain ⟨cause, hparse, rfl⟩ := Outcome.mapError_eq_error.1 hitem
  rw [Problem.kind_about]
  exact GitHub.kind_of_parsePull_eq_error hparse

/-- The problems met in the pages of a listing are payloads that could not be read. -/
theorem kind_of_mem_problems {left page : Nat} {problem : Problem}
    (h : problem ∈ (listPages service repo listing since left page).problems) :
    problem.kind = .malformedRecord := by
  induction left generalizing page with
  | zero => exact absurd h List.not_mem_nil
  | succ left ih =>
    cases hanswer : service.pulls (repo.query listing page) with
    | error failure =>
      rw [listPages_of_error hanswer] at h
      exact absurd h List.not_mem_nil
    | ok answer =>
      rw [listPages_of_ok hanswer] at h
      rcases List.mem_append.1 h with h | h
      · exact kind_of_mem_failures h
      · split_ifs at h
        · exact absurd h List.not_mem_nil
        · exact ih h

end Pages

/-! ### Listings without failures -/

/-- No request for pull requests fails. -/
def GitHub.Service.Answers (service : Service) : Prop :=
  ∀ query, ∃ page, service.pulls query = .ok page

/-- The pull requests are in the order of their last updates, the newest first. -/
def NewestFirst (pulls : List FetchedPullRequest) : Prop :=
  pulls.Pairwise fun p q => q.updatedAt ≤ p.updatedAt

@[simp] theorem isBefore_none (p : FetchedPullRequest) : isBefore none p = false := rfl

theorem isBefore_of_le {since : Option Instant} {p q : FetchedPullRequest}
    (h : isBefore since p = true) (hle : q.updatedAt ≤ p.updatedAt) : isBefore since q = true := by
  cases since with
  | none => exact h
  | some cutoff =>
    simp only [isBefore, Option.any_some, decide_eq_true_eq, Instant.lt_def, Instant.le_def] at *
    omega

section Answers

variable {service : Service} (hanswers : service.Answers) {repo : RepositoryContext}
  {since : Option Instant}

include hanswers

theorem failure_listPages (listing : Listing) (left page : Nat) :
    (listPages service repo listing since left page).failure = none :=
  failure_listPages_of_pages fun n _ => hanswers (repo.query listing n)

/-- In a listing that is newest first a cutoff leaves out the older pull requests. -/
theorem listPages_since (listing : Listing) {left page : Nat}
    (hsorted : NewestFirst (listPages service repo listing none left page).pulls) :
    (listPages service repo listing since left page).pulls =
      (listPages service repo listing none left page).pulls.filter
        fun p => !isBefore since p := by
  induction left generalizing page with
  | zero => rfl
  | succ left ih =>
    obtain ⟨answer, hanswer⟩ := hanswers (repo.query listing page)
    rw [listPages_of_ok hanswer] at hsorted
    rw [listPages_of_ok hanswer, listPages_of_ok hanswer]
    set read := successes (readPulls repo.fullName answer.items)
    have hread : (read.filter fun p => !isBefore none p) = read := by simp
    have hany : read.any (isBefore none) = false := by simp
    simp only [hread, hany, Bool.false_or] at hsorted ⊢
    rw [List.filter_append]
    congr 1
    cases hnext : answer.hasNext with
    | false => simp
    | true =>
      simp only [hnext, Bool.not_true, Bool.or_false, Bool.false_eq_true, if_false] at hsorted ⊢
      obtain ⟨-, hrest, hcross⟩ := List.pairwise_append.1 hsorted
      split_ifs with hpast
      · -- the page has an older pull request, and all that follow are older still
        obtain ⟨p, hp, hbefore⟩ := List.any_eq_true.1 hpast
        refine (List.filter_eq_nil_iff.2 fun q hq => ?_).symm
        rw [isBefore_of_le hbefore (hcross p hp q hq)]
        exact Bool.false_ne_true
      · exact ih hrest

theorem listStates_of_answers (limit : Nat) (listings : List Listing) :
    (listStates service limit repo since listings).found =
        listings.flatMap (fun listing => (listPages service repo listing since limit 1).pulls) ∧
      (listStates service limit repo since listings).problems =
        listings.flatMap fun listing =>
          (listPages service repo listing since limit 1).problems := by
  rw [listStates_of_success fun listing _ => failure_listPages hanswers listing limit 1]
  exact ⟨rfl, rfl⟩

/-- A cutoff leaves out the older pull requests of listings that are newest first. -/
theorem listPulls_since {maxPages : Nat} {states : List PullState}
    (hsorted : ∀ listing ∈ listingsOf states,
      NewestFirst (listPages service repo listing none (max 1 maxPages) 1).pulls) :
    (listPulls service maxPages repo states since).found =
      (listPulls service maxPages repo states none).found.filter fun p => !isBefore since p := by
  have hpages : ∀ listings : List Listing,
      (∀ listing ∈ listings,
        NewestFirst (listPages service repo listing none (max 1 maxPages) 1).pulls) →
      (listings.flatMap fun l => (listPages service repo l since (max 1 maxPages) 1).pulls) =
        (listings.flatMap fun l => (listPages service repo l none (max 1 maxPages) 1).pulls).filter
          fun p => !isBefore since p := by
    intro listings hlistings
    rw [List.filter_flatMap]
    exact List.flatMap_congr fun listing hlisting =>
      listPages_since hanswers listing (hlistings listing hlisting)
  simp only [listPulls, (listStates_of_answers hanswers _ _).1]
  rw [hpages _ hsorted, List.filter_filter, List.filter_filter]
  exact List.filter_congr fun p _ => Bool.and_comm _ _

theorem allListingsFailed_of_answers (maxPages : Nat) (states : List PullState) :
    allListingsFailed states (listPulls service maxPages repo states since).problems = false := by
  have hkind : ∀ problem ∈ (listPulls service maxPages repo states since).problems,
      problem.kind = .malformedRecord := by
    intro problem hproblem
    rw [listPulls, (listStates_of_answers hanswers _ _).2] at hproblem
    obtain ⟨listing, -, hproblem⟩ := List.mem_flatMap.1 hproblem
    exact kind_of_mem_problems hproblem
  have hnone : ∀ problem ∈ (listPulls service maxPages repo states since).problems,
      failedListing? problem = none := fun problem hproblem => by
    simp [failedListing?, hkind problem hproblem]
  rw [allListingsFailed, List.filterMap_eq_nil_iff.2 hnone]
  simp only [List.eraseDups_nil, List.isEmpty_nil, Bool.not_true, Bool.false_and, Bool.or_false,
    List.any_eq_false]
  intro problem hproblem
  simp [hkind problem hproblem]

/-- Discovery that asks for everything brings findings as long as no request for pull requests
fails. -/
theorem exists_shown (config : Configuration) :
    ∃ f, shown service config repo since = .ok f ∧
      f.pulls = (listPulls service config.maxPagesPerQuery repo config.pullStates since).found ∧
      f.checks = shownChecks service config repo (checkTargets f.pulls) := by
  rw [shown, allListingsFailed_of_answers hanswers, Bool.and_false]
  exact ⟨_, rfl, rfl, rfl⟩

end Answers

end PullWatch
