import PullWatch.Proofs.OverlappingPasses
import PullWatch.Proofs.Paging

/-!
# A failing page ends a listing

A page that cannot be had costs what is on it and behind it, and nothing else: discovery brings what
it brings from a service whose listing ends before that page, and one problem more. When the answer
is that the repository does not exist, it is as if the later listings were empty besides. A payload
that cannot be read costs only itself. And nothing that was brought together with a problem is kept
in the cache.

## Main definitions

* `Discovered.AddsProblem`: the same was found and the same problems were met, but for one more.
* `GitHub.Service.endingBefore`: a service whose listing ends before a page.
* `CacheEntry.IsClean`: the entry keeps a whole answer that came without a problem.
* `Cache.AddsClean`: a cache has only such entries more than another.

## Main results

* `listPages_endingBefore`, `listPages_inserting`: one listing beside the other.
* `addsProblem_listStates`: series of listings that differ in one of them.
* `Cache.AddsClean.discoverTogether`: discovery keeps nothing that came with a problem.
* `failing_page_ends_listing`: what a failing page, a malformed payload and a problem do.
-/

namespace PullWatch

open GitHub (Call Failure Page Service)

/-- The same was found and the same problems were met, but for one more, wherever it stands. -/
structure Discovered.AddsProblem {α : Type} (problem : Problem) (told other : Discovered α) :
    Prop where
  found : told.found = other.found
  problems : ∃ earlier later, told.problems = earlier ++ problem :: later ∧
    other.problems = earlier ++ later

/-- A page with nothing on it or behind it. -/
def GitHub.Page.empty : Page := { items := [], hasNext := false }

/-- A service one of whose listings of a repository ends before a page, and whose listings of some
other kinds are empty. The page that is the last now may still announce another one, which is
empty. -/
def GitHub.Service.endingBefore (service : Service) (repo : RepositoryContext) (listing : Listing)
    (page : Nat) (announced : Bool) (emptied : List Listing) : Service :=
  { service with
    pulls := fun q =>
      if q.owner = repo.owner ∧ q.name = repo.name then
        if q.listing = listing then
          if q.page < page then
            (service.pulls q).map fun answer =>
              { answer with hasNext := answer.hasNext && (announced || q.page + 1 < page) }
          else .ok .empty
        else if q.listing ∈ emptied then .ok .empty
        else service.pulls q
      else service.pulls q }

section EndingBefore

variable {service : Service} {repo : RepositoryContext} {listing other : Listing} {k : Nat}
  {announced : Bool} {emptied : List Listing} {n : Nat}

theorem endingBefore_of_lt (hn : n < k) {answer : Page}
    (h : service.pulls (repo.query listing n) = .ok answer) :
    (service.endingBefore repo listing k announced emptied).pulls (repo.query listing n) =
      .ok { answer with hasNext := answer.hasNext && (announced || n + 1 < k) } := by
  simp only [Service.endingBefore, RepositoryContext.query] at h ⊢
  simp only [and_self, if_true, hn, h]
  rfl

theorem endingBefore_of_le (hn : k ≤ n) :
    (service.endingBefore repo listing k announced emptied).pulls (repo.query listing n) =
      .ok .empty := by
  simp [Service.endingBefore, RepositoryContext.query, Nat.not_lt.2 hn]

theorem endingBefore_of_mem (hother : other ≠ listing) (hmem : other ∈ emptied) :
    (service.endingBefore repo listing k announced emptied).pulls (repo.query other n) =
      .ok .empty := by
  simp [Service.endingBefore, RepositoryContext.query, hother, hmem]

theorem endingBefore_of_not_mem (hother : other ≠ listing) (hmem : other ∉ emptied) :
    (service.endingBefore repo listing k announced emptied).pulls (repo.query other n) =
      service.pulls (repo.query other n) := by
  simp [Service.endingBefore, RepositoryContext.query, hother, hmem]

end EndingBefore

/-! ### One listing -/

theorem query_inj {repo : RepositoryContext} {listing other : Listing} {n m : Nat} :
    repo.query listing n = repo.query other m ↔ listing = other ∧ n = m := by
  simp [RepositoryContext.query]

section Pages

variable {service : Service} {repo : RepositoryContext} {listing : Listing} {since : Option Instant}
  {k left page : Nat}

/-- A page that is asked for is the first one, or the first one is answered and it is asked for
behind it. -/
theorem listPages_asked
    (hasked : .pulls (repo.query listing k) ∈
      (listPages service repo listing since left page).calls) :
    ∃ rest, left = rest + 1 ∧ (k = page ∨ ∃ answer,
      service.pulls (repo.query listing page) = .ok answer ∧
      ((successes (readPulls repo.fullName answer.items)).any (isBefore since) ||
        !answer.hasNext) = false ∧
      .pulls (repo.query listing k) ∈
        (listPages service repo listing since rest (page + 1)).calls) := by
  cases left with
  | zero => cases hasked
  | succ left =>
    refine ⟨left, rfl, ?_⟩
    cases hanswer : service.pulls (repo.query listing page) with
    | error failure =>
      rw [listPages_of_error hanswer, List.mem_singleton, Call.pulls.injEq, query_inj] at hasked
      exact .inl hasked.2
    | ok answer =>
      rw [listPages_of_ok hanswer] at hasked
      rcases List.mem_cons.1 hasked with heq | hlater
      · exact .inl (query_inj.1 (Call.pulls.inj heq)).2
      · split_ifs at hlater with hstop
        · cases hlater
        · exact .inr ⟨answer, rfl, by simpa using hstop, hlater⟩

/-- A listing that a failing page ends has what the listing has that ends before it. -/
theorem listPages_endingBefore {failure : Failure}
    (hfailure : service.pulls (repo.query listing k) = .error failure) (announced : Bool)
    (emptied : List Listing) (hpage : page ≤ k)
    (hasked : .pulls (repo.query listing k) ∈
      (listPages service repo listing since left page).calls) :
    let failing := listPages service repo listing since left page
    let ending := listPages (service.endingBefore repo listing k announced emptied) repo listing
      since left page
    failing.failure = some failure ∧ ending.failure = none ∧ ending.pulls = failing.pulls ∧
      ending.problems = failing.problems := by
  induction left generalizing page with
  | zero => cases hasked
  | succ left ih =>
    obtain ⟨rest, hrest, rfl | ⟨answer, hanswer, hgoes, hlater⟩⟩ := listPages_asked hasked
    · rw [listPages_of_error hfailure, listPages_of_ok (endingBefore_of_le le_rfl)]
      exact ⟨rfl, rfl, rfl, rfl⟩
    · obtain rfl := Nat.succ_injective hrest
      have hlt : page < k := by
        refine Nat.lt_of_le_of_ne hpage fun heq => ?_
        rw [heq, hfailure] at hanswer
        cases hanswer
      obtain ⟨hfailing, hending, hpulls, hproblems⟩ := ih hlt hlater
      rw [Bool.or_eq_false_iff] at hgoes
      have hnext : answer.hasNext = true := by simpa using hgoes.2
      rw [listPages_of_ok hanswer, listPages_of_ok (endingBefore_of_lt hlt hanswer)]
      simp only [hgoes.1, hnext, Bool.not_true, Bool.or_false, Bool.false_or, Bool.true_and,
        Bool.false_eq_true, if_false]
      split_ifs with hlast
      · -- the page before the failing one is the last now
        have hk : k = page + 1 := by
          simp only [Bool.not_eq_true', Bool.or_eq_false_iff, decide_eq_false_iff_not] at hlast
          omega
        obtain ⟨more, rfl, -⟩ := listPages_asked hlater
        subst hk
        rw [listPages_of_error hfailure]
        exact ⟨rfl, rfl, rfl, rfl⟩
      · exact ⟨hfailing, hending, by rw [hpulls], by rw [hproblems]⟩

/-- A service that answers one query for pull requests with a given page. -/
def GitHub.Service.answering (service : Service) (query : GitHub.PullQuery) (page : Page) :
    Service :=
  { service with pulls := Function.update service.pulls query (.ok page) }

theorem GitHub.Service.answering_of_ne (service : Service) {query other : GitHub.PullQuery}
    (h : other ≠ query) (page : Page) :
    (service.answering query page).pulls other = service.pulls other :=
  Function.update_of_ne h _ _

theorem GitHub.Service.answering_self (service : Service) (query : GitHub.PullQuery) (page : Page) :
    (service.answering query page).pulls query = .ok page :=
  Function.update_self _ _ _

/-- A payload that cannot be read adds a problem to those of its page, and nothing else. -/
theorem readPulls_inserting (fullName : String) (above below : List Json) {malformed : Json}
    {cause : Problem} (h : GitHub.parsePull malformed = .error cause) :
    successes (readPulls fullName (above ++ malformed :: below)) =
        successes (readPulls fullName (above ++ below)) ∧
      failures (readPulls fullName (above ++ malformed :: below)) =
        failures (readPulls fullName above) ++
          cause.about "repository" fullName :: failures (readPulls fullName below) := by
  constructor
  · simp [successes_readPulls, wellFormed, h, Except.toOption]
  · rw [failures_readPulls_append]
    simp [readPulls, failures, h, Except.mapError]

/-- A payload that cannot be read adds a problem to those of a listing, and nothing else. -/
theorem listPages_inserting {answer : Page} {above below : List Json} {malformed : Json}
    {cause : Problem} (hanswer : service.pulls (repo.query listing k) = .ok answer)
    (hitems : answer.items = above ++ below)
    (hmalformed : GitHub.parsePull malformed = .error cause)
    (hpage : page ≤ k)
    (hasked : .pulls (repo.query listing k) ∈
      (listPages service repo listing since left page).calls) :
    let plain := listPages service repo listing since left page
    let inserted := listPages (service.answering (repo.query listing k)
      { answer with items := above ++ malformed :: below }) repo listing since left page
    inserted.pulls = plain.pulls ∧ inserted.failure = plain.failure ∧
      inserted.calls = plain.calls ∧ ∃ earlier later,
        inserted.problems = earlier ++ cause.about "repository" repo.fullName :: later ∧
        plain.problems = earlier ++ later := by
  induction left generalizing page with
  | zero => cases hasked
  | succ left ih =>
    obtain ⟨rest, hrest, hk⟩ := listPages_asked hasked
    obtain rfl := Nat.succ_injective hrest
    by_cases heq : k = page
    · subst heq
      have hlater : listPages (service.answering (repo.query listing k)
            { answer with items := above ++ malformed :: below }) repo listing since left (k + 1) =
          listPages service repo listing since left (k + 1) :=
        listPages_congr_answers fun n hn => service.answering_of_ne
          (fun h => Nat.ne_of_gt hn (query_inj.1 h).2) _
      obtain ⟨hread, hfailures⟩ := readPulls_inserting repo.fullName above below hmalformed
      have hplain : failures (readPulls repo.fullName (above ++ below)) =
          failures (readPulls repo.fullName above) ++ failures (readPulls repo.fullName below) :=
        failures_readPulls_append ..
      rw [listPages_of_ok hanswer, listPages_of_ok (GitHub.Service.answering_self ..), hitems]
      simp only [hread, hfailures, hplain, hlater, List.append_assoc, List.cons_append, true_and]
      exact ⟨_, _, rfl, rfl⟩
    · obtain ⟨first, hfirst, hgoes, hlater⟩ := hk.resolve_left heq
      have hlt : page < k := Nat.lt_of_le_of_ne hpage (Ne.symm heq)
      have hother : repo.query listing page ≠ repo.query listing k :=
        fun h => heq (query_inj.1 h).2.symm
      have hsame := (service.answering_of_ne hother
        { answer with items := above ++ malformed :: below }).trans hfirst
      obtain ⟨hpulls, hfailure, hcalls, earlier, later, hinserted, hplain⟩ := ih hlt hlater
      rw [listPages_of_ok hfirst, listPages_of_ok hsame]
      simp only [hgoes, Bool.false_eq_true, if_false]
      refine ⟨by rw [hpulls], hfailure, by rw [hcalls], ?_⟩
      exact ⟨failures (readPulls repo.fullName first.items) ++ earlier, later,
        by rw [hinserted, List.append_assoc], by rw [hplain, List.append_assoc]⟩

end Pages

/-! ### Listings one after the other -/

/-- A listing is read only when nothing before it was missing. -/
theorem listingsRead_of_mem {failure : Listing → Option Failure} {before after : List Listing}
    {listing : Listing}
    (hread : listing ∈ listingsRead failure (before ++ listing :: after))
    (hbefore : listing ∉ before) :
    ∀ l ∈ before, (failure l).any Failure.isNotFound = false := by
  induction before with
  | nil => exact fun l hl => absurd hl List.not_mem_nil
  | cons first before ih =>
    rw [List.mem_cons, not_or] at hbefore
    obtain ⟨hfirst, hrest⟩ := hbefore
    rw [List.cons_append, listingsRead] at hread
    have hlater := (List.mem_cons.1 hread).resolve_left hfirst
    cases hmissing : (failure first).any Failure.isNotFound with
    | true => simp [hmissing] at hlater
    | false =>
      rw [hmissing, if_neg Bool.false_ne_true] at hlater
      exact List.forall_mem_cons.2 ⟨hmissing, ih hlater hrest⟩

theorem listingsRead_sublist (failure : Listing → Option Failure) (listings : List Listing) :
    (listingsRead failure listings).Sublist listings := by
  induction listings with
  | nil => exact List.Sublist.refl []
  | cons listing rest ih =>
    rw [listingsRead]
    split_ifs
    · exact (List.nil_sublist rest).cons_cons listing
    · exact ih.cons_cons listing

theorem listingsRead_congr {failure failure' : Listing → Option Failure} {listings : List Listing}
    (h : ∀ l ∈ listings, failure l = failure' l) :
    listingsRead failure listings = listingsRead failure' listings := by
  induction listings with
  | nil => rfl
  | cons listing rest ih =>
    rw [listingsRead, listingsRead, h listing List.mem_cons_self,
      ih fun l hl => h l (List.mem_cons_of_mem _ hl)]

section Series

variable {service service' : Service} {repo : RepositoryContext} {since : Option Instant}
  {limit : Nat} {listings before later later' : List Listing} {listing : Listing}
  {problem : Problem}

/-- Two series bring the same but for one problem when their listings do, one of which brings the
problem. -/
theorem addsProblem_listStates
    (hread : listingsRead (fun l => (listPages service repo l since limit 1).failure) listings =
      before ++ listing :: later)
    (hread' : listingsRead (fun l => (listPages service' repo l since limit 1).failure) listings =
      before ++ listing :: later')
    (hbefore : ∀ l ∈ before,
      listPages service repo l since limit 1 = listPages service' repo l since limit 1)
    (hpulls : (listPages service repo listing since limit 1).pulls =
      (listPages service' repo listing since limit 1).pulls)
    (hproblems : ∃ first second,
      (listPages service repo listing since limit 1).allProblems repo listing =
        first ++ problem :: second ∧
      (listPages service' repo listing since limit 1).allProblems repo listing = first ++ second)
    (hlaterPulls : (later.flatMap fun l => (listPages service repo l since limit 1).pulls) =
      later'.flatMap fun l => (listPages service' repo l since limit 1).pulls)
    (hlaterProblems :
      (later.flatMap fun l => (listPages service repo l since limit 1).allProblems repo l) =
        later'.flatMap fun l => (listPages service' repo l since limit 1).allProblems repo l) :
    Discovered.AddsProblem problem (listStates service limit repo since listings)
      (listStates service' limit repo since listings) := by
  obtain ⟨first, second, hproblem, hplain⟩ := hproblems
  rw [listStates_eq, listStates_eq]
  simp only [hread, hread']
  refine ⟨?_, before.flatMap (fun l =>
    (listPages service' repo l since limit 1).allProblems repo l) ++ first, second ++
      later'.flatMap fun l => (listPages service' repo l since limit 1).allProblems repo l, ?_, ?_⟩
  · simp only [List.flatMap_append, List.flatMap_cons, hpulls, hlaterPulls]
    rw [List.flatMap_congr fun l hl => congrArg ListingOutcome.pulls (hbefore l hl)]
  · simp only [List.flatMap_append, List.flatMap_cons, hproblem, hlaterProblems, List.append_assoc,
      List.cons_append]
    rw [List.flatMap_congr fun l hl => congrArg (·.allProblems repo l) (hbefore l hl)]
  · simp only [List.flatMap_append, List.flatMap_cons, hplain, List.append_assoc]

/-- A page that is asked for belongs to a listing that is read. -/
theorem asked_of_mem_calls {page : Nat}
    (h : .pulls (repo.query listing page) ∈ (listStates service limit repo since listings).calls) :
    listing ∈ listingsRead (fun l => (listPages service repo l since limit 1).failure) listings ∧
      .pulls (repo.query listing page) ∈ (listPages service repo listing since limit 1).calls := by
  rw [listStates_eq] at h
  obtain ⟨l, hl, hcall⟩ := List.mem_flatMap.1 h
  have hsame : l = listing := by
    rw [listPages_calls] at hcall
    obtain ⟨n, -, heq⟩ := List.mem_map.1 hcall
    exact (query_inj.1 (Call.pulls.inj heq)).1
  subst hsame
  exact ⟨hl, hcall⟩

theorem page_pos_of_mem_calls {page : Nat}
    (h : .pulls (repo.query listing page) ∈ (listPages service repo listing since limit 1).calls) :
    1 ≤ page := by
  rw [listPages_calls] at h
  obtain ⟨n, hn, heq⟩ := List.mem_map.1 h
  rw [← (query_inj.1 (Call.pulls.inj heq)).2]
  exact (List.mem_range'_1.1 hn).1

end Series

section OneListing

variable {service : Service} {repo : RepositoryContext} {since : Option Instant}
  {limit k : Nat} {listing : Listing}

/-- A failing page adds its failure to the problems that are met when the listing ends before the
page, and, when the repository is missing, the later listings are empty. -/
theorem addsProblem_of_failing_page {before after : List Listing}
    (hnodup : (before ++ listing :: after).Nodup) {failure : Failure}
    (hfailure : service.pulls (repo.query listing k) = .error failure) (announced : Bool)
    (hasked : .pulls (repo.query listing k) ∈
      (listStates service limit repo since (before ++ listing :: after)).calls) :
    Discovered.AddsProblem (listingProblem repo listing failure)
      (listStates service limit repo since (before ++ listing :: after))
      (listStates (service.endingBefore repo listing k announced
        (if failure.isNotFound then after else [])) limit repo since
        (before ++ listing :: after)) := by
  obtain ⟨hread, hcall⟩ := asked_of_mem_calls hasked
  obtain ⟨-, hrest, hcross⟩ := List.nodup_append.1 hnodup
  obtain ⟨hafter, -⟩ := List.nodup_cons.1 hrest
  have hlisting : listing ∉ before := fun h => hcross _ h _ List.mem_cons_self rfl
  have hgoes := listingsRead_of_mem hread hlisting
  set emptied := if failure.isNotFound then after else [] with hemptied
  set ending := service.endingBefore repo listing k announced emptied
  have hkept (l : Listing) (hne : l ≠ listing) (hl : l ∉ emptied) :
      listPages service repo l since limit 1 = listPages ending repo l since limit 1 :=
    (listPages_congr_answers fun n _ => endingBefore_of_not_mem hne hl).symm
  have hbefore (l : Listing) (hl : l ∈ before) :
      listPages service repo l since limit 1 = listPages ending repo l since limit 1 := by
    refine hkept l (fun h => hlisting (h ▸ hl)) fun hmem => ?_
    have hlater : l ∈ after := by
      rw [hemptied] at hmem
      split_ifs at hmem
      · exact hmem
      · cases hmem
    exact hcross l hl l (List.mem_cons_of_mem _ hlater) rfl
  obtain ⟨hfailing, hending, hpulls, hproblems⟩ :=
    listPages_endingBefore hfailure announced emptied (page_pos_of_mem_calls hcall) hcall
  have hadds : ∃ first second,
      (listPages service repo listing since limit 1).allProblems repo listing =
        first ++ listingProblem repo listing failure :: second ∧
      (listPages ending repo listing since limit 1).allProblems repo listing = first ++ second :=
    ⟨_, [], by rw [ListingOutcome.allProblems, hfailing]; rfl,
      by rw [ListingOutcome.allProblems, hending, hproblems]; rfl⟩
  have hgoes' : ∀ l ∈ before, ((listPages ending repo l since limit 1).failure).any
      Failure.isNotFound = false := fun l hl => by rw [← hbefore l hl]; exact hgoes l hl
  have hlast : listingsRead (fun l => (listPages ending repo l since limit 1).failure)
      (before ++ listing :: after) = before ++ listing ::
        listingsRead (fun l => (listPages ending repo l since limit 1).failure) after := by
    rw [listingsRead_append hgoes', listingsRead, hending]
    rfl
  cases hmissing : failure.isNotFound with
  | true =>
    -- the later listings are not read, or they are empty
    have hempty (l : Listing) (hl : l ∈ after) :
        let outcome := listPages ending repo l since limit 1
        outcome.pulls = [] ∧ outcome.problems = [] ∧ outcome.failure = none := by
      refine listPages_of_empty (endingBefore_of_mem (fun h => hafter (h ▸ hl)) ?_)
      rwa [hemptied, hmissing, if_pos rfl]
    have hall : listingsRead (fun l => (listPages ending repo l since limit 1).failure) after =
        after :=
      listingsRead_of_forall fun l hl => by rw [(hempty l hl).2.2]; rfl
    rw [hall] at hlast
    have hstops : listingsRead (fun l => (listPages service repo l since limit 1).failure)
        (before ++ listing :: after) = before ++ [listing] := by
      rw [listingsRead_append hgoes, listingsRead, hfailing]
      simp [hmissing]
    refine addsProblem_listStates hstops hlast hbefore hpulls.symm hadds ?_ ?_
    · exact (List.flatMap_eq_nil_iff.2 fun l hl => (hempty l hl).1).symm
    · refine (List.flatMap_eq_nil_iff.2 fun l hl => ?_).symm
      rw [ListingOutcome.allProblems, (hempty l hl).2.1, (hempty l hl).2.2]
      rfl
  | false =>
    have hnone : emptied = [] := by rw [hemptied, hmissing, if_neg Bool.false_ne_true]
    have hsame (l : Listing) (hl : l ∈ after) :
        listPages service repo l since limit 1 = listPages ending repo l since limit 1 :=
      hkept l (fun h => hafter (h ▸ hl)) (by simp [hnone])
    have hsublist := listingsRead_sublist
      (fun l => (listPages service repo l since limit 1).failure) after
    rw [← listingsRead_congr fun l hl => congrArg ListingOutcome.failure (hsame l hl)] at hlast
    have hgoesOn : listingsRead (fun l => (listPages service repo l since limit 1).failure)
        (before ++ listing :: after) = before ++ listing ::
          listingsRead (fun l => (listPages service repo l since limit 1).failure) after := by
      rw [listingsRead_append hgoes, listingsRead, hfailing]
      simp [hmissing]
    refine addsProblem_listStates hgoesOn hlast hbefore hpulls.symm hadds ?_ ?_
    · exact List.flatMap_congr fun l hl =>
        congrArg ListingOutcome.pulls (hsame l (hsublist.subset hl))
    · exact List.flatMap_congr fun l hl =>
        congrArg (·.allProblems repo l) (hsame l (hsublist.subset hl))

/-- A payload that cannot be read adds a problem to those of its page, and nothing else. -/
theorem addsProblem_of_inserting {listings : List Listing} (hnodup : listings.Nodup)
    {answer : Page} {above below : List Json} {malformed : Json} {cause : Problem}
    (hanswer : service.pulls (repo.query listing k) = .ok answer)
    (hitems : answer.items = above ++ below)
    (hmalformed : GitHub.parsePull malformed = .error cause)
    (hasked : .pulls (repo.query listing k) ∈
      (listStates service limit repo since listings).calls) :
    let inserted := listStates (service.answering (repo.query listing k)
      { answer with items := above ++ malformed :: below }) limit repo since listings
    let plain := listStates service limit repo since listings
    inserted.AddsProblem (cause.about "repository" repo.fullName) plain ∧
      inserted.calls = plain.calls := by
  obtain ⟨hread, hcall⟩ := asked_of_mem_calls hasked
  obtain ⟨hpulls, hfailure, hcalls, first, second, hinserted, hplain⟩ :=
    listPages_inserting hanswer hitems hmalformed (page_pos_of_mem_calls hcall) hcall
  set service' := service.answering (repo.query listing k)
    { answer with items := above ++ malformed :: below }
  have hother (l : Listing) (hne : l ≠ listing) :
      listPages service' repo l since limit 1 = listPages service repo l since limit 1 :=
    listPages_congr_answers fun n _ => service.answering_of_ne (fun h => hne (query_inj.1 h).1) _
  have hfailures (l : Listing) : (listPages service' repo l since limit 1).failure =
      (listPages service repo l since limit 1).failure := by
    by_cases hl : l = listing
    · rw [hl, hfailure]
    · rw [hother l hl]
  have hcallsOf (l : Listing) : (listPages service' repo l since limit 1).calls =
      (listPages service repo l since limit 1).calls := by
    by_cases hl : l = listing
    · rw [hl, hcalls]
    · rw [hother l hl]
  obtain ⟨before, later, hsplit⟩ := List.append_of_mem hread
  have hunique : (before ++ listing :: later).Nodup :=
    hsplit ▸ (listingsRead_sublist _ _).nodup hnodup
  obtain ⟨-, hrest, hcross⟩ := List.nodup_append.1 hunique
  obtain ⟨hlater, -⟩ := List.nodup_cons.1 hrest
  have hbefore (l : Listing) (hl : l ∈ before) : l ≠ listing :=
    fun h => hcross l hl listing List.mem_cons_self h
  have hafter (l : Listing) (hl : l ∈ later) : l ≠ listing := fun h => hlater (h ▸ hl)
  have hsame : listingsRead (fun l => (listPages service' repo l since limit 1).failure) listings =
      before ++ listing :: later := by
    rw [← hsplit]
    exact listingsRead_congr fun l _ => hfailures l
  constructor
  · refine addsProblem_listStates hsame hsplit (fun l hl => hother l (hbefore l hl)) hpulls ?_
      (List.flatMap_congr fun l hl => by rw [hother l (hafter l hl)])
      (List.flatMap_congr fun l hl => by rw [hother l (hafter l hl)])
    refine ⟨first, second ++ ((listPages service repo listing since limit 1).failure.map
      (listingProblem repo listing)).toList, ?_, ?_⟩
    · rw [ListingOutcome.allProblems, hinserted, hfailure, List.append_assoc, List.cons_append]
    · rw [ListingOutcome.allProblems, hplain, List.append_assoc]
  · rw [listStates_eq, listStates_eq]
    simp only [hsame, hsplit, hcallsOf]

end OneListing

/-! ### What is kept -/

/-- The entry keeps the whole answer to its query, which came without a problem. -/
inductive CacheEntry.IsClean (service : Service) (maxPages : Nat) (repo : RepositoryContext)
    (e : CacheEntry) : Prop
  | pulls (states : List PullState) (since : Option Instant)
      (hkey : e.key = Cache.pullsKey states since)
      (hvalue : e.value = .pulls (listPulls service maxPages repo states since).found)
      (hclean : (listPulls service maxPages repo states since).problems = [])
  | checks (sha : String)
      (hkey : e.key = Cache.checksKey sha)
      (hvalue : e.value = .checks (listChecks service maxPages repo sha).found)
      (hclean : (listChecks service maxPages repo sha).problems = [])

/-- Whatever the second cache has that the first one has not is a whole answer without a problem. -/
def Cache.AddsClean (service : Service) (maxPages : Nat) (repo : RepositoryContext)
    (before after : Cache) : Prop :=
  ∀ e ∈ after.entries, e ∈ before.entries ∨ e.IsClean service maxPages repo

section Kept

variable {service : Service} {maxPages : Nat} {repo : RepositoryContext} {before cache : Cache}

namespace Cache.AddsClean

theorem refl (cache : Cache) : cache.AddsClean service maxPages repo cache := fun _ => .inl

theorem find (h : before.AddsClean service maxPages repo cache) (now : Nat) (id : Int)
    (key : String) : before.AddsClean service maxPages repo (cache.find now id key).2 :=
  fun e he => h e (mem_find he)

theorem store (h : before.AddsClean service maxPages repo cache) (now : Nat) {id : Int}
    {key : String} {value : Cached}
    (hclean : CacheEntry.IsClean service maxPages repo
      { repositoryId := id, key, storedAt := now, value }) :
    before.AddsClean service maxPages repo (cache.store now id key value) := by
  intro e he
  rcases mem_store he with he | rfl
  · exact h e he
  · exact .inr hclean

theorem discoverPulls (h : before.AddsClean service maxPages repo cache) (now : Nat)
    (states : List PullState) (since : Option Instant) :
    before.AddsClean service maxPages repo
      (PullWatch.discoverPulls service maxPages now repo states since cache).2 := by
  rcases discoverPulls_cases service maxPages now repo cache states since
    with ⟨-, -, -, -, -, -, -, hcache⟩ | ⟨-, hproblems, hcache⟩ | ⟨-, hcache⟩ <;> rw [hcache]
  · exact h.find now _ _
  · exact (h.find now _ _).store now (.pulls states since rfl rfl hproblems)
  · exact h.find now _ _

end Cache.AddsClean

/-- Lookups that are under way: they have what the service answers, and the cache has become no
richer but by whole answers without a problem. -/
structure LookupsClean (service : Service) (maxPages : Nat) (repo : RepositoryContext)
    (before : Cache) (lookups : List Lookup) (s : LookupState) : Prop where
  cache : before.AddsClean service maxPages repo s.cache
  answers : ∀ l ∈ lookups, ∀ answer ∈ l.answer, answer = listChecks service maxPages repo l.sha

/-- One step of a lookup keeps at most a whole answer without a problem. -/
theorem Lookup.advance_clean {l : Lookup} {s s' : LookupState} {l' : Option Lookup} {now : Nat}
    (hcache : before.AddsClean service maxPages repo s.cache)
    (hanswer : ∀ answer ∈ l.answer, answer = listChecks service maxPages repo l.sha)
    (h : l.advance service maxPages repo now s = (l', s')) :
    before.AddsClean service maxPages repo s'.cache ∧
      ∀ next ∈ l', ∀ answer ∈ next.answer,
        answer = listChecks service maxPages repo next.sha := by
  have hlooked := hcache.find now repo.id (Cache.checksKey l.sha)
  have hover (next : Lookup) (hnext : next ∈ (none : Option Lookup)) : ∀ answer ∈ next.answer,
      answer = listChecks service maxPages repo next.sha := absurd hnext (Option.not_mem_none next)
  cases Lookup.advances h with
  | found => exact ⟨hlooked, hover⟩
  | asked =>
    refine ⟨hlooked, fun next hnext answer ha => ?_⟩
    obtain rfl := Option.some.inj hnext
    exact (Option.some.inj ha).symm
  | kept hasked hclean =>
    obtain rfl := hanswer _ hasked
    exact ⟨hcache.store now (.checks l.sha rfl rfl hclean), hover⟩
  | dropped => exact ⟨hcache, hover⟩

/-- A step of one among several lookups. -/
theorem LookupsClean.advance {lookups : List Lookup} {s : LookupState}
    (h : LookupsClean service maxPages repo before lookups s) (now k : Nat) :
    let next := advanceLookups service maxPages repo now k lookups s
    LookupsClean service maxPages repo before next.1 next.2 := by
  induction lookups generalizing k with
  | nil => simpa only [advanceLookups] using h
  | cons l rest ih =>
    obtain ⟨hl, hrest⟩ := List.forall_mem_cons.1 h.answers
    cases k with
    | zero =>
      rw [advanceLookups]
      rcases hstep : l.advance service maxPages repo now s with ⟨_ | l', s'⟩
      · exact ⟨(Lookup.advance_clean h.cache hl hstep).1, hrest⟩
      · obtain ⟨hcache, hanswer⟩ := Lookup.advance_clean h.cache hl hstep
        exact ⟨hcache, List.forall_mem_cons.2 ⟨hanswer l' rfl, hrest⟩⟩
    | succ k =>
      have hnext := ih ⟨h.cache, hrest⟩ k
      exact ⟨hnext.cache, List.forall_mem_cons.2 ⟨hl, hnext.answers⟩⟩

/-- Steps of several lookups. -/
theorem LookupsClean.advanceAll {lookups : List Lookup} {s : LookupState}
    (h : LookupsClean service maxPages repo before lookups s) (steps : List (Nat × Nat)) :
    let next := advanceAllLookups service maxPages repo steps (lookups, s)
    LookupsClean service maxPages repo before next.1 next.2 := by
  induction steps generalizing lookups s with
  | nil => exact h
  | cons step steps ih => exact ih (h.advance step.2 step.1)

/-- Discovery keeps nothing that came with a problem, however its lookups overlap. -/
theorem Cache.AddsClean.discoverTogether (config : Configuration) (timing : Timing)
    (since : Option Instant) (cache : Cache) :
    cache.AddsClean service config.maxPagesPerQuery repo
      (PullWatch.discoverTogether service config timing repo since cache).2 := by
  have hlisted : cache.AddsClean service config.maxPagesPerQuery repo
      (PullWatch.discoverPulls service config.maxPagesPerQuery timing.reading repo
        config.pullStates since cache).2 :=
    (refl cache).discoverPulls timing.reading config.pullStates since
  rw [PullWatch.discoverTogether]
  simp only
  split_ifs
  · exact hlisted
  · refine (LookupsClean.advanceAll ⟨hlisted, fun l hl => ?_⟩ _).cache
    obtain ⟨target, -, rfl⟩ := List.mem_map.1 hl
    exact fun answer hanswer => absurd hanswer (Option.not_mem_none answer)

end Kept

/-! ### Discovery -/

theorem Discovered.AddsProblem.listPulls {service service' : Service} {repo : RepositoryContext}
    {since : Option Instant} {maxPages : Nat} {states : List PullState} {problem : Problem}
    (h : (listStates service (max 1 maxPages) repo since (listingsOf states)).AddsProblem problem
      (listStates service' (max 1 maxPages) repo since (listingsOf states))) :
    (PullWatch.listPulls service maxPages repo states since).AddsProblem problem
      (PullWatch.listPulls service' maxPages repo states since) :=
  ⟨by simp only [PullWatch.listPulls, h.found], h.problems⟩

/-- A failing page acts like an early end of its listing and one problem more, which has the name of
the listing. When the repository is missing, the later listings are like empty ones. A payload that
cannot be read adds a problem and changes nothing else. And nothing that came with a problem is ever
kept. -/
theorem failing_page_ends_listing :
    (∀ (service : Service) (repo : RepositoryContext) (states : List PullState)
        (since : Option Instant) (maxPages now page : Nat) (cache : Cache)
        (before after : List Listing) (listing : Listing) (failure : Failure) (announced : Bool),
      cache.lifetime = 0 → listingsOf states = before ++ listing :: after →
      let told := fun service => (discoverPulls service maxPages now repo states since cache).1
      .pulls (repo.query listing page) ∈ (told service).calls →
      service.pulls (repo.query listing page) = .error failure →
      ∃ problem : Problem,
        problem.kind = (if failure.isNotFound then .notFound else .apiError) ∧
        problem.context.get? "state" = some listing.name ∧
        (told service).AddsProblem problem (told (service.endingBefore repo listing page announced
          (if failure.isNotFound then after else [])))) ∧
    (∀ (service : Service) (repo : RepositoryContext) (states : List PullState)
        (since : Option Instant) (maxPages now page : Nat) (cache : Cache) (listing : Listing)
        (answer : Page) (above below : List Json) (malformed : Json) (cause : Problem),
      cache.lifetime = 0 → answer.items = above ++ below →
      GitHub.parsePull malformed = .error cause →
      let told := fun service => (discoverPulls service maxPages now repo states since cache).1
      .pulls (repo.query listing page) ∈ (told service).calls →
      service.pulls (repo.query listing page) = .ok answer →
      let inserted := told (service.answering (repo.query listing page)
        { answer with items := above ++ malformed :: below })
      inserted.calls = (told service).calls ∧ ∃ problem : Problem,
        problem.kind = .malformedRecord ∧ inserted.AddsProblem problem (told service)) ∧
    ∀ (service : Service) (config : Configuration) (repo : RepositoryContext)
        (since : Option Instant) (cache : Cache),
      (∀ (maxPages now : Nat) (states : List PullState),
        let discovered := discoverPulls service maxPages now repo states since cache
        discovered.1.problems ≠ [] → discovered.2.entries ⊆ cache.entries) ∧
      (∀ (maxPages now : Nat) (sha : String),
        let discovered := discoverChecks service maxPages now repo sha cache
        discovered.1.problems ≠ [] → discovered.2.entries ⊆ cache.entries) ∧
      ∀ timing : Timing, cache.AddsClean service config.maxPagesPerQuery repo
        (discoverTogether service config timing repo since cache).2 := by
  refine ⟨?_, ?_, fun service config repo since cache => ⟨?_, ?_, fun timing =>
    .discoverTogether config timing since cache⟩⟩
  · intro service repo states since maxPages now page cache before after listing failure announced
      hoff hlistings told hasked hfailure
    simp only [told, discoverPulls_of_lifetime_zero hoff] at hasked ⊢
    refine ⟨listingProblem repo listing failure, rfl, rfl, .listPulls ?_⟩
    have hnodup := nodup_listingsOf states
    rw [listPulls, hlistings] at hasked
    rw [hlistings] at hnodup ⊢
    exact addsProblem_of_failing_page hnodup hfailure announced hasked
  · intro service repo states since maxPages now page cache listing answer above below malformed
      cause hoff hitems hmalformed told hasked hanswer inserted
    simp only [inserted, told, discoverPulls_of_lifetime_zero hoff] at hasked ⊢
    obtain ⟨hadds, hcalls⟩ := addsProblem_of_inserting (nodup_listingsOf states) hanswer hitems
      hmalformed hasked
    exact ⟨hcalls, cause.about "repository" repo.fullName,
      (cause.kind_about ..).trans (GitHub.kind_of_parsePull_eq_error hmalformed), hadds.listPulls⟩
  · intro maxPages now states discovered hproblems
    rcases discoverPulls_cases service maxPages now repo cache states since
      with ⟨-, -, -, -, -, -, hnone, -⟩ | ⟨hlisted, hnone, -⟩ | ⟨-, hcache⟩
    · exact absurd hnone hproblems
    · exact absurd ((congrArg Discovered.problems hlisted).trans hnone) hproblems
    · exact fun e he => Cache.mem_find (hcache ▸ he)
  · intro maxPages now sha discovered hproblems
    rcases discoverChecks_cases service maxPages now repo cache sha
      with ⟨-, -, -, -, -, -, hnone, -⟩ | ⟨hlisted, hnone, -⟩ | ⟨-, hcache⟩
    · exact absurd hnone hproblems
    · exact absurd ((congrArg Discovered.problems hlisted).trans hnone) hproblems
    · exact fun e he => Cache.mem_find (hcache ▸ he)

/-- A service whose open listing has a second page, which fails. -/
def brokenService (failure : Failure) : Service :=
  { pulls := fun q =>
      if q.listing = .open ∧ q.page = 2 then .error failure
      else .ok { items := [samplePull], hasNext := q.listing = .open }
    checks := fun _ => .error (.api "no check runs") }

/-- The pull request of the first page is found, and that of the other listing if the repository is
not missing; a payload that cannot be read before it makes no difference. -/
theorem failing_page_ends_listing_sample :
    let missing := brokenService (.notFound "acme/widgets")
    let failing := brokenService (.api "timeout")
    let told := fun service => (discoverPulls service 3 0 sampleRepository [.opened, .merged] none
      { lifetime := 0 }).1
    (∃ problem : Problem, problem.kind = .notFound ∧ (told missing).AddsProblem problem
      (told (missing.endingBefore sampleRepository .open 2 true [.closed]))) ∧
    (∃ problem : Problem, problem.kind = .apiError ∧ (told failing).AddsProblem problem
      (told (failing.endingBefore sampleRepository .open 2 true []))) ∧
    (∃ problem : Problem, problem.kind = .malformedRecord ∧
      (told (failing.answering (sampleRepository.query .open 1)
        { items := [.null, samplePull], hasNext := true })).AddsProblem problem (told failing)) ∧
    (told missing).found.length = 1 ∧ (told failing).found.length = 2 ∧
    (discoverPulls failing 3 0 sampleRepository [.opened, .merged] none sampleCache).2.entries ⊆
      [] := by
  intro missing failing told
  have hlistings : listingsOf [.opened, .merged] = [] ++ .open :: [.closed] := rfl
  have hmissing : .pulls (sampleRepository.query .open 2) ∈ (told missing).calls := by
    decide +kernel
  have hfailing : .pulls (sampleRepository.query .open 2) ∈ (told failing).calls := by
    decide +kernel
  have hfirst : .pulls (sampleRepository.query .open 1) ∈ (told failing).calls := by
    decide +kernel
  obtain ⟨cause, hmalformed⟩ : ∃ cause, GitHub.parsePull .null = .error cause := ⟨_, rfl⟩
  obtain ⟨hends, hinserts, hkeeps⟩ := failing_page_ends_listing
  refine ⟨?_, ?_, ?_, by decide +kernel, by decide +kernel, ?_⟩
  · obtain ⟨problem, hkind, -, hadds⟩ := hends missing sampleRepository [.opened, .merged] none 3 0
      2 { lifetime := 0 } [] [.closed] .open _ true rfl hlistings hmissing rfl
    exact ⟨problem, hkind, hadds⟩
  · obtain ⟨problem, hkind, -, hadds⟩ := hends failing sampleRepository [.opened, .merged] none 3 0
      2 { lifetime := 0 } [] [.closed] .open _ true rfl hlistings hfailing rfl
    exact ⟨problem, hkind, hadds⟩
  · exact (hinserts failing sampleRepository [.opened, .merged] none 3 0 1 { lifetime := 0 } .open
      { items := [samplePull], hasNext := true } [] [samplePull] .null cause rfl rfl hmalformed
      hfirst rfl).2
  · exact (hkeeps failing {} sampleRepository none sampleCache).1 3 0 [.opened, .merged]
      (by decide +kernel)

end PullWatch
