import PullWatch.Proofs.Listings
import PullWatch.Proofs.PolledTimes

/-!
# Which pages a polled repository rests on

While what the service lists stands still, and only some requests fail, a page of a listing is
received unless something keeps it from being asked for: the limit of pages, an older pull request
on a page before it, a failed request on the way to it, or a repository that was not found in a
listing that is read before. A failure is among the problems of the pass, but it does not keep the
pass from succeeding, nor the session from recording a poll.

## Main definitions

* `Content`, `Content.ShownBy`: what is listed, and a service that shows nothing else.
* `Content.Reaches`: a listing has a page.
* `Received`: a page was asked for, answered and used.
* `FailedAt`, `Missed`: why a page was not received.

## Main results

* `listPages_received`, `listPulls_received`: every page is received or missed.
* `polled_pages_received`: the pages that a recorded poll rests on.
-/

namespace PullWatch

open GitHub (Call Failure Page PullQuery Service)

/-! ### What is listed -/

/-- What is listed: the page that answers a query for pull requests. -/
abbrev Content := PullQuery → Page

/-- The service answers with what is listed, whenever it answers. -/
def Content.ShownBy (content : Content) (service : Service) : Prop :=
  ∀ query page, service.pulls query = .ok page → page = content query

/-- The listing has the page: every page before it says that another one follows. -/
structure Content.Reaches (content : Content) (repo : RepositoryContext) (listing : Listing)
    (page : Nat) : Prop where
  pos : 1 ≤ page
  follows : ∀ j, 1 ≤ j → j < page → (content (repo.query listing j)).hasNext = true

/-- A page has a pull request that was last updated before the cutoff. -/
def Content.IsPast (content : Content) (repo : RepositoryContext) (since : Option Instant)
    (listing : Listing) (page : Nat) : Prop :=
  ∃ item ∈ (content (repo.query listing page)).items, ∃ pull,
    GitHub.parsePull item = .ok pull ∧ isBefore since pull = true

/-- The page was asked for and answered, and its pull requests from the cutoff on were kept, but for
those in other states. -/
structure Received (service : Service) (content : Content) (repo : RepositoryContext)
    (since : Option Instant) (isRequested : PullState → Prop) (listing : Listing) (page : Nat)
    (found : List FetchedPullRequest) (calls : List Call) : Prop where
  asked : .pulls (repo.query listing page) ∈ calls
  answered : service.pulls (repo.query listing page) = .ok (content (repo.query listing page))
  kept : ∀ item ∈ (content (repo.query listing page)).items, ∀ pull,
    GitHub.parsePull item = .ok pull → isBefore since pull = false → isRequested pull.state →
      pull ∈ found

/-- A request for a page was made and failed, which is among the problems. -/
structure FailedAt (service : Service) (repo : RepositoryContext) (calls : List Call)
    (problems : List Problem) (listing : Listing) (page : Nat) (failure : Failure) : Prop where
  asked : .pulls (repo.query listing page) ∈ calls
  failed : service.pulls (repo.query listing page) = .error failure
  problem : listingProblem repo listing failure ∈ problems

/-- Why a page was not received, when some requests were made and problems were met in reading
listings one after the other. -/
inductive Missed (service : Service) (content : Content) (repo : RepositoryContext)
    (since : Option Instant) (limit : Nat) (listings : List Listing) (calls : List Call)
    (problems : List Problem) (listing : Listing) (page : Nat) : Prop
  /-- There are more pages than are read of a listing. -/
  | beyond (hlimit : limit < page)
  /-- A page before was received and has an older pull request. -/
  | past {j : Nat} (hpos : 1 ≤ j) (hbefore : j < page)
      (hasked : .pulls (repo.query listing j) ∈ calls)
      (hanswered : service.pulls (repo.query listing j) = .ok (content (repo.query listing j)))
      (hpast : content.IsPast repo since listing j)
  /-- A request on the way to the page failed. -/
  | failed {j : Nat} {failure : Failure} (hpos : 1 ≤ j) (hle : j ≤ page)
      (hfailed : FailedAt service repo calls problems listing j failure)
  /-- The repository was not found in a listing that comes before. -/
  | notFound {earlier : Listing} {j : Nat} {failure : Failure}
      (hbefore : [earlier, listing].Sublist listings) (hkind : failure.isNotFound = true)
      (hfailed : FailedAt service repo calls problems earlier j failure)

section Listing

variable {service : Service} {content : Content} {repo : RepositoryContext}
  {since : Option Instant} {listing : Listing}

/-- What becomes of a page when a listing is read from some page on: it is received, or a request on
the way to it fails, or a page before it is past the cutoff. -/
theorem listPages_received (since : Option Instant) (hshown : content.ShownBy service)
    {left first page : Nat}
    (hfirst : first ≤ page) (hlimit : page < first + left)
    (hfollows : ∀ j, first ≤ j → j < page → (content (repo.query listing j)).hasNext = true) :
    let outcome := listPages service repo listing since left first
    Received service content repo since (fun _ => True) listing page outcome.pulls outcome.calls ∨
      (∃ j failure, first ≤ j ∧ j ≤ page ∧ .pulls (repo.query listing j) ∈ outcome.calls ∧
        service.pulls (repo.query listing j) = .error failure ∧
        outcome.failure = some failure) ∨
      ∃ j, first ≤ j ∧ j < page ∧ .pulls (repo.query listing j) ∈ outcome.calls ∧
        service.pulls (repo.query listing j) = .ok (content (repo.query listing j)) ∧
        content.IsPast repo since listing j := by
  induction left generalizing first with
  | zero => omega
  | succ left ih =>
    cases hanswer : service.pulls (repo.query listing first) with
    | error failure =>
      rw [listPages_of_error hanswer]
      exact .inr (.inl ⟨first, failure, le_rfl, hfirst, List.mem_singleton_self _, hanswer, rfl⟩)
    | ok answer =>
      obtain rfl := hshown _ _ hanswer
      rw [listPages_of_ok hanswer]
      rcases hfirst.eq_or_lt with rfl | hlt
      · refine .inl ⟨List.mem_cons_self, hanswer, fun item hitem pull hparse hafter _ => ?_⟩
        refine List.mem_append_left _ (List.mem_filter.2 ⟨?_, by rw [hafter]; rfl⟩)
        exact mem_successes_readPulls.2 ⟨item, hitem, hparse⟩
      · by_cases hpast : content.IsPast repo since listing first
        · exact .inr (.inr ⟨first, le_rfl, hlt, List.mem_cons_self, hanswer, hpast⟩)
        -- the page is followed by the next one, so the rest of the listing decides
        have hgo : ((successes (readPulls repo.fullName
            (content (repo.query listing first)).items)).any (isBefore since) ||
              !(content (repo.query listing first)).hasNext) = false := by
          rw [hfollows first le_rfl hlt, Bool.not_true, Bool.or_false, List.any_eq_false]
          intro pull hpull hbefore
          obtain ⟨item, hitem, hparse⟩ := mem_successes_readPulls.1 hpull
          exact hpast ⟨item, hitem, pull, hparse, hbefore⟩
        rw [hgo]
        simp only [Bool.false_eq_true, if_false]
        rcases @ih (first + 1) hlt (by omega) fun j hj => hfollows j (by omega) with
          hreceived | ⟨j, failure, hj, hle, hasked, hfail⟩ | ⟨j, hj, hjlt, hasked, hpast⟩
        · exact .inl ⟨List.mem_cons_of_mem _ hreceived.asked, hreceived.answered,
            fun item hitem pull hparse hafter hrequested => List.mem_append_right _
              (hreceived.kept item hitem pull hparse hafter hrequested)⟩
        · exact .inr (.inl ⟨j, failure, by omega, hle, List.mem_cons_of_mem _ hasked, hfail⟩)
        · exact .inr (.inr ⟨j, by omega, hjlt, List.mem_cons_of_mem _ hasked, hpast⟩)

theorem Received.mono {isRequested : PullState → Prop} {page : Nat}
    {found found' : List FetchedPullRequest} {calls calls' : List Call}
    (h : Received service content repo since isRequested listing page found calls)
    (hfound : found ⊆ found') (hcalls : calls ⊆ calls') :
    Received service content repo since isRequested listing page found' calls' :=
  ⟨hcalls h.asked, h.answered, fun item hitem pull hparse hafter hrequested =>
    hfound (h.kept item hitem pull hparse hafter hrequested)⟩

theorem FailedAt.mono {page : Nat} {failure : Failure} {calls calls' : List Call}
    {problems problems' : List Problem}
    (h : FailedAt service repo calls problems listing page failure) (hcalls : calls ⊆ calls')
    (hproblems : problems ⊆ problems') :
    FailedAt service repo calls' problems' listing page failure :=
  ⟨hcalls h.asked, h.failed, hproblems h.problem⟩

theorem Missed.mono {limit page : Nat} {listings listings' : List Listing}
    {calls calls' : List Call} {problems problems' : List Problem}
    (h : Missed service content repo since limit listings calls problems listing page)
    (hlistings : listings.Sublist listings') (hcalls : calls ⊆ calls')
    (hproblems : problems ⊆ problems') :
    Missed service content repo since limit listings' calls' problems' listing page := by
  cases h with
  | beyond hlimit => exact .beyond hlimit
  | past hpos hbefore hasked hanswered hpast =>
    exact .past hpos hbefore (hcalls hasked) hanswered hpast
  | failed hpos hle hfailed => exact .failed hpos hle (hfailed.mono hcalls hproblems)
  | notFound hbefore hkind hfailed =>
    exact .notFound (hbefore.trans hlistings) hkind (hfailed.mono hcalls hproblems)

/-- A listing that is read first. -/
theorem listStates_received_head (hshown : content.ShownBy service) {limit page : Nat}
    (hreaches : content.Reaches repo listing page) (hlimit : page ≤ limit)
    (rest : List Listing) :
    let listed := listStates service limit repo since (listing :: rest)
    Received service content repo since (fun _ => True) listing page listed.found listed.calls ∨
      Missed service content repo since limit (listing :: rest) listed.calls listed.problems listing
        page := by
  intro listed
  have hpage := listPages_received since hshown hreaches.pos
    (show page < 1 + limit by omega) hreaches.follows
  have hcalls : (listPages service repo listing since limit 1).calls ⊆ listed.calls := by
    simp only [listed, listStates]
    cases (listPages service repo listing since limit 1).failure with
    | none => exact List.subset_append_left _ _
    | some failure =>
      simp only
      split_ifs
      · exact List.Subset.refl _
      · exact List.subset_append_left _ _
  rcases hpage with hreceived | ⟨j, failure, hj, hle, hasked, hfail, hfailure⟩ |
    ⟨j, hj, hlt, hasked, hanswered, hpast⟩
  · refine .inl (hreceived.mono ?_ hcalls)
    simp only [listed, listStates]
    cases (listPages service repo listing since limit 1).failure with
    | none => exact List.subset_append_left _ _
    | some failure =>
      simp only
      split_ifs
      · exact List.Subset.refl _
      · exact List.subset_append_left _ _
  · refine .inr (.failed hj hle ⟨hcalls hasked, hfail, ?_⟩)
    simp only [listed, listStates, hfailure]
    split_ifs <;> simp
  · exact .inr (.past hj hlt (hcalls hasked) hanswered hpast)

/-- Every page of every listing is received or missed. -/
theorem listStates_received (hshown : content.ShownBy service) {limit page : Nat}
    (hreaches : content.Reaches repo listing page) (hlimit : page ≤ limit)
    {listings : List Listing} (hlisting : listing ∈ listings) :
    let listed := listStates service limit repo since listings
    Received service content repo since (fun _ => True) listing page listed.found listed.calls ∨
      Missed service content repo since limit listings listed.calls listed.problems listing
        page := by
  induction listings with
  | nil => exact absurd hlisting List.not_mem_nil
  | cons first rest ih =>
    by_cases hfirst : listing = first
    · exact hfirst ▸ listStates_received_head hshown hreaches hlimit rest
    have hmem : listing ∈ rest := (List.mem_cons.1 hlisting).resolve_left hfirst
    have hrest := ih hmem
    rw [listStates]
    cases hfailure : (listPages service repo first since limit 1).failure with
    | none =>
      exact hrest.imp
        (fun h => h.mono (List.subset_append_right _ _) (List.subset_append_right _ _))
        fun h => h.mono (List.sublist_cons_self _ _) (List.subset_append_right _ _)
          (List.subset_append_right _ _)
    | some failure =>
      simp only
      split_ifs with hkind
      · obtain ⟨j, hasked, hfail⟩ := exists_failing_page hfailure
        refine .inr (.notFound ((List.singleton_sublist.2 hmem).cons_cons first) hkind
          ⟨hasked, hfail, ?_⟩)
        exact List.mem_append_right _ (List.mem_singleton_self _)
      · refine hrest.imp
          (fun h => h.mono (List.subset_append_right _ _) (List.subset_append_right _ _))
          fun h => h.mono (List.sublist_cons_self _ _) (List.subset_append_right _ _) ?_
        exact List.Subset.trans (List.subset_cons_self _ _) (List.subset_append_right _ _)

/-- Every page of the listings that are asked for is received or missed. -/
theorem listPulls_received (hshown : content.ShownBy service) {maxPages page : Nat}
    {states : List PullState} (hreaches : content.Reaches repo listing page)
    (hlisting : listing ∈ listingsOf states) :
    let listed := listPulls service maxPages repo states since
    Received service content repo since (· ∈ states) listing page listed.found listed.calls ∨
      Missed service content repo since (max 1 maxPages) (listingsOf states) listed.calls
        listed.problems listing page := by
  by_cases hlimit : page ≤ max 1 maxPages
  · refine (listStates_received hshown hreaches hlimit hlisting).imp_left fun h => ?_
    refine ⟨h.asked, h.answered, fun item hitem pull hparse hafter hrequested => ?_⟩
    refine List.mem_filter.2 ⟨h.kept item hitem pull hparse hafter trivial, ?_⟩
    exact List.contains_iff_mem.2 hrequested
  · exact .inr (.beyond (by omega))

end Listing

/-! ### Recorded polls -/

/-- **What recorded polls rest on.** Each repository whose poll a session records had a successful
pass of the session, and every successful pass used one listing, its own or a kept one, of which
every page was received or missed. A failure on the way is among the problems of the pass. -/
theorem polled_pages_received {names : Names} {config : Configuration} {log : List Look}
    {p : Processor} {db : Database} (h : Served config names log p db) (env : Surroundings)
    (ids : Option (List Int)) (mode : Mode) {content : Content}
    (hshown : ∀ look ∈ log ++ env.looks (p.processAll env db ids mode).readings,
      content.ShownBy look.service) :
    ∃ before polled reading,
      Succession config env.faults mode.isDryRun (env.PlansIn mode db reading) (p.firstCache mode)
          db (p.passes env db ids mode) before ∧
        (p.processAll env db ids mode).db = before.pollAll polled (env.clock reading).time ∧
        (p.processAll env db ids mode).db.repositories =
          (db.pollAll polled (env.clock reading).time).repositories ∧
        (∀ id ∈ polled, ∃ pass : SuccessfulPass p env db ids mode, pass.plan.repo.id = id) ∧
        ∀ pass : SuccessfulPass p env db ids mode, ∃ f, ∃ look ∈ log ++ env.looks reading,
          (discover pass.plan.service config pass.plan.now pass.plan.repo pass.plan.since
              pass.cache).1 = .ok f ∧
            pass.plan.Obtains config pass.cache look ∧
            f.Show config (look.listing config pass.plan.repo pass.plan.since) ∧
            ∀ listing ∈ listingsOf config.pullStates, ∀ page,
              content.Reaches pass.plan.repo listing page →
                Received look.service content pass.plan.repo pass.plan.since
                    (· ∈ config.pullStates) listing page f.pulls
                    (look.listing config pass.plan.repo pass.plan.since).calls ∨
                  Missed look.service content pass.plan.repo pass.plan.since
                    (max 1 config.maxPagesPerQuery) (listingsOf config.pullStates)
                    (look.listing config pass.plan.repo pass.plan.since).calls
                    pass.result.problems listing page := by
  obtain ⟨before, polled, reading, hsuccession, hdb, hafter, hpasses, hlistings, hpolled⟩ :=
    h.exists_polled env ids mode
  refine ⟨before, polled, reading, hsuccession, hdb, hafter, hpolled, fun pass => ?_⟩
  obtain ⟨f, look, hlook, hdiscover, hproblems, hobtains, hshow⟩ := hlistings pass
  refine ⟨f, look, hlook, hdiscover, hobtains, hshow, fun listing hlisting page hreaches => ?_⟩
  have hreading := (hpasses _ pass.made).1
  have hlog : log ++ env.looks reading ⊆ log ++ env.looks (p.processAll env db ids mode).readings :=
    List.append_subset.2 ⟨List.subset_append_left _ _,
      List.Subset.trans (Surroundings.looks_subset hreading.le) (List.subset_append_right _ _)⟩
  rw [hshow.pulls_eq, hproblems]
  exact (listPulls_received (hshown look (hlog hlook)) hreaches hlisting).imp_right fun hmissed =>
    hmissed.mono (List.Sublist.refl _) (List.Subset.refl _) hshow.problems_subset

/-! ### A session that loses a page -/

/-- A pull request on the second page. -/
def secondPull : Json :=
  .object [("number", .nat 2), ("title", .str "Add a writer"), ("state", .str "open"),
    ("base", .object [("ref", .str "main"), ("sha", .str "b0")]),
    ("head", .object [("ref", .str "writer"), ("sha", .str "h1")]),
    ("html_url", .str "https://example.org/2"), ("created_at", .str "2024-03-01T00:00:00Z"),
    ("updated_at", .str "2024-03-01T00:00:00Z")]

/-- Two pages with one pull request each. -/
def sampleContent : Content := fun q =>
  if q.page = 1 then { items := [samplePull], hasNext := true }
  else { items := [secondPull], hasNext := false }

/-- A service that fails to show the second page. -/
def failingService : Service :=
  { sampleService false with
    pulls := fun q => if q.page = 1 then .ok (sampleContent q) else .error (.api "bad gateway") }

/-- The failing service, and clocks that go on. -/
def failingSurroundings : Surroundings := surroundingsOf failingService

theorem shownBy_failing : sampleContent.ShownBy failingService := by
  intro query page hanswer
  simp only [failingService] at hanswer
  split_ifs at hanswer
  exact (Except.ok.inj hanswer).symm

/-- What the session leaves behind. -/
def failingSession : Outcome Batch :=
  sampleProcessor.processAll failingSurroundings sampleDatabase none .incremental

theorem shown_failing : ∀ look ∈ [] ++ failingSurroundings.looks failingSession.readings,
    sampleContent.ShownBy look.service := by
  intro look hlook
  obtain ⟨k, -, rfl⟩ := Surroundings.mem_looks.1 hlook
  exact shownBy_failing

theorem repository?_failing : failingSession.db.repository? 1 = .ok (some samplePolled) :=
  Outcome.toOption_eq_some.1 (by decide +kernel)

/-- The pass of the session. -/
def failingPass : SuccessfulPass sampleProcessor failingSurroundings sampleDatabase none
    .incremental :=
  passOf failingService (by decide +kernel)

/-- The session records the poll, though the second page was missed. -/
theorem polled_pages_received_failing :
    failingSession.db.repository? 1 = .ok (some samplePolled) ∧
    ∃ polled reading,
      failingSession.db.repositories =
          (sampleDatabase.pollAll polled (sampleClock reading).time).repositories ∧
        ∃ f : Findings, ∃ look ∈ [] ++ failingSurroundings.looks reading,
          ∀ page, sampleContent.Reaches failingPass.plan.repo .open page →
            Received look.service sampleContent failingPass.plan.repo failingPass.plan.since
                (· ∈ [PullState.opened]) .open page f.pulls
                (look.listing {} failingPass.plan.repo failingPass.plan.since).calls ∨
              Missed look.service sampleContent failingPass.plan.repo failingPass.plan.since 20
                [.open] (look.listing {} failingPass.plan.repo failingPass.plan.since).calls
                failingPass.result.problems .open page := by
  refine ⟨repository?_failing, ?_⟩
  obtain ⟨-, polled, reading, -, -, hafter, -, hlistings⟩ := polled_pages_received served_sample
    failingSurroundings none .incremental shown_failing
  obtain ⟨f, look, hlook, -, -, -, hpages⟩ := hlistings failingPass
  exact ⟨polled, reading, hafter, f, look, hlook, hpages .open (by decide)⟩

theorem completed_failing : ∃ batch, failingSession.result = .ok batch := by
  have hcompleted : failingSession.result.toOption.isSome = true := by decide +kernel
  obtain ⟨batch, hbatch⟩ := Option.isSome_iff_exists.1 hcompleted
  exact ⟨batch, Outcome.toOption_eq_some.1 hbatch⟩

/-- A repository is recorded as polled though a pull request of it was on no page that was received.
-/
theorem not_forall_polled_pages_received :
    ¬ ∀ (config : Configuration) (names : Names) (log : List Look) (p : Processor) (db : Database)
      (env : Surroundings) (ids : Option (List Int)) (mode : Mode) (reading : Nat)
      (pass : SuccessfulPass p env db ids mode) (look : Look) (batch : Batch)
      (repository : Repository) (content : Content) (listing : Listing) (page : Nat) (item : Json)
      (pull : FetchedPullRequest),
      Served config names log p db →
      (∀ look ∈ log ++ env.looks (p.processAll env db ids mode).readings,
        content.ShownBy look.service) →
      (p.processAll env db ids mode).result = .ok batch →
      pass.plan.Obtains config pass.cache look →
      (p.processAll env db ids mode).db.repository? pass.plan.repo.id = .ok (some repository) →
      repository.lastPolledAt = some (env.clock reading).time →
      listing ∈ listingsOf config.pullStates → content.Reaches pass.plan.repo listing page →
      item ∈ (content (pass.plan.repo.query listing page)).items →
      GitHub.parsePull item = .ok pull → pull.state ∈ config.pullStates →
      isBefore pass.plan.since pull = false →
      ∃ query answer,
        .pulls query ∈ (look.listing config pass.plan.repo pass.plan.since).calls ∧
          look.service.pulls query = .ok answer ∧ item ∈ answer.items := by
  intro h
  obtain ⟨batch, hbatch⟩ := completed_failing
  obtain ⟨pull, hparse, hstate⟩ : ∃ pull, GitHub.parsePull secondPull = .ok pull ∧
      pull.state ∈ [PullState.opened] := ⟨_, rfl, by decide⟩
  have hreaches : sampleContent.Reaches failingPass.plan.repo .open 2 :=
    ⟨by decide, fun j hj hlt => by
      obtain rfl : j = 1 := by omega
      rfl⟩
  obtain ⟨query, answer, -, hanswer, hitem⟩ := h {} _ [] sampleProcessor sampleDatabase
    failingSurroundings none .incremental 7 failingPass ⟨failingService, sampleClock 3⟩ batch
    samplePolled sampleContent .open 2 secondPull pull served_sample shown_failing hbatch
    (.asked rfl) repository?_failing rfl (by decide) hreaches (List.mem_singleton.2 rfl) hparse
    hstate rfl
  simp only [failingService] at hanswer
  split_ifs at hanswer with hpage
  obtain rfl := Except.ok.inj hanswer
  rw [sampleContent, if_pos hpage, List.mem_singleton] at hitem
  have hnumbers := congrArg (fun json => (GitHub.parsePull json).toOption.map (·.number)) hitem
  exact absurd hnumbers (by decide +kernel)

end PullWatch
