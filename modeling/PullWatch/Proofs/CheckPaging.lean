import PullWatch.Proofs.Paging
import Mathlib.Algebra.Order.Floor.Div

/-!
# Paging of check runs is sound, complete and economical

The check runs of a commit are shown in envelopes, each with a page of payloads and, it may be, the
number of all of them. With the number stated, discovery asks for no page but those that hold
something; without it, a page that is not full tells that it is the last. Whatever the service does,
the pages are asked for one after the other, the limit holds, and the first page that cannot be had
is the last one asked for, with all that was read before it kept.

## Main definitions

* `shownPage`: what a page of a commit's check runs shows, and `readPage`, what is read of it.
* `ReadPages`: what is told of some pages that were read one after the other.
* `GitHub.IsEnvelope`, `GitHub.Service.ShowsCheckPages`: a service that shows finitely many check
  runs in pages.

## Main results

* `readPages_checkPages`: what is told of any service.
* `length_calls_stated`, `length_calls_unstated`: how many pages are asked for.
* `checks_paged`: the check runs, the problems and the requests of a discovery.
-/

namespace PullWatch

open GitHub (Call CheckQuery Service)

/-! ### Pages -/

/-- The query for a page of a commit's check runs. -/
def RepositoryContext.checkQuery (repo : RepositoryContext) (sha : String) (page : Nat) :
    CheckQuery :=
  { owner := repo.owner, name := repo.name, sha, perPage := GitHub.perPage, page }

section Pages

variable (service : Service) (repo : RepositoryContext) (sha : String)

/-- What a page of a commit's check runs shows: its payloads and the total that it states, or the
problem with a page that cannot be had. -/
def shownPage (page : Nat) : Except Problem (List Json × Option Nat) :=
  match service.checks (repo.checkQuery sha page) with
  | .error failure =>
    .error (((Problem.ofFailure failure).about "repository" repo.fullName).about "commit" sha)
  | .ok envelope => (GitHub.openEnvelope envelope).mapError fun fault =>
    Problem.about { kind := .malformedRecord, message := fault.message } "commit" sha

/-- The check runs that are read of a page, and the problems with it. -/
def readPage (page : Nat) : List CheckRun × List Problem :=
  match shownPage service repo sha page with
  | .error problem => ([], [problem])
  | .ok (items, _) => (successes (readChecks sha items), failures (readChecks sha items))

/-- What is told of pages that were read one after the other, from a first one on: each was asked
for once, all but the last could be had, and all that was read of them is kept. -/
structure ReadPages (first pages : Nat) (told : Discovered (List CheckRun)) : Prop where
  calls : told.calls =
    (List.range' first pages).map fun n => .checks (repo.checkQuery sha n)
  shown : ∀ n, first ≤ n → n + 1 < first + pages → ∃ page, shownPage service repo sha n = .ok page
  found : told.found = (List.range' first pages).flatMap fun n => (readPage service repo sha n).1
  problems : told.problems =
    (List.range' first pages).flatMap fun n => (readPage service repo sha n).2

variable {service repo sha}

theorem checkPages_of_error {left page seen : Nat} {problem : Problem}
    (h : shownPage service repo sha page = .error problem) :
    checkPages service repo sha (left + 1) page seen =
      { found := [], problems := [problem], calls := [.checks (repo.checkQuery sha page)] } := by
  rw [shownPage, RepositoryContext.checkQuery] at h
  simp only [checkPages, RepositoryContext.checkQuery]
  cases hanswer : service.checks
      { owner := repo.owner, name := repo.name, sha, perPage := GitHub.perPage, page } with
  | error failure =>
    simp only [hanswer] at h ⊢
    rw [Except.error.inj h]
  | ok envelope =>
    simp only [hanswer] at h ⊢
    obtain ⟨fault, hfault, rfl⟩ := Outcome.mapError_eq_error.1 h
    rw [hfault]

/-- A page that is not full, or that completes the stated total, is the last. -/
theorem checkPages_of_ok {left page seen : Nat} {items : List Json} {total : Option Nat}
    (h : shownPage service repo sha page = .ok (items, total)) :
    let rest : Discovered (List CheckRun) :=
      if items.length < GitHub.perPage || total.any fun n => n ≤ seen + items.length then
        { found := [] }
      else checkPages service repo sha left (page + 1) (seen + items.length)
    checkPages service repo sha (left + 1) page seen =
      { found := successes (readChecks sha items) ++ rest.found
        problems := failures (readChecks sha items) ++ rest.problems
        calls := .checks (repo.checkQuery sha page) :: rest.calls } := by
  rw [shownPage, RepositoryContext.checkQuery] at h
  simp only [checkPages, RepositoryContext.checkQuery]
  cases hanswer : service.checks
      { owner := repo.owner, name := repo.name, sha, perPage := GitHub.perPage, page } with
  | error failure =>
    rw [hanswer] at h
    cases h
  | ok envelope =>
    simp only [hanswer] at h ⊢
    rw [Outcome.mapError_eq_ok.1 h]

/-- No more pages are asked for than the limit allows. -/
theorem length_calls_checkPages (left page seen : Nat) :
    (checkPages service repo sha left page seen).calls.length ≤ left := by
  induction left generalizing page seen with
  | zero => exact le_rfl
  | succ left ih =>
    cases hpage : shownPage service repo sha page with
    | error problem =>
      rw [checkPages_of_error hpage]
      exact Nat.succ_le_succ (Nat.zero_le left)
    | ok shown =>
      rw [checkPages_of_ok hpage]
      simp only
      split_ifs
      · exact Nat.succ_le_succ (Nat.zero_le left)
      · exact Nat.succ_le_succ (ih _ _)

/-- A page is asked for when the limit allows one. -/
theorem length_calls_checkPages_pos (left page seen : Nat) :
    0 < (checkPages service repo sha (left + 1) page seen).calls.length := by
  cases hpage : shownPage service repo sha page with
  | error problem =>
    rw [checkPages_of_error hpage]
    exact Nat.one_pos
  | ok shown =>
    rw [checkPages_of_ok hpage]
    exact Nat.succ_pos _

/-- Whatever the service shows, its pages are read one after the other. -/
theorem readPages_checkPages (left page seen : Nat) :
    ReadPages service repo sha page (checkPages service repo sha left page seen).calls.length
      (checkPages service repo sha left page seen) := by
  induction left generalizing page seen with
  | zero => exact ⟨rfl, fun n hn hlt => absurd hlt (by simp [checkPages]; omega), rfl, rfl⟩
  | succ left ih =>
    cases hpage : shownPage service repo sha page with
    | error problem =>
      rw [checkPages_of_error hpage]
      refine ⟨rfl, fun n hn hlt => ?_, ?_, ?_⟩
      · simp only [List.length_singleton] at hlt
        omega
      · simp [readPage, hpage]
      · simp [readPage, hpage]
    | ok shown =>
      have hread : readPage service repo sha page =
          (successes (readChecks sha shown.1), failures (readChecks sha shown.1)) := by
        rw [readPage, hpage]
      rw [checkPages_of_ok hpage]
      simp only
      split_ifs
      · refine ⟨rfl, fun n hn hlt => ?_, ?_, ?_⟩
        · simp only [List.length_singleton] at hlt
          omega
        · simp [hread]
        · simp [hread]
      · obtain ⟨hcalls, hshown, hfound, hproblems⟩ := ih (page + 1) (seen + shown.1.length)
        refine ⟨?_, fun n hn hlt => ?_, ?_, ?_⟩
        · rw [List.length_cons, List.range'_succ, List.map_cons, ← hcalls]
        · rcases Nat.eq_or_lt_of_le hn with rfl | hlater
          · exact ⟨shown, hpage⟩
          · refine hshown n hlater ?_
            simp only [List.length_cons] at hlt
            omega
        · rw [List.length_cons, List.range'_succ, List.flatMap_cons, ← hfound, hread]
        · rw [List.length_cons, List.range'_succ, List.flatMap_cons, ← hproblems, hread]

end Pages

/-! ### Check runs in pages -/

/-- An envelope with a page of payloads. It states a total or leaves it out, and it may say more. -/
structure GitHub.IsEnvelope (items : List Json) (total : Option Nat) (envelope : Json) : Prop where
  isObject : ∃ members, envelope = .obj members
  items_eq : envelope.get? "check_runs" = some (.arr items)
  total_eq : envelope.get? "total_count" = total.map Json.nat ∨
    total = none ∧ envelope.get? "total_count" = some .null

/-- The payloads on a page of finitely many; pages count from one. -/
def pageOf (payloads : List Json) (page : Nat) : List Json :=
  (payloads.drop (GitHub.perPage * (page - 1))).take GitHub.perPage

/-- The service shows finitely many check runs of a commit in pages, with a total in each envelope
or none. -/
def GitHub.Service.ShowsCheckPages (service : Service) (repo : RepositoryContext) (sha : String)
    (payloads : List Json) (total : Option Nat) : Prop :=
  ∀ page, 1 ≤ page → ∃ envelope, service.checks (repo.checkQuery sha page) = .ok envelope ∧
    GitHub.IsEnvelope (pageOf payloads page) total envelope

theorem GitHub.IsEnvelope.openEnvelope_eq {items : List Json} {total : Option Nat} {envelope : Json}
    (h : GitHub.IsEnvelope items total envelope) :
    GitHub.openEnvelope envelope = .ok (items, total) := by
  obtain ⟨⟨members, rfl⟩, hitems, htotal⟩ := h
  have hstated : GitHub.statedNumber? "total_count" (.obj members) = total := by
    rw [GitHub.statedNumber?]
    rcases htotal with htotal | ⟨rfl, htotal⟩
    · rw [htotal]
      cases total with
      | none => rfl
      | some n => simp [Json.nat]
    · rw [htotal]
  rw [GitHub.openEnvelope]
  simp only [hitems, hstated]

/-- Pages in a row hold what the listing begins with. -/
theorem flatMap_pageOf (payloads : List Json) (pages : Nat) :
    (List.range' 1 pages).flatMap (pageOf payloads) = payloads.take (GitHub.perPage * pages) := by
  induction pages with
  | zero => simp
  | succ pages ih =>
    rw [List.range'_concat, List.flatMap_append, ih, Nat.mul_succ, List.take_add]
    simp [pageOf]

section Counts

variable {service : Service} {repo : RepositoryContext} {sha : String} {payloads : List Json}
  {total : Option Nat}

theorem GitHub.Service.ShowsCheckPages.shownPage_eq
    (hshows : service.ShowsCheckPages repo sha payloads total) {page : Nat} (hpage : 1 ≤ page) :
    shownPage service repo sha page = .ok (pageOf payloads page, total) := by
  obtain ⟨envelope, hanswer, henvelope⟩ := hshows page hpage
  rw [shownPage, hanswer]
  simp only [henvelope.openEnvelope_eq]
  rfl

theorem length_pageOf (payloads : List Json) (page : Nat) :
    (pageOf payloads page).length =
      min GitHub.perPage (payloads.length - GitHub.perPage * (page - 1)) := by
  rw [pageOf, List.length_take, List.length_drop]

/-- With the number of all stated, the pages that hold something are asked for, and the first page
in any case. -/
theorem length_calls_stated
    (hshows : service.ShowsCheckPages repo sha payloads (some payloads.length)) {left n : Nat}
    (hleft : 0 < left) (hfits : payloads.length ≤ GitHub.perPage * (n + left)) :
    (checkPages service repo sha left (n + 1) (GitHub.perPage * n)).calls.length =
      max 1 ((payloads.length - GitHub.perPage * n) ⌈/⌉ GitHub.perPage) := by
  induction left generalizing n with
  | zero => exact absurd hleft (Nat.lt_irrefl 0)
  | succ left ih =>
    have hlength := length_pageOf payloads (n + 1)
    rw [Nat.add_sub_cancel] at hlength
    rw [checkPages_of_ok (hshows.shownPage_eq (Nat.le_add_left 1 n))]
    simp only [Option.any_some, Bool.or_eq_true, decide_eq_true_eq]
    rw [Nat.ceilDiv_eq_add_pred_div]
    split_ifs with hlast
    · -- what is left fits on one page
      have hrest : payloads.length - GitHub.perPage * n ≤ GitHub.perPage := by omega
      simp only [GitHub.perPage] at hrest ⊢
      simp only [List.length_singleton]
      omega
    · have hfull : (pageOf payloads (n + 1)).length = GitHub.perPage := by omega
      have hmore : 0 < left := by
        rw [hfull] at hlast
        simp only [GitHub.perPage] at hfits hlast
        omega
      rw [hfull] at hlast
      rw [hfull, ← Nat.mul_succ, List.length_cons, ih hmore (by rwa [Nat.succ_add_eq_add_succ]),
        Nat.ceilDiv_eq_add_pred_div]
      simp only [GitHub.perPage] at hlast ⊢
      omega

/-- Without a total, a page that is not full is the last, and so is the one at the limit. -/
theorem length_calls_unstated (hshows : service.ShowsCheckPages repo sha payloads none)
    {left n : Nat} :
    (checkPages service repo sha left (n + 1) (GitHub.perPage * n)).calls.length =
      min left ((payloads.length - GitHub.perPage * n) / GitHub.perPage + 1) := by
  induction left generalizing n with
  | zero => exact (Nat.zero_min _).symm
  | succ left ih =>
    have hlength := length_pageOf payloads (n + 1)
    rw [Nat.add_sub_cancel] at hlength
    rw [checkPages_of_ok (hshows.shownPage_eq (Nat.le_add_left 1 n))]
    simp only [Option.any_none, Bool.or_false, decide_eq_true_eq]
    split_ifs with hlast
    · have hrest : payloads.length - GitHub.perPage * n < GitHub.perPage := by omega
      rw [Nat.div_eq_of_lt hrest]
      simp
    · have hfull : (pageOf payloads (n + 1)).length = GitHub.perPage := by omega
      rw [hfull, ← Nat.mul_succ, List.length_cons, ih]
      simp only [GitHub.perPage] at hfull hlength ⊢
      omega

end Counts

/-! ### Discovery -/

/-- With caching off every discovery asks the service. -/
theorem discoverChecks_of_lifetime_zero {service : Service} {repo : RepositoryContext}
    {maxPages now : Nat} {cache : Cache} (hoff : cache.lifetime = 0) (sha : String) :
    (discoverChecks service maxPages now repo sha cache).1 =
      listChecks service maxPages repo sha := by
  obtain ⟨e, -, -, -, hlive, -⟩ | ⟨hlisted, -⟩ | ⟨hlisted, -⟩ :=
    discoverChecks_cases service maxPages now repo cache sha
  · simp [CacheEntry.isExpired, hoff] at hlive
  · exact hlisted
  · exact hlisted

/-- Pages that could all be had are told of as the payloads on them. -/
theorem ReadPages.of_pages {service : Service} {repo : RepositoryContext} {sha : String}
    {payloads : List Json} {total : Option Nat} {pages : Nat} {told : Discovered (List CheckRun)}
    (hshows : service.ShowsCheckPages repo sha payloads total)
    (h : ReadPages service repo sha 1 pages told) :
    told.found = successes (readChecks sha (payloads.take (GitHub.perPage * pages))) ∧
      told.problems = failures (readChecks sha (payloads.take (GitHub.perPage * pages))) := by
  have hread (n : Nat) (hn : n ∈ List.range' 1 pages) : readPage service repo sha n =
      (successes (readChecks sha (pageOf payloads n)),
        failures (readChecks sha (pageOf payloads n))) := by
    rw [readPage, hshows.shownPage_eq (List.mem_range'_1.1 hn).1]
  rw [h.found, h.problems, ← flatMap_pageOf, readChecks, List.map_flatMap]
  constructor
  · rw [successes, List.filterMap_flatMap]
    exact List.flatMap_congr fun n hn => congrArg Prod.fst (hread n hn)
  · rw [failures, List.filterMap_flatMap]
    exact List.flatMap_congr fun n hn => congrArg Prod.snd (hread n hn)

/-- What a discovery of check runs tells of finitely many that are shown in pages. -/
structure CheckedExactly (repo : RepositoryContext) (sha : String) (payloads : List Json)
    (stated : Bool) (maxPages : Nat) (told : Discovered (List CheckRun)) : Prop where
  /-- Exactly the check runs that can be read are found, in order. -/
  found : told.found = payloads.filterMap fun item => (GitHub.parseCheck item).toOption
  /-- Each other payload is complained about once. -/
  problems : List.Forall₂ (fun item problem => problem.kind = .malformedRecord ∧
      ∃ cause, GitHub.parseCheck item = .error cause ∧ problem = cause.about "commit" sha)
    (payloads.filter fun item => (GitHub.parseCheck item).toOption.isNone) told.problems
  /-- The pages from the first one on are asked for, each once: with a total those that hold
  something, without one also the page behind a full one, if the limit allows it. -/
  requests : told.calls =
    (List.range' 1 (if stated then max 1 (payloads.length ⌈/⌉ GitHub.perPage)
      else min (max 1 maxPages) (payloads.length / GitHub.perPage + 1))).map
      fun n => .checks (repo.checkQuery sha n)

/-- Paging of check runs is sound, complete and economical. When a service shows finitely many check
runs in pages that fit the limit, and nothing is kept in the cache, discovery brings exactly those
that can be read and asks for no page too many. No service whatsoever is asked for more pages than
the limit, which is at least one, nor for any page after one that cannot be had, and all that was
read before is kept. -/
theorem checks_paged :
    (∀ (service : Service) (repo : RepositoryContext) (sha : String) (payloads : List Json)
        (stated : Bool) (maxPages now : Nat) (cache : Cache),
      service.ShowsCheckPages repo sha payloads (if stated then some payloads.length else none) →
      payloads.length ≤ GitHub.perPage * max 1 maxPages → cache.lifetime = 0 →
        CheckedExactly repo sha payloads stated maxPages
          (discoverChecks service maxPages now repo sha cache).1) ∧
    ∀ (service : Service) (repo : RepositoryContext) (sha : String) (maxPages now : Nat)
        (cache : Cache),
      let told := (discoverChecks service maxPages now repo sha cache).1
      told.calls.length ≤ max 1 maxPages ∧
        (cache.lifetime = 0 → 0 < told.calls.length ∧
          ReadPages service repo sha 1 told.calls.length told) := by
  refine ⟨fun service repo sha payloads stated maxPages now cache hshows hfits hoff => ?_,
    fun service repo sha maxPages now cache => ⟨?_, fun hoff => ?_⟩⟩
  · rw [discoverChecks_of_lifetime_zero hoff]
    have hread : ReadPages service repo sha 1 (listChecks service maxPages repo sha).calls.length
      (listChecks service maxPages repo sha) := readPages_checkPages _ 1 0
    have hcount : (listChecks service maxPages repo sha).calls.length =
        if stated then max 1 (payloads.length ⌈/⌉ GitHub.perPage)
        else min (max 1 maxPages) (payloads.length / GitHub.perPage + 1) := by
      cases stated with
      | true => exact length_calls_stated hshows (n := 0) (by omega) (by rwa [Nat.zero_add])
      | false => exact length_calls_unstated hshows (n := 0)
    have hall : payloads.length ≤
        GitHub.perPage * (listChecks service maxPages repo sha).calls.length := by
      rw [hcount, Nat.ceilDiv_eq_add_pred_div]
      simp only [GitHub.perPage] at hfits ⊢
      split_ifs <;> omega
    obtain ⟨hfound, hproblems⟩ := hread.of_pages hshows
    rw [List.take_of_length_le hall] at hfound hproblems
    refine ⟨hfound.trans (successes_map_parse GitHub.parseCheck _ payloads), ?_, ?_⟩
    · rw [hproblems]
      refine (forall₂_failures_map_parse GitHub.parseCheck (·.about "commit" sha) payloads).imp ?_
      rintro item - ⟨cause, hparse, rfl⟩
      exact ⟨(cause.kind_about ..).trans (GitHub.kind_of_parseCheck_eq_error hparse), cause,
        hparse, rfl⟩
    · rw [← hcount]
      exact hread.calls
  · have hlisted : (listChecks service maxPages repo sha).calls.length ≤ max 1 maxPages :=
      length_calls_checkPages _ 1 0
    rw [discoverChecks]
    rcases cache.findChecks now repo.id (Cache.checksKey sha) with ⟨_ | found, cache⟩
    · simp only
      split_ifs <;> exact hlisted
    · exact Nat.zero_le _
  · rw [discoverChecks_of_lifetime_zero hoff]
    refine ⟨?_, readPages_checkPages _ 1 0⟩
    obtain ⟨left, hleft⟩ : ∃ left, max 1 maxPages = left + 1 := ⟨max 1 maxPages - 1, by omega⟩
    rw [listChecks, hleft]
    exact length_calls_checkPages_pos left 1 0

/-- A hundred payloads, of which the last one holds a check run. -/
def fullPage : List Json := List.replicate 99 .null ++ [sampleCheck]

/-- A service that shows the hundred payloads, with their number or without it. -/
def fullPageService (stated : Bool) : Service :=
  { pulls := fun _ => .error (.api "no pull requests")
    checks := fun q => .ok (.obj (("check_runs", .arr (pageOf fullPage q.page)) ::
      if stated then [("total_count", .nat 100)] else [])) }

/-- All hundred are on the first page. It is the only one asked for when their number is stated;
otherwise another page might follow it. -/
theorem checks_paged_full :
    (fullPageService true).ShowsCheckPages sampleRepository "h0" fullPage
      (some fullPage.length) ∧
    (fullPageService false).ShowsCheckPages sampleRepository "h0" fullPage none ∧
    fullPage.length ≤ GitHub.perPage * max 1 2 ∧
    let told := fun stated =>
      (discoverChecks (fullPageService stated) 2 0 sampleRepository "h0" { lifetime := 0 }).1
    (told true).found.length = 1 ∧ (told true).problems.length = 99 ∧
      (told true).calls.length = 1 ∧ (told false).calls.length = 2 := by
  have hstated : (fullPageService true).ShowsCheckPages sampleRepository "h0" fullPage
      (some fullPage.length) := fun page _ => ⟨_, rfl, ⟨_, rfl⟩, rfl, .inl rfl⟩
  have hunstated : (fullPageService false).ShowsCheckPages sampleRepository "h0" fullPage none :=
    fun page _ => ⟨_, rfl, ⟨_, rfl⟩, rfl, .inl rfl⟩
  have hfits : fullPage.length ≤ GitHub.perPage * max 1 2 := by decide +kernel
  obtain ⟨hfound, hproblems, hrequests⟩ :=
    checks_paged.1 (fullPageService true) sampleRepository "h0" fullPage true 2 0
      { lifetime := 0 } hstated hfits rfl
  obtain ⟨-, -, hmore⟩ :=
    checks_paged.1 (fullPageService false) sampleRepository "h0" fullPage false 2 0
      { lifetime := 0 } hunstated hfits rfl
  refine ⟨hstated, hunstated, hfits, ?_, ?_, ?_, ?_⟩
  · rw [hfound]
    decide +kernel
  · rw [← hproblems.length_eq]
    decide +kernel
  · rw [hrequests, List.length_map, List.length_range']
    decide +kernel
  · rw [hmore, List.length_map, List.length_range']
    decide +kernel

/-- With a limit of no pages at all one page is asked for, here of a commit without check runs. -/
theorem not_forall_check_pages_within_limit :
    ¬ ∀ (service : Service) (repo : RepositoryContext) (sha : String) (maxPages now : Nat)
      (cache : Cache),
      (discoverChecks service maxPages now repo sha cache).1.calls.length ≤ maxPages := by
  intro h
  let service : Service :=
    { pulls := fun _ => .error (.api "no pull requests")
      checks := fun _ => .ok (.object [("check_runs", .arr [])]) }
  have hasked := h service sampleRepository "h0" 0 0 { lifetime := 0 }
  exact absurd hasked (by decide +kernel)

end PullWatch
