import PullWatch.Proofs.Abreast
import PullWatch.Proofs.KeptListings
import PullWatch.Proofs.Listings

/-!
# Passes abreast

Two passes are made over one repository, each in a database of its own, with a cache and a service
of its own and at its own time. If the databases hold the same dossiers of the repository, the
caches hold nothing for it and the services agree on it, the passes have the same result, but for
times, and leave the same dossiers. Rows that do not decode make no difference: the dossiers tell
them as well, and both passes fail at the first of them.

## Main definitions

* `GitHub.Service.AgreeOn`: two services answer requests for one repository alike.
* `StoredPullRequest.Matches`, `StoredCheckRun.Matches`: stored records are the same but for ids.
* `RepositoryResult.untimed`: a result without its times.

## Main results

* `shown_congr`: discovery depends on the answers for its repository only.
* `both_detect`: detection in two databases.
* `runPass_abreast`: passes in two databases.
* `runPass_within`, `mem_of_mem_runPass`: a pass leaves other repositories alone.
-/

namespace PullWatch

open GitHub (Service)
open Outcome (Both)
open Database (Abreast)

/-! ### Services that agree on a repository -/

/-- The services answer requests for the repository of an owner and a name alike. -/
structure GitHub.Service.AgreeOn (owner name : String) (s s' : Service) : Prop where
  pulls : ∀ listing perPage page,
    s.pulls { owner, name, listing, perPage, page } =
      s'.pulls { owner, name, listing, perPage, page }
  checks : ∀ sha perPage page,
    s.checks { owner, name, sha, perPage, page } = s'.checks { owner, name, sha, perPage, page }

section Services

variable {service service' : Service} {repo : RepositoryContext}
  (h : service.AgreeOn repo.owner repo.name service') (since : Option Instant)

include h

theorem listPages_of_agreeOn (listing : Listing) (left page : Nat) :
    listPages service repo listing since left page =
      listPages service' repo listing since left page :=
  listPages_congr_answers fun n _ => h.pulls listing GitHub.perPage n

theorem listStates_of_agreeOn (maxPages : Nat) (listings : List Listing) :
    listStates service maxPages repo since listings =
      listStates service' maxPages repo since listings := by
  induction listings with
  | nil => rfl
  | cons listing rest ih => simp only [listStates, listPages_of_agreeOn h, ih]

theorem listPulls_of_agreeOn (maxPages : Nat) (states : List PullState) :
    listPulls service maxPages repo states since =
      listPulls service' maxPages repo states since := by
  rw [listPulls, listPulls, listStates_of_agreeOn h]

theorem checkPages_of_agreeOn (sha : String) (left page seen : Nat) :
    checkPages service repo sha left page seen = checkPages service' repo sha left page seen := by
  induction left generalizing page seen with
  | zero => rfl
  | succ left ih => simp only [checkPages, h.checks, ih]

theorem listChecks_of_agreeOn (maxPages : Nat) (sha : String) :
    listChecks service maxPages repo sha = listChecks service' maxPages repo sha :=
  checkPages_of_agreeOn h sha _ _ _

/-- Discovery depends on the answers for its repository only. -/
theorem shown_congr (config : Configuration) :
    shown service config repo since = shown service' config repo since := by
  simp only [shown, shownChecks, shownProblems, listPulls_of_agreeOn h, listChecks_of_agreeOn h]

end Services

/-! ### Stored records -/

/-- Decoding reads the id of a row, but does not depend on it. -/
theorem PullRow.both_decode (row : PullRow) (id id' : Int) :
    Both (fun s s' => s.toPullRequest = s'.toPullRequest ∧ s.id = id ∧ s'.id = id')
      (row.decode id) (row.decode id') := by
  rw [decode, decode]
  iterate 7 refine .bind_same _ fun _ => ?_
  exact .ok ⟨rfl, rfl, rfl⟩

theorem CheckRow.both_decode {row row' : CheckRow} (h : row.unowned = row'.unowned) (id id' : Int) :
    Both (fun s s' => s.toCheckRun = s'.toCheckRun ∧ s.id = id ∧ s'.id = id')
      (row.decode id) (row'.decode id') := by
  obtain ⟨pullRequestId, externalId, name, status, conclusion, suiteId, detailsUrl, logsUrl,
    outputTitle, outputSummary, outputText, startedAt, completedAt⟩ := row
  obtain ⟨pullRequestId', externalId', name', status', conclusion', suiteId', detailsUrl', logsUrl',
    outputTitle', outputSummary', outputText', startedAt', completedAt'⟩ := row'
  simp only [unowned, mk.injEq, true_and] at h
  obtain ⟨rfl, rfl, rfl, rfl, rfl, rfl, rfl, rfl, rfl, rfl, rfl, rfl⟩ := h
  rw [decode, decode]
  iterate 4 refine .bind_same _ fun _ => ?_
  exact .ok ⟨rfl, rfl, rfl⟩

/-! ### Detection in two databases -/

section Detection

variable {repositoryId id id' : Int} {number : UInt64} {db db' : Database}

/-- Two stored pull requests are the same, each of its own database. -/
structure StoredPullRequest.Matches (repositoryId : Int) (number : UInt64) (db db' : Database)
    (s s' : StoredPullRequest) : Prop where
  record : s.toPullRequest = s'.toPullRequest
  left : db.PullAt repositoryId number s.id
  right : db'.PullAt repositoryId number s'.id

/-- Two stored check runs are the same, each of its own database. -/
structure StoredCheckRun.Matches (repositoryId : Int) (number : UInt64) (db db' : Database)
    (s s' : StoredCheckRun) : Prop where
  record : s.toCheckRun = s'.toCheckRun
  places : ∃ externalId, db.CheckAt repositoryId number externalId s.id ∧
    db'.CheckAt repositoryId number externalId s'.id

theorem Database.Abreast.pull? (h : Abreast repositoryId db db' db db') (number : UInt64) :
    Both (Option.Rel (StoredPullRequest.Matches repositoryId number db db'))
      (db.pull? repositoryId number) (db'.pull? repositoryId number) := by
  have hrel := h.pullRow? number
  rw [Database.pull?_eq, Database.pull?_eq]
  generalize db.pullRow? repositoryId number = found, db'.pullRow? repositoryId number = found'
    at hrel
  cases hrel with
  | none => exact .ok .none
  | @some r r' hr =>
    obtain ⟨hsame, hat, hat'⟩ := hr
    have hrow : r.2 = r'.2 := congrArg PullDossier.row hsame
    simp only [hrow]
    refine (r'.2.both_decode r.1 r'.1).map fun s s' hs => .some ?_
    obtain ⟨hrecord, hid, hid'⟩ := hs
    exact ⟨hrecord, hid ▸ hat, hid' ▸ hat'⟩

theorem Database.Abreast.checksOf (h : Abreast repositoryId db db' db db')
    (hat : db.PullAt repositoryId number id) (hat' : db'.PullAt repositoryId number id') :
    Both (List.Forall₂ (StoredCheckRun.Matches repositoryId number db db'))
      (db.checksOf id) (db'.checksOf id') := by
  refine Both.mapM (forall₂_of_map_eq_map (h.checkDossiers hat hat')) fun r r' hr => ?_
  obtain ⟨hr, hr', hsame⟩ := hr
  have hrow : r.2.unowned = r'.2.unowned := congrArg CheckDossier.row hsame
  refine (CheckRow.both_decode hrow r.1 r'.1).mono fun s s' hs => ?_
  obtain ⟨hr, hown⟩ := List.mem_filter.1 hr
  obtain ⟨hr', hown'⟩ := List.mem_filter.1 hr'
  have hexternal : r.2.unowned.externalId = r'.2.unowned.externalId := congrArg _ hrow
  refine ⟨hs.1, r.2.externalId.toUInt64, ?_, ?_⟩
  · rw [hs.2.1]
    refine ⟨id, r.2, hat, hr, Prod.ext (of_decide_eq_true hown) ?_⟩
    rw [CheckRow.key, Int64.toInt64_toUInt64]
  · rw [hs.2.2, show r.2.externalId = r'.2.externalId from hexternal]
    refine ⟨id', r'.2, hat', hr', Prod.ext (of_decide_eq_true hown') ?_⟩
    rw [CheckRow.key, Int64.toInt64_toUInt64]

theorem detectPull_congr {s s' : Option StoredPullRequest}
    (h : Option.Rel (StoredPullRequest.Matches repositoryId number db db') s s')
    (new : PullRequest) : detectPull s new = detectPull s' new := by
  cases h with
  | none => rfl
  | some h => simp only [detectPull, h.record]

theorem detectCheck_congr {s s' : Option StoredCheckRun}
    (h : Option.Rel (StoredCheckRun.Matches repositoryId number db db') s s') (new : CheckRun) :
    detectCheck s new = detectCheck s' new := by
  cases h with
  | none => rfl
  | some h => simp only [detectCheck, h.record]

/-- The changes of the check runs of one pull request, compared with those of each database. -/
theorem checkChanges_matches {stored stored' : List StoredCheckRun} (fresh : List CheckRun)
    (h : List.Forall₂ (StoredCheckRun.Matches repositoryId number db db') stored stored') :
    List.Forall₂ (CheckChange.Matches repositoryId db db') (checkChanges number stored fresh)
      (checkChanges number stored' fresh) := by
  refine List.rel_filterMap (R := Eq) ?_ (List.forall₂_same.2 fun _ _ => rfl)
  rintro c _ rfl
  have hstored : Option.Rel (StoredCheckRun.Matches repositoryId number db db')
      (storedWith stored c.externalId) (storedWith stored' c.externalId) :=
    find?_rel (List.rel_reverse h) fun s s' hs => by rw [hs.record]
  simp only [detectCheck_congr hstored]
  cases detectCheck (storedWith stored' c.externalId) c with
  | none => exact .none
  | some event =>
    cases fresh.reverse.find? fun d => d.externalId = c.externalId with
    | none => exact .none
    | some record => exact .some ⟨rfl, rfl, rfl, map_rel hstored fun _ _ hs => hs.places⟩

/-- The changes of one pull request and of its check runs match those found in another database. -/
def ChangesMatch (repositoryId : Int) (db db' : Database)
    (r r' : Option PullChange × List CheckChange) : Prop :=
  Option.Rel (PullChange.Matches repositoryId db db') r.1 r'.1 ∧
    List.Forall₂ (CheckChange.Matches repositoryId db db') r.2 r'.2

/-- The changes of one pull request and of its check runs, compared with each database. -/
theorem both_pullChanges (h : Abreast repositoryId db db' db db') (faults : Faults)
    (checks : ChecksByPull) (p : FetchedPullRequest) :
    Both (ChangesMatch repositoryId db db')
      (pullChanges (db.viewUnder faults repositoryId) checks p)
      (pullChanges (db'.viewUnder faults repositoryId) checks p) := by
  refine (Outcome.both_strike _ (h.pull? p.number)).bind fun stored stored' hstored => ?_
  have hchange : Option.Rel (PullChange.Matches repositoryId db db')
      ((detectPull stored p.toPullRequest).map fun event =>
        { record := p, existingId := stored.map (·.id), event })
      ((detectPull stored' p.toPullRequest).map fun event =>
        { record := p, existingId := stored'.map (·.id), event }) := by
    rw [detectPull_congr hstored]
    cases detectPull stored' p.toPullRequest with
    | none => exact .none
    | some event => exact .some ⟨rfl, rfl, map_rel hstored fun _ _ hs => ⟨hs.left, hs.right⟩⟩
  cases checks.get? p.number with
  | none => exact .ok ⟨hchange, .nil⟩
  | some fresh =>
    cases hstored with
    | none => exact .ok ⟨hchange, checkChanges_matches fresh .nil⟩
    | @some s s' hs =>
      have hnumber : s.number = s'.number := congrArg PullRequest.number hs.record
      simp only [Database.viewUnder, hnumber]
      exact (Outcome.both_strike _ (h.checksOf hs.left hs.right)).bind
        fun found found' hfound => .ok ⟨hchange, checkChanges_matches fresh hfound⟩

/-- Detection finds the same in both databases, or fails in both at the same pull request. -/
theorem both_detect (h : Abreast repositoryId db db' db db') (faults : Faults) (f : Findings) :
    Both (ChangeSet.Matches repositoryId db db') (detect db faults repositoryId f)
      (detect db' faults repositoryId f) := by
  refine Both.bind (R := List.Forall₂ (ChangesMatch repositoryId db db'))
    (Both.mapM (R := Eq) (List.forall₂_same.2 fun _ _ => rfl) ?_) fun found found' hfound => .ok ?_
  · rintro p _ rfl
    have hp := both_pullChanges h faults f.checks p
    generalize pullChanges (db.viewUnder faults repositoryId) f.checks p = r,
      pullChanges (db'.viewUnder faults repositoryId) f.checks p = r' at hp
    cases hp with
    | error cause => exact .error _
    | ok hp => exact .ok hp
  · have hpulls := List.rel_filterMap (fun _ _ hr => hr.1) hfound
    have hchecks := List.rel_flatMap hfound fun _ _ hr => hr.2
    have hnew {x y : Option Int} {R : Int → Int → Prop} (hr : Option.Rel R x y) :=
      Bool.eq_iff_iff.1 (isNone_eq_of_rel hr)
    have hknown {x y : Option Int} {R : Int → Int → Prop} (hr : Option.Rel R x y) :=
      Bool.eq_iff_iff.1 (isSome_eq_of_rel hr)
    exact
      { newPulls := List.rel_filter (fun _ _ hc => hnew hc.existing) hpulls
        updatedPulls := List.rel_filter (fun _ _ hc => hknown hc.existing) hpulls
        newChecks := List.rel_filter (fun _ _ hc => hnew hc.existing) hchecks
        updatedChecks := List.rel_filter (fun _ _ hc => hknown hc.existing) hchecks }

end Detection

/-! ### Passes in two databases -/

/-- The result without its times. -/
def RepositoryResult.untimed (r : RepositoryResult) : RepositoryResult :=
  { r with startedAt := .epoch, finishedAt := .epoch }

namespace RepositoryResult

variable {r r' : RepositoryResult} (h : r.untimed = r'.untimed) (time time' : Instant)

include h

theorem untimed_succeed : (r.succeed time).untimed = (r'.succeed time').untimed :=
  congrArg (·.succeed .epoch) h

theorem untimed_fail (phase : ProblemKind) :
    (r.fail phase time).untimed = (r'.fail phase time').untimed :=
  congrArg (·.fail phase .epoch) h

theorem untimed_withProblems (problems : List Problem) :
    (r.withProblems problems).untimed = (r'.withProblems problems).untimed :=
  congrArg (·.withProblems problems) h

end RepositoryResult

section Passes

variable {service service' : Service} {config : Configuration} {faults : Faults}
  {now now' : Moment} {repo : RepositoryContext} {since : Option Instant} {isTrial : Bool}
  {db db' : Database} {cache cache' : Cache}

/-- Without kept listings of the repository, discovery brings what the service shows. -/
theorem discover_of_forall_ne (hcache : ∀ e ∈ cache.entries, e.repositoryId ≠ repo.id) :
    (discover service config now repo since cache).1 = shown service config repo since :=
  (discover_of_reflects (.of_forall_ne hcache)).1

/-- The last steps of two passes that have found the same. -/
theorem finishPass_abreast {result result' : RepositoryResult} {changes changes' : ChangeSet}
    {calls calls' : List GitHub.Call} (h : Abreast repo.id db db' db db')
    (hchanges : changes.Matches repo.id db db' changes')
    (hresult : result.untimed = result'.untimed) :
    let pass := finishPass config faults now repo isTrial result changes db cache calls
    let pass' := finishPass config faults now' repo isTrial result' changes' db' cache' calls'
    pass.result.untimed = pass'.result.untimed ∧ Abreast repo.id db db' pass.db pass'.db := by
  have hnoted :
      RepositoryResult.untimed { result with
        changesDetected := changes.total, actionableEvents := changes.actionableEvents } =
      RepositoryResult.untimed { result' with
        changesDetected := changes'.total, actionableEvents := changes'.actionableEvents } := by
    rw [ChangeSet.actionableEvents, ChangeSet.actionableEvents, hchanges.total_eq,
      hchanges.events_eq]
    exact congrArg (fun r => { r with
      changesDetected := changes'.total
      actionableEvents := changes'.events.filter Event.isActionable }) hresult
  have hwritten : Both (fun r r' => r.1 = r'.1 ∧ Abreast repo.id db db' r.2 r'.2)
      (synchronize faults config.syncChunkSize repo.id now.time changes db)
      (synchronize faults config.syncChunkSize repo.id now'.time changes' db') :=
    both_synchronize hchanges h
  have hhas : changes.hasChanges = changes'.hasChanges := by
    rw [ChangeSet.hasChanges, ChangeSet.hasChanges, hchanges.total_eq]
  rw [finishPass, finishPass, hhas]
  generalize synchronize faults config.syncChunkSize repo.id now.time changes db = work,
    synchronize faults config.syncChunkSize repo.id now'.time changes' db' = work' at hwritten
  split_ifs
  · exact ⟨RepositoryResult.untimed_succeed hnoted _ _, h⟩
  · cases hwritten with
    | error cause =>
      exact ⟨RepositoryResult.untimed_fail
        (RepositoryResult.untimed_withProblems hnoted _) _ _ _, h⟩
    | @ok written written' hwritten =>
      obtain ⟨rows, next⟩ := written
      obtain ⟨rows', next'⟩ := written'
      obtain ⟨hrows, hnext⟩ := hwritten
      obtain rfl : rows = rows' := hrows
      exact ⟨congrArg (fun r => { r with changesSynchronized := rows, success := true }) hnoted,
        hnext⟩

/-- Two passes over one repository, each in a database of its own, end alike. -/
theorem runPass_abreast (now now' : Moment)
    (hservice : service.AgreeOn repo.owner repo.name service')
    (hcache : ∀ e ∈ cache.entries, e.repositoryId ≠ repo.id)
    (hcache' : ∀ e ∈ cache'.entries, e.repositoryId ≠ repo.id) (h : Abreast repo.id db db' db db') :
    let pass := runPass service config faults now repo since isTrial db cache
    let pass' := runPass service' config faults now' repo since isTrial db' cache'
    pass.result.untimed = pass'.result.untimed ∧ Abreast repo.id db db' pass.db pass'.db := by
  have hfound : (discover service config now repo since cache).1 =
      (discover service' config now' repo since cache').1 := by
    rw [discover_of_forall_ne hcache, discover_of_forall_ne hcache', shown_congr hservice]
  rw [runPass, runPass, beginPass, beginPass]
  generalize discover service config now repo since cache = r,
    discover service' config now' repo since cache' = r' at hfound ⊢
  obtain ⟨found, later, calls⟩ := r
  obtain ⟨found', later', calls'⟩ := r'
  obtain rfl : found = found' := hfound
  cases found with
  | error problems => exact ⟨rfl, h⟩
  | ok f =>
    have hdetect := both_detect h faults f
    simp only [comparePass]
    generalize detect db faults repo.id f = changes, detect db' faults repo.id f = changes'
      at hdetect
    cases hdetect with
    | error failure => exact ⟨rfl, h⟩
    | ok hchanges => exact finishPass_abreast h hchanges rfl

/-- What a pass does to the database concerns its own repository. -/
theorem runPass_within (hcache : ∀ e ∈ cache.entries, e.repositoryId ≠ repo.id) (h : db.Linked) :
    Database.Within repo.id db (runPass service config faults now repo since isTrial db cache).db :=
  have hself : service.AgreeOn repo.owner repo.name service :=
    ⟨fun _ _ _ => rfl, fun _ _ _ => rfl⟩
  (runPass_abreast now now hself hcache hcache (.refl h h rfl rfl)).2.left

/-- What the cache holds of other repositories after a pass was there before. -/
theorem mem_of_mem_runPass {e : CacheEntry}
    (he : e ∈ (runPass service config faults now repo since isTrial db cache).cache.entries)
    (hother : e.repositoryId ≠ repo.id) : e ∈ cache.entries := by
  have houtcome : PassOutcome service config faults now repo since isTrial db db cache
      (runPass service config faults now repo since isTrial db cache) := passOutcome_runPass
  have hdiscovered : e ∈ (discover service config now repo since cache).2.1.entries := by
    cases houtcome with
    | undiscovered _ _ _ _ hcache => rwa [← hcache]
    | undetected _ _ _ _ _ hcache => rwa [← hcache]
    | rolledBack _ _ _ _ _ _ _ _ _ hcache => exact (Cache.mem_dropRepository.1 (hcache ▸ he)).1
    | completed _ _ _ _ _ _ hcache => rwa [← hcache]
  exact mem_of_mem_discover hdiscovered hother

end Passes

end PullWatch
