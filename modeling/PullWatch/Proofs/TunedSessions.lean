import PullWatch.Proofs.LonePasses
import PullWatch.Proofs.Noninterference

/-!
# Tuning

The sizes of batches and of chunks, and the limits on concurrent work, are there for speed. Two
sessions whose configurations differ in nothing else, over the same database and with the same
answers of the service, report the same of every repository and leave the same dossiers of it. For
each pass ends as it would alone, and what it would do alone does not depend on sizes and limits.

Chunks come one after the other within one transaction, so their size does not matter at all.

## Main definitions

* `Configuration.TunedAs`: configurations that differ in sizes and limits only.
* `SessionsAgree`: two sessions agree on a repository.

## Main results

* `synchronize_congr`: the size of chunks does not matter.
* `alone_congr`: what a pass does alone does not depend on sizes and limits.
* `tuning_keeps_outcome`: sessions of configurations that differ in sizes and limits agree.
-/

namespace PullWatch

open GitHub (Service)

/-! ### The size of chunks -/

section Chunks

variable (faults : Faults) {repositoryId : Int} {time : Instant} {changes : ChangeSet}
  {db seen : Database} {now : Moment} {repo : RepositoryContext} {isTrial : Bool}

/-- However a change set is cut into chunks, its writes are the same. -/
theorem synchronize_congr (size size' : Nat) :
    synchronize faults size repositoryId time changes db =
      synchronize faults size' repositoryId time changes db := by
  simp only [synchronize, applyChanges, applyPart, foldlM_chunks]

/-- The last step of a pass takes nothing but the size of chunks from the configuration. -/
theorem finishPass_congr (config config' : Configuration) {result : RepositoryResult}
    {cache : Cache} {calls : List GitHub.Call} :
    finishPass config faults now repo isTrial result changes db cache calls =
      finishPass config' faults now repo isTrial result changes db cache calls := by
  simp only [finishPass, synchronize_congr faults config.syncChunkSize config'.syncChunkSize]

theorem concludePass_congr (config config' : Configuration)
    (discovered : Except (List Problem) Findings) :
    concludePass config faults now repo isTrial seen db discovered =
      concludePass config' faults now repo isTrial seen db discovered := by
  cases discovered with
  | error problems => rfl
  | ok findings => simp only [concludePass, finishPass_congr faults config config']

/-- A transaction that fails leaves nothing behind. -/
theorem finishPass_db_of_error (config : Configuration) {result : RepositoryResult} {cache : Cache}
    {calls : List GitHub.Call} {cause : StoreError}
    (h : synchronize faults config.syncChunkSize repo.id now.time changes db = .error cause) :
    (finishPass config faults now repo isTrial result changes db cache calls).db = db := by
  rw [finishPass, h]
  split_ifs <;> rfl

end Chunks

/-! ### Configurations -/

/-- The configurations differ in the sizes of batches and chunks and in the limits on concurrent
work at the most. -/
def Configuration.TunedAs (c c' : Configuration) : Prop :=
  { c with
    maxConcurrentRepos := c'.maxConcurrentRepos
    maxConcurrentApiCalls := c'.maxConcurrentApiCalls
    maxConcurrentCheckDiscoveries := c'.maxConcurrentCheckDiscoveries
    batchSize := c'.batchSize
    syncChunkSize := c'.syncChunkSize } = c'

namespace Configuration.TunedAs

variable {c c' : Configuration} (h : c.TunedAs c')

include h

theorem pullStates_eq : c.pullStates = c'.pullStates :=
  (congrArg Configuration.pullStates h :)

theorem maxPagesPerQuery_eq : c.maxPagesPerQuery = c'.maxPagesPerQuery :=
  (congrArg Configuration.maxPagesPerQuery h :)

/-- The service is asked the same questions. -/
theorem shown_eq (service : Service) (repo : RepositoryContext) (since : Option Instant) :
    shown service c repo since = shown service c' repo since := by
  simp only [shown, shownChecks, shownProblems, h.pullStates_eq, h.maxPagesPerQuery_eq]

theorem oneHead {service : Service} {repo : RepositoryContext} {since : Option Instant}
    (hone : OneHead service c repo since) : OneHead service c' repo since := by
  rw [OneHead, h.pullStates_eq, h.maxPagesPerQuery_eq] at hone
  exact hone

end Configuration.TunedAs

/-! ### Two sessions -/

section Sessions

variable {env env' : Surroundings} {config config' : Configuration} {mode : Mode}
  {start db db' after after' : Database} {selected : List Repository}
  {results results' : List RepositoryResult} {id : Int}

theorem alone_congr (htuned : config.TunedAs config') (hservice : env.service = env'.service)
    (hfaults : env.faults = env'.faults) (repository : Repository) :
    alone env config mode start repository = alone env' config' mode start repository := by
  rw [alone, alone, htuned.shown_eq, concludePass_congr env.faults config config', hservice,
    hfaults]

/-- Two sessions agree on a repository: they report the same of it, but for times and the order of
problems, and leave the same dossiers. The repository's own row is as it was at the start, or both
have recorded a poll with a reading of their own clocks. -/
structure SessionsAgree (env env' : Surroundings) (start : Database) (id : Int)
    (results results' : List RepositoryResult) (after after' : Database) : Prop where
  results : List.Forall₂ RepositoryResult.Agrees (resultsFor id results) (resultsFor id results')
  dossiers : after.dossiers id = after'.dossiers id
  row : (after.repositories.get? id = start.repositories.get? id ∧
      after'.repositories.get? id = start.repositories.get? id) ∨
    ∃ n n', after.repositories.get? id = (start.poll (env.clock n).time id).repositories.get? id ∧
      after'.repositories.get? id = (start.poll (env'.clock n').time id).repositories.get? id

theorem mem_polledIds_congr {faults : Faults}
    (h : List.Forall₂ RepositoryResult.Agrees (resultsFor id results) (resultsFor id results')) :
    id ∈ polledIds faults mode results ↔ id ∈ polledIds faults mode results' := by
  rw [mem_polledIds_iff_resultsFor, mem_polledIds_iff_resultsFor]
  generalize resultsFor id results = xs, resultsFor id results' = ys at h
  have hsuccess (r : RepositoryResult) : r.untimed.success = r.success := rfl
  have hcount : (xs.map RepositoryResult.untimed).countP (·.success) =
      (ys.map RepositoryResult.untimed).countP (·.success) := by
    induction h with
    | nil => rfl
    | cons hagrees _ ih =>
      rw [List.map_cons, List.map_cons, List.countP_cons, List.countP_cons, ih, hsuccess, hsuccess,
        hagrees.success_eq]
  rw [hcount]

/-- Passes that ended as they would alone, over one database and with one answer of the service to
each request, report the same and leave the same dossiers. -/
theorem AsAlone.agree (htuned : config.TunedAs config') (hservice : env.service = env'.service)
    (hfaults : env.faults = env'.faults) (h : AsAlone env config mode start selected results db)
    (h' : AsAlone env' config' mode start selected results' db') (id : Int) :
    List.Forall₂ RepositoryResult.Agrees (resultsFor id results) (resultsFor id results') ∧
      db.dossiers id = db'.dossiers id := by
  by_cases hmem : id ∈ selected.map (·.id)
  · obtain ⟨repository, hrepository, rfl⟩ := List.mem_map.1 hmem
    obtain ⟨result, hresult, hagrees, hdossiers⟩ := h.visited repository hrepository
    obtain ⟨result', hresult', hagrees', hdossiers'⟩ := h'.visited repository hrepository
    rw [← alone_congr htuned hservice hfaults] at hagrees' hdossiers'
    rw [hresult, hresult', hdossiers, hdossiers']
    exact ⟨.cons (hagrees.trans hagrees'.symm) .nil, rfl⟩
  · obtain ⟨hnone, hdossiers⟩ := h.others id hmem
    obtain ⟨hnone', hdossiers'⟩ := h'.others id hmem
    rw [hnone, hnone', hdossiers, hdossiers']
    exact ⟨.nil, rfl⟩

/-- Sessions that have recorded the polls of such passes. -/
theorem EndsAsAlone.agree (htuned : config.TunedAs config') (hservice : env.service = env'.service)
    (hfaults : env.faults = env'.faults)
    (h : EndsAsAlone env config mode selected start results after)
    (h' : EndsAsAlone env' config' mode selected start results' after') (id : Int) :
    SessionsAgree env env' start id results results' after after' := by
  obtain ⟨db, n, halone, hafter⟩ := h
  obtain ⟨db', n', halone', hafter'⟩ := h'
  obtain ⟨hresults, hdossiers⟩ := halone.agree htuned hservice hfaults halone' id
  have hpolled : id ∈ polledIds env.faults mode results ↔
      id ∈ polledIds env'.faults mode results' := by
    rw [← hfaults]
    exact mem_polledIds_congr hresults
  refine ⟨hresults, ?_, rows_of_polled halone.repositories halone'.repositories hafter hafter'
    hpolled⟩
  rw [hafter, hafter', Database.dossiers_pollAll, Database.dossiers_pollAll, hdossiers]

/-- The processor is idle and open, its cache is empty, and nothing ends its sessions early. -/
structure Undisturbed (p : Processor) (env : Surroundings) : Prop where
  idle : p.isRunning = false
  isOpen : p.isShutdown = false
  cache : p.cache.entries = []
  goesOn : p.config.stopOnFirstError = false
  shutdown : ∀ m n, env.isShutdown m n = false

variable {p p' : Processor} {ids : Option (List Int)}

/-- A session whose passes are made one after the other. -/
theorem Undisturbed.endsAsAlone (h : Undisturbed p env) (hstart : start.Linked)
    (hselect : selectRepositories start env.faults ids mode (env.clock 1).time = .ok selected)
    (hnodup : (selected.map (·.id)).Nodup) :
    let o := p.processAll env start ids mode
    (∃ batch, o.result = .ok batch) ∧
      EndsAsAlone env p.config mode selected start o.results o.db := by
  intro o
  obtain ⟨hok, before, n, hvisits, hresults, hend⟩ := Processor.processAll_visits h.idle h.isOpen
    h.cache h.goesOn h.shutdown hstart hselect hnodup
  refine ⟨hok, before.db, n, ?_, ?_⟩
  · rw [hresults]
    exact hvisits.asAlone hstart
  · rw [hresults]
    exact hend

/-- **Tuning does not change the outcome.** Two processors differ in the sizes of batches and chunks
and in the limits on concurrent work. Their sessions find the same database, the same answers of the
service and the same selection, which names no repository twice; clocks and the order of passes may
differ. Then the sessions agree on every repository, and both succeed when the selection does.

So do sessions whose passes overlap, and the lookups of each pass, if no number is discovered open
with two head commits. A transaction that fails does so with chunks of either size, and leaves
nothing behind. -/
theorem tuning_keeps_outcome (hp : Undisturbed p env) (hp' : Undisturbed p' env')
    (htuned : p.config.TunedAs p'.config) (hservice : env.service = env'.service)
    (hfaults : env.faults = env'.faults) (hstart : start.Linked)
    (hselect : selectRepositories start env.faults ids mode (env.clock 1).time =
      selectRepositories start env'.faults ids mode (env'.clock 1).time)
    (hnodup : ∀ selected, selectRepositories start env.faults ids mode (env.clock 1).time =
      .ok selected → (selected.map (·.id)).Nodup) :
    let o := p.processAll env start ids mode
    let o' := p'.processAll env' start ids mode
    (∀ id, SessionsAgree env env' start id o.results o'.results o.db o'.db) ∧
      (∀ selected, selectRepositories start env.faults ids mode (env.clock 1).time = .ok selected →
        (∃ batch, o.result = .ok batch) ∧ (∃ batch, o'.result = .ok batch) ∧
          (∀ repository ∈ selected, (resultsFor repository.id o.results).length = 1) ∧
          ((∀ repository ∈ selected,
              OneHead env.service p.config repository.context (cutoff mode repository)) →
            ∀ results after,
              SessionEnds env' p'.config mode selected p'.cache start results after →
                ∀ id, SessionsAgree env env' start id o.results results o.db after)) ∧
      ∀ (repo : RepositoryContext) (now : Moment) (changes : ChangeSet) (db : Database)
        (cause : StoreError),
        synchronize env.faults p.config.syncChunkSize repo.id now.time changes db = .error cause →
          synchronize env.faults p'.config.syncChunkSize repo.id now.time changes db =
              .error cause ∧
            ∀ isTrial result cache calls,
              (finishPass p'.config env.faults now repo isTrial result changes db cache
                calls).db = db := by
  intro o o'
  refine ⟨fun id => ?_, fun selected hselected => ?_, fun repo now changes db cause hfailed => ?_⟩
  · cases hselected : selectRepositories start env.faults ids mode (env.clock 1).time with
    | error e =>
      obtain ⟨hnone, hend⟩ := Processor.processAll_unselected hp.idle hselected
      obtain ⟨hnone', hend'⟩ :=
        Processor.processAll_unselected hp'.idle (hselect.symm.trans hselected)
      rw [show o.results = [] from hnone, show o'.results = [] from hnone',
        show o.db = start from hend, show o'.db = start from hend']
      exact ⟨.nil, rfl, .inl ⟨rfl, rfl⟩⟩
    | ok selected =>
      obtain ⟨-, hends⟩ := hp.endsAsAlone hstart hselected (hnodup _ hselected)
      obtain ⟨-, hends'⟩ := hp'.endsAsAlone hstart (hselect.symm.trans hselected)
        (hnodup _ hselected)
      exact hends.agree htuned hservice hfaults hends' id
  · obtain ⟨hok, hends⟩ := hp.endsAsAlone hstart hselected (hnodup _ hselected)
    obtain ⟨hok', -⟩ := hp'.endsAsAlone hstart (hselect.symm.trans hselected) (hnodup _ hselected)
    refine ⟨hok, hok', fun repository hmem => hends.length_resultsFor hmem,
      fun hone results after hsession id => ?_⟩
    have hone' (repository : Repository) (hmem : repository ∈ selected) :
        OneHead env'.service p'.config repository.context (cutoff mode repository) :=
      hservice ▸ htuned.oneHead (hone repository hmem)
    exact hends.agree htuned hservice hfaults
      (hsession.endsAsAlone hstart hp'.cache (hnodup _ hselected) hone') id
  · have hfailed' : synchronize env.faults p'.config.syncChunkSize repo.id now.time changes db =
        .error cause := (synchronize_congr env.faults _ _).trans hfailed
    exact ⟨hfailed', fun _ _ _ _ => finishPass_db_of_error env.faults p'.config hfailed'⟩

end Sessions

/-! ### Two sessions over two repositories -/

/-- The first repository of the sample database. -/
def firstSelected : Repository :=
  { id := 1, owner := "acme", name := "widgets", isActive := true, pollingInterval := 15
    priority := 0, lastPolledAt := none }

/-- The second one. -/
def secondSelected : Repository := { firstSelected with id := 2, name := "gadgets" }

theorem select_twoRepositories :
    selectRepositories twoRepositories {} (some [1, 2]) .full .epoch =
      .ok [firstSelected, secondSelected] := rfl

/-- The smallest pieces, one after the other. -/
def smallestPieces : Configuration :=
  { maxConcurrentRepos := 1, maxConcurrentApiCalls := 1, maxConcurrentCheckDiscoveries := 1
    batchSize := 1, syncChunkSize := 1 }

/-- What a session meets whose passes take effect in the order of its selection. -/
def forwards : Surroundings := { service := sampleService false, clock := fun _ => sampleMoment }

/-- What a later session meets whose passes take effect in the other order. -/
def backwards : Surroundings :=
  { service := sampleService false, clock := fun _ => laterMoment, order := List.reverse
    rearranges := List.reverse_perm }

/-- The sample repositories are passed over with the smallest pieces, with the default settings in
the other order, and by two passes that have both read the database at the start. -/
theorem tuning_keeps_outcome_sample :
    let p : Processor := { config := smallestPieces, cache := sampleCache }
    let p' : Processor := { config := {}, cache := sampleCache }
    let o := p.processAll forwards twoRepositories (some [1, 2]) .full
    let o' := p'.processAll backwards twoRepositories (some [1, 2]) .full
    (resultsFor 2 o.results).map (·.success) = [true] ∧
      (∀ id, SessionsAgree forwards backwards twoRepositories id o.results o'.results o.db o'.db) ∧
      ∃ results after,
        SessionEnds backwards {} .full [firstSelected, secondSelected] sampleCache twoRepositories
          results after ∧
        ∀ id, SessionsAgree forwards backwards twoRepositories id o.results results o.db after := by
  intro p p' o o'
  have hp : Undisturbed p forwards := ⟨rfl, rfl, rfl, rfl, fun _ _ => rfl⟩
  have hp' : Undisturbed p' backwards := ⟨rfl, rfl, rfl, rfl, fun _ _ => rfl⟩
  have hnodup : ∀ selected, selectRepositories twoRepositories {} (some [1, 2]) .full .epoch =
      .ok selected → (selected.map (·.id)).Nodup := by
    intro selected h
    obtain rfl := Except.ok.inj (select_twoRepositories.symm.trans h)
    decide
  have hone : ∀ repository ∈ [firstSelected, secondSelected],
      OneHead forwards.service p.config repository.context (cutoff .full repository) := by
    unfold OneHead
    decide +kernel
  obtain ⟨hagree, hsessions, -⟩ := tuning_keeps_outcome hp hp' rfl rfl rfl
    linked_twoRepositories rfl hnodup
  obtain ⟨-, -, -, hoverlapping⟩ := hsessions _ select_twoRepositories
  have hnone : BatchPassed backwards p'.config .full
      (PassedOn backwards p'.config .full [firstSelected, secondSelected] sampleCache)
      twoRepositories [] [] [twoRepositories] twoRepositories := .nil
  have hsecond := hnone.concat secondSelected 0 { reading := 0, schedule := [(0, 1)] } .first
    (List.mem_singleton_self _)
  have hboth := hsecond.concat firstSelected 1 { reading := 0 } .first List.mem_cons_self
  have hends := hboth.sessionEnds (.swap _ _ []) (by simp [p', chunks]) 0
  exact ⟨by decide +kernel, hagree, _, _, hends, hoverlapping hone _ _ hends⟩

/-! ### A push between two pages, and a limit that is too large -/

/-- The sample pull request after a push. -/
def pushedPull : Json :=
  .object [("number", .nat 1), ("title", .str "Add a reader"), ("state", .str "open"),
    ("base", .object [("ref", .str "main"), ("sha", .str "b0")]),
    ("head", .object [("ref", .str "reader"), ("sha", .str "h1")]),
    ("html_url", .str "https://example.org/1"), ("created_at", .str "2024-03-01T00:00:00Z"),
    ("updated_at", .str "2024-03-02T00:00:00Z")]

/-- A service whose listing shows the pull request once more after a push. The new head commit has
no check run yet. -/
def pushedService : GitHub.Service :=
  { pulls := fun q =>
      .ok { items := [if q.page = 1 then samplePull else pushedPull], hasNext := q.page = 1 }
    checks := fun q =>
      let runs := if q.sha = "h0" then [sampleCheck] else []
      .ok (.object [("total_count", .nat runs.length), ("check_runs", .arr runs)]) }

/-- What a session meets with that service. -/
def pushedSurroundings : Surroundings :=
  { service := pushedService, clock := fun _ => sampleMoment }

/-- The result of a trial pass over the first repository, whose lookups overlap. -/
def pushedResult (config : Configuration) (schedule : List (Nat × Nat)) : RepositoryResult :=
  (overlappingPass pushedSurroundings config .dryRun firstSelected 0 { reading := 0, schedule }
    sampleCache twoRepositories twoRepositories).1

theorem exists_sessionEnds_pushed (config : Configuration) (schedule : List (Nat × Nat)) :
    ∃ after, SessionEnds pushedSurroundings config .dryRun [firstSelected] sampleCache
      twoRepositories [pushedResult config schedule] after := by
  have hnone : BatchPassed pushedSurroundings config .dryRun
      (PassedOn pushedSurroundings config .dryRun [firstSelected] sampleCache)
      twoRepositories [] [] [twoRepositories] twoRepositories := .nil
  have hfirst := hnone.concat firstSelected 0 { reading := 0, schedule } .first
    (List.mem_singleton_self _)
  exact ⟨_, hfirst.sessionEnds (.refl _) (by simp [chunks]) 0⟩

/-- Settings that are all accepted, and differ in one limit only, need not lead to the same. Lookups
side by side may end in another order than lookups one after the other: when a pull request is
discovered with two head commits, the check runs of the other one are reported. And with a limit
that is too large there is no processor. -/
theorem not_forall_tuned_agree :
    let narrow : Configuration := { maxConcurrentCheckDiscoveries := 1 }
    let tooWide : Configuration := { maxConcurrentCheckDiscoveries := largestLimit + 1 }
    (({} : Configuration).validate = .ok () ∧ narrow.validate = .ok () ∧
        tooWide.validate = .ok ()) ∧
      (Configuration.TunedAs {} narrow ∧ Configuration.TunedAs {} tooWide) ∧
      (∃ results results' after after',
        SessionEnds pushedSurroundings {} .dryRun [firstSelected] sampleCache twoRepositories
            results after ∧
          SessionEnds pushedSurroundings narrow .dryRun [firstSelected] sampleCache
            twoRepositories results' after' ∧
          ¬ SessionsAgree pushedSurroundings pushedSurroundings twoRepositories 1 results results'
            after after') ∧
      (∃ p, Processor.create {} = .ok p) ∧ ¬ ∃ p, Processor.create tooWide = .ok p := by
  intro narrow tooWide
  obtain ⟨after, hends⟩ := exists_sessionEnds_pushed {} [(1, 0), (1, 0)]
  obtain ⟨after', hends'⟩ := exists_sessionEnds_pushed narrow []
  refine ⟨⟨rfl, rfl, rfl⟩, ⟨rfl, rfl⟩, ⟨_, _, _, _, hends, hends', fun hagree => ?_⟩, ⟨_, rfl⟩,
    fun ⟨p, hcreated⟩ => nomatch hcreated⟩
  have hcount (r r' : RepositoryResult) (h : r.Agrees r') :
      r.checksDiscovered = r'.checksDiscovered :=
    (congrArg RepositoryResult.checksDiscovered h.bare :)
  have hcounts :
      (resultsFor 1 [pushedResult {} [(1, 0), (1, 0)]]).map (·.checksDiscovered) =
        (resultsFor 1 [pushedResult narrow []]).map (·.checksDiscovered) :=
    map_eq_map_of_forall₂ (hagree.results.imp hcount)
  -- the head commit without check runs is looked up last when lookups are made in order
  have hwide :
      (resultsFor 1 [pushedResult {} [(1, 0), (1, 0)]]).map (·.checksDiscovered) = [1] := by
    decide +kernel
  have hnarrow : (resultsFor 1 [pushedResult narrow []]).map (·.checksDiscovered) = [0] := by
    decide +kernel
  rw [hwide, hnarrow] at hcounts
  cases hcounts

end PullWatch
