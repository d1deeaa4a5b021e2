import PullWatch.Proofs.BatchAccounts
import PullWatch.Proofs.Footprint

/-!
# What a session may write

A pass that is only a trial, or that fails, leaves the database as it is. Any other writes rows that
are at home in its repository, and no pass touches the table of repositories. So whatever a session
does, the rows of a repository have changed only if one of its passes has succeeded.

The table of repositories is written when a session ends with success and is no trial. Then every
repository with a successful result gets one common time, unless the database refuses to record its
poll each time that it should; every refusal is a warning.

## Main definitions

* `Leaves`: what passes leave alone.
* `succeededIds`: the repositories of successful results.

## Main results

* `Succession.leaves`: passes that ended one after the other.
* `processAll_footprint`: every session.
-/

namespace PullWatch

variable {env : Surroundings} {config : Configuration} {faults : Faults} {isTrial : Bool}
  {plans : PassPlan → Prop} {first : Cache} {start db : Database}

/-! ### Passes -/

namespace EndedPass

variable (e : EndedPass) (config : Configuration) (faults : Faults) (isTrial : Bool)

/-- A pass leaves the database as it is, unless it is no trial and succeeds: then it has written
what its detection found. -/
theorem db_eq_or_written :
    (e.pass config faults isTrial).db = e.found ∨
      isTrial = false ∧ (e.pass config faults isTrial).result.success = true ∧
        ∃ f n,
          (discover e.plan.service config e.plan.now e.plan.repo e.plan.since e.cache).1 = .ok f ∧
            synchronize faults config.syncChunkSize e.plan.repo.id e.plan.now.time
              (e.seen.changesFor e.plan.repo.id f) e.found =
                .ok (n, (e.pass config faults isTrial).db) := by
  have houtcome : PassOutcome e.plan.service config faults e.plan.now e.plan.repo e.plan.since
      isTrial e.seen e.found e.cache (e.pass config faults isTrial) := passOutcome_runPassAcross
  cases houtcome with
  | undiscovered _ _ _ hdb => exact .inl hdb
  | undetected _ _ _ _ hdb => exact .inl hdb
  | rolledBack _ _ _ _ _ _ _ _ hdb => exact .inl hdb
  | @completed f changes hdiscover hdetect _ hsuccess _ hdb =>
    obtain ⟨-, hdb⟩ | ⟨htrial, n, hwrite⟩ := hdb
    · exact .inl hdb
    · obtain ⟨-, rfl⟩ := detect_eq_ok_iff.1 (detect_never hdetect)
      exact .inr ⟨htrial, hsuccess, f, n, hdiscover, hwrite⟩

/-- A pass is confined to its repository, also when the database has changed since its detection.
-/
theorem confined (hseen : e.seen.Sound) (hfound : e.found.Sound)
    (hrows : e.seen.Extends e.found) :
    Database.Confined e.plan.repo.id e.found (e.pass config faults isTrial).db := by
  obtain hdb | ⟨-, -, f, n, -, hwrite⟩ := e.db_eq_or_written config faults isTrial
  · rw [hdb]
    exact .refl hfound
  · exact hfound.confined_store
      (hrows.concerns hseen hfound (hseen.concerns_changesFor f)) (synchronize_eq_ok.1 hwrite).1

theorem repositories_eq :
    (e.pass config faults isTrial).db.repositories = e.found.repositories := by
  obtain hdb | ⟨-, -, f, n, -, hwrite⟩ := e.db_eq_or_written config faults isTrial
  · exact congrArg _ hdb
  · exact Database.repositories_synchronize hwrite

end EndedPass

/-- What passes leave alone: the rules hold and every row has stayed, the repositories are as they
were, trials leave everything as it was, and so do failures the rows of their repositories. -/
structure Leaves (isTrial : Bool) (start : Database) (databases : List Database)
    (results : List RepositoryResult) (db : Database) : Prop where
  sound : db.Sound
  databases : ∀ d ∈ databases, d.Sound ∧ d.Extends db
  repositories : db.repositories = start.repositories
  trial : isTrial = true → db = start
  rows : ∀ id, (∀ result ∈ results, result.repositoryId = id → result.success = false) →
    db.rowsOf id = start.rowsOf id

/-- Passes that ended one after the other, whatever they have seen. -/
theorem Succession.leaves {ended : List EndedPass}
    (h : Succession config faults isTrial plans first start ended db) (hstart : start.Sound) :
    Leaves isTrial start (databasesOf config faults isTrial start ended)
      (resultsOf config faults isTrial ended) db := by
  induction h with
  | nil =>
    exact ⟨hstart, List.forall_mem_singleton.2 ⟨hstart, .refl start⟩, rfl, fun _ => rfl,
      fun _ _ => rfl⟩
  | @concat ended e _ hseen _ _ ih =>
    obtain ⟨hseenSound, hseenRows⟩ := ih.databases e.seen hseen
    have hpass : Database.Confined e.plan.repo.id e.found (e.pass config faults isTrial).db :=
      e.confined config faults isTrial hseenSound ih.sound hseenRows
    refine
      { sound := hpass.sound, databases := ?_
        repositories := (e.repositories_eq config faults isTrial).trans ih.repositories
        trial := fun htrial => ?_, rows := fun id hid => ?_ }
    · rw [databasesOf_append]
      refine List.forall_mem_append.2 ⟨fun d hd => ?_,
        List.forall_mem_singleton.2 ⟨hpass.sound, .refl _⟩⟩
      obtain ⟨hsound, hrows⟩ := ih.databases d hd
      exact ⟨hsound, hrows.trans hpass.rows⟩
    · obtain hdb | ⟨hwrites, -⟩ := e.db_eq_or_written config faults isTrial
      · exact hdb.trans (ih.trial htrial)
      · exact absurd (htrial.symm.trans hwrites) (by decide)
    · rw [resultsOf_append, List.forall_mem_append] at hid
      rw [← ih.rows id hid.1]
      have hlast := hid.2 _ (List.mem_singleton_self (e.pass config faults isTrial).result)
      obtain hdb | ⟨-, hsuccess, -⟩ := e.db_eq_or_written config faults isTrial
      · rw [hdb]
      · refine hpass.others id fun hsame => ?_
        rw [hlast (hsame.symm ▸ e.plan.across_repositoryId e.seen e.found e.cache)] at hsuccess
        exact Bool.false_ne_true hsuccess

/-! ### Batches -/

/-- All results of a series of batches are for repositories of the batches. -/
theorem Succession.repositoryId_mem {mode : Mode} {repositories : List Repository} {n : Nat}
    {ended : List EndedPass}
    (h : Succession config faults isTrial (env.Plans mode repositories n) first start ended db) :
    ∀ result ∈ resultsOf config faults isTrial ended,
      result.repositoryId ∈ repositories.map (·.id) := by
  induction h with
  | nil => exact List.forall_mem_nil _
  | @concat ended e _ _ hplan _ ih =>
    rw [resultsOf_append]
    refine List.forall_mem_append.2 ⟨ih, List.forall_mem_singleton.2 ?_⟩
    obtain ⟨reading, -, repository, hrepository, heq⟩ := hplan
    have hid : (e.pass config faults isTrial).result.repositoryId = e.plan.repo.id :=
      e.plan.across_repositoryId e.seen e.found e.cache
    rw [hid, heq]
    exact List.mem_map_of_mem hrepository

/-! ### Recorded polls -/

/-- The repositories of successful results. -/
def succeededIds (results : List RepositoryResult) : List Int :=
  (results.filter (·.success)).map (·.repositoryId)

/-- The row after a poll was recorded. -/
def RepositoryRow.polledAt (time : Instant) (row : RepositoryRow) : RepositoryRow :=
  { row with lastPolledAt := some time.rfc3339 }

namespace Database

theorem rowsOf_pollAll (db : Database) (ids : List Int) (time : Instant) :
    (db.pollAll ids time).rowsOf = db.rowsOf := by
  induction ids generalizing db with
  | nil => rfl
  | cons id ids ih => exact ih (db.poll time id)

/-- Recorded polls change the rows of the repositories that were polled, and no others. -/
theorem rows_pollAll (db : Database) (ids : List Int) (time : Instant) :
    (db.pollAll ids time).repositories.rows = db.repositories.rows.map fun r =>
      if r.1 ∈ ids then (r.1, r.2.polledAt time) else r := by
  induction ids generalizing db with
  | nil => simp
  | cons id ids ih =>
    have hpoll : (db.poll time id).repositories.rows = db.repositories.rows.map fun r =>
        if r.1 = id then (r.1, r.2.polledAt time) else r := rfl
    rw [show db.pollAll (id :: ids) time = (db.poll time id).pollAll ids time from rfl, ih, hpoll,
      List.map_map]
    refine List.map_congr_left fun r _ => ?_
    by_cases hid : r.1 = id
    · by_cases hids : r.1 ∈ ids <;> simp [hid, RepositoryRow.polledAt]
    · simp [hid]

end Database

namespace Run

variable {r : Run}

/-- Each poll that the database refuses to record has its warning. -/
theorem refusals_sublist_close (hmode : r.session.mode.isDryRun = false) :
    (refusals env.faults (occurrences [] (succeededIds r.results))).Sublist
      (r.close env).session.warnings := by
  obtain ⟨more, hwarnings, -⟩ :=
    ((settles_enter env .cleanup (r.finishWork env)).trans
      (settles_enter env .completed _)).warnings
  rw [close, hwarnings, finishWork_eq, if_neg (by rw [hmode]; exact Bool.false_ne_true)]
  obtain ⟨warnings, hsession, -, hrefused⟩ := (marked_recordPolls env
    ((r.enter env .changeDetection).publish.enter env .synchronization).publish).session_eq
  rw [hsession]
  exact (hrefused.trans (List.sublist_append_right _ _)).trans (List.sublist_append_left _ _)

end Run

/-! ### Sessions -/

/-- What the batches of a session leave alone. All results are for selected repositories. -/
theorem Processor.leaves_batches {p : Processor} {mode : Mode} {selected : List Repository}
    {last : Except ProcessorError Unit × Run} (hdb : db.Sound)
    {ended : List EndedPass}
    (h : BatchesRan env p.config p.isShutdown (chunks p.config.batchSize selected)
      (p.discovering env db mode selected) ended last) :
    (∃ databases, Leaves mode.isDryRun db databases last.2.results last.2.db) ∧
      ∀ result ∈ last.2.results, result.repositoryId ∈ selected.map (·.id) := by
  obtain ⟨hsuccession, -, hresults, -⟩ := h.succession
  have hsame : last.2.results = resultsOf p.config env.faults mode.isDryRun ended := hresults
  rw [flatten_chunks] at hsuccession
  rw [hsame]
  exact ⟨⟨_, hsuccession.leaves hdb⟩, hsuccession.repositoryId_mem⟩

/-- The rows of a repository that was not selected, or failed. -/
theorem Leaves.rowsOf_eq {databases : List Database} {results : List RepositoryResult}
    {selected : List Int} {id : Int} (h : Leaves isTrial start databases results db)
    (hresults : ∀ result ∈ results, result.repositoryId ∈ selected)
    (hid : id ∉ selected ∨
      ∀ result ∈ results, result.repositoryId = id → result.success = false) :
    db.rowsOf id = start.rowsOf id := by
  refine h.rows id fun result hresult heq => ?_
  obtain hnot | hall := hid
  · exact absurd (heq ▸ hresults result hresult) hnot
  · exact hall result hresult heq

/-- **What sessions may write.** A session that is only a trial leaves the database as it is. One
that ends with an error leaves the table of repositories as it is. One that ends with success and is
no trial records a poll for each successful result, whose repository has a row. A repository gets
the time of the session, which is common to all, if one of its polls was not refused, and no other
row is touched. Each poll that the database has refused has its warning.

The pull requests, check runs and history of a repository are what they were, row by row, unless it
was selected and has a successful result. -/
theorem processAll_footprint (p : Processor) (env : Surroundings) (db : Database) (hdb : db.Sound)
    (ids : Option (List Int)) (mode : Mode) :
    let o := p.processAll env db ids mode
    (mode.isDryRun = true → o.db = db) ∧
      (match o.result with
        | .error _ => o.db.repositories = db.repositories
        | .ok batch => mode.isDryRun = false →
          (∀ id ∈ succeededIds batch.results, db.repositories.hasId id = true) ∧
            (∃ k, o.db.repositories.rows = db.repositories.rows.map fun r : Int × RepositoryRow =>
              if ∃ n < (succeededIds batch.results).count r.1, env.faults.mark r.1 n = none then
                (r.1, r.2.polledAt (env.clock k).time)
              else r) ∧
            (refusals env.faults (occurrences [] (succeededIds batch.results))).Sublist
              batch.session.warnings) ∧
      ∀ id, (id ∉ (selectedBy env db ids mode).map (·.id) ∨
          ∀ result ∈ o.results, result.repositoryId = id → result.success = false) →
        o.db.rowsOf id = db.rowsOf id := by
  intro o
  by_cases hrunning : p.isRunning = true
  · have hbusy : o = { result := .error .alreadyRunning, processor := p, db } :=
      (Processor.processAll_eq ids).trans (if_pos hrunning)
    rw [hbusy]
    exact ⟨fun _ => rfl, rfl, fun _ _ => rfl⟩
  obtain ⟨_, last, hends, -, hresult, hlast, -⟩ :=
    Processor.processAll_ends (by simpa using hrunning) env db ids mode
  change o.result = _ at hresult
  change o.db = _ at hlast
  cases hends with
  | @unselected e hselect =>
    have hsame : o.db = db := hlast
    rw [hresult, hsame]
    exact ⟨fun _ => rfl, rfl, fun _ _ => rfl⟩
  | @aborted selected e ended r hselect hbatches =>
    obtain ⟨⟨databases, hleaves⟩, hids⟩ := Processor.leaves_batches hdb hbatches
    have hsame : o.db = r.db := hlast
    have hresults : o.results = r.results := by
      rw [Outcome.results, hresult]
      rfl
    rw [hresults, hresult, hsame, selectedBy_of_eq_ok hselect]
    exact ⟨hleaves.trial, hleaves.repositories, fun id hid => hleaves.rowsOf_eq hids hid⟩
  | @completed selected ended r hselect hbatches =>
    obtain ⟨⟨databases, hleaves⟩, hids⟩ := Processor.leaves_batches hdb hbatches
    have hmode : r.session.mode = mode := congrArg Course.mode hbatches.course_eq
    have hclose : o.db = r.db.pollAll (polledIds env.faults mode r.results)
        (env.clock (r.readings + 2)).time := by
      rw [← hmode]
      exact hlast.trans (r.db_close env)
    have hsettled : (r.close env).results = r.results := (r.settles_close env).results_eq
    have hresults : o.results = r.results := by
      rw [Outcome.results, hresult]
      exact hsettled
    rw [hresults, hresult, selectedBy_of_eq_ok hselect]
    refine ⟨fun htrial => ?_, fun hwrites => ?_, fun id hid => ?_⟩
    · rw [hclose, polledIds, if_pos htrial, Database.pollAll_nil]
      exact hleaves.trial htrial
    · have hpolled : ∀ id, id ∈ polledIds env.faults mode r.results ↔
          ∃ n < (succeededIds r.results).count id, env.faults.mark id n = none := fun id =>
        mem_polledIds.trans (and_iff_right hwrites)
      simp only [hsettled]
      refine ⟨fun id hid => ?_, ⟨r.readings + 2, ?_⟩, ?_⟩
      · obtain ⟨result, hresult, rfl⟩ := List.mem_map.1 hid
        obtain ⟨repository, hrepository, heq⟩ :=
          List.mem_map.1 (hids result (List.mem_filter.1 hresult).1)
        obtain ⟨row, hrow, -⟩ := holds_of_selectRepositories hselect repository hrepository
        exact Table.hasId_iff.2 ⟨row, heq ▸ hrow⟩
      · rw [hclose, Database.rows_pollAll, hleaves.repositories]
        simp only [hpolled]
      · exact Run.refusals_sublist_close (by rw [hmode, hwrites])
    · rw [hclose, Database.rowsOf_pollAll]
      exact hleaves.rowsOf_eq hids hid

/-- The surroundings of a session whose database refuses the first poll of each repository. -/
def stutteringSurroundings : Surroundings :=
  { sampleSurroundings with
    faults := { mark := fun _ times => if times = 0 then some (.task "injected") else none } }

/-- The only repository of the small database is selected twice, and the database refuses to record
its first poll. The second gives it the time of a reading, and there is a warning about the first.
-/
theorem processAll_footprint_sample :
    let o := sampleProcessor.processAll stutteringSurroundings sampleDatabase (some [1, 1])
      .incremental
    sampleDatabase.Sound ∧ ∃ batch, o.result = .ok batch ∧
      (∃ k, o.db.repositories.rows =
        sampleDatabase.repositories.rows.map fun r => (r.1, r.2.polledAt (sampleClock k).time)) ∧
      pollWarning (.task "injected") 1 ∈ batch.session.warnings := by
  intro o
  have hsound : sampleDatabase.Sound := reachable_sample.sound
  have hsucceeded : o.result.toOption.map (fun batch => succeededIds batch.results) =
      some [1, 1] := by decide +kernel
  obtain ⟨batch, hbatch, hids⟩ := Option.map_eq_some_iff.1 hsucceeded
  have hresult : o.result = .ok batch := Outcome.toOption_eq_some.1 hbatch
  obtain ⟨-, hended, -⟩ := processAll_footprint sampleProcessor stutteringSurroundings
    sampleDatabase hsound (some [1, 1]) .incremental
  rw [show (sampleProcessor.processAll stutteringSurroundings sampleDatabase (some [1, 1])
    .incremental).result = .ok batch from hresult] at hended
  simp only [hids] at hended
  obtain ⟨-, ⟨k, hrows⟩, hwarned⟩ := hended rfl
  refine ⟨hsound, batch, hresult, ⟨k, hrows.trans (List.map_congr_left fun r hr => ?_)⟩,
    hwarned.subset List.mem_cons_self⟩
  rw [List.mem_singleton.1 hr]
  rfl

/-- The surroundings of a session whose database refuses to record polls. -/
def struckSurroundings : Surroundings :=
  { sampleSurroundings with faults := { mark := fun _ _ => some (.task "injected") } }

/-- A database that refuses to record a poll is enough to leave a repository with a successful
result without a time. -/
theorem not_forall_successful_polled :
    ¬ ∀ (p : Processor) (env : Surroundings) (db : Database) (ids : Option (List Int)) (mode : Mode)
      (batch : Batch), Reachable db → (p.processAll env db ids mode).result = .ok batch →
        mode.isDryRun = false → ∃ time : Instant,
          (p.processAll env db ids mode).db.repositories.rows =
            db.repositories.rows.map fun r =>
              if r.1 ∈ succeededIds batch.results then (r.1, r.2.polledAt time) else r := by
  intro h
  set o := sampleProcessor.processAll struckSurroundings sampleDatabase none .incremental with ho
  have hsucceeded : o.result.toOption.map (fun batch => succeededIds batch.results) = some [1] := by
    decide +kernel
  have hrows : o.db.repositories.rows.map (·.2.lastPolledAt) = [none] := by decide +kernel
  obtain ⟨batch, hbatch, hids⟩ := Option.map_eq_some_iff.1 hsucceeded
  obtain ⟨time, htime⟩ := h sampleProcessor struckSurroundings sampleDatabase none .incremental
    batch reachable_sample (Outcome.toOption_eq_some.1 hbatch) rfl
  rw [← ho, hids] at htime
  rw [htime] at hrows
  exact nomatch hrows

end PullWatch
