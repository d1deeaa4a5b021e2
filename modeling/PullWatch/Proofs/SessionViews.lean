import PullWatch.Proofs.PassesAbreast
import PullWatch.Proofs.Sessions

/-!
# Sessions that visit each repository once

A session that selects no repository twice, and that neither a shutdown nor a failure ends early,
visits every selected repository once. When it does, the cache holds nothing of the repository if it
was empty at the beginning, and the database still holds of it what it held at the beginning: the
visits before were visits to others.

What "holds of it" means is a view of the database that passes over other repositories leave alone,
as long as a rule holds that passes keep. Whatever the view, the visits of a session can be told one
by one, and so can what a session makes of each repository.

## Main definitions

* `SessionView`: a rule for databases, and a view of them that passes over other repositories spare.
* `SessionView.Visited`: the result of a pass over a repository that no other pass has touched.
* `SessionView.Visits`: a session has visited some repositories.
* `polledIds`: the repositories whose polls are recorded.
* `Outcome.results`: the results that a session leaves behind.

## Main results

* `SessionView.Visits.concat`: one more visit.
* `SessionView.processAll_visits`: a session visits the repositories that it selects.
* `processAll_unselected`: a session that selects nothing.
-/

namespace PullWatch

open Step

/-! ### Recorded polls -/

theorem Database.poll_of_markPolled_eq_error {db : Database} {id : Int} {time : Instant}
    {e : StoreError} (h : db.markPolled id time = .error e) : db.poll time id = db := by
  rw [markPolled, modifyRepository, Table.modify?_eq] at h
  split_ifs at h with hid
  exact poll_of_hasId_eq_false (by simpa using hid)

/-- The ids of the polls that no fault strikes. -/
def unstruck (faults : Faults) (polls : List (Int × Nat)) : List Int :=
  (polls.filter fun poll => (faults.mark poll.1 poll.2).isNone).map (·.1)

theorem unstruck_append (faults : Faults) (polls later : List (Int × Nat)) :
    unstruck faults (polls ++ later) = unstruck faults polls ++ unstruck faults later := by
  rw [unstruck, List.filter_append, List.map_append]
  rfl

/-- Polls of a repository may be recorded several times; one that no fault strikes is enough. -/
theorem mem_unstruck {faults : Faults} {ids : List Int} {id : Int} :
    id ∈ unstruck faults (occurrences [] ids) ↔ ∃ n < ids.count id, faults.mark id n = none := by
  simp [unstruck, mem_occurrences, and_comm]

/-- The repositories whose polls a session records. -/
def polledIds (faults : Faults) (mode : Mode) (results : List RepositoryResult) : List Int :=
  if mode.isDryRun then []
  else unstruck faults (occurrences [] ((results.filter (·.success)).map (·.repositoryId)))

/-- A poll is recorded for a repository once for each of its successful results, unless nothing is
to be written or a fault strikes. -/
theorem mem_polledIds {faults : Faults} {mode : Mode} {results : List RepositoryResult} {id : Int} :
    id ∈ polledIds faults mode results ↔
      mode.isDryRun = false ∧
        ∃ n < ((results.filter (·.success)).map (·.repositoryId)).count id,
          faults.mark id n = none := by
  rw [polledIds]
  cases mode.isDryRun <;> simp [mem_unstruck]

variable {env : Surroundings} {config : Configuration} {mode : Mode} {start : Database} {α : Type}

/-! ### Visits -/

/-- The results for a repository. -/
def resultsFor (id : Int) (results : List RepositoryResult) : List RepositoryResult :=
  results.filter fun result => result.repositoryId = id

theorem resultsFor_append (id : Int) (results later : List RepositoryResult) :
    resultsFor id (results ++ later) = resultsFor id results ++ resultsFor id later :=
  List.filter_append _ _

theorem resultsFor_singleton (id : Int) (result : RepositoryResult) :
    resultsFor id [result] = if result.repositoryId = id then [result] else [] := by
  simp only [resultsFor, List.filter_singleton, Bool.cond_decide]

/-- A rule for databases and a view of what they hold of each repository. A pass that finds nothing
of its repository in the cache keeps the rule and leaves what is viewed of other repositories. -/
structure SessionView (env : Surroundings) (config : Configuration) (mode : Mode) (α : Type) where
  rule : Database → Prop
  view : Database → Int → α
  spares : ∀ (now : Moment) (repository : Repository) (db : Database) (cache : Cache), rule db →
    (∀ e ∈ cache.entries, e.repositoryId ≠ repository.id) →
      let pass := runPass env.service config env.faults now repository.context
        (cutoff mode repository) mode.isDryRun db cache
      rule pass.db ∧ ∀ id, id ≠ repository.id → view pass.db id = view db id

namespace SessionView

/-- A pass over a repository, made when the rule holds, the database shows of the repository what it
showed at the start, and the cache holds nothing of it, has the result and leaves what is seen. -/
def Visited (V : SessionView env config mode α) (start : Database) (repository : Repository)
    (result : RepositoryResult) (seen : α) : Prop :=
  ∃ now before cache,
    V.rule before ∧ V.view before repository.id = V.view start repository.id ∧
      (∀ e ∈ cache.entries, e.repositoryId ≠ repository.id) ∧
      let pass := runPass env.service config env.faults now repository.context
        (cutoff mode repository) mode.isDryRun before cache
      pass.result = result ∧ V.view pass.db repository.id = seen

/-- The session has visited some repositories, each once, and no others. -/
structure Visits (V : SessionView env config mode α) (start : Database) (done : List Repository)
    (r : Run) : Prop where
  mode_eq : r.session.mode = mode
  rule : V.rule r.db
  cache : ∀ e ∈ r.cache.entries, e.repositoryId ∈ done.map (·.id)
  visited : ∀ repository ∈ done, ∃ result, resultsFor repository.id r.results = [result] ∧
    V.Visited start repository result (V.view r.db repository.id)
  others : ∀ id ∉ done.map (·.id),
    resultsFor id r.results = [] ∧ V.view r.db id = V.view start id

variable {V : SessionView env config mode α}

namespace Visits

variable {done : List Repository} {r : Run}

/-- The order of the visits does not matter. -/
theorem of_perm {done' : List Repository} (h : V.Visits start done r)
    (hperm : done.Perm done') : V.Visits start done' r where
  mode_eq := h.mode_eq
  rule := h.rule
  cache e he := (hperm.map _).subset (h.cache e he)
  visited repository hmem := h.visited repository (hperm.mem_iff.2 hmem)
  others id hid := h.others id fun hmem => hid ((hperm.map _).subset hmem)

theorem stable : Stable (V.Visits start done) where
  read _ h := { h with }
  observe _ _ _ h hmode := { h with mode_eq := hmode.trans h.mode_eq }

/-- One more visit. -/
theorem concat (h : V.Visits start done r) {repository : Repository}
    (hnew : repository.id ∉ done.map (·.id)) (now : Moment) :
    V.Visits start (done ++ [repository])
      (r.addPass (runPass env.service config env.faults now repository.context
        (cutoff mode repository) mode.isDryRun r.db r.cache)) := by
  have hcache : ∀ e ∈ r.cache.entries, e.repositoryId ≠ repository.id := by
    rintro e he hid
    exact hnew (hid ▸ h.cache e he)
  set pass := runPass env.service config env.faults now repository.context
    (cutoff mode repository) mode.isDryRun r.db r.cache with hpass
  obtain ⟨hrule, hspared⟩ := V.spares now repository r.db r.cache h.rule hcache
  have hid : pass.result.repositoryId = repository.id := by
    rw [hpass, runPass_eq]
    exact PassPlan.across_repositoryId
      ⟨env.service, now, repository.context, cutoff mode repository⟩ r.db r.db r.cache
  have hresults (id : Int) : resultsFor id (r.results ++ [pass.result]) =
      resultsFor id r.results ++ if repository.id = id then [pass.result] else [] := by
    rw [resultsFor_append, resultsFor_singleton, hid]
  have hids : (done ++ [repository]).map (·.id) = done.map (·.id) ++ [repository.id] :=
    List.map_append
  refine
    { mode_eq := h.mode_eq, rule := hrule
      cache := fun e he => ?_, visited := fun other hother => ?_, others := fun id hother => ?_ }
  · -- what the pass has not stored was kept by the visits before
    rw [hids, List.mem_append, List.mem_singleton]
    by_cases hown : e.repositoryId = repository.id
    · exact .inr hown
    · exact .inl (h.cache e (mem_of_mem_runPass he hown))
  · rcases List.mem_append.1 hother with hother | hother
    · -- an earlier visit was to another repository, of which this pass leaves what is viewed
      have hne : repository.id ≠ other.id := fun hid =>
        hnew (hid ▸ List.mem_map_of_mem hother)
      obtain ⟨result, hresult, hvisited⟩ := h.visited other hother
      refine ⟨result, ?_, ?_⟩
      · exact (hresults other.id).trans (by rw [hresult, if_neg hne, List.append_nil])
      · exact (hspared other.id hne.symm).symm ▸ hvisited
    · obtain rfl := List.mem_singleton.1 hother
      obtain ⟨hnone, hview⟩ := h.others other.id hnew
      refine ⟨pass.result, ?_, now, r.db, r.cache, h.rule, hview, hcache, rfl, rfl⟩
      exact (hresults other.id).trans (by rw [hnone, if_pos rfl, List.nil_append])
  · rw [hids, List.mem_append, List.mem_singleton, not_or] at hother
    obtain ⟨hnone, hview⟩ := h.others id hother.1
    refine ⟨?_, (hspared id hother.2).trans hview⟩
    exact (hresults id).trans (by rw [hnone, if_neg (Ne.symm hother.2), List.append_nil])

end Visits

end SessionView

/-! ### The visits of a session -/

/-- A property that does not depend on the number of readings. -/
theorem Step.ensures_reading {P E : Run → Prop}
    (h : ∀ r, P r → P { r with readings := r.readings + 1 }) :
    Ensures P (now env) (fun _ => P) E := h

namespace SessionView

variable {V : SessionView env config mode α}

/-- The session has visited some repositories and is in a phase. -/
structure VisitsIn (V : SessionView env config mode α) (start : Database) (phase : Phase)
    (done : List Repository) (r : Run) : Prop extends V.Visits start done r where
  phase_eq : r.session.phase = phase

namespace VisitsIn

variable {done : List Repository} {phase next : Phase} {E : Run → Prop}

theorem ensures_now :
    Ensures (V.VisitsIn start phase done) (now env)
      (fun _ => V.VisitsIn start phase done) E :=
  ensures_reading fun _ h => { h with }

theorem ensures_publish :
    Ensures (V.VisitsIn start phase done) publish
      (fun _ => V.VisitsIn start phase done) E :=
  ensures_modify fun _ h => { h with }

theorem ensures_enter (hmove : phase.mayMoveTo next = true) :
    Ensures (V.VisitsIn start phase done) (enter env next)
      (fun _ => V.VisitsIn start next done) E := by
  refine ensures_bind ensures_now fun moment => ensures_get fun r h => ?_
  rw [Session.enter?, h.phase_eq, if_pos hmove]
  refine ensures_set fun _ _ => ⟨Visits.stable.observe r _ r.trace h.toVisits rfl, rfl⟩

theorem ensures_checkTime (moment : Moment) (isReported : Bool) :
    Ensures (V.VisitsIn start phase done) (checkTime config moment isReported)
      (fun _ => V.VisitsIn start phase done) E := by
  refine ensures_get fun r h => ?_
  split_ifs
  · refine ensures_bind (ensures_set fun _ _ => ?_) fun _ => ensures_pure fun _ hs => hs
    exact { h with }
  · exact ensures_pure fun s hs => hs ▸ h

theorem ensures_passOver {repository : Repository} (hnew : repository.id ∉ done.map (·.id)) :
    Ensures (V.VisitsIn start phase done) (passOver env config repository)
      (fun _ => V.VisitsIn start phase (done ++ [repository])) E := by
  intro r h
  have hvisits := (Visits.stable.read r h.toVisits).concat hnew (env.clock r.readings)
  have hpass : runPass env.service config env.faults (env.clock r.readings) repository.context
        (cutoff r.session.mode repository) r.session.mode.isDryRun r.db r.cache =
      runPass env.service config env.faults (env.clock r.readings) repository.context
        (cutoff mode repository) mode.isDryRun r.db r.cache := by
    rw [h.mode_eq]
  exact ⟨hpass ▸ hvisits, h.phase_eq⟩

/-- Passes over repositories that were not visited before, one after the other. -/
theorem ensures_passes (batch : List Repository) (hnew : ((done ++ batch).map (·.id)).Nodup) :
    Ensures (V.VisitsIn start phase done) (batch.mapM (passOver env config))
      (fun _ => V.VisitsIn start phase (done ++ batch)) E := by
  induction batch generalizing done with
  | nil =>
    rw [List.append_nil]
    exact ensures_pure fun _ h => h
  | cons repository rest ih =>
    rw [List.append_cons] at hnew ⊢
    have hfirst : ((done ++ [repository]).map (·.id)).Nodup :=
      hnew.sublist ((List.sublist_append_left _ _).map _)
    rw [List.map_append, List.map_singleton, List.nodup_append'] at hfirst
    have hnotin : repository.id ∉ done.map (·.id) := fun hmem =>
      hfirst.2.2 hmem (List.mem_singleton_self _)
    rw [List.mapM_cons]
    exact ensures_bind (ensures_passOver hnotin) fun _ =>
      ensures_bind (ih hnew) fun _ => ensures_pure fun _ h => h

theorem phase_foldl_record (results : List RepositoryResult) (session : Session) :
    (results.foldl Session.record session).phase = session.phase := by
  induction results generalizing session with
  | nil => rfl
  | cons result results ih => rw [List.foldl_cons, ih, Session.record]

theorem ensures_runBatch {batch : List Repository} (hnew : ((done ++ batch).map (·.id)).Nodup) :
    Ensures (V.VisitsIn start phase done) (runBatch env config batch)
      (fun _ => V.VisitsIn start phase (done ++ batch)) E := by
  have hperm : (done ++ env.order batch).Perm (done ++ batch) :=
    (env.rearranges batch).append_left _
  have hordered : ((done ++ env.order batch).map (·.id)).Nodup := (hperm.map _).nodup_iff.2 hnew
  have halone : passesMeet config (env.order batch) = false := by
    have hnodup : ((env.order batch).map (·.id)).Nodup :=
      hordered.sublist ((List.sublist_append_right _ _).map _)
    simp [passesMeet, hnodup]
  rw [runBatch, passOverAll, if_neg (by rw [halone]; exact Bool.false_ne_true)]
  refine ensures_bind (ensures_passes _ hordered) fun results =>
    ensures_bind (ensures_modify fun r h => ?_) fun _ => ensures_pure fun _ h => h
  exact
    { Visits.stable.observe r _ r.trace (h.toVisits.of_perm hperm)
        (SessionBounds.mode_foldl_record results r.session) with
      phase_eq := (phase_foldl_record results r.session).trans h.phase_eq }

/-- Without a shutdown, and if failures do not end it, a session visits all its batches. -/
theorem ensures_runBatches (hstop : config.stopOnFirstError = false)
    (hshutdown : ∀ m n, env.isShutdown m n = false) {batches : List (List Repository)}
    (hnew : ((done ++ batches.flatten).map (·.id)).Nodup) (isReported : Bool) :
    Ensures (V.VisitsIn start phase done)
      (runBatches env config false batches isReported)
      (fun _ => V.VisitsIn start phase (done ++ batches.flatten)) E := by
  induction batches generalizing done isReported with
  | nil =>
    rw [List.flatten_nil, List.append_nil]
    exact ensures_pure fun _ h => h
  | cons batch rest ih =>
    rw [List.flatten_cons, ← List.append_assoc] at hnew ⊢
    have hbatch : ((done ++ batch).map (·.id)).Nodup :=
      hnew.sublist ((List.sublist_append_left _ _).map _)
    rw [runBatches]
    refine ensures_get fun r h => ?_
    rw [hshutdown, Bool.or_false, if_neg Bool.false_ne_true]
    refine (ensures_bind (ensures_runBatch hbatch) fun results => ?_).mono
      (fun s hs => hs ▸ h) (fun _ _ hs => hs) fun _ hs => hs
    refine ensures_bind ensures_now fun moment =>
      ensures_bind (ensures_checkTime _ _) fun isReported =>
        ensures_bind ensures_publish fun _ => ?_
    rw [hstop]
    split
    · exact ih hnew _
    · exact ih hnew _

end VisitsIn

end SessionView

/-! ### The end of a session -/

/-- The state has the database and the results, and its session is in the phase. -/
structure Stands (db : Database) (results : List RepositoryResult) (phase : Phase) (r : Run) :
    Prop where
  db_eq : r.db = db
  results_eq : r.results = results
  phase_eq : r.session.phase = phase

section Polls

variable {db : Database} {results : List RepositoryResult} {phase : Phase} {E : Run → Prop}

theorem ensures_markPolled (time : Instant) (poll : Int × Nat) :
    Ensures (Stands db results phase) (markPolled env time poll)
      (fun _ => Stands (db.pollAll (unstruck env.faults [poll]) time) results phase) E := by
  obtain ⟨id, times⟩ := poll
  refine ensures_get fun r h => ?_
  obtain ⟨rfl, rfl, rfl⟩ := h
  rw [unstruck, List.filter_singleton]
  cases env.faults.mark id times with
  | some e => exact ensures_set fun _ _ => ⟨rfl, rfl, rfl⟩
  | none =>
    rw [Faults.strike]
    cases hmark : r.db.markPolled id time with
    | error e =>
      exact ensures_set fun _ _ => ⟨(Database.poll_of_markPolled_eq_error hmark).symm, rfl, rfl⟩
    | ok next =>
      obtain rfl := Database.markPolled_eq_ok hmark
      exact ensures_set fun _ _ => ⟨rfl, rfl, rfl⟩

theorem ensures_markAll (time : Instant) (polls : List (Int × Nat)) :
    Ensures (Stands db results phase) (polls.forM (markPolled env time))
      (fun _ => Stands (db.pollAll (unstruck env.faults polls) time) results phase) E := by
  induction polls generalizing db with
  | nil => exact ensures_pure fun _ h => h
  | cons poll polls ih =>
    rw [← List.singleton_append, unstruck_append, Database.pollAll_append]
    exact ensures_bind (ensures_markPolled time poll) fun _ => ih

end Polls

/-- Selection takes one reading of the clocks. A full session empties the cache. -/
theorem selectAll_run (ids : Option (List Int)) (r : Run) :
    (selectAll env ids).run r =
      match selectRepositories r.db env.faults ids r.session.mode (env.clock r.readings).time with
      | .error e => (.error e, { r with readings := r.readings + 1 })
      | .ok repositories =>
        (.ok repositories,
          { r with
            readings := r.readings + 1
            session := { r.session with totalRepositories := repositories.length }
            cache := if r.session.mode = Mode.full then r.cache.clear else r.cache }) := by
  simp only [selectAll, now, run_bind, run_get, run_set, run_pure]
  cases selectRepositories r.db env.faults ids r.session.mode (env.clock r.readings).time <;> rfl

namespace SessionView

variable {V : SessionView env config mode α}

/-- All visits of the session have been made, and the polls of those that succeeded are recorded
with one reading of the clocks. -/
def Concluded (V : SessionView env config mode α) (start : Database) (done : List Repository)
    (r : Run) : Prop :=
  ∃ before n, V.Visits start done before ∧ r.results = before.results ∧
    r.db = before.db.pollAll (polledIds env.faults mode before.results) (env.clock n).time

/-- The polls of a session that has made its visits. -/
theorem VisitsIn.ensures_recordPolls {done : List Repository} (hmode : mode.isDryRun = false)
    (E : Run → Prop) :
    Ensures (V.VisitsIn start .synchronization done)
      (do
        let moment ← Step.now env
        let r ← get
        (occurrences [] ((r.results.filter (·.success)).map (·.repositoryId))).forM
          (markPolled env moment.time))
      (fun _ r => V.Concluded start done r ∧ r.session.phase = .synchronization)
      E := by
  intro r h
  refine (ensures_markAll (env.clock r.readings).time _).mono (fun _ h => h) (fun _ s hs => ?_)
    (fun _ h => h) { r with readings := r.readings + 1 } ⟨rfl, rfl, rfl⟩
  refine ⟨⟨r, r.readings, h.toVisits, hs.results_eq, ?_⟩, hs.phase_eq.trans h.phase_eq⟩
  rw [polledIds, hmode, if_neg Bool.false_ne_true]
  exact hs.db_eq

/-- The session is about to select the repositories. -/
def Selecting (V : SessionView env config mode α) (start : Database) (ids : Option (List Int))
    (selected : List Repository) (r : Run) : Prop :=
  V.VisitsIn start .initialization [] r ∧
    selectRepositories r.db env.faults ids mode (env.clock r.readings).time = .ok selected

variable {selected : List Repository} {ids : Option (List Int)} {E : Run → Prop}

theorem ensures_selectAll :
    Ensures (V.Selecting start ids selected) (selectAll env ids)
      (fun repositories r => repositories = selected ∧
        V.VisitsIn start .initialization [] r) E := by
  rintro r ⟨h, hselect⟩
  rw [selectAll_run, h.mode_eq, hselect]
  refine ⟨rfl, { h with cache := ?_ }⟩
  split
  · exact List.forall_mem_nil _
  · exact h.cache

/-- A session visits what it has selected. -/
theorem runSession_concluded (hstop : config.stopOnFirstError = false)
    (hshutdown : ∀ m n, env.isShutdown m n = false) (hnodup : (selected.map (·.id)).Nodup) :
    Ensures (V.Selecting start ids selected) (runSession env config false ids)
      (fun _ r => V.Concluded start selected r ∧
        r.session.phase.mayMoveTo .cleanup = true) E := by
  refine ensures_bind ensures_selectAll fun repositories r hr => ?_
  obtain ⟨rfl, hr⟩ := hr
  refine (ensures_bind (VisitsIn.ensures_enter rfl) fun _ =>
    ensures_bind VisitsIn.ensures_publish fun _ => ?_) r hr
  refine ensures_bind (VisitsIn.ensures_runBatches hstop hshutdown ?_ false) fun _ => ?_
  · rwa [flatten_chunks, List.nil_append]
  rw [flatten_chunks, List.nil_append]
  refine ensures_bind (VisitsIn.ensures_enter rfl) fun _ =>
    ensures_bind VisitsIn.ensures_publish fun _ => ensures_get fun r hr => ?_
  rw [hr.mode_eq]
  cases hmode : mode.isDryRun with
  | false =>
    refine (ensures_bind (VisitsIn.ensures_enter rfl) fun _ => ensures_bind
      VisitsIn.ensures_publish fun _ => VisitsIn.ensures_recordPolls hmode E).mono
        (fun s hs => hs ▸ hr) (fun _ s hs => ⟨hs.1, ?_⟩) fun _ h => h
    rw [hs.2]
    rfl
  | true =>
    refine ensures_pure fun s hs => ?_
    obtain rfl := hs
    refine ⟨⟨s, s.readings, hr.toVisits, rfl, ?_⟩, ?_⟩
    · rw [polledIds, hmode, if_pos rfl, Database.pollAll_nil]
    · rw [hr.phase_eq]
      rfl

/-- A session whose visits are made ends with success. -/
theorem concludeSession_concluded {done : List Repository} :
    Ensures
      (fun r => V.Concluded start done r ∧
        r.session.phase.mayMoveTo .cleanup = true)
      (concludeSession env) (fun _ => V.Concluded start done) E := by
  refine ensures_bind (ensures_reading fun _ h => h) fun moment => ensures_bind
    (Q := fun _ r => V.Concluded start done r ∧ r.session.phase = .cleanup)
    (ensures_modify fun r h => ⟨h.1, ?_⟩) fun _ => ?_
  · rw [Session.enterIfAllowed, Session.enter?, if_pos h.2, Option.getD_some]
  · refine ensures_bind (ensures_reading fun _ h => h) fun moment => ensures_get fun r h => ?_
    have hcompleted : Phase.cleanup.mayMoveTo .completed = true := rfl
    rw [Session.enter?, h.2, if_pos hcompleted]
    exact ensures_set fun _ _ => h.1

end SessionView

/-! ### Sessions -/

/-- The results that a session leaves behind, also when it has failed. -/
def Outcome.results (o : Outcome Batch) : List RepositoryResult :=
  match o.result with
  | .ok batch => batch.results
  | .error e => (e.gathered?.map Batch.results).getD []

variable {p : Processor} {db : Database} {ids : Option (List Int)} {selected : List Repository}

/-- What a session that fails to select leaves behind. -/
theorem Processor.processAll_eq_of_unselected (hidle : p.isRunning = false) {e : ProcessorError}
    (hselect : selectRepositories db env.faults ids mode (env.clock 1).time = .error e) :
    let session := (recoverSession env e { p.firstRun env db mode with readings := 2 }).session
    p.processAll env db ids mode =
      { result := .error (.sessionFailed { session, results := [] } e)
        processor :=
          { p with
            isShutdown := p.isShutdown || env.isShutdown 0 4, isRunning := false, live := none }
        db, trace := [.published (Session.start mode (env.clock 0).time)], readings := 4 } := by
  have hfirst : (selectAll env ids).run (p.firstRun env db mode) =
      (.error e, { p.firstRun env db mode with readings := 2 }) := by
    rw [selectAll_run]
    simp only [firstRun, Session.start, hselect]
  rw [processAll_eq, hidle, if_neg Bool.false_ne_true, lastRun, runSession, run_bind, hfirst]
  rfl

/-- A session that fails to select visits nothing. -/
theorem Processor.processAll_unselected (hidle : p.isRunning = false) {e : ProcessorError}
    (hselect : selectRepositories db env.faults ids mode (env.clock 1).time = .error e) :
    let o := p.processAll env db ids mode
    o.results = [] ∧ o.db = db := by
  rw [processAll_eq_of_unselected hidle hselect]
  exact ⟨rfl, rfl⟩

/-- A session of an idle processor with an empty cache visits what it selects, records the polls and
ends with success. -/
theorem SessionView.processAll_visits (V : SessionView env p.config mode α)
    (hidle : p.isRunning = false) (hopen : p.isShutdown = false) (hcache : p.cache.entries = [])
    (hstop : p.config.stopOnFirstError = false) (hshutdown : ∀ m n, env.isShutdown m n = false)
    (hdb : V.rule db)
    (hselect : selectRepositories db env.faults ids mode (env.clock 1).time = .ok selected)
    (hnodup : (selected.map (·.id)).Nodup) :
    let o := p.processAll env db ids mode
    (∃ batch, o.result = .ok batch) ∧ ∃ before n,
      V.Visits db selected before ∧ o.results = before.results ∧
        o.db =
          before.db.pollAll (polledIds env.faults mode before.results) (env.clock n).time := by
  have hfirst : V.VisitsIn db .initialization [] (p.firstRun env db mode) :=
    { mode_eq := rfl, rule := hdb, phase_eq := rfl
      cache := by rw [Processor.firstRun, hcache]; exact List.forall_mem_nil _
      visited := List.forall_mem_nil _
      others := fun _ _ => ⟨rfl, rfl⟩ }
  have hsession := ensures_bind
    (runSession_concluded (E := fun _ => False) hstop hshutdown hnodup)
    (fun _ => concludeSession_concluded) (p.firstRun env db mode) ⟨hfirst, hselect⟩
  rw [run_bind] at hsession
  rw [Processor.processAll_eq, hidle, if_neg Bool.false_ne_true, Processor.lastRun, hopen]
  rcases hrun : (runSession env p.config false ids).run (p.firstRun env db mode) with ⟨e | _, r⟩
  · rw [hrun] at hsession
    exact hsession.elim
  · rw [hrun] at hsession
    simp only at hsession ⊢
    rcases hend : (concludeSession env).run r with ⟨e | _, last⟩
    · rw [hend] at hsession
      exact hsession.elim
    · rw [hend] at hsession
      exact ⟨⟨_, rfl⟩, hsession⟩

end PullWatch
