import PullWatch.Proofs.SessionEndings

/-!
# The passes of a session

The results of a session are those of its passes, in the order in which the passes end. They lead
from the database that the session is given to the one in which its polls are recorded, and the
first of them finds the cache that the session begins with. Whatever the passes keep of the database
and of the cache, each of them has found it. The polls are recorded with one reading of the clocks,
which comes after the readings of all passes.

## Main definitions

* `Surroundings.PlansIn`: the passes that a session may plan.
* `Processor.firstCache`: the cache that a session begins with.
* `SessionBounds.Finds`: a pass has found what the passes of a session keep.

## Main results

* `Processor.results_eq_passes`: the results of a session.
* `Processor.batches_succession`: the passes of a session ended one after the other.
* `BatchesRan.finds`: what the passes of a series of batches find.
* `Processor.processAll_polls`: what a session records as polled, and when.
-/

namespace PullWatch

variable {env : Surroundings} {config : Configuration} {mode : Mode}

/-! ### What passes find -/

/-- The pass is planned by a session of a mode over a repository of its database, with one of the
first readings. -/
def Surroundings.PlansIn (env : Surroundings) (mode : Mode) (db : Database) (n : Nat)
    (plan : PassPlan) : Prop :=
  ∃ reading < n, ∃ repository, db.Holds repository ∧ plan = env.plan mode reading repository

theorem Surroundings.PlansIn.later {db : Database} {n m : Nat} {plan : PassPlan}
    (h : env.PlansIn mode db n plan) (hle : n ≤ m) : env.PlansIn mode db m plan :=
  have ⟨reading, hreading, hplan⟩ := h
  ⟨reading, hreading.trans_le hle, hplan⟩

/-- The pass was planned with one of the first readings over a repository of a database within the
bounds, and the databases and the cache that it found are within them. -/
structure SessionBounds.Finds (B : SessionBounds env config mode) (n : Nat) (e : EndedPass) :
    Prop where
  plan : B.Plans n e.plan
  seen : B.database e.seen
  found : B.database e.found
  cache : B.cache n e.cache

theorem SessionBounds.Finds.later {B : SessionBounds env config mode} {n m : Nat} {e : EndedPass}
    (h : B.Finds n e) (hle : n ≤ m) : B.Finds m e :=
  have ⟨reading, hreading, hplan⟩ := h.plan
  { h with plan := ⟨reading, hreading.trans_le hle, hplan⟩, cache := B.later hle h.cache }

/-- The passes of a series of batches keep what their steps keep, and each has found it. -/
theorem BatchesRan.finds {B : SessionBounds env config mode} {isShutdown : Bool}
    {batches : List (List Repository)} {r : Run} {ended : List EndedPass}
    {last : Except ProcessorError Unit × Run}
    (h : BatchesRan env config isShutdown batches r ended last) (hmode : r.session.mode = mode)
    (hdb : B.database r.db) (hcache : B.cache r.readings r.cache)
    (hrepositories : ∀ repository ∈ batches.flatten, r.db.Holds repository) :
    B.database last.2.db ∧ ∀ e ∈ ended, B.Finds last.2.readings e := by
  obtain ⟨hsuccession, -, -, hle⟩ := h.succession
  rw [hmode] at hsuccession
  have hplans : ∀ plan, env.Plans mode batches.flatten last.2.readings plan →
      B.Plans last.2.readings plan := by
    rintro plan ⟨reading, hreading, repository, hrepository, heq⟩
    exact ⟨reading, hreading, r.db, repository, hdb, hrepositories repository hrepository, heq⟩
  have hkept := hsuccession.mono hplans
  obtain ⟨hdatabases, hended⟩ :=
    hkept.holds (B.toPassBounds last.2.readings) (B.later hle hcache) hdb
  refine ⟨hdatabases _ hkept.mem_databasesOf, fun e he => ?_⟩
  obtain ⟨hplan, hseen, hfound, hfoundCache⟩ := hended e he
  exact ⟨hplan, hseen, hfound, hfoundCache⟩

namespace Processor

variable {p : Processor} {db : Database} {ids : Option (List Int)}

/-- The cache that a session begins with. -/
def firstCache (p : Processor) (mode : Mode) : Cache :=
  if mode = .full then p.cache.clear else p.cache

/-- The passes of a session that has selected repositories ended one after the other. They lead from
the database that the session is given to the one that they leave. -/
theorem batches_succession {selected : List Repository} {ended : List EndedPass}
    {last : Except ProcessorError Unit × Run}
    (hselect : selectRepositories db env.faults ids mode (env.clock 1).time = .ok selected)
    (hbatches : BatchesRan env p.config p.isShutdown (chunks p.config.batchSize selected)
      (p.discovering env db mode selected) ended last) :
    Succession p.config env.faults mode.isDryRun (env.PlansIn mode db last.2.readings)
      (p.firstCache mode) db ended last.2.db := by
  obtain ⟨hsuccession, -, -, -⟩ := hbatches.succession
  refine hsuccession.mono fun plan hplan => ?_
  obtain ⟨reading, hreading, repository, hrepository, heq⟩ := hplan
  rw [flatten_chunks] at hrepository
  exact ⟨reading, hreading, repository,
    holds_of_selectRepositories hselect repository hrepository, heq⟩

/-- What the passes of a session that has selected repositories find. -/
theorem batches_find {B : SessionBounds env p.config mode} (hdb : B.database db)
    (hcache : B.cache 0 p.cache) {selected : List Repository} {ended : List EndedPass}
    {last : Except ProcessorError Unit × Run}
    (hselect : selectRepositories db env.faults ids mode (env.clock 1).time = .ok selected)
    (hbatches : BatchesRan env p.config p.isShutdown (chunks p.config.batchSize selected)
      (p.discovering env db mode selected) ended last) :
    B.database last.2.db ∧ ∀ e ∈ ended, B.Finds last.2.readings e := by
  have hfirst : B.cache 3 (p.discovering env db mode selected).cache := by
    change B.cache 3 (p.firstCache mode)
    rw [firstCache]
    split_ifs
    · exact B.clear (B.later (Nat.zero_le 3) hcache)
    · exact B.later (Nat.zero_le 3) hcache
  refine hbatches.finds rfl hdb hfirst fun repository hrepository => ?_
  rw [flatten_chunks] at hrepository
  exact holds_of_selectRepositories hselect repository hrepository

/-- A session that selects one repository makes one pass, unless a shutdown was requested before. -/
theorem passes_of_single (hidle : p.isRunning = false) {repository : Repository}
    (hselect : selectRepositories db env.faults ids mode (env.clock 1).time = .ok [repository])
    (hopen : (p.isShutdown || env.isShutdown 0 3) = false) :
    p.passes env db ids mode =
      [passHere env (p.discovering env db mode [repository]) repository] := by
  have hchunks : chunks p.config.batchSize [repository] = [[repository]] := by
    simp [chunks]
  have horder : env.order [repository] = [repository] :=
    List.perm_singleton.1 (env.rearranges [repository])
  have hmeet : passesMeet p.config [repository] = false := by
    simp [passesMeet]
  rw [passes, hidle, if_neg Bool.false_ne_true, hselect]
  simp only [hchunks, passesMade]
  rw [show (p.discovering env db mode [repository]).requests = 0 from rfl,
    show (p.discovering env db mode [repository]).readings = 3 from rfl, hopen,
    if_neg Bool.false_ne_true, horder, passesOf, hmeet, if_neg Bool.false_ne_true, passesEach,
    passesEach]
  split
  · split_ifs <;> rfl
  · rfl

/-! ### Results -/

/-- The results of a session are those of its passes, in the order in which the passes end. -/
theorem results_eq_passes (p : Processor) (env : Surroundings) (db : Database)
    (ids : Option (List Int)) (mode : Mode) :
    (p.processAll env db ids mode).results =
      resultsOf p.config env.faults mode.isDryRun (p.passes env db ids mode) := by
  by_cases hrunning : p.isRunning = true
  · rw [processAll_eq, if_pos hrunning, passes, if_pos hrunning]
    rfl
  obtain ⟨ended, last, hends, hpasses, hresult, -⟩ :=
    processAll_ends (by simpa using hrunning) env db ids mode
  rw [Outcome.results, hresult, hpasses]
  cases hends with
  | unselected => rfl
  | aborted _ hbatches =>
    obtain ⟨-, -, hresults, -⟩ := hbatches.succession
    exact hresults
  | completed _ hbatches =>
    obtain ⟨-, -, hresults, -⟩ := hbatches.succession
    exact (Run.results_close env _).trans hresults

/-! ### Recorded polls -/

/-- A session records polls for repositories that it passed over with success, all with one reading
and in the database that its passes lead to. All of its passes were planned before, and have found
what its passes keep. -/
theorem processAll_polls {B : SessionBounds env p.config mode} (hdb : B.database db)
    (hcache : B.cache 0 p.cache) (ids : Option (List Int)) :
    ∃ before polled reading, B.database before ∧
      Succession p.config env.faults mode.isDryRun (env.PlansIn mode db reading)
        (p.firstCache mode) db (p.passes env db ids mode) before ∧
      (p.processAll env db ids mode).db = before.pollAll polled (env.clock reading).time ∧
      (∀ e ∈ p.passes env db ids mode,
        reading < (p.processAll env db ids mode).readings ∧ B.Finds reading e) ∧
      ∀ id ∈ polled, ∃ e ∈ p.passes env db ids mode, e.plan.repo.id = id ∧
        (e.pass p.config env.faults mode.isDryRun).result.success = true := by
  by_cases hrunning : p.isRunning = true
  · rw [processAll_eq, if_pos hrunning, passes, if_pos hrunning]
    exact ⟨db, [], 0, hdb, .nil, rfl, List.forall_mem_nil _, List.forall_mem_nil _⟩
  obtain ⟨ended, last, hends, hpasses, -, hlast, -, hreadings⟩ :=
    processAll_ends (by simpa using hrunning) env db ids mode
  rw [hpasses, hlast, hreadings]
  cases hends with
  | unselected => exact ⟨db, [], 0, hdb, .nil, rfl, List.forall_mem_nil _, List.forall_mem_nil _⟩
  | @aborted selected e ended r hselect hbatches =>
    obtain ⟨hafter, hfinds⟩ := batches_find hdb hcache hselect hbatches
    refine ⟨r.db, [], r.readings, hafter, batches_succession hselect hbatches, rfl,
      fun e he => ⟨?_, hfinds e he⟩, List.forall_mem_nil _⟩
    exact Nat.lt_add_of_pos_right Nat.two_pos
  | @completed selected ended r hselect hbatches =>
    obtain ⟨hafter, hfinds⟩ := batches_find hdb hcache hselect hbatches
    obtain ⟨-, -, hresults, -⟩ := hbatches.succession
    have hmade : r.results = resultsOf p.config env.faults mode.isDryRun ended := hresults
    refine ⟨r.db, polledIds env.faults r.session.mode r.results, r.readings + 2, hafter,
      (batches_succession hselect hbatches).mono fun plan hplan => ?_, r.db_close env,
      fun e he => ⟨r.lt_readings_close env, ?_⟩, fun id hid => ?_⟩
    · exact hplan.later (Nat.le_add_right _ 2)
    · exact (hfinds e he).later (Nat.le_add_right _ 2)
    · obtain ⟨-, n, hn, -⟩ := mem_polledIds.1 hid
      obtain ⟨result, hresult, rfl⟩ := List.mem_map.1 (List.count_pos_iff.1 (Nat.zero_lt_of_lt hn))
      obtain ⟨hresult, hsuccess⟩ := List.mem_filter.1 hresult
      rw [hmade] at hresult
      obtain ⟨e, he, rfl⟩ := List.mem_map.1 hresult
      exact ⟨e, he, (e.plan.across_repositoryId e.seen e.found e.cache).symm, hsuccess⟩

end Processor

end PullWatch
