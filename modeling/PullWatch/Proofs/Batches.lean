import PullWatch.Proofs.Sessions

/-!
# How the batches of a session run

The steps of a session are told here as functions of its state, and its batches as a relation. A
batch makes its passes, adds their results to those of the session and their figures to the
session's, and shows the session to observers. The series of batches is done when none is left. It
ends before that when a shutdown was requested, with a warning, or when a batch has failed and the
session is to end with the first failure.

The passes that are made can be told beforehand, each with what its steps are going to find: they
are computed from the state in which the batches begin.

## Main definitions

* `Run.read`, `Run.enter`, `Run.afterBatch`: steps of a session as functions.
* `passesOf`, `passesMade`: the passes over the repositories of a batch, and of the series of
  batches.
* `PassesRan`: the passes over some repositories.
* `BatchRan`, `BatchesRan`: one batch, and the series of batches.

## Main results

* `passOverAll_ran`: a batch passes over each of its repositories once.
* `runBatches_ran`: what the series of batches does.
* `BatchesRan.succession`: the passes of all batches ended one after the other.
-/

namespace PullWatch

open GitHub (Call)

variable {env : Surroundings} {config : Configuration}

/-! ### Steps as functions -/

/-- The session with more warnings. -/
def Session.warnAll (s : Session) (warnings : List String) : Session :=
  { s with warnings := s.warnings ++ warnings }

/-- The warning that a session takes too long. -/
def timeWarning (config : Configuration) : String :=
  "Session exceeded " ++ toString config.sessionTimeout ++ "s time ceiling"

/-- The warning that a shutdown was requested before some repositories were passed over. -/
def shutdownWarning (remaining : Nat) : String :=
  "Shutdown requested; " ++ toString remaining ++ " repositories not processed"

namespace Run

/-- The state after a reading of the clocks. -/
def read (r : Run) : Run := { r with readings := r.readings + 1 }

/-- The state in another phase, or as it is but for a reading, when the session may not move there.
-/
def enter (env : Surroundings) (next : Phase) (r : Run) : Run :=
  { r.read with session := r.session.enterIfAllowed next (env.clock r.readings).time }

/-- The state after a batch whose passes are made: their results are recorded, the time was checked
and the session was shown to observers. -/
def afterBatch (r : Run) (results : List RepositoryResult) (warnings : List String) : Run :=
  Run.publish
    { r.read with session := (results.foldl Session.record r.session).warnAll warnings }

end Run

namespace Step

theorem run_now (env : Surroundings) (r : Run) :
    (now env).run r = (.ok (env.clock r.readings), r.read) := rfl

theorem run_publish (r : Run) : publish.run r = (.ok (), r.publish) := rfl

theorem run_modify (change : Run → Run) (r : Run) :
    (modify change : Step Unit).run r = (.ok (), change r) := rfl

theorem run_enter {next : Phase} {r : Run} (h : r.session.phase.mayMoveTo next = true) :
    (enter env next).run r = (.ok (), r.enter env next) := by
  have henter (time : Instant) :
      r.session.enter? next time = some (r.session.enterIfAllowed next time) := by
    rw [Session.enterIfAllowed, Session.enter?, if_pos h, Option.getD_some]
  rw [enter, run_bind, run_now]
  simp only [run_bind, run_get, Run.read, henter, run_set]
  rfl

theorem run_checkTime (config : Configuration) (moment : Moment) (isReported : Bool) (r : Run) :
    ∃ isReported' warnings, (checkTime config moment isReported).run r =
        (.ok isReported', { r with session := r.session.warnAll warnings }) ∧
      ∀ w ∈ warnings, w = timeWarning config := by
  rw [checkTime, run_bind, run_get]
  simp only
  split_ifs
  · exact ⟨true, [timeWarning config], rfl, by simp⟩
  · refine ⟨isReported, [], ?_, List.forall_mem_nil _⟩
    rw [run_pure, Session.warnAll, List.append_nil]

end Step

open Step
open SessionBounds (passOverTogether_run mode_foldl_record)

/-! ### Passes -/

/-- The pass is planned by a session of a mode over one of some repositories, with one of the first
readings. -/
def Surroundings.Plans (env : Surroundings) (mode : Mode) (repositories : List Repository) (n : Nat)
    (plan : PassPlan) : Prop :=
  ∃ reading < n, ∃ repository ∈ repositories, plan = env.plan mode reading repository

theorem Surroundings.Plans.mono {mode : Mode} {repositories later : List Repository} {n m : Nat}
    {plan : PassPlan} (h : env.Plans mode repositories n plan) (hsubset : repositories ⊆ later)
    (hle : n ≤ m) : env.Plans mode later m plan := by
  obtain ⟨reading, hreading, repository, hrepository, heq⟩ := h
  exact ⟨reading, hreading.trans_le hle, repository, hsubset hrepository, heq⟩

/-- The pass over a repository that begins in a state and that nothing interrupts. -/
def passHere (env : Surroundings) (r : Run) (repository : Repository) : EndedPass :=
  { plan := env.plan r.session.mode r.readings repository
    seen := r.db, found := r.db, cache := r.cache }

/-- The passes over repositories that are made one after the other. -/
def passesEach (env : Surroundings) (config : Configuration) :
    List Repository → Run → List EndedPass
  | [], _ => []
  | repository :: rest, r =>
    passHere env r repository ::
      passesEach env config rest ((passOver env config repository).run r).2

/-- The passes over repositories that overlap. -/
def passesAbreast (env : Surroundings) (config : Configuration) (batch : List Repository)
    (r : Run) : List EndedPass :=
  passesWatched config env.faults r.session.mode.isDryRun (env.schedule batch)
    (env.plans r.session.mode r.readings batch) r.shared

/-- The passes over the repositories of a batch in the order in which they end. -/
def passesOf (env : Surroundings) (config : Configuration) (batch : List Repository) (r : Run) :
    List EndedPass :=
  if passesMeet config batch then passesAbreast env config batch r
  else passesEach env config batch r

/-- Passes over some repositories of a session were made. They ended one after the other, and each
repository has a pass. -/
structure PassesRan (env : Surroundings) (config : Configuration) (batch : List Repository)
    (ended : List EndedPass) (r r' : Run) : Prop where
  succession : Succession config env.faults r.session.mode.isDryRun
    (env.Plans r.session.mode batch r'.readings) r.cache r.db ended r'.db
  repositories : (ended.map (·.plan.repo)).Perm (batch.map (·.context))
  cache : HandedOn config (env.Plans r.session.mode batch r'.readings) r.cache r'.cache
  results_eq : r'.results =
    r.results ++ resultsOf config env.faults r.session.mode.isDryRun ended
  session_eq : r'.session = r.session
  readings_eq : r'.readings = r.readings + batch.length
  calls : ∃ calls : List Call, r'.requests = r.requests + calls.length ∧
    r'.trace = r.trace ++ calls.map .sent

namespace PassesRan

variable {batch later : List Repository} {ended more : List EndedPass} {r r' r'' : Run}

theorem nil (r : Run) : PassesRan env config [] [] r r where
  succession := .nil
  repositories := .refl _
  cache := .first
  results_eq := (List.append_nil _).symm
  session_eq := rfl
  readings_eq := rfl
  calls := ⟨[], rfl, (List.append_nil _).symm⟩

theorem append (h : PassesRan env config batch ended r r')
    (hlater : PassesRan env config later more r' r'') :
    PassesRan env config (batch ++ later) (ended ++ more) r r'' := by
  obtain ⟨calls, hrequests, htrace⟩ := h.calls
  obtain ⟨moreCalls, hmoreRequests, hmoreTrace⟩ := hlater.calls
  have hmore := hlater.succession
  have hmoreCache := hlater.cache
  have hmoreResults := hlater.results_eq
  rw [h.session_eq] at hmore hmoreCache hmoreResults
  have hfirst : ∀ plan, env.Plans r.session.mode batch r'.readings plan →
      env.Plans r.session.mode (batch ++ later) r''.readings plan := fun _ hplan =>
    hplan.mono (List.subset_append_left _ _) (Nat.le.intro hlater.readings_eq.symm)
  have hsecond : ∀ plan, env.Plans r.session.mode later r''.readings plan →
      env.Plans r.session.mode (batch ++ later) r''.readings plan := fun _ hplan =>
    hplan.mono (List.subset_append_right _ _) le_rfl
  refine
    { succession := (h.succession.mono hfirst).append (h.cache.mono hfirst) (hmore.mono hsecond)
      repositories := ?_
      cache := (h.cache.mono hfirst).trans (hmoreCache.mono hsecond)
      results_eq := ?_, session_eq := hlater.session_eq.trans h.session_eq
      readings_eq := by rw [hlater.readings_eq, h.readings_eq, List.length_append, Nat.add_assoc]
      calls := ⟨calls ++ moreCalls, ?_, ?_⟩ }
  · rw [List.map_append, List.map_append]
    exact h.repositories.append hlater.repositories
  · rw [hmoreResults, h.results_eq, resultsOf_append, List.append_assoc]
  · rw [hmoreRequests, hrequests, List.length_append, Nat.add_assoc]
  · rw [hmoreTrace, htrace, List.map_append, List.append_assoc]

/-- The order of the repositories does not matter. -/
theorem of_perm (h : PassesRan env config batch ended r r') (hperm : batch.Perm later) :
    PassesRan env config later ended r r' :=
  have hplans : ∀ plan, env.Plans r.session.mode batch r'.readings plan →
      env.Plans r.session.mode later r'.readings plan := fun _ hplan =>
    hplan.mono hperm.subset le_rfl
  { h with
    succession := h.succession.mono hplans
    repositories := h.repositories.trans (hperm.map _)
    cache := h.cache.mono hplans
    readings_eq := hperm.length_eq ▸ h.readings_eq }

end PassesRan

section Passes

variable (env config) (r : Run)

/-- One pass that nothing interrupts. -/
theorem passOver_ran (repository : Repository) :
    ∃ r', (passOver env config repository).run r =
        (.ok ((passHere env r repository).pass config env.faults r.session.mode.isDryRun).result,
          r') ∧
      PassesRan env config [repository] [passHere env r repository] r r' := by
  set e : EndedPass := passHere env r repository
  have hpass : runPass env.service config env.faults (env.clock r.readings) repository.context
      (cutoff r.session.mode repository) r.session.mode.isDryRun r.db r.cache =
        e.pass config env.faults r.session.mode.isDryRun := runPass_eq
  have hplan : env.Plans r.session.mode [repository] (r.readings + 1) e.plan :=
    ⟨r.readings, Nat.lt_succ_self _, repository, List.mem_singleton_self _, rfl⟩
  rw [← hpass]
  refine ⟨_, rfl, ?_⟩
  refine
    { succession := ?_, repositories := .refl _, cache := ?_, results_eq := ?_, session_eq := rfl
      readings_eq := rfl, calls := ⟨_, rfl, rfl⟩ }
  · have hnil : Succession config env.faults r.session.mode.isDryRun
        (env.Plans r.session.mode [repository] (r.readings + 1)) r.cache r.db [] e.found := .nil
    have hsuccession := hnil.concat (List.mem_singleton_self e.seen) hplan .first
    rw [← hpass] at hsuccession
    exact hsuccession
  · have hfirst : HandedOn config (env.Plans r.session.mode [repository] (r.readings + 1)) r.cache
        e.cache := .first
    have hcache := hfirst.across hplan env.faults r.session.mode.isDryRun e.seen e.found
    rw [← EndedPass.pass, ← hpass] at hcache
    exact hcache
  · rw [resultsOf, List.map_singleton, ← hpass]
    rfl

/-- Passes that overlap. -/
theorem passOverTogether_ran (batch : List Repository) :
    ∃ r', (passOverTogether env config batch).run r =
        (.ok (resultsOf config env.faults r.session.mode.isDryRun
          (passesAbreast env config batch r)), r') ∧
      PassesRan env config batch (passesAbreast env config batch r) r r' := by
  have hplans : ∀ plan ∈ env.plans r.session.mode r.readings batch,
      env.Plans r.session.mode batch (r.readings + batch.length) plan :=
    fun plan hplan => env.mem_plans hplan
  obtain ⟨hsuccession, hcache, hresults, hperm⟩ := passesTogether_succession config env.faults
    r.session.mode.isDryRun (env.schedule batch) r.shared rfl hplans
  rw [passOverTogether_run]
  simp only [passesAbreast, hresults]
  refine ⟨_, rfl, ?_⟩
  refine
    { succession := hsuccession, repositories := ?_, cache := hcache
      results_eq := congrArg (r.results ++ ·) hresults, session_eq := rfl, readings_eq := rfl
      calls := ⟨_, rfl, rfl⟩ }
  have hmapped := hperm.map (·.repo)
  rwa [env.map_repo_plans, List.map_map] at hmapped

/-- Passes that are made one after the other. -/
theorem passOverEach_ran (batch : List Repository) :
    ∃ r', (batch.mapM (passOver env config)).run r =
        (.ok (resultsOf config env.faults r.session.mode.isDryRun
          (passesEach env config batch r)), r') ∧
      PassesRan env config batch (passesEach env config batch r) r r' := by
  induction batch generalizing r with
  | nil => exact ⟨r, rfl, .nil r⟩
  | cons repository rest ih =>
    obtain ⟨r₁, hfirst, hran⟩ := passOver_ran env config r repository
    obtain ⟨r₂, hrest, hrestRan⟩ := ih r₁
    rw [passesEach, hfirst]
    refine ⟨r₂, ?_, hran.append hrestRan⟩
    simp only [List.mapM_cons, run_bind, hfirst, hrest, run_pure, hran.session_eq]
    rfl

/-- A batch passes over each of its repositories once, in whatever order. -/
theorem passOverAll_ran (batch : List Repository) :
    ∃ r', (passOverAll env config batch).run r =
        (.ok (resultsOf config env.faults r.session.mode.isDryRun (passesOf env config batch r)),
          r') ∧
      PassesRan env config batch (passesOf env config batch r) r r' := by
  rw [passOverAll, passesOf]
  split_ifs
  · exact passOverTogether_ran env config r batch
  · exact passOverEach_ran env config r batch

end Passes

/-! ### Batches -/

/-- A batch of the series, up to the question whether the session ends with it. -/
def runOne (env : Surroundings) (config : Configuration) (batch : List Repository)
    (isReported : Bool) : Step (List RepositoryResult × Bool) := do
  let results ← runBatch env config batch
  let moment ← Step.now env
  let isReported ← checkTime config moment isReported
  Step.publish
  pure (results, isReported)

/-- The passes of the series of batches in the order in which they end. -/
def passesMade (env : Surroundings) (config : Configuration) (isShutdown : Bool) :
    List (List Repository) → Bool → Run → List EndedPass
  | [], _, _ => []
  | batch :: rest, isReported, r =>
    if isShutdown || env.isShutdown r.requests r.readings then []
    else
      passesOf env config (env.order batch) r ++
        match (runOne env config batch isReported).run r with
        | (.ok (results, isReported), r) =>
          if config.stopOnFirstError && results.any fun r => !r.success then []
          else passesMade env config isShutdown rest isReported r
        | (.error _, _) => []

/-- A batch has run: its passes were made, and the session knows their results. -/
inductive BatchRan (env : Surroundings) (config : Configuration) (batch : List Repository)
    (ended : List EndedPass) (results : List RepositoryResult) (r : Run) : Run → Prop
  | intro {s : Run} {warnings : List String} (hpasses : PassesRan env config batch ended r s)
      (hresults : results = resultsOf config env.faults r.session.mode.isDryRun ended)
      (hwarnings : ∀ w ∈ warnings, w = timeWarning config) :
      BatchRan env config batch ended results r (s.afterBatch results warnings)

/-- What the series of batches does, and how it ends. -/
inductive BatchesRan (env : Surroundings) (config : Configuration) (isShutdown : Bool) :
    List (List Repository) → Run → List EndedPass → Except ProcessorError Unit × Run → Prop
  | done {r : Run} : BatchesRan env config isShutdown [] r [] (.ok (), r)
  | shutdown {batch : List Repository} {rest : List (List Repository)} {r : Run}
      (hshutdown : (isShutdown || env.isShutdown r.requests r.readings) = true) :
      BatchesRan env config isShutdown (batch :: rest) r []
        (.ok (), r.warn (shutdownWarning (batch :: rest).flatten.length))
  | aborted {batch : List Repository} {rest : List (List Repository)} {r s : Run}
      {ended : List EndedPass} {results : List RepositoryResult} {failed : RepositoryResult}
      (hopen : (isShutdown || env.isShutdown r.requests r.readings) = false)
      (hran : BatchRan env config batch ended results r s)
      (hstop : config.stopOnFirstError = true)
      (hfailed : failed ∈ results) (hfailure : failed.success = false) :
      BatchesRan env config isShutdown (batch :: rest) r ended
        (.error (.aborted failed.repository), s)
  | next {batch : List Repository} {rest : List (List Repository)} {r s : Run}
      {ended later : List EndedPass} {results : List RepositoryResult}
      {last : Except ProcessorError Unit × Run}
      (hopen : (isShutdown || env.isShutdown r.requests r.readings) = false)
      (hran : BatchRan env config batch ended results r s)
      (hgoes : config.stopOnFirstError = true → ∀ result ∈ results, result.success = true)
      (hrest : BatchesRan env config isShutdown rest s later last) :
      BatchesRan env config isShutdown (batch :: rest) r (ended ++ later) last

theorem runBatch_run (env : Surroundings) (config : Configuration) (batch : List Repository)
    (r : Run) :
    let ended := passesOf env config (env.order batch) r
    let results := resultsOf config env.faults r.session.mode.isDryRun ended
    ∃ s, (runBatch env config batch).run r =
        (.ok results, { s with session := results.foldl Session.record s.session }) ∧
      PassesRan env config batch ended r s := by
  obtain ⟨s, hrun, hran⟩ := passOverAll_ran env config r (env.order batch)
  refine ⟨s, ?_, hran.of_perm (env.rearranges batch)⟩
  simp only [runBatch, run_bind, hrun, run_modify, run_pure]

/-- The series of batches runs as it is told, and makes the passes that were told. -/
theorem runBatches_ran (env : Surroundings) (config : Configuration) (isShutdown : Bool)
    (batches : List (List Repository)) (isReported : Bool) (r : Run) :
    BatchesRan env config isShutdown batches r
      (passesMade env config isShutdown batches isReported r)
      ((runBatches env config isShutdown batches isReported).run r) := by
  induction batches generalizing isReported r with
  | nil => exact .done
  | cons batch rest ih =>
    rw [runBatches, run_bind, run_get, passesMade]
    simp only
    split
    · rename_i hshutdown
      exact .shutdown hshutdown
    · rename_i hshutdown
      obtain ⟨s, hrun, hran⟩ := runBatch_run env config batch r
      set results := resultsOf config env.faults r.session.mode.isDryRun
        (passesOf env config (env.order batch) r)
      obtain ⟨isReported', warnings, htime, hwarnings⟩ := run_checkTime config
        (env.clock s.readings) isReported
        (Run.read { s with session := results.foldl Session.record s.session })
      have hbatch : BatchRan env config batch (passesOf env config (env.order batch) r) results r
          (s.afterBatch results warnings) := .intro hran rfl hwarnings
      have hopen : (isShutdown || env.isShutdown r.requests r.readings) = false := by
        simpa using hshutdown
      simp only [runOne, run_bind, hrun, run_now, htime, run_publish, run_pure]
      cases hfind : results.find? fun r => !r.success with
      | some failed =>
        have hfailed := List.mem_of_find?_eq_some hfind
        have hfailure : failed.success = false := by simpa using List.find?_some hfind
        have hany : (results.any fun r => !r.success) = true :=
          List.any_eq_true.2 ⟨failed, hfailed, by rw [hfailure]; rfl⟩
        rw [hany, Bool.and_true]
        split_ifs with hstop
        · rw [List.append_nil]
          exact .aborted hopen hbatch hstop hfailed hfailure
        · exact .next hopen hbatch (fun h => absurd h hstop) (ih _ _)
      | none =>
        have hall : ∀ result ∈ results, result.success = true := fun result hresult => by
          simpa using List.find?_eq_none.1 hfind result hresult
        have hany : (results.any fun r => !r.success) = false :=
          List.any_eq_false.2 fun result hresult => by rw [hall result hresult]; decide
        rw [hany, Bool.and_false, if_neg Bool.false_ne_true]
        exact .next hopen hbatch (fun _ => hall) (ih _ _)

namespace BatchRan

variable {batch : List Repository} {ended : List EndedPass} {results : List RepositoryResult}
  {r r' : Run}

theorem mode_eq (h : BatchRan env config batch ended results r r') :
    r'.session.mode = r.session.mode := by
  obtain ⟨hpasses, -, -⟩ := h
  rw [← hpasses.session_eq]
  exact mode_foldl_record results _

/-- The state after a batch is that after its passes, but for the session and a reading. -/
theorem passes (h : BatchRan env config batch ended results r r') :
    ∃ s, PassesRan env config batch ended r s ∧ r'.db = s.db ∧ r'.cache = s.cache ∧
      r'.results = s.results ∧ r'.readings = s.readings + 1 := by
  obtain ⟨hpasses, -, -⟩ := h
  exact ⟨_, hpasses, rfl, rfl, rfl, rfl⟩

end BatchRan

/-- The passes of all batches ended one after the other, and brought the results of the session. -/
theorem BatchesRan.succession {isShutdown : Bool} {batches : List (List Repository)} {r : Run}
    {ended : List EndedPass} {last : Except ProcessorError Unit × Run}
    (h : BatchesRan env config isShutdown batches r ended last) :
    let plans := env.Plans r.session.mode batches.flatten last.2.readings
    Succession config env.faults r.session.mode.isDryRun plans r.cache r.db ended last.2.db ∧
      HandedOn config plans r.cache last.2.cache ∧
      last.2.results = r.results ++ resultsOf config env.faults r.session.mode.isDryRun ended ∧
      r.readings ≤ last.2.readings := by
  induction h with
  | done => exact ⟨.nil, .first, (List.append_nil _).symm, le_rfl⟩
  | shutdown => exact ⟨.nil, .first, (List.append_nil _).symm, le_rfl⟩
  | @aborted batch rest r s ended _ _ _ hran =>
    obtain ⟨s', hpasses, hdb, hcache, hresults, hreadings⟩ := hran.passes
    have hplans : ∀ plan, env.Plans r.session.mode batch s'.readings plan →
        env.Plans r.session.mode (batch :: rest).flatten s.readings plan := fun _ hplan =>
      hplan.mono (List.subset_append_left _ _) (by omega)
    have hle : r.readings ≤ s.readings := by
      rw [hreadings, hpasses.readings_eq, Nat.add_assoc]
      exact Nat.le_add_right _ _
    refine ⟨?_, ?_, hresults.trans hpasses.results_eq, hle⟩
    · rw [hdb]
      exact hpasses.succession.mono hplans
    · rw [hcache]
      exact hpasses.cache.mono hplans
  | @next batch rest r s ended later _ last _ hran _ _ ih =>
    obtain ⟨s', hpasses, hdb, hcache, hresults, hreadings⟩ := hran.passes
    obtain ⟨hlater, hhanded, hlaterResults, hle⟩ := ih
    rw [hran.mode_eq] at hlater hhanded hlaterResults
    have hreadings' := hpasses.readings_eq
    have hplans : ∀ plan, env.Plans r.session.mode batch s'.readings plan →
        env.Plans r.session.mode (batch :: rest).flatten last.2.readings plan := fun _ hplan =>
      hplan.mono (List.subset_append_left _ _) (by omega)
    have hrest : ∀ plan, env.Plans r.session.mode rest.flatten last.2.readings plan →
        env.Plans r.session.mode (batch :: rest).flatten last.2.readings plan := fun _ hplan =>
      hplan.mono (List.subset_append_right _ _) le_rfl
    have hfirst := hpasses.succession.mono hplans
    have hkept := hpasses.cache.mono hplans
    rw [← hdb] at hfirst
    rw [← hcache] at hkept
    refine ⟨hfirst.append hkept (hlater.mono hrest), hkept.trans (hhanded.mono hrest), ?_, by omega⟩
    rw [hlaterResults, hresults, hpasses.results_eq, resultsOf_append, List.append_assoc]

end PullWatch
