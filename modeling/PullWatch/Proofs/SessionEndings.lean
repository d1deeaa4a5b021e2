import PullWatch.Proofs.Batches
import PullWatch.Proofs.Visits

/-!
# How a session ends

A session that has started ends in one of three ways. It could not select its repositories; or one
of its batches failed and it was to end with the first failure; or all that it was to do is done.
In the first two cases it is recovered. In the last it goes through its remaining phases, in which
it records the polls of successful results unless it is a trial.

## Main definitions

* `Course`, `Session.course`: what batches leave alone in a session.
* `Run.recordPolls`, `Run.close`: the last steps of a session as functions.
* `refusals`: the warnings about polls that faults strike.
* `Processor.passes`: the passes of a session, with what their steps found.
* `SessionEnds`: the ways in which a session ends.

## Main results

* `BatchesRan.course_eq`: batches neither move a session to another phase nor report problems.
* `Processor.lastRun_ends`, `Processor.processAll_ends`: every session ends in one of these ways.
-/

namespace PullWatch

variable {env : Surroundings} {config : Configuration}

/-! ### What batches leave alone -/

/-- What a session is doing, apart from its figures and its warnings. -/
structure Course where
  mode : Mode
  phase : Phase
  transitions : List Transition
  finishedAt : Option Instant
  totalRepositories : Nat
  problems : List Problem
  recoveryAttempted : Bool

/-- The course after a move to another phase, or as it is when that is not allowed. -/
def Course.enter (c : Course) (next : Phase) (time : Instant) : Course :=
  if c.phase.mayMoveTo next then
    { c with
      phase := next
      transitions := c.transitions ++ [{ source := c.phase, target := next, time }]
      finishedAt := if next.isTerminal then some time else c.finishedAt }
  else c

/-- The course of a session whose failure was recorded. -/
def Course.recover (c : Course) (problem : Problem) : Course :=
  { c with problems := c.problems ++ [problem], recoveryAttempted := true }

theorem Course.phase_enter {c : Course} {next : Phase} (h : c.phase.mayMoveTo next = true)
    (time : Instant) : (c.enter next time).phase = next := by
  rw [enter, if_pos h]

@[simp] theorem Course.mode_enter (c : Course) (next : Phase) (time : Instant) :
    (c.enter next time).mode = c.mode := by
  rw [enter]
  split_ifs <;> rfl

namespace Session

/-- The course that a session has taken. -/
def course (s : Session) : Course :=
  { mode := s.mode, phase := s.phase, transitions := s.transitions, finishedAt := s.finishedAt
    totalRepositories := s.totalRepositories, problems := s.problems
    recoveryAttempted := s.recoveryAttempted }

@[simp] theorem course_warnAll (s : Session) (warnings : List String) :
    (s.warnAll warnings).course = s.course := rfl

@[simp] theorem course_warn (s : Session) (warning : String) :
    (s.warn warning).course = s.course := rfl

@[simp] theorem course_enterIfAllowed (s : Session) (next : Phase) (time : Instant) :
    (s.enterIfAllowed next time).course = s.course.enter next time := by
  rw [enterIfAllowed, enter?, Course.enter]
  change _ = if s.phase.mayMoveTo next = true then _ else _
  split_ifs <;> rfl

@[simp] theorem course_foldl_record (results : List RepositoryResult) (s : Session) :
    (results.foldl Session.record s).course = s.course := by
  induction results generalizing s with
  | nil => rfl
  | cons result results ih => exact ih (s.record result)

end Session

theorem BatchRan.course_eq {batch : List Repository} {ended : List EndedPass}
    {results : List RepositoryResult} {r r' : Run}
    (h : BatchRan env config batch ended results r r') :
    r'.session.course = r.session.course := by
  obtain ⟨hpasses, -, -⟩ := h
  rw [← hpasses.session_eq]
  exact Session.course_foldl_record results _

/-- Batches neither move the session to another phase nor report problems. -/
theorem BatchesRan.course_eq {isShutdown : Bool} {batches : List (List Repository)} {r : Run}
    {ended : List EndedPass} {last : Except ProcessorError Unit × Run}
    (h : BatchesRan env config isShutdown batches r ended last) :
    last.2.session.course = r.session.course := by
  induction h with
  | done => rfl
  | shutdown => rfl
  | aborted _ hran => exact hran.course_eq
  | next _ hran _ _ ih => exact ih.trans hran.course_eq

/-- Batches fail in one way only. -/
theorem BatchesRan.eq_aborted {isShutdown : Bool} {batches : List (List Repository)} {r : Run}
    {ended : List EndedPass} {last : Except ProcessorError Unit × Run}
    (h : BatchesRan env config isShutdown batches r ended last) :
    ∀ e, last.1 = .error e → ∃ repository, e = .aborted repository := by
  induction h with
  | done => exact fun e he => nomatch he
  | shutdown => exact fun e he => nomatch he
  | aborted => exact fun e he => ⟨_, (Except.error.inj he).symm⟩
  | next _ _ _ _ ih => exact ih

/-! ### The last steps -/

/-- The warning that a poll could not be recorded. -/
def pollWarning (e : StoreError) (id : Int) : String :=
  "Failed to record poll time for " ++ toString id ++ ": " ++ e.message

namespace Run

/-- The state after a poll was recorded, or could not be, which is a warning. -/
def mark (env : Surroundings) (time : Instant) (r : Run) (poll : Int × Nat) : Run :=
  match Faults.strike (env.faults.mark poll.1 poll.2) (r.db.markPolled poll.1 time) with
  | .ok db => { r with db }
  | .error e => r.warn (pollWarning e poll.1)

/-- The polls that a session is to record. -/
def polls (r : Run) : List (Int × Nat) :=
  occurrences [] ((r.results.filter (·.success)).map (·.repositoryId))

/-- The state after the polls of the successful results were recorded. -/
def recordPolls (env : Surroundings) (r : Run) : Run :=
  r.polls.foldl (mark env (env.clock r.readings).time) r.read

/-- The state after the work that follows the batches. -/
def finishWork (env : Surroundings) (r : Run) : Run :=
  let r := (r.enter env .changeDetection).publish
  if r.session.mode.isDryRun then r else ((r.enter env .synchronization).publish).recordPolls env

/-- The state after the end of a session whose work is done. -/
def close (env : Surroundings) (r : Run) : Run :=
  ((r.finishWork env).enter env .cleanup).enter env .completed

/-- The state after a failure was recorded. -/
def reportFailure (r : Run) (e : ProcessorError) : Run :=
  let problem : Problem := { kind := r.session.phase.problemKind, message := e.message }
  { r with session := { r.session.addProblem problem with recoveryAttempted := true } }

/-- The state after the repositories were selected. -/
def select (repositories : List Repository) (r : Run) : Run :=
  { r.read with
    session := { r.session with totalRepositories := repositories.length }
    cache := if r.session.mode = Mode.full then r.cache.clear else r.cache }

end Run

open Step

theorem markPolled_run (env : Surroundings) (time : Instant) (poll : Int × Nat) (r : Run) :
    (markPolled env time poll).run r = (.ok (), r.mark env time poll) := by
  obtain ⟨id, times⟩ := poll
  rw [markPolled, run_bind, run_get, Run.mark]
  simp only
  cases Faults.strike (env.faults.mark id times) (r.db.markPolled id time) <;> rfl

theorem markAll_run (env : Surroundings) (time : Instant) (polls : List (Int × Nat)) (r : Run) :
    (polls.forM (markPolled env time)).run r = (.ok (), polls.foldl (Run.mark env time) r) := by
  induction polls generalizing r with
  | nil => rfl
  | cons poll polls ih =>
    change (markPolled env time poll >>= fun _ => polls.forM (markPolled env time)).run r = _
    rw [run_bind, markPolled_run]
    exact ih (r.mark env time poll)

/-! ### Polls -/

/-- The warnings about the polls that faults strike, one for each of them. -/
def refusals (faults : Faults) (polls : List (Int × Nat)) : List String :=
  polls.filterMap fun poll => (faults.mark poll.1 poll.2).map fun e => pollWarning e poll.1

theorem refusals_singleton (faults : Faults) (poll : Int × Nat) :
    refusals faults [poll] =
      ((faults.mark poll.1 poll.2).map fun e => pollWarning e poll.1).toList := by
  rw [refusals, List.filterMap_cons]
  cases faults.mark poll.1 poll.2 <;> rfl

namespace Run

/-- Recording polls changes the database and adds warnings: one for each poll that a fault strikes.
-/
structure Marked (env : Surroundings) (time : Instant) (polls : List (Int × Nat)) (r r' : Run) :
    Prop where
  db_eq : r'.db = r.db.pollAll (unstruck env.faults polls) time
  results_eq : r'.results = r.results
  trace_eq : r'.trace = r.trace
  readings_eq : r'.readings = r.readings
  session_eq : ∃ warnings, r'.session = r.session.warnAll warnings ∧
    (∀ w ∈ warnings, ∃ e id, w = pollWarning e id) ∧ (refusals env.faults polls).Sublist warnings

variable {time : Instant}

theorem marked_mark (env : Surroundings) (time : Instant) (r : Run) (poll : Int × Nat) :
    Marked env time [poll] r (r.mark env time poll) := by
  obtain ⟨id, times⟩ := poll
  have hrefused := refusals_singleton env.faults (id, times)
  rw [mark]
  simp only
  cases hmark : env.faults.mark id times with
  | some e =>
    rw [hmark] at hrefused
    refine ⟨?_, rfl, rfl, rfl, [pollWarning e id], rfl, by simp, hrefused ▸ .refl _⟩
    rw [unstruck, List.filter_singleton, hmark]
    rfl
  | none =>
    have hids : unstruck env.faults [(id, times)] = [id] := by
      rw [unstruck, List.filter_singleton, hmark]
      rfl
    have hstrike : Faults.strike none (r.db.markPolled id time) = r.db.markPolled id time := rfl
    rw [hmark] at hrefused
    rw [hstrike]
    cases hdb : r.db.markPolled id time with
    | ok db =>
      refine ⟨?_, rfl, rfl, rfl, [], ?_, List.forall_mem_nil _, hrefused ▸ .refl _⟩
      · rw [hids]
        exact Database.markPolled_eq_ok hdb
      · rw [Session.warnAll, List.append_nil]
    | error e =>
      refine ⟨?_, rfl, rfl, rfl, [pollWarning e id], rfl, by simp, ?_⟩
      · rw [hids]
        exact (Database.poll_of_markPolled_eq_error hdb).symm
      · rw [hrefused]
        exact List.nil_sublist _

theorem marked_foldl (env : Surroundings) (time : Instant) (polls : List (Int × Nat)) (r : Run) :
    Marked env time polls r (polls.foldl (mark env time) r) := by
  induction polls generalizing r with
  | nil =>
    refine ⟨rfl, rfl, rfl, rfl, [], ?_, List.forall_mem_nil _, .refl _⟩
    rw [Session.warnAll, List.append_nil, List.foldl_nil]
  | cons poll polls ih =>
    obtain ⟨hdb, hresults, htrace, hreadings, warnings, hsession, hkind, hrefused⟩ :=
      marked_mark env time r poll
    obtain ⟨hdb', hresults', htrace', hreadings', warnings', hsession', hkind', hrefused'⟩ :=
      ih (r.mark env time poll)
    refine ⟨?_, hresults'.trans hresults, htrace'.trans htrace, hreadings'.trans hreadings,
      warnings ++ warnings', ?_, List.forall_mem_append.2 ⟨hkind, hkind'⟩, ?_⟩
    · rw [List.foldl_cons, hdb', hdb, ← Database.pollAll_append, ← unstruck_append]
      rfl
    · rw [List.foldl_cons, hsession', hsession, Session.warnAll, Session.warnAll, Session.warnAll,
        List.append_assoc]
    · rw [refusals, ← List.singleton_append, List.filterMap_append]
      exact hrefused.append hrefused'

theorem marked_recordPolls (env : Surroundings) (r : Run) :
    Marked env (env.clock r.readings).time r.polls r.read (r.recordPolls env) :=
  marked_foldl env (env.clock r.readings).time r.polls r.read

end Run

/-! ### The course of a session -/

namespace Run

/-- The course that the session has taken. -/
def course (r : Run) : Course := r.session.course

@[simp] theorem course_enter (env : Surroundings) (next : Phase) (r : Run) :
    (r.enter env next).course = r.course.enter next (env.clock r.readings).time :=
  r.session.course_enterIfAllowed next _

@[simp] theorem course_publish (r : Run) : r.publish.course = r.course := rfl

@[simp] theorem course_recordPolls (env : Surroundings) (r : Run) :
    (r.recordPolls env).course = r.course := by
  obtain ⟨warnings, hsession, -⟩ := (marked_recordPolls env r).session_eq
  rw [course, hsession]
  rfl

theorem phase_eq (r : Run) : r.session.phase = r.course.phase := rfl

/-- A session that is recovered is cleaned up and fails. -/
theorem recoverSession_eq (env : Surroundings) (e : ProcessorError) (r : Run) :
    recoverSession env e r = ((r.reportFailure e).enter env .cleanup).enter env .failed := rfl

theorem course_recoverSession (env : Surroundings) (e : ProcessorError) (r : Run) :
    ∃ problem t t', (recoverSession env e r).course =
      ((r.course.recover problem).enter .cleanup t).enter .failed t' := by
  refine ⟨{ kind := r.session.phase.problemKind, message := e.message },
    (env.clock r.readings).time, (env.clock (r.readings + 1)).time, ?_⟩
  rw [recoverSession_eq, course_enter, course_enter]
  rfl

end Run

/-! ### What the last steps change -/

namespace Run

theorem finishWork_eq (env : Surroundings) (r : Run) :
    r.finishWork env =
      if r.session.mode.isDryRun then (r.enter env .changeDetection).publish
      else (((r.enter env .changeDetection).publish.enter env .synchronization).publish).recordPolls
        env := by
  have hmode : (r.enter env .changeDetection).publish.session.mode = r.session.mode :=
    (congrArg Course.mode (Run.course_enter env .changeDetection r)).trans (Course.mode_enter ..)
  rw [finishWork, hmode]

/-- The database after the last steps of a session: the polls of successful results are recorded. -/
theorem db_close (env : Surroundings) (r : Run) :
    (r.close env).db = r.db.pollAll (polledIds env.faults r.session.mode r.results)
      (env.clock (r.readings + 2)).time := by
  change (r.finishWork env).db = _
  rw [finishWork_eq, polledIds]
  split_ifs
  · rfl
  · exact (marked_recordPolls env _).db_eq

theorem results_close (env : Surroundings) (r : Run) : (r.close env).results = r.results := by
  change (r.finishWork env).results = _
  rw [finishWork_eq]
  split_ifs
  · rfl
  · exact (marked_recordPolls env _).results_eq

/-- The readings of the last steps: the polls are recorded with the third of them. -/
theorem lt_readings_close (env : Surroundings) (r : Run) :
    r.readings + 2 < (r.close env).readings := by
  have hclose : (r.close env).readings = (r.finishWork env).readings + 2 := rfl
  have hwork : r.readings + 1 ≤ (r.finishWork env).readings := by
    rw [finishWork_eq]
    split_ifs
    · exact le_rfl
    · rw [(marked_recordPolls env _).readings_eq]
      exact Nat.le_add_right (r.readings + 1) 2
  omega

end Run

/-! ### The work of a session -/

/-- The work that follows the batches of a session. -/
theorem finishWork_run (env : Surroundings) {r : Run} (hphase : r.course.phase = .discovery) :
    (do
      Step.enter env .changeDetection
      Step.publish
      let r ← get
      if !r.session.mode.isDryRun then
        Step.enter env .synchronization
        Step.publish
        let moment ← Step.now env
        let r ← get
        (occurrences [] ((r.results.filter (·.success)).map (·.repositoryId))).forM
          (markPolled env moment.time)
      : Step Unit).run r = (.ok (), r.finishWork env) := by
  have hfirst : r.session.phase.mayMoveTo .changeDetection = true := by
    rw [Run.phase_eq, hphase]
    rfl
  have hsecond : (r.enter env .changeDetection).publish.session.phase.mayMoveTo .synchronization =
      true := by
    rw [Run.phase_eq, Run.course_publish, Run.course_enter, Course.phase_enter hfirst]
    rfl
  simp only [run_bind, run_enter hfirst, run_publish, run_get, Run.finishWork]
  cases (r.enter env .changeDetection).publish.session.mode.isDryRun with
  | true => rfl
  | false =>
    simp only [Bool.not_false, if_true, run_bind, run_enter hsecond, run_publish, run_now, run_get,
      markAll_run]
    rfl

theorem concludeSession_run {r : Run} (hphase : r.course.phase.mayMoveTo .cleanup = true) :
    (concludeSession env).run r = (.ok (), (r.enter env .cleanup).enter env .completed) := by
  have hcleanup : (r.enter env .cleanup).session.phase.mayMoveTo .completed = true := by
    rw [Run.phase_eq, Run.course_enter, Course.phase_enter hphase]
    rfl
  simp only [concludeSession, run_bind, run_now, run_modify]
  exact run_enter hcleanup

/-- The phases after the batches: those of a trial leave out the synchronization. -/
theorem Run.course_finishWork (env : Surroundings) (r : Run) :
    ∃ t t', (r.finishWork env).course =
      if r.course.mode.isDryRun then r.course.enter .changeDetection t
      else (r.course.enter .changeDetection t).enter .synchronization t' := by
  have hmode : (r.enter env .changeDetection).publish.session.mode = r.course.mode :=
    (congrArg Course.mode (Run.course_enter env .changeDetection r)).trans (Course.mode_enter ..)
  refine ⟨(env.clock r.readings).time, (env.clock (r.readings + 1)).time, ?_⟩
  rw [finishWork, hmode]
  split_ifs
  · simp only [course_publish, course_enter]
  · simp only [course_recordPolls, course_publish, course_enter]
    rfl

theorem Run.phase_finishWork {r : Run} (hphase : r.course.phase = .discovery) :
    (r.finishWork env).course.phase.mayMoveTo .cleanup = true := by
  have hfirst : r.course.phase.mayMoveTo .changeDetection = true := by
    rw [hphase]
    rfl
  obtain ⟨t, t', hcourse⟩ := r.course_finishWork env
  rw [hcourse]
  split_ifs
  · rw [Course.phase_enter hfirst]
    rfl
  · rw [Course.phase_enter]
    · rfl
    · rw [Course.phase_enter hfirst]
      rfl

namespace Processor

variable {p : Processor} {db : Database} {ids : Option (List Int)} {mode : Mode}

/-- The state of a session that begins with its batches. -/
def discovering (p : Processor) (env : Surroundings) (db : Database) (mode : Mode)
    (selected : List Repository) : Run :=
  (((p.firstRun env db mode).select selected).enter env .discovery).publish

/-- The end of a session that has failed. -/
def failing (env : Surroundings) (e : ProcessorError) (r : Run) :
    Except ProcessorError Unit × Run :=
  let r := recoverSession env e r
  (.error (.sessionFailed { session := r.session, results := r.results } e), r)

/-- The passes of a session, in the order in which they end, each with the databases and the cache
that its steps found. They are read off the states that the session itself goes through. -/
def passes (p : Processor) (env : Surroundings) (db : Database) (ids : Option (List Int))
    (mode : Mode) : List EndedPass :=
  if p.isRunning then []
  else
    match selectRepositories db env.faults ids mode (env.clock 1).time with
    | .error _ => []
    | .ok selected =>
      passesMade env p.config p.isShutdown (chunks p.config.batchSize selected) false
        (p.discovering env db mode selected)

/-- The ways in which a session ends, with the passes that it has made. -/
inductive SessionEnds (p : Processor) (env : Surroundings) (db : Database)
    (ids : Option (List Int)) (mode : Mode) :
    List EndedPass → Except ProcessorError Unit × Run → Prop
  | unselected {e : ProcessorError}
      (hselect : selectRepositories db env.faults ids mode (env.clock 1).time = .error e) :
      SessionEnds p env db ids mode [] (failing env e (p.firstRun env db mode).read)
  | aborted {selected : List Repository} {e : ProcessorError} {ended : List EndedPass} {r : Run}
      (hselect : selectRepositories db env.faults ids mode (env.clock 1).time = .ok selected)
      (hbatches : BatchesRan env p.config p.isShutdown (chunks p.config.batchSize selected)
        (p.discovering env db mode selected) ended (.error e, r)) :
      SessionEnds p env db ids mode ended (failing env e r)
  | completed {selected : List Repository} {ended : List EndedPass} {r : Run}
      (hselect : selectRepositories db env.faults ids mode (env.clock 1).time = .ok selected)
      (hbatches : BatchesRan env p.config p.isShutdown (chunks p.config.batchSize selected)
        (p.discovering env db mode selected) ended (.ok (), r)) :
      SessionEnds p env db ids mode ended (.ok (), r.close env)

/-- The course of a session that begins with its batches. -/
theorem course_discovering (p : Processor) (env : Surroundings) (db : Database) (mode : Mode)
    (selected : List Repository) :
    ∃ time, (p.discovering env db mode selected).course =
      { (Session.start mode (env.clock 0).time).course.enter .discovery time with
        totalRepositories := selected.length } :=
  ⟨(env.clock 2).time, rfl⟩

/-- The course of a session at the end of its batches. -/
theorem phase_of_batches {selected : List Repository} {batches : List (List Repository)}
    {ended : List EndedPass} {last : Except ProcessorError Unit × Run}
    (h : BatchesRan env p.config p.isShutdown batches (p.discovering env db mode selected) ended
      last) :
    last.2.course.phase = .discovery := by
  obtain ⟨time, hcourse⟩ := course_discovering p env db mode selected
  have hlast : last.2.course = (p.discovering env db mode selected).course := h.course_eq
  rw [hlast, hcourse]
  rfl

/-- Every session ends in one of these ways. -/
theorem lastRun_ends (hidle : p.isRunning = false) (env : Surroundings) (db : Database)
    (ids : Option (List Int)) (mode : Mode) :
    SessionEnds p env db ids mode (p.passes env db ids mode) (p.lastRun env db ids mode) := by
  rw [passes, hidle, if_neg Bool.false_ne_true, lastRun, runSession, run_bind]
  cases hselect : selectRepositories db env.faults ids mode (env.clock 1).time with
  | error e =>
    have hselected : (selectAll env ids).run (p.firstRun env db mode) =
        (.error e, (p.firstRun env db mode).read) := by
      rw [selectAll_run]
      simp only [firstRun, Session.start, hselect, Run.read]
    rw [hselected]
    exact .unselected hselect
  | ok selected =>
    have hselected : (selectAll env ids).run (p.firstRun env db mode) =
        (.ok selected, (p.firstRun env db mode).select selected) := by
      rw [selectAll_run]
      simp only [firstRun, Session.start, hselect, Run.select, Run.read]
    have henter :
        ((p.firstRun env db mode).select selected).session.phase.mayMoveTo .discovery = true := rfl
    have hbatches := runBatches_ran env p.config p.isShutdown (chunks p.config.batchSize selected)
      false (p.discovering env db mode selected)
    rw [discovering] at hbatches
    simp only [hselected, run_bind (Step.enter env .discovery), run_enter henter,
      run_bind Step.publish, run_publish, run_bind (runBatches _ _ _ _ _)]
    rcases hrun : (runBatches env p.config p.isShutdown (chunks p.config.batchSize selected)
      false).run _ with ⟨e | _, r⟩
    · rw [hrun] at hbatches
      exact .aborted hselect hbatches
    · rw [hrun] at hbatches
      have hphase := phase_of_batches hbatches
      have hwork := finishWork_run env hphase
      simp only [hwork, concludeSession_run (Run.phase_finishWork hphase)]
      exact .completed hselect hbatches

/-- What a session of an idle processor leaves behind is its last state. -/
theorem processAll_ends (hidle : p.isRunning = false) (env : Surroundings) (db : Database)
    (ids : Option (List Int)) (mode : Mode) :
    ∃ ended last, SessionEnds p env db ids mode ended last ∧ p.passes env db ids mode = ended ∧
      let o := p.processAll env db ids mode
      o.result = last.1.map (fun _ => { session := last.2.session, results := last.2.results }) ∧
        o.db = last.2.db ∧ o.trace = last.2.trace ∧ o.readings = last.2.readings := by
  refine ⟨_, p.lastRun env db ids mode, lastRun_ends hidle env db ids mode, rfl, ?_⟩
  rw [processAll_eq, hidle, if_neg Bool.false_ne_true]
  exact ⟨rfl, rfl, rfl, rfl⟩

end Processor

end PullWatch
