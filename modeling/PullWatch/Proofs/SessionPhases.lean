import PullWatch.Proofs.PolledTimes
import PullWatch.Proofs.SessionEndings

/-!
# The phases of a session

Every move that is allowed leads to a phase that is further from the first one, and the furthest
phases are the last ones. So whatever moves a session attempts, those that were allowed form a path
from its first phase to its present one, no phase is entered twice, and there are at most five of
them.

A session makes its moves as told by its end. One whose work is done has gone through all phases in
their order, a trial without the synchronization; one that has failed was cleaned up from wherever
it was. No session attempts a move that is not allowed.

## Main definitions

* `Phase.rank`: how far a phase is from the first.
* `Path`: transitions without a gap.
* `Session.Tracked`: the transitions of a session tell how it came to its phase.
* `Session.attempt`: a session after some attempts to move.
* `Mode.phases`: the phases of a session whose work is done.

## Main results

* `Path.nodup`, `Path.length_le`: a path enters no phase twice.
* `tracked_attempt`: all sequences of attempts.
* `processAll_phases`: all sessions.
-/

namespace PullWatch

/-! ### Paths -/

/-- How far a phase is from the first. -/
def Phase.rank : Phase → Nat
  | initialization => 0
  | discovery => 1
  | changeDetection => 2
  | synchronization => 3
  | cleanup => 4
  | completed | failed => 5

/-- A move leads further. -/
theorem Phase.rank_lt {current next : Phase} (h : current.mayMoveTo next = true) :
    current.rank < next.rank := by
  revert h
  cases current <;> cases next <;> decide

theorem Phase.rank_le (phase : Phase) : phase.rank ≤ 5 := by
  cases phase <;> decide

/-- No move leaves a last phase. -/
theorem Phase.isTerminal_of_mayMoveTo {current next : Phase}
    (h : current.mayMoveTo next = true) : current.isTerminal = false := by
  revert h
  cases current <;> cases next <;> decide

/-- Allowed transitions that lead from one phase to another without a gap. -/
inductive Path (first : Phase) : List Transition → Phase → Prop
  | nil : Path first [] first
  | concat {path : List Transition} {t : Transition} (h : Path first path t.source)
      (hmove : t.source.mayMoveTo t.target = true) : Path first (path ++ [t]) t.target

namespace Path

variable {first phase : Phase} {path : List Transition}

theorem length_le (h : Path first path phase) : first.rank + path.length ≤ phase.rank := by
  induction h with
  | nil => exact Nat.le_refl _
  | concat h hmove ih =>
    have hrank := Phase.rank_lt hmove
    rw [List.length_append, List.length_singleton]
    omega

/-- Every phase of a path is at most as far as its last one. -/
theorem rank_le (h : Path first path phase) :
    ∀ entered ∈ first :: path.map (·.target), entered.rank ≤ phase.rank := by
  induction h with
  | nil => simp
  | @concat path t h hmove ih =>
    have hrank := Phase.rank_lt hmove
    rw [List.map_append, List.map_singleton, ← List.cons_append, List.forall_mem_append]
    exact ⟨fun entered hmem => (ih entered hmem).trans hrank.le, by simp⟩

/-- No phase is entered twice. -/
theorem nodup (h : Path first path phase) : (first :: path.map (·.target)).Nodup := by
  induction h with
  | nil => exact List.nodup_singleton first
  | @concat path t h hmove ih =>
    rw [List.map_append, List.map_singleton, ← List.cons_append, List.nodup_append']
    refine ⟨ih, List.nodup_singleton _, List.disjoint_singleton.2 fun hmem => ?_⟩
    exact absurd (h.rank_le t.target hmem) (Phase.rank_lt hmove).not_ge

end Path

/-! ### Attempts -/

namespace Session

/-- The transitions of a session lead from its first phase to its present one, and it is finished
when that is a last one. -/
structure Tracked (s : Session) : Prop where
  path : Path .initialization s.transitions s.phase
  finished : s.finishedAt.isSome = s.phase.isTerminal

/-- The session after attempts to move, of which those that are not allowed are refused. -/
def attempt (s : Session) (attempts : List (Phase × Instant)) : Session :=
  attempts.foldl (fun s a => s.enterIfAllowed a.1 a.2) s

variable {s : Session} {next : Phase} {time : Instant}

theorem enter?_eq_none_iff : s.enter? next time = none ↔ s.phase.mayMoveTo next = false := by
  rw [enter?]
  cases s.phase.mayMoveTo next <;> simp

/-- A move that is refused changes nothing. -/
theorem enterIfAllowed_of_refused (h : s.phase.mayMoveTo next = false) :
    s.enterIfAllowed next time = s := by
  rw [enterIfAllowed, enter?_eq_none_iff.2 h, Option.getD_none]

theorem tracked_start (mode : Mode) (time : Instant) : (start mode time).Tracked := ⟨.nil, rfl⟩

theorem Tracked.enterIfAllowed (h : s.Tracked) (next : Phase) (time : Instant) :
    (s.enterIfAllowed next time).Tracked := by
  cases hmove : s.phase.mayMoveTo next with
  | false => rwa [enterIfAllowed_of_refused hmove]
  | true =>
    have hopen := Phase.isTerminal_of_mayMoveTo hmove
    rw [Session.enterIfAllowed, enter?, if_pos hmove, Option.getD_some]
    refine ⟨.concat (t := ⟨s.phase, next, time⟩) h.path hmove, ?_⟩
    cases hlast : next.isTerminal with
    | true => simp
    | false => simpa [hopen] using h.finished

theorem tracked_attempt (h : s.Tracked) (attempts : List (Phase × Instant)) :
    (s.attempt attempts).Tracked := by
  induction attempts generalizing s with
  | nil => exact h
  | cons a attempts ih => exact ih (h.enterIfAllowed a.1 a.2)

end Session

/-! ### Sessions -/

/-- The phases of a session whose work is done. -/
def Mode.phases (mode : Mode) : List Phase :=
  [.initialization, .discovery, .changeDetection] ++
    (if mode.isDryRun then [] else [.synchronization]) ++ [.cleanup, .completed]

/-- The moves through some phases. -/
def movesThrough (phases : List Phase) : List (Phase × Phase) := phases.zip phases.tail

/-- The moves of a session. -/
def Session.moves (s : Session) : List (Phase × Phase) :=
  s.transitions.map fun t => (t.source, t.target)

/-- The session has done its work. -/
structure Session.Accomplished (mode : Mode) (s : Session) : Prop where
  phase : s.phase = .completed
  moves : s.moves = movesThrough mode.phases
  problems : s.problems = []

/-- The session failed, before or among its batches, and was cleaned up. -/
structure Session.Recovered (s : Session) : Prop where
  phase : s.phase = .failed
  moves : s.moves = movesThrough [.initialization, .cleanup, .failed] ∨
    s.moves = movesThrough [.initialization, .discovery, .cleanup, .failed]
  recoveryAttempted : s.recoveryAttempted = true
  problems : ∃ problem, s.problems = [problem]

namespace Processor

variable {p : Processor} {env : Surroundings} {db : Database} {ids : Option (List Int)}
  {mode : Mode}

/-- A session whose work is done has gone through all its phases. -/
theorem accomplished_close {selected : List Repository} {r : Run}
    (hcourse : r.course = (p.discovering env db mode selected).course) :
    (r.close env).session.Accomplished mode := by
  obtain ⟨time, hfirst⟩ := course_discovering p env db mode selected
  obtain ⟨t, t', hwork⟩ := r.course_finishWork env
  have hlast : (r.close env).session.course = (r.close env).course := rfl
  rw [Run.close, Run.course_enter, Run.course_enter, hwork, hcourse, hfirst] at hlast
  have hmoves := congrArg (fun c : Course => c.transitions.map fun t => (t.source, t.target)) hlast
  cases mode <;>
    exact ⟨congrArg Course.phase hlast, hmoves, congrArg Course.problems hlast⟩

/-- A session that has failed was cleaned up. -/
theorem recovered_recoverSession {e : ProcessorError} {r : Run}
    (hcourse : r.course = (p.firstRun env db mode).course ∨
      ∃ selected, r.course = (p.discovering env db mode selected).course) :
    (recoverSession env e r).session.Recovered := by
  obtain ⟨problem, t, t', hlast⟩ := r.course_recoverSession env e
  have hmoves := congrArg (fun c : Course => c.transitions.map fun t => (t.source, t.target)) hlast
  rcases hcourse with hcourse | ⟨selected, hcourse⟩
  · rw [hcourse] at hlast hmoves
    exact ⟨congrArg Course.phase hlast, .inl hmoves, congrArg Course.recoveryAttempted hlast,
      problem, congrArg Course.problems hlast⟩
  · obtain ⟨time, hfirst⟩ := course_discovering p env db mode selected
    rw [hcourse, hfirst] at hlast hmoves
    exact ⟨congrArg Course.phase hlast, .inr hmoves, congrArg Course.recoveryAttempted hlast,
      problem, congrArg Course.problems hlast⟩

/-- Selection fails with an error of the database or an unknown id. -/
theorem eq_store_or_unknown_of_select {e : ProcessorError} {now : Instant}
    (h : selectRepositories db env.faults ids mode now = .error e) :
    (∃ cause, e = .store cause) ∨ ∃ id, e = .unknownRepository id := by
  cases ids with
  | some ids =>
    obtain ⟨id, -, hid⟩ := Outcome.exists_of_mapM_eq_error h
    rw [selectId] at hid
    split at hid
    · exact .inl ⟨_, (Except.error.inj hid).symm⟩
    · exact .inr ⟨_, (Except.error.inj hid).symm⟩
    · cases hid
  | none =>
    obtain ⟨cause, -, rfl⟩ := Outcome.mapError_eq_error.1 h
    exact .inl ⟨cause, rfl⟩

end Processor

/-- **The phases of sessions.** Whatever moves a session attempts, its transitions lead without a
gap from its first phase to its present one, no phase is entered twice, there are at most five of
them, the session is finished exactly when its phase is a last one, and a move that is refused
changes nothing.

A session of an idle processor that ends with success has gone through the phases of its mode in
their order and reports no problem. One that fails was cleaned up and reports one problem; it failed
because of the database, an unknown id or a failure that ended it, and not because of a move that is
not allowed. -/
theorem processAll_phases (p : Processor) (hidle : p.isRunning = false) (env : Surroundings)
    (db : Database) (ids : Option (List Int)) (mode : Mode) :
    (∀ (mode : Mode) (time : Instant) (attempts : List (Phase × Instant)),
      let s := (Session.start mode time).attempt attempts
      Path .initialization s.transitions s.phase ∧
        (.initialization :: s.transitions.map (·.target)).Nodup ∧ s.transitions.length ≤ 5 ∧
        s.finishedAt.isSome = s.phase.isTerminal ∧
        ∀ next later, s.enter? next later = none → s.attempt [(next, later)] = s) ∧
    match (p.processAll env db ids mode).result with
    | .ok batch => batch.session.Accomplished mode
    | .error e => ∃ batch cause, e = .sessionFailed batch cause ∧ batch.session.Recovered ∧
      ∀ source target, cause ≠ .invalidTransition source target ∧
        e.cause ≠ .invalidTransition source target := by
  refine ⟨fun mode time attempts => ?_, ?_⟩
  · have htracked := Session.tracked_attempt (Session.tracked_start mode time) attempts
    refine ⟨htracked.path, htracked.path.nodup, ?_, htracked.finished,
      fun next later hrefused => ?_⟩
    · have hlength := htracked.path.length_le
      have hrank := Phase.rank_le ((Session.start mode time).attempt attempts).phase
      rw [Phase.rank] at hlength
      omega
    · exact Session.enterIfAllowed_of_refused (Session.enter?_eq_none_iff.1 hrefused)
  · obtain ⟨_, last, hends, -, hresult, -, -⟩ := Processor.processAll_ends hidle env db ids mode
    rw [hresult]
    cases hends with
    | @unselected e hselect =>
      have hcourse : (p.firstRun env db mode).read.course = (p.firstRun env db mode).course := rfl
      have hrecovered : (recoverSession env e (p.firstRun env db mode).read).session.Recovered :=
        Processor.recovered_recoverSession (.inl hcourse)
      refine ⟨_, _, rfl, hrecovered, fun source target => ?_⟩
      obtain ⟨cause, rfl⟩ | ⟨id, rfl⟩ := Processor.eq_store_or_unknown_of_select hselect
      · exact ⟨ProcessorError.noConfusion, ProcessorError.noConfusion⟩
      · exact ⟨ProcessorError.noConfusion, ProcessorError.noConfusion⟩
    | @aborted selected e ended r hselect hbatches =>
      have hrecovered : (recoverSession env e r).session.Recovered :=
        Processor.recovered_recoverSession (.inr ⟨_, hbatches.course_eq⟩)
      refine ⟨_, _, rfl, hrecovered, fun source target => ?_⟩
      obtain ⟨repository, rfl⟩ := hbatches.eq_aborted _ rfl
      exact ⟨ProcessorError.noConfusion, ProcessorError.noConfusion⟩
    | completed hselect hbatches => exact Processor.accomplished_close hbatches.course_eq

/-- A session over the small database goes through all phases. -/
theorem processAll_phases_sample :
    sampleProcessor.isRunning = false ∧
      ∃ batch, sampleSession.result = .ok batch ∧ batch.session.Accomplished .incremental := by
  have hphases := (processAll_phases sampleProcessor rfl sampleSurroundings sampleDatabase none
    .incremental).2
  obtain ⟨batch, hbatch, -⟩ := results_sample
  have hresult : (sampleProcessor.processAll sampleSurroundings sampleDatabase none
      .incremental).result = .ok batch := hbatch
  rw [hresult] at hphases
  exact ⟨rfl, batch, hbatch, hphases⟩

end PullWatch
