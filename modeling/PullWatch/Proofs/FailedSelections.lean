import PullWatch.Proofs.SessionPhases

/-!
# Sessions that select nothing

The repositories of a session are selected before anything else is done, in the order of the given
ids or of the rows, and the first one that cannot be selected ends the session. It has read the
database and nothing more: no request was sent, nothing was written, and the cache, which a full
session empties only when it knows its repositories, is as it was.

## Main definitions

* `Database.SelectsNone`: a selection meets an id without a row or a row that does not decode.
* `Database.FailsFirst`: the first failure of a selection.

## Main results

* `failsFirst_of_select`: a selection fails with its first failure.
* `exists_select_eq_error`: a selection that meets such an id or such a row fails.
* `failed_selection_inert`: such a session has done nothing.
-/

namespace PullWatch

variable {p : Processor} {env : Surroundings} {db : Database} {faults : Faults}
  {ids : Option (List Int)} {mode : Mode} {cause : ProcessorError} {now : Instant}

/-! ### Selections that fail -/

namespace Database

/-- A selection meets an id without a row, or a row that does not decode. Without given ids it reads
the rows of all monitored repositories. -/
def SelectsNone (db : Database) : Option (List Int) → Prop
  | some ids => ∃ id ∈ ids, db.repository? id = .ok none ∨ ∃ e, db.repository? id = .error e
  | none => ∃ r ∈ db.repositories.rows, r.2.isActive = true ∧ ∃ e, r.2.decode r.1 = .error e

/-- The cause is the first failure that a selection meets: an id without a row, an error of reading
the row of an id, or an error of reading the rows of all monitored repositories. -/
def FailsFirst (db : Database) (faults : Faults) (cause : ProcessorError) :
    Option (List Int) → Prop
  | some ids => ∃ before id after, ids = before ++ id :: after ∧
      (∀ i ∈ before, ∃ repository,
        Faults.strike (faults.repository i) (db.repository? i) = .ok (some repository)) ∧
      (Faults.strike (faults.repository id) (db.repository? id) = .ok none ∧
          cause = .unknownRepository id ∨
        ∃ e, Faults.strike (faults.repository id) (db.repository? id) = .error e ∧ cause = .store e)
  | none => ∃ e, cause = .store e ∧
      (faults.active = some e ∨ faults.active = none ∧ ∃ before r after,
        (db.repositories.select fun row => row.isActive) = before ++ r :: after ∧
        (∀ s ∈ before, ∃ repository, s.2.decode s.1 = .ok repository) ∧ r.2.decode r.1 = .error e)

end Database

/-- A selection without given ids fails as reading the monitored repositories does. -/
theorem selectRepositories_none_eq_error :
    selectRepositories db faults none mode now = .error cause ↔
      ∃ e, Faults.strike faults.active db.activeRepositories = .error e ∧ .store e = cause := by
  cases mode <;> simp only [selectRepositories, Outcome.mapError_eq_error, Faults.strike_eq_error,
    Database.needingPoll, Outcome.map_eq_error]

/-- A selection fails with its first failure. -/
theorem failsFirst_of_select (h : selectRepositories db faults ids mode now = .error cause) :
    db.FailsFirst faults cause ids := by
  cases ids with
  | some ids =>
    obtain ⟨before, id, after, hids, hbefore, hid⟩ := Outcome.mapM_eq_error_iff.1 h
    exact ⟨before, id, after, hids, fun i hi => (hbefore i hi).imp fun _ => selectId_eq_ok.1,
      selectId_eq_error.1 hid⟩
  | none =>
    obtain ⟨e, hread, rfl⟩ := selectRepositories_none_eq_error.1 h
    refine ⟨e, rfl, (Faults.strike_eq_error.1 hread).imp_right fun ⟨hspared, hactive⟩ => ?_⟩
    exact ⟨hspared, Outcome.mapM_eq_error_iff.1 hactive⟩

/-- A selection that meets such an id or such a row fails. -/
theorem exists_select_eq_error (h : db.SelectsNone ids) (faults : Faults) (mode : Mode)
    (now : Instant) : ∃ cause, selectRepositories db faults ids mode now = .error cause := by
  cases hselect : selectRepositories db faults ids mode now with
  | error cause => exact ⟨cause, rfl⟩
  | ok selected =>
    exfalso
    cases ids with
    | some ids =>
      obtain ⟨id, hid, hmissing⟩ := h
      obtain ⟨repository, -, hselected⟩ := Outcome.mapM_mem hselect hid
      have hread := Faults.strike_eq_ok (selectId_eq_ok.1 hselected)
      rcases hmissing with hnone | ⟨e, herror⟩
      · cases hnone.symm.trans hread
      · cases herror.symm.trans hread
    | none =>
      obtain ⟨r, hr, hactive, e, herror⟩ := h
      obtain ⟨monitored, hmonitored, -⟩ := exists_active_of_select hselect
      obtain ⟨repository, -, hdecoded⟩ :=
        Outcome.mapM_mem hmonitored (List.mem_filter.2 ⟨hr, hactive⟩)
      cases herror.symm.trans hdecoded

/-! ### Sessions whose selection fails -/

/-- An idle processor takes the next call. -/
theorem Processor.processAll_accepted (hidle : p.isRunning = false) :
    (p.processAll env db ids mode).result ≠ .error .alreadyRunning := by
  obtain ⟨_, last, hends, -, hresult, -, -⟩ := processAll_ends hidle env db ids mode
  rw [hresult]
  cases hends with
  | unselected | aborted | completed => exact nofun

/-- **A failed selection does nothing.** A session of an idle processor, in whatever mode, some of
whose given ids have no row, or whose selection meets a row that does not decode, fails. It has no
results, and its cause is the first failure that the selection met. It has sent no request and
leaves the database and the cache as they were. The processor shows no session and takes the next
call. -/
theorem failed_selection_inert (p : Processor) (hidle : p.isRunning = false) (env : Surroundings)
    (db : Database) (ids : Option (List Int)) (mode : Mode) (h : db.SelectsNone ids) :
    let o := p.processAll env db ids mode
    (∃ session cause, o.result = .error (.sessionFailed { session, results := [] } cause) ∧
      db.FailsFirst env.faults cause ids ∧ session.phase = .failed ∧
      session.moves = movesThrough [.initialization, .cleanup, .failed]) ∧
    o.db = db ∧ o.processor.cache = p.cache ∧ (∀ call, .sent call ∉ o.trace) ∧
    o.processor.status = .idle ∧ o.processor.isRunning = false ∧
    ∀ env' db' ids' mode',
      (o.processor.processAll env' db' ids' mode').result ≠ .error .alreadyRunning := by
  intro o
  obtain ⟨cause, hselect⟩ := exists_select_eq_error h env.faults mode (env.clock 1).time
  have hended : o = _ := Processor.processAll_eq_of_unselected hidle hselect
  rw [hended]
  refine ⟨⟨_, cause, rfl, failsFirst_of_select hselect, rfl, rfl⟩, rfl, rfl,
    fun call hcall => ?_, rfl, rfl, fun env' db' ids' mode' => Processor.processAll_accepted rfl⟩
  cases List.mem_singleton.1 hcall

/-- A full session over two ids, the second of which has no row. -/
theorem failed_selection_inert_sample :
    sampleProcessor.isRunning = false ∧ sampleDatabase.SelectsNone (some [1, 9]) ∧
      (sampleProcessor.processAll sampleSurroundings sampleDatabase (some [1, 9]) .full).db =
        sampleDatabase := by
  have hmissing : sampleDatabase.SelectsNone (some [1, 9]) :=
    ⟨9, List.mem_cons_of_mem _ (List.mem_singleton_self _), .inl rfl⟩
  exact ⟨rfl, hmissing, (failed_selection_inert sampleProcessor rfl sampleSurroundings
    sampleDatabase (some [1, 9]) .full hmissing).2.1⟩

end PullWatch
