import PullWatch.Proofs.SessionViews

/-!
# What a session makes of each repository

When a session visits a repository once, and only after others, the database still holds of it the
dossiers that it held at the beginning. When the session is over the database holds of the
repository what that one pass has left, and the poll of the repository is recorded if the pass
succeeded. So what a session makes of a repository can be told without the others, whatever the
order of the visits.

## Main definitions

* `dossierView`: the dossiers of each repository, beside rows of repositories that no pass writes.
* `Visited`: the result of a pass over a repository that no other pass has touched, and the dossiers
  that it leaves.
* `Visits`: a session has visited some repositories.

## Main results

* `processAll_visits`: a session visits the repositories that it selects.
-/

namespace PullWatch

/-! ### Recorded polls -/

namespace Database

theorem dossiers_pollAll (db : Database) (ids : List Int) (time : Instant) :
    (db.pollAll ids time).dossiers = db.dossiers := by
  induction ids generalizing db with
  | nil => rfl
  | cons id ids ih => exact ih (db.poll time id)

theorem get?_poll (db : Database) (time : Instant) (polled id : Int) :
    (db.poll time polled).repositories.get? id =
      if id = polled then
        (db.repositories.get? id).map fun row => { row with lastPolledAt := some time.rfc3339 }
      else db.repositories.get? id :=
  Table.get?_change _ _ _ _

/-- The row of a repository after polls of several is the one after its own poll, if that is one of
them. -/
theorem get?_pollAll (db : Database) (ids : List Int) (time : Instant) (id : Int) :
    (db.pollAll ids time).repositories.get? id =
      if id ∈ ids then (db.poll time id).repositories.get? id else db.repositories.get? id := by
  induction ids generalizing db with
  | nil => rfl
  | cons other ids ih =>
    rw [show db.pollAll (other :: ids) time = (db.poll time other).pollAll ids time from rfl, ih]
    by_cases hother : id = other
    · simp [get?_poll, hother, Option.map_map, Function.comp_def]
    · simp [get?_poll, hother]

end Database

/-! ### Visits and dossiers -/

/-- Passes keep the links between rows and write no row of a repository. They leave the dossiers of
other repositories. -/
def dossierView (env : Surroundings) (config : Configuration) (mode : Mode) (start : Database) :
    SessionView env config mode (List PullDossier) where
  rule db := db.Linked ∧ db.repositories = start.repositories
  view db := db.dossiers
  spares now repository db cache hdb hcache := by
    intro pass
    have hwithin : Database.Within repository.context.id db pass.db := runPass_within hcache hdb.1
    exact ⟨⟨hwithin.linked, hwithin.repositories.trans hdb.2⟩, hwithin.others⟩

variable {env : Surroundings} {config : Configuration} {mode : Mode} {start : Database}

/-- A pass over a repository, made when the database holds of it what it held at the start and the
cache holds nothing of it, has the result and leaves the dossiers. -/
abbrev Visited (env : Surroundings) (config : Configuration) (mode : Mode) (start : Database) :
    Repository → RepositoryResult → List PullDossier → Prop :=
  (dossierView env config mode start).Visited start

/-- The session has visited some repositories, each once, and no others. -/
abbrev Visits (env : Surroundings) (config : Configuration) (mode : Mode) (start : Database) :
    List Repository → Run → Prop :=
  (dossierView env config mode start).Visits start

namespace Visits

variable {done : List Repository} {r : Run}

theorem repositories (h : Visits env config mode start done r) :
    r.db.repositories = start.repositories :=
  h.rule.2

theorem visited (h : Visits env config mode start done r) :
    ∀ repository ∈ done, ∃ result, resultsFor repository.id r.results = [result] ∧
      Visited env config mode start repository result (r.db.dossiers repository.id) :=
  SessionView.Visits.visited h

theorem others (h : Visits env config mode start done r) :
    ∀ id ∉ done.map (·.id),
      resultsFor id r.results = [] ∧ r.db.dossiers id = start.dossiers id :=
  SessionView.Visits.others h

end Visits

/-- A session of an idle processor with an empty cache visits what it selects, records the polls and
ends with success. -/
theorem Processor.processAll_visits {p : Processor} {db : Database} {ids : Option (List Int)}
    {selected : List Repository} (hidle : p.isRunning = false) (hopen : p.isShutdown = false)
    (hcache : p.cache.entries = []) (hstop : p.config.stopOnFirstError = false)
    (hshutdown : ∀ m n, env.isShutdown m n = false) (hdb : db.Linked)
    (hselect : selectRepositories db env.faults ids mode (env.clock 1).time = .ok selected)
    (hnodup : (selected.map (·.id)).Nodup) :
    let o := p.processAll env db ids mode
    (∃ batch, o.result = .ok batch) ∧ ∃ before n,
      Visits env p.config mode db selected before ∧ o.results = before.results ∧
        o.db =
          before.db.pollAll (polledIds env.faults mode before.results) (env.clock n).time :=
  (dossierView env p.config mode db).processAll_visits hidle hopen hcache hstop hshutdown
    ⟨hdb, rfl⟩ hselect hnodup

end PullWatch
