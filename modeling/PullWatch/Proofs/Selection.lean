import PullWatch.Processor
import PullWatch.Proofs.Outcome
import PullWatch.Proofs.Table

/-!
# Repositories of the database

A session selects repositories of its database, and at its end their rows are changed by the polls
that it records. A recorded poll changes the time of the last poll and nothing else.

## Main definitions

* `Database.Holds`: a repository is one of the database.
* `Database.poll`, `Database.pollAll`: the database after recorded polls.

## Main results

* `selectId_eq_ok`, `selectId_eq_error`: what selecting a repository by its id comes to.
* `holds_of_selectRepositories`: a session selects repositories of its database.
* `Database.markPolled_eq_ok`: what recording a poll does.
-/

namespace PullWatch

/-! ### Rows of repositories -/

theorem Faults.strike_eq_ok {α : Type} {fault : Option StoreError} {x : Except StoreError α} {a : α}
    (h : Faults.strike fault x = .ok a) : x = .ok a := by
  cases fault with
  | none => exact h
  | some e => cases h

theorem Faults.strike_eq_error {α : Type} {fault : Option StoreError} {x : Except StoreError α}
    {e : StoreError} :
    Faults.strike fault x = .error e ↔ fault = some e ∨ fault = none ∧ x = .error e := by
  cases fault <;> simp [Faults.strike]

theorem RepositoryRow.decode_eq_ok {row : RepositoryRow} {id : Int} {repository : Repository} :
    row.decode id = .ok repository ↔
      ∃ lastPolledAt, Column.decode? ⟨"repositories", "last_polled_at"⟩ Column.time
          row.lastPolledAt = .ok lastPolledAt ∧
        { id, owner := row.owner, name := row.name, isActive := row.isActive
          pollingInterval := row.pollingInterval, priority := row.priority
          lastPolledAt } = repository := by
  rw [RepositoryRow.decode, Outcome.bind_eq_ok]
  simp only [Except.ok.injEq]

/-- The repository is one of the database. -/
def Database.Holds (db : Database) (repository : Repository) : Prop :=
  ∃ row, (repository.id, row) ∈ db.repositories.rows ∧ row.decode repository.id = .ok repository

namespace Database

variable {db db' : Database} {id : Int} {repository : Repository} {time : Instant}

theorem holds_of_decode {row : RepositoryRow} (hrow : (id, row) ∈ db.repositories.rows)
    (h : row.decode id = .ok repository) : repository.id = id ∧ db.Holds repository := by
  obtain ⟨lastPolledAt, -, hdecoded⟩ := RepositoryRow.decode_eq_ok.1 h
  obtain rfl : id = repository.id := by rw [← hdecoded]
  exact ⟨rfl, row, hrow, h⟩

theorem holds_of_repository? (h : db.repository? id = .ok (some repository)) :
    repository.id = id ∧ db.Holds repository := by
  rw [repository?] at h
  split at h
  · cases h
  · rename_i row hrow
    obtain ⟨decoded, hdecode, hsome⟩ := Outcome.map_eq_ok.1 h
    obtain rfl := Option.some.inj hsome
    obtain ⟨⟨id', row'⟩, hfind, rfl⟩ := Option.map_eq_some_iff.1 hrow
    have hid : id' = id := by simpa using List.find?_some hfind
    exact holds_of_decode (hid ▸ List.mem_of_find?_eq_some hfind) hdecode

theorem holds_of_active {repositories : List Repository}
    (h : db.activeRepositories = .ok repositories) (hmem : repository ∈ repositories) :
    db.Holds repository := by
  obtain ⟨r, hr, hdecode⟩ := Outcome.exists_of_mem_mapM h hmem
  exact (holds_of_decode (List.mem_filter.1 hr).1 hdecode).2

end Database

/-! ### Selection -/

theorem Repository.mem_sortByUrgency {repositories : List Repository} {repository : Repository} :
    repository ∈ sortByUrgency repositories ↔ repository ∈ repositories :=
  (List.mergeSort_perm repositories _).mem_iff

section Selection

variable {db : Database} {faults : Faults} {id : Int} {ids : Option (List Int)} {mode : Mode}
  {now : Instant} {repository : Repository} {repositories : List Repository} {cause : ProcessorError}

theorem selectId_eq_ok :
    selectId db faults id = .ok repository ↔
      Faults.strike (faults.repository id) (db.repository? id) = .ok (some repository) := by
  rw [selectId]
  rcases Faults.strike (faults.repository id) (db.repository? id) with e | (_ | found) <;> simp

theorem selectId_eq_error :
    selectId db faults id = .error cause ↔
      Faults.strike (faults.repository id) (db.repository? id) = .ok none ∧
          cause = .unknownRepository id ∨
        ∃ e, Faults.strike (faults.repository id) (db.repository? id) = .error e ∧ cause = .store e := by
  rw [selectId]
  rcases Faults.strike (faults.repository id) (db.repository? id) with e | (_ | found) <;>
    simp [eq_comm]

theorem holds_of_selectId (h : selectId db faults id = .ok repository) : db.Holds repository :=
  (Database.holds_of_repository? (Faults.strike_eq_ok (selectId_eq_ok.1 h))).2

/-- A selection without given ids takes some of the monitored repositories, all of which it has
read. -/
theorem exists_active_of_select
    (h : selectRepositories db faults none mode now = .ok repositories) :
    ∃ active, db.activeRepositories = .ok active ∧ repositories ⊆ active := by
  cases mode with
  | incremental =>
    have hdue := Faults.strike_eq_ok (Outcome.mapError_eq_ok.1 h)
    obtain ⟨active, hactive, rfl⟩ := Outcome.map_eq_ok.1 hdue
    refine ⟨active, hactive, fun repository hmem => ?_⟩
    rw [Repository.needingPoll, Repository.mem_sortByUrgency] at hmem
    exact (List.mem_filter.1 hmem).1
  | full | dryRun =>
    obtain ⟨active, hactive, rfl⟩ := Outcome.map_eq_ok.1 (Outcome.mapError_eq_ok.1 h)
    exact ⟨active, Faults.strike_eq_ok hactive, fun _ => Repository.mem_sortByUrgency.1⟩

/-- A session selects repositories of its database. -/
theorem holds_of_selectRepositories
    (h : selectRepositories db faults ids mode now = .ok repositories) :
    ∀ repository ∈ repositories, db.Holds repository := by
  intro repository hmem
  cases ids with
  | some ids =>
    obtain ⟨id, -, hselect⟩ := Outcome.exists_of_mem_mapM h hmem
    exact holds_of_selectId hselect
  | none =>
    obtain ⟨active, hactive, hsubset⟩ := exists_active_of_select h
    exact Database.holds_of_active hactive (hsubset hmem)

end Selection

/-! ### Recorded polls -/

namespace Database

variable {db db' : Database} {id : Int} {time : Instant}

/-- The database after a poll of a repository was recorded. -/
def poll (db : Database) (time : Instant) (id : Int) : Database :=
  { db with
    repositories :=
      db.repositories.change id fun row => { row with lastPolledAt := some time.rfc3339 } }

/-- The database after polls of repositories were recorded with one time. -/
def pollAll (db : Database) (ids : List Int) (time : Instant) : Database :=
  ids.foldl (fun db id => db.poll time id) db

theorem modifyRepository_eq_ok {change : RepositoryRow → RepositoryRow}
    (h : db.modifyRepository id change = .ok db') :
    db' = { db with repositories := db.repositories.change id change } := by
  rw [modifyRepository, Table.modify?_eq] at h
  split_ifs at h
  exact (Except.ok.inj h).symm

theorem markPolled_eq_ok (h : db.markPolled id time = .ok db') : db' = db.poll time id :=
  modifyRepository_eq_ok h

theorem poll_of_hasId_eq_false (h : db.repositories.hasId id = false) : db.poll time id = db := by
  rw [poll, Table.change_of_hasId_eq_false h]

@[simp] theorem pollAll_nil : db.pollAll [] time = db := rfl

/-- Recorded polls change the repositories only, and read nothing else. -/
theorem repositories_pollAll {db db' : Database} (h : db.repositories = db'.repositories)
    (ids : List Int) (time : Instant) :
    (db.pollAll ids time).repositories = (db'.pollAll ids time).repositories := by
  induction ids generalizing db db' with
  | nil => exact h
  | cons id ids ih => exact ih (by simp only [poll, h])

theorem pollAll_append (ids later : List Int) :
    db.pollAll (ids ++ later) time = (db.pollAll ids time).pollAll later time := by
  simp [pollAll]

theorem pollAll_concat (ids : List Int) :
    db.pollAll (ids ++ [id]) time = (db.pollAll ids time).poll time id := pollAll_append ids [id]

end Database

end PullWatch
