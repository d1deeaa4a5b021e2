import PullWatch.Proofs.Fitting
import PullWatch.Proofs.Passes
import PullWatch.Proofs.Sessions

/-!
# Databases that the program makes

Beginning with the empty database, the program registers repositories, starts and ends their
monitoring, records polls and writes change sets. Sessions and passes are made of these operations.
All of them keep the rules of the schema, whatever the change sets are.

In a database that the program made, a pass is rolled back for one reason only: discovery found a
record twice that has no row yet. A repeated record that has a row is replaced twice.

## Main definitions

* `Reachable`: the databases that the program makes.

## Main results

* `Reachable.sound`: such a database obeys the rules of the schema.
* `Reachable.processAll`, `Reachable.processOne`: sessions and passes lead to such databases.
* `rolledBack_iff_repeats`: when a pass over such a database is rolled back.
-/

namespace PullWatch

open GitHub (Service)

/-! ### Reachable databases -/

/-- The databases that the program makes, beginning with the empty one. -/
inductive Reachable : Database → Prop
  | empty : Reachable .empty
  | register {db db' : Database} {r : NewRepository} {id : Int} (h : Reachable db)
      (hok : db.insertRepository r = .ok (id, db')) : Reachable db'
  | setActive {db db' : Database} {id : Int} {isActive : Bool} (h : Reachable db)
      (hok : db.setActive id isActive = .ok db') : Reachable db'
  | markPolled {db db' : Database} {id : Int} {time : Instant} (h : Reachable db)
      (hok : db.markPolled id time = .ok db') : Reachable db'
  | write {db db' : Database} {faults : Faults} {chunkSize n : Nat} {repositoryId : Int}
      {time : Instant} {changes : ChangeSet} (h : Reachable db)
      (hok : synchronize faults chunkSize repositoryId time changes db = .ok (n, db')) :
      Reachable db'

/-- What identifies a repository. -/
def RepositoryRow.key (row : RepositoryRow) : String × String := (row.owner, row.name)

theorem Database.insertRepository_eq_ok {db db' : Database} {r : NewRepository} {id : Int} :
    db.insertRepository r = .ok (id, db') ↔
      (∀ row ∈ db.repositories.rows, row.2.key ≠ (r.owner, r.name)) ∧
        id = db.repositories.lastId + 1 ∧
        db' = { db with repositories := (db.repositories.insert (.ofNew r)).2 } := by
  have hany : (db.repositories.any fun row => row.owner = r.owner ∧ row.name = r.name) = false ↔
      ∀ row ∈ db.repositories.rows, row.2.key ≠ (r.owner, r.name) := by
    simp [Table.any, RepositoryRow.key]
  rw [insertRepository, ← hany]
  cases db.repositories.any fun row => row.owner = r.owner ∧ row.name = r.name <;> simp [eq_comm]

namespace Reachable

variable {db : Database}

/-- A database that the program made obeys the rules of the schema. -/
theorem sound (h : Reachable db) : db.Sound := by
  induction h with
  | empty => exact .of_rows_eq_nil rfl rfl
  | register h hok ih =>
    obtain ⟨-, -, rfl⟩ := Database.insertRepository_eq_ok.1 hok
    exact ih.withRepositories _
  | setActive h hok ih =>
    rw [Database.modifyRepository_eq_ok hok]
    exact ih.withRepositories _
  | markPolled h hok ih =>
    rw [Database.modifyRepository_eq_ok hok]
    exact ih.withRepositories _
  | write h hok ih => exact ih.store (synchronize_eq_ok.1 hok).1

theorem runPass (h : Reachable db) (service : Service) (config : Configuration) (faults : Faults)
    (now : Moment) (repo : RepositoryContext) (since : Option Instant) (isTrial : Bool)
    (cache : Cache) :
    Reachable (PullWatch.runPass service config faults now repo since isTrial db cache).db := by
  have houtcome : PassOutcome service config faults now repo since isTrial db db cache
      (PullWatch.runPass service config faults now repo since isTrial db cache) :=
    passOutcome_runPass
  cases houtcome with
  | undiscovered _ _ _ hdb => rwa [hdb]
  | undetected _ _ _ _ hdb => rwa [hdb]
  | rolledBack _ _ _ _ _ _ _ _ hdb => rwa [hdb]
  | completed _ _ _ _ _ hdb =>
    rcases hdb with ⟨-, hdb⟩ | ⟨-, n, hwrite⟩
    · rwa [hdb]
    · exact h.write hwrite

theorem poll (h : Reachable db) (time : Instant) (id : Int) : Reachable (db.poll time id) := by
  cases hid : db.repositories.hasId id with
  | true =>
    have hok : db.markPolled id time = .ok (db.poll time id) := by
      rw [Database.markPolled, Database.modifyRepository, Table.modify?_eq, if_pos hid]
      rfl
    exact h.markPolled hok
  | false => rwa [Database.poll_of_hasId_eq_false hid]

theorem pollAll (h : Reachable db) (ids : List Int) (time : Instant) :
    Reachable (db.pollAll ids time) := by
  induction ids generalizing db with
  | nil => exact h
  | cons id ids ih => exact ih (h.poll time id)

theorem processAll (h : Reachable db) (p : Processor) (env : Surroundings)
    (ids : Option (List Int)) (mode : Mode) : Reachable (p.processAll env db ids mode).db := by
  let bounds : SessionBounds env p.config mode :=
    { database := Reachable, cache := fun _ _ => True
      write := fun h hok => h.write hok
      discover := fun _ _ _ _ => trivial, drop := fun _ _ => trivial, clear := fun _ => trivial
      later := fun _ _ => trivial }
  obtain ⟨before, polled, time, hbefore, hdb⟩ :=
    (Processor.processAll_ended (B := bounds) h trivial ids).polls
  rw [hdb]
  exact hbefore.pollAll polled _

theorem processOne (h : Reachable db) (p : Processor) (env : Surroundings) (id : Int)
    (since : Option Instant) (isTrial : Bool) :
    Reachable (p.processOne env db id since isTrial).db := by
  rw [Processor.processOne]
  cases selectId db env.faults id with
  | error e => exact h
  | ok repository => exact h.runPass _ _ _ _ _ _ _ _

end Reachable

/-! ### Rollbacks -/

variable {db : Database} {repo : RepositoryContext}

/-- A pass over a reachable database is rolled back exactly when discovery found a record twice that
has no row. -/
theorem rolledBack_iff_repeats (hdb : Reachable db)
    (hrepository : db.repositories.hasId repo.id = true) (service : Service)
    (config : Configuration) (now : Moment) (since : Option Instant) (cache : Cache) :
    (runPass service config .never now repo since false db cache).result.failedPhase =
        some .synchronizationFailure ↔
      ∃ f changes, (discover service config now repo since cache).1 = .ok f ∧
        detect db .never repo.id f = .ok changes ∧
        ¬ ((f.newNumbers db repo.id).Nodup ∧ (f.newCheckKeys db repo.id).Nodup) := by
  rw [runPass_eq, rolledBack_iff]
  refine exists_congr fun f => exists_congr fun changes => ?_
  rw [exists_and_left, exists_and_left]
  refine and_congr_right fun _ => and_congr_right fun hdetect => ?_
  obtain ⟨hread, rfl⟩ := detect_eq_ok_iff.1 hdetect
  rw [exists_synchronize_eq_error_iff,
    ← Database.store_changesFor_iff hdb.sound hrepository hread now.time]
  simp only [Faults.Spare.about_never, and_true]

theorem reachable_sample : Reachable sampleDatabase :=
  .register (r := { owner := "acme", name := "widgets" }) .empty rfl

/-- The sample listing shifts while it is read, and its pull request is discovered twice. -/
theorem rolledBack_iff_repeats_sample :
    ∃ f changes,
      (discover (sampleService true) {} sampleMoment sampleRepository none sampleCache).1 = .ok f ∧
        detect sampleDatabase .never sampleRepository.id f = .ok changes ∧
        ¬ ((f.newNumbers sampleDatabase sampleRepository.id).Nodup ∧
          (f.newCheckKeys sampleDatabase sampleRepository.id).Nodup) :=
  (rolledBack_iff_repeats reachable_sample rfl (sampleService true) {} sampleMoment none
    sampleCache).1 (by decide +kernel)

/-- A listing that shifts while it is read is enough to roll a pass back. -/
theorem not_forall_pass_written :
    ¬ ∀ (service : Service) (config : Configuration) (now : Moment) (repo : RepositoryContext)
      (since : Option Instant) (db : Database) (cache : Cache), Reachable db →
        db.repositories.hasId repo.id = true →
          (runPass service config .never now repo since false db cache).result.failedPhase ≠
            some .synchronizationFailure := by
  intro h
  exact h (sampleService true) {} sampleMoment sampleRepository none sampleDatabase sampleCache
    reachable_sample rfl (by decide +kernel)

end PullWatch
