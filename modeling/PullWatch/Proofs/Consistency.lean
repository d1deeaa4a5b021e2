import PullWatch.Proofs.Reachable
import PullWatch.Proofs.Series

/-!
# What the store keeps for good

The operations on a store are few: repositories are registered, their monitoring starts and ends,
polls are recorded, and change sets are written. A change set may be anything: it may add what is
there already, or replace rows that do not exist. An operation that fails leaves the store as it is.

Every operation keeps the rules on all four tables, and it leaves every row in its place: rows are
added at the end, and what identifies a row is never written again. So no run of operations, however
long, makes two rows of one key or a row without its owner, and what a later state of the store
holds begins with what an earlier one held.

## Main definitions

* `Database.Linked`: the rules that hold of rows even if their texts do not decode.
* `Database.Consistent`: the rules on all four tables.
* `Database.Extends`: every row has stayed, with all that identifies it.
* `Database.Keeps`: the rules hold, and every row has stayed.
* `StoreOperation`, `Database.after`: operations, and the store after some of them.

## Main results

* `Database.Consistent.keeps_of_leadsTo`: a series of writes, and so a change set.
* `Database.Consistent.keeps_run`: one operation.
* `store_consistent`: all runs of operations.
* `Reachable.consistent`: the databases that sessions make.
-/

namespace PullWatch

/-- What is written once of a pull request's row: its owner, its number and its time of creation. -/
def PullRow.fixed (row : PullRow) : Int × Int64 × String :=
  (row.repositoryId, row.number, row.createdAt)

theorem PullRow.fixed_update (row : PullRow) (p : FetchedPullRequest) :
    (row.update p).fixed = row.fixed := rfl

theorem HistorySubject.name_inj {a b : HistorySubject} : a.name = b.name ↔ a = b := by
  constructor
  · intro h
    rw [← Option.some.injEq, ← ofName?_name a, h, ofName?_name]
  · rintro rfl
    rfl

namespace Database

variable {db db' db'' : Database} {id repositoryId : Int} {time : Instant}

/-! ### The rules -/

/-- The rules of the schema, and in addition: owner and name determine a repository, a pull request
belongs to a repository, and an entry of the history that is about a record is about one that
exists. -/
structure Linked (db : Database) : Prop extends Sound db where
  repositories : db.repositories.Keyed RepositoryRow.key
  homes : ∀ r ∈ db.pulls.rows, db.repositories.hasId r.2.repositoryId = true
  subjects : ∀ r ∈ db.history.rows, ∀ subject : HistorySubject, r.2.subject = subject.name →
    db.hasSubject r.2.subjectId subject = true

/-- The rules on all four tables: the ids of the history ascend as well, and every entry is about
some record. -/
structure Consistent (db : Database) : Prop extends Linked db where
  history : db.history.Ordered
  kinds : ∀ r ∈ db.history.rows, ∃ subject : HistorySubject, r.2.subject = subject.name

/-- Every row is where it was: the rows of the first database are the first ones of the second,
under their ids, with what identifies them, and the history has only grown at its end. -/
structure Extends (db db' : Database) : Prop where
  repositories : db.repositories.Extends RepositoryRow.key db'.repositories
  pulls : db.pulls.Extends PullRow.fixed db'.pulls
  checks : db.checks.Extends CheckRow.key db'.checks
  history : db.history.Extends (fun row => row) db'.history

namespace Extends

theorem refl (db : Database) : db.Extends db := ⟨.refl _, .refl _, .refl _, .refl _⟩

theorem trans (h : db.Extends db') (h' : db'.Extends db'') : db.Extends db'' :=
  ⟨h.repositories.trans h'.repositories, h.pulls.trans h'.pulls, h.checks.trans h'.checks,
    h.history.trans h'.history⟩

theorem hasSubject {subject : HistorySubject} (h : db.Extends db')
    (hid : db.hasSubject id subject = true) : db'.hasSubject id subject = true := by
  cases subject with
  | pullRequest => exact h.pulls.hasId hid
  | checkRun => exact h.checks.hasId hid

end Extends

theorem consistent_empty : empty.Consistent where
  toSound := .of_rows_eq_nil rfl rfl
  repositories := .empty 0
  homes := by simp [empty]
  subjects := by simp [empty]
  history := ⟨List.Pairwise.nil, by simp [empty]⟩
  kinds := by simp [empty]

/-! ### Single writes -/

variable {w : StoreWrite}

/-- No write moves a row, removes it or changes what identifies it. -/
theorem extends_run (hok : w.run db = .ok db') : db.Extends db' := by
  cases w with
  | insertPull repositoryId p =>
    obtain ⟨⟨id, s⟩, hinsert, rfl⟩ := Outcome.map_eq_ok.1 hok
    obtain ⟨-, -, -, rfl⟩ := insertPull_eq_ok.1 hinsert
    exact ⟨.refl _, db.pulls.extends_insert _, .refl _, .refl _⟩
  | updatePull id p =>
    obtain ⟨-, rfl⟩ := updatePull_eq_ok.1 hok
    exact ⟨.refl _, db.pulls.extends_change id fun row => row.fixed_update p, .refl _, .refl _⟩
  | insertCheck pullRequestId c =>
    obtain ⟨⟨id, s⟩, hinsert, rfl⟩ := Outcome.map_eq_ok.1 hok
    obtain ⟨-, -, -, rfl⟩ := insertCheck_eq_ok.1 hinsert
    exact ⟨.refl _, .refl _, db.checks.extends_insert _, .refl _⟩
  | updateCheck id c =>
    obtain ⟨-, rfl⟩ := updateCheck_eq_ok.1 hok
    exact ⟨.refl _, .refl _, db.checks.extends_change id fun row => row.key_update c, .refl _⟩
  | appendHistory e =>
    obtain rfl := Except.ok.inj hok
    exact ⟨.refl _, .refl _, .refl _, db.history.extends_insert _⟩

namespace Linked

/-- A write to pull requests or check runs keeps the rules if it keeps those of the schema and the
owners of pull requests. -/
theorem of_extends (h : db.Linked) (hsound : db'.Sound) (hextends : db.Extends db')
    (hrepositories : db'.repositories = db.repositories) (hhistory : db'.history = db.history)
    (hhomes : ∀ r ∈ db'.pulls.rows, db.repositories.hasId r.2.repositoryId = true) :
    db'.Linked where
  toSound := hsound
  repositories := hrepositories ▸ h.repositories
  homes := hrepositories ▸ hhomes
  subjects := fun r hr subject hsubject =>
    hextends.hasSubject (h.subjects r (hhistory ▸ hr) subject hsubject)

theorem run (h : db.Linked) (hapt : w.Apt db) (hok : w.run db = .ok db') : db'.Linked := by
  have hextends := extends_run hok
  cases w with
  | insertPull repositoryId p =>
    obtain ⟨⟨id, s⟩, hinsert, rfl⟩ := Outcome.map_eq_ok.1 hok
    have hsound := h.toSound.insertPull hinsert
    obtain ⟨-, hrepository, -, rfl⟩ := insertPull_eq_ok.1 hinsert
    exact h.of_extends hsound hextends rfl rfl
      (Table.forall_insert (P := fun row : PullRow => db.repositories.hasId row.repositoryId = true)
        h.homes hrepository)
  | updatePull id p =>
    have hsound := h.toSound.updatePull hok
    obtain ⟨-, rfl⟩ := updatePull_eq_ok.1 hok
    refine h.of_extends hsound hextends rfl rfl fun r hr => ?_
    obtain ⟨s, hs, rfl⟩ := Table.mem_change.1 hr
    have := h.homes s hs
    split_ifs <;> exact this
  | insertCheck pullRequestId c =>
    obtain ⟨⟨id, s⟩, hinsert, rfl⟩ := Outcome.map_eq_ok.1 hok
    have hsound := h.toSound.insertCheck hinsert
    obtain ⟨-, -, -, rfl⟩ := insertCheck_eq_ok.1 hinsert
    exact h.of_extends hsound hextends rfl rfl h.homes
  | updateCheck id c =>
    have hsound := h.toSound.updateCheck hok
    obtain ⟨-, rfl⟩ := updateCheck_eq_ok.1 hok
    exact h.of_extends hsound hextends rfl rfl h.homes
  | appendHistory e =>
    obtain rfl := Except.ok.inj hok
    exact
      { toSound := h.toSound.appendHistory e
        repositories := h.repositories
        homes := h.homes
        subjects := Table.forall_insert (P := fun row : HistoryRow => ∀ subject : HistorySubject,
            row.subject = subject.name → db.hasSubject row.subjectId subject = true) h.subjects
          fun _ hsubject => HistorySubject.name_inj.1 hsubject ▸ hapt }

/-- Repositories may be changed if their own rules hold and none of them disappears. -/
theorem withRepositories {repositories : Table RepositoryRow} (h : db.Linked)
    (hkeyed : repositories.Keyed RepositoryRow.key)
    (hextends : db.repositories.Extends RepositoryRow.key repositories) :
    Linked { db with repositories } where
  toSound := h.toSound.withRepositories repositories
  repositories := hkeyed
  homes := fun r hr => hextends.hasId (h.homes r hr)
  subjects := h.subjects

end Linked

namespace Consistent

/-- What writes no history keeps the rules on it. -/
theorem of_linked (h : db.Consistent) (hlinked : db'.Linked) (hhistory : db'.history = db.history) :
    db'.Consistent where
  toLinked := hlinked
  history := hhistory ▸ h.history
  kinds := hhistory ▸ h.kinds

theorem run (h : db.Consistent) (hapt : w.Apt db) (hok : w.run db = .ok db') : db'.Consistent := by
  have hlinked := h.toLinked.run hapt hok
  cases w with
  | insertPull repositoryId p =>
    obtain ⟨⟨id, s⟩, hinsert, rfl⟩ := Outcome.map_eq_ok.1 hok
    obtain ⟨-, -, -, rfl⟩ := insertPull_eq_ok.1 hinsert
    exact h.of_linked hlinked rfl
  | updatePull id p =>
    obtain ⟨-, rfl⟩ := updatePull_eq_ok.1 hok
    exact h.of_linked hlinked rfl
  | insertCheck pullRequestId c =>
    obtain ⟨⟨id, s⟩, hinsert, rfl⟩ := Outcome.map_eq_ok.1 hok
    obtain ⟨-, -, -, rfl⟩ := insertCheck_eq_ok.1 hinsert
    exact h.of_linked hlinked rfl
  | updateCheck id c =>
    obtain ⟨-, rfl⟩ := updateCheck_eq_ok.1 hok
    exact h.of_linked hlinked rfl
  | appendHistory e =>
    obtain rfl := Except.ok.inj hok
    exact
      { toLinked := hlinked
        history := h.history.insert _
        kinds := Table.forall_insert (P := fun row : HistoryRow => ∃ subject : HistorySubject,
          row.subject = subject.name) h.kinds ⟨e.subject, rfl⟩ }

end Consistent

/-! ### Series of writes -/

/-- The store after some writes obeys the rules and has kept every row. -/
structure Keeps (db db' : Database) : Prop where
  consistent : db'.Consistent
  rows : db.Extends db'

theorem Keeps.refl (h : db.Consistent) : db.Keeps db := ⟨h, .refl db⟩

/-- A series of writes keeps rules and rows. -/
theorem Consistent.keeps_of_leadsTo {kind : StoreWrite → Prop} (h : db.Consistent)
    (hleads : db.LeadsTo kind db') : db.Keeps db' := by
  induction hleads with
  | refl => exact .refl h
  | write _ _ hapt hok ih =>
    exact ⟨ih.consistent.run hapt hok, ih.rows.trans (extends_run hok)⟩

/-- A change set that is written keeps rules and rows, whatever it holds. -/
theorem Consistent.keeps_synchronize {faults : Faults} {chunkSize n : Nat} {changes : ChangeSet}
    (h : db.Consistent)
    (hok : synchronize faults chunkSize repositoryId time changes db = .ok (n, db')) :
    db.Keeps db' := by
  have hwritten : changes.WrittenBy (fun _ => True) repositoryId := by constructor <;> simp
  exact h.keeps_of_leadsTo (LeadsTo.refl.store hwritten (synchronize_eq_ok.1 hok).1)

/-! ### Operations on repositories -/

namespace Consistent

theorem keeps_insertRepository {r : NewRepository} (h : db.Consistent)
    (hok : db.insertRepository r = .ok (id, db')) : db.Keeps db' := by
  obtain ⟨hnew, -, rfl⟩ := insertRepository_eq_ok.1 hok
  have hextends :
      db.repositories.Extends RepositoryRow.key (db.repositories.insert (.ofNew r)).2 :=
    db.repositories.extends_insert _
  exact ⟨h.of_linked (h.toLinked.withRepositories (h.repositories.insert hnew) hextends) rfl,
    ⟨hextends, .refl _, .refl _, .refl _⟩⟩

/-- Neither the monitoring of a repository nor its polls identify it. -/
theorem keeps_modifyRepository {change : RepositoryRow → RepositoryRow} (h : db.Consistent)
    (hchange : ∀ row, (change row).key = row.key) (hok : db.modifyRepository id change = .ok db') :
    db.Keeps db' := by
  rw [modifyRepository_eq_ok hok]
  have hextends := db.repositories.extends_change id hchange
  exact ⟨h.of_linked (h.toLinked.withRepositories (h.repositories.change id hchange) hextends) rfl,
    ⟨hextends, .refl _, .refl _, .refl _⟩⟩

theorem keeps_setActive {isActive : Bool} (h : db.Consistent)
    (hok : db.setActive id isActive = .ok db') : db.Keeps db' := by
  refine h.keeps_modifyRepository ?_ hok
  intro row
  rfl

theorem keeps_markPolled (h : db.Consistent) (hok : db.markPolled id time = .ok db') :
    db.Keeps db' := by
  refine h.keeps_modifyRepository ?_ hok
  intro row
  rfl

end Consistent

end Database

/-! ### Runs of operations -/

/-- An operation on a store. The change set of a write is whatever its caller asks for. -/
inductive StoreOperation where
  | register (r : NewRepository)
  | setActive (id : Int) (isActive : Bool)
  | markPolled (id : Int) (time : Instant)
  | write (faults : Faults) (chunkSize : Nat) (repositoryId : Int) (time : Instant)
      (changes : ChangeSet)

/-- The database after an operation, if it succeeds. -/
def StoreOperation.run (db : Database) : StoreOperation → Except StoreError Database
  | register r => (db.insertRepository r).map (·.2)
  | setActive id isActive => db.setActive id isActive
  | markPolled id time => db.markPolled id time
  | write faults chunkSize repositoryId time changes =>
    (synchronize faults chunkSize repositoryId time changes db).map (·.2)

namespace Database

variable {db db' : Database}

/-- The database after some operations. One that fails leaves it as it is. -/
def after (db : Database) : List StoreOperation → Database
  | [] => db
  | op :: ops =>
    match op.run db with
    | .ok db' => db'.after ops
    | .error _ => db.after ops

theorem after_append (db : Database) (ops later : List StoreOperation) :
    db.after (ops ++ later) = (db.after ops).after later := by
  induction ops generalizing db with
  | nil => rfl
  | cons op ops ih =>
    rw [List.cons_append, after, after]
    cases op.run db with
    | ok db' => exact ih db'
    | error e => exact ih db

/-- One operation that succeeds keeps rules and rows. -/
theorem Consistent.keeps_run (h : db.Consistent) {op : StoreOperation}
    (hok : op.run db = .ok db') : db.Keeps db' := by
  cases op with
  | register r =>
    obtain ⟨⟨id, s⟩, hinsert, rfl⟩ := Outcome.map_eq_ok.1 hok
    exact h.keeps_insertRepository hinsert
  | setActive id isActive => exact h.keeps_setActive hok
  | markPolled id time => exact h.keeps_markPolled hok
  | write faults chunkSize repositoryId time changes =>
    obtain ⟨⟨n, s⟩, hwrite, rfl⟩ := Outcome.map_eq_ok.1 hok
    exact h.keeps_synchronize hwrite

/-- A run of operations keeps rules and rows. -/
theorem Consistent.keeps_after (h : db.Consistent) (ops : List StoreOperation) :
    db.Keeps (db.after ops) := by
  induction ops generalizing db with
  | nil => exact .refl h
  | cons op ops ih =>
    rw [after]
    cases hrun : op.run db with
    | error e => exact ih h
    | ok db' =>
      have hstep := h.keeps_run hrun
      have hrest := ih hstep.consistent
      exact ⟨hrest.consistent, hstep.rows.trans hrest.rows⟩

end Database

/-- **The store keeps its rules and its rows.** Whatever operations were made, beginning with the
empty database, the rules on all four tables hold. And whatever operations come later, they leave
every row where it is, with its id, its owner, its key and its time of creation, and the history as
the beginning of the later history. -/
theorem store_consistent (ops later : List StoreOperation) :
    (Database.empty.after ops).Consistent ∧
      (Database.empty.after ops).Extends (Database.empty.after (ops ++ later)) := by
  have hops := (Database.consistent_empty.keeps_after ops).consistent
  rw [Database.after_append]
  exact ⟨hops, (hops.keeps_after later).rows⟩

/-- The databases that sessions and passes make are consistent. -/
theorem Reachable.consistent {db : Database} (h : Reachable db) : db.Consistent := by
  induction h with
  | empty => exact Database.consistent_empty
  | register h hok ih => exact (ih.keeps_insertRepository hok).consistent
  | setActive h hok ih => exact (ih.keeps_setActive hok).consistent
  | markPolled h hok ih => exact (ih.keeps_markPolled hok).consistent
  | write h hok ih => exact (ih.keeps_synchronize hok).consistent

end PullWatch
