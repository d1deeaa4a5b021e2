import PullWatch.Proofs.Dossiers
import PullWatch.Proofs.Pairs

/-!
# Transactions abreast

Two transactions make the same changes to one repository, each in a database of its own. The
databases hold the same dossiers of the repository, and may hold anything of all others, so that ids
differ. The transactions then succeed with the same number of rows or fail with the same error,
struck by the same faults, and the dossiers of the repository are the same afterwards. Neither
touches the dossiers of another repository.

## Main definitions

* `Database.Within`, `Database.Abreast`: what transactions about one repository have come to.
* `ChangeSet.Matches`: two change sets are the same but for ids.

## Main results

* `Database.Abreast.insertPull` and the like: the writes of transactions.
* `both_synchronize`: the writing of change sets.
-/

namespace PullWatch

open Outcome (Both)

/-! ### Two databases -/

namespace Database

variable {start start' db db' : Database} {repositoryId id : Int} {number externalId : UInt64}

/-- What a transaction about one repository has come to: the rules hold, every row is where it was,
and neither the repositories nor the dossiers of another one have changed. -/
structure Within (repositoryId : Int) (start db : Database) : Prop where
  linked : db.Linked
  rows : start.Extends db
  repositories : db.repositories = start.repositories
  others : ∀ other, other ≠ repositoryId → db.dossiers other = start.dossiers other

/-- What two transactions about one repository have come to: they have kept within it, and hold the
same dossiers of it. -/
structure Abreast (repositoryId : Int) (start start' db db' : Database) : Prop where
  left : Within repositoryId start db
  right : Within repositoryId start' db'
  known : db.repositories.hasId repositoryId = db'.repositories.hasId repositoryId
  dossiers : db.dossiers repositoryId = db'.dossiers repositoryId

theorem Within.refl (h : db.Linked) : Within repositoryId db db :=
  ⟨h, .refl db, rfl, fun _ _ => rfl⟩

theorem Abreast.refl (h : db.Linked) (h' : db'.Linked)
    (hknown : db.repositories.hasId repositoryId = db'.repositories.hasId repositoryId)
    (hdossiers : db.dossiers repositoryId = db'.dossiers repositoryId) :
    Abreast repositoryId db db' db db' := ⟨.refl h, .refl h', hknown, hdossiers⟩

/-- No write touches the repositories. -/
theorem repositories_run {w : StoreWrite} (hok : w.run db = .ok db') :
    db'.repositories = db.repositories := by
  cases w with
  | insertPull repositoryId p =>
    obtain ⟨⟨id, s⟩, hinsert, rfl⟩ := Outcome.map_eq_ok.1 hok
    obtain ⟨-, -, -, rfl⟩ := insertPull_eq_ok.1 hinsert
    rfl
  | updatePull id p =>
    obtain ⟨-, rfl⟩ := updatePull_eq_ok.1 hok
    rfl
  | insertCheck pullRequestId c =>
    obtain ⟨⟨id, s⟩, hinsert, rfl⟩ := Outcome.map_eq_ok.1 hok
    obtain ⟨-, -, -, rfl⟩ := insertCheck_eq_ok.1 hinsert
    rfl
  | updateCheck id c =>
    obtain ⟨-, rfl⟩ := updateCheck_eq_ok.1 hok
    rfl
  | appendHistory e =>
    obtain rfl := Except.ok.inj hok
    rfl

/-- A write that changes the dossiers of the repository keeps within it. -/
theorem Within.write {w : StoreWrite} {dossiers : List PullDossier}
    (h : Within repositoryId start db) (hapt : w.Apt db) (hok : w.run db = .ok db')
    (hdossiers : db'.dossiers = Function.update db.dossiers repositoryId dossiers) :
    Within repositoryId start db' where
  linked := h.linked.run hapt hok
  rows := h.rows.trans (extends_run hok)
  repositories := (repositories_run hok).trans h.repositories
  others other hother := by
    rw [hdossiers, Function.update_of_ne hother, h.others other hother]

/-- Writes that change the dossiers in the same way keep abreast. -/
theorem Abreast.write (w w' : StoreWrite) {next next' : Database}
    (edit : List PullDossier → List PullDossier)
    (h : Abreast repositoryId start start' db db') (hapt : w.Apt db) (hapt' : w'.Apt db')
    (hok : w.run db = .ok next) (hok' : w'.run db' = .ok next')
    (hdossiers : next.dossiers =
      Function.update db.dossiers repositoryId (edit (db.dossiers repositoryId)))
    (hdossiers' : next'.dossiers =
      Function.update db'.dossiers repositoryId (edit (db'.dossiers repositoryId))) :
    Abreast repositoryId start start' next next' where
  left := h.left.write hapt hok hdossiers
  right := h.right.write hapt' hok' hdossiers'
  known := by rw [repositories_run hok, repositories_run hok', h.known]
  dossiers := by
    rw [hdossiers, hdossiers', Function.update_self, Function.update_self, h.dossiers]

/-! ### Look-ups in two databases -/

/-- Looking a number up is looking it up among the dossiers. -/
theorem find?_dossiers (db : Database) (repositoryId : Int) (number : UInt64) :
    ((db.dossiers repositoryId).find? fun d => d.row.number = number.toInt64) =
      (db.pullRow? repositoryId number).map db.pullDossier := by
  rw [dossiers, Table.group, List.find?_map, Table.select, List.find?_filter, pullRow?, Table.find?]
  congr 2
  funext r
  rw [Bool.eq_iff_iff, PullRow.isAt_iff, Prod.ext_iff]
  simp only [decide_eq_true_eq, Function.comp_apply]
  rfl

/-- Under a number there is a row of the same dossier in both databases, or in neither. -/
theorem Abreast.pullRow? (h : Abreast repositoryId start start' db db') (number : UInt64) :
    Option.Rel
      (fun r r' => db.pullDossier r = db'.pullDossier r' ∧ db.PullAt repositoryId number r.1 ∧
        db'.PullAt repositoryId number r'.1)
      (db.pullRow? repositoryId number) (db'.pullRow? repositoryId number) := by
  have hfound := congrArg (List.find? fun d => d.row.number = number.toInt64) h.dossiers
  rw [find?_dossiers, find?_dossiers] at hfound
  cases hrow : db.pullRow? repositoryId number with
  | none =>
    rw [hrow, Option.map_none, eq_comm, Option.map_eq_none_iff] at hfound
    rw [hfound]
    exact .none
  | some r =>
    rw [hrow, Option.map_some, eq_comm, Option.map_eq_some_iff] at hfound
    obtain ⟨r', hrow', hsame⟩ := hfound
    rw [hrow']
    exact .some ⟨hsame.symm, h.left.linked.pullAt_iff.2 ⟨_, hrow⟩,
      h.right.linked.pullAt_iff.2 ⟨_, hrow'⟩⟩

theorem any_isAt (db : Database) (repositoryId : Int) (number : UInt64) :
    (db.pulls.any fun row => row.isAt repositoryId number) =
      (db.pullRow? repositoryId number).isSome := by
  rw [pullRow?, Table.find?, Table.any, List.isSome_find?]

/-- The check runs of a pull request have the same dossiers in both databases. -/
theorem Abreast.checkDossiers {id' : Int} (h : Abreast repositoryId start start' db db')
    (hat : db.PullAt repositoryId number id) (hat' : db'.PullAt repositoryId number id') :
    db.checkDossiers id = db'.checkDossiers id' := by
  obtain ⟨row, hrow⟩ := h.left.linked.pullAt_iff.1 hat
  obtain ⟨row', hrow'⟩ := h.right.linked.pullAt_iff.1 hat'
  have hrel := h.pullRow? number
  rw [hrow, hrow'] at hrel
  obtain ⟨hsame, -⟩ := hrel
  exact congrArg PullDossier.checks hsame

theorem any_isAt_check (db : Database) (pullRequestId : Int) (externalId : UInt64) :
    (db.checks.any fun row => row.isAt pullRequestId externalId) =
      (db.checkRow? pullRequestId externalId).isSome := by
  rw [checkRow?, Table.find?, Table.any, List.isSome_find?]

theorem any_isAt_checkDossiers (db : Database) (pullRequestId : Int) (externalId : UInt64) :
    (db.checks.any fun row => row.isAt pullRequestId externalId) =
      (db.checkDossiers pullRequestId).any fun c => c.row.externalId = externalId.toInt64 := by
  rw [checkDossiers, Table.group, List.any_map, Table.select, List.any_filter, Table.any]
  congr 1
  funext r
  rw [Bool.eq_iff_iff, CheckRow.isAt_iff, Prod.ext_iff]
  simp only [Bool.and_eq_true, decide_eq_true_eq, Function.comp_apply]
  rfl

/-! ### Writes to two databases -/

namespace Abreast

variable {id' : Int}

theorem insertPull (h : Abreast repositoryId start start' db db') (p : FetchedPullRequest) :
    Both (fun r r' => Abreast repositoryId start start' r.2 r'.2 ∧
        r.2.PullAt repositoryId p.number r.1 ∧ r'.2.PullAt repositoryId p.number r'.1)
      (db.insertPull repositoryId p) (db'.insertPull repositoryId p) := by
  have hany : (db.pulls.any fun row => row.isAt repositoryId p.number) =
      db'.pulls.any fun row => row.isAt repositoryId p.number := by
    rw [any_isAt, any_isAt, isSome_eq_of_rel (h.pullRow? p.number)]
  cases hold : db.pulls.any fun row => row.isAt repositoryId p.number with
  | true =>
    rw [Database.insertPull, Database.insertPull, ← hany, hold]
    exact .error _
  | false =>
    cases hknown : db.repositories.hasId repositoryId with
    | false =>
      rw [Database.insertPull, Database.insertPull, ← hany, ← h.known, hold, hknown]
      exact .error _
    | true =>
      have hok : db.insertPull repositoryId p = .ok _ :=
        insertPull_eq_ok.2 ⟨by simpa [any_isAt] using hold, hknown, rfl, rfl⟩
      have hok' : db'.insertPull repositoryId p = .ok _ :=
        insertPull_eq_ok.2
          ⟨by simpa [any_isAt] using hany.symm.trans hold, h.known ▸ hknown, rfl, rfl⟩
      rw [hok, hok']
      refine .ok ⟨h.write (.insertPull repositoryId p) (.insertPull repositoryId p)
        (· ++ [.ofRecord repositoryId p]) trivial trivial (by rw [StoreWrite.run, hok]; rfl)
        (by rw [StoreWrite.run, hok']; rfl)
        (dossiers_insertPull h.left.linked hok) (dossiers_insertPull h.right.linked hok'), ?_, ?_⟩
      · exact ⟨_, by simp, PullRow.key_ofRecord p⟩
      · exact ⟨_, by simp, PullRow.key_ofRecord p⟩

theorem updatePull (h : Abreast repositoryId start start' db db')
    (hat : db.PullAt repositoryId number id) (hat' : db'.PullAt repositoryId number id')
    (p : FetchedPullRequest) :
    Both (Abreast repositoryId start start') (db.updatePull id p) (db'.updatePull id' p) := by
  have hok : db.updatePull id p = .ok _ := updatePull_eq_ok.2 ⟨hat.hasId, rfl⟩
  have hok' : db'.updatePull id' p = .ok _ := updatePull_eq_ok.2 ⟨hat'.hasId, rfl⟩
  rw [hok, hok']
  exact .ok (h.write (.updatePull id p) (.updatePull id' p) _ trivial trivial hok hok'
    (dossiers_updatePull h.left.linked hat hok) (dossiers_updatePull h.right.linked hat' hok'))

theorem insertCheck (h : Abreast repositoryId start start' db db')
    (hat : db.PullAt repositoryId number id) (hat' : db'.PullAt repositoryId number id')
    (c : CheckRun) :
    Both (fun r r' => Abreast repositoryId start start' r.2 r'.2 ∧
        r.2.CheckAt repositoryId number c.externalId r.1 ∧
        r'.2.CheckAt repositoryId number c.externalId r'.1)
      (db.insertCheck id c) (db'.insertCheck id' c) := by
  have hany : (db.checks.any fun row => row.isAt id c.externalId) =
      db'.checks.any fun row => row.isAt id' c.externalId := by
    rw [any_isAt_checkDossiers, any_isAt_checkDossiers, h.checkDossiers hat hat']
  cases hold : db.checks.any fun row => row.isAt id c.externalId with
  | true =>
    rw [Database.insertCheck, Database.insertCheck, ← hany, hold]
    exact .error _
  | false =>
    have hok : db.insertCheck id c = .ok _ :=
      insertCheck_eq_ok.2 ⟨by simpa [any_isAt_check] using hold, hat.hasId, rfl, rfl⟩
    have hok' : db'.insertCheck id' c = .ok _ :=
      insertCheck_eq_ok.2
        ⟨by simpa [any_isAt_check] using hany.symm.trans hold, hat'.hasId, rfl, rfl⟩
    rw [hok, hok']
    refine .ok ⟨h.write (.insertCheck id c) (.insertCheck id' c) _ trivial trivial
      (by rw [StoreWrite.run, hok]; rfl) (by rw [StoreWrite.run, hok']; rfl)
      (dossiers_insertCheck h.left.linked hat hok)
      (dossiers_insertCheck h.right.linked hat' hok'), ?_, ?_⟩
    · exact ⟨id, _, hat, by simp, CheckRow.key_ofRecord c⟩
    · exact ⟨id', _, hat', by simp, CheckRow.key_ofRecord c⟩

theorem updateCheck (h : Abreast repositoryId start start' db db')
    (hat : db.CheckAt repositoryId number externalId id)
    (hat' : db'.CheckAt repositoryId number externalId id') (c : CheckRun) :
    Both (Abreast repositoryId start start') (db.updateCheck id c) (db'.updateCheck id' c) := by
  have hok : db.updateCheck id c = .ok _ := updateCheck_eq_ok.2 ⟨hat.hasId, rfl⟩
  have hok' : db'.updateCheck id' c = .ok _ := updateCheck_eq_ok.2 ⟨hat'.hasId, rfl⟩
  rw [hok, hok']
  exact .ok (h.write (.updateCheck id c) (.updateCheck id' c) _ trivial trivial hok hok'
    (dossiers_updateCheck h.left.linked hat hok) (dossiers_updateCheck h.right.linked hat' hok'))

theorem appendHistory_pull {e e' : HistoryEntry} (h : Abreast repositoryId start start' db db')
    (hsubject : e.subject = .pullRequest) (hsubject' : e'.subject = .pullRequest)
    (hentry : (HistoryRow.ofEntry e).unaddressed = (HistoryRow.ofEntry e').unaddressed)
    (hat : db.PullAt repositoryId number e.subjectId)
    (hat' : db'.PullAt repositoryId number e'.subjectId) :
    Abreast repositoryId start start' (db.appendHistory e) (db'.appendHistory e') := by
  refine h.write (.appendHistory e) (.appendHistory e') _ ?_ ?_ rfl rfl
    (dossiers_appendHistory_pull h.left.linked hsubject hat)
    (hentry ▸ dossiers_appendHistory_pull h.right.linked hsubject' hat')
  · rw [StoreWrite.Apt, hsubject]
    exact hat.hasId
  · rw [StoreWrite.Apt, hsubject']
    exact hat'.hasId

theorem appendHistory_check {e e' : HistoryEntry} (h : Abreast repositoryId start start' db db')
    (hsubject : e.subject = .checkRun) (hsubject' : e'.subject = .checkRun)
    (hentry : (HistoryRow.ofEntry e).unaddressed = (HistoryRow.ofEntry e').unaddressed)
    (hat : db.CheckAt repositoryId number externalId e.subjectId)
    (hat' : db'.CheckAt repositoryId number externalId e'.subjectId) :
    Abreast repositoryId start start' (db.appendHistory e) (db'.appendHistory e') := by
  refine h.write (.appendHistory e) (.appendHistory e') _ ?_ ?_ rfl rfl
    (dossiers_appendHistory_check h.left.linked hsubject hat)
    (hentry ▸ dossiers_appendHistory_check h.right.linked hsubject' hat')
  · rw [StoreWrite.Apt, hsubject]
    exact hat.hasId
  · rw [StoreWrite.Apt, hsubject']
    exact hat'.hasId

end Abreast

end Database

/-! ### Changes that match -/

/-- Two changes of pull requests are the same, and each replaces the row of its own database. -/
structure PullChange.Matches (repositoryId : Int) (start start' : Database) (c c' : PullChange) :
    Prop where
  record : c.record = c'.record
  event : c.event = c'.event
  existing : Option.Rel
    (fun id id' => start.PullAt repositoryId c.record.number id ∧
      start'.PullAt repositoryId c.record.number id') c.existingId c'.existingId

/-- Two changes of check runs are the same, and each replaces the row of its own database. -/
structure CheckChange.Matches (repositoryId : Int) (start start' : Database) (c c' : CheckChange) :
    Prop where
  record : c.record = c'.record
  pullNumber : c.pullNumber = c'.pullNumber
  event : c.event = c'.event
  existing : Option.Rel
    (fun id id' => ∃ externalId, start.CheckAt repositoryId c.pullNumber externalId id ∧
      start'.CheckAt repositoryId c.pullNumber externalId id') c.existingId c'.existingId

/-- Two change sets are the same but for the rows that their changes replace. -/
structure ChangeSet.Matches (repositoryId : Int) (start start' : Database) (s s' : ChangeSet) :
    Prop where
  newPulls : List.Forall₂ (PullChange.Matches repositoryId start start') s.newPulls s'.newPulls
  updatedPulls :
    List.Forall₂ (PullChange.Matches repositoryId start start') s.updatedPulls s'.updatedPulls
  newChecks : List.Forall₂ (CheckChange.Matches repositoryId start start') s.newChecks s'.newChecks
  updatedChecks :
    List.Forall₂ (CheckChange.Matches repositoryId start start') s.updatedChecks s'.updatedChecks

namespace ChangeSet.Matches

variable {repositoryId : Int} {start start' : Database} {s s' : ChangeSet}

theorem total_eq (h : s.Matches repositoryId start start' s') : s.total = s'.total := by
  rw [total, total, h.newPulls.length_eq, h.updatedPulls.length_eq, h.newChecks.length_eq,
    h.updatedChecks.length_eq]

theorem events_eq (h : s.Matches repositoryId start start' s') : s.events = s'.events := by
  simp only [events, List.map_append]
  rw [map_eq_map_of_forall₂ (h.newPulls.imp fun _ _ hc => hc.event),
    map_eq_map_of_forall₂ (h.updatedPulls.imp fun _ _ hc => hc.event),
    map_eq_map_of_forall₂ (h.newChecks.imp fun _ _ hc => hc.event),
    map_eq_map_of_forall₂ (h.updatedChecks.imp fun _ _ hc => hc.event)]

end ChangeSet.Matches

namespace Transaction

open Database

variable {repositoryId : Int} {start start' : Database} {time time' : Instant} {faults : Faults}

/-! #### Single writes -/

section Writes

variable (faults) {number externalId : UInt64} {id id' : Int}

theorem paired_insertPull (p : FetchedPullRequest) :
    Paired (Abreast repositoryId start start') (insertPull faults repositoryId p)
      (insertPull faults repositoryId p)
      fun id id' db db' => Abreast repositoryId start start' db db' ∧
        db.PullAt repositoryId p.number id ∧ db'.PullAt repositoryId p.number id' :=
  paired_write fun _ _ hdb => hdb.insertPull p

theorem paired_updatePull (hat : start.PullAt repositoryId number id)
    (hat' : start'.PullAt repositoryId number id') (p : FetchedPullRequest) :
    Paired (Abreast repositoryId start start') (updatePull faults id p) (updatePull faults id' p)
      fun _ _ => Abreast repositoryId start start' :=
  paired_write_ fun _ _ hdb =>
    hdb.updatePull (hdb.left.rows.pullAt hat) (hdb.right.rows.pullAt hat') p

theorem paired_insertCheck (c : CheckRun) :
    Paired
      (fun db db' => Abreast repositoryId start start' db db' ∧
        db.PullAt repositoryId number id ∧ db'.PullAt repositoryId number id')
      (insertCheck faults id c) (insertCheck faults id' c)
      fun id id' db db' => Abreast repositoryId start start' db db' ∧
        db.CheckAt repositoryId number c.externalId id ∧
        db'.CheckAt repositoryId number c.externalId id' :=
  paired_write fun _ _ hdb => hdb.1.insertCheck hdb.2.1 hdb.2.2 c

theorem paired_updateCheck (hat : start.CheckAt repositoryId number externalId id)
    (hat' : start'.CheckAt repositoryId number externalId id') (c : CheckRun) :
    Paired (Abreast repositoryId start start') (updateCheck faults id c) (updateCheck faults id' c)
      fun _ _ => Abreast repositoryId start start' :=
  paired_write_ fun _ _ hdb =>
    hdb.updateCheck (hdb.left.rows.checkAt hat) (hdb.right.rows.checkAt hat') c

theorem paired_appendHistory {P : Database → Database → Prop} {e e' : HistoryEntry}
    (h : ∀ db db', P db db' →
      Abreast repositoryId start start' (db.appendHistory e) (db'.appendHistory e')) :
    Paired P (appendHistory faults e) (appendHistory faults e')
      fun _ _ => Abreast repositoryId start start' :=
  paired_write_ fun db db' hP => .ok (h db db' hP)

end Writes

/-! #### Changes -/

section Changes

variable {c c' : PullChange} {d d' : CheckChange}

theorem paired_writePull (h : c.Matches repositoryId start start' c') :
    Paired (Abreast repositoryId start start') (writePull faults repositoryId time c)
      (writePull faults repositoryId time' c')
      fun n n' db db' => n = n' ∧ Abreast repositoryId start start' db db' := by
  rw [writePull, writePull, ← h.record, ← h.event]
  refine (paired_insertPull faults c.record).bind fun id id' => ?_
  refine (paired_appendHistory faults fun db db' hdb => ?_).bind fun _ _ =>
    paired_pure fun _ _ hdb => ⟨rfl, hdb⟩
  exact hdb.1.appendHistory_pull rfl rfl rfl hdb.2.1 hdb.2.2

theorem paired_overwritePull (h : c.Matches repositoryId start start' c') :
    Paired (Abreast repositoryId start start') (overwritePull faults time c)
      (overwritePull faults time' c')
      fun n n' db db' => n = n' ∧ Abreast repositoryId start start' db db' := by
  obtain ⟨hrecord, hevent, hexisting⟩ := h
  rw [overwritePull, overwritePull, ← hrecord, ← hevent]
  generalize c.existingId = existing, c'.existingId = existing' at hexisting
  cases hexisting with
  | none => exact paired_pure fun _ _ hdb => ⟨rfl, hdb⟩
  | some hat =>
    refine (paired_updatePull faults hat.1 hat.2 c.record).bind fun _ _ => ?_
    split_ifs
    · refine (paired_appendHistory faults fun db db' hdb => ?_).bind fun _ _ =>
        paired_pure fun _ _ hdb => ⟨rfl, hdb⟩
      exact hdb.appendHistory_pull rfl rfl rfl (hdb.left.rows.pullAt hat.1)
        (hdb.right.rows.pullAt hat.2)
    · exact paired_pure fun _ _ hdb => ⟨rfl, hdb⟩

/-- The row of a pull request is found in both databases, or in neither. -/
theorem paired_pullId? (number : UInt64) :
    Paired (Abreast repositoryId start start') (pullId? repositoryId number)
      (pullId? repositoryId number)
      fun found found' db db' => Abreast repositoryId start start' db db' ∧
        Option.Rel (fun id id' => db.PullAt repositoryId number id ∧
          db'.PullAt repositoryId number id') found found' := by
  refine paired_look fun db db' hdb => .ok ⟨hdb, ?_⟩
  exact map_rel (hdb.pullRow? number) fun _ _ hr => hr.2

theorem paired_writeCheck (h : d.Matches repositoryId start start' d') :
    Paired (Abreast repositoryId start start') (writeCheck faults repositoryId time d)
      (writeCheck faults repositoryId time' d')
      fun n n' db db' => n = n' ∧ Abreast repositoryId start start' db db' := by
  rw [writeCheck, writeCheck, ← h.record, ← h.event, ← h.pullNumber]
  refine (paired_pullId? d.pullNumber).bind fun found found' copy copy' hwrites hfound => ?_
  obtain ⟨hdb, hfound⟩ := hfound
  cases hfound with
  | none => exact .error _
  | @some id id' hat =>
    dsimp only
    refine Paired.bind (R := fun n n' db db' => n = n' ∧ Abreast repositoryId start start' db db')
      (paired_insertCheck faults d.record) (fun id id' => ?_) copy copy' hwrites ⟨hdb, hat⟩
    cases d.record.conclusion with
    | none => exact paired_pure fun _ _ hdb => ⟨rfl, hdb.1⟩
    | some conclusion =>
      refine (paired_appendHistory faults fun db db' hdb => ?_).bind fun _ _ =>
        paired_pure fun _ _ hdb => ⟨rfl, hdb⟩
      exact hdb.1.appendHistory_check rfl rfl rfl hdb.2.1 hdb.2.2

theorem paired_overwriteCheck (h : d.Matches repositoryId start start' d') :
    Paired (Abreast repositoryId start start') (overwriteCheck faults time d)
      (overwriteCheck faults time' d')
      fun n n' db db' => n = n' ∧ Abreast repositoryId start start' db db' := by
  obtain ⟨hrecord, -, hevent, hexisting⟩ := h
  rw [overwriteCheck, overwriteCheck, ← hrecord, ← hevent]
  generalize d.existingId = existing, d'.existingId = existing' at hexisting
  cases hexisting with
  | none => exact paired_pure fun _ _ hdb => ⟨rfl, hdb⟩
  | some hat =>
    obtain ⟨externalId, hat, hat'⟩ := hat
    refine (paired_updateCheck faults hat hat' d.record).bind fun _ _ => ?_
    split_ifs
    · refine (paired_appendHistory faults fun db db' hdb => ?_).bind fun _ _ =>
        paired_pure fun _ _ hdb => ⟨rfl, hdb⟩
      exact hdb.appendHistory_check rfl rfl rfl (hdb.left.rows.checkAt hat)
        (hdb.right.rows.checkAt hat')
    · exact paired_pure fun _ _ hdb => ⟨rfl, hdb⟩

theorem paired_applyChanges {s s' : ChangeSet} (h : s.Matches repositoryId start start' s')
    (chunkSize : Nat) :
    Paired (Abreast repositoryId start start') (applyChanges faults chunkSize repositoryId time s)
      (applyChanges faults chunkSize repositoryId time' s')
      fun n n' db db' => n = n' ∧ Abreast repositoryId start start' db db' := by
  refine (paired_applyPart h.newPulls (fun _ _ => paired_writePull) chunkSize 0).bind_same
    fun count => ?_
  refine (paired_applyPart h.updatedPulls (fun _ _ => paired_overwritePull) chunkSize
    count).bind_same fun count => ?_
  refine (paired_applyPart h.newChecks (fun _ _ => paired_writeCheck) chunkSize count).bind_same
    fun count => ?_
  exact paired_applyPart h.updatedChecks (fun _ _ => paired_overwriteCheck) chunkSize count

end Changes

end Transaction

/-- Two change sets that match are written alike. Either both are, with as many rows and to the same
dossiers, or neither is, for one cause. -/
theorem both_synchronize {faults : Faults} {chunkSize : Nat} {repositoryId : Int}
    {time time' : Instant} {s s' : ChangeSet} {db db' : Database}
    (h : s.Matches repositoryId db db' s') (hdb : Database.Abreast repositoryId db db' db db') :
    Both (fun r r' => r.1 = r'.1 ∧ Database.Abreast repositoryId db db' r.2 r'.2)
      (synchronize faults chunkSize repositoryId time s db)
      (synchronize faults chunkSize repositoryId time' s' db') := by
  rw [synchronize, synchronize, ChangeSet.hasChanges, ChangeSet.hasChanges, h.total_eq]
  split_ifs
  · exact (Transaction.paired_applyChanges h chunkSize { db } { db := db' } rfl hdb).map
      fun _ _ hr => hr.2
  · exact .ok ⟨rfl, hdb⟩

end PullWatch
