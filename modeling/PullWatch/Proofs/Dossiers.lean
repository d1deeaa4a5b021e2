import PullWatch.Proofs.Consistency
import PullWatch.Proofs.Rollback
import Mathlib.Logic.Function.Basic

/-!
# The dossiers of a repository

What the database holds of a repository is its pull requests in their order, each with its history
and its check runs in their order, and these again with their histories. Told without ids and
without the times at which entries of the history were recorded, this is a list of dossiers.

A write concerns one record. It changes the dossiers of the repository that owns the record, in a
way that does not depend on ids or on the time, and those of no other repository.

## Main definitions

* `PullDossier`, `CheckDossier`, `Database.dossiers`: the dossiers of a repository.
* `Database.PullAt`, `Database.CheckAt`: where a record is.

## Main results

* `Database.dossiers_insertPull`, `Database.dossiers_updatePull`, `Database.dossiers_insertCheck`,
  `Database.dossiers_updateCheck`, `Database.dossiers_appendHistory_pull`,
  `Database.dossiers_appendHistory_check`: what writes make of the dossiers of all repositories.
-/

namespace PullWatch

/-! ### Rows of one owner -/

namespace Table

variable {ρ δ : Type} {t : Table ρ} {key : ρ → Int × Int64} {view view' : Int × ρ → δ}

/-- What a view shows of the rows of an owner, in their order. -/
def group (t : Table ρ) (key : ρ → Int × Int64) (view : Int × ρ → δ) (owner : Int) : List δ :=
  (t.select fun row => (key row).1 = owner).map view

theorem group_congr (owner : Int) (h : ∀ r ∈ t.rows, (key r.2).1 = owner → view' r = view r) :
    t.group key view' owner = t.group key view owner :=
  List.map_congr_left fun r hr =>
    h r (List.mem_filter.1 hr).1 (by simpa using (List.mem_filter.1 hr).2)

/-- A new row comes last among those of its owner. -/
theorem group_insert (t : Table ρ) (key : ρ → Int × Int64) (row : ρ)
    (hview : ∀ r ∈ t.rows, view' r = view r) :
    (t.insert row).2.group key view' = Function.update (t.group key view) (key row).1
      (t.group key view (key row).1 ++ [view' ((t.lastId : Int) + 1, row)]) := by
  funext owner
  rw [group, select_insert, List.map_append, ← group, group_congr owner fun r hr _ => hview r hr]
  by_cases howner : owner = (key row).1
  · subst howner
    rw [Function.update_self, if_pos (decide_eq_true rfl), List.map_singleton]
  · rw [Function.update_of_ne howner, decide_eq_false (Ne.symm howner), if_neg Bool.false_ne_true,
      List.map_nil, List.append_nil]

/-- A change of one row changes what is shown of it, where its owner's rows are. -/
theorem Keyed.group_change (number : δ → Int64) (h : t.Keyed key) {r₀ : Int × ρ}
    (hr₀ : r₀ ∈ t.rows) {change : ρ → ρ} (hkey : ∀ row, key (change row) = key row)
    (hnumber : ∀ r, number (view r) = (key r.2).2) {edit : δ → δ}
    (hself : view' (r₀.1, change r₀.2) = edit (view r₀))
    (hother : ∀ r ∈ t.rows, r.1 ≠ r₀.1 → view' r = view r) :
    (t.change r₀.1 change).group key view' = Function.update (t.group key view) (key r₀.2).1
      ((t.group key view (key r₀.2).1).map fun d =>
        if number d = (key r₀.2).2 then edit d else d) := by
  funext owner
  have hselect : (t.change r₀.1 change).select (fun row => (key row).1 = owner) =
      (t.select fun row => (key row).1 = owner).map
        fun r => if r.1 = r₀.1 then (r.1, change r.2) else r := by
    rw [select, Table.change, List.filter_map]
    congr 2
    funext r
    rw [Function.comp_apply]
    split_ifs
    · rw [hkey]
    · rfl
  rw [group, hselect, List.map_map]
  by_cases howner : owner = (key r₀.2).1
  · subst howner
    rw [Function.update_self, group, List.map_map]
    refine List.map_congr_left fun r hr => ?_
    obtain ⟨hr, hown⟩ := List.mem_filter.1 hr
    rw [Function.comp_apply, Function.comp_apply, hnumber]
    by_cases hid : r.1 = r₀.1
    · obtain rfl := h.eq_of_id hr hr₀ hid
      rw [if_pos rfl, if_pos rfl, hself]
    · rw [if_neg hid, if_neg fun hsecond => hid (congrArg Prod.fst
        (h.distinct r hr r₀ hr₀ (Prod.ext (of_decide_eq_true hown) hsecond))), hother r hr hid]
  · rw [Function.update_of_ne howner]
    refine List.map_congr_left fun r hr => ?_
    obtain ⟨hr, hown⟩ := List.mem_filter.1 hr
    have hid : r.1 ≠ r₀.1 := fun hid =>
      howner (h.eq_of_id hr hr₀ hid ▸ (of_decide_eq_true hown).symm)
    rw [Function.comp_apply, if_neg hid, hother r hr hid]

/-- A row replaced by itself. -/
theorem change_self (t : Table ρ) (id : Int) : (t.change id fun row => row) = t := by
  simp [change]

end Table

/-! ### Dossiers -/

/-- The row without the id of its pull request. -/
def CheckRow.unowned (row : CheckRow) : CheckRow := { row with pullRequestId := 0 }

/-- The row without the id of its record and without its time. -/
def HistoryRow.unaddressed (row : HistoryRow) : HistoryRow := { row.undated with subjectId := 0 }

/-- A check run with its history. -/
structure CheckDossier where
  row : CheckRow
  history : List HistoryRow
  deriving DecidableEq

/-- A pull request with its history and its check runs. -/
structure PullDossier where
  row : PullRow
  history : List HistoryRow
  checks : List CheckDossier
  deriving DecidableEq

namespace CheckDossier

/-- The dossier of a new check run. -/
def ofRecord (c : CheckRun) : CheckDossier := { row := .ofRecord 0 c, history := [] }

/-- The dossier with the check run replaced. -/
def update (d : CheckDossier) (c : CheckRun) : CheckDossier := { d with row := d.row.update c }

/-- The dossier with one more row of the history. -/
def addHistory (d : CheckDossier) (row : HistoryRow) : CheckDossier :=
  { d with history := d.history ++ [row] }

end CheckDossier

namespace PullDossier

/-- The dossier of a new pull request. -/
def ofRecord (repositoryId : Int) (p : FetchedPullRequest) : PullDossier :=
  { row := .ofRecord repositoryId p, history := [], checks := [] }

/-- The dossier with the pull request replaced. -/
def update (d : PullDossier) (p : FetchedPullRequest) : PullDossier :=
  { d with row := d.row.update p }

/-- The dossier with one more row of the pull request's history. -/
def addHistory (d : PullDossier) (row : HistoryRow) : PullDossier :=
  { d with history := d.history ++ [row] }

/-- The dossier with one more check run. -/
def addCheck (d : PullDossier) (c : CheckRun) : PullDossier :=
  { d with checks := d.checks ++ [.ofRecord c] }

/-- The dossier with a check run's dossier changed. -/
def editCheck (d : PullDossier) (externalId : UInt64) (edit : CheckDossier → CheckDossier) :
    PullDossier :=
  { d with
    checks := d.checks.map fun c => if c.row.externalId = externalId.toInt64 then edit c else c }

/-- The dossiers of a repository with that of a number changed. -/
def editAt (number : UInt64) (edit : PullDossier → PullDossier) (dossiers : List PullDossier) :
    List PullDossier :=
  dossiers.map fun d => if d.row.number = number.toInt64 then edit d else d

end PullDossier

namespace Database

/-- The dossier of a check run's row. -/
def checkDossier (db : Database) (r : Int × CheckRow) : CheckDossier :=
  { row := r.2.unowned, history := (db.historyOf .checkRun r.1).map HistoryRow.unaddressed }

/-- The dossiers of the check runs of a pull request's row. -/
def checkDossiers (db : Database) (pullRequestId : Int) : List CheckDossier :=
  db.checks.group CheckRow.key db.checkDossier pullRequestId

/-- The dossier of a pull request's row. -/
def pullDossier (db : Database) (r : Int × PullRow) : PullDossier :=
  { row := r.2, history := (db.historyOf .pullRequest r.1).map HistoryRow.unaddressed
    checks := db.checkDossiers r.1 }

/-- The dossiers of a repository. -/
def dossiers (db : Database) (repositoryId : Int) : List PullDossier :=
  db.pulls.group PullRow.key db.pullDossier repositoryId

/-- The row of a pull request has the id. -/
def PullAt (db : Database) (repositoryId : Int) (number : UInt64) (id : Int) : Prop :=
  ∃ row, (id, row) ∈ db.pulls.rows ∧ row.key = (repositoryId, number.toInt64)

/-- The row of a check run has the id. -/
def CheckAt (db : Database) (repositoryId : Int) (number externalId : UInt64) (id : Int) : Prop :=
  ∃ pullRequestId row, db.PullAt repositoryId number pullRequestId ∧
    (id, row) ∈ db.checks.rows ∧ row.key = (pullRequestId, externalId.toInt64)

variable {db db' : Database} {repositoryId id : Int} {number externalId : UInt64}

theorem PullAt.hasId (h : db.PullAt repositoryId number id) : db.pulls.hasId id = true := by
  obtain ⟨row, hrow, -⟩ := h
  exact Table.hasId_iff.2 ⟨row, hrow⟩

theorem CheckAt.hasId (h : db.CheckAt repositoryId number externalId id) :
    db.checks.hasId id = true := by
  obtain ⟨-, row, -, hrow, -⟩ := h
  exact Table.hasId_iff.2 ⟨row, hrow⟩

theorem Sound.pullAt_iff (h : db.Sound) :
    db.PullAt repositoryId number id ↔ ∃ row, db.pullRow? repositoryId number = some (id, row) := by
  simp only [h.pullRow?_eq_some]
  rfl

theorem Sound.checkAt_iff (h : db.Sound) :
    db.CheckAt repositoryId number externalId id ↔
      ∃ row, db.checkRowOf? repositoryId number externalId = some (id, row) := by
  simp only [CheckAt, h.pullAt_iff, checkRowOf?, Option.bind_eq_some_iff, h.checkRow?_eq_some,
    Prod.exists]
  constructor
  · rintro ⟨pullRequestId, row, ⟨prow, hprow⟩, hrow⟩
    exact ⟨row, pullRequestId, prow, hprow, hrow⟩
  · rintro ⟨row, pullRequestId, prow, hprow, hrow⟩
    exact ⟨pullRequestId, row, ⟨prow, hprow⟩, hrow⟩

/-- A record stays where it is. -/
theorem Extends.pullAt (h : db.Extends db') (hat : db.PullAt repositoryId number id) :
    db'.PullAt repositoryId number id := by
  obtain ⟨row, hrow, hkey⟩ := hat
  obtain ⟨row', hrow', hfixed⟩ := h.pulls.exists_row hrow
  obtain ⟨hrepository, hnumber, -⟩ : row'.repositoryId = row.repositoryId ∧
      row'.number = row.number ∧ row'.createdAt = row.createdAt := by
    simpa [PullRow.fixed] using hfixed
  exact ⟨row', hrow', by rw [← hkey, PullRow.key, PullRow.key, hrepository, hnumber]⟩

theorem Extends.checkAt (h : db.Extends db') (hat : db.CheckAt repositoryId number externalId id) :
    db'.CheckAt repositoryId number externalId id := by
  obtain ⟨pullRequestId, row, hpull, hrow, hkey⟩ := hat
  obtain ⟨row', hrow', hsame⟩ := h.checks.exists_row hrow
  exact ⟨pullRequestId, row', h.pullAt hpull, hrow', hsame.trans hkey⟩

/-! ### One record changed -/

section Edit

/-- A pull request's dossier changed, and with it the dossiers of its repository. -/
theorem dossiers_edit {change : PullRow → PullRow} (edit : PullDossier → PullDossier)
    (h : db.Sound) (hat : db.PullAt repositoryId number id)
    (hkey : ∀ row, (change row).key = row.key) (hpulls : db'.pulls = db.pulls.change id change)
    (hself : ∀ row, db'.pullDossier (id, change row) = edit (db.pullDossier (id, row)))
    (hother : ∀ r : Int × PullRow, r.1 ≠ id → db'.pullDossier r = db.pullDossier r) :
    db'.dossiers = Function.update db.dossiers repositoryId
      (PullDossier.editAt number edit (db.dossiers repositoryId)) := by
  obtain ⟨row, hrow, hrowkey⟩ := hat
  have hgroup := h.pulls.group_change (fun d : PullDossier => d.row.number) hrow hkey
    (fun _ => rfl) (hself row) fun r _ hr => hother r hr
  rw [hrowkey, ← hpulls] at hgroup
  exact hgroup

/-- A check run's dossier changed, and with it that of its pull request. -/
theorem dossiers_editCheck {change : CheckRow → CheckRow} (edit : CheckDossier → CheckDossier)
    (h : db.Sound) (hat : db.CheckAt repositoryId number externalId id)
    (hkey : ∀ row, (change row).key = row.key) (hpulls : db'.pulls = db.pulls)
    (hchecks : db'.checks = db.checks.change id change)
    (hhistory : db'.historyOf .pullRequest = db.historyOf .pullRequest)
    (hself : ∀ row, db'.checkDossier (id, change row) = edit (db.checkDossier (id, row)))
    (hother : ∀ r : Int × CheckRow, r.1 ≠ id → db'.checkDossier r = db.checkDossier r) :
    db'.dossiers = Function.update db.dossiers repositoryId
      (PullDossier.editAt number (·.editCheck externalId edit) (db.dossiers repositoryId)) := by
  obtain ⟨pullRequestId, row, hpull, hrow, hrowkey⟩ := hat
  have hgroup : db'.checkDossiers = Function.update db.checkDossiers pullRequestId
      ((db.checkDossiers pullRequestId).map fun c =>
        if c.row.externalId = externalId.toInt64 then edit c else c) := by
    have hgroup := h.checks.group_change (fun c : CheckDossier => c.row.externalId) hrow hkey
      (fun _ => rfl) (hself row) fun r _ hr => hother r hr
    rw [hrowkey, ← hchecks] at hgroup
    exact hgroup
  refine dossiers_edit _ h hpull (fun _ => rfl) (hpulls.trans (Table.change_self _ _).symm)
    (fun prow => ?_) fun r hr => ?_
  · simp only [pullDossier, hgroup, hhistory, Function.update_self, PullDossier.editCheck]
  · simp only [pullDossier, hgroup, hhistory, Function.update_of_ne hr]

end Edit

/-! ### Writes -/

section Writes

variable {p : FetchedPullRequest} {c : CheckRun} {e : HistoryEntry}

/-- What does not exist has no history. -/
theorem Linked.historyOf_eq_nil (h : db.Linked) {subject : HistorySubject}
    (hid : db.hasSubject id subject = false) : db.historyOf subject id = [] := by
  rw [historyOf, List.map_eq_nil_iff, Table.select, List.filter_eq_nil_iff]
  intro r hr habout
  obtain ⟨hsubject, rfl⟩ : r.2.subject = subject.name ∧ r.2.subjectId = id := by
    simpa [HistoryRow.isAbout] using habout
  exact Bool.false_ne_true (hid.symm.trans (h.subjects r hr subject hsubject))

/-- No check run belongs to a pull request that does not exist. -/
theorem Linked.checkDossiers_eq_nil (h : db.Linked) (hid : db.pulls.hasId id = false) :
    db.checkDossiers id = [] := by
  rw [checkDossiers, Table.group, List.map_eq_nil_iff, Table.select, List.filter_eq_nil_iff]
  intro r hr hown
  obtain rfl : r.2.pullRequestId = id := of_decide_eq_true hown
  exact Bool.false_ne_true (hid.symm.trans (h.owners r hr))

/-- A new pull request comes last in its repository. -/
theorem dossiers_insertPull (h : db.Linked)
    (hok : db.insertPull repositoryId p = .ok (id, db')) :
    db'.dossiers = Function.update db.dossiers repositoryId
      (db.dossiers repositoryId ++ [.ofRecord repositoryId p]) := by
  obtain ⟨-, -, -, rfl⟩ := insertPull_eq_ok.1 hok
  have hnew : db.pullDossier ((db.pulls.lastId : Int) + 1, .ofRecord repositoryId p) =
      .ofRecord repositoryId p := by
    have hnone : db.historyOf .pullRequest ((db.pulls.lastId : Int) + 1) = [] :=
      h.historyOf_eq_nil h.pulls.fresh
    rw [pullDossier, hnone, h.checkDossiers_eq_nil h.pulls.fresh]
    rfl
  rw [← hnew]
  exact db.pulls.group_insert PullRow.key (.ofRecord repositoryId p) fun _ _ => rfl

/-- A replaced pull request keeps its place. -/
theorem dossiers_updatePull (h : db.Linked) (hat : db.PullAt repositoryId number id)
    (hok : db.updatePull id p = .ok db') :
    db'.dossiers = Function.update db.dossiers repositoryId
      (PullDossier.editAt number (·.update p) (db.dossiers repositoryId)) := by
  obtain ⟨-, rfl⟩ := updatePull_eq_ok.1 hok
  exact dossiers_edit _ h.toSound hat (fun row => row.key_update p) rfl (fun _ => rfl)
    fun _ _ => rfl

/-- A new check run comes last in its pull request. -/
theorem dossiers_insertCheck {pullRequestId : Int} (h : db.Linked)
    (hat : db.PullAt repositoryId number pullRequestId)
    (hok : db.insertCheck pullRequestId c = .ok (id, db')) :
    db'.dossiers = Function.update db.dossiers repositoryId
      (PullDossier.editAt number (·.addCheck c) (db.dossiers repositoryId)) := by
  obtain ⟨-, -, -, hdb'⟩ := insertCheck_eq_ok.1 hok
  have hnew : db.checkDossier ((db.checks.lastId : Int) + 1, .ofRecord pullRequestId c) =
      .ofRecord c := by
    have hnone : db.historyOf .checkRun ((db.checks.lastId : Int) + 1) = [] :=
      h.historyOf_eq_nil h.checks.fresh
    rw [checkDossier, hnone]
    rfl
  have hgroup : db'.checkDossiers = Function.update db.checkDossiers pullRequestId
      (db.checkDossiers pullRequestId ++ [.ofRecord c]) := by
    rw [hdb', ← hnew]
    exact db.checks.group_insert CheckRow.key (.ofRecord pullRequestId c) fun _ _ => rfl
  have hhistory : db'.historyOf = db.historyOf := by
    rw [hdb']
    rfl
  refine dossiers_edit _ h.toSound hat (fun _ => rfl)
    ((congrArg pulls hdb').trans (Table.change_self _ pullRequestId).symm) (fun row => ?_)
    fun r hr => ?_
  · simp only [pullDossier, hgroup, hhistory, Function.update_self, PullDossier.addCheck]
  · simp only [pullDossier, hgroup, hhistory, Function.update_of_ne hr]

/-- A replaced check run keeps its place. -/
theorem dossiers_updateCheck (h : db.Linked) (hat : db.CheckAt repositoryId number externalId id)
    (hok : db.updateCheck id c = .ok db') :
    db'.dossiers = Function.update db.dossiers repositoryId
      (PullDossier.editAt number (·.editCheck externalId (·.update c))
        (db.dossiers repositoryId)) := by
  obtain ⟨-, rfl⟩ := updateCheck_eq_ok.1 hok
  exact dossiers_editCheck _ h.toSound hat (fun row => row.key_update c) rfl rfl rfl
    (fun _ => rfl) fun _ _ => rfl

/-- A new entry comes last in the history of its pull request. -/
theorem dossiers_appendHistory_pull (h : db.Linked) (hsubject : e.subject = .pullRequest)
    (hat : db.PullAt repositoryId number e.subjectId) :
    (db.appendHistory e).dossiers = Function.update db.dossiers repositoryId
      (PullDossier.editAt number (·.addHistory (HistoryRow.ofEntry e).unaddressed)
        (db.dossiers repositoryId)) := by
  have hchecks : (db.appendHistory e).checkDossiers = db.checkDossiers := by
    funext pullRequestId
    refine Table.group_congr _ fun r _ _ => ?_
    rw [checkDossier, checkDossier, historyOf_appendHistory, hsubject,
      if_neg fun hno => HistorySubject.noConfusion hno.1, List.append_nil]
  refine dossiers_edit _ h.toSound hat (fun _ => rfl) (Table.change_self _ e.subjectId).symm
    (fun row => ?_) fun r hr => ?_
  · rw [pullDossier, historyOf_appendHistory, if_pos ⟨hsubject, rfl⟩, List.map_append, hchecks]
    rfl
  · rw [pullDossier, historyOf_appendHistory, if_neg fun hsame => hr hsame.2.symm, List.append_nil,
      hchecks]
    rfl

/-- A new entry comes last in the history of its check run. -/
theorem dossiers_appendHistory_check (h : db.Linked) (hsubject : e.subject = .checkRun)
    (hat : db.CheckAt repositoryId number externalId e.subjectId) :
    (db.appendHistory e).dossiers = Function.update db.dossiers repositoryId
      (PullDossier.editAt number
        (·.editCheck externalId (·.addHistory (HistoryRow.ofEntry e).unaddressed))
        (db.dossiers repositoryId)) := by
  refine dossiers_editCheck _ h.toSound hat (fun _ => rfl) rfl
    (Table.change_self _ e.subjectId).symm ?_ (fun row => ?_) fun r hr => ?_
  · funext id
    rw [historyOf_appendHistory, hsubject, if_neg fun hno => HistorySubject.noConfusion hno.1,
      List.append_nil]
  · rw [checkDossier, historyOf_appendHistory, if_pos ⟨hsubject, rfl⟩, List.map_append]
    rfl
  · rw [checkDossier, historyOf_appendHistory, if_neg fun hsame => hr hsame.2.symm,
      List.append_nil]
    rfl

end Writes

end Database

end PullWatch
