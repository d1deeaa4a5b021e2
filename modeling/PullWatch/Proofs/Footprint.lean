import PullWatch.Proofs.Consistency
import PullWatch.Proofs.DetectedChanges

/-!
# What a transaction may write

Every record is at home in a repository: a pull request in that of its row, a check run in that of
its pull request, and an entry of the history where its record is. A transaction for one repository
adds records that are at home there and replaces records that are. So the rows that are at home
elsewhere stay as they are, under their ids, and no row moves from one home to another.

## Main definitions

* `Database.home`: the repository in which a record is at home.
* `Database.rowsOf`: the rows that are at home in a repository.
* `Database.Confined`: only rows at home in one repository were written.
* `ChangeSet.Concerns`: what a change set replaces is at home in one repository.

## Main results

* `Database.confined_run`: one write.
* `Database.Sound.confined_store`: a change set.
* `Database.Sound.concerns_changesFor`: what detection finds for a repository concerns that
  repository.
-/

namespace PullWatch

/-! ### Homes -/

/-- The rows that are at home in a repository, with their ids. -/
structure RepositoryRows where
  pulls : List (Int × PullRow)
  checks : List (Int × CheckRow)
  history : List (Int × HistoryRow)
  deriving DecidableEq

namespace Database

/-- The repository in which a record is at home, if there is such a record. -/
def home (db : Database) : HistorySubject → Int → Option Int
  | .pullRequest, id => (db.pulls.get? id).map (·.repositoryId)
  | .checkRun, id =>
    (db.checks.get? id).bind fun row => (db.pulls.get? row.pullRequestId).map (·.repositoryId)

/-- The repository in which the record of an entry is at home. -/
def homeOfEntry (db : Database) (row : HistoryRow) : Option Int :=
  (HistorySubject.ofName? row.subject).bind fun subject => db.home subject row.subjectId

/-- The rows that are at home in a repository. -/
def rowsOf (db : Database) (repositoryId : Int) : RepositoryRows where
  pulls := db.pulls.select fun row => row.repositoryId = repositoryId
  checks := db.checks.select fun row =>
    db.home .pullRequest row.pullRequestId = some repositoryId
  history := db.history.select fun row => db.homeOfEntry row = some repositoryId

variable {db db' db'' : Database} {repositoryId id other : Int} {subject : HistorySubject}
  {time : Instant}

theorem home_checkRun (db : Database) (id : Int) :
    db.home .checkRun id =
      (db.checks.get? id).bind fun row => db.home .pullRequest row.pullRequestId := rfl

theorem homeOfEntry_ofEntry (db : Database) (e : HistoryEntry) :
    db.homeOfEntry (.ofEntry e) = db.home e.subject e.subjectId := by
  rw [homeOfEntry, HistoryRow.ofEntry, HistorySubject.ofName?_name]
  rfl

/-- A row stays at home where it is. -/
theorem Extends.home (h : db.Extends db') (hdb : db.Sound) (hdb' : db'.Sound)
    (hhome : db.home subject id = some repositoryId) :
    db'.home subject id = some repositoryId := by
  have hpull {id : Int} (hhome : db.home .pullRequest id = some repositoryId) :
      db'.home .pullRequest id = some repositoryId := by
    obtain ⟨row, hrow, rfl⟩ := Option.map_eq_some_iff.1 hhome
    obtain ⟨row', hrow', hfixed⟩ := h.pulls.exists_row (hdb.pulls.get?_eq_some_iff.1 hrow)
    exact Option.map_eq_some_iff.2
      ⟨row', hdb'.pulls.get?_eq_some_iff.2 hrow', congrArg Prod.fst hfixed⟩
  cases subject with
  | pullRequest => exact hpull hhome
  | checkRun =>
    obtain ⟨row, hrow, hhome⟩ := Option.bind_eq_some_iff.1 hhome
    obtain ⟨row', hrow', hkey⟩ := h.checks.exists_row (hdb.checks.get?_eq_some_iff.1 hrow)
    have howner : row'.pullRequestId = row.pullRequestId := congrArg Prod.fst hkey
    refine Option.bind_eq_some_iff.2 ⟨row', hdb'.checks.get?_eq_some_iff.2 hrow', ?_⟩
    rw [howner]
    exact hpull hhome

/-! ### Rows of other repositories -/

/-- Only rows at home in one repository were written: the rules hold, every row has stayed, and what
is at home in another repository is what was at home there, row by row. -/
structure Confined (repositoryId : Int) (db db' : Database) : Prop where
  sound : db'.Sound
  rows : db.Extends db'
  homes : ∀ subject id other, other ≠ repositoryId →
    db'.home subject id = some other → db.home subject id = some other
  others : ∀ other, other ≠ repositoryId → db'.rowsOf other = db.rowsOf other

namespace Confined

theorem refl (h : db.Sound) : Confined repositoryId db db :=
  ⟨h, .refl db, fun _ _ _ _ => id, fun _ _ => rfl⟩

theorem trans (h : Confined repositoryId db db') (h' : Confined repositoryId db' db'') :
    Confined repositoryId db db'' where
  sound := h'.sound
  rows := h.rows.trans h'.rows
  homes subject id other hne hhome :=
    h.homes subject id other hne (h'.homes subject id other hne hhome)
  others other hne := (h'.others other hne).trans (h.others other hne)

end Confined

end Database

/-- The write is about a record that is at home in a repository, or adds one there. -/
def StoreWrite.Concerns (repositoryId : Int) (db : Database) : StoreWrite → Prop
  | insertPull home _ => home = repositoryId
  | updatePull id _ => db.home .pullRequest id = some repositoryId
  | insertCheck pullRequestId _ => db.home .pullRequest pullRequestId = some repositoryId
  | updateCheck id _ => db.home .checkRun id = some repositoryId
  | appendHistory e => db.home e.subject e.subjectId = some repositoryId

namespace Database

variable {db db' : Database} {repositoryId id other : Int} {subject : HistorySubject}
  {time : Instant}

/-- New pull requests are at home where they are added. -/
theorem home_insertPull (row : PullRow) (hne : other ≠ row.repositoryId)
    (hhome : (db.withPulls (db.pulls.insert row).2).home subject id = some other) :
    db.home subject id = some other := by
  have hpull {id : Int}
      (hhome : (db.withPulls (db.pulls.insert row).2).home .pullRequest id = some other) :
      db.home .pullRequest id = some other := by
    simp only [home, Table.get?_insert] at hhome ⊢
    cases hget : db.pulls.get? id with
    | some found => rwa [hget] at hhome
    | none =>
      rw [hget, Option.none_or] at hhome
      split_ifs at hhome
      · exact absurd (Option.some.inj hhome).symm hne
      · exact nomatch hhome
  cases subject with
  | pullRequest => exact hpull hhome
  | checkRun =>
    obtain ⟨found, hfound, hhome⟩ := Option.bind_eq_some_iff.1 hhome
    exact Option.bind_eq_some_iff.2 ⟨found, hfound, hpull hhome⟩

/-- New check runs are at home where their pull requests are. -/
theorem home_insertCheck (row : CheckRow)
    (hne : db.home .pullRequest row.pullRequestId ≠ some other)
    (hhome : (db.withChecks (db.checks.insert row).2).home subject id = some other) :
    db.home subject id = some other := by
  cases subject with
  | pullRequest => exact hhome
  | checkRun =>
    simp only [home_checkRun, Table.get?_insert] at hhome ⊢
    cases hget : db.checks.get? id with
    | some found => rwa [hget] at hhome
    | none =>
      rw [hget, Option.none_or] at hhome
      split_ifs at hhome
      · exact absurd hhome hne
      · exact nomatch hhome

/-- Replaced pull requests stay at home where they are. -/
theorem home_updatePull (p : FetchedPullRequest) (changed : Int) :
    (db.withPulls (db.pulls.change changed (·.update p))).home = db.home := by
  have hpull (id : Int) :
      (db.withPulls (db.pulls.change changed (·.update p))).home .pullRequest id =
        db.home .pullRequest id := by
    simp only [home, Table.get?_change]
    split_ifs
    · rw [Option.map_map]
      rfl
    · rfl
  funext subject id
  cases subject with
  | pullRequest => exact hpull id
  | checkRun => simp only [home_checkRun, hpull]

/-- Replaced check runs stay at home where they are. -/
theorem home_updateCheck (c : CheckRun) (changed : Int) :
    (db.withChecks (db.checks.change changed (·.update c))).home = db.home := by
  funext subject id
  cases subject with
  | pullRequest => rfl
  | checkRun =>
    simp only [home_checkRun, Table.get?_change]
    split_ifs
    · cases db.checks.get? id <;> rfl
    · rfl

/-- A write is confined to one repository when it makes no row at home in another one and none of
the rows that it touches is at home there. -/
theorem Sound.confined (h : db.Sound) (hsound : db'.Sound) (hextends : db.Extends db')
    (hhome : ∀ other, other ≠ repositoryId → ∀ subject id,
      db'.home subject id = some other → db.home subject id = some other)
    (hpulls : ∀ other, other ≠ repositoryId →
      (db'.pulls.select fun row => row.repositoryId = other) =
        db.pulls.select fun row => row.repositoryId = other)
    (hchecks : ∀ other, other ≠ repositoryId →
      (db'.checks.select fun row => db.home .pullRequest row.pullRequestId = some other) =
        db.checks.select fun row => db.home .pullRequest row.pullRequestId = some other)
    (hhistory : ∀ other, other ≠ repositoryId →
      (db'.history.select fun row => db.homeOfEntry row = some other) =
        db.history.select fun row => db.homeOfEntry row = some other) :
    Confined repositoryId db db' where
  sound := hsound
  rows := hextends
  homes subject id other hne := hhome other hne subject id
  others other hne := by
    have hiff (subject : HistorySubject) (id : Int) :
        db'.home subject id = some other ↔ db.home subject id = some other :=
      ⟨hhome other hne subject id, hextends.home h hsound⟩
    have hentry (row : HistoryRow) :
        db'.homeOfEntry row = some other ↔ db.homeOfEntry row = some other := by
      simp only [homeOfEntry, Option.bind_eq_some_iff, hiff]
    simp only [rowsOf, hiff, hentry, hpulls other hne, hchecks other hne, hhistory other hne]

/-- A write about one repository is confined to it. -/
theorem confined_run {w : StoreWrite} (h : db.Sound) (hw : w.Concerns repositoryId db)
    (hok : w.run db = .ok db') : Confined repositoryId db db' := by
  have hextends := extends_run hok
  cases w with
  | insertPull target p =>
    obtain rfl : target = repositoryId := hw
    obtain ⟨⟨id, s⟩, hinsert, rfl⟩ := Outcome.map_eq_ok.1 hok
    have hsound := h.insertPull hinsert
    obtain ⟨-, -, -, rfl⟩ := insertPull_eq_ok.1 hinsert
    refine h.confined hsound hextends (fun other hne _ _ => home_insertPull _ hne)
      (fun other hne => ?_) (fun _ _ => rfl) fun _ _ => rfl
    have helsewhere : ¬ (PullRow.ofRecord target p).repositoryId = other := fun heq => hne heq.symm
    rw [Table.select_insert, decide_eq_false helsewhere, if_neg Bool.false_ne_true,
      List.append_nil]
  | updatePull changed p =>
    have hsound := h.updatePull hok
    obtain ⟨-, rfl⟩ := updatePull_eq_ok.1 hok
    refine h.confined hsound hextends (fun other hne _ _ hhome => ?_) (fun other hne => ?_)
      (fun _ _ => rfl) fun _ _ => rfl
    · rwa [home_updatePull] at hhome
    · refine Table.select_change_of_not (t := db.pulls) (f := (·.update p)) fun r hr hid => ?_
      -- the row that is replaced is at home in the repository
      obtain ⟨row, hrow, hhome⟩ := Option.map_eq_some_iff.1 hw
      obtain rfl : r = (changed, row) :=
        h.pulls.eq_of_id hr (h.pulls.get?_eq_some_iff.1 hrow) hid
      have helsewhere : ¬ row.repositoryId = other := fun heq => hne (heq.symm.trans hhome)
      exact ⟨decide_eq_false helsewhere, decide_eq_false helsewhere⟩
  | insertCheck pullRequestId c =>
    obtain ⟨⟨id, s⟩, hinsert, rfl⟩ := Outcome.map_eq_ok.1 hok
    have hsound := h.insertCheck hinsert
    obtain ⟨-, -, -, rfl⟩ := insertCheck_eq_ok.1 hinsert
    have helsewhere (other : Int) (hne : other ≠ repositoryId) :
        db.home .pullRequest (CheckRow.ofRecord pullRequestId c).pullRequestId ≠ some other :=
      fun heq => hne (Option.some.inj (heq.symm.trans hw))
    refine h.confined hsound hextends
      (fun other hne _ _ => home_insertCheck _ (helsewhere other hne)) (fun _ _ => rfl)
      (fun other hne => ?_) fun _ _ => rfl
    rw [Table.select_insert, decide_eq_false (helsewhere other hne), if_neg Bool.false_ne_true,
      List.append_nil]
  | updateCheck changed c =>
    have hsound := h.updateCheck hok
    obtain ⟨-, rfl⟩ := updateCheck_eq_ok.1 hok
    refine h.confined hsound hextends (fun other hne _ _ hhome => ?_) (fun _ _ => rfl)
      (fun other hne => ?_) fun _ _ => rfl
    · rwa [home_updateCheck] at hhome
    · refine Table.select_change_of_not (t := db.checks) (f := (·.update c)) fun r hr hid => ?_
      obtain ⟨row, hrow, hhome⟩ := Option.bind_eq_some_iff.1 hw
      obtain rfl : r = (changed, row) :=
        h.checks.eq_of_id hr (h.checks.get?_eq_some_iff.1 hrow) hid
      have helsewhere : ¬ db.home .pullRequest row.pullRequestId = some other := fun heq =>
        hne (Option.some.inj (heq.symm.trans hhome))
      exact ⟨decide_eq_false helsewhere, decide_eq_false helsewhere⟩
  | appendHistory e =>
    obtain rfl := Except.ok.inj hok
    refine h.confined (h.appendHistory e) hextends (fun _ _ _ _ hhome => hhome) (fun _ _ => rfl)
      (fun _ _ => rfl) fun other hne => ?_
    have helsewhere : ¬ db.homeOfEntry (.ofEntry e) = some other := by
      rw [homeOfEntry_ofEntry]
      exact fun heq => hne (Option.some.inj (heq.symm.trans hw))
    rw [appendHistory, Table.select_insert, decide_eq_false helsewhere, if_neg Bool.false_ne_true,
      List.append_nil]

/-! ### Changes -/

namespace Confined

variable {s : Database}

/-- One more write about the repository. -/
theorem write {w : StoreWrite} (h : Confined repositoryId db s) (hw : w.Concerns repositoryId s)
    (hok : w.run s = .ok db') : Confined repositoryId db db' :=
  h.trans (confined_run h.sound hw hok)

/-- An entry about a record of the repository. -/
theorem record {e : Option HistoryEntry} (h : Confined repositoryId db s)
    (he : ∀ x ∈ e, s.home x.subject x.subjectId = some repositoryId) :
    Confined repositoryId db (s.record e) := by
  cases e with
  | none => exact h
  | some e => exact h.write (w := .appendHistory e) (he e rfl) rfl

theorem addPull {c : PullChange} (h : Confined repositoryId db s)
    (hok : s.addPull repositoryId time c = .ok db') : Confined repositoryId db db' := by
  obtain ⟨hnew, hrepository, rfl⟩ := addPull_eq_ok.1 hok
  have hinsert : s.insertPull repositoryId c.record = .ok _ :=
    insertPull_eq_ok.2 ⟨hnew, hrepository, rfl, rfl⟩
  have hrow : Confined repositoryId db _ :=
    h.write (w := .insertPull repositoryId c.record) rfl (by rw [StoreWrite.run, hinsert]; rfl)
  refine hrow.write (w := .appendHistory (c.firstEntry (s.pulls.lastId + 1) time)) ?_ rfl
  refine Option.map_eq_some_iff.2
    ⟨.ofRecord repositoryId c.record, hrow.sound.pulls.get?_eq_some_iff.2 ?_, rfl⟩
  simp [PullChange.firstEntry]

theorem replacePull {c : PullChange} (h : Confined repositoryId db s)
    (hc : ∀ id ∈ c.existingId, s.home .pullRequest id = some repositoryId)
    (hok : s.replacePull time c = .ok db') : Confined repositoryId db db' := by
  obtain rfl | ⟨id, hid⟩ := eq_or_existingId_of_replacePull hok
  · exact h
  · obtain ⟨hhas, rfl⟩ := (replacePull_eq_ok hid).1 hok
    have hrow : Confined repositoryId db _ :=
      h.write (w := .updatePull id c.record) (hc id hid) (updatePull_eq_ok.2 ⟨hhas, rfl⟩)
    refine hrow.record fun x hx => ?_
    rw [PullChange.transition?] at hx
    split_ifs at hx
    · rw [← Option.some.inj hx, home_updatePull]
      exact hc id hid
    · cases hx

theorem addCheck {c : CheckChange} (h : Confined repositoryId db s)
    (hok : s.addCheck repositoryId time c = .ok db') : Confined repositoryId db db' := by
  obtain ⟨r, hrow, hnew, rfl⟩ := (addCheck_eq_ok h.sound).1 hok
  obtain ⟨hmem, hkey⟩ := h.sound.pullRow?_eq_some.1 hrow
  have hhome : s.home .pullRequest r.1 = some repositoryId :=
    Option.map_eq_some_iff.2 ⟨r.2, h.sound.pulls.get?_eq_some_iff.2 hmem, congrArg Prod.fst hkey⟩
  have hinsert : s.insertCheck r.1 c.record = .ok _ :=
    insertCheck_eq_ok.2 ⟨hnew, Table.hasId_iff.2 ⟨r.2, hmem⟩, rfl, rfl⟩
  have hwritten : Confined repositoryId db _ :=
    h.write (w := .insertCheck r.1 c.record) hhome (by rw [StoreWrite.run, hinsert]; rfl)
  refine hwritten.record fun x hx => ?_
  obtain ⟨conclusion, -, rfl⟩ := Option.map_eq_some_iff.1 hx
  refine Option.bind_eq_some_iff.2
    ⟨.ofRecord r.1 c.record, hwritten.sound.checks.get?_eq_some_iff.2 ?_, hhome⟩
  simp [CheckChange.firstEntry]

theorem replaceCheck {c : CheckChange} (h : Confined repositoryId db s)
    (hc : ∀ id ∈ c.existingId, s.home .checkRun id = some repositoryId)
    (hok : s.replaceCheck time c = .ok db') : Confined repositoryId db db' := by
  obtain rfl | ⟨id, hid⟩ := eq_or_existingId_of_replaceCheck hok
  · exact h
  · obtain ⟨hhas, rfl⟩ := (replaceCheck_eq_ok hid).1 hok
    have hrow : Confined repositoryId db _ :=
      h.write (w := .updateCheck id c.record) (hc id hid) (updateCheck_eq_ok.2 ⟨hhas, rfl⟩)
    refine hrow.record fun x hx => ?_
    rw [CheckChange.transition?] at hx
    split_ifs at hx
    · rw [← Option.some.inj hx, home_updateCheck]
      exact hc id hid
    · cases hx

end Confined

end Database

/-! ### Change sets -/

/-- The rows that a change set replaces are at home in a repository. -/
structure ChangeSet.Concerns (repositoryId : Int) (db : Database) (s : ChangeSet) : Prop where
  pulls : ∀ c ∈ s.updatedPulls, ∀ id ∈ c.existingId, db.home .pullRequest id = some repositoryId
  checks : ∀ c ∈ s.updatedChecks, ∀ id ∈ c.existingId, db.home .checkRun id = some repositoryId

namespace Database

variable {db db' : Database} {repositoryId : Int} {time : Instant}

/-- A change set that concerns a repository still does when more rows were written. -/
theorem Extends.concerns {changes : ChangeSet} (h : db.Extends db') (hdb : db.Sound)
    (hdb' : db'.Sound) (hchanges : changes.Concerns repositoryId db) :
    changes.Concerns repositoryId db' where
  pulls c hc id hid := h.home hdb hdb' (hchanges.pulls c hc id hid)
  checks c hc id hid := h.home hdb hdb' (hchanges.checks c hc id hid)

/-- Writing a change set that concerns a repository is confined to it. -/
theorem Sound.confined_store {changes : ChangeSet} (h : db.Sound)
    (hchanges : changes.Concerns repositoryId db)
    (hok : changes.store repositoryId time db = .ok db') : Confined repositoryId db db' := by
  obtain ⟨s₁, s₂, s₃, hadd, hreplace, haddChecks, hreplaceChecks⟩ := ChangeSet.store_eq_ok.1 hok
  have hhome {s : Database} {subject : HistorySubject} {id : Int}
      (hs : Confined repositoryId db s) (hid : db.home subject id = some repositoryId) :
      s.home subject id = some repositoryId := hs.rows.home h hs.sound hid
  have h₁ : Confined repositoryId db s₁ :=
    Outcome.foldlM_keeps (P := fun _ s => Confined repositoryId db s)
      (fun _ _ _ _ hs => hs.addPull) (.refl h) hadd
  have h₂ : Confined repositoryId db s₂ :=
    (Outcome.foldlM_keeps
      (P := fun rest s => Confined repositoryId db s ∧ rest ⊆ changes.updatedPulls)
      (fun c rest s s' hs hok =>
        ⟨hs.1.replacePull (fun id hid => hhome hs.1
          (hchanges.pulls c (hs.2 List.mem_cons_self) id hid)) hok,
          (List.cons_subset.1 hs.2).2⟩) ⟨h₁, List.Subset.refl _⟩ hreplace).1
  have h₃ : Confined repositoryId db s₃ :=
    Outcome.foldlM_keeps (P := fun _ s => Confined repositoryId db s)
      (fun _ _ _ _ hs => hs.addCheck) h₂ haddChecks
  exact (Outcome.foldlM_keeps
    (P := fun rest s => Confined repositoryId db s ∧ rest ⊆ changes.updatedChecks)
    (fun c rest s s' hs hok =>
      ⟨hs.1.replaceCheck (fun id hid => hhome hs.1
        (hchanges.checks c (hs.2 List.mem_cons_self) id hid)) hok,
        (List.cons_subset.1 hs.2).2⟩) ⟨h₃, List.Subset.refl _⟩ hreplaceChecks).1

/-- What detection finds for a repository concerns that repository. -/
theorem Sound.concerns_changesFor (h : db.Sound) (f : Findings) :
    (db.changesFor repositoryId f).Concerns repositoryId db where
  pulls c hc id hid := by
    obtain ⟨-, old, hknown, hexisting, -⟩ := mem_updatedPulls.1 hc
    obtain rfl : old.id = id := Option.some.inj (hexisting.symm.trans hid)
    obtain ⟨row, hrow, -⟩ := knownPull_eq_some hknown
    obtain ⟨hmem, hkey⟩ := h.pullRow?_eq_some.1 hrow
    exact Option.map_eq_some_iff.2
      ⟨row, h.pulls.get?_eq_some_iff.2 hmem, congrArg Prod.fst hkey⟩
  checks c hc id hid := by
    obtain ⟨externalId, old, hknown, hexisting⟩ := exists_of_mem_updatedChecks hc
    obtain rfl : old.id = id := Option.some.inj (hexisting.symm.trans hid)
    obtain ⟨row, hrow, -⟩ := h.knownCheck_eq_some hknown
    obtain ⟨⟨pullId, pull⟩, hpull, hcheck⟩ := Option.bind_eq_some_iff.1 hrow
    obtain ⟨hmem, hkey⟩ := h.pullRow?_eq_some.1 hpull
    obtain ⟨hcheckMem, hcheckKey⟩ := h.checkRow?_eq_some.1 hcheck
    have howner : row.pullRequestId = pullId := congrArg Prod.fst hcheckKey
    refine Option.bind_eq_some_iff.2 ⟨row, h.checks.get?_eq_some_iff.2 hcheckMem, ?_⟩
    rw [howner]
    exact Option.map_eq_some_iff.2
      ⟨pull, h.pulls.get?_eq_some_iff.2 hmem, congrArg Prod.fst hkey⟩

end Database

end PullWatch
