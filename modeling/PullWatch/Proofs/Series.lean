import PullWatch.Proofs.Writing

/-!
# Series of writes

A transaction is a series of writes, and so is the writing of a change set: every change is one
write of a row, or none, and perhaps an entry of the history about that row. What every write keeps
is therefore kept by all transactions and by all change sets.

## Main definitions

* `StoreWrite`, `StoreWrite.run`: a write, and the database after it.
* `Transaction.series`: the transaction that makes some writes one after the other.
* `Database.LeadsTo`: a series of writes leads from one database to another.

## Main results

* `Transaction.series_commit_eq_ok`: when a series of writes is committed, and what it leaves.
* `Database.LeadsTo.store`: writing a change set is a series of writes.
-/

namespace PullWatch

/-- A write of a transaction. -/
inductive StoreWrite where
  | insertPull (repositoryId : Int) (p : FetchedPullRequest)
  | updatePull (id : Int) (p : FetchedPullRequest)
  | insertCheck (pullRequestId : Int) (c : CheckRun)
  | updateCheck (id : Int) (c : CheckRun)
  | appendHistory (e : HistoryEntry)

/-- There is a record of a kind with the id. -/
def Database.hasSubject (db : Database) (id : Int) : HistorySubject → Bool
  | .pullRequest => db.pulls.hasId id
  | .checkRun => db.checks.hasId id

namespace StoreWrite

/-- The write as a part of a transaction. -/
def perform (faults : Faults) : StoreWrite → Transaction Unit
  | insertPull repositoryId p => do
    let _ ← Transaction.insertPull faults repositoryId p
  | updatePull id p => Transaction.updatePull faults id p
  | insertCheck pullRequestId c => do
    let _ ← Transaction.insertCheck faults pullRequestId c
  | updateCheck id c => Transaction.updateCheck faults id c
  | appendHistory e => Transaction.appendHistory faults e

/-- The database after the write. -/
def run (db : Database) : StoreWrite → Except StoreError Database
  | insertPull repositoryId p => (db.insertPull repositoryId p).map (·.2)
  | updatePull id p => db.updatePull id p
  | insertCheck pullRequestId c => (db.insertCheck pullRequestId c).map (·.2)
  | updateCheck id c => db.updateCheck id c
  | appendHistory e => .ok (db.appendHistory e)

/-- An entry of the history is about a record that exists. -/
def Apt (db : Database) : StoreWrite → Prop
  | appendHistory e => db.hasSubject e.subjectId e.subject = true
  | _ => True

end StoreWrite

/-! ### Transactions -/

namespace Transaction

/-- Writes one after the other. -/
def series (faults : Faults) : List StoreWrite → Transaction Unit
  | [] => pure ()
  | w :: writes => do
    w.perform faults
    series faults writes

variable {faults : Faults}

theorem performs_storeWrite (w : StoreWrite) :
    Performs faults (w.perform faults) (fun db => (w.run db).map ((), ·)) 1 := by
  cases w with
  | insertPull repositoryId p =>
    refine ((performs_insertPull faults repositoryId p).andThen fun _ =>
      performs_pure ()).congr fun db => ?_
    simp only [StoreWrite.run]
    cases db.insertPull repositoryId p <;> rfl
  | updatePull id p => exact performs_updatePull faults id p
  | insertCheck pullRequestId c =>
    refine ((performs_insertCheck faults pullRequestId c).andThen fun _ =>
      performs_pure ()).congr fun db => ?_
    simp only [StoreWrite.run]
    cases db.insertCheck pullRequestId c <;> rfl
  | updateCheck id c => exact performs_updateCheck faults id c
  | appendHistory e => exact performs_appendHistory faults e

theorem performs_series (writes : List StoreWrite) :
    Performs faults (series faults writes)
      (fun db => (writes.foldlM StoreWrite.run db).map ((), ·)) writes.length := by
  induction writes with
  | nil => exact performs_pure ()
  | cons w writes ih =>
    rw [List.length_cons, Nat.add_comm]
    refine ((performs_storeWrite w).andThen fun _ => ih).congr fun db => ?_
    rw [List.foldlM_cons]
    cases w.run db <;> rfl

/-- A series of writes is committed when each can be made and no fault strikes one of them. -/
theorem series_commit_eq_ok {writes : List StoreWrite} {db db' : Database} :
    (series faults writes).commit db = .ok ((), db') ↔
      writes.foldlM StoreWrite.run db = .ok db' ∧ faults.Spare 0 writes.length := by
  rw [(performs_series writes).commit_eq_ok, Outcome.map_eq_ok]
  simp only [Prod.mk.injEq, true_and, exists_eq_right]

end Transaction

/-! ### Change sets -/

/-- The rows of a change set are written by writes of some kind, and so is the history. -/
structure ChangeSet.WrittenBy (kind : StoreWrite → Prop) (repositoryId : Int) (s : ChangeSet) :
    Prop where
  newPulls : ∀ c ∈ s.newPulls, kind (.insertPull repositoryId c.record)
  updatedPulls : ∀ c ∈ s.updatedPulls, ∀ id, kind (.updatePull id c.record)
  newChecks : ∀ c ∈ s.newChecks, ∀ id, kind (.insertCheck id c.record)
  updatedChecks : ∀ c ∈ s.updatedChecks, ∀ id, kind (.updateCheck id c.record)
  entries : ∀ e, kind (.appendHistory e)

/-- The rows of a change set are written by writes of some kind, and so are entries of the history
that are recorded at a time. -/
structure ChangeSet.WrittenAt (kind : StoreWrite → Prop) (repositoryId : Int) (time : Instant)
    (s : ChangeSet) : Prop where
  newPulls : ∀ c ∈ s.newPulls, kind (.insertPull repositoryId c.record)
  updatedPulls : ∀ c ∈ s.updatedPulls, ∀ id, kind (.updatePull id c.record)
  newChecks : ∀ c ∈ s.newChecks, ∀ id, kind (.insertCheck id c.record)
  updatedChecks : ∀ c ∈ s.updatedChecks, ∀ id, kind (.updateCheck id c.record)
  entries : ∀ e, e.recordedAt = time → kind (.appendHistory e)

theorem ChangeSet.WrittenBy.writtenAt {kind : StoreWrite → Prop} {repositoryId : Int}
    {s : ChangeSet} (h : s.WrittenBy kind repositoryId) (time : Instant) :
    s.WrittenAt kind repositoryId time :=
  { h with entries := fun e _ => h.entries e }

namespace Database

variable {db db' s : Database} {kind : StoreWrite → Prop} {repositoryId id : Int} {time : Instant}

/-- A series of writes of some kind leads from one database to another. What it adds to the history
is about records that exist. -/
inductive LeadsTo (kind : StoreWrite → Prop) (db : Database) : Database → Prop
  | refl : LeadsTo kind db db
  | write {s s' : Database} {w : StoreWrite} (h : LeadsTo kind db s) (hkind : kind w)
      (hapt : w.Apt s) (hok : w.run s = .ok s') : LeadsTo kind db s'

namespace LeadsTo

theorem exists_series (h : LeadsTo kind db db') :
    ∃ writes : List StoreWrite, (∀ w ∈ writes, kind w) ∧
      writes.foldlM StoreWrite.run db = .ok db' := by
  induction h with
  | refl => exact ⟨[], by simp, rfl⟩
  | @write s s' w h hkind hapt hok ih =>
    obtain ⟨writes, hwrites, hs⟩ := ih
    refine ⟨writes ++ [w], fun x hx => ?_, ?_⟩
    · rcases List.mem_append.1 hx with hx | hx
      · exact hwrites x hx
      · rwa [List.mem_singleton.1 hx]
    · rw [List.foldlM_append, Outcome.bind_eq_ok]
      exact ⟨s, hs, by rw [List.foldlM_cons, hok]; rfl⟩

theorem insertPull {p : FetchedPullRequest} (h : LeadsTo kind db s)
    (hkind : kind (.insertPull repositoryId p))
    (hok : s.insertPull repositoryId p = .ok (id, db')) :
    LeadsTo kind db db' ∧ db'.hasSubject id .pullRequest = true := by
  refine ⟨h.write hkind trivial (by rw [StoreWrite.run, hok]; rfl), ?_⟩
  obtain ⟨-, -, rfl, rfl⟩ := insertPull_eq_ok.1 hok
  simp [hasSubject, Table.hasId_insert]

theorem updatePull {p : FetchedPullRequest} (h : LeadsTo kind db s)
    (hkind : kind (.updatePull id p)) (hok : s.updatePull id p = .ok db') :
    LeadsTo kind db db' ∧ db'.hasSubject id .pullRequest = true := by
  refine ⟨h.write hkind trivial hok, ?_⟩
  obtain ⟨hid, rfl⟩ := updatePull_eq_ok.1 hok
  rwa [hasSubject, Table.hasId_change]

theorem insertCheck {c : CheckRun} {pullRequestId : Int} (h : LeadsTo kind db s)
    (hkind : kind (.insertCheck pullRequestId c))
    (hok : s.insertCheck pullRequestId c = .ok (id, db')) :
    LeadsTo kind db db' ∧ db'.hasSubject id .checkRun = true := by
  refine ⟨h.write hkind trivial (by rw [StoreWrite.run, hok]; rfl), ?_⟩
  obtain ⟨-, -, rfl, rfl⟩ := insertCheck_eq_ok.1 hok
  simp [hasSubject, Table.hasId_insert]

theorem updateCheck {c : CheckRun} (h : LeadsTo kind db s) (hkind : kind (.updateCheck id c))
    (hok : s.updateCheck id c = .ok db') :
    LeadsTo kind db db' ∧ db'.hasSubject id .checkRun = true := by
  refine ⟨h.write hkind trivial hok, ?_⟩
  obtain ⟨hid, rfl⟩ := updateCheck_eq_ok.1 hok
  rwa [hasSubject, Table.hasId_change]

theorem appendHistory {e : HistoryEntry} (h : LeadsTo kind db s) (hkind : kind (.appendHistory e))
    (hsubject : s.hasSubject e.subjectId e.subject = true) :
    LeadsTo kind db (s.appendHistory e) := h.write hkind hsubject rfl

section Changes

variable (hentries : ∀ e, e.recordedAt = time → kind (.appendHistory e))

include hentries

theorem addPull {c : PullChange} (h : LeadsTo kind db s)
    (hkind : kind (.insertPull repositoryId c.record))
    (hok : s.addPull repositoryId time c = .ok db') : LeadsTo kind db db' := by
  obtain ⟨⟨id, s'⟩, hinsert, happend⟩ := Outcome.bind_eq_ok.1 hok
  obtain ⟨hs, hid⟩ := h.insertPull hkind hinsert
  rw [← Except.ok.inj happend]
  exact hs.appendHistory (hentries (c.firstEntry id time) rfl) hid

theorem replacePull {c : PullChange} (h : LeadsTo kind db s)
    (hkind : ∀ id, kind (.updatePull id c.record)) (hok : s.replacePull time c = .ok db') :
    LeadsTo kind db db' := by
  rw [Database.replacePull] at hok
  cases hexisting : c.existingId with
  | none =>
    rw [hexisting] at hok
    rwa [← Except.ok.inj hok]
  | some id =>
    rw [hexisting] at hok
    obtain ⟨s', hupdate, hrecord⟩ := Outcome.bind_eq_ok.1 hok
    obtain ⟨hs, hid⟩ := h.updatePull (hkind id) hupdate
    split_ifs at hrecord <;> rw [← Except.ok.inj hrecord]
    · exact hs.appendHistory (hentries (c.entry id time) rfl) hid
    · exact hs

theorem addCheck {c : CheckChange} (h : LeadsTo kind db s)
    (hkind : ∀ id, kind (.insertCheck id c.record))
    (hok : s.addCheck repositoryId time c = .ok db') : LeadsTo kind db db' := by
  rw [Database.addCheck] at hok
  split at hok
  · cases hok
  · obtain ⟨⟨id, s'⟩, hinsert, hrecord⟩ := Outcome.bind_eq_ok.1 hok
    obtain ⟨hs, hid⟩ := h.insertCheck (hkind _) hinsert
    cases hconclusion : c.record.conclusion with
    | none =>
      simp only [hconclusion] at hrecord
      rwa [← Except.ok.inj hrecord]
    | some conclusion =>
      simp only [hconclusion] at hrecord
      rw [← Except.ok.inj hrecord]
      exact hs.appendHistory (hentries (c.firstEntry id conclusion time) rfl) hid

theorem replaceCheck {c : CheckChange} (h : LeadsTo kind db s)
    (hkind : ∀ id, kind (.updateCheck id c.record)) (hok : s.replaceCheck time c = .ok db') :
    LeadsTo kind db db' := by
  rw [Database.replaceCheck] at hok
  cases hexisting : c.existingId with
  | none =>
    rw [hexisting] at hok
    rwa [← Except.ok.inj hok]
  | some id =>
    rw [hexisting] at hok
    obtain ⟨s', hupdate, hrecord⟩ := Outcome.bind_eq_ok.1 hok
    obtain ⟨hs, hid⟩ := h.updateCheck (hkind id) hupdate
    split_ifs at hrecord <;> rw [← Except.ok.inj hrecord]
    · exact hs.appendHistory (hentries (c.entry id time) rfl) hid
    · exact hs

end Changes

/-- One part of a change set, change by change. -/
theorem part {α : Type} {step : Database → α → Except StoreError Database} {P : α → Prop}
    {changes : List α} (h : LeadsTo kind db s) (hok : changes.foldlM step s = .ok db')
    (hP : ∀ c ∈ changes, P c)
    (hstep : ∀ c s s', LeadsTo kind db s → P c → step s c = .ok s' → LeadsTo kind db s') :
    LeadsTo kind db db' := by
  refine (Outcome.foldlM_keeps (P := fun rest s => LeadsTo kind db s ∧ ∀ c ∈ rest, P c)
    (fun c rest s s' hs hok => ?_) ⟨h, hP⟩ hok).1
  exact ⟨hstep c s s' hs.1 (hs.2 c List.mem_cons_self) hok,
    fun x hx => hs.2 x (List.mem_cons_of_mem _ hx)⟩

/-- Writing a change set is a series of writes, and its entries are recorded at one time. -/
theorem storeAt {changes : ChangeSet} (h : LeadsTo kind db s)
    (hkind : changes.WrittenAt kind repositoryId time)
    (hok : changes.store repositoryId time s = .ok db') : LeadsTo kind db db' := by
  obtain ⟨s₁, s₂, s₃, hadd, hreplace, haddChecks, hreplaceChecks⟩ := ChangeSet.store_eq_ok.1 hok
  have h₁ : LeadsTo kind db s₁ := h.part hadd hkind.newPulls fun _ _ _ hs =>
    hs.addPull hkind.entries
  have h₂ : LeadsTo kind db s₂ := h₁.part hreplace hkind.updatedPulls fun _ _ _ hs =>
    hs.replacePull hkind.entries
  have h₃ : LeadsTo kind db s₃ := h₂.part haddChecks hkind.newChecks fun _ _ _ hs =>
    hs.addCheck hkind.entries
  exact h₃.part hreplaceChecks hkind.updatedChecks fun _ _ _ hs => hs.replaceCheck hkind.entries

/-- Writing a change set is a series of writes, whatever it holds. -/
theorem store {changes : ChangeSet} (h : LeadsTo kind db s)
    (hkind : changes.WrittenBy kind repositoryId)
    (hok : changes.store repositoryId time s = .ok db') : LeadsTo kind db db' :=
  h.storeAt (hkind.writtenAt time) hok

end LeadsTo

end Database

end PullWatch
