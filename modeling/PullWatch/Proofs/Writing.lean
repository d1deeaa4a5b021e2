import PullWatch.Proofs.Outcome
import PullWatch.Proofs.Schema
import PullWatch.Synchronization
import Mathlib.Algebra.GroupWithZero.Nat

/-!
# What writing a change set does

A transaction counts its writes, meets faults and works chunk by chunk. None of this matters to the
database it leaves: a transaction succeeds exactly when no fault strikes one of its writes and the
changes can be made one after the other, and then it leaves what they make of the database.

## Main definitions

* `Database.addPull`, `Database.replacePull`, `Database.addCheck`, `Database.replaceCheck`: what one
  change makes of the database.
* `ChangeSet.store`: what a change set makes of the database.
* `ChangeSet.writes`, `ChangeSet.rowsWritten`: the number of writes of its transaction, and of rows.
* `Faults.Spare`: no fault strikes some writes.

## Main results

* `synchronize_eq_ok`: when writing a change set succeeds, and what it leaves.
* `exists_synchronize_eq_error_iff`, `synchronize_eq_error`: when it fails, and with which error.
-/

namespace PullWatch

/-! ### Changes as steps of the database -/

/-- The entry with which the history of a pull request begins. -/
def PullChange.firstEntry (c : PullChange) (id : Int) (time : Instant) : HistoryEntry :=
  { subject := .pullRequest, subjectId := id, oldValue := none
    newValue := c.record.state.name, trigger := c.event.kind.name, recordedAt := time }

/-- The entry about a change of a pull request's state. -/
def PullChange.entry (c : PullChange) (id : Int) (time : Instant) : HistoryEntry :=
  { subject := .pullRequest, subjectId := id
    oldValue := formerValue c.event (.pull .state)
    newValue := c.record.state.name, trigger := c.event.kind.name, recordedAt := time }

/-- The entry with which the history of a check run that has a conclusion begins. -/
def CheckChange.firstEntry (c : CheckChange) (id : Int) (conclusion : CheckConclusion)
    (time : Instant) : HistoryEntry :=
  { subject := .checkRun, subjectId := id, oldValue := none
    newValue := conclusion.name, trigger := c.event.kind.name, recordedAt := time }

/-- The entry about a change of a check run's conclusion. -/
def CheckChange.entry (c : CheckChange) (id : Int) (time : Instant) : HistoryEntry :=
  { subject := .checkRun, subjectId := id
    oldValue := formerValue c.event (.check .conclusion)
    newValue := presentValue c.event (.check .conclusion)
    trigger := c.event.kind.name, recordedAt := time }

namespace Database

/-- A new pull request and the beginning of its history. -/
def addPull (repositoryId : Int) (time : Instant) (db : Database) (c : PullChange) :
    Except StoreError Database := do
  let (id, db) ← db.insertPull repositoryId c.record
  .ok (db.appendHistory (c.firstEntry id time))

/-- A pull request replaced; a change of state goes to the history. -/
def replacePull (time : Instant) (db : Database) (c : PullChange) : Except StoreError Database :=
  match c.existingId with
  | none => .ok db
  | some id => do
    let db ← db.updatePull id c.record
    if c.event.kind = .pullStateChanged then .ok (db.appendHistory (c.entry id time)) else .ok db

/-- A new check run of a given row; a conclusion goes to the history. -/
def addCheckTo (pullRequestId : Int) (time : Instant) (db : Database) (c : CheckChange) :
    Except StoreError Database := do
  let (id, db) ← db.insertCheck pullRequestId c.record
  match c.record.conclusion with
  | none => .ok db
  | some conclusion => .ok (db.appendHistory (c.firstEntry id conclusion time))

/-- A new check run of the pull request that it names. -/
def addCheck (repositoryId : Int) (time : Instant) (db : Database) (c : CheckChange) :
    Except StoreError Database :=
  match db.pullId? repositoryId c.pullNumber with
  | none => .error (.missingPullRequest repositoryId c.pullNumber)
  | some pullRequestId => db.addCheckTo pullRequestId time c

/-- A check run replaced; a change of conclusion goes to the history. -/
def replaceCheck (time : Instant) (db : Database) (c : CheckChange) : Except StoreError Database :=
  match c.existingId with
  | none => .ok db
  | some id => do
    let db ← db.updateCheck id c.record
    if c.event.changes (.check .conclusion) then .ok (db.appendHistory (c.entry id time))
    else .ok db

end Database

namespace ChangeSet

/-- What a change set makes of the database. -/
def store (s : ChangeSet) (repositoryId : Int) (time : Instant) (db : Database) :
    Except StoreError Database := do
  let db ← s.newPulls.foldlM (Database.addPull repositoryId time) db
  let db ← s.updatedPulls.foldlM (Database.replacePull time) db
  let db ← s.newChecks.foldlM (Database.addCheck repositoryId time) db
  s.updatedChecks.foldlM (Database.replaceCheck time) db

/-- A success comes from the successes of the four parts. -/
theorem store_eq_ok {s : ChangeSet} {repositoryId : Int} {time : Instant} {db db' : Database} :
    s.store repositoryId time db = .ok db' ↔
      ∃ db₁ db₂ db₃, s.newPulls.foldlM (Database.addPull repositoryId time) db = .ok db₁ ∧
        s.updatedPulls.foldlM (Database.replacePull time) db₁ = .ok db₂ ∧
        s.newChecks.foldlM (Database.addCheck repositoryId time) db₂ = .ok db₃ ∧
        s.updatedChecks.foldlM (Database.replaceCheck time) db₃ = .ok db' := by
  simp only [store, Outcome.bind_eq_ok, exists_and_left]

end ChangeSet

/-! ### The size of a transaction -/

/-- Writes for a replaced pull request. -/
def PullChange.writes (c : PullChange) : Nat :=
  if c.existingId.isNone then 0 else if c.event.kind = .pullStateChanged then 2 else 1

/-- Writes for a new check run. -/
def CheckChange.firstWrites (c : CheckChange) : Nat :=
  if c.record.conclusion.isSome then 2 else 1

/-- Writes for a replaced check run. -/
def CheckChange.writes (c : CheckChange) : Nat :=
  if c.existingId.isNone then 0 else if c.event.changes (.check .conclusion) then 2 else 1

/-- The number of writes of a change set's transaction: one for each row and one for each entry of
the history. -/
def ChangeSet.writes (s : ChangeSet) : Nat :=
  2 * s.newPulls.length + (s.updatedPulls.map PullChange.writes).sum
    + (s.newChecks.map CheckChange.firstWrites).sum + (s.updatedChecks.map CheckChange.writes).sum

/-- The number of rows that a change set's transaction writes, without entries of the history. -/
def ChangeSet.rowsWritten (s : ChangeSet) : Nat :=
  s.newPulls.length + (s.updatedPulls.map fun c => c.existingId.toList.length).sum
    + s.newChecks.length + (s.updatedChecks.map fun c => c.existingId.toList.length).sum

/-! ### Transactions -/

/-- No fault strikes a write after the `first` ones, up to the one numbered `last`. -/
def Faults.Spare (faults : Faults) (first last : Nat) : Prop :=
  ∀ k, first < k → k ≤ last → faults.write k = none

namespace Faults.Spare

variable {faults : Faults} {first middle last : Nat}

@[simp] theorem self : faults.Spare first first := fun k hk hk' => absurd hk (by omega)

@[simp] theorem never : Faults.never.Spare first last := fun _ _ _ => rfl

@[simp] theorem about_never (repositoryId : Int) :
    (Faults.never.about repositoryId).Spare first last := fun _ _ _ => rfl

theorem succ_iff : faults.Spare first (first + 1) ↔ faults.write (first + 1) = none := by
  constructor
  · intro h
    exact h _ (by omega) (by omega)
  · intro h k hk hk'
    rwa [show k = first + 1 by omega]

theorem append_iff (h : first ≤ middle) (h' : middle ≤ last) :
    faults.Spare first middle ∧ faults.Spare middle last ↔ faults.Spare first last := by
  constructor
  · rintro ⟨hleft, hright⟩ k hk hk'
    by_cases hm : k ≤ middle
    · exact hleft k hk hm
    · exact hright k (by omega) hk'
  · intro hall
    exact ⟨fun k hk hk' => hall k hk (by omega), fun k hk hk' => hall k (by omega) hk'⟩

end Faults.Spare

namespace Transaction

variable {α β : Type} {faults : Faults}

/-- The work makes a fixed number of writes, and unless a fault strikes one of them it does to the
database what `effect` does, or fails as it does. -/
structure Performs (faults : Faults) (work : Transaction α)
    (effect : Database → Except StoreError (α × Database)) (writes : Nat) : Prop where
  ok : ∀ copy copy' a, work copy = .ok (a, copy') ↔
    effect copy.db = .ok (a, copy'.db) ∧
      faults.Spare copy.writes (copy.writes + writes) ∧ copy'.writes = copy.writes + writes
  error : ∀ copy e, work copy = .error e →
    (∃ k, faults.write k = some e) ∨ effect copy.db = .error e

section Performs

variable {work : Transaction α} {effect other : Database → Except StoreError (α × Database)}
  {writes : Nat}

theorem Performs.congr (h : Performs faults work effect writes)
    (heffect : ∀ db, effect db = other db) : Performs faults work other writes := by
  rwa [← funext heffect]

theorem performs_pure (a : α) : Performs faults (pure a) (fun db => .ok (a, db)) 0 where
  ok := by
    rintro ⟨db, begun⟩ ⟨db', begun'⟩ b
    change Except.ok (a, WorkingCopy.mk db begun) = _ ↔ _
    simp [eq_comm, and_assoc]
  error _ _ h := nomatch h

theorem performs_throw (e : StoreError) (writes : Nat) :
    Performs faults (throw e : Transaction α) (fun _ => .error e) writes where
  ok copy copy' a := by
    change Except.error e = _ ↔ _
    simp
  error _ _ h := .inr (congrArg Except.error (Except.error.inj h))

theorem performs_look (read : Database → Except StoreError α) :
    Performs faults (look read) (fun db => (read db).map (·, db)) 0 where
  ok := by
    rintro ⟨db, begun⟩ ⟨db', begun'⟩ a
    simp only [Transaction.look, Outcome.bind_eq_ok, Outcome.map_eq_ok, Nat.add_zero,
      Faults.Spare.self, true_and, Except.ok.injEq, Prod.mk.injEq, WorkingCopy.mk.injEq]
    constructor
    · rintro ⟨b, hb, rfl, rfl, rfl⟩
      exact ⟨⟨b, hb, rfl, rfl⟩, rfl⟩
    · rintro ⟨⟨b, hb, rfl, rfl⟩, rfl⟩
      exact ⟨b, hb, rfl, rfl, rfl⟩
  error copy e h := by
    rw [Transaction.look, Outcome.bind_eq_error] at h
    obtain hread | ⟨a, -, h⟩ := h
    · exact .inr (by rw [hread]; rfl)
    · exact absurd h (by simp)

theorem performs_write (change : Database → Except StoreError (α × Database)) :
    Performs faults (write faults change) change 1 where
  ok := by
    rintro ⟨db, begun⟩ ⟨db', begun'⟩ a
    simp only [Transaction.write, Outcome.bind_eq_ok, Faults.Spare.succ_iff]
    cases hfault : faults.write (begun + 1) with
    | some e => simp [Faults.strike]
    | none =>
      simp only [Faults.strike, true_and, Except.ok.injEq, Prod.mk.injEq, WorkingCopy.mk.injEq]
      constructor
      · rintro ⟨r, hr, rfl, rfl, rfl⟩
        exact ⟨hr, rfl⟩
      · rintro ⟨hr, rfl⟩
        exact ⟨_, hr, rfl, rfl, rfl⟩
  error copy e h := by
    simp only [Transaction.write, Outcome.bind_eq_error] at h
    obtain hstrike | ⟨r, -, h⟩ := h
    · cases hfault : faults.write (copy.writes + 1) with
      | some fault =>
        simp only [hfault, Faults.strike, Except.error.injEq] at hstrike
        exact .inl ⟨_, hstrike ▸ hfault⟩
      | none => exact .inr (by simpa only [hfault, Faults.strike] using hstrike)
    · exact absurd h (by simp)

theorem Performs.andThen {next : α → Transaction β}
    {later : α → Database → Except StoreError (β × Database)} {m n : Nat}
    (h : Performs faults work effect m) (hnext : ∀ a, Performs faults (next a) (later a) n) :
    Performs faults (work >>= next) (fun db => effect db >>= fun r => later r.1 r.2) (m + n) where
  ok copy copy' b := by
    change (work copy >>= fun r => next r.1 r.2) = _ ↔ _
    simp only [Outcome.bind_eq_ok, Prod.exists]
    constructor
    · rintro ⟨a, middle, hwork, hb⟩
      obtain ⟨hdb, hspare, hwrites⟩ := (h.ok _ _ _).1 hwork
      obtain ⟨hdb', hspare', hwrites'⟩ := ((hnext a).ok _ _ _).1 hb
      rw [hwrites] at hspare' hwrites'
      refine ⟨⟨a, middle.db, hdb, hdb'⟩, ?_, by omega⟩
      rw [← Nat.add_assoc]
      exact (Faults.Spare.append_iff (by omega) (by omega)).1 ⟨hspare, hspare'⟩
    · rintro ⟨⟨a, db, hdb, hdb'⟩, hspare, hwrites⟩
      rw [← Nat.add_assoc] at hspare
      obtain ⟨hfirst, hlater⟩ : faults.Spare copy.writes (copy.writes + m) ∧
          faults.Spare (copy.writes + m) _ :=
        (Faults.Spare.append_iff (by omega) (by omega)).2 hspare
      refine ⟨a, { db, writes := copy.writes + m }, (h.ok _ _ _).2 ⟨hdb, hfirst, rfl⟩,
        ((hnext a).ok _ _ _).2 ⟨hdb', hlater, ?_⟩⟩
      rw [hwrites, Nat.add_assoc]
  error copy e herror := by
    obtain hwork | ⟨⟨a, middle⟩, hwork, hb⟩ := Outcome.bind_eq_error.1 herror
    · exact (h.error copy e hwork).imp_right fun heffect => by rw [heffect]; rfl
    · have hdb : effect copy.db = .ok (a, middle.db) := ((h.ok _ _ _).1 hwork).1
      exact ((hnext a).error middle e hb).imp_right fun hlater => by rw [hdb]; exact hlater

/-- Such work is committed when it can be done and no fault strikes one of its writes. -/
theorem Performs.commit_eq_ok (h : Performs faults work effect writes) {a : α} {db db' : Database} :
    work.commit db = .ok (a, db') ↔ effect db = .ok (a, db') ∧ faults.Spare 0 writes := by
  rw [commit, Outcome.map_eq_ok]
  constructor
  · rintro ⟨⟨b, copy⟩, hwork, heq⟩
    obtain ⟨rfl, rfl⟩ := Prod.mk.inj heq
    obtain ⟨hdb, hspare, -⟩ := (h.ok _ _ _).1 hwork
    exact ⟨hdb, by simpa using hspare⟩
  · rintro ⟨hdb, hspare⟩
    exact ⟨(a, { db := db', writes }), (h.ok _ _ _).2 ⟨hdb, by simpa using hspare, by simp⟩, rfl⟩

/-- Such work fails with the error of a fault, or as its effect does. -/
theorem Performs.commit_eq_error (h : Performs faults work effect writes) {e : StoreError}
    {db : Database} (herror : work.commit db = .error e) :
    (∃ k, faults.write k = some e) ∨ effect db = .error e :=
  h.error { db } e (Outcome.map_eq_error.1 herror)

/-- A look is no write. -/
theorem performs_look_andThen (read : Database → Except StoreError α) {next : α → Transaction β}
    {later : α → Database → Except StoreError (β × Database)} {n : Nat}
    (hnext : ∀ a, Performs faults (next a) (later a) n) :
    Performs faults (look read >>= next) (fun db => read db >>= fun a => later a db) n := by
  rw [← Nat.zero_add n]
  refine ((performs_look read).andThen hnext).congr fun db => ?_
  cases read db <;> rfl

/-- A part of a change set does what its changes do one after the other, whatever the chunks. -/
theorem performs_applyPart {step : α → Transaction Nat}
    {effect : Database → α → Except StoreError Database} {writes rows : α → Nat}
    (hstep : ∀ c, Performs faults (step c) (fun db => (effect db c).map (rows c, ·)) (writes c))
    (chunkSize : Nat) (changes : List α) (count : Nat) :
    Performs faults (applyPart chunkSize step changes count)
      (fun db => (changes.foldlM effect db).map (count + (changes.map rows).sum, ·))
      (changes.map writes).sum := by
  rw [PullWatch.applyPart, foldlM_chunks]
  induction changes generalizing count with
  | nil => exact performs_pure count
  | cons c changes ih =>
    have hc := (hstep c).andThen fun n => performs_pure (count + n)
    refine (hc.andThen ih).congr fun db => ?_
    rw [List.foldlM_cons]
    cases heffect : effect db c with
    | error e => rfl
    | ok db₁ =>
      simp only [Except.map, bind, Except.bind, List.map_cons, List.sum_cons, Nat.add_assoc]

end Performs

/-! ### The writes of one change -/

variable (faults) (repositoryId : Int) (time : Instant)

theorem performs_insertPull (p : FetchedPullRequest) :
    Performs faults (insertPull faults repositoryId p) (·.insertPull repositoryId p) 1 :=
  performs_write _

theorem performs_updatePull (id : Int) (p : FetchedPullRequest) :
    Performs faults (updatePull faults id p) (fun db => (db.updatePull id p).map ((), ·)) 1 :=
  performs_write fun db => (db.updatePull id p).map ((), ·)

theorem performs_insertCheck (pullRequestId : Int) (c : CheckRun) :
    Performs faults (insertCheck faults pullRequestId c) (·.insertCheck pullRequestId c) 1 :=
  performs_write _

theorem performs_updateCheck (id : Int) (c : CheckRun) :
    Performs faults (updateCheck faults id c) (fun db => (db.updateCheck id c).map ((), ·)) 1 :=
  performs_write fun db => (db.updateCheck id c).map ((), ·)

theorem performs_appendHistory (e : HistoryEntry) :
    Performs faults (appendHistory faults e) (fun db => .ok ((), db.appendHistory e)) 1 :=
  performs_write fun db => .ok ((), db.appendHistory e)

theorem performs_writePull (c : PullChange) :
    Performs faults (writePull faults repositoryId time c)
      (fun db => (db.addPull repositoryId time c).map (1, ·)) 2 := by
  refine ((performs_insertPull faults repositoryId c.record).andThen fun id =>
    (performs_appendHistory faults (c.firstEntry id time)).andThen fun _ =>
      performs_pure 1).congr fun db => ?_
  rw [Database.addPull]
  cases db.insertPull repositoryId c.record <;> rfl

theorem performs_overwritePull (c : PullChange) :
    Performs faults (overwritePull faults time c)
      (fun db => (db.replacePull time c).map (c.existingId.toList.length, ·)) c.writes := by
  rw [overwritePull, PullChange.writes]
  simp only [Database.replacePull]
  cases c.existingId with
  | none => exact performs_pure 0
  | some id =>
    by_cases hkind : c.event.kind = .pullStateChanged
    · simp only [if_pos hkind]
      refine ((performs_updatePull faults id c.record).andThen fun _ =>
        (performs_appendHistory faults (c.entry id time)).andThen fun _ =>
          performs_pure 1).congr fun db => ?_
      cases db.updatePull id c.record <;> rfl
    · simp only [if_neg hkind]
      refine ((performs_updatePull faults id c.record).andThen fun _ =>
        performs_pure 1).congr fun db => ?_
      cases db.updatePull id c.record <;> rfl

theorem performs_writeCheck (c : CheckChange) :
    Performs faults (writeCheck faults repositoryId time c)
      (fun db => (db.addCheck repositoryId time c).map (1, ·)) c.firstWrites := by
  have howned (pullRequestId : Int) :
      Performs faults
        (do
          let id ← insertCheck faults pullRequestId c.record
          match c.record.conclusion with
          | none => pure 1
          | some conclusion => do
            appendHistory faults (c.firstEntry id conclusion time)
            pure 1)
        (fun db => (db.addCheckTo pullRequestId time c).map (1, ·)) c.firstWrites := by
    simp only [CheckChange.firstWrites, Database.addCheckTo]
    cases c.record.conclusion with
    | none =>
      refine ((performs_insertCheck faults pullRequestId c.record).andThen fun _ =>
        performs_pure 1).congr fun db => ?_
      cases db.insertCheck pullRequestId c.record <;> rfl
    | some conclusion =>
      refine ((performs_insertCheck faults pullRequestId c.record).andThen fun id =>
        (performs_appendHistory faults (c.firstEntry id conclusion time)).andThen fun _ =>
          performs_pure 1).congr fun db => ?_
      cases db.insertCheck pullRequestId c.record <;> rfl
  have hnext (found : Option Int) :
      Performs faults
        (match found with
        | none => throw (.missingPullRequest repositoryId c.pullNumber)
        | some pullRequestId => do
          let id ← insertCheck faults pullRequestId c.record
          match c.record.conclusion with
          | none => pure 1
          | some conclusion => do
            appendHistory faults (c.firstEntry id conclusion time)
            pure 1)
        (fun db => match found with
          | none => .error (.missingPullRequest repositoryId c.pullNumber)
          | some pullRequestId => (db.addCheckTo pullRequestId time c).map (1, ·))
        c.firstWrites := by
    cases found with
    | none => exact performs_throw _ _
    | some pullRequestId => exact howned pullRequestId
  refine (performs_look_andThen (fun db => .ok (db.pullId? repositoryId c.pullNumber))
    hnext).congr fun db => ?_
  change (match db.pullId? repositoryId c.pullNumber with
    | none => _
    | some pullRequestId => _) = _
  rw [Database.addCheck]
  cases db.pullId? repositoryId c.pullNumber <;> rfl

theorem performs_overwriteCheck (c : CheckChange) :
    Performs faults (overwriteCheck faults time c)
      (fun db => (db.replaceCheck time c).map (c.existingId.toList.length, ·)) c.writes := by
  rw [overwriteCheck, CheckChange.writes]
  simp only [Database.replaceCheck]
  cases c.existingId with
  | none => exact performs_pure 0
  | some id =>
    by_cases hconclusion : c.event.changes (.check .conclusion) = true
    · simp only [if_pos hconclusion]
      refine ((performs_updateCheck faults id c.record).andThen fun _ =>
        (performs_appendHistory faults (c.entry id time)).andThen fun _ =>
          performs_pure 1).congr fun db => ?_
      cases db.updateCheck id c.record <;> rfl
    · simp only [if_neg hconclusion]
      refine ((performs_updateCheck faults id c.record).andThen fun _ =>
        performs_pure 1).congr fun db => ?_
      cases db.updateCheck id c.record <;> rfl

/-- The writes of a change set do what its changes do one after the other. -/
theorem performs_applyChanges (chunkSize : Nat) (changes : ChangeSet) :
    Performs faults (applyChanges faults chunkSize repositoryId time changes)
      (fun db => (changes.store repositoryId time db).map (changes.rowsWritten, ·))
      changes.writes := by
  have hwrites : changes.writes =
      (changes.newPulls.map fun _ => 2).sum + ((changes.updatedPulls.map PullChange.writes).sum
        + ((changes.newChecks.map CheckChange.firstWrites).sum
          + (changes.updatedChecks.map CheckChange.writes).sum)) := by
    simp only [ChangeSet.writes, List.map_const', List.sum_replicate_nat]
    omega
  rw [hwrites]
  refine ((performs_applyPart (performs_writePull faults repositoryId time) chunkSize
    changes.newPulls 0).andThen fun count =>
      (performs_applyPart (performs_overwritePull faults time) chunkSize
        changes.updatedPulls count).andThen fun count =>
      (performs_applyPart (performs_writeCheck faults repositoryId time) chunkSize
        changes.newChecks count).andThen fun count =>
      performs_applyPart (performs_overwriteCheck faults time) chunkSize
        changes.updatedChecks count).congr fun db => ?_
  rw [ChangeSet.store]
  cases changes.newPulls.foldlM (Database.addPull repositoryId time) db with
  | error e => rfl
  | ok db₁ =>
    simp only [Except.map, bind, Except.bind]
    cases changes.updatedPulls.foldlM (Database.replacePull time) db₁ with
    | error e => rfl
    | ok db₂ =>
      simp only
      cases changes.newChecks.foldlM (Database.addCheck repositoryId time) db₂ with
      | error e => rfl
      | ok db₃ =>
        simp only
        cases changes.updatedChecks.foldlM (Database.replaceCheck time) db₃ with
        | error e => rfl
        | ok db₄ =>
          simp only [ChangeSet.rowsWritten, List.map_const', List.sum_replicate_nat, Nat.zero_add,
            Nat.mul_one]

end Transaction

/-! ### Writing a change set -/

variable {faults : Faults} {chunkSize n : Nat} {repositoryId : Int} {time : Instant}
  {changes : ChangeSet} {db db' : Database}

theorem ChangeSet.parts_eq_nil (h : changes.hasChanges = false) :
    changes.newPulls = [] ∧ changes.updatedPulls = [] ∧ changes.newChecks = [] ∧
      changes.updatedChecks = [] := by
  have htotal : changes.total = 0 := by simpa [hasChanges] using h
  simp only [total, Nat.add_eq_zero_iff, List.length_eq_zero_iff] at htotal
  obtain ⟨⟨⟨h₁, h₂⟩, h₃⟩, h₄⟩ := htotal
  exact ⟨h₁, h₂, h₃, h₄⟩

/-- Every change writes a row, if those of stored records name theirs. -/
theorem ChangeSet.rowsWritten_eq_total (hpulls : ∀ c ∈ changes.updatedPulls, c.existingId.isSome)
    (hchecks : ∀ c ∈ changes.updatedChecks, c.existingId.isSome) :
    changes.rowsWritten = changes.total := by
  have hlength {id : Option Int} (hid : id.isSome) : id.toList.length = 1 := by
    obtain ⟨_, rfl⟩ := Option.isSome_iff_exists.1 hid
    rfl
  rw [rowsWritten, List.map_congr_left fun c hc => hlength (hpulls c hc),
    List.map_congr_left fun c hc => hlength (hchecks c hc)]
  simp [total]

/-- Writing a change set succeeds when its changes can be made one after the other and no fault
strikes one of its writes. -/
theorem synchronize_eq_ok :
    synchronize faults chunkSize repositoryId time changes db = .ok (n, db') ↔
      changes.store repositoryId time db = .ok db' ∧
        (faults.about repositoryId).Spare 0 changes.writes ∧ n = changes.rowsWritten := by
  rw [synchronize]
  cases hchanges : changes.hasChanges with
  | false =>
    obtain ⟨h₁, h₂, h₃, h₄⟩ := ChangeSet.parts_eq_nil hchanges
    have hwrites : changes.writes = 0 := by simp [ChangeSet.writes, h₁, h₂, h₃, h₄]
    have hrows : changes.rowsWritten = 0 := by simp [ChangeSet.rowsWritten, h₁, h₂, h₃, h₄]
    have hstore : changes.store repositoryId time db = .ok db := by
      rw [ChangeSet.store, h₁, h₂, h₃, h₄]
      rfl
    rw [hwrites, hrows, hstore]
    simp [and_comm, eq_comm]
  | true =>
    have hwork := Transaction.performs_applyChanges (faults.about repositoryId) repositoryId time
      chunkSize changes
    rw [if_pos rfl, hwork.commit_eq_ok, Outcome.map_eq_ok]
    constructor
    · rintro ⟨⟨db₁, hdb, heq⟩, hspare⟩
      obtain ⟨rfl, rfl⟩ := Prod.mk.inj heq
      exact ⟨hdb, hspare, rfl⟩
    · rintro ⟨hdb, hspare, rfl⟩
      exact ⟨⟨db', hdb, rfl⟩, hspare⟩

/-- Writing a change set fails when one of its changes cannot be made or a fault strikes one of its
writes. -/
theorem exists_synchronize_eq_error_iff :
    (∃ cause, synchronize faults chunkSize repositoryId time changes db = .error cause) ↔
      ¬ ((∃ db', changes.store repositoryId time db = .ok db') ∧
        (faults.about repositoryId).Spare 0 changes.writes) := by
  constructor
  · rintro ⟨cause, herror⟩ ⟨⟨db', hstore⟩, hspare⟩
    have hok : synchronize faults chunkSize repositoryId time changes db = _ :=
      synchronize_eq_ok.2 ⟨hstore, hspare, rfl⟩
    rw [herror] at hok
    exact absurd hok (by simp)
  · intro hno
    cases hwrite : synchronize faults chunkSize repositoryId time changes db with
    | error cause => exact ⟨cause, rfl⟩
    | ok r =>
      obtain ⟨hstore, hspare, -⟩ := synchronize_eq_ok.1 hwrite
      exact absurd ⟨⟨_, hstore⟩, hspare⟩ hno

/-- A change set that could not be written met a fault, or one of its changes could not be made. -/
theorem synchronize_eq_error {cause : StoreError}
    (h : synchronize faults chunkSize repositoryId time changes db = .error cause) :
    (∃ k, faults.writeAbout repositoryId k = some cause) ∨
      changes.store repositoryId time db = .error cause := by
  rw [synchronize] at h
  split_ifs at h
  have hwork := Transaction.performs_applyChanges (faults.about repositoryId) repositoryId time
    chunkSize changes
  exact (hwork.commit_eq_error h).imp_right Outcome.map_eq_error.1

end PullWatch
