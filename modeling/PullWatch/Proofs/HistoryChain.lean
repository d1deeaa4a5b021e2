import PullWatch.Proofs.Passes
import PullWatch.Proofs.Pending

/-!
# The history is an unbroken chain

The history of a pull request's row leads from nothing to its present state, and that of a check
run's row to its present conclusion: every entry begins with the value that the entry before ends
with, and ends with a different one. An entry writes `none` where a conclusion was withdrawn.

An entry takes its values from the discovered record, from the differences that detection found, and
from nothing else. They fit the row because the row that is replaced is the one that was compared.

## Main definitions

* `Leads`: entries lead from one value to another.
* `Table.Chained`: the entries about every row of a table lead to its present value.

## Main results

* `Recorded.store`: a change set that was detected keeps the chains, if nothing was discovered
  twice.
* `history_chained`: the chains are unbroken after any number of rounds.
-/

namespace PullWatch

/-! ### Chains of entries -/

/-- The entries lead from one value to another: each begins with the value that the one before ends
with, and ends with a different one. Values that entries write as new are read with `after`. -/
def Leads (after : String → Option String) :
    Option String → List HistoryRow → Option String → Prop
  | start, [], final => start = final
  | start, row :: rest, final =>
    row.oldValue = start ∧ start ≠ after row.newValue ∧ Leads after (after row.newValue) rest final

/-- The conclusion that an entry writes as the new one; `none` stands for its absence. -/
def writtenConclusion (value : String) : Option String :=
  if value = "none" then none else some value

theorem Leads.append {after : String → Option String} {start middle final : Option String}
    {rows rest : List HistoryRow} (h : Leads after start rows middle)
    (hrest : Leads after middle rest final) : Leads after start (rows ++ rest) final := by
  induction rows generalizing start with
  | nil =>
    obtain rfl : start = middle := h
    exact hrest
  | cons row rows ih =>
    obtain ⟨hold, hne, h⟩ := h
    exact ⟨hold, hne, ih h⟩

namespace Table

variable {ρ : Type} {t : Table ρ} {after : String → Option String} {value : ρ → Option String}
  {entries entries' : Int → List HistoryRow}

/-- The entries about every row lead from nothing to its present value, and there are none about ids
that are still to be handed out. -/
structure Chained (t : Table ρ) (after : String → Option String) (value : ρ → Option String)
    (entries : Int → List HistoryRow) : Prop where
  leads : ∀ r ∈ t.rows, Leads after none (entries r.1) (value r.2)
  fresh : ∀ id, (t.lastId : Int) < id → entries id = []

namespace Chained

/-- A row is added, and the entries about it. -/
theorem insert {α : Type} {key : ρ → α} {row : ρ} {new : List HistoryRow}
    (h : t.Chained after value entries) (hkeyed : t.Keyed key)
    (hnew : Leads after none new (value row))
    (hentries : ∀ i, entries' i = entries i ++ if i = (t.lastId : Int) + 1 then new else []) :
    (t.insert row).2.Chained after value entries' where
  leads := by
    intro r hr
    rw [rows_insert, List.mem_append, List.mem_singleton] at hr
    rw [hentries]
    rcases hr with hr | rfl
    · have hbound := hkeyed.bounded r hr
      rw [if_neg (by omega), List.append_nil]
      exact h.leads r hr
    · rw [if_pos rfl, h.fresh _ (by omega), List.nil_append]
      exact hnew
  fresh := by
    intro id hid
    rw [lastId_insert] at hid
    rw [hentries, h.fresh id (by omega), if_neg (by omega), List.append_nil]

/-- A row is replaced, and entries about it are added. -/
theorem change {id : Int} {f : ρ → ρ} {new : List HistoryRow} (h : t.Chained after value entries)
    (hhas : t.hasId id = true) (hbounded : ∀ r ∈ t.rows, r.1 ≤ (t.lastId : Int))
    (hnew : ∀ row, (id, row) ∈ t.rows → Leads after (value row) new (value (f row)))
    (hentries : ∀ i, entries' i = entries i ++ if i = id then new else []) :
    (t.change id f).Chained after value entries' where
  leads := by
    intro r hr
    obtain ⟨⟨i, row⟩, hmem, rfl⟩ := mem_change.1 hr
    have hleads : Leads after none (entries i) (value row) := h.leads _ hmem
    by_cases hi : i = id
    · subst hi
      simp only [if_true, hentries]
      exact hleads.append (hnew row hmem)
    · simp only [hi, if_false, hentries, List.append_nil]
      exact hleads
  fresh := by
    intro i hi
    obtain ⟨row, hrow⟩ := hasId_iff.1 hhas
    have hbound := hbounded _ hrow
    rw [lastId_change] at hi
    rw [hentries, h.fresh i hi, if_neg, List.append_nil]
    rintro rfl
    simp only at hbound
    omega

end Chained

end Table

/-! ### Entries and values -/

section Entries

variable {id : Int} {time : Instant}

theorem PullChange.leads_firstEntry (c : PullChange) :
    Leads some none [.ofEntry (c.firstEntry id time)] (some c.record.state.name) :=
  ⟨rfl, nofun, rfl⟩

/-- What a replaced pull request leaves in the history leads from its old state to the new one. -/
theorem PullChange.leads_transition {c : PullChange} {old : StoredPullRequest}
    (h : detectPull (some old) c.record.toPullRequest = some c.event) :
    Leads some (some old.state.name) ((c.transition? id time).map HistoryRow.ofEntry).toList
      (some c.record.state.name) := by
  rw [transition?]
  split_ifs with hkind
  · have hne := (kind_of_detectPull h).1 hkind
    refine ⟨formerValue_of_detectPull h hne, fun heq => hne ?_, rfl⟩
    have hnames := congrArg PullState.ofName? (Option.some.inj heq)
    simpa [HistoryRow.ofEntry, entry] using hnames
  · have hstate : old.state = c.record.state := by
      by_contra hne
      exact hkind ((kind_of_detectPull h).2 hne)
    rw [hstate]
    exact rfl

theorem writtenConclusion_name (k : CheckConclusion) : writtenConclusion k.name = some k.name := by
  cases k <;> rfl

theorem writtenConclusion_getD (conclusion : Option CheckConclusion) :
    writtenConclusion ((conclusion.map CheckConclusion.name).getD "none") =
      conclusion.map CheckConclusion.name := by
  cases conclusion with
  | none => rfl
  | some k => exact writtenConclusion_name k

/-- What a new check run leaves in the history leads to its conclusion. -/
theorem CheckChange.leads_beginning (c : CheckChange) :
    Leads writtenConclusion none ((c.beginning? id time).map HistoryRow.ofEntry).toList
      (c.record.conclusion.map CheckConclusion.name) := by
  rw [beginning?]
  cases c.record.conclusion with
  | none => exact rfl
  | some k =>
    have hwritten : writtenConclusion (HistoryRow.ofEntry (c.firstEntry id k time)).newValue =
        some k.name := writtenConclusion_name k
    refine ⟨rfl, ?_, hwritten⟩
    rw [hwritten]
    exact (Option.some_ne_none _).symm

/-- What a replaced check run leaves in the history leads from its old conclusion to the new one. -/
theorem CheckChange.leads_transition {c : CheckChange} {old : StoredCheckRun}
    (h : detectCheck (some old) c.record = some c.event) :
    Leads writtenConclusion (old.conclusion.map CheckConclusion.name)
      ((c.transition? id time).map HistoryRow.ofEntry).toList
      (c.record.conclusion.map CheckConclusion.name) := by
  rw [transition?]
  split_ifs with hchanges
  · have hne := (changes_of_detectCheck h).1 hchanges
    have hwritten : writtenConclusion (HistoryRow.ofEntry (c.entry id time)).newValue =
        c.record.conclusion.map CheckConclusion.name := by
      change writtenConclusion (presentValue c.event (.check .conclusion)) = _
      rw [presentValue_of_detectCheck h hne, writtenConclusion_getD]
    refine ⟨formerValue_of_detectCheck h hne, ?_, hwritten⟩
    rw [hwritten]
    intro heq
    exact hne (Option.map_injective (fun a b hab => by
      simpa using congrArg CheckConclusion.ofName? hab) heq)
  · have hconclusion : old.conclusion = c.record.conclusion := by
      by_contra hne
      exact hchanges ((changes_of_detectCheck h).2 hne)
    rw [hconclusion]
    exact rfl

end Entries

namespace Database

variable {db : Database} {e : Option HistoryEntry} {subject : HistorySubject} {id : Int}

/-- An entry about a record is added to the entries about it. -/
theorem historyOf_record_same (he : ∀ x ∈ e, x.subject = subject ∧ x.subjectId = id) (other : Int) :
    (db.record e).historyOf subject other =
      db.historyOf subject other ++
        if other = id then (e.map HistoryRow.ofEntry).toList else [] := by
  rw [historyOf_record]
  cases e with
  | none => simp
  | some x =>
    obtain ⟨rfl, rfl⟩ := he x rfl
    by_cases hother : other = x.subjectId
    · simp [hother]
    · simp [hother, Ne.symm hother]

end Database

/-! ### Databases with unbroken chains -/

/-- The row holds a state under the name that entries use. -/
def PullRow.IsNamed (row : PullRow) : Prop := ∃ s : PullState, row.state = s.name

/-- The row holds its conclusion, if there is one, under the name that entries use. -/
def CheckRow.IsNamed (row : CheckRow) : Prop :=
  ∃ k : Option CheckConclusion, row.conclusion = k.map CheckConclusion.name

/-- The history of every row leads from nothing to its present state or conclusion. -/
structure Recorded (db : Database) : Prop where
  sound : db.Sound
  pulls : db.pulls.Chained some (fun row => some row.state) (db.historyOf .pullRequest)
  checks : db.checks.Chained writtenConclusion (·.conclusion) (db.historyOf .checkRun)
  states : ∀ r ∈ db.pulls.rows, r.2.IsNamed
  conclusions : ∀ r ∈ db.checks.rows, r.2.IsNamed

namespace Recorded

variable {db db' : Database} {repositoryId : Int} {time : Instant} {f : Findings}

/-- A database that holds repositories only. -/
theorem of_rows_eq_nil (hpulls : db.pulls.rows = []) (hchecks : db.checks.rows = [])
    (hhistory : db.history.rows = []) : Recorded db where
  sound := .of_rows_eq_nil hpulls hchecks
  pulls := ⟨by simp [hpulls], by simp [Database.historyOf, Table.select, hhistory]⟩
  checks := ⟨by simp [hchecks], by simp [Database.historyOf, Table.select, hhistory]⟩
  states := by simp [hpulls]
  conclusions := by simp [hchecks]

/-- A row that decodes holds its state under its name. -/
theorem state_of_decode (h : Recorded db) {id : Int} {row : PullRow} {old : StoredPullRequest}
    (hrow : (id, row) ∈ db.pulls.rows) (hdecode : row.decode id = .ok old) :
    row.state = old.state.name := by
  obtain ⟨s, hs⟩ : row.IsNamed := h.states _ hrow
  have hstate := (PullRow.columns_of_decode hdecode).1
  rw [hs, PullState.ofName?_name] at hstate
  rw [hs, Option.some.inj hstate]

/-- A row that decodes holds its conclusion under its name. -/
theorem conclusion_of_decode (h : Recorded db) {id : Int} {row : CheckRow} {old : StoredCheckRun}
    (hrow : (id, row) ∈ db.checks.rows) (hdecode : row.decode id = .ok old) :
    row.conclusion = old.conclusion.map CheckConclusion.name := by
  obtain ⟨k, hk⟩ : row.IsNamed := h.conclusions _ hrow
  have hconclusion := (CheckRow.columns_of_decode hdecode).1
  have hnames : CheckConclusion.ofName? ∘ CheckConclusion.name = some := by
    funext k
    exact CheckConclusion.ofName?_name k
  rw [hk, Option.map_map, hnames] at hconclusion
  have hinj : Function.Injective (some : CheckConclusion → Option CheckConclusion) :=
    fun _ _ => Option.some.inj
  rw [hk, Option.map_injective hinj hconclusion]

theorem addPull {c : PullChange} (h : Recorded db)
    (hok : db.addPull repositoryId time c = .ok db') : Recorded db' := by
  have hsound : db'.Sound := h.sound.addPull hok
  obtain ⟨-, -, rfl⟩ := Database.addPull_eq_ok.1 hok
  let e := c.firstEntry (db.pulls.lastId + 1) time
  let s := db.withPulls (db.pulls.insert (.ofRecord repositoryId c.record)).2
  refine ⟨hsound, ?_, ?_, Table.forall_insert h.states ⟨_, rfl⟩, h.conclusions⟩
  · exact h.pulls.insert h.sound.pulls c.leads_firstEntry
      (s.historyOf_record_same (e := some e) (by simp [e, PullChange.firstEntry]))
  · have hother : (s.record (some e)).historyOf .checkRun = s.historyOf .checkRun :=
      s.historyOf_record_other (by simp [e, PullChange.firstEntry])
    exact hother ▸ h.checks

theorem replacePull {c : PullChange} (h : Recorded db) (hpending : c.Pending repositoryId db)
    (hok : db.replacePull time c = .ok db') : Recorded db' := by
  obtain ⟨id, row, old, hid, hrow, hdecode, hevent⟩ := hpending
  have hsound : db'.Sound := h.sound.replacePull hid hok
  have hmem : (id, row) ∈ db.pulls.rows := (h.sound.pullRow?_eq_some.1 hrow).1
  obtain ⟨hhas, rfl⟩ := (Database.replacePull_eq_ok hid).1 hok
  have hentry : ∀ x ∈ c.transition? id time, x.subject = .pullRequest ∧ x.subjectId = id := by
    simp +contextual [PullChange.transition?, PullChange.entry]
  have hleads : ∀ row', (id, row') ∈ db.pulls.rows →
      Leads some (some row'.state) ((c.transition? id time).map HistoryRow.ofEntry).toList
        (some (row'.update c.record).state) := by
    intro row' hmem'
    obtain rfl : row = row' := (Prod.ext_iff.1 (h.sound.pulls.eq_of_id hmem hmem' rfl)).2
    rw [h.state_of_decode hmem hdecode]
    exact PullChange.leads_transition hevent
  refine ⟨hsound, ?_, ?_, ?_, ?_⟩
  · rw [Database.pulls_record]
    exact h.pulls.change hhas h.sound.pulls.bounded hleads (Database.historyOf_record_same hentry)
  · rw [Database.checks_record,
      Database.historyOf_record_other fun x hx => by simp [(hentry x hx).1]]
    exact h.checks
  · rw [Database.pulls_record]
    exact Table.forall_change h.states fun _ => ⟨_, rfl⟩
  · rw [Database.checks_record]
    exact h.conclusions

theorem addCheck {c : CheckChange} (h : Recorded db)
    (hok : db.addCheck repositoryId time c = .ok db') : Recorded db' := by
  have hsound : db'.Sound := h.sound.addCheck hok
  obtain ⟨r, -, -, rfl⟩ := (Database.addCheck_eq_ok h.sound).1 hok
  have hentry : ∀ x ∈ c.beginning? (db.checks.lastId + 1) time,
      x.subject = .checkRun ∧ x.subjectId = (db.checks.lastId : Int) + 1 := by
    simp +contextual [CheckChange.beginning?, CheckChange.firstEntry]
  refine ⟨hsound, ?_, ?_, ?_, ?_⟩
  · rw [Database.pulls_record,
      Database.historyOf_record_other fun x hx => by simp [(hentry x hx).1]]
    exact h.pulls
  · rw [Database.checks_record]
    exact h.checks.insert h.sound.checks c.leads_beginning (Database.historyOf_record_same hentry)
  · rw [Database.pulls_record]
    exact h.states
  · rw [Database.checks_record]
    exact Table.forall_insert h.conclusions ⟨_, rfl⟩

theorem replaceCheck {c : CheckChange} (h : Recorded db) (hpending : c.Pending repositoryId db)
    (hok : db.replaceCheck time c = .ok db') : Recorded db' := by
  obtain ⟨id, row, old, hid, hrow, hdecode, hevent⟩ := hpending
  have hsound : db'.Sound := h.sound.replaceCheck hid hok
  obtain ⟨p, -, hrow⟩ := Option.bind_eq_some_iff.1 hrow
  have hmem : (id, row) ∈ db.checks.rows := (h.sound.checkRow?_eq_some.1 hrow).1
  obtain ⟨hhas, rfl⟩ := (Database.replaceCheck_eq_ok hid).1 hok
  have hentry : ∀ x ∈ c.transition? id time, x.subject = .checkRun ∧ x.subjectId = id := by
    simp +contextual [CheckChange.transition?, CheckChange.entry]
  have hleads : ∀ row', (id, row') ∈ db.checks.rows →
      Leads writtenConclusion row'.conclusion
        ((c.transition? id time).map HistoryRow.ofEntry).toList
        (row'.update c.record).conclusion := by
    intro row' hmem'
    obtain rfl : row = row' := (Prod.ext_iff.1 (h.sound.checks.eq_of_id hmem hmem' rfl)).2
    rw [h.conclusion_of_decode hmem hdecode]
    exact CheckChange.leads_transition hevent
  refine ⟨hsound, ?_, ?_, ?_, ?_⟩
  · rw [Database.pulls_record,
      Database.historyOf_record_other fun x hx => by simp [(hentry x hx).1]]
    exact h.pulls
  · rw [Database.checks_record]
    exact h.checks.change hhas h.sound.checks.bounded hleads (Database.historyOf_record_same hentry)
  · rw [Database.pulls_record]
    exact h.states
  · rw [Database.checks_record]
    exact Table.forall_change h.conclusions fun _ => ⟨_, rfl⟩

/-- A change set that was detected keeps the chains, if nothing was discovered twice. -/
theorem store (h : Recorded db) (hf : f.Distinct)
    (hok : (db.changesFor repositoryId f).store repositoryId time db = .ok db') : Recorded db' := by
  let P (_ : ChangeSet) (s : Database) : Prop := Recorded s
  have hlast : P (.empty repositoryId) db' :=
    Database.store_changesFor_keeps h.sound hf (fun _ _ _ _ _ _ hok hP => Recorded.addPull hP hok)
      (fun _ _ _ _ _ _ hpending hok hP => Recorded.replacePull hP hpending hok)
      (fun _ _ _ _ _ _ hok hP => Recorded.addCheck hP hok)
      (fun _ _ _ _ _ _ hpending hok hP => Recorded.replaceCheck hP hpending hok) h hok
  exact hlast

end Recorded

/-! ### Rounds -/

theorem Recorded.run {db : Database} {r : Round} (h : Recorded db) (hf : r.findings.Distinct) :
    Recorded (Round.run db r) := by
  rw [Round.run]
  cases hdetect : detect db r.faults r.repositoryId r.findings with
  | error failure => exact h
  | ok changes =>
    obtain ⟨-, rfl⟩ := detect_eq_ok_iff.1 (detect_never hdetect)
    cases hwrite : synchronize r.faults r.chunkSize r.repositoryId r.time
      (db.changesFor r.repositoryId r.findings) db with
    | error cause =>
      simp only [hwrite]
      exact h
    | ok result =>
      simp only [hwrite]
      exact h.store hf (synchronize_eq_ok.1 hwrite).1

/-- The history of every row is an unbroken chain after any number of rounds. -/
theorem history_chained {db : Database} (hpulls : db.pulls.rows = [])
    (hchecks : db.checks.rows = []) (hhistory : db.history.rows = []) (rounds : List Round)
    (hdistinct : ∀ r ∈ rounds, r.findings.Distinct) :
    let final := rounds.foldl Round.run db
    (∀ r ∈ final.pulls.rows,
      Leads some none (final.historyOf .pullRequest r.1) (some r.2.state)) ∧
    ∀ r ∈ final.checks.rows,
      Leads writtenConclusion none (final.historyOf .checkRun r.1) r.2.conclusion := by
  have hrounds : ∀ db, Recorded db → Recorded (rounds.foldl Round.run db) := by
    induction rounds with
    | nil => exact fun _ => id
    | cons r rounds ih =>
      intro db h
      have hrest := ih fun r' hr' => hdistinct r' (List.mem_cons_of_mem _ hr')
      exact hrest _ (h.run (hdistinct r List.mem_cons_self))
  have hfinal := hrounds db (.of_rows_eq_nil hpulls hchecks hhistory)
  exact ⟨hfinal.pulls.leads, hfinal.checks.leads⟩

/-- Rounds over the sample repository: the first is rolled back, the second stores what the service
shows, and in the third the pull request is closed and the conclusion of its check run withdrawn. -/
def sampleRounds : List Round :=
  let round : Round :=
    { faults := .never, chunkSize := 1, repositoryId := 1, time := .epoch
      findings := sampleFindings }
  let closed : Findings :=
    { sampleFindings with
      pulls := sampleFindings.pulls.map fun p => { p with state := .closed }
      checks := sampleFindings.checks.map fun e =>
        (e.1, e.2.map fun c => { c with conclusion := none }) }
  [{ round with faults := sampleFaults }, round, { round with findings := closed }]

theorem history_chained_sample :
    let final := sampleRounds.foldl Round.run sampleDatabase
    (final.historyOf .pullRequest 1).map (fun row => (row.oldValue, row.newValue)) =
      [(none, "opened"), (some "opened", "closed")] ∧
    (final.historyOf .checkRun 1).map (fun row => (row.oldValue, row.newValue)) =
      [(none, "failure"), (some "failure", "none")] ∧
    (∀ r ∈ final.pulls.rows,
      Leads some none (final.historyOf .pullRequest r.1) (some r.2.state)) ∧
    ∀ r ∈ final.checks.rows,
      Leads writtenConclusion none (final.historyOf .checkRun r.1) r.2.conclusion := by
  have hdistinct : ∀ r ∈ sampleRounds, r.findings.Distinct := by
    have hnodup : ∀ r ∈ sampleRounds,
        r.findings.numbers.Nodup ∧ r.findings.checkKeys.Nodup := by decide +kernel
    exact fun r hr => ⟨(hnodup r hr).1, (hnodup r hr).2⟩
  have hpulls : sampleDatabase.pulls.rows = [] := rfl
  exact ⟨by decide +kernel, by decide +kernel,
    history_chained hpulls rfl rfl sampleRounds hdistinct⟩

end PullWatch
