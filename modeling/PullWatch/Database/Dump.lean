import PullWatch.Database.Schema

/-!
# Database files as text

A database file is kept as a JSON array: the recorded version, and for every table the id handed out
last and the rows, or null when the table is not there. A row is its id and its columns.

## Main definitions

* `Form`: a value of a type as JSON, and back.
* `DatabaseFile.toText`, `DatabaseFile.ofText?`: a database file as text, and back.

## Main results

* `DatabaseFile.faithful_form`: the form of a database file gives the file back.
-/

namespace PullWatch

/-- A value of a type as JSON, and back. -/
structure Form (α : Type) where
  write : α → Json
  read : Json → Option α

namespace Form

/-- Reading gives back what was written. -/
def Faithful {α : Type} (f : Form α) : Prop := ∀ x, f.read (f.write x) = some x

/-- An integer. -/
def int : Form Int where
  write := .int
  read
    | .int n => some n
    | _ => none

/-- A text. -/
def text : Form String where
  write := .str
  read
    | .str s => some s
    | _ => none

/-- A value that may be absent. Its form has to differ from null. -/
def optional {α : Type} (f : Form α) : Form (Option α) where
  write
    | some x => f.write x
    | none => .null
  read
    | .null => some none
    | v => (f.read v).map some

/-- A list of values. -/
def list {α : Type} (f : Form α) : Form (List α) where
  write xs := .arr (xs.map f.write)
  read
    | .arr items => items.mapM f.read
    | _ => none

/-- A type whose values correspond to those of another. -/
def via {α β : Type} (f : Form α) (there : β → α) (back : α → β) : Form β where
  write x := f.write (there x)
  read v := (f.read v).map back

/-- A pair of values. -/
def pair {α β : Type} (f : Form α) (g : Form β) : Form (α × β) where
  write x := .arr [f.write x.1, g.write x.2]
  read
    | .arr [a, b] => do some (← f.read a, ← g.read b)
    | _ => none

theorem faithful_int : int.Faithful := fun _ => rfl

theorem faithful_text : text.Faithful := fun _ => rfl

theorem faithful_via {α β : Type} {f : Form α} {there : β → α} {back : α → β} (hf : f.Faithful)
    (h : ∀ x, back (there x) = x) : (f.via there back).Faithful := by
  intro x
  simp [via, hf (there x), h]

theorem faithful_pair {α β : Type} {f : Form α} {g : Form β} (hf : f.Faithful)
    (hg : g.Faithful) : (f.pair g).Faithful := by
  intro x
  simp [pair, hf x.1, hg x.2]

theorem faithful_optional {α : Type} {f : Form α} (hf : f.Faithful)
    (hnull : ∀ x, f.write x ≠ .null) : f.optional.Faithful := by
  intro x
  cases x with
  | none => rfl
  | some x =>
    have hread := hf x
    simp only [optional]
    split
    · rename_i h
      exact absurd h (hnull x)
    · rw [hread]
      rfl

theorem faithful_list {α : Type} {f : Form α} (hf : f.Faithful) : f.list.Faithful := by
  intro xs
  simp only [list]
  induction xs with
  | nil => rfl
  | cons x xs ih => simp [List.mapM_cons, hf x, ih]

/-- A number of 64 bits with a sign. -/
def long : Form Int64 := int.via Int64.toInt Int64.ofInt

/-- A text that may be absent. -/
def text? : Form (Option String) := text.optional

theorem faithful_long : long.Faithful := faithful_via faithful_int Int64.ofInt_toInt

theorem faithful_text? : text?.Faithful := faithful_optional faithful_text fun _ => nofun

end Form

/-! ### Rows -/

/-- A row of repositories. -/
def RepositoryRow.form : Form RepositoryRow where
  write r :=
    .arr
      [.str r.owner, .str r.name, .bool r.isActive, .int r.pollingInterval.toNat,
       .int r.priority.toInt, Form.text?.write r.lastPolledAt]
  read
    | .arr [.str owner, .str name, .bool isActive, .int interval, .int priority, polled] => do
      some { owner, name, isActive, pollingInterval := UInt32.ofNat interval.toNat
             priority := Int32.ofInt priority, lastPolledAt := ← Form.text?.read polled }
    | _ => none

theorem RepositoryRow.faithful_form : form.Faithful := by
  intro r
  simp [form, Form.faithful_text? r.lastPolledAt]

/-- A row of pull requests. -/
def PullRow.form : Form PullRow where
  write r :=
    .arr
      [.int r.repositoryId, Form.long.write r.number, .bool r.draft,
       Form.text.list.write
         [r.title, r.author, r.state, r.baseBranch, r.baseSha, r.headBranch, r.headSha, r.url,
          r.labels, r.assignees, r.createdAt, r.lastUpdatedAt],
       Form.text?.list.write [r.body, r.milestone, r.closedAt, r.mergedAt, r.rawMetadata]]
  read
    | .arr [.int repositoryId, number, .bool draft, texts, others] => do
      let number ← Form.long.read number
      match ← Form.text.list.read texts, ← Form.text?.list.read others with
      | [title, author, state, baseBranch, baseSha, headBranch, headSha, url, labels, assignees,
          createdAt, lastUpdatedAt],
        [body, milestone, closedAt, mergedAt, rawMetadata] =>
        some { repositoryId, number, title, author, state, draft, baseBranch, baseSha, headBranch
               headSha, url, body, labels, assignees, milestone, createdAt, lastUpdatedAt
               closedAt, mergedAt, rawMetadata }
      | _, _ => none
    | _ => none

theorem PullRow.faithful_form : form.Faithful := by
  intro r
  have hnumber := Form.faithful_long r.number
  have htexts := Form.faithful_list Form.faithful_text
  have hothers := Form.faithful_list Form.faithful_text?
  simp only [form, hnumber, htexts _, hothers _, Option.bind_eq_bind, Option.bind_some]

/-- A row of check runs. -/
def CheckRow.form : Form CheckRow where
  write r :=
    .arr
      [.int r.pullRequestId, Form.long.write r.externalId, .str r.name, .str r.status,
       Form.long.optional.write r.suiteId,
       Form.text?.list.write
         [r.conclusion, r.detailsUrl, r.logsUrl, r.outputTitle, r.outputSummary, r.outputText,
          r.startedAt, r.completedAt]]
  read
    | .arr [.int pullRequestId, externalId, .str name, .str status, suiteId, others] => do
      let externalId ← Form.long.read externalId
      let suiteId ← Form.long.optional.read suiteId
      match ← Form.text?.list.read others with
      | [conclusion, detailsUrl, logsUrl, outputTitle, outputSummary, outputText, startedAt,
          completedAt] =>
        some { pullRequestId, externalId, name, status, conclusion, suiteId, detailsUrl, logsUrl
               outputTitle, outputSummary, outputText, startedAt, completedAt }
      | _ => none
    | _ => none

theorem CheckRow.faithful_form : form.Faithful := by
  intro r
  have hid := Form.faithful_long r.externalId
  have hsuite : Form.long.optional.read (Form.long.optional.write r.suiteId) = some r.suiteId :=
    Form.faithful_optional Form.faithful_long (fun _ => nofun) r.suiteId
  have hothers := Form.faithful_list Form.faithful_text?
  simp only [form, hid, hsuite, hothers _, Option.bind_eq_bind, Option.bind_some]

/-- A row of the history. -/
def HistoryRow.form : Form HistoryRow where
  write r :=
    .arr
      [.str r.subject, .int r.subjectId, Form.text?.write r.oldValue, .str r.newValue,
       .str r.trigger, .str r.recordedAt]
  read
    | .arr [.str subject, .int subjectId, oldValue, .str newValue, .str trigger,
        .str recordedAt] => do
      some { subject, subjectId, oldValue := ← Form.text?.read oldValue, newValue, trigger
             recordedAt }
    | _ => none

theorem HistoryRow.faithful_form : form.Faithful := by
  intro r
  simp [form, Form.faithful_text? r.oldValue]

/-! ### Files -/

/-- A table: the id handed out last, and the rows. -/
def Table.form {ρ : Type} (row : Form ρ) : Form (Table ρ) :=
  (Form.int.pair (Form.int.pair row).list).via (fun t => ((t.lastId : Int), t.rows))
    fun p => { lastId := p.1.toNat, rows := p.2 }

theorem Table.faithful_form {ρ : Type} {row : Form ρ} (hrow : row.Faithful) :
    (form row).Faithful :=
  Form.faithful_via
    (Form.faithful_pair Form.faithful_int (Form.faithful_list (Form.faithful_pair Form.faithful_int
      hrow)))
    fun _ => rfl

/-- A table that a file may lack. -/
theorem Table.faithful_optional {ρ : Type} {row : Form ρ} (hrow : row.Faithful) :
    (form row).optional.Faithful :=
  Form.faithful_optional (faithful_form hrow) fun _ => nofun

/-- A database file. -/
def DatabaseFile.form : Form DatabaseFile where
  write file :=
    .arr
      [Form.int.optional.write file.version,
       (Table.form RepositoryRow.form).optional.write file.repositories,
       (Table.form PullRow.form).optional.write file.pulls,
       (Table.form CheckRow.form).optional.write file.checks,
       (Table.form HistoryRow.form).optional.write file.history]
  read
    | .arr [version, repositories, pulls, checks, history] => do
      some
        { version := ← Form.int.optional.read version
          repositories := ← (Table.form RepositoryRow.form).optional.read repositories
          pulls := ← (Table.form PullRow.form).optional.read pulls
          checks := ← (Table.form CheckRow.form).optional.read checks
          history := ← (Table.form HistoryRow.form).optional.read history }
    | _ => none

/-- Reading a written database file gives it back. -/
theorem DatabaseFile.faithful_form : form.Faithful := by
  intro file
  have hversion : Form.int.optional.Faithful :=
    Form.faithful_optional Form.faithful_int fun _ => nofun
  have hrepositories := Table.faithful_optional RepositoryRow.faithful_form
  have hpulls := Table.faithful_optional PullRow.faithful_form
  have hchecks := Table.faithful_optional CheckRow.faithful_form
  have hhistory := Table.faithful_optional HistoryRow.faithful_form
  simp only [form, hversion _, hrepositories _, hpulls _, hchecks _, hhistory _,
    Option.bind_eq_bind, Option.bind_some]

/-- A database file as text. -/
def DatabaseFile.toText (file : DatabaseFile) : String := (form.write file).render

/-- The database file that a text keeps. -/
def DatabaseFile.ofText? (s : String) : Option DatabaseFile := do form.read (← Json.parse? s)

end PullWatch
