import PullWatch.Database

/-!
# Editing single columns

A column that holds text can be overwritten by name, whether or not the new text decodes. A column
that is never null refuses null.

## Main definitions

* `Database.overwrite?`: the database after one column of one row was overwritten.
-/

namespace PullWatch

/-- Overwrites a column of a row; absent when the column refuses the value. -/
abbrev ColumnEdit (ρ : Type) := Option String → ρ → Option ρ

/-- A column that may be null. -/
def ColumnEdit.nullable {ρ : Type} (set : ρ → Option String → ρ) : ColumnEdit ρ :=
  fun value row => some (set row value)

/-- A column that is never null. -/
def ColumnEdit.filled {ρ : Type} (set : ρ → String → ρ) : ColumnEdit ρ :=
  fun value row => value.map (set row)

open ColumnEdit (nullable filled)

/-- The text columns of repositories. -/
def RepositoryRow.columns : List (String × ColumnEdit RepositoryRow) :=
  [("owner", filled fun r s => { r with owner := s }),
   ("name", filled fun r s => { r with name := s }),
   ("last_polled_at", nullable fun r s => { r with lastPolledAt := s })]

/-- The text columns of pull requests. -/
def PullRow.columns : List (String × ColumnEdit PullRow) :=
  [("title", filled fun r s => { r with title := s }),
   ("author", filled fun r s => { r with author := s }),
   ("state", filled fun r s => { r with state := s }),
   ("base_branch", filled fun r s => { r with baseBranch := s }),
   ("base_sha", filled fun r s => { r with baseSha := s }),
   ("head_branch", filled fun r s => { r with headBranch := s }),
   ("head_sha", filled fun r s => { r with headSha := s }),
   ("url", filled fun r s => { r with url := s }),
   ("body", nullable fun r s => { r with body := s }),
   ("labels", filled fun r s => { r with labels := s }),
   ("assignees", filled fun r s => { r with assignees := s }),
   ("milestone", nullable fun r s => { r with milestone := s }),
   ("created_at", filled fun r s => { r with createdAt := s }),
   ("last_updated_at", filled fun r s => { r with lastUpdatedAt := s }),
   ("closed_at", nullable fun r s => { r with closedAt := s }),
   ("merged_at", nullable fun r s => { r with mergedAt := s }),
   ("raw_metadata", nullable fun r s => { r with rawMetadata := s })]

/-- The text columns of check runs. -/
def CheckRow.columns : List (String × ColumnEdit CheckRow) :=
  [("name", filled fun r s => { r with name := s }),
   ("status", filled fun r s => { r with status := s }),
   ("conclusion", nullable fun r s => { r with conclusion := s }),
   ("details_url", nullable fun r s => { r with detailsUrl := s }),
   ("logs_url", nullable fun r s => { r with logsUrl := s }),
   ("output_title", nullable fun r s => { r with outputTitle := s }),
   ("output_summary", nullable fun r s => { r with outputSummary := s }),
   ("output_text", nullable fun r s => { r with outputText := s }),
   ("started_at", nullable fun r s => { r with startedAt := s }),
   ("completed_at", nullable fun r s => { r with completedAt := s })]

/-- The text columns of the history. -/
def HistoryRow.columns : List (String × ColumnEdit HistoryRow) :=
  [("subject", filled fun r s => { r with subject := s }),
   ("old_value", nullable fun r s => { r with oldValue := s }),
   ("new_value", filled fun r s => { r with newValue := s }),
   ("trigger_event", filled fun r s => { r with trigger := s }),
   ("recorded_at", filled fun r s => { r with recordedAt := s })]

/-- Overwrites a column of the row with an id: the number of changed rows, and the table. Absent
when the table has no such column. -/
def Table.overwrite? {ρ : Type} (t : Table ρ) (columns : List (String × ColumnEdit ρ))
    (table column : String) (id : Int) (value : Option String) :
    Option (Except StoreError (Nat × Table ρ)) :=
  (columns.find? fun c => c.1 == column).map fun c =>
    match t.get? id with
    | none => .ok (0, t)
    | some row =>
      match c.2 value row with
      | none => .error (.constraint (.notNull table column))
      | some row => .ok (1, (t.modify? id fun _ => row).getD t)

/-- Overwrites a column of the row with an id: the number of changed rows, and the database. Absent
when there is no such column. -/
def Database.overwrite? (db : Database) (table column : String) (id : Int)
    (value : Option String) : Option (Except StoreError (Nat × Database)) :=
  let into {ρ : Type} (put : Table ρ → Database) (r : Except StoreError (Nat × Table ρ)) :
      Except StoreError (Nat × Database) :=
    r.map fun (n, t) => (n, put t)
  if table = "repositories" then
    (db.repositories.overwrite? RepositoryRow.columns table column id value).map
      (into fun t => { db with repositories := t })
  else if table = PullRow.table then
    (db.pulls.overwrite? PullRow.columns table column id value).map
      (into fun t => { db with pulls := t })
  else if table = CheckRow.table then
    (db.checks.overwrite? CheckRow.columns table column id value).map
      (into fun t => { db with checks := t })
  else if table = HistoryRow.table then
    (db.history.overwrite? HistoryRow.columns table column id value).map
      (into fun t => { db with history := t })
  else none

end PullWatch
