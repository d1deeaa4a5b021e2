import PullWatch.Change.Field
import PullWatch.Proofs.Outcome
import PullWatch.Proofs.WrittenNames
import PullWatch.Proofs.WrittenTime

/-!
# Rows hold their records

What a row takes from a record is read back from it, in every column. The one thing that a column
does not hold is a time outside the years 0 to 9999.

## Main definitions

* `PullRequest.Storable`, `CheckRun.Storable`: the times of a record can be stored.

## Main results

* `PullRow.decode_ofRecord`, `CheckRow.decode_ofRecord`: the record of a new row.
* `PullRow.decode_update`, `CheckRow.decode_update`: the record of a replaced row.
-/

namespace PullWatch

/-! ### Columns -/

namespace Column

variable {α : Type} {place : Place} {read : String → Option α}

theorem decode_eq_ok {text : String} {x : α} :
    decode place read text = .ok x ↔ read text = some x := by
  rw [decode]
  cases read text <;> simp

theorem decode?_eq_ok {text : Option String} {value : Option α} :
    decode? place read text = .ok value ↔ text.map read = value.map some := by
  cases text with
  | none => cases value <;> simp [decode?]
  | some text =>
    simp only [decode?, Outcome.map_eq_ok, decode_eq_ok]
    cases value <;> simp

/-- A column that may be null is read back when its values are. -/
theorem decode?_map {written : α → String} {value : Option α}
    (h : ∀ x ∈ value, read (written x) = some x) :
    decode? place read (value.map written) = .ok value := by
  rw [decode?_eq_ok]
  cases value with
  | none => rfl
  | some x => simp [h x rfl]

/-- A column that may be null gives back a written time exactly when the time can be stored. -/
theorem decode?_time_eq_ok {place : Place} {t value : Option Instant} :
    decode? place time (t.map Instant.rfc3339) = .ok value ↔
      (∀ x ∈ t, x.Storable) ∧ value = t := by
  rw [decode?_eq_ok]
  cases t <;> cases value <;> simp [time_rfc3339_eq_some]

end Column

/-- The times of a pull request can be stored. -/
structure PullRequest.Storable (p : PullRequest) : Prop where
  createdAt : p.createdAt.Storable
  updatedAt : p.updatedAt.Storable
  closedAt : ∀ t ∈ p.closedAt, t.Storable
  mergedAt : ∀ t ∈ p.mergedAt, t.Storable

/-- The times of a check run can be stored. -/
structure CheckRun.Storable (c : CheckRun) : Prop where
  startedAt : ∀ t ∈ c.startedAt, t.Storable
  completedAt : ∀ t ∈ c.completedAt, t.Storable

instance (p : PullRequest) : Decidable p.Storable :=
  decidable_of_iff
    (p.createdAt.Storable ∧ p.updatedAt.Storable ∧ (∀ t ∈ p.closedAt, t.Storable) ∧
      ∀ t ∈ p.mergedAt, t.Storable)
    ⟨fun ⟨hcreated, hupdated, hclosed, hmerged⟩ => ⟨hcreated, hupdated, hclosed, hmerged⟩,
      fun h => ⟨h.createdAt, h.updatedAt, h.closedAt, h.mergedAt⟩⟩

instance (c : CheckRun) : Decidable c.Storable :=
  decidable_of_iff
    ((∀ t ∈ c.startedAt, t.Storable) ∧ ∀ t ∈ c.completedAt, t.Storable)
    ⟨fun ⟨hstarted, hcompleted⟩ => ⟨hstarted, hcompleted⟩, fun h => ⟨h.startedAt, h.completedAt⟩⟩

/-! ### Pull requests -/

namespace PullRow

variable {p : FetchedPullRequest} {row : PullRow} {id : Int} {old : StoredPullRequest}

/-- The row of a new pull request holds it. -/
theorem decode_ofRecord (h : p.Storable) (repositoryId id : Int) :
    (ofRecord repositoryId p).decode id =
      .ok { p.toPullRequest with id := id, repositoryId := repositoryId } := by
  simp only [decode, ofRecord, Column.decode_eq_ok.2 (PullState.ofName?_name _),
    Column.decode_eq_ok.2 (Column.list_listText _),
    Column.decode_eq_ok.2 (Column.time_rfc3339 h.createdAt),
    Column.decode_eq_ok.2 (Column.time_rfc3339 h.updatedAt),
    Column.decode?_map fun t ht => Column.time_rfc3339 (h.closedAt t ht),
    Column.decode?_map fun t ht => Column.time_rfc3339 (h.mergedAt t ht),
    UInt64.toUInt64_toInt64, bind, Except.bind]

/-- What a row that holds a pull request says of it in the columns that outlive replacement, and of
its state. -/
theorem columns_of_decode (h : row.decode id = .ok old) :
    PullState.ofName? row.state = some old.state ∧
      Column.time row.createdAt = some old.createdAt ∧
      old.id = id ∧ old.repositoryId = row.repositoryId ∧ old.number = row.number.toUInt64 := by
  simp only [decode, Outcome.bind_eq_ok, Column.decode_eq_ok, Except.ok.injEq] at h
  obtain ⟨state, hstate, _, -, _, -, createdAt, hcreatedAt, _, -, _, -, _, -, rfl⟩ := h
  exact ⟨hstate, hcreatedAt, rfl, rfl, rfl⟩

/-- A replaced row holds the new record, but for number and time of creation. -/
theorem decode_update (h : p.Storable) (hold : row.decode id = .ok old) :
    (row.update p).decode id =
      .ok { p.toPullRequest with
        number := row.number.toUInt64, createdAt := old.createdAt
        id := id, repositoryId := row.repositoryId } := by
  simp only [decode, update, Column.decode_eq_ok.2 (PullState.ofName?_name _),
    Column.decode_eq_ok.2 (Column.list_listText _),
    Column.decode_eq_ok.2 (columns_of_decode hold).2.1,
    Column.decode_eq_ok.2 (Column.time_rfc3339 h.updatedAt),
    Column.decode?_map fun t ht => Column.time_rfc3339 (h.closedAt t ht),
    Column.decode?_map fun t ht => Column.time_rfc3339 (h.mergedAt t ht),
    bind, Except.bind]

end PullRow

/-! ### Check runs -/

namespace CheckRow

variable {c : CheckRun} {row : CheckRow} {id : Int} {old : StoredCheckRun}

/-- The row of a new check run holds it. -/
theorem decode_ofRecord (h : c.Storable) (pullRequestId id : Int) :
    (ofRecord pullRequestId c).decode id =
      .ok { c with id := id, pullRequestId := pullRequestId } := by
  have hsuite : (c.suiteId.map UInt64.toInt64).map Int64.toUInt64 = c.suiteId := by
    simp [Option.map_map, Function.comp_def]
  simp only [decode, ofRecord, Column.decode_eq_ok.2 (CheckStatus.ofName?_name _),
    Column.decode?_map fun k _ => CheckConclusion.ofName?_name k,
    Column.decode?_map fun t ht => Column.time_rfc3339 (h.startedAt t ht),
    Column.decode?_map fun t ht => Column.time_rfc3339 (h.completedAt t ht),
    UInt64.toUInt64_toInt64, hsuite, bind, Except.bind]

/-- A replaced row holds the new record, but for the external id. -/
theorem decode_update (h : c.Storable) (row : CheckRow) (id : Int) :
    (row.update c).decode id =
      .ok { c with
        externalId := row.externalId.toUInt64, id := id, pullRequestId := row.pullRequestId } := by
  have hsuite : (c.suiteId.map UInt64.toInt64).map Int64.toUInt64 = c.suiteId := by
    simp [Option.map_map, Function.comp_def]
  simp only [decode, update, Column.decode_eq_ok.2 (CheckStatus.ofName?_name _),
    Column.decode?_map fun k _ => CheckConclusion.ofName?_name k,
    Column.decode?_map fun t ht => Column.time_rfc3339 (h.startedAt t ht),
    Column.decode?_map fun t ht => Column.time_rfc3339 (h.completedAt t ht),
    hsuite, bind, Except.bind]

/-- What a row that holds a check run says of it in the columns that outlive replacement, and of its
conclusion. -/
theorem columns_of_decode (h : row.decode id = .ok old) :
    row.conclusion.map CheckConclusion.ofName? = old.conclusion.map some ∧
      old.id = id ∧ old.pullRequestId = row.pullRequestId ∧
      old.externalId = row.externalId.toUInt64 := by
  simp only [decode, Outcome.bind_eq_ok, Column.decode_eq_ok, Column.decode?_eq_ok,
    Except.ok.injEq] at h
  obtain ⟨_, -, conclusion, hconclusion, _, -, _, -, rfl⟩ := h
  exact ⟨hconclusion, rfl, rfl, rfl⟩

end CheckRow

end PullWatch
