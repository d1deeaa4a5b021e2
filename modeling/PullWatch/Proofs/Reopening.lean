import Mathlib.Data.Int.Order.Basic
import Mathlib.Data.List.Basic
import PullWatch.Filespace

/-!
# Opening a database once more

The statements that bring a database file to the current version are not one transaction. When
opening a file is interrupted, the version that the file records and the tables that it has need not
fit: some tables may be there already while the version is still the old one. The version is
recorded last, so the tables that an older version lacks may be there, and those that it has are
there. This is what opening the file once more needs: it creates what is missing, leaves what is
there, and records the version again.

A file is looked at by its tables and its version. Statements that create an index, or the table of
the version, leave both alone: an opening that ends after one of them leaves a file that an opening
that ends before it leaves as well.

## Main definitions

* `DatabaseFile.Leftover`: files that interrupted openings leave.
* `DatabaseFile.tables`: the tables of a file, with empty ones for those that it lacks.
* `Filespace.Reaches`: a path leads to a place where a file can be.

## Main results

* `DatabaseFile.Leftover.resumable`: no version hides that a table is missing.
* `Filespace.reaches_or_fails`: opening a store comes to a file, or fails for its path.
* `Filespace.Reaches.openStore_again`: opening a store a second time changes nothing.
* `opening_restartable`: a file that was left behind is opened without loss, and one of a newer
  version is refused.
-/

namespace PullWatch

namespace DatabaseFile

/-- The tables of a file, with empty ones for those that it lacks. -/
def tables (file : DatabaseFile) : Database :=
  { repositories := file.repositories.getD {}, pulls := file.pulls.getD {}
    checks := file.checks.getD {}, history := file.history.getD {} }

end DatabaseFile

/-! ### Statements -/

namespace SchemaStatement

variable {file : DatabaseFile} {statement : SchemaStatement}

/-- A file has what a statement puts into it. -/
def Done (file : DatabaseFile) : SchemaStatement → Prop
  | createRepositories => file.repositories.isSome
  | createPulls => file.pulls.isSome
  | createChecks => file.checks.isSome
  | createHistory => file.history.isSome
  | recordVersion => file.version = some currentVersion

theorem done_run (file : DatabaseFile) (statement : SchemaStatement) :
    statement.Done (statement.run file) := by
  cases statement <;> rfl

/-- Statements do not undo each other. -/
theorem Done.run (h : statement.Done file) (other : SchemaStatement) :
    statement.Done (other.run file) := by
  cases other <;> cases statement <;> first | exact h | rfl

/-- No statement changes a table that is there, and those that it creates are empty. -/
@[simp]
theorem tables_run (file : DatabaseFile) (statement : SchemaStatement) :
    (statement.run file).tables = file.tables := by
  cases statement <;> rfl

theorem version_run (h : statement ≠ recordVersion) : (statement.run file).version = file.version := by
  cases statement <;> first | rfl | exact absurd rfl h

/-! ### Runs of statements -/

theorem done_foldl {statements : List SchemaStatement}
    (h : statement.Done file ∨ statement ∈ statements) :
    statement.Done (statements.foldl run file) := by
  induction statements generalizing file with
  | nil => exact h.resolve_right List.not_mem_nil
  | cons other rest ih =>
    refine ih ?_
    rcases h with h | h
    · exact .inl (h.run other)
    · rcases List.mem_cons.1 h with rfl | h
      · exact .inl (done_run file statement)
      · exact .inr h

@[simp]
theorem tables_foldl (file : DatabaseFile) (statements : List SchemaStatement) :
    (statements.foldl run file).tables = file.tables := by
  induction statements generalizing file with
  | nil => rfl
  | cons statement rest ih => rw [List.foldl_cons, ih, tables_run]

theorem version_foldl {statements : List SchemaStatement} (h : recordVersion ∉ statements) :
    (statements.foldl run file).version = file.version := by
  induction statements generalizing file with
  | nil => rfl
  | cons statement rest ih =>
    rw [List.mem_cons, not_or] at h
    rw [List.foldl_cons, ih h.2, version_run (Ne.symm h.1)]

end SchemaStatement

open SchemaStatement (Done)

/-- The statements that lead on from each version. -/
theorem migration_cases (version : Int) :
    version < 1 ∧ migration version =
        [.createRepositories, .createPulls, .createChecks, .createHistory, .recordVersion] ∨
      version = 1 ∧ migration version = [.createHistory, .recordVersion] ∨
      currentVersion ≤ version ∧ migration version = [] := by
  rcases lt_or_ge version 1 with h | h
  · have hold : ¬ currentVersion ≤ version := by unfold currentVersion; omega
    refine .inl ⟨h, ?_⟩
    rw [migration, if_neg hold, if_pos h, if_pos (lt_trans h (by decide))]
    rfl
  · rcases Int.le_iff_lt_or_eq.1 h with h | rfl
    · exact .inr (.inr ⟨h, if_pos h⟩)
    · exact .inr (.inl ⟨rfl, rfl⟩)

/-- The version is recorded last. -/
theorem recordVersion_notMem_take_migration {version : Int} {k : Nat}
    (h : k < (migration version).length) :
    SchemaStatement.recordVersion ∉ (migration version).take k := by
  obtain ⟨-, hall⟩ | ⟨-, hall⟩ | ⟨-, hall⟩ := migration_cases version
  all_goals
    rw [hall] at h ⊢
    revert k
    decide

namespace DatabaseFile

variable {file file' : DatabaseFile}

/-- A file that has all that the statements put into it is that of its tables. -/
theorem eq_ofDatabase (h : ∀ statement, Done file statement) : file = ofDatabase file.tables := by
  obtain ⟨version, repositories, pulls, checks, history⟩ := file
  obtain ⟨repositories, rfl⟩ := Option.isSome_iff_exists.1 (h .createRepositories)
  obtain ⟨pulls, rfl⟩ := Option.isSome_iff_exists.1 (h .createPulls)
  obtain ⟨checks, rfl⟩ := Option.isSome_iff_exists.1 (h .createChecks)
  obtain ⟨history, rfl⟩ := Option.isSome_iff_exists.1 (h .createHistory)
  obtain rfl : version = some currentVersion := h .recordVersion
  rfl

/-- Files with the same tables and version, whatever rows are in the tables. -/
structure SameSchema (file file' : DatabaseFile) : Prop where
  version : file'.version = file.version
  repositories : file'.repositories.isSome = file.repositories.isSome
  pulls : file'.pulls.isSome = file.pulls.isSome
  checks : file'.checks.isSome = file.checks.isSome
  history : file'.history.isSome = file.history.isSome

theorem SameSchema.done_iff (h : SameSchema file file') (statement : SchemaStatement) :
    Done file' statement ↔ Done file statement := by
  cases statement
  · exact Bool.eq_iff_iff.1 h.repositories
  · exact Bool.eq_iff_iff.1 h.pulls
  · exact Bool.eq_iff_iff.1 h.checks
  · exact Bool.eq_iff_iff.1 h.history
  · exact iff_of_eq (congrArg (· = some currentVersion) h.version)

/-- What is left of a file when opening it is interrupted after some of the statements. -/
def interrupted (file : DatabaseFile) (k : Nat) : DatabaseFile :=
  ((migration file.effectiveVersion).take k).foldl SchemaStatement.run file

/-- Files that interrupted openings leave, of a file without tables or of one of the first version.
What was left may be used, and opening it may be interrupted as well. -/
inductive Leftover : DatabaseFile → Prop where
  /-- A file without tables, which records no version or one before the first. -/
  | fresh {version : Option Int} (h : version.getD 0 < 1) : Leftover { version }
  /-- A file of the first version. -/
  | first (repositories : Table RepositoryRow) (pulls : Table PullRow) (checks : Table CheckRow) :
    Leftover
      { version := some 1, repositories := some repositories, pulls := some pulls
        checks := some checks }
  /-- An opening ended early, or did not. -/
  | interrupted {file : DatabaseFile} (h : Leftover file) (k : Nat) : Leftover (file.interrupted k)
  /-- The rows of the tables are others now. -/
  | rows {file file' : DatabaseFile} (h : Leftover file) (hsame : SameSchema file file') :
    Leftover file'

/-- A file that opening it brings to the current version: it has all that the statements which this
takes do not put into it. -/
structure Resumable (file : DatabaseFile) : Prop where
  supported : file.effectiveVersion ≤ currentVersion
  done : ∀ statement ∉ migration file.effectiveVersion, Done file statement

/-! ### Interrupted openings -/

theorem Resumable.of_sameSchema (h : file.Resumable) (hsame : SameSchema file file') :
    file'.Resumable := by
  have hversion : file'.effectiveVersion = file.effectiveVersion :=
    congrArg (·.getD 0) hsame.version
  constructor
  · rw [hversion]
    exact h.supported
  · rw [hversion]
    exact fun statement hnot => (hsame.done_iff statement).2 (h.done statement hnot)

/-- All statements together put into the file what it lacked. -/
theorem Resumable.interrupted_of_le (h : file.Resumable) {k : Nat}
    (hk : (migration file.effectiveVersion).length ≤ k) :
    file.interrupted k = ofDatabase file.tables := by
  rw [interrupted, List.take_of_length_le hk, eq_ofDatabase fun statement =>
    SchemaStatement.done_foldl (Classical.or_iff_not_imp_right.2 (h.done statement)),
    SchemaStatement.tables_foldl]

theorem resumable_ofDatabase (db : Database) : (ofDatabase db).Resumable :=
  ⟨le_rfl, fun statement _ => by cases statement <;> rfl⟩

/-- Before the last statement the version is the old one, which lacks no more tables than before. -/
theorem Resumable.interrupted (h : file.Resumable) (k : Nat) : (file.interrupted k).Resumable := by
  rcases Nat.lt_or_ge k (migration file.effectiveVersion).length with hk | hk
  · have hversion : (file.interrupted k).effectiveVersion = file.effectiveVersion :=
      congrArg (·.getD 0)
        (SchemaStatement.version_foldl (recordVersion_notMem_take_migration hk))
    constructor
    · rw [hversion]
      exact h.supported
    · rw [hversion]
      exact fun statement hnot => SchemaStatement.done_foldl (.inl (h.done statement hnot))
  · rw [h.interrupted_of_le hk]
    exact resumable_ofDatabase _

/-- However often opening a file was interrupted, it can be taken up again. -/
theorem Leftover.resumable (h : file.Leftover) : file.Resumable := by
  induction h with
  | @fresh version h =>
    obtain ⟨-, hall⟩ | ⟨hone, -⟩ | ⟨hnew, -⟩ := migration_cases (version.getD 0)
    · refine ⟨le_trans (le_of_lt h) (by decide), fun statement hnot => absurd ?_ hnot⟩
      rw [effectiveVersion, hall]
      cases statement <;> decide
    · exact absurd hone (ne_of_lt h)
    · exact absurd (lt_of_lt_of_le h (by decide)) (not_lt.2 hnew)
  | first repositories pulls checks =>
    refine ⟨(by decide : (1 : Int) ≤ currentVersion), fun statement hnot => ?_⟩
    cases statement with
    | createHistory => exact absurd (by decide : _ ∈ migration 1) hnot
    | recordVersion => exact absurd (by decide : _ ∈ migration 1) hnot
    | _ => rfl
  | interrupted h k ih => exact ih.interrupted k
  | rows h hsame ih => exact ih.of_sameSchema hsame

/-! ### Opening a file -/

theorem openDatabase_ofDatabase (db : Database) : (ofDatabase db).openDatabase = .ok db := rfl

/-- Opening a file creates the tables that it lacks. -/
theorem Resumable.openDatabase (h : file.Resumable) : file.openDatabase = .ok file.tables := by
  have hmigrate : file.migrate = .ok (ofDatabase file.tables) := by
    rw [migrate, if_neg (not_lt.2 h.supported), ← h.interrupted_of_le (Nat.le_refl _),
      DatabaseFile.interrupted, List.take_length]
  rw [DatabaseFile.openDatabase, hmigrate]
  rfl

theorem openDatabase_of_newer (h : currentVersion < file.effectiveVersion) :
    file.openDatabase = .error (.unsupportedSchema file.effectiveVersion currentVersion) := by
  rw [openDatabase, migrate, if_pos h]
  rfl

end DatabaseFile

/-! ### Files at paths -/

namespace Filespace

variable {fs made : Filespace} {path : String} {place : Place}

theorem content?_write (fs : Filespace) (place : Place) (content : FileContent) :
    (fs.write place content).content? place = some content := by
  have hnone : (fs.files.filter fun f => f.1 != place).find? (fun f => f.1 == place) = none :=
    List.find?_eq_none.2 fun f hf => by simpa using (List.mem_filter.1 hf).2
  rw [content?, write, List.find?_append, hnone]
  simp

/-- Writing a file changes no other one. -/
theorem content?_write_of_ne (fs : Filespace) (content : FileContent) {place other : Place}
    (h : other ≠ place) : (fs.write place content).content? other = fs.content? other := by
  have hsame : (fun f : Place × FileContent => decide (f.1 != place ∧ f.1 == other)) =
      fun f => f.1 == other := by
    funext f
    by_cases hf : f.1 = other <;> simp [hf, h]
  rw [content?, content?, write, List.find?_append, List.find?_filter, hsame]
  simp [h.symm]

/-- Only the last of two contents that are written to a file counts. -/
theorem write_write (fs : Filespace) (place : Place) (content content' : FileContent) :
    (fs.write place content).write place content' = fs.write place content' := by
  simp [write, List.filter_append, List.filter_filter]

theorem isDirectory_write (fs : Filespace) (place : Place) (content : FileContent) :
    (fs.write place content).isDirectory = fs.isDirectory := rfl

/-- Making directories changes no file. -/
theorem files_makeDirectories (fs : Filespace) (names : List String) (place : Place) :
    (fs.makeDirectories names place).2.files = fs.files := by
  induction names generalizing fs place with
  | nil => rfl
  | cons name names ih =>
    rw [makeDirectories]
    split_ifs
    · exact ih _ _
    · rfl
    · exact ih _ _

/-- Making directories takes none away. -/
theorem isDirectory_makeDirectories (names : List String) (place : Place) {other : Place}
    (h : fs.isDirectory other = true) :
    (fs.makeDirectories names place).2.isDirectory other = true := by
  induction names generalizing fs place with
  | nil => exact h
  | cons name names ih =>
    rw [makeDirectories]
    split_ifs
    · exact ih _ h
    · exact h
    · refine ih _ ?_
      simp only [isDirectory, Bool.or_eq_true, List.contains_eq_mem, List.mem_append,
        decide_eq_true_eq] at h ⊢
      exact h.imp_right .inl

/-- The first of the directories is there before the others are made. -/
theorem exists_of_makeDirectories_cons {name : String} {names : List String} {parent : Place}
    (h : fs.makeDirectories (name :: names) place = (some parent, made)) :
    ∃ first : Filespace, first.isDirectory (place.step name) = true ∧
      first.makeDirectories names (place.step name) = (some parent, made) := by
  rw [makeDirectories] at h
  split_ifs at h with hthere hblocked
  · exact ⟨fs, hthere, h⟩
  · cases h
  · exact ⟨_, by simp [isDirectory], h⟩

/-- The directories that were made are there. -/
theorem directory?_of_makeDirectories {names : List String} {parent : Place}
    (h : fs.makeDirectories names place = (some parent, made)) :
    made.directory? names place = some parent := by
  induction names generalizing fs place with
  | nil => exact congrArg Prod.fst h
  | cons name names ih =>
    obtain ⟨first, hthere, hrest⟩ := exists_of_makeDirectories_cons h
    have hkept := isDirectory_makeDirectories names (place.step name) hthere
    rw [hrest] at hkept
    rw [directory?, if_pos hkept, ih hrest]

/-- Directories that are there are not made. -/
theorem makeDirectories_of_directory? {names : List String} {parent : Place}
    (h : fs.directory? names place = some parent) :
    fs.makeDirectories names place = (some parent, fs) := by
  induction names generalizing place with
  | nil => rw [makeDirectories, Option.some.inj h]
  | cons name names ih =>
    rw [directory?] at h
    split_ifs at h with hthere
    rw [makeDirectories, if_pos hthere, ih h]

theorem directory?_write (fs : Filespace) (place : Place) (content : FileContent)
    (names : List String) (start : Place) :
    (fs.write place content).directory? names start = fs.directory? names start := by
  induction names generalizing start with
  | nil => rfl
  | cons name names ih => rw [directory?, directory?, isDirectory_write, ih]

/-- A path leads to a place where a file can be, once directories are made. -/
structure Reaches (fs : Filespace) (path : String) (place : Place) (made : Filespace) : Prop where
  clean : (pathNames path).dropLast.any hasNull = false
  short : path.utf8ByteSize ≤ longestDatabasePath
  leads : ∃ parent name, fs.makeDirectories (pathNames path).dropLast [] = (some parent, made) ∧
    (pathNames path).getLast? = some name ∧ isFileName name = true ∧ place = parent.step name
  free : made.isDirectory place = false

/-- Where a path leads, making directories changes no file. -/
theorem Reaches.files (h : fs.Reaches path place made) : made.files = fs.files := by
  obtain ⟨parent, name, hmade, -⟩ := h.leads
  rw [← files_makeDirectories fs (pathNames path).dropLast [], hmade]

/-- A path leads to the same place once a file is written there. -/
theorem Reaches.write (h : fs.Reaches path place made) (content : FileContent) :
    (made.write place content).Reaches path place (made.write place content) := by
  obtain ⟨parent, name, hmade, hname⟩ := h.leads
  refine ⟨h.clean, h.short, ⟨parent, name, makeDirectories_of_directory? ?_, hname⟩, h.free⟩
  rw [directory?_write]
  exact directory?_of_makeDirectories hmade

/-- Where a path leads, opening a store opens the file there. -/
theorem Reaches.openStore (h : fs.Reaches path place made) :
    fs.openStore path =
      match databaseIn (fs.content? place) with
      | .error e => (.error e, made)
      | .ok db => (.ok (place, db), made.save place db) := by
  have hcontent : made.content? place = fs.content? place := by
    rw [content?, content?, h.files]
  obtain ⟨parent, name, hmade, hlast, hname, rfl⟩ := h.leads
  have hplace : ¬ (made.isDirectory (parent.step name) || !isFileName name ||
      decide (longestDatabasePath < path.utf8ByteSize)) = true := by
    simp [h.free, hname, h.short]
  rw [Filespace.openStore]
  dsimp only
  rw [h.clean, if_neg Bool.false_ne_true, hmade]
  dsimp only
  rw [hlast]
  dsimp only
  rw [hcontent]
  exact if_neg hplace

/-- Where a path leads nowhere, opening a store fails and changes no file. -/
theorem reaches_or_fails (fs : Filespace) (path : String) :
    (∃ place made, fs.Reaches path place made) ∨
      ∃ reason made, made.files = fs.files ∧
        (fs.openStore path = (.error (.createDirectory path reason), made) ∨
          fs.openStore path = (.error (.openFailed path reason), made)) := by
  unfold openStore
  dsimp only
  cases hclean : (pathNames path).dropLast.any hasNull with
  | true => exact .inr ⟨_, fs, rfl, .inl (if_pos rfl)⟩
  | false =>
    rw [if_neg Bool.false_ne_true]
    rcases hmade : fs.makeDirectories (pathNames path).dropLast [] with ⟨found, made⟩
    have hkept : made.files = fs.files := by
      rw [← fs.files_makeDirectories (pathNames path).dropLast [], hmade]
    cases found with
    | none => exact .inr ⟨_, made, hkept, .inl rfl⟩
    | some parent =>
      cases hlast : (pathNames path).getLast? with
      | none => exact .inr ⟨_, made, hkept, .inr rfl⟩
      | some name =>
        dsimp only
        split_ifs with hblocked
        · exact .inr ⟨_, made, hkept, .inr rfl⟩
        · simp only [Bool.or_eq_true, Bool.not_eq_true', decide_eq_true_eq, not_or,
            Bool.not_eq_true, Bool.not_eq_false, Nat.not_lt] at hblocked
          obtain ⟨⟨hfree, hname⟩, hshort⟩ := hblocked
          exact .inl ⟨_, made, hclean, hshort, ⟨parent, name, hmade, hlast, hname, rfl⟩, hfree⟩

/-- Opening a store a second time changes nothing. -/
theorem Reaches.openStore_again (h : fs.Reaches path place made) {db : Database} :
    (made.save place db).openStore path = (.ok (place, db), made.save place db) := by
  rw [save, (h.write _).openStore, content?_write, databaseIn, DatabaseFile.openDatabase_ofDatabase]
  dsimp only
  rw [save, write_write]

/-- The database file in a content. An empty file is one without tables. -/
def databaseFile? : Option FileContent → Option DatabaseFile
  | none | some (.text "") => some .empty
  | some (.text _) => none
  | some (.database file) => some file

theorem databaseIn_of_databaseFile? {content : Option FileContent} {file : DatabaseFile}
    (h : databaseFile? content = some file) : databaseIn content = file.openDatabase := by
  unfold databaseFile? at h
  split at h
  · rw [← Option.some.inj h]
    rfl
  · rw [← Option.some.inj h]
    rfl
  · cases h
  · rw [← Option.some.inj h]
    rfl

end Filespace

/-- Opening a database can be interrupted and taken up again. A file that interrupted openings left
is opened: it is brought to the current version, with the tables that it had and empty ones for
those that it lacked. No other file changes, and opening it once more changes nothing at all. A file
that records a version above the current one is refused with that version, and no file changes. -/
theorem opening_restartable {fs made : Filespace} {path : String} {place : Place}
    {file : DatabaseFile} (hplace : fs.Reaches path place made)
    (hfile : Filespace.databaseFile? (fs.content? place) = some file) :
    (file.Leftover → ∃ opened : Filespace,
      fs.openStore path = (.ok (place, file.tables), opened) ∧
        opened.content? place = some (.database (.ofDatabase file.tables)) ∧
        (∀ other ≠ place, opened.content? other = fs.content? other) ∧
        opened.openStore path = (.ok (place, file.tables), opened)) ∧
    ∀ version, file.version = some version → currentVersion < version →
      fs.openStore path = (.error (.unsupportedSchema version currentVersion), made) ∧
        made.files = fs.files := by
  have hopen := hplace.openStore
  rw [Filespace.databaseIn_of_databaseFile? hfile] at hopen
  refine ⟨fun hleft => ?_, fun version hversion hnewer => ?_⟩
  · rw [hleft.resumable.openDatabase] at hopen
    refine ⟨_, hopen, made.content?_write place _, fun other hother => ?_, hplace.openStore_again⟩
    rw [Filespace.save, made.content?_write_of_ne _ hother, Filespace.content?, hplace.files,
      Filespace.content?]
  · have heffective : file.effectiveVersion = version := by
      rw [DatabaseFile.effectiveVersion, hversion, Option.getD_some]
    rw [DatabaseFile.openDatabase_of_newer (heffective ▸ hnewer), heffective] at hopen
    exact ⟨hopen, hplace.files⟩

/-- A file of the first version, in which one repository is registered. -/
def firstVersionFile : DatabaseFile :=
  { version := some 1, pulls := some {}, checks := some {}
    repositories := some (Table.insert {} (.ofNew { owner := "acme", name := "widgets" })).2 }

/-- A file space with a database file. -/
def spaceWith (file : DatabaseFile) : Filespace :=
  { directories := [["data"]], files := [(["data", "monitor.db"], .database file)] }

theorem reaches_spaceWith (file : DatabaseFile) :
    (spaceWith file).Reaches "data/monitor.db" ["data", "monitor.db"] (spaceWith file) := by
  have hnames : pathNames "data/monitor.db" = ["data", "monitor.db"] := by decide +kernel
  refine ⟨?_, by decide, ⟨["data"], "monitor.db", ?_, ?_, by decide, by decide⟩, ?_⟩
  · rw [hnames]
    decide
  · rw [hnames]
    refine Filespace.makeDirectories_of_directory? ?_
    simp [Filespace.directory?, Filespace.isDirectory, spaceWith, Place.step]
  · rw [hnames]
    rfl
  · simp [Filespace.isDirectory, spaceWith]

/-- Opening the file was interrupted once the history was there. Opened again, it has its
repository still. With a later version it is refused. -/
theorem opening_restartable_interrupted :
    let left := firstVersionFile.interrupted 1
    left.version = some 1 ∧ left.history.isSome ∧ left.tables.repositories.rows.length = 1 ∧
      (∃ opened, (spaceWith left).openStore "data/monitor.db" =
          (.ok (["data", "monitor.db"], left.tables), opened) ∧
        opened.openStore "data/monitor.db" = (.ok (["data", "monitor.db"], left.tables), opened)) ∧
      ((spaceWith { left with version := some 99 }).openStore "data/monitor.db").1 =
        .error (.unsupportedSchema 99 currentVersion) := by
  intro left
  have hleft : left.Leftover := (DatabaseFile.Leftover.first _ _ _).interrupted 1
  obtain ⟨opened, hopen, -, -, hagain⟩ :=
    (opening_restartable (reaches_spaceWith left) rfl).1 hleft
  have hrefused := (opening_restartable (reaches_spaceWith { left with version := some 99 }) rfl).2
    99 rfl (by decide)
  exact ⟨rfl, rfl, rfl, ⟨opened, hopen, hagain⟩, congrArg Prod.fst hrefused.1⟩

end PullWatch
