import PullWatch.Proofs.Detection

/-!
# The outcomes of a pass

A pass ends in one of four ways: discovery brought nothing, stored state could not be read, the
change set was rolled back, or every phase was completed. Only the last touches the database.

Between the reads and the transaction of a pass another pass may write, so the database that
detection reads and the one that the transaction finds are kept apart.

## Main definitions

* `runPassAcross`: a pass whose detection reads one database and whose transaction finds another.
* `PassOutcome`: the ways in which a pass ends.
* `Round`: the part of a pass that concerns the database.

## Main results

* `passOutcome_runPassAcross`, `passOutcome_runPass`: every pass ends in one of these ways.
* `rolledBack_iff`, `succeeds_iff`: when a pass is rolled back, and when it completes every phase.
* `runPass_db`: the database after a pass.
-/

namespace PullWatch

open GitHub (Service)

/-- A pass whose detection reads the database `seen` and whose transaction finds the database `db`.
-/
def runPassAcross (service : Service) (config : Configuration) (faults : Faults) (now : Moment)
    (repo : RepositoryContext) (since : Option Instant) (isTrial : Bool) (seen db : Database)
    (cache : Cache) : Pass :=
  let result := RepositoryResult.start repo now.time
  match discover service config now repo since cache with
  | (.error problems, cache, calls) =>
    { result := (result.withProblems problems).fail .discoveryFailure now.time, db, cache, calls }
  | (.ok findings, cache, calls) =>
    let result :=
      { result.withProblems findings.problems with
        pullsDiscovered := findings.pulls.length
        checksDiscovered := findings.checks.total }
    match detect seen faults repo.id findings with
    | .error failure =>
      let problem := phaseProblem .changeDetectionFailure repo failure.message
      { result := (result.withProblems [problem]).fail .changeDetectionFailure now.time
        db, cache, calls }
    | .ok changes => finishPass config faults now repo isTrial result changes db cache calls

variable {service : Service} {config : Configuration} {faults : Faults} {now : Moment}
  {repo : RepositoryContext} {since : Option Instant} {isTrial : Bool} {seen db : Database}
  {cache : Cache}

/-- A pass that nothing interrupts finds the database that it has read. -/
theorem runPass_eq :
    runPass service config faults now repo since isTrial db cache =
      runPassAcross service config faults now repo since isTrial db db cache := by
  rw [runPass, beginPass, runPassAcross]
  rcases discover service config now repo since cache with ⟨_ | findings, later, calls⟩
  · rfl
  · simp only [comparePass]
    cases detect db faults repo.id findings <;> rfl

/-- The ways in which a pass ends. -/
inductive PassOutcome (service : Service) (config : Configuration) (faults : Faults) (now : Moment)
    (repo : RepositoryContext) (since : Option Instant) (isTrial : Bool) (seen db : Database)
    (cache : Cache) (pass : Pass) : Prop
  | undiscovered {problems : List Problem}
      (hdiscover : (discover service config now repo since cache).1 = .error problems)
      (hfailed : pass.result.failedPhase = some .discoveryFailure)
      (hsuccess : pass.result.success = false)
      (hdb : pass.db = db)
      (hcache : pass.cache = (discover service config now repo since cache).2.1)
  | undetected {f : Findings} {failure : DetectionFailure StoreError}
      (hdiscover : (discover service config now repo since cache).1 = .ok f)
      (hdetect : detect seen faults repo.id f = .error failure)
      (hfailed : pass.result.failedPhase = some .changeDetectionFailure)
      (hsuccess : pass.result.success = false)
      (hdb : pass.db = db)
      (hcache : pass.cache = (discover service config now repo since cache).2.1)
  | rolledBack {f : Findings} {changes : ChangeSet} {cause : StoreError}
      (hdiscover : (discover service config now repo since cache).1 = .ok f)
      (hdetect : detect seen faults repo.id f = .ok changes)
      (htrial : isTrial = false)
      (hwrite : synchronize faults config.syncChunkSize repo.id now.time changes db = .error cause)
      (hfailed : pass.result.failedPhase = some .synchronizationFailure)
      (hsuccess : pass.result.success = false)
      (hdetected : pass.result.changesDetected = changes.total)
      (hsynchronized : pass.result.changesSynchronized = 0)
      (hdb : pass.db = db)
      (hcache : pass.cache =
        ((discover service config now repo since cache).2.1.dropRepository repo.id).2)
  | completed {f : Findings} {changes : ChangeSet}
      (hdiscover : (discover service config now repo since cache).1 = .ok f)
      (hdetect : detect seen faults repo.id f = .ok changes)
      (hfailed : pass.result.failedPhase = none)
      (hsuccess : pass.result.success = true)
      (hdetected : pass.result.changesDetected = changes.total)
      (hdb : isTrial = true ∧ pass.db = db ∨ isTrial = false ∧
        ∃ n, synchronize faults config.syncChunkSize repo.id now.time changes db = .ok (n, pass.db))
      (hcache : pass.cache = (discover service config now repo since cache).2.1)

/-- Every pass ends in one of these ways. -/
theorem passOutcome_runPassAcross :
    PassOutcome service config faults now repo since isTrial seen db cache
      (runPassAcross service config faults now repo since isTrial seen db cache) := by
  rw [runPassAcross]
  rcases hd : discover service config now repo since cache with ⟨found, later, calls⟩
  have hfound : (discover service config now repo since cache).1 = found := by rw [hd]
  have hlater : (discover service config now repo since cache).2.1 = later := by rw [hd]
  cases found with
  | error problems => exact .undiscovered hfound rfl rfl rfl hlater.symm
  | ok f =>
    cases hdetect : detect seen faults repo.id f with
    | error failure =>
      simp only [hdetect]
      exact .undetected hfound hdetect rfl rfl rfl hlater.symm
    | ok changes =>
      simp only [hdetect]
      rw [finishPass]
      cases htrial : isTrial with
      | true => exact .completed hfound hdetect rfl rfl rfl (.inl ⟨rfl, rfl⟩) hlater.symm
      | false =>
        cases hchanges : changes.hasChanges with
        | false =>
          refine .completed hfound hdetect rfl rfl rfl (.inr ⟨rfl, 0, ?_⟩) hlater.symm
          rw [synchronize, hchanges]
          rfl
        | true =>
          simp only [Bool.false_or, Bool.not_true, Bool.false_eq_true, if_false]
          cases hwrite : synchronize faults config.syncChunkSize repo.id now.time changes db with
          | error cause =>
            exact .rolledBack hfound hdetect rfl hwrite rfl rfl rfl rfl rfl (by rw [hlater])
          | ok r =>
            exact .completed hfound hdetect rfl rfl rfl (.inr ⟨rfl, r.1, hwrite⟩) hlater.symm

theorem passOutcome_runPass :
    PassOutcome service config faults now repo since isTrial db db cache
      (runPass service config faults now repo since isTrial db cache) :=
  runPass_eq ▸ passOutcome_runPassAcross

/-- When a pass that writes is rolled back. -/
theorem rolledBack_iff :
    (runPassAcross service config faults now repo since false seen db cache).result.failedPhase =
        some .synchronizationFailure ↔
      ∃ f changes cause, (discover service config now repo since cache).1 = .ok f ∧
        detect seen faults repo.id f = .ok changes ∧
        synchronize faults config.syncChunkSize repo.id now.time changes db = .error cause := by
  have houtcome : PassOutcome service config faults now repo since false seen db cache
      (runPassAcross service config faults now repo since false seen db cache) :=
    passOutcome_runPassAcross
  generalize runPassAcross service config faults now repo since false seen db cache = pass
    at houtcome
  cases houtcome with
  | undiscovered hdiscover hfailed =>
    rw [hfailed, hdiscover]
    simp
  | undetected hdiscover hdetect hfailed =>
    rw [hfailed, hdiscover]
    simp [hdetect]
  | rolledBack hdiscover hdetect htrial hwrite hfailed =>
    exact ⟨fun _ => ⟨_, _, _, hdiscover, hdetect, hwrite⟩, fun _ => hfailed⟩
  | completed hdiscover hdetect hfailed hsuccess hdetected hdb =>
    rcases hdb with ⟨htrial, -⟩ | ⟨-, n, hwrite⟩
    · exact absurd htrial (by decide)
    · rw [hfailed, hdiscover]
      simp [hdetect, hwrite]

/-- When a pass that writes completes every phase. -/
theorem succeeds_iff :
    (runPassAcross service config faults now repo since false seen db cache).result.success = true ↔
      ∃ f changes n, (discover service config now repo since cache).1 = .ok f ∧
        detect seen faults repo.id f = .ok changes ∧
        synchronize faults config.syncChunkSize repo.id now.time changes db = .ok (n,
          (runPassAcross service config faults now repo since false seen db cache).db) := by
  have houtcome : PassOutcome service config faults now repo since false seen db cache
      (runPassAcross service config faults now repo since false seen db cache) :=
    passOutcome_runPassAcross
  generalize runPassAcross service config faults now repo since false seen db cache = pass
    at houtcome
  cases houtcome with
  | undiscovered hdiscover _ hsuccess =>
    rw [hsuccess, hdiscover]
    simp
  | undetected hdiscover hdetect _ hsuccess =>
    rw [hsuccess, hdiscover]
    simp [hdetect]
  | rolledBack hdiscover hdetect _ hwrite _ hsuccess =>
    rw [hsuccess, hdiscover]
    simp [hdetect, hwrite]
  | completed hdiscover hdetect _ hsuccess _ hdb =>
    rcases hdb with ⟨htrial, -⟩ | ⟨-, n, hwrite⟩
    · exact absurd htrial (by decide)
    · exact ⟨fun _ => ⟨_, _, n, hdiscover, hdetect, hwrite⟩, fun _ => hsuccess⟩

/-- A pass that completes every phase leaves the cache to discovery. -/
theorem runPass_cache
    (h : (runPass service config faults now repo since isTrial db cache).result.success = true) :
    (runPass service config faults now repo since isTrial db cache).cache =
      (discover service config now repo since cache).2.1 := by
  have houtcome : PassOutcome service config faults now repo since isTrial db db cache
      (runPass service config faults now repo since isTrial db cache) := passOutcome_runPass
  cases houtcome with
  | undiscovered _ _ _ _ hcache => exact hcache
  | undetected _ _ _ _ _ hcache => exact hcache
  | rolledBack _ _ _ _ _ hsuccess => exact absurd (h.symm.trans hsuccess) (by decide)
  | completed _ _ _ _ _ _ hcache => exact hcache

/-! ### Rounds -/

/-- The part of a pass that concerns the database: findings that are compared with it, and the
transaction that writes the differences. -/
structure Round where
  faults : Faults
  chunkSize : Nat
  repositoryId : Int
  time : Instant
  findings : Findings

/-- The database after a round: the change set is written as a whole, or not at all. -/
def Round.run (db : Database) (r : Round) : Database :=
  match detect db r.faults r.repositoryId r.findings with
  | .error _ => db
  | .ok changes =>
    match synchronize r.faults r.chunkSize r.repositoryId r.time changes db with
    | .error _ => db
    | .ok (_, db) => db

/-- A pass that discovers nothing leaves the database as it is. -/
theorem runPass_db_of_error {problems : List Problem}
    (h : (discover service config now repo since cache).1 = .error problems) :
    (runPass service config faults now repo since isTrial db cache).db = db := by
  have houtcome : PassOutcome service config faults now repo since isTrial db db cache
      (runPass service config faults now repo since isTrial db cache) := passOutcome_runPass
  cases houtcome with
  | undiscovered _ _ _ hdb => exact hdb
  | undetected hdiscover => simp [h] at hdiscover
  | rolledBack hdiscover => simp [h] at hdiscover
  | completed hdiscover => simp [h] at hdiscover

/-- A pass that writes is a round with what it discovered. -/
theorem runPass_db {f : Findings} (h : (discover service config now repo since cache).1 = .ok f) :
    (runPass service config faults now repo since false db cache).db =
      Round.run db
        { faults, chunkSize := config.syncChunkSize, repositoryId := repo.id, time := now.time
          findings := f } := by
  have houtcome : PassOutcome service config faults now repo since false db db cache
      (runPass service config faults now repo since false db cache) := passOutcome_runPass
  rw [Round.run]
  cases houtcome with
  | undiscovered hdiscover => simp [h] at hdiscover
  | undetected hdiscover hdetect _ _ hdb =>
    obtain rfl := Except.ok.inj (h.symm.trans hdiscover)
    rw [hdb, hdetect]
  | rolledBack hdiscover hdetect _ hwrite _ _ _ _ hdb =>
    obtain rfl := Except.ok.inj (h.symm.trans hdiscover)
    simp only [hdb, hdetect, hwrite]
  | completed hdiscover hdetect _ _ _ hdb =>
    obtain rfl := Except.ok.inj (h.symm.trans hdiscover)
    rcases hdb with ⟨htrial, -⟩ | ⟨-, n, hwrite⟩
    · exact absurd htrial (by decide)
    · simp only [hdetect, hwrite]

/-! ### A small service -/

/-- A pull request as a service shows it. -/
def samplePull : Json :=
  .object [("number", .nat 1), ("title", .str "Add a reader"), ("state", .str "open"),
    ("base", .object [("ref", .str "main"), ("sha", .str "b0")]),
    ("head", .object [("ref", .str "reader"), ("sha", .str "h0")]),
    ("html_url", .str "https://example.org/1"), ("created_at", .str "2024-03-01T00:00:00Z"),
    ("updated_at", .str "2024-03-01T00:00:00Z")]

/-- A check run as a service shows it. -/
def sampleCheck : Json :=
  .object [("id", .nat 7), ("name", .str "build"), ("status", .str "completed"),
    ("conclusion", .str "failure")]

/-- A service with one open pull request that has one check run. When the listing shifts while it is
read, the pull request is on the second page once more. -/
def sampleService (shifts : Bool) : Service :=
  { pulls := fun q => .ok { items := [samplePull], hasNext := shifts && q.page = 1 }
    checks := fun _ =>
      .ok (.object [("total_count", .nat 1), ("check_runs", .arr [sampleCheck])]) }

/-- A database that holds one repository. -/
def sampleDatabase : Database :=
  { repositories := (Table.insert {} (.ofNew { owner := "acme", name := "widgets" })).2 }

/-- The repository, as passes are given it. -/
def sampleRepository : RepositoryContext :=
  { id := 1, owner := "acme", name := "widgets", fullName := "acme/widgets"
    lastUpdatedAt := none, priority := 0 }

/-- The moment of a first pass. -/
def sampleMoment : Moment := { time := .epoch, ticks := 0 }

/-- The moment of the next pass, one minute later. -/
def laterMoment : Moment :=
  { time := { second := 60, fraction := 0, inRange := by decide, wellFormed := by decide }
    ticks := 60000000000 }

/-- A cache that holds nothing yet and keeps listings for five minutes. -/
def sampleCache : Cache := { lifetime := 300000000000 }

/-- What the service shows while its listing stands still. -/
def sampleFindings : Findings :=
  (discover (sampleService false) {} sampleMoment sampleRepository none
    sampleCache).1.toOption.getD { pulls := [], checks := [], problems := [] }

theorem discover_sample :
    (discover (sampleService false) {} sampleMoment sampleRepository none sampleCache).1 =
      .ok sampleFindings := rfl

theorem distinct_sample : sampleFindings.Distinct := ⟨by decide +kernel, by decide +kernel⟩

/-- A fault that strikes the third write of every transaction. -/
def sampleFaults : Faults :=
  { write := fun k => if k = 3 then some (.task "broken off") else none }

end PullWatch
