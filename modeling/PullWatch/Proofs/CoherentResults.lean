import PullWatch.Proofs.Listings
import PullWatch.Proofs.SessionPasses

/-!
# The results of passes are coherent

A pass tells what it has come to in a result: whether it completed every phase, the phase that
failed, figures, events and problems. It is put together phase by phase, and each way in which a
pass ends leaves its own part of the fields as they were at the beginning. So the fields of a result
agree with each other, whatever the service answers, the cache and the database hold and the faults
strike.

A problem that ends a pass in detection or writing is of a kind that discovery does not meet. So it
is the only one of its kind, however many problems discovery has met before.

## Main definitions

* `ProblemKind.IsOfDiscovery`: the kinds of problems that discovery meets.
* `RepositoryResult.Coherent`: the fields of a result agree with each other.
* `changesFound?`: the change set of a pass.

## Main results

* `isOfDiscovery_of_discover`: discovery meets problems of these kinds only.
* `finishPass_coherent`: the last step of a pass.
* `runPassAcross_coherent`: passes, also when another one writes in between.
* `Processor.processAll_coherent`: the results of sessions.
* `results_coherent`: what a result tells of its pass.
-/

namespace PullWatch

open GitHub (Failure Service)

variable {service : Service} {config : Configuration} {faults : Faults} {now : Moment}
  {repo : RepositoryContext} {since : Option Instant} {isTrial : Bool} {seen db : Database}
  {cache : Cache} {maxPages : Nat} {p : Problem}

/-! ### Problems that discovery meets -/

/-- Discovery meets problems of this kind. -/
def ProblemKind.IsOfDiscovery : ProblemKind → Prop
  | .notFound | .apiError | .malformedRecord => True
  | .discoveryFailure | .changeDetectionFailure | .synchronizationFailure => False

theorem ProblemKind.IsOfDiscovery.of_malformed {kind : ProblemKind} (h : kind = .malformedRecord) :
    kind.IsOfDiscovery := by
  subst h
  trivial

theorem Problem.isOfDiscovery_ofFailure (failure : Failure) :
    (Problem.ofFailure failure).kind.IsOfDiscovery := by
  rw [Problem.ofFailure]
  split_ifs <;> trivial

theorem isOfDiscovery_of_listPulls {states : List PullState}
    (h : p ∈ (listPulls service maxPages repo states since).problems) : p.kind.IsOfDiscovery := by
  rw [listPulls, listStates_eq] at h
  obtain ⟨listing, -, h⟩ := List.mem_flatMap.1 h
  rcases List.mem_append.1 h with h | h
  · exact .of_malformed (kind_of_mem_problems h)
  · obtain ⟨failure, -, rfl⟩ := Option.map_eq_some_iff.1 (Option.mem_toList.1 h)
    exact Problem.isOfDiscovery_ofFailure failure

theorem isOfDiscovery_of_checkPages {sha : String} {left page count : Nat}
    (h : p ∈ (checkPages service repo sha left page count).problems) : p.kind.IsOfDiscovery := by
  induction left generalizing page count with
  | zero => exact absurd h List.not_mem_nil
  | succ left ih =>
    simp only [checkPages] at h
    split at h
    · rename_i failure _
      rw [List.mem_singleton.1 h]
      exact Problem.isOfDiscovery_ofFailure failure
    · split at h
      · rw [List.mem_singleton.1 h]
        trivial
      · rcases List.mem_append.1 h with h | h
        · obtain ⟨item, -, hitem⟩ := List.mem_map.1 (mem_failures.1 h)
          obtain ⟨cause, hparse, rfl⟩ := Outcome.mapError_eq_error.1 hitem
          exact .of_malformed
            ((cause.kind_about ..).trans (GitHub.kind_of_parseCheck_eq_error hparse))
        · split_ifs at h
          · exact absurd h List.not_mem_nil
          · exact ih h

theorem isOfDiscovery_of_discoverPulls {ticks : Nat} {states : List PullState}
    (h : p ∈ (discoverPulls service maxPages ticks repo states since cache).1.problems) :
    p.kind.IsOfDiscovery := by
  obtain ⟨-, -, -, -, -, -, hnone, -⟩ | ⟨hlisted, -⟩ | ⟨hlisted, -⟩ :=
    discoverPulls_cases service maxPages ticks repo cache states since
  · rw [hnone] at h
    exact absurd h List.not_mem_nil
  all_goals
    rw [hlisted] at h
    exact isOfDiscovery_of_listPulls h

theorem isOfDiscovery_of_discoverChecks {ticks : Nat} {sha : String}
    (h : p ∈ (discoverChecks service maxPages ticks repo sha cache).1.problems) :
    p.kind.IsOfDiscovery := by
  obtain ⟨-, -, -, -, -, -, hnone, -⟩ | ⟨hlisted, -⟩ | ⟨hlisted, -⟩ :=
    discoverChecks_cases service maxPages ticks repo cache sha
  · rw [hnone] at h
    exact absurd h List.not_mem_nil
  all_goals
    rw [hlisted] at h
    exact isOfDiscovery_of_checkPages h

/-- Lookups add problems of discovery to those met before. -/
theorem isOfDiscovery_of_discoverTargets {ticks : Nat} {targets : List (UInt64 × String)}
    {done : Discovered ChecksByPull} (hdone : ∀ q ∈ done.problems, q.kind.IsOfDiscovery)
    (h : p ∈ (discoverTargets service maxPages ticks repo targets done cache).1.problems) :
    p.kind.IsOfDiscovery := by
  induction targets generalizing done cache with
  | nil => exact hdone p h
  | cons target rest ih =>
    refine ih (fun q hq => ?_) h
    rcases List.mem_append.1 hq with hq | hq
    · exact hdone q hq
    · obtain ⟨met, hmet, rfl⟩ := List.mem_map.1 hq
      have hmet : met ∈ (discoverChecks service maxPages ticks repo target.2 cache).1.problems :=
        hmet
      rw [Problem.kind_about]
      exact isOfDiscovery_of_discoverChecks hmet

/-- Discovery meets problems of its own kinds only. -/
theorem isOfDiscovery_of_discover {f : Findings}
    (h : (discover service config now repo since cache).1 = .ok f) (hp : p ∈ f.problems) :
    p.kind.IsOfDiscovery := by
  rw [discover] at h
  simp only at h
  split_ifs at h
  obtain rfl := Except.ok.inj h
  rcases List.mem_append.1 hp with hp | hp
  · exact isOfDiscovery_of_discoverPulls hp
  · exact isOfDiscovery_of_discoverTargets (List.forall_mem_nil _) hp

/-! ### Coherent results -/

/-- The last problem is of a kind, and no other is. -/
def EndsWithSole (kind : ProblemKind) (problems : List Problem) : Prop :=
  ∃ earlier last, problems = earlier ++ [last] ∧ last.kind = kind ∧ ∀ q ∈ earlier, q.kind ≠ kind

/-- The problem of a phase comes after problems of discovery. -/
theorem endsWithSole_phaseProblem {problems : List Problem}
    (h : ∀ q ∈ problems, q.kind.IsOfDiscovery) {kind : ProblemKind} (hkind : ¬ kind.IsOfDiscovery)
    (message : String) : EndsWithSole kind (problems ++ [phaseProblem kind repo message]) :=
  ⟨problems, _, rfl, rfl, fun q hq heq => hkind (heq ▸ h q hq)⟩

namespace RepositoryResult

/-- The fields of a result agree with each other. -/
structure Coherent (isTrial : Bool) (r : RepositoryResult) : Prop where
  success_iff : r.success = true ↔ r.failedPhase = none
  /-- The phases of a pass are discovery, detection and writing. -/
  phase : ∀ kind, r.failedPhase = some kind →
    kind = .discoveryFailure ∨ kind = .changeDetectionFailure ∨ kind = .synchronizationFailure
  undiscovered : r.failedPhase = some .discoveryFailure →
    r.pullsDiscovered = 0 ∧ r.checksDiscovered = 0 ∧ r.changesDetected = 0 ∧
      r.changesSynchronized = 0 ∧ r.actionableEvents = []
  undetected : r.failedPhase = some .changeDetectionFailure →
    r.changesDetected = 0 ∧ r.changesSynchronized = 0 ∧ r.actionableEvents = [] ∧
      EndsWithSole .changeDetectionFailure r.problems
  rolledBack : r.failedPhase = some .synchronizationFailure →
    isTrial = false ∧ 0 < r.changesDetected ∧ r.changesSynchronized = 0 ∧
      EndsWithSole .synchronizationFailure r.problems
  completed : r.success = true →
    r.changesSynchronized = if isTrial then 0 else r.changesDetected

/-- The result of a pass that completed every phase. -/
theorem Coherent.of_success {r : RepositoryResult} (hsuccess : r.success = true)
    (hphase : r.failedPhase = none)
    (hcount : r.changesSynchronized = if isTrial then 0 else r.changesDetected) :
    r.Coherent isTrial where
  success_iff := iff_of_true hsuccess hphase
  phase _ h := by cases hphase.symm.trans h
  undiscovered h := by cases hphase.symm.trans h
  undetected h := by cases hphase.symm.trans h
  rolledBack h := by cases hphase.symm.trans h
  completed _ := hcount

end RepositoryResult

/-- In a detected change set every change writes a row. -/
theorem rowsWritten_of_detect {repositoryId : Int} {f : Findings} {changes : ChangeSet}
    (h : detect db faults repositoryId f = .ok changes) : changes.rowsWritten = changes.total := by
  obtain ⟨-, rfl⟩ := detect_eq_ok_iff.1 (detect_never h)
  exact ChangeSet.rowsWritten_eq_total (fun _ hc => (List.mem_filter.1 hc).2)
    fun _ hc => (List.mem_filter.1 hc).2

/-! ### Passes -/

section Passes

variable {result : RepositoryResult} {changes : ChangeSet} {calls : List GitHub.Call}

/-- The last step of a pass whose discovery and detection went well. -/
theorem finishPass_coherent (hrows : changes.rowsWritten = changes.total)
    (hphase : result.failedPhase = none) (hnone : result.changesSynchronized = 0)
    (hproblems : ∀ q ∈ result.problems, q.kind.IsOfDiscovery) :
    (finishPass config faults now repo isTrial result changes db cache calls).result.Coherent
      isTrial := by
  cases hwrites : isTrial || !changes.hasChanges with
  | true =>
    have hcount : 0 = if isTrial then 0 else changes.total := by
      cases isTrial with
      | true => rfl
      | false =>
        have hzero : changes.total = 0 := by simpa [ChangeSet.hasChanges] using hwrites
        exact hzero.symm
    simp only [finishPass, hwrites, if_true]
    exact .of_success rfl hphase (hnone.trans hcount)
  | false =>
    obtain ⟨htrial, hchanges⟩ : isTrial = false ∧ changes.hasChanges = true := by
      simpa using hwrites
    simp only [finishPass, hwrites, Bool.false_eq_true, if_false]
    cases hwrite : synchronize faults config.syncChunkSize repo.id now.time changes db with
    | ok written =>
      have hcount : written.1 = changes.total := (synchronize_eq_ok.1 hwrite).2.2.trans hrows
      rw [htrial]
      exact .of_success rfl hphase hcount
    | error cause =>
      exact
        { success_iff := by simp [RepositoryResult.fail]
          phase := fun kind h => .inr (.inr (Option.some.inj h).symm)
          undiscovered := fun h => by cases h
          undetected := fun h => by cases h
          rolledBack := fun _ => ⟨htrial, of_decide_eq_true hchanges, hnone,
            endsWithSole_phaseProblem hproblems id _⟩
          completed := fun h => by cases h }

/-- The result of a pass is coherent, also when another pass writes between the reads and the
transaction of this one. -/
theorem runPassAcross_coherent :
    (runPassAcross service config faults now repo since isTrial seen db cache).result.Coherent
      isTrial := by
  rw [runPassAcross]
  rcases hdiscover : discover service config now repo since cache with ⟨problems | f, later, calls⟩
  · exact
      { success_iff := by simp [RepositoryResult.fail]
        phase := fun kind h => .inl (Option.some.inj h).symm
        undiscovered := fun _ => ⟨rfl, rfl, rfl, rfl, rfl⟩
        undetected := fun h => by cases h
        rolledBack := fun h => by cases h
        completed := fun h => by cases h }
  · have hproblems (q : Problem) (hq : q ∈ f.problems) : q.kind.IsOfDiscovery :=
      isOfDiscovery_of_discover (congrArg Prod.fst hdiscover) hq
    cases hdetect : detect seen faults repo.id f with
    | error failure =>
      simp only [hdetect]
      exact
        { success_iff := by simp [RepositoryResult.fail]
          phase := fun kind h => .inr (.inl (Option.some.inj h).symm)
          undiscovered := fun h => by cases h
          undetected := fun _ => ⟨rfl, rfl, rfl, endsWithSole_phaseProblem hproblems id _⟩
          rolledBack := fun h => by cases h
          completed := fun h => by cases h }
    | ok changes =>
      simp only [hdetect]
      exact finishPass_coherent (rowsWritten_of_detect hdetect) rfl rfl hproblems

/-- The change set of a pass, if its discovery and its detection bring one. -/
def changesFound? (service : Service) (config : Configuration) (faults : Faults) (now : Moment)
    (repo : RepositoryContext) (since : Option Instant) (seen : Database) (cache : Cache) :
    Option ChangeSet :=
  (discover service config now repo since cache).1.toOption.bind fun f =>
    (detect seen faults repo.id f).toOption

/-- The last step of a pass reports the changes and passes events on, whether it writes or not. -/
theorem finishPass_reports :
    let pass := finishPass config faults now repo isTrial result changes db cache calls
    pass.result.changesDetected = changes.total ∧
      pass.result.actionableEvents = changes.actionableEvents := by
  rw [finishPass]
  split_ifs
  · exact ⟨rfl, rfl⟩
  · cases synchronize faults config.syncChunkSize repo.id now.time changes db <;> exact ⟨rfl, rfl⟩

/-- A pass reports the changes of its change set and passes events of it on. -/
theorem runPassAcross_reports :
    let pass := runPassAcross service config faults now repo since isTrial seen db cache
    let found := changesFound? service config faults now repo since seen cache
    pass.result.changesDetected = found.elim 0 ChangeSet.total ∧
      pass.result.actionableEvents = found.elim [] ChangeSet.actionableEvents := by
  rw [runPassAcross, changesFound?]
  rcases discover service config now repo since cache with ⟨problems | f, later, calls⟩
  · exact ⟨rfl, rfl⟩
  · simp only [Except.toOption, Option.bind_some]
    cases detect seen faults repo.id f with
    | error failure => exact ⟨rfl, rfl⟩
    | ok changes => exact finishPass_reports

/-- A pass that fails leaves the database as it is. -/
theorem db_of_failed_pass {pass : Pass}
    (h : PassOutcome service config faults now repo since isTrial seen db cache pass)
    (hfailed : pass.result.success = false) : pass.db = db := by
  cases h with
  | undiscovered _ _ _ hdb => exact hdb
  | undetected _ _ _ _ hdb => exact hdb
  | rolledBack _ _ _ _ _ _ _ _ hdb => exact hdb
  | completed _ _ _ hsuccess => cases hsuccess.symm.trans hfailed

end Passes

/-! ### Sessions -/

namespace Processor

variable {p : Processor} {env : Surroundings} {ids : Option (List Int)} {mode : Mode}
  {r : RepositoryResult}

/-- Every result of a session is that of a pass, whether or not its passes overlap, so it is
coherent. -/
theorem processAll_coherent (h : r ∈ (p.processAll env db ids mode).results) :
    r.Coherent mode.isDryRun := by
  rw [results_eq_passes] at h
  obtain ⟨e, -, rfl⟩ := List.mem_map.1 h
  exact runPassAcross_coherent

end Processor

/-- **Results are coherent.** Whatever the service answers, the database and the cache hold and the
faults strike: the fields of a pass's result agree with each other, its changes are those of the
pass's change set, its events are some events of that change set in their order, and when it tells
of a failure the database is as it was. The same agreement holds of every result that a session
reports. -/
theorem results_coherent (service : Service) (config : Configuration) (faults : Faults)
    (now : Moment) (repo : RepositoryContext) (since : Option Instant) (isTrial : Bool)
    (db : Database) (cache : Cache) :
    let pass := runPass service config faults now repo since isTrial db cache
    let found := changesFound? service config faults now repo since db cache
    (pass.result.Coherent isTrial ∧
      pass.result.changesDetected = found.elim 0 ChangeSet.total ∧
      pass.result.actionableEvents.Sublist (found.elim [] ChangeSet.events) ∧
      (pass.result.success = false → pass.db = db)) ∧
    ∀ (p : Processor) (env : Surroundings) (ids : Option (List Int)) (mode : Mode),
      ∀ r ∈ (p.processAll env db ids mode).results, r.Coherent mode.isDryRun := by
  intro pass found
  have hpass : pass = runPassAcross service config faults now repo since isTrial db db cache :=
    runPass_eq
  obtain ⟨hdetected, hevents⟩ : pass.result.changesDetected = found.elim 0 ChangeSet.total ∧
      pass.result.actionableEvents = found.elim [] ChangeSet.actionableEvents :=
    hpass ▸ runPassAcross_reports
  refine ⟨⟨hpass ▸ runPassAcross_coherent, hdetected, ?_, db_of_failed_pass passOutcome_runPass⟩,
    fun p env ids mode r hr => Processor.processAll_coherent hr⟩
  rw [hevents]
  cases found with
  | none => exact List.Sublist.refl _
  | some changes => exact List.filter_sublist

/-- The result of a pass whose third write is struck: it has detected changes and written none. -/
theorem results_coherent_sample :
    let pass := runPass (sampleService false) {} sampleFaults sampleMoment sampleRepository none
      false sampleDatabase sampleCache
    pass.result.failedPhase = some .synchronizationFailure ∧ 0 < pass.result.changesDetected ∧
      pass.result.changesSynchronized = 0 ∧ pass.db = sampleDatabase := by
  intro pass
  have hfailed : pass.result.failedPhase = some .synchronizationFailure := by decide +kernel
  have hsuccess : pass.result.success = false := by decide +kernel
  obtain ⟨⟨hcoherent, -, -, hdb⟩, -⟩ := results_coherent (sampleService false) {} sampleFaults
    sampleMoment sampleRepository none false sampleDatabase sampleCache
  obtain ⟨-, hdetected, hnone, -⟩ := hcoherent.rolledBack hfailed
  exact ⟨hfailed, hdetected, hnone, hdb hsuccess⟩

end PullWatch
