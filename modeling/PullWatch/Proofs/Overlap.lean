import PullWatch.Proofs.Passes
import PullWatch.Processor.Overlap
import Mathlib.Algebra.GroupWithZero.Nat

/-!
# Passes step by step

Whatever happens between the steps of a pass, its result and its write are those of a pass whose
discovery found one cache, whose detection read one database and whose transaction found another.
So a pass keeps a property of databases that transactions keep, and a property of caches that
discovery and eviction keep.

## Main definitions

* `PassPlan.across`: a planned pass from the cache and the databases that its steps find.
* `PassPlan.At`: what a stage tells of the steps before it.
* `stepsLeft`: the number of steps that are left to passes.
* `PassBounds`: properties of databases and caches that the steps of passes keep.

## Main results

* `PassPlan.advance_planned`, `PassPlan.At.advance_discovered`, `PassPlan.At.advance_detected`: what
  one step of a pass does.
* `advanceAll_ends`: passes are over after three steps for each, whatever the order.
* `PassBounds.across_db_holds`, `PassBounds.across_cache_holds`: a pass keeps what its steps keep.
-/

namespace PullWatch

variable {config : Configuration} {faults : Faults} {isTrial : Bool}

/-! ### The steps of a pass -/

section Steps

variable {service : GitHub.Service} {now : Moment} {repo : RepositoryContext}
  {since : Option Instant} {seen db : Database} {cache : Cache}

theorem beginPass_cache :
    (beginPass service config now repo since cache).2.1 =
      (discover service config now repo since cache).2.1 := by
  rw [beginPass]
  rcases discover service config now repo since cache with ⟨_ | _, _, _⟩ <;> rfl

/-- A pass from its steps. -/
theorem runPassAcross_eq :
    runPassAcross service config faults now repo since isTrial seen db cache =
      match beginPass service config now repo since cache with
      | (.error result, cache, calls) => { result, db, cache, calls }
      | (.ok (result, findings), cache, calls) =>
        match comparePass faults now repo result findings seen with
        | .error result => { result, db, cache, calls }
        | .ok changes =>
          finishPass config faults now repo isTrial result changes db cache calls := by
  rw [beginPass, runPassAcross]
  rcases discover service config now repo since cache with ⟨_ | findings, later, calls⟩
  · rfl
  · simp only [comparePass]
    cases detect seen faults repo.id findings <;> rfl

variable {result : RepositoryResult} {changes : ChangeSet}

/-- What a pass reports does not depend on the cache that writing finds. -/
theorem finishPass_result (cache cache' : Cache) (calls calls' : List GitHub.Call) :
    (finishPass config faults now repo isTrial result changes db cache calls).result =
      (finishPass config faults now repo isTrial result changes db cache' calls').result := by
  rw [finishPass, finishPass]
  split_ifs
  · rfl
  · cases synchronize faults config.syncChunkSize repo.id now.time changes db <;> rfl

/-- What a pass writes does not depend on the cache that writing finds. -/
theorem finishPass_db (cache cache' : Cache) (calls calls' : List GitHub.Call) :
    (finishPass config faults now repo isTrial result changes db cache calls).db =
      (finishPass config faults now repo isTrial result changes db cache' calls').db := by
  rw [finishPass, finishPass]
  split_ifs
  · rfl
  · cases synchronize faults config.syncChunkSize repo.id now.time changes db <;> rfl

theorem finishPass_cache (cache : Cache) (calls : List GitHub.Call) :
    (finishPass config faults now repo isTrial result changes db cache calls).cache = cache ∨
      (finishPass config faults now repo isTrial result changes db cache calls).cache =
        (cache.dropRepository repo.id).2 := by
  rw [finishPass]
  split_ifs
  · exact .inl rfl
  · cases synchronize faults config.syncChunkSize repo.id now.time changes db with
    | ok r => exact .inl rfl
    | error cause => exact .inr rfl

end Steps

namespace PassPlan

variable {plan : PassPlan} {cache : Cache} {seen : Database} {s : Shared}

/-- The planned pass, whose discovery finds a cache, whose detection reads the database `seen` and
whose transaction finds the database `db`. -/
def across (plan : PassPlan) (config : Configuration) (faults : Faults) (isTrial : Bool)
    (seen db : Database) (cache : Cache) : Pass :=
  runPassAcross plan.service config faults plan.now plan.repo plan.since isTrial seen db cache

/-- The cache after the discovery of the planned pass. -/
def cacheAfter (plan : PassPlan) (config : Configuration) (cache : Cache) : Cache :=
  (discover plan.service config plan.now plan.repo plan.since cache).2.1

/-- The stage of a pass whose discovery found a cache and whose detection, if that is done, read a
database. -/
inductive At (plan : PassPlan) (config : Configuration) (faults : Faults) (cache : Cache)
    (seen : Database) : PassStage → Prop
  | discovered {result : RepositoryResult} {findings : Findings}
      (hbegin : (beginPass plan.service config plan.now plan.repo plan.since cache).1 =
        .ok (result, findings)) :
      At plan config faults cache seen (.discovered result findings)
  | detected {result : RepositoryResult} {findings : Findings} {changes : ChangeSet}
      (hbegin : (beginPass plan.service config plan.now plan.repo plan.since cache).1 =
        .ok (result, findings))
      (hcompare : comparePass faults plan.now plan.repo result findings seen = .ok changes) :
      At plan config faults cache seen (.detected result changes)

/-- The pass is over without having reached its transaction. -/
structure EndedEarly (plan : PassPlan) (config : Configuration) (faults : Faults) (isTrial : Bool)
    (seen : Database) (cache : Cache) (result : RepositoryResult) : Prop where
  result_eq : ∀ db, (plan.across config faults isTrial seen db cache).result = result
  db_eq : ∀ db, (plan.across config faults isTrial seen db cache).db = db

/-- The first step asks the service and uses the cache. -/
theorem advance_planned (plan : PassPlan) (config : Configuration) (faults : Faults)
    (isTrial : Bool) (s : Shared) :
    ∃ result,
      plan.advance config faults isTrial s .planned =
          (none, { s with
            cache := plan.cacheAfter config s.cache
            calls :=
              s.calls ++ (beginPass plan.service config plan.now plan.repo plan.since s.cache).2.2
            results := s.results ++ [result] }) ∧
        (∀ seen, plan.EndedEarly config faults isTrial seen s.cache result) ∨
      ∃ findings,
        plan.advance config faults isTrial s .planned =
            (some (.discovered result findings), { s with
              cache := plan.cacheAfter config s.cache
              calls := s.calls ++
                (beginPass plan.service config plan.now plan.repo plan.since s.cache).2.2 }) ∧
          ∀ seen, plan.At config faults s.cache seen (.discovered result findings) := by
  have hcache : (beginPass plan.service config plan.now plan.repo plan.since s.cache).2.1 =
      plan.cacheAfter config s.cache := beginPass_cache
  rw [advance]
  rcases hbegin : beginPass plan.service config plan.now plan.repo plan.since s.cache with
    ⟨result | ⟨result, findings⟩, later, calls⟩
  · rw [hbegin] at hcache
    refine ⟨result, .inl ⟨by rw [← hcache], fun seen => ⟨fun db => ?_, fun db => ?_⟩⟩⟩
    all_goals rw [across, runPassAcross_eq, hbegin]
  · rw [hbegin] at hcache
    exact ⟨result, .inr ⟨findings, by rw [← hcache], fun _ => .discovered (by rw [hbegin])⟩⟩

/-- The second step reads the database. -/
theorem At.advance_discovered {result : RepositoryResult} {findings : Findings}
    (h : plan.At config faults cache seen (.discovered result findings)) (isTrial : Bool)
    (s : Shared) :
    (∃ changes,
      plan.advance config faults isTrial s (.discovered result findings) =
          (some (.detected result changes), s) ∧
        plan.At config faults cache s.db (.detected result changes)) ∨
      ∃ result',
        plan.advance config faults isTrial s (.discovered result findings) =
            (none, { s with results := s.results ++ [result'] }) ∧
          plan.EndedEarly config faults isTrial s.db cache result' := by
  cases h with
  | discovered hbegin =>
    rw [advance]
    cases hcompare : comparePass faults plan.now plan.repo result findings s.db with
    | ok changes => exact .inl ⟨changes, rfl, .detected hbegin hcompare⟩
    | error result' =>
      refine .inr ⟨result', rfl, fun db => ?_, fun db => ?_⟩
      all_goals
        rw [across, runPassAcross_eq]
        rcases hbegin' : beginPass plan.service config plan.now plan.repo plan.since cache with
          ⟨_, later, calls⟩
        rw [hbegin'] at hbegin
        obtain rfl : _ = Except.ok (result, findings) := hbegin
        simp only [hcompare]

/-- The last step is the transaction. -/
theorem At.advance_detected {result : RepositoryResult} {changes : ChangeSet}
    (h : plan.At config faults cache seen (.detected result changes)) (isTrial : Bool)
    (s : Shared) :
    ∃ later, (later = s.cache ∨ later = (s.cache.dropRepository plan.repo.id).2) ∧
      plan.advance config faults isTrial s (.detected result changes) =
        (none, { s with
          db := (plan.across config faults isTrial seen s.db cache).db
          cache := later
          results :=
            s.results ++ [(plan.across config faults isTrial seen s.db cache).result] }) := by
  cases h with
  | @detected _ findings _ hbegin hcompare =>
    rw [across, runPassAcross_eq]
    rcases hbegin' : beginPass plan.service config plan.now plan.repo plan.since cache with
      ⟨_, found, calls⟩
    rw [hbegin'] at hbegin
    obtain rfl : _ = Except.ok (result, findings) := hbegin
    simp only [hcompare]
    refine ⟨(finishPass config faults plan.now plan.repo isTrial result changes s.db s.cache
      []).cache, finishPass_cache s.cache [], ?_⟩
    rw [advance, finishPass_result found s.cache calls [], finishPass_db found s.cache calls []]

/-- A pass leaves the database to its transaction. -/
theorem across_db (plan : PassPlan) (seen db : Database) (cache : Cache) :
    (plan.across config faults isTrial seen db cache).db = db ∨
      ∃ changes n, synchronize faults config.syncChunkSize plan.repo.id plan.now.time changes db =
        .ok (n, (plan.across config faults isTrial seen db cache).db) := by
  have houtcome : PassOutcome plan.service config faults plan.now plan.repo plan.since isTrial seen
      db cache (plan.across config faults isTrial seen db cache) := passOutcome_runPassAcross
  cases houtcome with
  | undiscovered _ _ _ hdb => exact .inl hdb
  | undetected _ _ _ _ hdb => exact .inl hdb
  | rolledBack _ _ _ _ _ _ _ _ hdb => exact .inl hdb
  | completed _ _ _ _ _ hdb =>
    rcases hdb with ⟨-, hdb⟩ | ⟨-, n, hwrite⟩
    · exact .inl hdb
    · exact .inr ⟨_, n, hwrite⟩

/-- A pass leaves the cache to its discovery, or drops what it holds for the repository. -/
theorem across_cache (plan : PassPlan) (seen db : Database) (cache : Cache) :
    (plan.across config faults isTrial seen db cache).cache = plan.cacheAfter config cache ∨
      (plan.across config faults isTrial seen db cache).cache =
        ((plan.cacheAfter config cache).dropRepository plan.repo.id).2 := by
  have houtcome : PassOutcome plan.service config faults plan.now plan.repo plan.since isTrial seen
      db cache (plan.across config faults isTrial seen db cache) := passOutcome_runPassAcross
  cases houtcome with
  | undiscovered _ _ _ _ hcache => exact .inl hcache
  | undetected _ _ _ _ _ hcache => exact .inl hcache
  | rolledBack _ _ _ _ _ _ _ _ _ hcache => exact .inr hcache
  | completed _ _ _ _ _ _ hcache => exact .inl hcache

/-- A pass reports on the repository of its plan. -/
theorem across_repository (plan : PassPlan) (seen db : Database) (cache : Cache) :
    let result := (plan.across config faults isTrial seen db cache).result
    result.repositoryId = plan.repo.id ∧ result.repository = plan.repo.fullName := by
  rw [across, runPassAcross]
  rcases discover plan.service config plan.now plan.repo plan.since cache with
    ⟨_ | findings, later, calls⟩
  · exact ⟨rfl, rfl⟩
  · simp only
    cases detect seen faults plan.repo.id findings with
    | error failure => exact ⟨rfl, rfl⟩
    | ok changes =>
      simp only [finishPass]
      split_ifs
      · exact ⟨rfl, rfl⟩
      · cases synchronize faults config.syncChunkSize plan.repo.id plan.now.time changes db <;>
          exact ⟨rfl, rfl⟩

theorem across_repositoryId (plan : PassPlan) (seen db : Database) (cache : Cache) :
    (plan.across config faults isTrial seen db cache).result.repositoryId = plan.repo.id :=
  (across_repository plan seen db cache).1

/-- A successful pass has discovered, and reports the problems of its discovery. -/
theorem exists_findings_of_success {seen db : Database} {cache : Cache}
    (h : (plan.across config faults isTrial seen db cache).result.success = true) :
    ∃ f, (discover plan.service config plan.now plan.repo plan.since cache).1 = .ok f ∧
      (plan.across config faults isTrial seen db cache).result.problems = f.problems := by
  rw [across, runPassAcross] at h ⊢
  rcases hfound : discover plan.service config plan.now plan.repo plan.since cache with
    ⟨_ | f, later, calls⟩
  · rw [hfound] at h
    cases h
  · rw [hfound] at h
    refine ⟨f, rfl, ?_⟩
    cases hdetect : detect seen faults plan.repo.id f with
    | error failure =>
      simp only [hdetect] at h
      cases h
    | ok changes =>
      simp only [hdetect, finishPass] at h ⊢
      split_ifs at h ⊢
      · rfl
      · cases hwrite : synchronize faults config.syncChunkSize plan.repo.id plan.now.time changes
          db with
        | ok r => rfl
        | error cause =>
          rw [hwrite] at h
          cases h

end PassPlan

/-! ### Passes end -/

/-- The number of steps that are left to a pass. -/
def PassStage.left : PassStage → Nat
  | .planned => 3
  | .discovered .. => 2
  | .detected .. => 1

/-- The number of steps that are left to passes. -/
def stepsLeft (passes : List (PassPlan × PassStage)) : Nat := (passes.map (·.2.left)).sum

theorem PassStage.left_pos (stage : PassStage) : 0 < stage.left := by
  cases stage <;> exact Nat.succ_pos _

/-- A step takes a pass further. -/
theorem PassPlan.left_advance (plan : PassPlan) (config : Configuration) (faults : Faults)
    (isTrial : Bool) (s : Shared) (stage : PassStage) :
    ∀ next ∈ (plan.advance config faults isTrial s stage).1, next.left < stage.left := by
  intro next hnext
  cases stage with
  | planned =>
    obtain ⟨result, ⟨hstep, -⟩ | ⟨findings, hstep, -⟩⟩ :=
      plan.advance_planned config faults isTrial s
    · rw [hstep] at hnext
      cases hnext
    · rw [hstep] at hnext
      obtain rfl := Option.some.inj hnext
      exact Nat.lt_succ_self 2
  | discovered result findings =>
    rw [advance] at hnext
    cases hcompare : comparePass faults plan.now plan.repo result findings s.db with
    | error result' =>
      rw [hcompare] at hnext
      cases hnext
    | ok changes =>
      rw [hcompare] at hnext
      obtain rfl := Option.some.inj hnext
      exact Nat.lt_succ_self 1
  | detected result changes => cases hnext

theorem stepsLeft_advanceAt_zero (plan : PassPlan) (stage : PassStage)
    (rest : List (PassPlan × PassStage)) (s : Shared) :
    stepsLeft (advanceAt config faults isTrial 0 ((plan, stage) :: rest) s).1 <
      stepsLeft ((plan, stage) :: rest) := by
  have hless := plan.left_advance config faults isTrial s stage
  rw [advanceAt]
  rcases hstep : plan.advance config faults isTrial s stage with ⟨_ | next, s'⟩
  · exact Nat.lt_add_of_pos_left stage.left_pos
  · exact Nat.add_lt_add_right (hless next (congrArg Prod.fst hstep)) _

theorem stepsLeft_advanceAt (k : Nat) (passes : List (PassPlan × PassStage)) (s : Shared) :
    stepsLeft (advanceAt config faults isTrial k passes s).1 ≤ stepsLeft passes := by
  induction passes generalizing k s with
  | nil => rw [advanceAt]
  | cons first rest ih =>
    cases k with
    | zero => exact (stepsLeft_advanceAt_zero first.1 first.2 rest s).le
    | succ k => exact Nat.add_le_add_left (ih k s) _

theorem stepsLeft_advanceAll (steps : List Nat) (passes : List (PassPlan × PassStage))
    (s : Shared) : stepsLeft (advanceAll config faults isTrial steps passes s).1 ≤
      stepsLeft passes := by
  induction steps generalizing passes s with
  | nil => exact Nat.le_refl _
  | cons k steps ih => exact (ih _ _).trans (stepsLeft_advanceAt k passes s)

theorem advanceAll_append (steps later : List Nat) (passes : List (PassPlan × PassStage))
    (s : Shared) : advanceAll config faults isTrial (steps ++ later) passes s =
      advanceAll config faults isTrial later (advanceAll config faults isTrial steps passes s).1
        (advanceAll config faults isTrial steps passes s).2 :=
  List.foldl_append

/-- Passes are over when each of the steps that are left to them was made in order. -/
theorem advanceAll_zeros {n : Nat} {passes : List (PassPlan × PassStage)} (s : Shared)
    (h : stepsLeft passes ≤ n) :
    (advanceAll config faults isTrial (.replicate n 0) passes s).1 = [] := by
  induction n generalizing passes s with
  | zero =>
    cases passes with
    | nil => rfl
    | cons first rest =>
      have hpos : 0 < first.2.left := first.2.left_pos
      rw [stepsLeft, List.map_cons, List.sum_cons] at h
      omega
  | succ n ih =>
    refine ih (advanceAt config faults isTrial 0 passes s).2 ?_
    cases passes with
    | nil => exact Nat.zero_le n
    | cons first rest =>
      exact Nat.le_of_lt_succ
        ((stepsLeft_advanceAt_zero first.1 first.2 rest s).trans_le h)

/-- Whatever steps passes have made, they are over after three more steps for each. -/
theorem advanceAll_ends (steps : List Nat) (plans : List PassPlan) (s : Shared) :
    (advanceAll config faults isTrial (steps ++ .replicate (3 * plans.length) 0)
      (plans.map (·, .planned)) s).1 = [] := by
  rw [advanceAll_append]
  refine advanceAll_zeros _ ((stepsLeft_advanceAll steps _ s).trans (Nat.le_of_eq ?_))
  have hleft : plans.map (fun _ => 3) = .replicate plans.length 3 := List.map_const'
  rw [stepsLeft, List.map_map, Nat.mul_comm]
  exact (congrArg List.sum hleft).trans List.sum_replicate_nat

/-! ### What passes keep -/

/-- Properties of databases and caches that the steps of some passes keep. -/
structure PassBounds (config : Configuration) (faults : Faults) (plans : PassPlan → Prop) where
  database : Database → Prop
  cache : Cache → Prop
  write : ∀ {plan : PassPlan} {changes : ChangeSet} {n : Nat} {db db' : Database}, plans plan →
    database db →
      synchronize faults config.syncChunkSize plan.repo.id plan.now.time changes db = .ok (n, db') →
        database db'
  discover : ∀ {plan : PassPlan} {c : Cache}, plans plan → cache c →
    cache (plan.cacheAfter config c)
  drop : ∀ {c : Cache} (id : Int), cache c → cache (c.dropRepository id).2

namespace PassBounds

variable {plans : PassPlan → Prop} (B : PassBounds config faults plans) {plan : PassPlan}
include B

theorem across_db_holds (hplan : plans plan) {seen db : Database} {cache : Cache}
    (hdb : B.database db) : B.database (plan.across config faults isTrial seen db cache).db := by
  rcases plan.across_db seen db cache with h | ⟨changes, n, h⟩
  · rwa [h]
  · exact B.write hplan hdb h

theorem across_cache_holds (hplan : plans plan) {seen db : Database} {cache : Cache}
    (hcache : B.cache cache) :
    B.cache (plan.across config faults isTrial seen db cache).cache := by
  rcases plan.across_cache seen db cache with h | h <;> rw [h]
  · exact B.discover hplan hcache
  · exact B.drop _ (B.discover hplan hcache)

end PassBounds

end PullWatch
