import Mathlib.Data.List.Basic
import PullWatch.Configuration.Reader
import PullWatch.Processor

/-!
# Settings that make a call panic

Some of what a processor uses panics instead of failing: a semaphore that is made with too many
permits, cutting a list into chunks of no size, dividing by nothing, a ticker without a period, and
taking away more than there is. Validation rules out all but the first. It bounds the limits on
concurrent work from below only, so a processor for an accepted configuration is made without a
panic exactly when no limit is too large for a semaphore. After that no session panics.

The guarded forms of making a processor and of running a session have every such use spelled out,
as a demand that stops the call. They count batches as the loop over them does.

## Main definitions

* `Panic`, `Guarded.demand`: why a call panics, and a use that may make it panic.
* `Guarded.create`, `Guarded.processAll`: the guarded forms.

## Main results

* `Configuration.validate_eq_ok`: what validation rules out.
* `Guarded.create_eq`: when a processor is made, and when making one panics.
* `Guarded.processAll_eq`: a session does not panic.
* `accepted_configuration_panics_iff`: both, for the configuration that a text describes.
-/

namespace PullWatch

/-- Why a call panics. -/
inductive Panic where
  | tooManyPermits (permits : Nat)
  | zeroChunk
  | zeroDivisor
  | zeroPeriod
  /-- More is taken away than there is. -/
  | underflow (total taken : Nat)
  deriving DecidableEq, Repr

namespace Guarded

/-! ### Uses that may panic -/

/-- The call panics unless a condition holds. -/
def demand (condition : Prop) [Decidable condition] (panic : Panic) : Except Panic Unit :=
  if condition then .ok () else .error panic

/-- Makes a semaphore. -/
def semaphore (permits : Nat) : Except Panic Unit :=
  demand (permits ≤ largestLimit) (.tooManyPermits permits)

/-- Cuts a list into chunks. -/
def chunks {α : Type} (size : Nat) (xs : List α) : Except Panic (List (List α)) :=
  (demand (size ≠ 0) .zeroChunk).map fun _ => PullWatch.chunks size xs

/-- Divides and rounds up. -/
def divideUp (n divisor : Nat) : Except Panic Nat :=
  (demand (divisor ≠ 0) .zeroDivisor).map fun _ => (n + divisor - 1) / divisor

/-- Starts a ticker with a period in milliseconds. -/
def ticker (period : Nat) : Except Panic Unit := demand (period ≠ 0) .zeroPeriod

/-- Takes away. -/
def difference (total taken : Nat) : Except Panic Nat :=
  (demand (taken ≤ total) (.underflow total taken)).map fun _ => total - taken

/-- A step of a session that may panic. -/
abbrev Perilous (α : Type) := ExceptT Panic Step α

/-- A use that may panic, as a step. -/
def attempt {α : Type} (x : Except Panic α) : Perilous α := ExceptT.mk (pure x)

/-- A step that does not panic. -/
def safe {α : Type} (x : Step α) : Perilous α := ExceptT.lift x

/-! ### The guarded forms -/

/-- Makes a processor. Two of the semaphores have at least one permit. -/
def create (config : Configuration) : Except Panic (Except ProcessorError Processor) :=
  match config.validate with
  | .error fault => .ok (.error (.configuration fault))
  | .ok () => do
    semaphore (max config.maxConcurrentApiCalls 1)
    semaphore (max config.maxConcurrentCheckDiscoveries 1)
    semaphore config.maxConcurrentRepos
    .ok (.ok
      { config, cache := { lifetime := config.cacheLifetime * Processor.ticksPerSecond } })

/-- Passes over the repositories of a batch. They cut their change sets with a size of one at least,
which is demanded before the passes and so also of those that write nothing. -/
def runBatch (env : Surroundings) (config : Configuration) (batch : List Repository) :
    Perilous (List RepositoryResult) := do
  attempt (demand (max config.syncChunkSize 1 ≠ 0) .zeroChunk)
  safe (PullWatch.runBatch env config batch)

/-- Runs the batches from an index on. A requested shutdown takes the repositories of the batches
before it away from all. -/
def runBatches (env : Surroundings) (config : Configuration) (isShutdown : Bool) (total : Nat) :
    Nat → List (List Repository) → Bool → Perilous Unit
  | _, [], _ => pure ()
  | index, batch :: rest, isReported => do
    let r ← safe get
    if isShutdown || env.isShutdown r.requests r.readings then
      let remaining ← attempt (difference total (index * config.batchSize))
      safe (set (r.warn
        ("Shutdown requested; " ++ toString remaining ++ " repositories not processed")))
    else
      let results ← runBatch env config batch
      let moment ← safe (Step.now env)
      let isReported ← safe (checkTime config moment isReported)
      safe Step.publish
      match results.find? fun r => !r.success with
      | some failed =>
        if config.stopOnFirstError then safe (throw (.aborted failed.repository))
        else runBatches env config isShutdown total (index + 1) rest isReported
      | none => runBatches env config isShutdown total (index + 1) rest isReported

/-- The work of a session, from selection to the recording of polls. -/
def runSession (env : Surroundings) (config : Configuration) (isShutdown : Bool)
    (ids : Option (List Int)) : Perilous Unit := do
  let repositories ← safe (selectAll env ids)
  safe (Step.enter env .discovery)
  safe Step.publish
  let _ ← attempt (divideUp repositories.length config.batchSize)
  let batches ← attempt (chunks config.batchSize repositories)
  runBatches env config isShutdown repositories.length 0 batches false
  safe (Step.enter env .changeDetection)
  safe Step.publish
  let r ← safe get
  if !r.session.mode.isDryRun then
    safe (Step.enter env .synchronization)
    safe Step.publish
    let moment ← safe (Step.now env)
    let r ← safe get
    let succeeded := (r.results.filter (·.success)).map (·.repositoryId)
    safe ((occurrences [] succeeded).forM (markPolled env moment.time))

/-- Runs a session. Its resource monitor ticks from the beginning. -/
def processAll (p : Processor) (env : Surroundings) (db : Database) (ids : Option (List Int))
    (mode : Mode) : Except Panic (Outcome Batch) :=
  match p.begin? with
  | none => .ok { result := .error .alreadyRunning, processor := p, db }
  | some p => do
    let session := Session.start mode (env.clock 0).time
    let first : Run :=
      { session, db, cache := p.cache, readings := 1, trace := [.published session] }
    ticker p.config.resourceSampleInterval
    match (runSession env p.config p.isShutdown ids).run.run first with
    | (.ok (.error panic), _) => .error panic
    | (.ok (.ok ()), r) =>
      match (concludeSession env).run r with
      | (.ok (), r) => .ok (p.conclude env (.ok ()) r)
      | (.error e, r) => .ok (p.conclude env (.error e) r)
    | (.error e, r) =>
      let r := recoverSession env e r
      .ok (p.conclude env
        (.error (.sessionFailed { session := r.session, results := r.results } e)) r)

end Guarded

/-! ### Validation -/

/-- The settings of a usable configuration fit together. -/
structure Configuration.Fits (c : Configuration) : Prop where
  repos : 0 < c.maxConcurrentRepos
  apiCalls : c.maxConcurrentRepos ≤ c.maxConcurrentApiCalls
  checkDiscoveries : 0 < c.maxConcurrentCheckDiscoveries
  batchSize : 1 ≤ c.batchSize ∧ c.batchSize ≤ 1000
  syncChunkSize : 1 ≤ c.syncChunkSize ∧ c.syncChunkSize ≤ 1000
  memoryLimit : leastMemoryLimit ≤ c.memoryLimit
  sampleInterval : 0 < c.resourceSampleInterval
  pages : 0 < c.maxPagesPerQuery
  states : c.pullStates ≠ []

/-- What validation rules out. The limits on concurrent work have no upper bound. -/
theorem Configuration.validate_eq_ok {c : Configuration} : c.validate = .ok () ↔ c.Fits := by
  have hsize {n : Nat} : isSize n = true ↔ 1 ≤ n ∧ n ≤ 1000 := decide_eq_true_iff
  constructor
  · intro h
    rw [validate] at h
    split_ifs at h with hrepos hcalls hchecks hbatch hchunk hmemory hinterval hpages hstates
    exact
      { repos := Nat.pos_of_ne_zero hrepos, apiCalls := Nat.not_lt.1 hcalls
        checkDiscoveries := Nat.pos_of_ne_zero hchecks, batchSize := hsize.1 hbatch
        syncChunkSize := hsize.1 hchunk, memoryLimit := Nat.not_lt.1 hmemory
        sampleInterval := Nat.pos_of_ne_zero hinterval, pages := Nat.pos_of_ne_zero hpages
        states := fun hnone => hstates (List.isEmpty_iff.2 hnone) }
  · intro h
    rw [validate, if_neg (Nat.ne_of_gt h.repos), if_neg (Nat.not_lt.2 h.apiCalls),
      if_neg (Nat.ne_of_gt h.checkDiscoveries), if_neg (not_not.2 (hsize.2 h.batchSize)),
      if_neg (not_not.2 (hsize.2 h.syncChunkSize)), if_neg (Nat.not_lt.2 h.memoryLimit),
      if_neg (Nat.ne_of_gt h.sampleInterval), if_neg (Nat.ne_of_gt h.pages),
      if_neg (mt List.isEmpty_iff.1 h.states)]

theorem Configuration.fits_of_parse {text : String} {c : Configuration}
    (h : Configuration.parse text = .ok c) : c.Fits := by
  rw [parse] at h
  split at h
  · cases h
  · split at h
    · cases h
    · split at h
      · cases h
      · rename_i hvalid
        obtain rfl := Except.ok.inj h
        exact validate_eq_ok.1 hvalid

namespace Guarded

/-! ### Making a processor -/

theorem semaphore_eq (permits : Nat) :
    semaphore permits =
      if largestLimit < permits then .error (.tooManyPermits permits) else .ok () := by
  rw [semaphore, demand]
  split_ifs <;> first | rfl | omega

/-- A permit more or less makes no difference to what is too large. -/
theorem semaphore_max_one (permits : Nat) : semaphore (max permits 1) = semaphore permits := by
  rcases Nat.eq_zero_or_pos permits with rfl | hpos
  · rfl
  · rw [Nat.max_eq_left hpos]

/-- Making a processor for settings that pass validation. -/
theorem create_of_validate {config : Configuration} (h : config.validate = .ok ()) :
    create config =
      if largestLimit < config.maxConcurrentApiCalls then
        .error (.tooManyPermits config.maxConcurrentApiCalls)
      else if largestLimit < config.maxConcurrentCheckDiscoveries then
        .error (.tooManyPermits config.maxConcurrentCheckDiscoveries)
      else if largestLimit < config.maxConcurrentRepos then
        .error (.tooManyPermits config.maxConcurrentRepos)
      else
        .ok (.ok
          { config, cache := { lifetime := config.cacheLifetime * Processor.ticksPerSecond } }) := by
  rw [create, h]
  simp only [semaphore_max_one]
  simp only [semaphore_eq]
  split_ifs <;> rfl

/-- A guarded processor is made as the processor is, and making it panics when a limit is too large.
-/
theorem create_eq (config : Configuration) :
    create config =
      match Processor.create config with
      | .error (.limitTooLarge limit) => .error (.tooManyPermits limit)
      | made => .ok made := by
  cases hvalid : config.validate with
  | error fault => rw [create, Processor.create, hvalid]
  | ok =>
    rw [create_of_validate hvalid, Processor.create, hvalid]
    simp only [List.find?_cons, List.find?_nil]
    split_ifs with hcalls hchecks hrepos
    · rw [decide_eq_true hcalls]
    · rw [decide_eq_false hcalls, decide_eq_true hchecks]
    · rw [decide_eq_false hcalls, decide_eq_false hchecks, decide_eq_true hrepos]
    · rw [decide_eq_false hcalls, decide_eq_false hchecks, decide_eq_false hrepos]

/-- Making a processor for settings that fit together. No more repositories than requests are under
way at once, so the limit on repositories is not too large when that on requests is not. -/
theorem create_of_fits {config : Configuration} (h : config.Fits) :
    create config =
      if largestLimit < config.maxConcurrentApiCalls then
        .error (.tooManyPermits config.maxConcurrentApiCalls)
      else if largestLimit < config.maxConcurrentCheckDiscoveries then
        .error (.tooManyPermits config.maxConcurrentCheckDiscoveries)
      else
        .ok (.ok
          { config, cache := { lifetime := config.cacheLifetime * Processor.ticksPerSecond } }) := by
  rw [create_of_validate (Configuration.validate_eq_ok.2 h)]
  split_ifs with hcalls hchecks hrepos
  · rfl
  · rfl
  · exact absurd (Nat.lt_of_lt_of_le hrepos h.apiCalls) hcalls
  · rfl

/-! ### Sessions -/

variable {α β : Type} {env : Surroundings} {config : Configuration} {isShutdown : Bool}
  {total : Nat}

theorem safe_bind (x : Step α) (f : α → Step β) :
    safe (x >>= f) = safe x >>= fun a => safe (f a) := by
  apply ExceptT.ext
  simp [safe]

theorem run_safe (x : Step α) (r : Run) :
    (safe x).run.run r = (Except.map Except.ok (x.run r).1, (x.run r).2) := by
  simp only [safe, ExceptT.run_lift, ExceptT.run_map]
  rfl

theorem attempt_ok (a : α) : attempt (.ok a) = pure a := rfl

theorem demand_of {condition : Prop} [Decidable condition] (panic : Panic) (h : condition) :
    demand condition panic = .ok () := if_pos h

theorem runBatch_eq (batch : List Repository) :
    runBatch env config batch = safe (PullWatch.runBatch env config batch) := by
  have hsize : max config.syncChunkSize 1 ≠ 0 :=
    Nat.pos_iff_ne_zero.1 (Nat.le_max_right _ _)
  rw [runBatch, demand_of _ hsize, attempt_ok, pure_bind]

/-- The loop over the batches does not panic. Each batch but the last has the full size, so the
batches before one are no more than all. -/
theorem runBatches_eq (repositories : List Repository) {index : Nat} (isReported : Bool)
    (h : repositories = [] ∨ total = index * config.batchSize + repositories.length)
    (hsize : 0 < config.batchSize) :
    runBatches env config isShutdown total index
        (PullWatch.chunks config.batchSize repositories) isReported =
      safe (PullWatch.runBatches env config isShutdown
        (PullWatch.chunks config.batchSize repositories) isReported) := by
  fun_induction PullWatch.chunks config.batchSize repositories generalizing index isReported with
  | case1 => rfl
  | case2 repository repositories ih =>
    have htotal : total = index * config.batchSize + (repositories.length + 1) :=
      h.resolve_left (List.cons_ne_nil _ _)
    have hrest : repositories.drop (config.batchSize - 1) = [] ∨
        total = (index + 1) * config.batchSize +
          (repositories.drop (config.batchSize - 1)).length := by
      rw [List.length_drop, Nat.succ_mul, List.drop_eq_nil_iff]
      omega
    have hremaining : difference total (index * config.batchSize) =
        .ok ((repository :: repositories.take (config.batchSize - 1)) ::
          PullWatch.chunks config.batchSize
            (repositories.drop (config.batchSize - 1))).flatten.length := by
      rw [difference, demand_of _ (by omega)]
      refine congrArg Except.ok ?_
      simp only [List.flatten_cons, flatten_chunks, List.cons_append, List.take_append_drop,
        List.length_cons]
      omega
    rw [runBatches, PullWatch.runBatches]
    simp only [safe_bind]
    refine bind_congr fun r => ?_
    by_cases hend : (isShutdown || env.isShutdown r.requests r.readings) = true
    · rw [if_pos hend, if_pos hend, hremaining, attempt_ok, pure_bind]
    · rw [if_neg hend, if_neg hend]
      simp only [safe_bind, runBatch_eq]
      refine bind_congr fun results => bind_congr fun moment => bind_congr fun isReported =>
        bind_congr fun _ => ?_
      cases results.find? fun r => !r.success with
      | none => exact ih isReported hrest
      | some failed =>
        cases config.stopOnFirstError with
        | true => rfl
        | false => exact ih isReported hrest

theorem runSession_eq (ids : Option (List Int)) (hsize : 0 < config.batchSize) :
    runSession env config isShutdown ids =
      safe (PullWatch.runSession env config isShutdown ids) := by
  have hne : config.batchSize ≠ 0 := Nat.ne_of_gt hsize
  rw [runSession, PullWatch.runSession]
  simp only [safe_bind]
  refine bind_congr fun repositories => bind_congr fun _ => bind_congr fun _ => ?_
  have hdivide : divideUp repositories.length config.batchSize =
      .ok ((repositories.length + config.batchSize - 1) / config.batchSize) := by
    rw [divideUp, demand_of _ hne]
    rfl
  have hchunks : chunks config.batchSize repositories =
      .ok (PullWatch.chunks config.batchSize repositories) := by
    rw [chunks, demand_of _ hne]
    rfl
  have hcount : repositories = [] ∨
      repositories.length = 0 * config.batchSize + repositories.length :=
    .inr (by rw [Nat.zero_mul, Nat.zero_add])
  rw [hdivide, attempt_ok, pure_bind, hchunks, attempt_ok, pure_bind,
    runBatches_eq repositories false hcount hsize]
  refine bind_congr fun _ => bind_congr fun _ => bind_congr fun _ => bind_congr fun r => ?_
  cases r.session.mode.isDryRun with
  | true => rfl
  | false => simp only [Bool.not_false, if_true, safe_bind]

/-- A session does not panic. -/
theorem processAll_eq {p : Processor} (h : p.config.Fits) (env : Surroundings) (db : Database)
    (ids : Option (List Int)) (mode : Mode) :
    processAll p env db ids mode = .ok (p.processAll env db ids mode) := by
  rw [processAll, Processor.processAll]
  cases hbegin : p.begin? with
  | none => rfl
  | some begun =>
    have hconfig : begun.config = p.config := by
      rw [Processor.begin?] at hbegin
      split_ifs at hbegin
      rw [← Option.some.inj hbegin]
    have hperiod : ticker begun.config.resourceSampleInterval = .ok () :=
      demand_of _ (hconfig ▸ Nat.ne_of_gt h.sampleInterval)
    have hsize : 0 < begun.config.batchSize := hconfig ▸ h.batchSize.1
    simp only [hperiod, runSession_eq ids hsize, run_safe]
    generalize Session.start mode (env.clock 0).time = session
    rcases (PullWatch.runSession env begun.config begun.isShutdown ids).run
      { session, db, cache := begun.cache, readings := 1, trace := [.published session] }
      with ⟨e | done, r⟩
    · rfl
    · simp only [Except.map]
      rcases (concludeSession env).run r with ⟨e | done, r⟩
      · rfl
      · rfl

end Guarded

/-! ### Accepted configurations -/

/-- When the configuration that a text describes is accepted, making a processor panics exactly when
a limit on concurrent work is larger than a semaphore may be. Otherwise there is a processor with
the configuration. No session of a processor with the configuration panics, whatever was done
before, and it does what the unguarded session does. -/
theorem accepted_configuration_panics_iff {text : String} {c : Configuration}
    (h : Configuration.parse text = .ok c) :
    ((∃ panic, Guarded.create c = .error panic) ↔
        largestLimit < c.maxConcurrentApiCalls ∨
          largestLimit < c.maxConcurrentCheckDiscoveries) ∧
      (∀ made, Guarded.create c = .ok made → ∃ p, made = .ok p ∧ p.config = c) ∧
      ∀ p : Processor, p.config = c → ∀ env db ids mode,
        Guarded.processAll p env db ids mode = .ok (p.processAll env db ids mode) := by
  have hfits := Configuration.fits_of_parse h
  refine ⟨?_, fun made hmade => ?_, ?_⟩
  · rw [Guarded.create_of_fits hfits]
    split_ifs with hcalls hchecks
    · exact ⟨fun _ => .inl hcalls, fun _ => ⟨_, rfl⟩⟩
    · exact ⟨fun _ => .inr hchecks, fun _ => ⟨_, rfl⟩⟩
    · exact ⟨fun ⟨_, hpanic⟩ => (nomatch hpanic),
        fun hlarge => (hlarge.elim hcalls hchecks).elim⟩
  · rw [Guarded.create_of_fits hfits] at hmade
    split_ifs at hmade
    exact ⟨_, (Except.ok.inj hmade).symm, rfl⟩
  · rintro p rfl env db ids mode
    exact Guarded.processAll_eq hfits env db ids mode

/-- A text with one setting, which is too large for a semaphore. -/
def largeLimitText : String := "max-concurrent-check-discoveries = 2305843009213693952"

/-- The configuration that the text describes. -/
def largeLimitConfiguration : Configuration :=
  { maxConcurrentCheckDiscoveries := 2305843009213693952 }

theorem parse_largeLimitText :
    Configuration.parse largeLimitText = .ok largeLimitConfiguration := by
  have hparse : (Configuration.parse largeLimitText).toOption = some largeLimitConfiguration := by
    decide +kernel
  cases hresult : Configuration.parse largeLimitText with
  | error e => rw [hresult] at hparse; cases hparse
  | ok c =>
    rw [hresult] at hparse
    exact congrArg Except.ok (Option.some.inj hparse)

/-- It is accepted, and making a processor panics. -/
theorem accepted_configuration_panics_iff_sample :
    Configuration.parse largeLimitText = .ok largeLimitConfiguration ∧
      ∃ panic, Guarded.create largeLimitConfiguration = .error panic :=
  ⟨parse_largeLimitText,
    (accepted_configuration_panics_iff parse_largeLimitText).1.2 (.inr (by decide))⟩

/-- Not every accepted configuration has a processor. -/
theorem not_forall_accepted_created :
    ¬ ∀ text c, Configuration.parse text = .ok c → ∃ p, Guarded.create c = .ok (.ok p) := by
  intro hall
  obtain ⟨p, hmade⟩ := hall _ _ parse_largeLimitText
  have hpanic : Guarded.create largeLimitConfiguration =
      .error (.tooManyPermits 2305843009213693952) := rfl
  rw [hpanic] at hmade
  cases hmade

end PullWatch
