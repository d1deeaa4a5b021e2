import PullWatch.Proofs.Overlap

/-!
# Passes in succession

However passes overlap, they end one after the other. The transaction of each finds the database
that the pass before it has left, and its detection has read that database or an earlier one. The
cache that its discovery finds has passed through the hands of such passes. So the passes of a
batch, whether they are made one after the other or together, are a succession in which every
planned pass ends once.

What the steps of a pass find is written down beside the passes, and no step reads it. So it can be
told of every pass that is over which cache and which databases were its own.

## Main definitions

* `HandedOn`: the caches that passes make of a cache.
* `EndedPass`: a pass with what its steps found.
* `Succession`: passes that ended one after the other.
* `EndedPass.watch`, `watchAt`, `watchAll`: what the steps of passes find.
* `passesWatched`: passes that overlap, with what their steps found.
* `PartlyEnded`: passes of which some have ended and the others are pending.

## Main results

* `Succession.holds`: passes that ended one after the other keep what their steps keep.
* `PartlyEnded.advanceAll`: steps of several passes.
* `passesTogether_succession`: passes that overlap are a succession, and each of them ends once.
-/

namespace PullWatch

/-- A pass with what its steps found: its plan, the database that its detection read, the one its
transaction found, and the cache that its discovery found. -/
structure EndedPass where
  plan : PassPlan
  seen : Database
  found : Database
  cache : Cache

variable {config : Configuration} {faults : Faults} {isTrial : Bool} {plans : PassPlan → Prop}
  {start db : Database} {first cache : Cache} {ended : List EndedPass}

/-- The caches that some passes make of a cache: their discoveries use it, and what it holds for a
repository may be dropped. -/
inductive HandedOn (config : Configuration) (plans : PassPlan → Prop) (first : Cache) :
    Cache → Prop
  | first : HandedOn config plans first first
  | discover {plan : PassPlan} {cache : Cache} (h : HandedOn config plans first cache)
      (hplan : plans plan) : HandedOn config plans first (plan.cacheAfter config cache)
  | drop {cache : Cache} (h : HandedOn config plans first cache) (id : Int) :
      HandedOn config plans first (cache.dropRepository id).2

namespace HandedOn

theorem trans {later : Cache} (h : HandedOn config plans first cache)
    (hlater : HandedOn config plans cache later) : HandedOn config plans first later := by
  induction hlater with
  | first => exact h
  | discover _ hplan ih => exact ih.discover hplan
  | drop _ id ih => exact ih.drop id

theorem mono {plans' : PassPlan → Prop} (h : HandedOn config plans first cache)
    (hplans : ∀ plan, plans plan → plans' plan) : HandedOn config plans' first cache := by
  induction h with
  | first => exact .first
  | discover _ hplan ih => exact ih.discover (hplans _ hplan)
  | drop _ id ih => exact ih.drop id

/-- Caches that are handed on keep what the steps of passes keep. -/
theorem holds (B : PassBounds config faults plans) (h : HandedOn config plans first cache)
    (hfirst : B.cache first) : B.cache cache := by
  induction h with
  | first => exact hfirst
  | discover _ hplan ih => exact B.discover hplan ih
  | drop _ id ih => exact B.drop id ih

/-- A pass hands on the cache that it finds. -/
theorem across {plan : PassPlan} (h : HandedOn config plans first cache) (hplan : plans plan)
    (faults : Faults) (isTrial : Bool) (seen found : Database) :
    HandedOn config plans first (plan.across config faults isTrial seen found cache).cache := by
  rcases plan.across_cache seen found cache with hcache | hcache <;> rw [hcache]
  · exact h.discover hplan
  · exact (h.discover hplan).drop _

end HandedOn

/-- The outcome of the pass. -/
def EndedPass.pass (config : Configuration) (faults : Faults) (isTrial : Bool) (e : EndedPass) :
    Pass :=
  e.plan.across config faults isTrial e.seen e.found e.cache

/-- The databases that there were, when some passes have ended. -/
def databasesOf (config : Configuration) (faults : Faults) (isTrial : Bool) (start : Database)
    (ended : List EndedPass) : List Database :=
  start :: ended.map fun e => (e.pass config faults isTrial).db

/-- The results of passes that have ended. -/
def resultsOf (config : Configuration) (faults : Faults) (isTrial : Bool)
    (ended : List EndedPass) : List RepositoryResult :=
  ended.map fun e => (e.pass config faults isTrial).result

/-- Passes that ended one after the other lead from one database to another. Each has read one of
the databases that there were, and its discovery has found a cache that was handed on. -/
inductive Succession (config : Configuration) (faults : Faults) (isTrial : Bool)
    (plans : PassPlan → Prop) (first : Cache) (start : Database) :
    List EndedPass → Database → Prop
  | nil : Succession config faults isTrial plans first start [] start
  | concat {ended : List EndedPass} {e : EndedPass}
      (h : Succession config faults isTrial plans first start ended e.found)
      (hseen : e.seen ∈ databasesOf config faults isTrial start ended) (hplan : plans e.plan)
      (hcache : HandedOn config plans first e.cache) :
      Succession config faults isTrial plans first start (ended ++ [e])
        (e.pass config faults isTrial).db

theorem databasesOf_append (ended later : List EndedPass) :
    databasesOf config faults isTrial start (ended ++ later) =
      databasesOf config faults isTrial start ended ++
        later.map fun e => (e.pass config faults isTrial).db := by
  rw [databasesOf, List.map_append, ← List.cons_append, ← databasesOf]

theorem resultsOf_append (ended later : List EndedPass) :
    resultsOf config faults isTrial (ended ++ later) =
      resultsOf config faults isTrial ended ++ resultsOf config faults isTrial later :=
  List.map_append

namespace Succession

/-- The present database is one of those that there were. -/
theorem mem_databasesOf (h : Succession config faults isTrial plans first start ended db) :
    db ∈ databasesOf config faults isTrial start ended := by
  cases h with
  | nil => exact List.mem_singleton_self _
  | concat =>
    rw [databasesOf_append]
    exact List.mem_append_right _ (List.mem_singleton_self _)

theorem mono {plans' : PassPlan → Prop}
    (h : Succession config faults isTrial plans first start ended db)
    (hplans : ∀ plan, plans plan → plans' plan) :
    Succession config faults isTrial plans' first start ended db := by
  induction h with
  | nil => exact .nil
  | concat _ hseen hplan hcache ih => exact ih.concat hseen (hplans _ hplan) (hcache.mono hplans)

/-- Two successions, of which the second begins where the first has led. -/
theorem append {db' : Database} {later : List EndedPass}
    (h : Succession config faults isTrial plans first start ended db)
    (hcache : HandedOn config plans first cache)
    (hlater : Succession config faults isTrial plans cache db later db') :
    Succession config faults isTrial plans first start (ended ++ later) db' := by
  induction hlater with
  | nil => rwa [List.append_nil]
  | @concat later e _ hseen hplan hfound ih =>
    rw [← List.append_assoc]
    refine ih.concat ?_ hplan (hcache.trans hfound)
    rw [databasesOf_append, List.mem_append]
    rcases List.mem_cons.1 hseen with hseen | hseen
    · exact .inl (hseen ▸ h.mem_databasesOf)
    · exact .inr hseen

/-- Passes that ended one after the other keep what their steps keep, and each has found it. -/
theorem holds (B : PassBounds config faults plans)
    (h : Succession config faults isTrial plans first start ended db) (hfirst : B.cache first)
    (hstart : B.database start) :
    (∀ d ∈ databasesOf config faults isTrial start ended, B.database d) ∧
      ∀ e ∈ ended, plans e.plan ∧ B.database e.seen ∧ B.database e.found ∧ B.cache e.cache := by
  induction h with
  | nil => exact ⟨List.forall_mem_singleton.2 hstart, List.forall_mem_nil _⟩
  | @concat ended e hbefore hseen hplan hcache ih =>
    obtain ⟨hdatabases, hended⟩ := ih
    have hfound : B.database e.found := hdatabases _ hbefore.mem_databasesOf
    refine ⟨?_, List.forall_mem_append.2 ⟨hended, List.forall_mem_singleton.2
      ⟨hplan, hdatabases _ hseen, hfound, hcache.holds B hfirst⟩⟩⟩
    rw [databasesOf_append]
    exact List.forall_mem_append.2 ⟨hdatabases, List.forall_mem_singleton.2
      (B.across_db_holds hplan hfound)⟩

end Succession

/-! ### What steps find -/

/-- The pass with what it finds when it takes a step. -/
def EndedPass.watch (e : EndedPass) (s : Shared) : PassStage → EndedPass
  | .planned => { e with seen := s.db, found := s.db, cache := s.cache }
  | .discovered .. => { e with seen := s.db, found := s.db }
  | .detected .. => { e with found := s.db }

/-- The passes without what they have found. -/
def unwatched (pending : List (EndedPass × PassStage)) : List (PassPlan × PassStage) :=
  pending.map fun (e, stage) => (e.plan, stage)

/-- The passes that are left after one step of the pass at a position, and that pass if it is over.
-/
def watchAt (config : Configuration) (faults : Faults) (isTrial : Bool) (s : Shared) :
    Nat → List (EndedPass × PassStage) → List (EndedPass × PassStage) × List EndedPass
  | _, [] => ([], [])
  | 0, (e, stage) :: rest =>
    match (e.plan.advance config faults isTrial s stage).1 with
    | some next => ((e.watch s stage, next) :: rest, [])
    | none => (rest, [e.watch s stage])
  | k + 1, pass :: rest =>
    let (rest, finished) := watchAt config faults isTrial s k rest
    (pass :: rest, finished)

/-- The passes that are over after the steps of several passes, in the order in which they end. -/
def watchAll (config : Configuration) (faults : Faults) (isTrial : Bool) :
    List Nat → List (EndedPass × PassStage) → Shared → List EndedPass
  | [], _, _ => []
  | k :: steps, pending, s =>
    let (later, finished) := watchAt config faults isTrial s k pending
    finished ++ watchAll config faults isTrial steps later
      (advanceAt config faults isTrial k (unwatched pending) s).2

/-- The passes of `passesTogether` with what their steps found, in the order in which they end. -/
def passesWatched (config : Configuration) (faults : Faults) (isTrial : Bool)
    (schedule : List Nat) (plans : List PassPlan) (s : Shared) : List EndedPass :=
  let steps := schedule.filter (· < config.maxConcurrentRepos) ++ .replicate (3 * plans.length) 0
  let pending := plans.map fun plan => ({ plan, seen := s.db, found := s.db, cache := s.cache },
    .planned)
  watchAll config faults isTrial steps pending s

@[simp] theorem EndedPass.plan_watch (e : EndedPass) (s : Shared) (stage : PassStage) :
    (e.watch s stage).plan = e.plan := by
  cases stage <;> rfl

/-- The passes take the same step, whether they are watched or not. -/
theorem unwatched_watchAt (k : Nat) (pending : List (EndedPass × PassStage)) (s : Shared) :
    unwatched (watchAt config faults isTrial s k pending).1 =
      (advanceAt config faults isTrial k (unwatched pending) s).1 := by
  induction pending generalizing k with
  | nil => simp only [watchAt, unwatched, List.map_nil, advanceAt]
  | cons pass rest ih =>
    cases k with
    | zero =>
      obtain ⟨e, stage⟩ := pass
      simp only [unwatched, List.map_cons, watchAt, advanceAt]
      rcases e.plan.advance config faults isTrial s stage with ⟨_ | next, s'⟩
      · rfl
      · simp only [List.map_cons, EndedPass.plan_watch]
    | succ k => exact congrArg ((pass.1.plan, pass.2) :: ·) (ih k)

/-! ### Passes that overlap -/

/-- Nothing was done for the pass yet, or its steps found a cache that was handed on and one of the
databases that there were. -/
def Pending (config : Configuration) (faults : Faults) (plans : PassPlan → Prop) (first : Cache)
    (databases : List Database) (pass : EndedPass × PassStage) : Prop :=
  plans pass.1.plan ∧ (pass.2 = .planned ∨
    HandedOn config plans first pass.1.cache ∧ pass.1.seen ∈ databases ∧
      pass.1.plan.At config faults pass.1.cache pass.1.seen pass.2)

theorem Pending.mono {databases later : List Database} {pass : EndedPass × PassStage}
    (h : Pending config faults plans first databases pass) (hle : databases ⊆ later) :
    Pending config faults plans first later pass := by
  obtain ⟨hplan, hplanned | ⟨hcache, hseen, hat⟩⟩ := h
  · exact ⟨hplan, .inl hplanned⟩
  · exact ⟨hplan, .inr ⟨hcache, hle hseen, hat⟩⟩

/-- Some passes have ended and the others are pending. -/
structure PartlyEnded (config : Configuration) (faults : Faults) (isTrial : Bool)
    (plans : PassPlan → Prop) (first : Cache) (start : Database) (ended : List EndedPass)
    (pending : List (EndedPass × PassStage)) (s : Shared) : Prop where
  succession : Succession config faults isTrial plans first start ended s.db
  cache : HandedOn config plans first s.cache
  results : s.results = resultsOf config faults isTrial ended
  pending : ∀ pass ∈ pending,
    Pending config faults plans first (databasesOf config faults isTrial start ended) pass

/-- What a step makes of the shared state when the pass goes on. -/
structure GoesOn (config : Configuration) (plans : PassPlan → Prop) (first : Cache)
    (s s' : Shared) : Prop where
  db_eq : s'.db = s.db
  cache : HandedOn config plans first s'.cache
  results_eq : s'.results = s.results

/-- What a step makes of the shared state when it ends the pass. -/
structure EndsWith (config : Configuration) (faults : Faults) (isTrial : Bool)
    (plans : PassPlan → Prop) (first : Cache) (e : EndedPass) (s s' : Shared) : Prop where
  found_eq : e.found = s.db
  found : HandedOn config plans first e.cache
  db_eq : s'.db = (e.pass config faults isTrial).db
  cache : HandedOn config plans first s'.cache
  results_eq : s'.results = s.results ++ [(e.pass config faults isTrial).result]

/-- One step of a pass that is pending leaves it pending, or ends it. -/
theorem EndedPass.advance_or_ends (isTrial : Bool) {databases : List Database} {e : EndedPass}
    {stage : PassStage} {s : Shared}
    (hstage : Pending config faults plans first databases (e, stage)) (hdb : s.db ∈ databases)
    (hcache : HandedOn config plans first s.cache) :
    (∃ next s', e.plan.advance config faults isTrial s stage = (some next, s') ∧
      Pending config faults plans first databases (e.watch s stage, next) ∧
        GoesOn config plans first s s') ∨
    ∃ s', e.plan.advance config faults isTrial s stage = (none, s') ∧
      (e.watch s stage).seen ∈ databases ∧
        EndsWith config faults isTrial plans first (e.watch s stage) s s' := by
  obtain ⟨hplan, hstage⟩ := hstage
  cases stage with
  | planned =>
    obtain ⟨result, ⟨hstep, hend⟩ | ⟨findings, hstep, hat⟩⟩ :=
      e.plan.advance_planned config faults isTrial s
    · refine .inr ⟨_, hstep, hdb, rfl, hcache, ?_, hcache.discover hplan, ?_⟩
      · exact ((hend s.db).db_eq s.db).symm
      · rw [watch, EndedPass.pass, (hend s.db).result_eq s.db]
    · exact .inl ⟨_, _, hstep, ⟨hplan, .inr ⟨hcache, hdb, hat s.db⟩⟩, rfl, hcache.discover hplan,
        rfl⟩
  | discovered result findings =>
    obtain ⟨hfound, -, hat⟩ := hstage.resolve_left PassStage.noConfusion
    obtain ⟨changes, hstep, hlater⟩ | ⟨result', hstep, hend⟩ := hat.advance_discovered isTrial s
    · exact .inl ⟨_, _, hstep, ⟨hplan, .inr ⟨hfound, hdb, hlater⟩⟩, rfl, hcache, rfl⟩
    · refine .inr ⟨_, hstep, hdb, rfl, hfound, ?_, hcache, ?_⟩
      · exact (hend.db_eq s.db).symm
      · rw [watch, EndedPass.pass, hend.result_eq s.db]
  | detected result changes =>
    obtain ⟨hfound, hseen, hat⟩ := hstage.resolve_left PassStage.noConfusion
    obtain ⟨later, hlater, hstep⟩ := hat.advance_detected isTrial s
    refine .inr ⟨_, hstep, hseen, rfl, hfound, rfl, ?_, rfl⟩
    rcases hlater with rfl | rfl
    · exact hcache
    · exact hcache.drop _

namespace PartlyEnded

variable {pending : List (EndedPass × PassStage)} {s : Shared}

/-- One more pass has ended. -/
theorem concat (h : PartlyEnded config faults isTrial plans first start ended pending s)
    {e : EndedPass} {s' : Shared} (hplan : plans e.plan)
    (hseen : e.seen ∈ databasesOf config faults isTrial start ended)
    (hends : EndsWith config faults isTrial plans first e s s') :
    PartlyEnded config faults isTrial plans first start (ended ++ [e]) pending s' where
  succession := by
    rw [hends.db_eq]
    exact (hends.found_eq ▸ h.succession).concat hseen hplan hends.found
  cache := hends.cache
  results := by
    rw [hends.results_eq, h.results, resultsOf_append]
    rfl
  pending pass hpass := (h.pending pass hpass).mono (by
    rw [databasesOf_append]
    exact List.subset_append_left _ _)

/-- One step of the pass at a position. No plan is lost. -/
theorem advanceAt (k : Nat)
    (h : PartlyEnded config faults isTrial plans first start ended pending s) :
    let after := watchAt config faults isTrial s k pending
    PartlyEnded config faults isTrial plans first start (ended ++ after.2) after.1
        (PullWatch.advanceAt config faults isTrial k (unwatched pending) s).2 ∧
      (after.2.map (·.plan) ++ after.1.map (·.1.plan)).Perm (pending.map (·.1.plan)) := by
  induction pending generalizing k with
  | nil =>
    simp only [watchAt, unwatched, List.map_nil, PullWatch.advanceAt, List.append_nil]
    exact ⟨h, .refl _⟩
  | cons next rest ih =>
    obtain ⟨hnext, hpending⟩ := List.forall_mem_cons.1 h.pending
    have hrest : PartlyEnded config faults isTrial plans first start ended rest s :=
      { h with pending := hpending }
    cases k with
    | zero =>
      obtain ⟨e, stage⟩ := next
      simp only [unwatched, List.map_cons, PullWatch.advanceAt, watchAt]
      obtain ⟨later, s', hstep, hlater, hgoes⟩ | ⟨s', hstep, hseen, hends⟩ :=
        EndedPass.advance_or_ends isTrial hnext h.succession.mem_databasesOf h.cache
      · simp only [hstep, List.append_nil, List.map_cons, EndedPass.plan_watch]
        exact ⟨⟨hgoes.db_eq ▸ h.succession, hgoes.cache, hgoes.results_eq.trans h.results,
          List.forall_mem_cons.2 ⟨hlater, hpending⟩⟩, .refl _⟩
      · have hplan : plans (e.watch s stage).plan := by
          rw [EndedPass.plan_watch]
          exact hnext.1
        simp only [hstep, List.map_cons, List.map_nil, EndedPass.plan_watch]
        exact ⟨hrest.concat hplan hseen hends, .refl _⟩
    | succ k =>
      obtain ⟨hafter, hperm⟩ := ih k hrest
      refine ⟨{ hafter with pending := List.forall_mem_cons.2 ⟨hnext.mono ?_, hafter.pending⟩ },
        List.perm_middle.trans (hperm.cons next.1.plan)⟩
      rw [databasesOf_append]
      exact List.subset_append_left _ _

/-- Steps of several passes. -/
theorem advanceAll (steps : List Nat)
    (h : PartlyEnded config faults isTrial plans first start ended pending s) :
    let after := PullWatch.advanceAll config faults isTrial steps (unwatched pending) s
    let finished := watchAll config faults isTrial steps pending s
    ∃ later, unwatched later = after.1 ∧
      PartlyEnded config faults isTrial plans first start (ended ++ finished) later after.2 ∧
        (finished.map (·.plan) ++ later.map (·.1.plan)).Perm (pending.map (·.1.plan)) := by
  induction steps generalizing ended pending s with
  | nil =>
    refine ⟨pending, rfl, ?_, .refl _⟩
    rwa [watchAll, List.append_nil]
  | cons k steps ih =>
    obtain ⟨hfirst, hfirstPerm⟩ := h.advanceAt k
    obtain ⟨later, hlater, hrest, hrestPerm⟩ := ih hfirst
    rw [unwatched_watchAt] at hlater hrest
    refine ⟨later, hlater, ?_, ?_⟩
    · rw [watchAll, ← List.append_assoc]
      exact hrest
    · rw [watchAll, List.map_append, List.append_assoc]
      exact (hrestPerm.append_left _).trans hfirstPerm

end PartlyEnded

/-- Passes that overlap are a succession, and each of them ends once. -/
theorem passesTogether_succession (config : Configuration) (faults : Faults) (isTrial : Bool)
    (schedule : List Nat) {planned : List PassPlan} (s : Shared) (hresults : s.results = [])
    (hplans : ∀ plan ∈ planned, plans plan) :
    let after := passesTogether config faults isTrial schedule planned s
    let ended := passesWatched config faults isTrial schedule planned s
    Succession config faults isTrial plans s.cache s.db ended after.db ∧
      HandedOn config plans s.cache after.cache ∧
      after.results = resultsOf config faults isTrial ended ∧
      (ended.map (·.plan)).Perm planned := by
  set pending : List (EndedPass × PassStage) := planned.map fun plan =>
    ({ plan, seen := s.db, found := s.db, cache := s.cache }, .planned) with hpending
  have hstart : PartlyEnded config faults isTrial plans s.cache s.db [] pending s := by
    refine ⟨.nil, .first, hresults, fun pass hpass => ?_⟩
    obtain ⟨plan, hplan, rfl⟩ := List.mem_map.1 hpass
    exact ⟨hplans plan hplan, .inl rfl⟩
  have hunwatched : unwatched pending = planned.map (·, .planned) := by
    rw [unwatched, hpending, List.map_map]
    rfl
  have hall : pending.map (·.1.plan) = planned := by
    rw [hpending, List.map_map]
    exact List.map_id planned
  obtain ⟨later, hlater, hended, hperm⟩ := hstart.advanceAll
    (schedule.filter (· < config.maxConcurrentRepos) ++ .replicate (3 * planned.length) 0)
  rw [hunwatched] at hlater hended
  -- all passes are over after these steps
  rw [advanceAll_ends, unwatched, List.map_eq_nil_iff] at hlater
  rw [hlater, List.map_nil, List.append_nil, hall] at hperm
  exact ⟨hended.succession, hended.cache, hended.results, hperm⟩

end PullWatch
