import PullWatch.Proofs.Overlap
import PullWatch.Proofs.Reachable

/-!
# Passes that overlap and passes in turn

Two passes over one repository that overlap end as if one had been made after the other, given the
caches that their discoveries have found. There is one exception: both have read the database before
either wrote to it, both have found changes, and the one that writes last would have found others
after the first had written. Its changes are then written on top, unless they add a record that the
first has added.

## Main definitions

* `FoundCaches`: the caches that the discoveries of two passes find.
* `PassPlan.Writes`: a pass that has found changes.
* `Ended`: how two passes end, by the database that the second has read.
* `Stale`: both have found changes before either wrote, and one would have found others afterwards.

## Main results

* `PassesSoFar.advanceAll`: what the steps of two passes keep.
* `Stale.rolledBack_iff`: when the second of two such passes is rolled back.
* `passes_serial_or_stale`: how two passes end, whatever the order of their steps.
-/

namespace PullWatch

variable {config : Configuration} {faults : Faults} {p q x y : PassPlan}

/-! ### The caches that two passes find -/

/-- What there is of a cache after a pass has looked into it. The pass may be over, and may have
dropped what is held for its repository. -/
inductive PassPlan.Leaves (plan : PassPlan) (config : Configuration) (cache : Cache) : Cache → Prop
  | kept : Leaves plan config cache (plan.cacheAfter config cache)
  | dropped : Leaves plan config cache
      ((plan.cacheAfter config cache).dropRepository plan.repo.id).2

/-- The caches that the discoveries of two passes find: one finds the cache from before, and the
other what the first has left. -/
inductive FoundCaches (config : Configuration) (x y : PassPlan) (start : Cache) :
    Cache → Cache → Prop
  | left {later : Cache} (h : x.Leaves config start later) :
      FoundCaches config x y start start later
  | right {later : Cache} (h : y.Leaves config start later) :
      FoundCaches config x y start later start

/-- The caches that two passes have found, as far as they have looked, and the cache there is now.
-/
inductive CachesSoFar (config : Configuration) (x y : PassPlan) (start now : Cache) :
    Option Cache → Option Cache → Prop
  | neither (h : now = start) : CachesSoFar config x y start now none none
  | left (h : x.Leaves config start now) : CachesSoFar config x y start now (some start) none
  | right (h : y.Leaves config start now) : CachesSoFar config x y start now none (some start)
  | both {c c' : Cache} (h : FoundCaches config x y start c c') :
      CachesSoFar config x y start now (some c) (some c')

section Caches

variable {start now : Cache} {c c' : Option Cache}

theorem Cache.dropRepository_dropRepository (cache : Cache) (id : Int) :
    ((cache.dropRepository id).2.dropRepository id).2 = (cache.dropRepository id).2 := by
  simp [dropRepository, List.filter_filter]

theorem PassPlan.Leaves.drop (h : x.Leaves config start now) :
    x.Leaves config start (now.dropRepository x.repo.id).2 := by
  cases h with
  | kept => exact .dropped
  | dropped =>
    rw [Cache.dropRepository_dropRepository]
    exact .dropped

theorem FoundCaches.swap {c c' : Cache} (h : FoundCaches config x y start c c') :
    FoundCaches config y x start c' c := by
  cases h with
  | left h => exact .right h
  | right h => exact .left h

namespace CachesSoFar

theorem swap (h : CachesSoFar config x y start now c c') :
    CachesSoFar config y x start now c' c := by
  cases h with
  | neither h => exact .neither h
  | left h => exact .right h
  | right h => exact .left h
  | both h => exact .both h.swap

/-- A pass looks into the cache there is now. -/
theorem look (h : CachesSoFar config x y start now none c') :
    CachesSoFar config x y start (x.cacheAfter config now) (some now) c' := by
  cases h with
  | neither h =>
    rw [h]
    exact .left .kept
  | right h => exact .both (.right h)

/-- A pass that has looked may drop what is held for its repository. -/
theorem drop {c : Cache} (h : CachesSoFar config x y start now (some c) c') :
    CachesSoFar config x y start (now.dropRepository x.repo.id).2 (some c) c' := by
  cases h with
  | left h => exact .left h.drop
  | both h => exact .both h

end CachesSoFar

end Caches

/-! ### How far two passes have come -/

/-- The planned pass, from a cache and a database that nothing else changes meanwhile. -/
def PassPlan.run (plan : PassPlan) (config : Configuration) (faults : Faults) (db : Database)
    (cache : Cache) : Pass :=
  runPass plan.service config faults plan.now plan.repo plan.since false db cache

theorem PassPlan.run_eq (plan : PassPlan) (db : Database) (cache : Cache) :
    plan.run config faults db cache = plan.across config faults false db db cache :=
  runPass_eq

theorem PassPlan.EndedEarly.run_result {seen : Database} {cache : Cache} {result : RepositoryResult}
    (h : x.EndedEarly config faults false seen cache result) :
    (x.run config faults seen cache).result = result := x.run_eq seen cache ▸ h.result_eq seen

theorem PassPlan.EndedEarly.run_db {seen : Database} {cache : Cache} {result : RepositoryResult}
    (h : x.EndedEarly config faults false seen cache result) :
    (x.run config faults seen cache).db = seen := x.run_eq seen cache ▸ h.db_eq seen

/-- The stage of a pass, by the cache that its discovery has found and the database that its
detection has read, as far as it has. -/
inductive PassPlan.Stands (plan : PassPlan) (config : Configuration) (faults : Faults)
    (seen : Database) : Option Cache → PassStage → Prop
  | planned : Stands plan config faults seen none .planned
  | begun {cache : Cache} {stage : PassStage} (h : plan.At config faults cache seen stage) :
      Stands plan config faults seen (some cache) stage

/-- Neither of two passes is over, and nothing has been written. -/
structure Underway (config : Configuration) (faults : Faults) (start : Shared) (x y : PassPlan)
    (a b : PassStage) (s : Shared) : Prop where
  db : s.db = start.db
  results : s.results = start.results
  stands : ∃ c c', CachesSoFar config x y start.cache s.cache c c' ∧
    x.Stands config faults start.db c a ∧ y.Stands config faults start.db c' b

/-- The first of two passes is over, and the second is not. It has read the database from before, or
it will have read what the first has left. -/
def HalfOver (config : Configuration) (faults : Faults) (start : Shared) (x y : PassPlan)
    (b : PassStage) (s : Shared) : Prop :=
  ∃ c c' seen, CachesSoFar config x y start.cache s.cache (some c) c' ∧
    y.Stands config faults seen c' b ∧ (seen = s.db ∨ seen = start.db) ∧
    s.db = (x.run config faults start.db c).db ∧
    s.results = start.results ++ [(x.run config faults start.db c).result]

/-- Two passes have ended. The first was made as if it were alone. The second has read the database
`seen`, and its transaction has found what the first had left. -/
structure Ended (config : Configuration) (faults : Faults) (first second : PassPlan)
    (c₁ c₂ : Cache) (seen : Database) (start t : Shared) : Prop where
  db : t.db = (second.across config faults false seen
    (first.run config faults start.db c₁).db c₂).db
  results : t.results.Perm (start.results ++ [(first.run config faults start.db c₁).result,
    (second.across config faults false seen (first.run config faults start.db c₁).db c₂).result])

section Steps

variable {start s : Shared} {a b : PassStage}

theorem Underway.swap (h : Underway config faults start x y a b s) :
    Underway config faults start y x b a s := by
  obtain ⟨hdb, hresults, c, c', hcaches, hx, hy⟩ := h
  exact ⟨hdb, hresults, c', c, hcaches.swap, hy, hx⟩

/-- A step of a pass takes it further, or is its last. -/
theorem Underway.advance (h : Underway config faults start x y a b s) :
    (∃ a' s', x.advance config faults false s a = (some a', s') ∧
      Underway config faults start x y a' b s') ∨
    ∃ s', x.advance config faults false s a = (none, s') ∧
      HalfOver config faults start x y b s' := by
  obtain ⟨hdb, hresults, c, c', hcaches, hx, hy⟩ := h
  cases hx with
  | planned =>
    obtain ⟨result, ⟨hstep, hend⟩ | ⟨findings, hstep, hat⟩⟩ :=
      x.advance_planned config faults false s
    · refine .inr ⟨_, hstep, s.cache, c', start.db, hcaches.look, hy, .inr rfl, ?_, ?_⟩
      · rw [(hend start.db).run_db, hdb]
      · rw [(hend start.db).run_result, hresults]
    · exact .inl ⟨_, _, hstep, hdb, hresults, _, c', hcaches.look, .begun (hat start.db), hy⟩
  | @begun cache _ hat =>
    cases a with
    | planned => cases hat
    | discovered result findings =>
      obtain ⟨changes, hstep, hlater⟩ | ⟨result', hstep, hend⟩ := hat.advance_discovered false s
      · rw [hdb] at hlater
        exact .inl ⟨_, _, hstep, hdb, hresults, _, c', hcaches, .begun hlater, hy⟩
      · rw [hdb] at hend
        refine .inr ⟨_, hstep, cache, c', start.db, hcaches, hy, .inr rfl, ?_, ?_⟩
        · rw [hend.run_db, hdb]
        · rw [hend.run_result, hresults]
    | detected result changes =>
      obtain ⟨later, hlater, hstep⟩ := hat.advance_detected false s
      have hcaches' : CachesSoFar config x y start.cache later (some cache) c' := by
        rcases hlater with rfl | rfl
        · exact hcaches
        · exact hcaches.drop
      refine .inr ⟨_, hstep, cache, c', start.db, hcaches', hy, .inr rfl, ?_, ?_⟩
      · rw [x.run_eq, hdb]
      · rw [x.run_eq, hdb, hresults]

/-- A step of the second pass takes it further, or is its last. -/
theorem HalfOver.advance (h : HalfOver config faults start x y b s) :
    (∃ b' s', y.advance config faults false s b = (some b', s') ∧
      HalfOver config faults start x y b' s') ∨
    ∃ s', y.advance config faults false s b = (none, s') ∧
      ∃ c c' seen, FoundCaches config x y start.cache c c' ∧
        (seen = (x.run config faults start.db c).db ∨ seen = start.db) ∧
        Ended config faults x y c c' seen start s' := by
  obtain ⟨c, c', seen, hcaches, hy, hseen, hdb, hresults⟩ := h
  have hended {c' : Cache} {result : RepositoryResult}
      (hend : y.EndedEarly config faults false s.db c' result) {s' : Shared} (hdb' : s'.db = s.db)
      (hresults' : s'.results = s.results ++ [result]) :
      Ended config faults x y c c' (x.run config faults start.db c).db start s' := by
    rw [hdb] at hend
    constructor
    · rw [hend.db_eq, hdb', hdb]
    · rw [hend.result_eq, hresults', hresults, List.append_assoc]
      exact .refl _
  cases hy with
  | planned =>
    have hboth := hcaches.swap.look.swap
    obtain ⟨result, ⟨hstep, hend⟩ | ⟨findings, hstep, hat⟩⟩ :=
      y.advance_planned config faults false s
    · cases hboth with
      | both hfound =>
        exact .inr ⟨_, hstep, c, s.cache, _, hfound, .inl rfl, hended (hend s.db) rfl rfl⟩
    · exact .inl ⟨_, _, hstep, c, _, seen, hboth, .begun (hat seen), hseen, hdb, hresults⟩
  | @begun cache _ hat =>
    have hfound : FoundCaches config x y start.cache c cache := by
      cases hcaches with
      | both hfound => exact hfound
    cases b with
    | planned => cases hat
    | discovered result findings =>
      obtain ⟨changes, hstep, hlater⟩ | ⟨result', hstep, hend⟩ := hat.advance_discovered false s
      · exact .inl ⟨_, _, hstep, c, _, s.db, hcaches, .begun hlater, .inl rfl, hdb, hresults⟩
      · exact .inr ⟨_, hstep, c, cache, _, hfound, .inl rfl, hended hend rfl rfl⟩
    | detected result changes =>
      obtain ⟨later, -, hstep⟩ := hat.advance_detected false s
      refine .inr ⟨_, hstep, c, cache, seen, hfound, hdb ▸ hseen, ?_, ?_⟩
      · rw [hdb]
      · rw [hdb, hresults, List.append_assoc]
        exact .refl _

/-- How far two passes have come, of which either may have ended first. -/
inductive PassesSoFar (config : Configuration) (faults : Faults) (p q : PassPlan) (start : Shared) :
    List (PassPlan × PassStage) → Shared → Prop
  | underway {a b : PassStage} {s : Shared} (h : Underway config faults start p q a b s) :
      PassesSoFar config faults p q start [(p, a), (q, b)] s
  | halfOver {x y : PassPlan} {b : PassStage} {s : Shared}
      (horder : x = p ∧ y = q ∨ x = q ∧ y = p) (h : HalfOver config faults start x y b s) :
      PassesSoFar config faults p q start [(y, b)] s
  | ended {x y : PassPlan} {c c' : Cache} {seen : Database} {s : Shared}
      (horder : x = p ∧ y = q ∨ x = q ∧ y = p) (hcaches : FoundCaches config x y start.cache c c')
      (hseen : seen = (x.run config faults start.db c).db ∨ seen = start.db)
      (h : Ended config faults x y c c' seen start s) : PassesSoFar config faults p q start [] s

namespace PassesSoFar

variable {passes : List (PassPlan × PassStage)}

theorem advanceAt (k : Nat) (h : PassesSoFar config faults p q start passes s) :
    PassesSoFar config faults p q start (PullWatch.advanceAt config faults false k passes s).1
      (PullWatch.advanceAt config faults false k passes s).2 := by
  cases h with
  | underway h =>
    rcases k with _ | _ | k
    · -- the first pass takes a step
      rw [PullWatch.advanceAt]
      obtain ⟨a', s', hstep, h'⟩ | ⟨s', hstep, h'⟩ := h.advance
      · rw [hstep]
        exact .underway h'
      · rw [hstep]
        exact .halfOver (.inl ⟨rfl, rfl⟩) h'
    · -- the second pass takes a step
      rw [PullWatch.advanceAt, PullWatch.advanceAt]
      obtain ⟨b', s', hstep, h'⟩ | ⟨s', hstep, h'⟩ := h.swap.advance
      · rw [hstep]
        exact .underway h'.swap
      · rw [hstep]
        exact .halfOver (.inr ⟨rfl, rfl⟩) h'
    · -- there is no third pass
      rw [PullWatch.advanceAt, PullWatch.advanceAt, PullWatch.advanceAt]
      exact .underway h
  | halfOver horder h =>
    rcases k with _ | k
    · rw [PullWatch.advanceAt]
      obtain ⟨b', s', hstep, h'⟩ | ⟨s', hstep, c, c', seen, hcaches, hseen, h'⟩ := h.advance
      · rw [hstep]
        exact .halfOver horder h'
      · rw [hstep]
        exact .ended horder hcaches hseen h'
    · rw [PullWatch.advanceAt, PullWatch.advanceAt]
      exact .halfOver horder h
  | ended horder hcaches hseen h =>
    rw [PullWatch.advanceAt]
    exact .ended horder hcaches hseen h

theorem advanceAll (steps : List Nat) (h : PassesSoFar config faults p q start passes s) :
    PassesSoFar config faults p q start (PullWatch.advanceAll config faults false steps passes s).1
      (PullWatch.advanceAll config faults false steps passes s).2 := by
  induction steps generalizing passes s with
  | nil => exact h
  | cons k steps ih => exact ih (h.advanceAt k)

end PassesSoFar

/-- Whatever order two passes take their steps in, they end, each as if it were alone but for the
caches that they find and the database that the second has read. -/
theorem exists_ended (config : Configuration) (faults : Faults) (p q : PassPlan) (start : Shared)
    (steps : List Nat) :
    ∃ t x y c c' seen,
      advanceAll config faults false (steps ++ .replicate 6 0) [(p, .planned), (q, .planned)]
          start = ([], t) ∧
        (x = p ∧ y = q ∨ x = q ∧ y = p) ∧ FoundCaches config x y start.cache c c' ∧
        (seen = (x.run config faults start.db c).db ∨ seen = start.db) ∧
        Ended config faults x y c c' seen start t := by
  have hprogress : PassesSoFar config faults p q start [(p, .planned), (q, .planned)] start :=
    .underway ⟨rfl, rfl, none, none, .neither rfl, .planned, .planned⟩
  have hover := hprogress.advanceAll (steps ++ .replicate 6 0)
  have hends : (advanceAll config faults false (steps ++ .replicate 6 0)
    [(p, .planned), (q, .planned)] start).1 = [] := advanceAll_ends steps [p, q] start
  rw [hends] at hover
  cases hover with
  | ended horder hcaches hseen h =>
    exact ⟨_, _, _, _, _, _, Prod.ext hends rfl, horder, hcaches, hseen, h⟩

end Steps

/-! ### Changes found before the other pass wrote -/

/-- The pass has found changes, comparing what its discovery brought with the database `seen`. -/
structure PassPlan.Writes (plan : PassPlan) (config : Configuration) (faults : Faults)
    (seen : Database) (cache : Cache) (f : Findings) (changes : ChangeSet) : Prop where
  discovers : (discover plan.service config plan.now plan.repo plan.since cache).1 = .ok f
  detects : detect seen faults plan.repo.id f = .ok changes
  hasChanges : changes.hasChanges = true

/-- Two passes have ended that had both found changes before either wrote. The changes of the first
were written. Those of the second, which are not what it would have found then, were written on top
or rolled back. -/
structure Stale (config : Configuration) (faults : Faults) (first second : PassPlan) (c₁ c₂ : Cache)
    (f₁ f₂ : Findings) (changes₁ changes₂ : ChangeSet) (start t : Shared) : Prop where
  found₁ : first.Writes config faults start.db c₁ f₁ changes₁
  found₂ : second.Writes config faults start.db c₂ f₂ changes₂
  written : ∃ n, synchronize faults config.syncChunkSize first.repo.id first.now.time changes₁
    start.db = .ok (n, (first.run config faults start.db c₁).db)
  outdated : detect (first.run config faults start.db c₁).db faults second.repo.id f₂ ≠ .ok changes₂
  ended : Ended config faults first second c₁ c₂ start.db start t
  outcome : (∃ n, synchronize faults config.syncChunkSize second.repo.id second.now.time changes₂
      (first.run config faults start.db c₁).db = .ok (n, t.db)) ∨
    t.db = (first.run config faults start.db c₁).db ∧
      (second.across config faults false start.db (first.run config faults start.db c₁).db
        c₂).result.failedPhase = some .synchronizationFailure

section Stale

variable {start t : Shared} {seen db : Database} {cache c c' c₁ c₂ : Cache} {f f₁ f₂ : Findings}
  {changes changes₁ changes₂ : ChangeSet}

/-- A pass does not reach its transaction, or it has found changes. -/
theorem PassPlan.endedEarly_or_writes (plan : PassPlan) (config : Configuration) (faults : Faults)
    (seen : Database) (cache : Cache) :
    (∃ result, plan.EndedEarly config faults false seen cache result) ∨
      ∃ f changes, plan.Writes config faults seen cache f changes := by
  have hended (h : ∀ db, (plan.across config faults false seen db cache).result =
      (plan.across config faults false seen seen cache).result ∧
        (plan.across config faults false seen db cache).db = db) :
      ∃ result, plan.EndedEarly config faults false seen cache result :=
    ⟨_, fun db => (h db).1, fun db => (h db).2⟩
  simp only [across, runPassAcross] at hended
  rcases hdiscover : discover plan.service config plan.now plan.repo plan.since cache with
    ⟨problems | f, later, calls⟩
  · rw [hdiscover] at hended
    exact .inl (hended fun db => ⟨rfl, rfl⟩)
  · rw [hdiscover] at hended
    cases hdetect : detect seen faults plan.repo.id f with
    | error failure =>
      simp only [hdetect] at hended
      exact .inl (hended fun db => ⟨trivial, trivial⟩)
    | ok changes =>
      cases hchanges : changes.hasChanges with
      | true => exact .inr ⟨f, changes, by rw [hdiscover], hdetect, hchanges⟩
      | false =>
        simp only [hdetect, finishPass, hchanges] at hended
        exact .inl (hended fun db => ⟨rfl, rfl⟩)

/-- A pass that would have found the same changes in another database might have read that one. -/
theorem PassPlan.Writes.across_congr (h : x.Writes config faults seen cache f changes)
    {other : Database} (hother : detect other faults x.repo.id f = .ok changes) (db : Database) :
    x.across config faults false seen db cache = x.across config faults false other db cache := by
  rw [across, across, runPassAcross, runPassAcross]
  have hdiscovers := h.discovers
  rcases hdiscover : discover x.service config x.now x.repo x.since cache with ⟨_, later, calls⟩
  rw [hdiscover] at hdiscovers
  obtain rfl : _ = Except.ok f := hdiscovers
  simp only [h.detects, hother]

/-- A pass that has found changes writes them, or is rolled back. -/
theorem PassPlan.Writes.across_db (h : x.Writes config faults seen cache f changes)
    (db : Database) :
    (∃ n, synchronize faults config.syncChunkSize x.repo.id x.now.time changes db =
        .ok (n, (x.across config faults false seen db cache).db)) ∧
      (x.across config faults false seen db cache).result.success = true ∨
    (x.across config faults false seen db cache).db = db ∧
      (x.across config faults false seen db cache).result.failedPhase =
        some .synchronizationFailure := by
  have houtcome : PassOutcome x.service config faults x.now x.repo x.since false seen db cache
      (x.across config faults false seen db cache) := passOutcome_runPassAcross
  cases houtcome with
  | undiscovered hdiscover => cases h.discovers.symm.trans hdiscover
  | undetected hdiscover hdetect =>
    obtain rfl := Except.ok.inj (h.discovers.symm.trans hdiscover)
    cases h.detects.symm.trans hdetect
  | rolledBack hdiscover hdetect _ hwrite hfailed _ _ _ hdb => exact .inr ⟨hdb, hfailed⟩
  | completed hdiscover hdetect _ hsuccess _ hdb =>
    obtain rfl := Except.ok.inj (h.discovers.symm.trans hdiscover)
    obtain rfl := Except.ok.inj (h.detects.symm.trans hdetect)
    rcases hdb with ⟨htrial, -⟩ | ⟨-, hwrite⟩
    · cases htrial
    · exact .inl ⟨hwrite, hsuccess⟩

/-- Passes that have ended have ended in turn, in one order or the other, unless both had found
changes before either wrote, and the second would have found others afterwards. -/
theorem Ended.serial_or_stale (h : Ended config faults x y c c' seen start t)
    (hseen : seen = (x.run config faults start.db c).db ∨ seen = start.db) :
    Ended config faults x y c c' (x.run config faults start.db c).db start t ∨
      Ended config faults y x c' c (y.run config faults start.db c').db start t ∨
      ∃ f₁ f₂ changes₁ changes₂,
        Stale config faults x y c c' f₁ f₂ changes₁ changes₂ start t := by
  obtain rfl | rfl := hseen
  · exact .inl h
  obtain ⟨result, hend⟩ | ⟨f₂, changes₂, hsecond⟩ :=
    y.endedEarly_or_writes config faults start.db c'
  · -- the second pass has not written: it might as well have been made first
    refine .inr (.inl ?_)
    constructor
    · rw [hend.run_db, ← x.run_eq, h.db, hend.db_eq]
    · rw [hend.run_db, ← x.run_eq, hend.run_result]
      have hresults := h.results
      rw [hend.result_eq] at hresults
      exact hresults.trans ((List.Perm.swap _ _ _).append_left _)
  obtain ⟨result, hend⟩ | ⟨f₁, changes₁, hfirst⟩ :=
    x.endedEarly_or_writes config faults start.db c
  · rw [hend.run_db]
    exact .inl h
  obtain ⟨hwrite, -⟩ | ⟨hdb, -⟩ := hfirst.across_db start.db
  · rw [← x.run_eq] at hwrite
    by_cases hsame : detect (x.run config faults start.db c).db faults y.repo.id f₂ = .ok changes₂
    · have hcongr := hsecond.across_congr hsame (x.run config faults start.db c).db
      exact .inl ⟨hcongr ▸ h.db, hcongr ▸ h.results⟩
    refine .inr (.inr ⟨f₁, f₂, changes₁, changes₂, hfirst, hsecond, hwrite, hsame, h, ?_⟩)
    rw [h.db]
    exact (hsecond.across_db _).imp_left And.left
  · -- the first pass was rolled back, so the second has read what it left
    rw [x.run_eq, hdb]
    exact .inl h

/-- A pass that has found changes is rolled back when they cannot be written to the database that
its transaction finds. -/
theorem PassPlan.Writes.rolledBack_iff (h : x.Writes config faults seen cache f changes)
    (db : Database) :
    (x.across config faults false seen db cache).result.failedPhase =
        some .synchronizationFailure ↔
      ¬ ((∃ db', changes.store x.repo.id x.now.time db = .ok db') ∧
        (faults.about x.repo.id).Spare 0 changes.writes) := by
  rw [across, PullWatch.rolledBack_iff, h.discovers]
  simp only [Except.ok.injEq, exists_and_left, exists_eq_left', h.detects]
  exact exists_synchronize_eq_error_iff

/-- The second of two passes that had both found changes before either wrote is rolled back exactly
when a fault strikes it, or together they add a record twice. -/
theorem Stale.rolledBack_iff
    (h : Stale config faults x y c₁ c₂ f₁ f₂ changes₁ changes₂ start t)
    (hsame : x.repo.id = y.repo.id) (hdb : start.db.Sound)
    (hrepository : start.db.repositories.hasId y.repo.id = true) :
    (y.across config faults false start.db (x.run config faults start.db c₁).db
        c₂).result.failedPhase = some .synchronizationFailure ↔
      ¬ (((f₁.newNumbers start.db y.repo.id ++ f₂.newNumbers start.db y.repo.id).Nodup ∧
        (f₁.newCheckKeys start.db y.repo.id ++ f₂.newCheckKeys start.db y.repo.id).Nodup) ∧
        (faults.about y.repo.id).Spare 0 changes₂.writes) := by
  obtain ⟨n, hwrite⟩ := h.written
  have hstore := (synchronize_eq_ok.1 hwrite).1
  obtain ⟨hread₁, rfl⟩ := detect_eq_ok_iff.1 (detect_never h.found₁.detects)
  obtain ⟨hread₂, rfl⟩ := detect_eq_ok_iff.1 (detect_never h.found₂.detects)
  rw [hsame] at hread₁ hstore
  rw [h.found₂.rolledBack_iff,
    Database.store_changesFor_after_iff hdb hrepository hread₁ hread₂ hstore]

end Stale

/-- Two passes that overlap, whatever the order of their steps, end as in turn, in one order or the
other, given the caches that their discoveries found. The exception is that both find changes before
either writes, and the second to write would have found others afterwards. Then the first ends as if
it were alone. The second is rolled back, or it writes what it had found on top of what the first
left. Over the same repository it is rolled back exactly when a fault strikes it or together they
add a record twice. -/
theorem passes_serial_or_stale (config : Configuration) (faults : Faults) (p q : PassPlan)
    (start : Shared) (steps : List Nat) :
    ∃ t first second c₁ c₂,
      advanceAll config faults false (steps ++ .replicate 6 0) [(p, .planned), (q, .planned)]
          start = ([], t) ∧
        (first = p ∧ second = q ∨ first = q ∧ second = p) ∧
        FoundCaches config first second start.cache c₁ c₂ ∧
        (Ended config faults first second c₁ c₂ (first.run config faults start.db c₁).db start t ∨
          ∃ f₁ f₂ changes₁ changes₂,
            Stale config faults first second c₁ c₂ f₁ f₂ changes₁ changes₂ start t ∧
            (first.repo.id = second.repo.id → start.db.Sound →
              start.db.repositories.hasId second.repo.id = true →
                ((second.across config faults false start.db
                    (first.run config faults start.db c₁).db c₂).result.failedPhase =
                      some .synchronizationFailure ↔
                  ¬ (((f₁.newNumbers start.db second.repo.id ++
                      f₂.newNumbers start.db second.repo.id).Nodup ∧
                    (f₁.newCheckKeys start.db second.repo.id ++
                      f₂.newCheckKeys start.db second.repo.id).Nodup) ∧
                    (faults.about second.repo.id).Spare 0 changes₂.writes)))) := by
  obtain ⟨t, x, y, c, c', seen, hrun, horder, hcaches, hseen, hended⟩ :=
    exists_ended config faults p q start steps
  obtain h | h | ⟨f₁, f₂, changes₁, changes₂, h⟩ := hended.serial_or_stale hseen
  · exact ⟨t, x, y, c, c', hrun, horder, hcaches, .inl h⟩
  · exact ⟨t, y, x, c', c, hrun, horder.symm.imp And.symm And.symm, hcaches.swap, .inl h⟩
  · exact ⟨t, x, y, c, c', hrun, horder, hcaches, .inr ⟨f₁, f₂, changes₁, changes₂, h,
      h.rolledBack_iff⟩⟩

/-! ### Two passes over a small repository -/

/-- A pass over the small repository. -/
def samplePlan : PassPlan :=
  { service := sampleService false, now := sampleMoment, repo := sampleRepository, since := none }

/-- What two passes share that have not begun. -/
def sampleShared : Shared := { db := sampleDatabase, cache := sampleCache }

/-- An order of steps in which neither pass is ever ahead by more than one. -/
def sampleSchedule : List Nat := [0, 1, 0, 1, 0, 1]

/-- What is left of two passes that take their steps by turns. -/
def sampleOverlap : Shared :=
  passesTogether {} .never false sampleSchedule [samplePlan, samplePlan] sampleShared

theorem failedPhases_sample :
    sampleOverlap.results.map (·.failedPhase) = [none, some .synchronizationFailure] := by
  decide +kernel

/-- Made in turn, both passes succeed, whatever they find of the cache. -/
theorem not_ended_sample {c₁ c₂ : Cache}
    (hcaches : FoundCaches {} samplePlan samplePlan sampleCache c₁ c₂) :
    ¬ Ended {} .never samplePlan samplePlan c₁ c₂ (samplePlan.run {} .never sampleDatabase c₁).db
      sampleShared sampleOverlap := by
  intro h
  have hphases := h.results.map (·.failedPhase)
  rw [failedPhases_sample] at hphases
  rcases hcaches with hleaves | hleaves <;> rcases hleaves with _ | _
  all_goals exact absurd hphases (by decide +kernel)

/-- The second pass over the small repository has found what the first adds, and is rolled back. -/
theorem passes_serial_or_stale_sample :
    sampleOverlap.results.map (·.failedPhase) = [none, some .synchronizationFailure] ∧
      ∃ c₁ c₂ f₁ f₂ changes₁ changes₂,
        Stale {} .never samplePlan samplePlan c₁ c₂ f₁ f₂ changes₁ changes₂ sampleShared
            sampleOverlap ∧
          ¬ ((f₁.newNumbers sampleDatabase 1 ++ f₂.newNumbers sampleDatabase 1).Nodup ∧
            (f₁.newCheckKeys sampleDatabase 1 ++ f₂.newCheckKeys sampleDatabase 1).Nodup) := by
  refine ⟨failedPhases_sample, ?_⟩
  obtain ⟨t, first, second, c₁, c₂, hrun, horder, hcaches, hended⟩ :=
    passes_serial_or_stale {} .never samplePlan samplePlan sampleShared sampleSchedule
  obtain rfl : sampleOverlap = t := congrArg Prod.snd hrun
  obtain ⟨rfl, rfl⟩ : first = samplePlan ∧ second = samplePlan := horder.elim id id
  obtain hserial | ⟨f₁, f₂, changes₁, changes₂, hstale, hrolledBack⟩ := hended
  · exact absurd hserial (not_ended_sample hcaches)
  have hphase : (samplePlan.across {} .never false sampleDatabase
      (samplePlan.run {} .never sampleDatabase c₁).db c₂).result.failedPhase =
        some .synchronizationFailure := by
    rcases hcaches with hleaves | hleaves <;> rcases hleaves with _ | _ <;> decide +kernel
  have hrepeats := (hrolledBack rfl reachable_sample.sound rfl).1 hphase
  exact ⟨c₁, c₂, f₁, f₂, changes₁, changes₂, hstale, fun h => hrepeats ⟨h, .never⟩⟩

/-- Two passes over one repository that take their steps by turns do not end as in turn. -/
theorem not_forall_passes_serial :
    ¬ ∀ (config : Configuration) (p q : PassPlan) (start : Shared) (schedule : List Nat),
      p.repo = q.repo → Reachable start.db → start.db.repositories.hasId p.repo.id = true →
      ∃ first second c₁ c₂,
        (first = p ∧ second = q ∨ first = q ∧ second = p) ∧
        FoundCaches config first second start.cache c₁ c₂ ∧
        Ended config .never first second c₁ c₂ (first.run config .never start.db c₁).db start
          (passesTogether config .never false schedule [p, q] start) := by
  intro h
  obtain ⟨first, second, c₁, c₂, horder, hcaches, hended⟩ :=
    h {} samplePlan samplePlan sampleShared sampleSchedule rfl reachable_sample rfl
  obtain ⟨rfl, rfl⟩ : first = samplePlan ∧ second = samplePlan := horder.elim id id
  exact not_ended_sample hcaches hended

end PullWatch
