import PullWatch.Discovery.Overlap
import PullWatch.Proofs.DiscoveryCache
import Mathlib.Algebra.GroupWithZero.Nat

/-!
# Lookups that overlap come to an end

A lookup has two steps at the most, so lookups that overlap all end, whatever their schedule. When
there is no schedule they are made one after the other, and find what a pass discovers.

## Main definitions

* `Lookup.Advances`: what one step of a lookup does.
* `Lookup.stepsLeft`, `lookupStepsLeft`: how many steps are left at the most.

## Main results

* `lookups_end`: all lookups end.
* `discoverChecksByPull_eq`: discovery makes its lookups one after the other.
-/

namespace PullWatch

open GitHub (Service)

/-! ### One step -/

/-- What one step of a lookup does. It is over when the cache has an answer, or when the service has
given one, which is kept if it came without a problem. -/
inductive Lookup.Advances (service : Service) (maxPages : Nat) (repo : RepositoryContext)
    (now : Nat) (l : Lookup) (s : LookupState) : Option Lookup → LookupState → Prop
  | found {found : List CheckRun} (hunasked : l.answer = none)
      (hfind : (s.cache.findChecks now repo.id (Cache.checksKey l.sha)).1 = some found) :
      Advances service maxPages repo now l s none
        { cache := (s.cache.find now repo.id (Cache.checksKey l.sha)).2
          outcomes := s.outcomes ++ [⟨l.number, { found }⟩] }
  | asked (hunasked : l.answer = none) :
      Advances service maxPages repo now l s
        (some { l with answer := some (listChecks service maxPages repo l.sha) })
        { s with cache := (s.cache.find now repo.id (Cache.checksKey l.sha)).2 }
  | kept {result : Discovered (List CheckRun)} (hanswer : l.answer = some result)
      (hclean : result.problems = []) :
      Advances service maxPages repo now l s none
        { cache := s.cache.store now repo.id (Cache.checksKey l.sha) (.checks result.found)
          outcomes := s.outcomes ++ [⟨l.number, result⟩] }
  | dropped {result : Discovered (List CheckRun)} (hanswer : l.answer = some result) :
      Advances service maxPages repo now l s none
        { s with outcomes := s.outcomes ++ [⟨l.number, result⟩] }

theorem Lookup.advances {service : Service} {maxPages : Nat} {repo : RepositoryContext} {now : Nat}
    {l : Lookup} {l' : Option Lookup} {s s' : LookupState}
    (h : l.advance service maxPages repo now s = (l', s')) :
    l.Advances service maxPages repo now s l' s' := by
  have hlooked : (s.cache.findChecks now repo.id (Cache.checksKey l.sha)).2 =
      (s.cache.find now repo.id (Cache.checksKey l.sha)).2 := Cache.findChecks_snd
  rw [advance] at h
  cases hstage : l.answer with
  | none =>
    simp only [hstage] at h
    rcases hfind : s.cache.findChecks now repo.id (Cache.checksKey l.sha) with ⟨_ | found, rest⟩
    · rw [hfind] at h hlooked
      obtain ⟨rfl, rfl⟩ := Prod.mk.inj h
      simp only at hlooked
      rw [hlooked]
      exact .asked hstage
    · rw [hfind] at h hlooked
      obtain ⟨rfl, rfl⟩ := Prod.mk.inj h
      simp only at hlooked
      rw [hlooked]
      exact .found hstage (by rw [hfind])
  | some result =>
    simp only [hstage] at h
    obtain ⟨rfl, rfl⟩ := Prod.mk.inj h
    split_ifs with hproblems
    · exact .kept hstage (List.isEmpty_iff.1 hproblems)
    · exact .dropped hstage

/-- How many steps a lookup has left at the most. -/
def Lookup.stepsLeft (l : Lookup) : Nat := if l.answer.isNone then 2 else 1

/-- How many steps lookups have left at the most. -/
def lookupStepsLeft (lookups : List Lookup) : Nat := (lookups.map Lookup.stepsLeft).sum

variable {service : Service} {maxPages : Nat} {repo : RepositoryContext}

/-! ### Every lookup ends -/

theorem Lookup.stepsLeft_pos (l : Lookup) : 0 < l.stepsLeft := by
  rw [stepsLeft]
  split_ifs <;> omega

/-- A step of a lookup that does not end it is one step less. -/
theorem Lookup.stepsLeft_advance {l l' : Lookup} {now : Nat} {s s' : LookupState}
    (h : l.advance service maxPages repo now s = (some l', s')) : l'.stepsLeft < l.stepsLeft := by
  cases Lookup.advances h with
  | asked hunasked => simp [stepsLeft, hunasked]

/-- No step of any lookup adds to what is left. -/
theorem lookupStepsLeft_advance (now k : Nat) (lookups : List Lookup) (s : LookupState) :
    lookupStepsLeft (advanceLookups service maxPages repo now k lookups s).1 ≤
      lookupStepsLeft lookups := by
  induction lookups generalizing k s with
  | nil => simp [advanceLookups]
  | cons l rest ih =>
    cases k with
    | zero =>
      rw [advanceLookups]
      rcases hstep : l.advance service maxPages repo now s with ⟨_ | l', s'⟩
      · simp [lookupStepsLeft]
      · have hless := Lookup.stepsLeft_advance hstep
        simp only [lookupStepsLeft, List.map_cons, List.sum_cons]
        omega
    | succ k =>
      have hrest := ih k s
      simp only [advanceLookups, lookupStepsLeft, List.map_cons, List.sum_cons] at hrest ⊢
      omega

/-- A step of the first lookup leaves less to do. -/
theorem lookupStepsLeft_advance_zero (service : Service) (maxPages : Nat)
    (repo : RepositoryContext) (now : Nat) {lookups : List Lookup} (h : lookups ≠ [])
    (s : LookupState) :
    lookupStepsLeft (advanceLookups service maxPages repo now 0 lookups s).1 <
      lookupStepsLeft lookups := by
  obtain ⟨l, rest, rfl⟩ := List.exists_cons_of_ne_nil h
  have hpos := l.stepsLeft_pos
  rw [advanceLookups]
  rcases hstep : l.advance service maxPages repo now s with ⟨_ | l', s'⟩
  · simpa [lookupStepsLeft] using hpos
  · have hless := Lookup.stepsLeft_advance hstep
    simp only [lookupStepsLeft, List.map_cons, List.sum_cons]
    omega

theorem lookupStepsLeft_run (steps : List (Nat × Nat)) (run : List Lookup × LookupState) :
    lookupStepsLeft (advanceAllLookups service maxPages repo steps run).1 ≤
      lookupStepsLeft run.1 := by
  induction steps generalizing run with
  | nil => exact Nat.le_refl _
  | cons step steps ih => exact (ih _).trans (lookupStepsLeft_advance _ _ _ _)

/-- Steps of the first lookup, as many as are left, end all of them. -/
theorem advanceAllLookups_replicate {m last : Nat} {run : List Lookup × LookupState}
    (h : lookupStepsLeft run.1 ≤ m) :
    (advanceAllLookups service maxPages repo (.replicate m (0, last)) run).1 = [] := by
  induction m generalizing run with
  | zero =>
    obtain ⟨lookups, s⟩ := run
    cases lookups with
    | nil => rfl
    | cons l rest =>
      have hpos := l.stepsLeft_pos
      simp only [lookupStepsLeft, List.map_cons, List.sum_cons] at h
      omega
  | succ m ih =>
    rw [List.replicate_succ]
    refine ih ?_
    by_cases hnil : run.1 = []
    · simp [hnil, advanceLookups, lookupStepsLeft]
    · have hless := lookupStepsLeft_advance_zero service maxPages repo last hnil run.2
      simp only
      omega

theorem lookupStepsLeft_of (targets : List (UInt64 × String)) :
    lookupStepsLeft (targets.map Lookup.of) = 2 * targets.length := by
  induction targets with
  | nil => rfl
  | cons target targets ih =>
    simp only [lookupStepsLeft, List.map_cons, List.sum_cons, List.length_cons] at ih ⊢
    rw [ih, show (Lookup.of target).stepsLeft = 2 from rfl]
    omega

/-- All lookups end, whatever their schedule. -/
theorem lookups_end (schedule : List (Nat × Nat)) (last : Nat) (targets : List (UInt64 × String))
    (cache : Cache) :
    (advanceAllLookups service maxPages repo
      (schedule ++ .replicate (2 * targets.length) (0, last))
      (targets.map Lookup.of, { cache })).1 = [] := by
  rw [advanceAllLookups, List.foldl_append]
  refine advanceAllLookups_replicate ?_
  rw [← lookupStepsLeft_of]
  exact lookupStepsLeft_run schedule _

/-! ### One lookup after the other -/

/-- What one more lookup adds to those before it. -/
theorem gatherLookups_concat (outcomes : List LookupOutcome) (o : LookupOutcome) :
    gatherLookups (outcomes ++ [o]) =
      { found := (gatherLookups outcomes).found.insert o.number o.result.found
        problems := (gatherLookups outcomes).problems ++
          o.result.problems.map (·.about "pr_number" (toString o.number))
        calls := (gatherLookups outcomes).calls ++ o.result.calls } := by
  simp [gatherLookups]

/-- The first lookup, when nothing comes between its steps, does what a discovery of its check runs
does. -/
theorem exists_advanceAllLookups_head (service : Service) (maxPages : Nat)
    (repo : RepositoryContext) (now : Nat) (target : UInt64 × String) (rest : List Lookup)
    (s : LookupState) :
    let discovered := discoverChecks service maxPages now repo target.2 s.cache
    ∃ m ≤ 2, advanceAllLookups service maxPages repo (.replicate m (0, now))
        (.of target :: rest, s) =
      (rest, { cache := discovered.2, outcomes := s.outcomes ++ [⟨target.1, discovered.1⟩] }) := by
  intro discovered
  simp only [discovered, discoverChecks]
  rcases hfind : s.cache.findChecks now repo.id (Cache.checksKey target.2) with ⟨_ | found, kept⟩
  · refine ⟨2, Nat.le_refl 2, ?_⟩
    simp only [advanceAllLookups, List.replicate, List.foldl_cons, List.foldl_nil, advanceLookups,
      Lookup.advance, Lookup.of, hfind]
    split_ifs <;> rfl
  · refine ⟨1, by omega, ?_⟩
    simp only [advanceAllLookups, List.replicate, List.foldl_cons, List.foldl_nil, advanceLookups,
      Lookup.advance, Lookup.of, hfind]

/-- Lookups that are made one after the other find what discovery finds. -/
theorem advanceAllLookups_targets {m now : Nat} (targets : List (UInt64 × String))
    (hm : 2 * targets.length ≤ m) (s : LookupState) :
    let ended := advanceAllLookups service maxPages repo (.replicate m (0, now))
      (targets.map .of, s)
    (gatherLookups ended.2.outcomes, ended.2.cache) =
      discoverTargets service maxPages now repo targets (gatherLookups s.outcomes) s.cache := by
  induction targets generalizing m s with
  | nil =>
    have hstay : ∀ m, advanceAllLookups service maxPages repo (.replicate m (0, now)) ([], s) =
        ([], s) := by
      intro m
      induction m with
      | zero => rfl
      | succ m ih => exact ih
    simp only [List.map_nil, hstay, discoverTargets]
  | cons target targets ih =>
    obtain ⟨m₀, hm₀, hhead⟩ := exists_advanceAllLookups_head service maxPages repo now target
      (targets.map .of) s
    rw [List.length_cons] at hm
    obtain ⟨rest, rfl⟩ : ∃ rest, m = m₀ + rest := ⟨m - m₀, by omega⟩
    have hrest := ih (m := rest) (by omega)
      { cache := (discoverChecks service maxPages now repo target.2 s.cache).2
        outcomes := s.outcomes ++
          [⟨target.1, (discoverChecks service maxPages now repo target.2 s.cache).1⟩] }
    rw [List.replicate_add, List.map_cons]
    simp only [advanceAllLookups, List.foldl_append] at hhead hrest ⊢
    rw [hhead, hrest, gatherLookups_concat]
    rfl

/-- Discovery makes its lookups one after the other. -/
theorem discoverChecksByPull_eq (now : Nat) (pulls : List FetchedPullRequest) (cache : Cache) :
    discoverChecksByPull service maxPages now repo pulls cache =
      let ended := lookupsTogether service maxPages repo [] now (checkTargets pulls) cache
      (gatherLookups ended.1, ended.2) :=
  (advanceAllLookups_targets (checkTargets pulls) (Nat.le_refl _) { cache }).symm

end PullWatch
