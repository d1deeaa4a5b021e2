import PullWatch.Proofs.OverlappingPasses
import PullWatch.Proofs.Visits

/-!
# Every pass ends as it would alone

The passes of a batch may end in any order, each may have read the database before others have
written to it, and the lookups of one pass may overlap. When a session passes over no repository
twice, begins with an empty cache, and the service answers equal requests equally, each pass still
makes of its repository what it would make of it alone: in the database as it was at the start, and
with nothing kept. So does each pass of a session that makes one pass after the other.

## Main definitions

* `alone`: what a pass makes of a repository when there is no other.
* `BatchPassed`, `SessionPassed`: passes of a batch and of a session, which may overlap.
* `SessionEnds`: what a session that passes over what it has selected leaves.
* `AsAlone`, `EndsAsAlone`: every pass has ended as it would alone.

## Main results

* `overlappingPass_agrees`: a pass of a session ends as it would alone.
* `BatchPassed.asAlone`, `SessionPassed.asAlone`: so do the passes of a batch and of a session.
* `Visits.asAlone`: so do passes that are made one after the other.
-/

namespace PullWatch

open Database (Abreast)

variable {env : Surroundings} {config : Configuration} {mode : Mode} {start : Database}

/-! ### A pass alone -/

/-- What a pass over a repository reports and leaves when it finds the database as it was at the
start, and the cache holds nothing. It is told without a time. -/
def alone (env : Surroundings) (config : Configuration) (mode : Mode) (start : Database)
    (repository : Repository) : RepositoryResult × Database :=
  concludePass config env.faults { time := .epoch, ticks := 0 } repository.context mode.isDryRun
    start start (shown env.service config repository.context (cutoff mode repository))

/-! ### Passes of a session -/

/-- The caches that passes over some repositories make of a cache: their discoveries use it, and
what it holds for a repository may be dropped. -/
inductive PassedOn (env : Surroundings) (config : Configuration) (mode : Mode)
    (selected : List Repository) (first : Cache) : Cache → Prop
  | first : PassedOn env config mode selected first first
  | discover {cache : Cache} (h : PassedOn env config mode selected first cache)
      {repository : Repository} (hselected : repository ∈ selected) (timing : Timing) :
      PassedOn env config mode selected first
        (discoverTogether env.service config timing repository.context (cutoff mode repository)
          cache).2
  | drop {cache : Cache} (h : PassedOn env config mode selected first cache) (id : Int) :
      PassedOn env config mode selected first (cache.dropRepository id).2

/-- A pass over a repository of a session that began at a reading of the clocks: its lookups
overlapped as the timing says, its detection read the database `seen`, and its transaction found the
database `db`. -/
def overlappingPass (env : Surroundings) (config : Configuration) (mode : Mode)
    (repository : Repository) (reading : Nat) (timing : Timing) (cache : Cache)
    (seen db : Database) : RepositoryResult × Database :=
  concludePass config env.faults (env.clock reading) repository.context mode.isDryRun seen db
    (discoverTogether env.service config timing repository.context (cutoff mode repository)
      cache).1

/-- A pass that nothing interrupts is one of them. -/
theorem overlappingPass_eq_runPass (repository : Repository) (reading : Nat) (cache : Cache)
    (db : Database) :
    let now := env.clock reading
    let pass := runPass env.service config env.faults now repository.context
      (cutoff mode repository) mode.isDryRun db cache
    overlappingPass env config mode repository reading { reading := now.ticks } cache db db =
      (pass.result, pass.db) := by
  intro now pass
  rw [overlappingPass, discoverTogether_nil]
  exact runPass_eq_concludePass.symm

/-- Passes over repositories of a batch, with their results in the order in which they ended, the
databases that there were, and the last of them. Each pass has read one of those, however many have
ended since, and its discovery has found one of some caches. -/
inductive BatchPassed (env : Surroundings) (config : Configuration) (mode : Mode)
    (caches : Cache → Prop) (first : Database) :
    List Repository → List RepositoryResult → List Database → Database → Prop
  | nil : BatchPassed env config mode caches first [] [] [first] first
  | concat {done : List Repository} {results : List RepositoryResult} {databases : List Database}
      {db seen : Database} {cache : Cache}
      (h : BatchPassed env config mode caches first done results databases db)
      (repository : Repository) (reading : Nat) (timing : Timing) (hcache : caches cache)
      (hseen : seen ∈ databases) :
      BatchPassed env config mode caches first (done ++ [repository])
        (results ++ [(overlappingPass env config mode repository reading timing cache seen db).1])
        (databases ++ [(overlappingPass env config mode repository reading timing cache seen db).2])
        (overlappingPass env config mode repository reading timing cache seen db).2

/-- Passes over the batches of a session, one batch after the other. The passes of a batch end in
any order. -/
inductive SessionPassed (env : Surroundings) (config : Configuration) (mode : Mode)
    (caches : Cache → Prop) :
    List (List Repository) → Database → List RepositoryResult → Database → Prop
  | nil (db : Database) : SessionPassed env config mode caches [] db [] db
  | cons {batch done : List Repository} {rest : List (List Repository)}
      {results later : List RepositoryResult} {databases : List Database}
      {first db last : Database} (hperm : done.Perm batch)
      (hbatch : BatchPassed env config mode caches first done results databases db)
      (hrest : SessionPassed env config mode caches rest db later last) :
      SessionPassed env config mode caches (batch :: rest) first (results ++ later) last

/-- What a session that passes over what it has selected, and records the polls, may report and
leave. -/
def SessionEnds (env : Surroundings) (config : Configuration) (mode : Mode)
    (selected : List Repository) (cache : Cache) (start : Database)
    (results : List RepositoryResult) (after : Database) : Prop :=
  ∃ db n,
    SessionPassed env config mode (PassedOn env config mode selected cache)
      (chunks config.batchSize selected) start results db ∧
    after = db.pollAll (polledIds env.faults mode results) (env.clock n).time

/-- A session of one batch. -/
theorem BatchPassed.sessionEnds {selected done : List Repository}
    {results : List RepositoryResult} {databases : List Database} {cache : Cache} {db : Database}
    (h : BatchPassed env config mode (PassedOn env config mode selected cache) start done results
      databases db)
    (hperm : done.Perm selected) (hbatch : chunks config.batchSize selected = [selected])
    (n : Nat) :
    SessionEnds env config mode selected cache start results
      (db.pollAll (polledIds env.faults mode results) (env.clock n).time) := by
  refine ⟨db, n, ?_, rfl⟩
  rw [hbatch, ← List.append_nil results]
  exact .cons hperm h (.nil db)

/-! ### Every pass ends as it would alone -/

/-- A database that there was before the present one: its rows have stayed where they are, and of
repositories over which no pass has ended it holds what there was at the start. -/
structure Earlier (start : Database) (done : List Repository) (db seen : Database) : Prop where
  linked : seen.Linked
  repositories : seen.repositories = start.repositories
  rows : seen.Extends db
  others : ∀ id ∉ done.map (·.id), seen.dossiers id = start.dossiers id

/-- Each repository that was passed over has one result, which is that of a pass alone, as are its
dossiers. Others are as they were. -/
structure AsAlone (env : Surroundings) (config : Configuration) (mode : Mode) (start : Database)
    (done : List Repository) (results : List RepositoryResult) (db : Database) : Prop where
  linked : db.Linked
  repositories : db.repositories = start.repositories
  visited : ∀ repository ∈ done, ∃ result, resultsFor repository.id results = [result] ∧
    result.Agrees (alone env config mode start repository).1 ∧
    db.dossiers repository.id =
      (alone env config mode start repository).2.dossiers repository.id
  others : ∀ id ∉ done.map (·.id),
    resultsFor id results = [] ∧ db.dossiers id = start.dossiers id

/-- The repositories of a session have the names that belong to their ids, and none of them shows a
number with two head commits. -/
structure Orderly (env : Surroundings) (config : Configuration) (mode : Mode) (names : Names)
    (repository : Repository) : Prop where
  named : repository.context.IsNamed names
  oneHead : OneHead env.service config repository.context (cutoff mode repository)

section Steps

variable {done later : List Repository} {results : List RepositoryResult} {repository : Repository}
  {db seen after : Database} {id : Int}

theorem Earlier.abreast (h : Earlier start done db seen) (hstart : start.Linked)
    (hnew : id ∉ done.map (·.id)) : Abreast id seen start seen start :=
  .refl h.linked hstart (by rw [h.repositories]) (h.others id hnew)

/-- After one more pass. -/
theorem Earlier.concat (h : Earlier start done db seen) (hrows : db.Extends after)
    (repository : Repository) : Earlier start (done ++ [repository]) after seen :=
  { h with
    rows := h.rows.trans hrows
    others := fun id hid => h.others id fun hmem => hid (by
      rw [List.map_append]
      exact List.mem_append_left _ hmem) }

theorem AsAlone.earlier (h : AsAlone env config mode start done results db) :
    Earlier start done db db :=
  ⟨h.linked, h.repositories, .refl db, fun id hid => (h.others id hid).2⟩

theorem AsAlone.of_perm (h : AsAlone env config mode start done results db)
    (hperm : done.Perm later) : AsAlone env config mode start later results db where
  linked := h.linked
  repositories := h.repositories
  visited repository hmem := h.visited repository (hperm.mem_iff.2 hmem)
  others id hid := h.others id fun hmem => hid ((hperm.map _).subset hmem)

/-- One more pass that has ended as it would alone. -/
theorem AsAlone.concat (h : AsAlone env config mode start done results db)
    {ended : RepositoryResult × Database} (hid : ended.1.repositoryId = repository.id)
    (hnew : repository.id ∉ done.map (·.id))
    (hagrees : ended.1.Agrees (alone env config mode start repository).1)
    (hafter : Abreast repository.id db start ended.2
      (alone env config mode start repository).2) :
    AsAlone env config mode start (done ++ [repository]) (results ++ [ended.1]) ended.2 := by
  have hresults (id : Int) : resultsFor id (results ++ [ended.1]) =
      resultsFor id results ++ if repository.id = id then [ended.1] else [] := by
    rw [resultsFor_append, resultsFor_singleton, hid]
  refine ⟨hafter.left.linked, hafter.left.repositories.trans h.repositories,
    fun other hother => ?_, fun id hother => ?_⟩
  · rcases List.mem_append.1 hother with hother | hother
    · -- an earlier pass was over another repository, whose dossiers this one leaves
      have hne : repository.id ≠ other.id := fun heq => hnew (heq ▸ List.mem_map_of_mem hother)
      obtain ⟨result, hresult, hsame, hdossiers⟩ := h.visited other hother
      refine ⟨result, ?_, hsame, (hafter.left.others other.id hne.symm).trans hdossiers⟩
      rw [hresults, hresult, if_neg hne, List.append_nil]
    · obtain rfl := List.mem_singleton.1 hother
      refine ⟨ended.1, ?_, hagrees, hafter.dossiers⟩
      rw [hresults, (h.others _ hnew).1, if_pos rfl, List.nil_append]
  · rw [List.map_append, List.map_singleton, List.mem_append, List.mem_singleton, not_or] at hother
    obtain ⟨hnone, hdossiers⟩ := h.others id hother.1
    refine ⟨?_, (hafter.left.others id hother.2).trans hdossiers⟩
    rw [hresults, hnone, if_neg (Ne.symm hother.2), List.append_nil]

/-- A pass of a session over a repository that was not passed over before. -/
theorem overlappingPass_agrees {names : Names} {cache : Cache}
    (h : AsAlone env config mode start done results db) (hstart : start.Linked)
    (hnew : repository.id ∉ done.map (·.id)) (horderly : Orderly env config mode names repository)
    (hcache : cache.Faithful env.service config.maxPagesPerQuery names)
    (hseen : Earlier start done db seen) (reading : Nat) (timing : Timing) :
    let ended := overlappingPass env config mode repository reading timing cache seen db
    ended.1.Agrees (alone env config mode start repository).1 ∧
      Abreast repository.id db start ended.2 (alone env config mode start repository).2 :=
  concludePass_agrees (discoverTogether_agrees hcache horderly.named horderly.oneHead timing)
    (hseen.abreast hstart hnew) (h.earlier.abreast hstart hnew) hseen.rows _ _

end Steps

variable {names : Names} {caches : Cache → Prop}

/-- The passes of a batch. -/
theorem BatchPassed.asAlone {earlier done : List Repository}
    {results passed : List RepositoryResult} {databases : List Database} {first db : Database}
    (h : BatchPassed env config mode caches first done passed databases db)
    (hstart : start.Linked) (hfirst : AsAlone env config mode start earlier results first)
    (hcaches : ∀ cache, caches cache → cache.Faithful env.service config.maxPagesPerQuery names)
    (horderly : ∀ repository ∈ done, Orderly env config mode names repository)
    (hnew : ((earlier ++ done).map (·.id)).Nodup) :
    AsAlone env config mode start (earlier ++ done) (results ++ passed) db ∧
      ∀ seen ∈ databases, Earlier start (earlier ++ done) db seen := by
  induction h with
  | nil =>
    rw [List.append_nil, List.append_nil]
    exact ⟨hfirst, fun seen hseen => List.mem_singleton.1 hseen ▸ hfirst.earlier⟩
  | @concat done passed databases db seen cache hbatch repository reading timing hcache hseen ih =>
    rw [← List.append_assoc, List.map_append, List.map_singleton, List.nodup_append'] at hnew
    obtain ⟨hbefore, -, hdisjoint⟩ := hnew
    have hnotin : repository.id ∉ (earlier ++ done).map (·.id) := fun hmem =>
      hdisjoint hmem (List.mem_singleton_self _)
    obtain ⟨halone, hdatabases⟩ :=
      ih (fun other hother => horderly other (List.mem_append_left _ hother)) hbefore
    obtain ⟨hagrees, hafter⟩ := overlappingPass_agrees halone hstart hnotin
      (horderly repository (List.mem_append_right _ (List.mem_singleton_self _)))
      (hcaches cache hcache) (hdatabases seen hseen) reading timing
    have hnext := halone.concat concludePass_repositoryId hnotin hagrees hafter
    rw [← List.append_assoc, ← List.append_assoc]
    refine ⟨hnext, fun before hmem => ?_⟩
    rcases List.mem_append.1 hmem with hmem | hmem
    · exact (hdatabases before hmem).concat hafter.left.rows repository
    · exact List.mem_singleton.1 hmem ▸ hnext.earlier

/-- The passes of a session. -/
theorem SessionPassed.asAlone {batches : List (List Repository)} {done : List Repository}
    {results passed : List RepositoryResult} {first last : Database}
    (h : SessionPassed env config mode caches batches first passed last)
    (hstart : start.Linked) (hfirst : AsAlone env config mode start done results first)
    (hcaches : ∀ cache, caches cache → cache.Faithful env.service config.maxPagesPerQuery names)
    (horderly : ∀ repository ∈ batches.flatten, Orderly env config mode names repository)
    (hnew : ((done ++ batches.flatten).map (·.id)).Nodup) :
    AsAlone env config mode start (done ++ batches.flatten) (results ++ passed) last := by
  induction h generalizing done results with
  | nil db => simpa using hfirst
  | @cons batch ended rest passed later databases first db last hperm hbatch hrest ih =>
    rw [List.flatten_cons, ← List.append_assoc] at hnew
    rw [List.flatten_cons] at horderly ⊢
    have hended : ((done ++ ended).map (·.id)).Nodup :=
      (((hperm.append_left done).map _).nodup_iff).2
        (hnew.sublist ((List.sublist_append_left _ _).map _))
    obtain ⟨halone, -⟩ := hbatch.asAlone hstart hfirst hcaches
      (fun repository hmem => horderly repository (List.mem_append_left _ (hperm.subset hmem)))
      hended
    rw [← List.append_assoc, ← List.append_assoc]
    exact ih (halone.of_perm (hperm.append_left done))
      (fun repository hmem => horderly repository (List.mem_append_right _ hmem)) hnew

/-! ### Sessions -/

/-- Repositories with different ids can be told by their ids. -/
theorem exists_names {selected : List Repository} (hnodup : (selected.map (·.id)).Nodup) :
    ∃ names : Names, ∀ repository ∈ selected, repository.context.IsNamed names := by
  refine ⟨fun id => ((selected.find? fun r => r.id = id).map fun r =>
    (r.owner, r.name)).getD ("", ""), fun repository hmem => ?_⟩
  rw [RepositoryContext.IsNamed, show repository.context.id = repository.id from rfl]
  cases hfind : selected.find? fun r => r.id = repository.id with
  | none => exact absurd (decide_eq_true rfl) (List.find?_eq_none.1 hfind repository hmem)
  | some other =>
    have hid : other.id = repository.id := by simpa using List.find?_some hfind
    rw [List.inj_on_of_nodup_map hnodup (List.mem_of_find?_eq_some hfind) hmem hid]
    rfl

/-- Passes hand on nothing but what the service shows. -/
theorem PassedOn.faithful {selected : List Repository} {first cache : Cache}
    (h : PassedOn env config mode selected first cache) (hfirst : first.entries = [])
    (hnamed : ∀ repository ∈ selected, repository.context.IsNamed names) :
    cache.Faithful env.service config.maxPagesPerQuery names := by
  induction h with
  | first =>
    intro e he
    rw [hfirst] at he
    exact absurd he List.not_mem_nil
  | discover _ hselected timing ih =>
    exact ih.discoverTogether (hnamed _ hselected) timing (cutoff mode _)
  | drop _ id ih => exact ih.dropRepository id

section Sessions

variable {selected : List Repository} {results : List RepositoryResult} {after : Database}

theorem AsAlone.nil (h : start.Linked) : AsAlone env config mode start [] [] start where
  linked := h
  repositories := rfl
  visited := List.forall_mem_nil _
  others _ _ := ⟨rfl, rfl⟩

/-- The session has made its passes as each would have been made alone, and has recorded the polls
of those that succeeded. -/
def EndsAsAlone (env : Surroundings) (config : Configuration) (mode : Mode)
    (selected : List Repository) (start : Database) (results : List RepositoryResult)
    (after : Database) : Prop :=
  ∃ db n, AsAlone env config mode start selected results db ∧
    after = db.pollAll (polledIds env.faults mode results) (env.clock n).time

theorem EndsAsAlone.length_resultsFor {repository : Repository}
    (h : EndsAsAlone env config mode selected start results after)
    (hmem : repository ∈ selected) : (resultsFor repository.id results).length = 1 := by
  obtain ⟨db, n, halone, -⟩ := h
  obtain ⟨result, hresult, -⟩ := halone.visited repository hmem
  rw [hresult, List.length_singleton]

/-- However the passes of a session overlap, and the lookups of each pass, each of them ends as it
would alone. -/
theorem SessionEnds.endsAsAlone {cache : Cache}
    (h : SessionEnds env config mode selected cache start results after) (hstart : start.Linked)
    (hcache : cache.entries = []) (hnodup : (selected.map (·.id)).Nodup)
    (hone : ∀ repository ∈ selected,
      OneHead env.service config repository.context (cutoff mode repository)) :
    EndsAsAlone env config mode selected start results after := by
  obtain ⟨db, n, hpassed, hafter⟩ := h
  obtain ⟨names, hnamed⟩ := exists_names hnodup
  have hsession := hpassed.asAlone hstart (.nil hstart)
    (fun cache h => h.faithful hcache hnamed)
  rw [flatten_chunks, List.nil_append, List.nil_append] at hsession
  exact ⟨db, n, hsession (fun repository hmem => ⟨hnamed repository hmem, hone repository hmem⟩)
    hnodup, hafter⟩

/-- The same of a session whose passes are made one after the other. -/
theorem Visits.asAlone {r : Run} (h : Visits env config mode start selected r)
    (hstart : start.Linked) : AsAlone env config mode start selected r.results r.db where
  linked := h.rule.1
  repositories := h.repositories
  visited repository hmem := by
    obtain ⟨result, hresult, now, before, cache, ⟨hlinked, hrepositories⟩, hdossiers, hcache,
      rfl, hseen⟩ := h.visited repository hmem
    have habreast : Abreast repository.context.id before start before start :=
      .refl hlinked hstart (by rw [hrepositories]) hdossiers
    obtain ⟨hagrees, hafter⟩ :=
      runPass_agrees hcache habreast now { time := .epoch, ticks := 0 }
    exact ⟨_, hresult, hagrees, hseen.symm.trans hafter⟩
  others := h.others

end Sessions

end PullWatch
