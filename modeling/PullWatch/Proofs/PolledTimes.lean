import PullWatch.Proofs.KeptListings
import PullWatch.Proofs.SessionPasses
import PullWatch.Proofs.Steps
import Mathlib.Data.List.Induction

/-!
# Recorded polls and the listings they rest on

A processor serves one session or single pass after the other, and keeps its cache. Between them the
database may change, but a repository keeps its owner and its name.

The passes of a session follow one another from the database and the cache that it begins with. It
records polls after all of them, with one reading of the clocks. So the time that it records is
never earlier than the moment at which a listing was obtained that its passes used. The next
incremental session leaves out exactly what was last updated before the recorded time: nothing that
is updated from then on is left out, but what was updated after the listing was obtained and before
the poll was recorded is.

## Main definitions

* `Surroundings.looks`: the looks that a session or a single pass may take.
* `Served`: what a processor comes to, and the looks that its passes may have taken.
* `SuccessfulPass`: a successful pass of a session.

## Main results

* `Served.kept`: what a processor keeps was obtained at one of the looks.
* `Served.exists_polled`: what a session records as polled, and what that rests on.
* `polled_not_before_listing`: how the recorded time compares with the moments of the listings, and
  what the next cutoff leaves out.
-/

namespace PullWatch

variable {names : Names} {config : Configuration} {log : List Look} {p : Processor} {db : Database}

/-! ### Moments -/

/-- Neither clock reads earlier. -/
instance : LE Moment := ⟨fun a b => a.time ≤ b.time ∧ a.ticks ≤ b.ticks⟩

instance (a b : Moment) : Decidable (a ≤ b) :=
  inferInstanceAs (Decidable (a.time ≤ b.time ∧ a.ticks ≤ b.ticks))

/-- The clocks did not go back from one look to the next. -/
def Look.Ordered (log : List Look) : Prop := log.Pairwise fun a b => a.moment ≤ b.moment

instance (log : List Look) : Decidable (Look.Ordered log) :=
  inferInstanceAs (Decidable (log.Pairwise fun a b => a.moment ≤ b.moment))

/-- The looks that a session or a single pass may take: one with each of its first readings. -/
def Surroundings.looks (env : Surroundings) (n : Nat) : List Look :=
  (List.range n).map fun k => ⟨env.service, env.clock k⟩

theorem Surroundings.mem_looks {env : Surroundings} {look : Look} {n : Nat} :
    look ∈ env.looks n ↔ ∃ k < n, ⟨env.service, env.clock k⟩ = look := by
  simp [looks]

theorem Surroundings.looks_subset {env : Surroundings} {n m : Nat} (h : n ≤ m) :
    env.looks n ⊆ env.looks m := by
  intro look hlook
  obtain ⟨k, hk, rfl⟩ := mem_looks.1 hlook
  exact mem_looks.2 ⟨k, hk.trans_le h, rfl⟩

/-! ### What a processor comes to -/

/-- What a processor with a configuration comes to, with the database it is given next, and the
looks that its passes may have taken. -/
inductive Served (config : Configuration) (names : Names) :
    List Look → Processor → Database → Prop
  | created {p : Processor} {db : Database} (hcreate : Processor.create config = .ok p)
      (hdb : db.NamedBy names) : Served config names [] p db
  | session {log : List Look} {p : Processor} {db : Database} (h : Served config names log p db)
      (env : Surroundings) (ids : Option (List Int)) (mode : Mode) :
      Served config names (log ++ env.looks (p.processAll env db ids mode).readings)
        (p.processAll env db ids mode).processor (p.processAll env db ids mode).db
  | single {log : List Look} {p : Processor} {db : Database} (h : Served config names log p db)
      (env : Surroundings) (id : Int) (since : Option Instant) (isTrial : Bool) :
      Served config names (log ++ env.looks (p.processOne env db id since isTrial).readings)
        (p.processOne env db id since isTrial).processor (p.processOne env db id since isTrial).db
  | edited {log : List Look} {p : Processor} {db db' : Database}
      (h : Served config names log p db) (hdb' : db'.NamedBy names) : Served config names log p db'
  | shutdown {log : List Look} {p : Processor} {db : Database} (h : Served config names log p db) :
      Served config names log p.requestShutdown db

/-- What a session keeps: its passes touch no repository, and keep listings that were obtained at
earlier looks or at looks of the session. -/
def keptBounds (names : Names) (log : List Look) (db : Database) (env : Surroundings)
    (config : Configuration) (mode : Mode) (hdb : db.NamedBy names) :
    SessionBounds env config mode where
  database d := d.repositories = db.repositories
  cache n c := c.KeptFrom config names (log ++ env.looks n)
  write hd hwrite := (Database.repositories_synchronize hwrite).trans hd
  discover {n reading d repository c} hreading hd hrepository hc := by
    have hnamed : d.NamedBy names := by rwa [Database.NamedBy, hd]
    exact hc.discover (hnamed.context hrepository)
      (List.mem_append_right _ (Surroundings.mem_looks.2 ⟨reading, hreading, rfl⟩))
  drop id hc := hc.dropRepository id
  clear {n c} hc := Cache.KeptFrom.clear c
  later hle hc :=
    hc.mono (List.append_subset.2 ⟨List.subset_append_left _ _,
      List.Subset.trans (Surroundings.looks_subset hle) (List.subset_append_right _ _)⟩)

theorem Processor.create_eq_ok (h : Processor.create config = .ok p) :
    p = { config, cache := { lifetime := config.cacheLifetime * ticksPerSecond } } := by
  rw [create] at h
  split at h
  · cases h
  · simp only at h
    split at h
    · cases h
    · exact (Except.ok.inj h).symm

theorem RepositoryContext.NamedBy.of_selectId {env : Surroundings} {id : Int}
    {repository : Repository} (hdb : db.NamedBy names)
    (h : selectId db env.faults id = .ok repository) : repository.context.NamedBy names :=
  hdb.context (holds_of_selectId h)

namespace Served

/-- A processor keeps its configuration, the database it is given names its repositories, and every
listing that it keeps was obtained at one of the looks. -/
theorem kept (h : Served config names log p db) :
    p.config = config ∧ db.NamedBy names ∧ p.cache.KeptFrom config names log := by
  induction h with
  | created hcreate hdb =>
    rw [Processor.create_eq_ok hcreate]
    exact ⟨rfl, hdb, List.forall_mem_nil _⟩
  | @session log p db h env ids mode ih =>
    obtain ⟨hconfig, hdb, hcache⟩ := ih
    subst hconfig
    have hended := Processor.processAll_ended
      (B := keptBounds names log db env p.config mode hdb) rfl
      (hcache.mono (List.subset_append_left _ _)) ids
    obtain ⟨before, polled, time, hbefore, hafter⟩ := hended.polls
    refine ⟨p.processAll_config ids, ?_, hended.cache⟩
    rw [hafter]
    have hnamed : before.NamedBy names := by rwa [Database.NamedBy, hbefore]
    exact hnamed.pollAll polled _
  | @single log p db h env id since isTrial ih =>
    obtain ⟨hconfig, hdb, hcache⟩ := ih
    rw [Processor.processOne]
    cases hselect : selectId db env.faults id with
    | error e => exact ⟨hconfig, hdb, hcache.mono (List.subset_append_left _ _)⟩
    | ok repository =>
      let plan : PassPlan :=
        { service := env.service, now := env.clock 0, repo := repository.context, since }
      have hpass : runPass env.service p.config env.faults (env.clock 0) repository.context since
          isTrial db p.cache = plan.across p.config env.faults isTrial db db p.cache := runPass_eq
      have hnamed : plan.repo.NamedBy names := .of_selectId hdb hselect
      have hfirst : ⟨plan.service, plan.now⟩ ∈ log ++ env.looks 1 :=
        List.mem_append_right _ (Surroundings.mem_looks.2 ⟨0, Nat.one_pos, rfl⟩)
      have hafter : (plan.cacheAfter p.config p.cache).KeptFrom config names (log ++ env.looks 1) :=
        hconfig ▸ (hconfig ▸ hcache.mono (List.subset_append_left _ _)).discover hnamed hfirst
      simp only [hpass]
      refine ⟨hconfig, ?_, ?_⟩
      · rcases plan.across_db db db p.cache with hsame | ⟨changes, n, hwrite⟩
        · rwa [hsame]
        · rwa [Database.NamedBy, Database.repositories_synchronize hwrite]
      · rcases plan.across_cache db db p.cache with hsame | hsame <;> rw [hsame]
        · exact hafter
        · exact hafter.dropRepository _
  | edited h hdb' ih => exact ⟨ih.1, hdb', ih.2.2⟩
  | shutdown h ih => exact ih

end Served

/-! ### Recorded polls -/

/-- A successful pass of a session, which found the databases and the cache that there were. -/
structure SuccessfulPass (p : Processor) (env : Surroundings) (db : Database)
    (ids : Option (List Int)) (mode : Mode) extends EndedPass where
  made : toEndedPass ∈ p.passes env db ids mode
  success : (toEndedPass.pass p.config env.faults mode.isDryRun).result.success = true

namespace SuccessfulPass

variable {env : Surroundings} {ids : Option (List Int)} {mode : Mode}

/-- The result of the pass. -/
def result (pass : SuccessfulPass p env db ids mode) : RepositoryResult :=
  (pass.toEndedPass.pass p.config env.faults mode.isDryRun).result

/-- The listing that the pass used was obtained at a look, and the pass reports all problems that
were met in obtaining it. -/
theorem exists_obtains (pass : SuccessfulPass p env db ids mode) {hdb : db.NamedBy names} {n : Nat}
    (hfinds : (keptBounds names log db env p.config mode hdb).Finds n pass.toEndedPass) :
    ∃ f, ∃ look ∈ log ++ env.looks n,
      (discover pass.plan.service p.config pass.plan.now pass.plan.repo pass.plan.since
          pass.cache).1 = .ok f ∧
        pass.result.problems = f.problems ∧ pass.plan.Obtains p.config pass.cache look ∧
        f.Show p.config (look.listing p.config pass.plan.repo pass.plan.since) := by
  obtain ⟨f, hdiscover, hproblems⟩ := PassPlan.exists_findings_of_success pass.success
  obtain ⟨k, hk, d, repository, hd, hrepository, hplan⟩ := hfinds.plan
  have hown : ⟨pass.plan.service, pass.plan.now⟩ ∈ log ++ env.looks n := by
    rw [hplan]
    exact List.mem_append_right _ (Surroundings.mem_looks.2 ⟨k, hk, rfl⟩)
  have hnamed : pass.plan.repo.NamedBy names := by
    have hsame : d.NamedBy names := by
      rwa [Database.NamedBy, show d.repositories = db.repositories from hd]
    rw [hplan]
    exact hsame.context hrepository
  obtain ⟨look, hlook, hobtains, hshow⟩ := hfinds.cache.exists_obtains hnamed hown hdiscover
  exact ⟨f, look, hlook, hdiscover, hproblems, hobtains, hshow⟩

end SuccessfulPass

/-- A session records polls with one reading, which comes after the readings of its passes, and only
for repositories that it passed over with success. All of its successful passes used listings that
were obtained before. -/
theorem Served.exists_polled (h : Served config names log p db) (env : Surroundings)
    (ids : Option (List Int)) (mode : Mode) :
    ∃ before polled reading,
      Succession config env.faults mode.isDryRun (env.PlansIn mode db reading) (p.firstCache mode)
          db (p.passes env db ids mode) before ∧
        (p.processAll env db ids mode).db = before.pollAll polled (env.clock reading).time ∧
        (p.processAll env db ids mode).db.repositories =
          (db.pollAll polled (env.clock reading).time).repositories ∧
        (∀ pass ∈ p.passes env db ids mode,
          reading < (p.processAll env db ids mode).readings ∧
            env.PlansIn mode db reading pass.plan) ∧
        (∀ pass : SuccessfulPass p env db ids mode, ∃ f, ∃ look ∈ log ++ env.looks reading,
          (discover pass.plan.service config pass.plan.now pass.plan.repo pass.plan.since
              pass.cache).1 = .ok f ∧
            pass.result.problems = f.problems ∧ pass.plan.Obtains config pass.cache look ∧
            f.Show config (look.listing config pass.plan.repo pass.plan.since)) ∧
        ∀ id ∈ polled, ∃ pass : SuccessfulPass p env db ids mode, pass.plan.repo.id = id := by
  obtain ⟨hconfig, hdb, hcache⟩ := h.kept
  subst hconfig
  obtain ⟨before, polled, reading, hbefore, hsuccession, hafter, hpasses, hpolled⟩ :=
    p.processAll_polls (B := keptBounds names log db env p.config mode hdb) rfl
      (hcache.mono (List.subset_append_left _ _)) ids
  refine ⟨before, polled, reading, hsuccession, hafter, ?_, fun pass hpass => ?_, fun pass => ?_,
    fun id hid => ?_⟩
  · rw [hafter, Database.repositories_pollAll hbefore]
  · obtain ⟨hreading, hfinds⟩ := hpasses pass hpass
    obtain ⟨k, hk, d, repository, hd, hrepository, hplan⟩ := hfinds.plan
    refine ⟨hreading, k, hk, repository, ?_, hplan⟩
    rwa [Database.Holds, ← show d.repositories = db.repositories from hd]
  · exact pass.exists_obtains (hpasses _ pass.made).2
  · obtain ⟨e, he, hrepository, hsuccess⟩ := hpolled id hid
    exact ⟨⟨e, he, hsuccess⟩, hrepository⟩

/-! ### What the next session reads -/

namespace Database

variable {polled : List Int} {time : Instant} {id : Int} {repository : Repository}

theorem lastPolledAt_of_mem_pollAll {r : Int × RepositoryRow}
    (hr : r ∈ (db.pollAll polled time).repositories.rows) (hid : r.1 ∈ polled) :
    r.2.lastPolledAt = some time.rfc3339 := by
  induction polled using List.reverseRecOn generalizing r with
  | nil => exact absurd hid List.not_mem_nil
  | append_singleton polled other ih =>
    rw [pollAll_concat] at hr
    obtain ⟨s, hs, rfl⟩ := Table.mem_change.1 hr
    by_cases hother : s.1 = other
    · rw [if_pos hother]
    · rw [if_neg hother] at hid ⊢
      refine ih hs ((List.mem_append.1 hid).resolve_right fun h => hother ?_)
      exact List.mem_singleton.1 h

theorem hasId_pollAll (polled : List Int) (time : Instant) :
    (db.pollAll polled time).repositories.hasId id = db.repositories.hasId id := by
  induction polled generalizing db with
  | nil => rfl
  | cons other polled ih => exact ih.trans (Table.hasId_change _ _ _ _)

/-- The recorded time is read back, if it can be read at all. -/
theorem lastPolledAt_of_repository? {after : Database}
    (hafter : after.repositories = (db.pollAll polled time).repositories) (hid : id ∈ polled)
    (h : after.repository? id = .ok (some repository)) : repository.lastPolledAt = some time := by
  obtain ⟨rfl, row, hrow, hdecode⟩ := holds_of_repository? h
  rw [hafter] at hrow
  obtain ⟨lastPolledAt, hread, hdecoded⟩ := RepositoryRow.decode_eq_ok.1 hdecode
  rw [lastPolledAt_of_mem_pollAll hrow hid, Column.decode?_eq_ok] at hread
  rw [← hdecoded]
  cases lastPolledAt with
  | none => cases hread
  | some t => rw [Column.eq_of_time_rfc3339 (Option.some.inj hread)]

/-- A polled repository is read back when the time of the poll can be stored. -/
theorem exists_repository?_of_polled {after : Database}
    (hafter : after.repositories = (db.pollAll polled time).repositories) (hid : id ∈ polled)
    (hhas : db.repositories.hasId id = true) (htime : time.Storable) :
    ∃ repository, after.repository? id = .ok (some repository) := by
  rw [← hasId_pollAll polled time, ← hafter] at hhas
  obtain ⟨row, hrow⟩ := Table.hasId_iff.1 hhas
  rw [repository?, Table.get?]
  cases hfind : after.repositories.rows.find? fun r => r.1 = id with
  | none => simpa using List.find?_eq_none.1 hfind _ hrow
  | some r =>
    obtain rfl : r.1 = id := by simpa using List.find?_some hfind
    have hlast : r.2.lastPolledAt = some time.rfc3339 :=
      lastPolledAt_of_mem_pollAll (hafter ▸ List.mem_of_find?_eq_some hfind) hid
    have hread : Column.decode? ⟨"repositories", "last_polled_at"⟩ Column.time r.2.lastPolledAt =
        .ok (some time) := by
      rw [hlast, Column.decode?_eq_ok, Option.map_some, Column.time_rfc3339 htime]
      rfl
    obtain ⟨repository, hdecode⟩ : ∃ repository, r.2.decode r.1 = .ok repository :=
      ⟨_, RepositoryRow.decode_eq_ok.2 ⟨_, hread, rfl⟩⟩
    refine ⟨repository, ?_⟩
    simp only [Option.map_some, hdecode]
    rfl

end Database

theorem Surroundings.moment_le {env : Surroundings} {look : Look} {reading readings : Nat}
    (hclock : Look.Ordered (log ++ env.looks readings))
    (hreading : reading < readings) (hlook : look ∈ log ++ env.looks reading) :
    look.moment ≤ env.clock reading := by
  obtain ⟨-, hlooks, hlog⟩ := List.pairwise_append.1 hclock
  rcases List.mem_append.1 hlook with hlook | hlook
  · exact hlog look hlook _ (mem_looks.2 ⟨reading, hreading, rfl⟩)
  · obtain ⟨k, hk, rfl⟩ := mem_looks.1 hlook
    rw [looks, List.pairwise_map] at hlooks
    have horder := List.pairwise_iff_getElem.1 hlooks k reading
      (by rw [List.length_range]; exact hk.trans hreading) (by rwa [List.length_range]) hk
    simpa using horder

/-- **When polls are recorded.** The passes of a session follow one another from the database and
the cache that it begins with, and its results are theirs. The time that it records for its
repositories is one reading of the clocks, which comes after all of its passes. Whatever listing one
of its successful passes used, its own or a kept one, was obtained at a look that is not later. Each
repository that is recorded had a successful pass, and the next incremental session leaves out
exactly the pull requests that were last updated before the recorded time. -/
theorem polled_not_before_listing (h : Served config names log p db) (env : Surroundings)
    (ids : Option (List Int)) (mode : Mode)
    (hclock : Look.Ordered (log ++ env.looks (p.processAll env db ids mode).readings)) :
    (p.processAll env db ids mode).results =
        resultsOf config env.faults mode.isDryRun (p.passes env db ids mode) ∧
      ∃ before polled reading,
        Succession config env.faults mode.isDryRun (env.PlansIn mode db reading) (p.firstCache mode)
            db (p.passes env db ids mode) before ∧
          (p.processAll env db ids mode).db = before.pollAll polled (env.clock reading).time ∧
          (p.processAll env db ids mode).db.repositories =
            (db.pollAll polled (env.clock reading).time).repositories ∧
          (∀ pass ∈ p.passes env db ids mode, ∃ k < reading, pass.plan.now = env.clock k) ∧
          (∀ pass : SuccessfulPass p env db ids mode, ∃ look ∈ log ++ env.looks reading,
            pass.plan.Obtains config pass.cache look ∧ look.moment ≤ env.clock reading) ∧
          ∀ id ∈ polled,
            (∃ pass : SuccessfulPass p env db ids mode, pass.plan.repo.id = id) ∧
            ((env.clock reading).time.Storable →
              ∃ repository, (p.processAll env db ids mode).db.repository? id =
                .ok (some repository)) ∧
            ∀ repository, (p.processAll env db ids mode).db.repository? id =
                .ok (some repository) →
              repository.lastPolledAt = some (env.clock reading).time ∧
                ∀ pull, isBefore (cutoff .incremental repository) pull = true ↔
                  pull.updatedAt < (env.clock reading).time := by
  refine ⟨h.kept.1 ▸ p.results_eq_passes env db ids mode, ?_⟩
  obtain ⟨before, polled, reading, hsuccession, hdb, hafter, hpasses, hlistings, hpolled⟩ :=
    h.exists_polled env ids mode
  refine ⟨before, polled, reading, hsuccession, hdb, hafter, fun pass hpass => ?_, fun pass => ?_,
    fun id hid => ?_⟩
  · obtain ⟨-, k, hk, repository, -, hplan⟩ := hpasses pass hpass
    exact ⟨k, hk, congrArg PassPlan.now hplan⟩
  · obtain ⟨-, look, hlook, -, -, hobtains, -⟩ := hlistings pass
    exact ⟨look, hlook, hobtains, env.moment_le hclock (hpasses _ pass.made).1 hlook⟩
  · obtain ⟨pass, rfl⟩ := hpolled id hid
    obtain ⟨-, k, -, repository, ⟨row, hrow, -⟩, hplan⟩ := hpasses _ pass.made
    have hid' : pass.plan.repo.id = repository.id := congrArg (·.repo.id) hplan
    have hhas : db.repositories.hasId pass.plan.repo.id = true :=
      Table.hasId_iff.2 ⟨row, hid' ▸ hrow⟩
    refine ⟨⟨pass, rfl⟩, Database.exists_repository?_of_polled hafter hid hhas,
      fun repository hrepository => ?_⟩
    have hlast := Database.lastPolledAt_of_repository? hafter hid hrepository
    refine ⟨hlast, fun pull => ?_⟩
    rw [cutoff, hlast, isBefore, Option.any_some, decide_eq_true_iff]

/-! ### A small session -/

/-- Clocks that show one second more at each reading. -/
def sampleClock (n : Nat) : Moment :=
  { time := (Instant.ofSeconds? n 0).getD .epoch, ticks := n * Processor.ticksPerSecond }

/-- A service, and clocks that go on. -/
def surroundingsOf (service : GitHub.Service) : Surroundings := { service, clock := sampleClock }

/-- The small service, and clocks that go on. -/
def sampleSurroundings : Surroundings := surroundingsOf (sampleService false)

/-- A processor that has done nothing yet. -/
def sampleProcessor : Processor := { config := {}, cache := sampleCache }

/-- What an incremental session leaves behind. -/
def sampleSession : Outcome Batch :=
  sampleProcessor.processAll sampleSurroundings sampleDatabase none .incremental

/-- The repository, as a session reads it. -/
def sampleStored : Repository :=
  { id := 1, owner := "acme", name := "widgets", isActive := true, pollingInterval := 15
    priority := 0, lastPolledAt := none }

theorem served_sample :
    Served {} (fun _ => ("acme", "widgets")) [] sampleProcessor sampleDatabase :=
  .created rfl fun _ hr => by rw [List.mem_singleton.1 hr]; rfl

theorem ordered_sample :
    Look.Ordered ([] ++ sampleSurroundings.looks sampleSession.readings) := by
  decide +kernel

/-- The repository, as the next session reads it. -/
def samplePolled : Repository := { sampleStored with lastPolledAt := some (sampleClock 7).time }

theorem repository?_sample : sampleSession.db.repository? 1 = .ok (some samplePolled) :=
  Outcome.toOption_eq_some.1 (by decide +kernel)

theorem select_sample :
    selectRepositories sampleDatabase {} none .incremental (sampleClock 1).time =
      .ok [sampleStored] :=
  Outcome.toOption_eq_some.1 (by decide +kernel)

/-- The pass of a session over the small database, if it is successful. -/
def passOf (service : GitHub.Service)
    (success : (((surroundingsOf service).plan .incremental 3 sampleStored).across {} {} false
      sampleDatabase sampleDatabase sampleCache).result.success = true) :
    SuccessfulPass sampleProcessor (surroundingsOf service) sampleDatabase none .incremental where
  plan := (surroundingsOf service).plan .incremental 3 sampleStored
  seen := sampleDatabase
  found := sampleDatabase
  cache := sampleCache
  made := by
    have hselect : selectRepositories sampleDatabase (surroundingsOf service).faults none
        .incremental ((surroundingsOf service).clock 1).time = .ok [sampleStored] :=
      select_sample
    rw [Processor.passes_of_single rfl hselect rfl]
    exact List.mem_singleton.2 rfl
  success := success

/-- The pass of the session. -/
def samplePass :
    SuccessfulPass sampleProcessor sampleSurroundings sampleDatabase none .incremental :=
  passOf (sampleService false) (by decide +kernel)

/-- The session records the poll of its repository after its pass and the look of that pass. -/
theorem polled_not_before_listing_sample :
    sampleSession.db.repository? 1 = .ok (some samplePolled) ∧
    ∃ before : Database, ∃ polled reading,
      sampleSession.db = before.pollAll polled (sampleClock reading).time ∧
        (∃ k < reading, samplePass.plan.now = sampleClock k) ∧
        ∃ look ∈ [] ++ sampleSurroundings.looks reading,
          samplePass.plan.Obtains {} samplePass.cache look ∧ look.moment ≤ sampleClock reading := by
  refine ⟨repository?_sample, ?_⟩
  obtain ⟨-, before, polled, reading, -, hafter, -, hpasses, hlistings, -⟩ :=
    polled_not_before_listing served_sample sampleSurroundings none .incremental ordered_sample
  exact ⟨before, polled, reading, hafter, hpasses _ samplePass.made, hlistings samplePass⟩

theorem results_sample :
    ∃ batch, sampleSession.result = .ok batch ∧ batch.results = [samplePass.result] := by
  have hresults : sampleSession.result.toOption.map (·.results) = some [samplePass.result] := by
    decide +kernel
  obtain ⟨batch, hbatch, heq⟩ := Option.map_eq_some_iff.1 hresults
  exact ⟨batch, Outcome.toOption_eq_some.1 hbatch, heq⟩

/-- A pull request that was updated after the listing was obtained, and before the poll was
recorded. -/
def sampleUpdate : FetchedPullRequest :=
  { number := 1, title := "Add a reader", author := "", state := .opened, draft := false
    baseBranch := "main", baseSha := "b0", headBranch := "reader", headSha := "h0"
    url := "https://example.org/1", body := none, labels := [], assignees := [], milestone := none
    createdAt := .epoch, updatedAt := (sampleClock 5).time, closedAt := none, mergedAt := none
    payload := samplePull }

/-- A poll is recorded later than the listing was obtained, and a pull request that is updated in
between is left out by the next cutoff. -/
theorem not_forall_polled_at_listing :
    ¬ ∀ (config : Configuration) (names : Names) (log : List Look) (p : Processor) (db : Database)
      (env : Surroundings) (ids : Option (List Int)) (mode : Mode)
      (pass : SuccessfulPass p env db ids mode) (look : Look) (batch : Batch)
      (repository : Repository) (pull : FetchedPullRequest),
      Served config names log p db →
      Look.Ordered (log ++ env.looks (p.processAll env db ids mode).readings) →
      mode.isDryRun = false → (p.processAll env db ids mode).result = .ok batch →
      pass.plan.Obtains config pass.cache look →
      (p.processAll env db ids mode).db.repository? pass.plan.repo.id = .ok (some repository) →
      look.moment.time ≤ pull.updatedAt →
      isBefore (cutoff .incremental repository) pull = false := by
  intro h
  obtain ⟨batch, hbatch, -⟩ := results_sample
  have hexcluded := h {} _ [] sampleProcessor sampleDatabase sampleSurroundings none .incremental
    samplePass ⟨sampleService false, sampleClock 3⟩ batch samplePolled sampleUpdate served_sample
    ordered_sample rfl hbatch (.asked rfl) repository?_sample (by decide +kernel)
  exact absurd hexcluded (by decide +kernel)

end PullWatch
