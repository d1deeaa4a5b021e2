import PullWatch.Proofs.Selection
import PullWatch.Proofs.Succession

/-!
# What sessions do

A session does two things to the database: it makes passes, one after the other or together, and
when all of them are over it records polls, all of them with one reading of the clocks.

Whatever the passes keep of the database and of the cache holds until the polls are recorded.

## Main definitions

* `Step.Ensures`: what a step of a session makes of its state.
* `SessionBounds`: properties of databases and caches that the passes of a session keep.
* `SessionBounds.Ended`: a state in which passes were made and then polls recorded.

## Main results

* `runSession_ended`: the work of a session leads to such a state, whether it succeeds or fails.
* `Processor.processAll_ended`: what a session leaves behind.
-/

namespace PullWatch

variable {α β : Type} {env : Surroundings} {config : Configuration} {mode : Mode}

/-! ### Steps of a session -/

namespace Step

/-- Before the step the state satisfies `P`; after it succeeds with a value, `Q`; after it fails,
`E`. -/
def Ensures (P : Run → Prop) (step : Step α) (Q : α → Run → Prop) (E : Run → Prop) : Prop :=
  ∀ r, P r →
    match step.run r with
    | (.ok a, r) => Q a r
    | (.error _, r) => E r

variable {P R E E' : Run → Prop} {Q : α → Run → Prop}

theorem ensures_pure {a : α} (h : ∀ r, P r → Q a r) : Ensures P (pure a) Q E := h

theorem ensures_throw {e : ProcessorError} (h : ∀ r, P r → E r) :
    Ensures P (throw e : Step α) Q E := h

theorem ensures_set {s : Run} {Q : Unit → Run → Prop} (h : ∀ r, P r → Q () s) :
    Ensures P (set s : Step Unit) Q E := h

theorem ensures_modify {change : Run → Run} {Q : Unit → Run → Prop}
    (h : ∀ r, P r → Q () (change r)) : Ensures P (modify change : Step Unit) Q E := h

theorem run_bind (step : Step α) (next : α → Step β) (r : Run) :
    (step >>= next).run r =
      match step.run r with
      | (.ok a, r) => (next a).run r
      | (.error e, r) => (.error e, r) := by
  change ExceptT.bindCont next (step.run r).1 (step.run r).2 = _
  rcases step.run r with ⟨_ | a, r'⟩ <;> rfl

theorem run_pure (a : α) (r : Run) : (pure a : Step α).run r = (.ok a, r) := rfl

theorem run_get (r : Run) : (get : Step Run).run r = (.ok r, r) := rfl

theorem run_set (s r : Run) : (set s : Step Unit).run r = (.ok (), s) := rfl

theorem ensures_bind {step : Step α} {next : α → Step β} {R : β → Run → Prop}
    (h : Ensures P step Q E) (hnext : ∀ a, Ensures (Q a) (next a) R E) :
    Ensures P (step >>= next) R E := by
  intro r hr
  have hstep := h r hr
  rw [run_bind]
  rcases hrun : step.run r with ⟨_ | a, r'⟩
  · rw [hrun] at hstep
    exact hstep
  · rw [hrun] at hstep
    exact hnext a r' hstep

/-- A step that looks at its state first. -/
theorem ensures_get {next : Run → Step β} {R : β → Run → Prop}
    (h : ∀ r, P r → Ensures (fun s => s = r) (next r) R E) :
    Ensures P (get >>= next) R E := fun r hr => h r hr r rfl

theorem Ensures.mono {P' : Run → Prop} {Q' : α → Run → Prop} {step : Step α}
    (h : Ensures P step Q E) (hP : ∀ r, P' r → P r) (hQ : ∀ a r, Q a r → Q' a r)
    (hE : ∀ r, E r → E' r) : Ensures P' step Q' E' := by
  intro r hr
  have hstep := h r (hP r hr)
  rcases hrun : step.run r with ⟨_ | a, r'⟩
  · rw [hrun] at hstep
    exact hE r' hstep
  · rw [hrun] at hstep
    exact hQ a r' hstep

theorem ensures_mapM {f : α → Step β} {xs : List α}
    (h : ∀ x ∈ xs, Ensures P (f x) (fun _ => P) E) : Ensures P (xs.mapM f) (fun _ => P) E := by
  induction xs with
  | nil => exact ensures_pure fun _ hr => hr
  | cons x xs ih =>
    obtain ⟨hx, hxs⟩ := List.forall_mem_cons.1 h
    rw [List.mapM_cons]
    exact ensures_bind hx fun _ => ensures_bind (ih hxs) fun _ => ensures_pure fun _ hr => hr

theorem ensures_forM {f : α → Step Unit} {xs : List α}
    (h : ∀ x ∈ xs, Ensures P (f x) (fun _ => P) E) : Ensures P (xs.forM f) (fun _ => P) E := by
  induction xs with
  | nil => exact ensures_pure fun _ hr => hr
  | cons x xs ih =>
    obtain ⟨hx, hxs⟩ := List.forall_mem_cons.1 h
    exact ensures_bind hx fun _ => ih hxs

/-- A property that depends on neither the readings nor the session but for its mode, nor on what
observers see. -/
structure Stable (P : Run → Prop) : Prop where
  read : ∀ r, P r → P { r with readings := r.readings + 1 }
  observe : ∀ r session trace, P r → session.mode = r.session.mode → P { r with session, trace }

namespace Stable

variable (h : Stable P)
include h

theorem ensures_now : Ensures P (now env) (fun _ => P) E := fun r hr => h.read r hr

theorem ensures_publish : Ensures P publish (fun _ => P) E :=
  ensures_modify fun r hr => h.observe r r.session _ hr rfl

theorem ensures_enter (next : Phase) : Ensures P (enter env next) (fun _ => P) P := by
  refine ensures_bind h.ensures_now fun moment => ensures_get fun r hr => ?_
  cases henter : r.session.enter? next moment.time with
  | none =>
    refine ensures_throw fun s hs => ?_
    rwa [hs]
  | some session =>
    refine ensures_set fun s hs => h.observe r session r.trace hr ?_
    rw [Session.enter?] at henter
    split at henter
    · rw [← Option.some.inj henter]
    · cases henter

theorem ensures_checkTime (moment : Moment) (isReported : Bool) :
    Ensures P (checkTime config moment isReported) (fun _ => P) E := by
  refine ensures_get fun r hr => ?_
  split_ifs
  · refine ensures_bind (ensures_set fun s _ => ?_) fun _ => ensures_pure fun _ hs => hs
    exact h.observe r _ r.trace hr rfl
  · refine ensures_pure fun s hs => ?_
    rwa [hs]

end Stable

end Step

open Step

/-! ### Repeated ids -/

/-- An id is told once for each time that it stands there. -/
theorem mem_occurrences {earlier ids : List Int} {id : Int} {times : Nat} :
    (id, times) ∈ occurrences earlier ids ↔
      earlier.count id ≤ times ∧ times < earlier.count id + ids.count id := by
  induction ids generalizing earlier with
  | nil => simp [occurrences]
  | cons other ids ih =>
    rw [occurrences, List.mem_cons, ih, Prod.mk.injEq]
    by_cases hid : other = id
    · subst hid
      rw [List.count_cons_self, List.count_cons_self]
      simp only [true_and]
      omega
    · rw [List.count_cons_of_ne hid, List.count_cons_of_ne hid]
      simp only [Ne.symm hid, false_and, false_or]

/-! ### Bounds of a session -/

/-- The plan of a pass over a repository, made with the reading of a number. -/
def Surroundings.plan (env : Surroundings) (mode : Mode) (reading : Nat) (repository : Repository) :
    PassPlan :=
  { service := env.service, now := env.clock reading, repo := repository.context
    since := cutoff mode repository }

/-- The plans of passes over some repositories, made with one reading each. -/
def Surroundings.plans (env : Surroundings) (mode : Mode) : Nat → List Repository → List PassPlan
  | _, [] => []
  | reading, repository :: rest =>
    env.plan mode reading repository :: env.plans mode (reading + 1) rest

theorem Surroundings.map_repo_plans (env : Surroundings) (mode : Mode) (reading : Nat)
    (batch : List Repository) :
    (env.plans mode reading batch).map (·.repo) = batch.map (·.context) := by
  induction batch generalizing reading with
  | nil => rfl
  | cons repository rest ih => exact congrArg (repository.context :: ·) (ih _)

theorem Surroundings.mem_plans (env : Surroundings) {mode : Mode} {first : Nat}
    {batch : List Repository} {plan : PassPlan} (h : plan ∈ env.plans mode first batch) :
    ∃ reading < first + batch.length, ∃ repository ∈ batch,
      plan = env.plan mode reading repository := by
  induction batch generalizing first with
  | nil => exact absurd h List.not_mem_nil
  | cons repository rest ih =>
    rcases List.mem_cons.1 h with rfl | h
    · exact ⟨first, Nat.lt_add_of_pos_right (Nat.succ_pos _), repository, List.mem_cons_self, rfl⟩
    · obtain ⟨reading, hreading, other, hother, heq⟩ := ih h
      refine ⟨reading, ?_, other, List.mem_cons_of_mem _ hother, heq⟩
      rwa [List.length_cons, Nat.add_comm rest.length, ← Nat.add_assoc]

/-- A property of databases and one of caches that the passes of a session keep. The latter may
depend on the number of readings taken so far. -/
structure SessionBounds (env : Surroundings) (config : Configuration) (mode : Mode) where
  database : Database → Prop
  cache : Nat → Cache → Prop
  write : ∀ {repositoryId : Int} {time : Instant} {changes : ChangeSet} {n : Nat}
      {db db' : Database}, database db →
    synchronize env.faults config.syncChunkSize repositoryId time changes db = .ok (n, db') →
      database db'
  discover : ∀ {n reading : Nat} {db : Database} {repository : Repository} {c : Cache},
    reading < n → database db → db.Holds repository → cache n c →
      cache n ((env.plan mode reading repository).cacheAfter config c)
  drop : ∀ {n : Nat} {c : Cache} (id : Int), cache n c → cache n (c.dropRepository id).2
  clear : ∀ {n : Nat} {c : Cache}, cache n c → cache n c.clear
  later : ∀ {n m : Nat} {c : Cache}, n ≤ m → cache n c → cache m c

namespace SessionBounds

variable (B : SessionBounds env config mode)

/-- The pass is planned over a repository of a database within the bounds, and with one of the
first readings. -/
def Plans (n : Nat) (plan : PassPlan) : Prop :=
  ∃ reading < n, ∃ db repository, B.database db ∧ db.Holds repository ∧
    plan = env.plan mode reading repository

/-- The bounds for passes planned with the first readings. -/
def toPassBounds (n : Nat) : PassBounds config env.faults (B.Plans n) where
  database := B.database
  cache := B.cache n
  write _ hdb hwrite := B.write hdb hwrite
  discover hplan hcache := by
    obtain ⟨reading, hreading, db, repository, hdb, hrepository, rfl⟩ := hplan
    exact B.discover hreading hdb hrepository hcache
  drop id hcache := B.drop id hcache

/-- The session has only made passes. -/
structure Holds (r : Run) : Prop where
  mode : r.session.mode = mode
  database : B.database r.db
  cache : B.cache r.readings r.cache

/-- The session has made passes and then recorded polls. -/
structure Ended (db : Database) (cache : Cache) (readings : Nat) : Prop where
  cache : B.cache readings cache
  polls : ∃ before polled time, B.database before ∧ db = before.pollAll polled time

/-- The state is one in which passes were made and then polls recorded. -/
def EndedAt (r : Run) : Prop := B.Ended r.db r.cache r.readings

variable {B}

theorem Holds.ended {r : Run} (h : B.Holds r) : B.EndedAt r :=
  ⟨h.cache, r.db, [], .epoch, h.database, rfl⟩

theorem Ended.later {db : Database} {cache : Cache} {n m : Nat} (h : B.Ended db cache n)
    (hle : n ≤ m) : B.Ended db cache m :=
  ⟨B.later hle h.cache, h.polls⟩

theorem stable_holds : Stable B.Holds where
  read _ h := { h with cache := B.later (Nat.le_succ _) h.cache }
  observe _ _ _ h hmode := { h with mode := hmode.trans h.mode }

theorem stable_endedAt : Stable B.EndedAt where
  read _ h := h.later (Nat.le_succ _)
  observe _ _ _ h _ := h

/-! ### Passes -/

theorem ensures_passOver {repository : Repository} {db : Database} (hdb : B.database db)
    (hrepository : db.Holds repository) :
    Ensures B.Holds (passOver env config repository) (fun _ => B.Holds) B.EndedAt := by
  intro r h
  have hplan : B.Plans (r.readings + 1) (env.plan mode r.readings repository) :=
    ⟨r.readings, Nat.lt_succ_self _, db, repository, hdb, hrepository, rfl⟩
  have hread := stable_holds.read r h
  have hpass : runPass env.service config env.faults (env.clock r.readings) repository.context
      (cutoff r.session.mode repository) r.session.mode.isDryRun r.db r.cache =
        (env.plan mode r.readings repository).across config env.faults mode.isDryRun r.db r.db
          r.cache := by
    rw [runPass_eq, h.mode]
    rfl
  change B.Holds (Run.addPass { r with readings := r.readings + 1 } _)
  rw [hpass]
  exact
    { mode := h.mode
      database := (B.toPassBounds (r.readings + 1)).across_db_holds hplan h.database
      cache := (B.toPassBounds (r.readings + 1)).across_cache_holds hplan hread.cache }

/-- Passes that overlap are planned first, with one reading each. -/
theorem planPasses_run (env : Surroundings) (mode : Mode) (batch : List Repository) (r : Run) :
    (batch.mapM (planPass env mode)).run r =
      (.ok (env.plans mode r.readings batch),
        { r with readings := r.readings + batch.length }) := by
  induction batch generalizing r with
  | nil => rfl
  | cons repository rest ih =>
    have hfirst : (planPass env mode repository).run r =
        (.ok (env.plan mode r.readings repository), { r with readings := r.readings + 1 }) := rfl
    rw [List.mapM_cons, run_bind, hfirst]
    simp only
    rw [run_bind, ih, List.length_cons, Nat.add_assoc r.readings 1, Nat.add_comm 1]
    rfl

theorem passOverTogether_run (batch : List Repository) (r : Run) :
    (passOverTogether env config batch).run r =
      let s := passesTogether config env.faults r.session.mode.isDryRun (env.schedule batch)
        (env.plans r.session.mode r.readings batch) r.shared
      (.ok s.results, Run.addShared { r with readings := r.readings + batch.length } s) := by
  simp only [passOverTogether, run_bind, run_get, planPasses_run, run_set, run_pure]
  rfl

theorem ensures_passOverTogether {batch : List Repository} {db : Database} (hdb : B.database db)
    (hbatch : ∀ repository ∈ batch, db.Holds repository) :
    Ensures B.Holds (passOverTogether env config batch) (fun _ => B.Holds) B.EndedAt := by
  intro r h
  set last := r.readings + batch.length
  have hle : r.readings ≤ last := Nat.le_add_right _ _
  have hplans : ∀ plan ∈ env.plans mode r.readings batch, B.Plans last plan := fun plan hplan => by
    obtain ⟨reading, hreading, repository, hrepository, rfl⟩ := env.mem_plans hplan
    exact ⟨reading, hreading, db, repository, hdb, hbatch repository hrepository, rfl⟩
  have hcache : B.cache last r.cache := B.later hle h.cache
  obtain ⟨hsuccession, hhanded, -, -⟩ := passesTogether_succession config env.faults
    mode.isDryRun (env.schedule batch) r.shared rfl hplans
  obtain ⟨hdatabases, -⟩ := hsuccession.holds (B.toPassBounds last) hcache h.database
  have hlast : B.Holds ((passOverTogether env config batch).run r).2 := by
    rw [passOverTogether_run, h.mode]
    exact
      { mode := h.mode, database := hdatabases _ hsuccession.mem_databasesOf
        cache := hhanded.holds (B.toPassBounds last) hcache }
  rcases hend : (passOverTogether env config batch).run r with ⟨_ | _, r'⟩
  · rw [hend] at hlast
    exact hlast.ended
  · rw [hend] at hlast
    exact hlast

theorem mode_foldl_record (results : List RepositoryResult) (session : Session) :
    (results.foldl Session.record session).mode = session.mode := by
  induction results generalizing session with
  | nil => rfl
  | cons result results ih => rw [List.foldl_cons, ih, Session.record]

theorem ensures_runBatch {batch : List Repository} {db : Database} (hdb : B.database db)
    (hbatch : ∀ repository ∈ batch, db.Holds repository) :
    Ensures B.Holds (runBatch env config batch) (fun _ => B.Holds) B.EndedAt := by
  have hordered : ∀ repository ∈ env.order batch, db.Holds repository :=
    fun repository hrepository => hbatch repository ((env.rearranges batch).subset hrepository)
  have hpasses : Ensures B.Holds (passOverAll env config (env.order batch)) (fun _ => B.Holds)
      B.EndedAt := by
    rw [passOverAll]
    split
    · exact ensures_passOverTogether hdb hordered
    · exact ensures_mapM fun repository hrepository =>
        ensures_passOver hdb (hordered repository hrepository)
  refine ensures_bind hpasses fun results => ensures_bind (ensures_modify fun r hr => ?_)
    fun _ => ensures_pure fun _ hr => hr
  exact stable_holds.observe r _ r.trace hr (mode_foldl_record results r.session)

theorem ensures_runBatches (isShutdown : Bool) {batches : List (List Repository)} {db : Database}
    (hdb : B.database db) (hbatches : ∀ repository ∈ batches.flatten, db.Holds repository)
    (isReported : Bool) :
    Ensures B.Holds (runBatches env config isShutdown batches isReported) (fun _ => B.Holds)
      B.EndedAt := by
  induction batches generalizing isReported with
  | nil => exact ensures_pure fun _ hr => hr
  | cons batch rest ih =>
    rw [List.flatten_cons, List.forall_mem_append] at hbatches
    have hrest := ih hbatches.2
    rw [runBatches]
    refine ensures_get fun r hr => ?_
    split
    · exact ensures_set fun _ _ => stable_holds.observe r _ r.trace hr rfl
    · refine (ensures_bind (ensures_runBatch hdb hbatches.1) fun results => ?_).mono
        (fun s hs => hs ▸ hr) (fun _ _ hs => hs) (fun _ hs => hs)
      refine ensures_bind stable_holds.ensures_now fun moment =>
        ensures_bind (stable_holds.ensures_checkTime _ _) fun isReported =>
          ensures_bind stable_holds.ensures_publish fun _ => ?_
      split
      · split
        · exact ensures_throw fun _ hs => hs.ended
        · exact hrest _
      · exact hrest _

/-! ### The end of a session -/

theorem ensures_selectAll (ids : Option (List Int)) :
    Ensures B.Holds (selectAll env ids)
      (fun repositories r => B.Holds r ∧
        ∃ db, B.database db ∧ ∀ repository ∈ repositories, db.Holds repository) B.EndedAt := by
  refine ensures_bind stable_holds.ensures_now fun moment => ensures_get fun r hr => ?_
  split
  · exact ensures_throw fun s hs => hs ▸ hr.ended
  · rename_i repositories hselect
    refine ensures_bind (ensures_set fun _ _ => ?_) fun _ => ensures_pure fun s hs => hs
    refine ⟨{ mode := hr.mode, database := hr.database, cache := ?_ }, r.db, hr.database,
      holds_of_selectRepositories hselect⟩
    split
    · exact B.clear hr.cache
    · exact hr.cache

/-- Recording a poll changes the database to that poll, or not at all. -/
theorem ensures_markPolled (env : Surroundings) (start : Run) (time : Instant) (poll : Int × Nat)
    (E : Run → Prop) :
    let Marked : Run → Prop := fun r => ∃ polled, r.db = start.db.pollAll polled time ∧
      r.cache = start.cache ∧ r.readings = start.readings
    Ensures Marked (markPolled env time poll) (fun _ => Marked) E := by
  intro Marked
  obtain ⟨id, times⟩ := poll
  refine ensures_get fun r hr => ?_
  obtain ⟨polled, hdb, hrest⟩ := hr
  split
  · rename_i db hmark
    refine ensures_set fun _ _ => ⟨polled ++ [id], ?_, hrest⟩
    rw [Database.pollAll_concat, ← hdb]
    exact Database.markPolled_eq_ok (Faults.strike_eq_ok hmark)
  · exact ensures_set fun _ _ => ⟨polled, hdb, hrest⟩

/-- The polls of a session are recorded with one reading. -/
theorem ensures_recordPolls :
    Ensures B.Holds
      (do
        let moment ← Step.now env
        let r ← get
        (occurrences [] ((r.results.filter (·.success)).map (·.repositoryId))).forM
          (markPolled env moment.time))
      (fun _ => B.EndedAt) B.EndedAt := by
  intro r hr
  have hread := stable_holds.read r hr
  set start : Run := { r with readings := r.readings + 1 }
  refine ((ensures_forM fun poll _ => ensures_markPolled env start
    (env.clock r.readings).time poll B.EndedAt).mono (fun _ h => h)
    (fun _ s hs => ?_) (fun _ h => h)) start ⟨[], rfl, rfl, rfl⟩
  obtain ⟨polled, hdb, hcache, hreadings⟩ := hs
  rw [EndedAt, hcache, hreadings]
  exact ⟨hread.cache, r.db, polled, _, hr.database, hdb⟩

/-- The work of a session makes passes and then records polls, as far as it comes. -/
theorem runSession_ended (isShutdown : Bool) (ids : Option (List Int)) :
    Ensures B.Holds (runSession env config isShutdown ids) (fun _ => B.EndedAt) B.EndedAt := by
  have henter {next : Phase} :
      Ensures B.Holds (Step.enter env next) (fun _ => B.Holds) B.EndedAt :=
    (stable_holds.ensures_enter next).mono (fun _ h => h) (fun _ _ h => h) fun _ h => h.ended
  refine ensures_bind (ensures_selectAll ids) fun repositories r hr => ?_
  obtain ⟨hr, db, hdb, hrepositories⟩ := hr
  refine (ensures_bind henter fun _ => ensures_bind stable_holds.ensures_publish fun _ => ?_) r hr
  refine ensures_bind (ensures_runBatches isShutdown hdb ?_ false) fun _ => ?_
  · rwa [flatten_chunks]
  refine ensures_bind henter fun _ => ensures_bind stable_holds.ensures_publish fun _ => ?_
  refine ensures_get fun r hr => ?_
  split
  · refine (ensures_bind henter fun _ => ensures_bind stable_holds.ensures_publish fun _ => ?_).mono
      (fun s hs => hs ▸ hr) (fun _ _ h => h) fun _ h => h
    exact ensures_recordPolls
  · exact ensures_pure fun s hs => hs ▸ hr.ended

theorem concludeSession_ended :
    Ensures B.EndedAt (concludeSession env) (fun _ => B.EndedAt) B.EndedAt := by
  refine ensures_bind stable_endedAt.ensures_now fun moment =>
    ensures_bind (ensures_modify fun r hr => ?_) fun _ => stable_endedAt.ensures_enter _
  exact hr

end SessionBounds

namespace Processor

variable {p : Processor} {db : Database}

/-- The first state of a session. -/
def firstRun (p : Processor) (env : Surroundings) (db : Database) (mode : Mode) : Run :=
  let session := Session.start mode (env.clock 0).time
  { session, db, cache := p.cache, readings := 1, trace := [.published session] }

/-- The last state of a session, and how it ended. -/
def lastRun (p : Processor) (env : Surroundings) (db : Database) (ids : Option (List Int))
    (mode : Mode) : Except ProcessorError Unit × Run :=
  match (runSession env p.config p.isShutdown ids).run (p.firstRun env db mode) with
  | (.ok (), r) => (concludeSession env).run r
  | (.error e, r) =>
    let r := recoverSession env e r
    (.error (.sessionFailed { session := r.session, results := r.results } e), r)

theorem processAll_eq (ids : Option (List Int)) :
    p.processAll env db ids mode =
      if p.isRunning then { result := .error .alreadyRunning, processor := p, db }
      else
        { p with isRunning := true }.conclude env (p.lastRun env db ids mode).1
          (p.lastRun env db ids mode).2 := by
  rw [processAll, begin?]
  split
  · rename_i h
    split at h
    · rw [if_pos ‹_›]
    · cases h
  · rename_i q hq
    split at hq
    · cases hq
    · obtain rfl := Option.some.inj hq
      rw [if_neg ‹_›, lastRun, firstRun]
      split
      · rename_i hrun
        simp only [hrun]
        split
        · rename_i hlast
          rw [hlast]
        · rename_i hlast
          rw [hlast]
      · rename_i hrun
        simp only [hrun]

/-- In its last state a session has made passes and then recorded polls. -/
theorem lastRun_endedAt {B : SessionBounds env p.config mode} (hdb : B.database db)
    (hcache : B.cache 0 p.cache) (ids : Option (List Int)) :
    B.EndedAt (p.lastRun env db ids mode).2 := by
  have hfirst : B.Holds (p.firstRun env db mode) := ⟨rfl, hdb, B.later (Nat.zero_le 1) hcache⟩
  have hrun := B.runSession_ended p.isShutdown ids (p.firstRun env db mode) hfirst
  rw [lastRun]
  rcases hsession : (runSession env p.config p.isShutdown ids).run (p.firstRun env db mode) with
    ⟨_ | _, r⟩
  · rw [hsession] at hrun
    exact hrun.later (Nat.le_add_right r.readings 2)
  · rw [hsession] at hrun
    have hend := B.concludeSession_ended r hrun
    simp only
    rcases hconclude : (concludeSession env).run r with ⟨_ | _, r'⟩
    all_goals
      rw [hconclude] at hend
      exact hend

/-- A session makes passes and then records polls, however it ends. -/
theorem processAll_ended {B : SessionBounds env p.config mode} (hdb : B.database db)
    (hcache : B.cache 0 p.cache) (ids : Option (List Int)) :
    B.Ended (p.processAll env db ids mode).db (p.processAll env db ids mode).processor.cache
      (p.processAll env db ids mode).readings := by
  rw [processAll_eq]
  split
  · exact ⟨hcache, db, [], .epoch, hdb, rfl⟩
  · exact lastRun_endedAt hdb hcache ids

@[simp] theorem processAll_config (ids : Option (List Int)) :
    (p.processAll env db ids mode).processor.config = p.config := by
  rw [processAll_eq]
  split <;> rfl

end Processor

end PullWatch
