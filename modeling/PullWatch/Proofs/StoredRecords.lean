import PullWatch.Proofs.Ledger
import PullWatch.Proofs.Provenance
import PullWatch.Proofs.SessionFootprint

/-!
# Rows that decode

In every run of the program each row holds what was accepted from payloads: the row of a pull
request the record with which it began and the one that was written last, and an entry of the
history a time that was read. Such a row decodes exactly when its times lie in the years 0 to 9999,
and then it gives back what was accepted.

Payloads may state other years, and the loose reader accepts them. Then the row is written with a
year that the strict reader rejects, and from then on every pass that discovers the pull request
fails in detection and leaves the row as it is.

## Main definitions

* `Database.DrawnFrom`: every row holds what was accepted and read.
* `Operated`: what a processor and its database come to.
* `Database.DecodesAsDrawn`: every row decodes to what was accepted, or its times are out of range.

## Main results

* `HistoryRow.decode_ofEntry_eq_ok`: when an entry of the history decodes.
* `Operated.drawnFrom`: rows of all databases that the program makes.
* `stored_rows_decode`: which rows decode, and what becomes of passes when one does not.
-/

namespace PullWatch

variable {S : Sources}

/-! ### Rows and their times -/

/-- The row of an entry decodes exactly when its time can be stored. -/
theorem HistoryRow.decode_ofEntry_eq_ok {e entry : HistoryEntry} :
    (ofEntry e).decode = .ok entry ↔ e.recordedAt.Storable ∧ entry = e := by
  simp only [ofEntry, HistoryRow.decode, Outcome.bind_eq_ok, Column.decode_eq_ok,
    HistorySubject.ofName?_name, Column.time_rfc3339_eq_some, Option.some.injEq, Except.ok.injEq,
    and_assoc, exists_and_left, exists_eq_left, exists_eq_left']
  exact and_congr_right fun _ => eq_comm

/-! ### Rows and what was accepted -/

/-- The row holds records that were accepted. -/
def PullRow.DrawnFrom (S : Sources) (row : PullRow) : Prop :=
  ∃ e : PullEntry, S.pulls e.first ∧ S.pulls e.last ∧ row = e.row

/-- The row holds records that were accepted. -/
def CheckRow.DrawnFrom (S : Sources) (row : CheckRow) : Prop :=
  ∃ e : CheckEntry, S.checks e.first ∧ S.checks e.last ∧ row = e.row

/-- The row holds an entry with a time that was read. -/
def HistoryRow.DrawnFrom (S : Sources) (row : HistoryRow) : Prop :=
  ∃ e : HistoryEntry, S.times e.recordedAt ∧ row = .ofEntry e

namespace Database

variable {db db' : Database}

/-- Every row holds what was accepted and read. -/
structure DrawnFrom (S : Sources) (db : Database) : Prop where
  pulls : ∀ r ∈ db.pulls.rows, r.2.DrawnFrom S
  checks : ∀ r ∈ db.checks.rows, r.2.DrawnFrom S
  history : ∀ r ∈ db.history.rows, r.2.DrawnFrom S

namespace DrawnFrom

theorem empty : Database.empty.DrawnFrom S :=
  ⟨List.forall_mem_nil _, List.forall_mem_nil _, List.forall_mem_nil _⟩

/-- One write. -/
theorem run {w : StoreWrite} (h : db.DrawnFrom S) (hw : w.DrawnFrom S)
    (hok : w.run db = .ok db') : db'.DrawnFrom S := by
  cases w with
  | insertPull repositoryId p =>
    obtain ⟨⟨id, s⟩, hinsert, rfl⟩ := Outcome.map_eq_ok.1 hok
    obtain ⟨-, -, -, rfl⟩ := insertPull_eq_ok.1 hinsert
    exact { h with
      pulls := Table.forall_insert h.pulls ⟨⟨repositoryId, p, p⟩, hw, hw, rfl⟩ }
  | updatePull id p =>
    obtain ⟨-, rfl⟩ := updatePull_eq_ok.1 hok
    refine { h with pulls := fun r hr => ?_ }
    obtain ⟨s, hs, rfl⟩ := Table.mem_change.1 hr
    obtain ⟨e, hfirst, hlast, hrow⟩ := h.pulls s hs
    split_ifs
    · exact ⟨e.rewrite p, hfirst, hw, by rw [hrow, PullEntry.update_row]⟩
    · exact ⟨e, hfirst, hlast, hrow⟩
  | insertCheck pullRequestId c =>
    obtain ⟨⟨id, s⟩, hinsert, rfl⟩ := Outcome.map_eq_ok.1 hok
    obtain ⟨-, -, -, rfl⟩ := insertCheck_eq_ok.1 hinsert
    exact { h with
      checks := Table.forall_insert h.checks ⟨⟨pullRequestId, c, c⟩, hw, hw, rfl⟩ }
  | updateCheck id c =>
    obtain ⟨-, rfl⟩ := updateCheck_eq_ok.1 hok
    refine { h with checks := fun r hr => ?_ }
    obtain ⟨s, hs, rfl⟩ := Table.mem_change.1 hr
    obtain ⟨e, hfirst, hlast, hrow⟩ := h.checks s hs
    split_ifs
    · exact ⟨e.rewrite c, hfirst, hw, by rw [hrow, CheckEntry.update_row]⟩
    · exact ⟨e, hfirst, hlast, hrow⟩
  | appendHistory e =>
    obtain rfl := Except.ok.inj hok
    exact { h with history := Table.forall_insert h.history ⟨e, hw, rfl⟩ }

/-- A series of writes. -/
theorem of_leadsTo (h : db.DrawnFrom S) (hwrites : db.LeadsTo (·.DrawnFrom S) db') :
    db'.DrawnFrom S := by
  induction hwrites with
  | refl => exact h
  | write _ hw _ hok ih => exact ih.run hw hok

/-- Registering, monitoring and polling repositories does not touch these rows. -/
theorem withRepositories (h : db.DrawnFrom S) (repositories : Table RepositoryRow) :
    Database.DrawnFrom S { db with repositories } :=
  ⟨h.pulls, h.checks, h.history⟩

theorem pollAll (h : db.DrawnFrom S) (ids : List Int) (time : Instant) :
    (db.pollAll ids time).DrawnFrom S := by
  induction ids generalizing db with
  | nil => exact h
  | cons id ids ih => exact ih (h.withRepositories _)

end DrawnFrom

end Database

/-! ### Passes -/

/-- A pass writes nothing but what was accepted, and its time. -/
theorem EndedPass.drawnFrom {e : EndedPass} (hplan : e.plan.DrawnFrom S)
    (hcache : e.cache.DrawnFrom S) (hfound : e.found.DrawnFrom S) (config : Configuration)
    (faults : Faults) (isTrial : Bool) : (e.pass config faults isTrial).db.DrawnFrom S := by
  obtain hdb | ⟨-, -, f, n, hdiscover, hwrite⟩ := e.db_eq_or_written config faults isTrial
  · rwa [hdb]
  · have hf : f.DrawnFrom S := (discover_drawnFrom hplan.service hcache _ _ _ _).1 f hdiscover
    exact hfound.of_leadsTo
      (Database.LeadsTo.refl.storeAt (hf.changesFor hplan.now _ _) (synchronize_eq_ok.1 hwrite).1)

/-- Passes that ended one after the other write nothing but what was accepted. -/
theorem Succession.drawnFrom {config : Configuration} {faults : Faults} {isTrial : Bool}
    {plans : PassPlan → Prop} {first : Cache} {start db : Database} {ended : List EndedPass}
    (h : Succession config faults isTrial plans first start ended db)
    (hplans : ∀ plan, plans plan → plan.DrawnFrom S) (hfirst : first.DrawnFrom S)
    (hstart : start.DrawnFrom S) : db.DrawnFrom S := by
  induction h with
  | nil => exact hstart
  | concat _ _ hplan hcache ih =>
    exact EndedPass.drawnFrom (hplans _ hplan) (hcache.drawnFrom hplans hfirst) ih _ _ _

theorem Succession.reachable {config : Configuration} {faults : Faults} {isTrial : Bool}
    {plans : PassPlan → Prop} {first : Cache} {start db : Database} {ended : List EndedPass}
    (h : Succession config faults isTrial plans first start ended db) (hstart : Reachable start) :
    Reachable db := by
  induction h with
  | nil => exact hstart
  | @concat ended e _ _ _ _ ih =>
    obtain hdb | ⟨-, -, f, n, -, hwrite⟩ := e.db_eq_or_written config faults isTrial
    · rwa [hdb]
    · exact ih.write hwrite

/-! ### Sessions -/

/-- What a session may accept and what its clocks read is among the sources. -/
structure Surroundings.DrawnFrom (S : Sources) (env : Surroundings) : Prop where
  service : env.service.DrawnFrom S
  clock : ∀ n, S.times (env.clock n).time

namespace Processor

variable {p : Processor} {env : Surroundings} {db : Database}

/-- What a session leaves behind was accepted and read, in the database and in the cache. -/
theorem processAll_drawnFrom (henv : env.DrawnFrom S) (hdb : db.DrawnFrom S)
    (hcache : p.cache.DrawnFrom S) (ids : Option (List Int)) (mode : Mode) :
    (p.processAll env db ids mode).db.DrawnFrom S ∧
      (p.processAll env db ids mode).processor.cache.DrawnFrom S := by
  constructor
  · by_cases hrunning : p.isRunning = true
    · rwa [processAll_eq, if_pos hrunning]
    obtain ⟨_, last, hends, -, -, hlast, -⟩ :=
      processAll_ends (by simpa using hrunning) env db ids mode
    rw [hlast]
    have hbatches {selected : List Repository} {ended : List EndedPass}
        {last : Except ProcessorError Unit × Run}
        (h : BatchesRan env p.config p.isShutdown (chunks p.config.batchSize selected)
          (p.discovering env db mode selected) ended last) : last.2.db.DrawnFrom S := by
      obtain ⟨hsuccession, -⟩ := h.succession
      refine hsuccession.drawnFrom (fun plan hplan => ?_) ?_ hdb
      · obtain ⟨reading, -, repository, -, rfl⟩ := hplan
        exact ⟨henv.service, henv.clock reading⟩
      · change (if mode = Mode.full then p.cache.clear else p.cache).DrawnFrom S
        split_ifs
        · exact .clear p.cache
        · exact hcache
    cases hends with
    | unselected => exact hdb
    | aborted _ hran =>
      -- Recovery only adds to the session, so the database is the one that the batches left.
      have hleft := hbatches hran
      exact hleft
    | completed _ hran =>
      rw [Run.db_close]
      exact (hbatches hran).pollAll _ _
  · let bounds : SessionBounds env p.config mode :=
      { database := fun _ => True, cache := fun _ c => c.DrawnFrom S
        write := fun _ _ => trivial
        discover := fun _ _ _ hc => (discover_drawnFrom henv.service hc _ _ _ _).2
        drop := fun id hc => hc.dropRepository id, clear := fun _ => .clear _
        later := fun _ hc => hc }
    exact (processAll_ended (B := bounds) trivial hcache ids).cache

/-- What a single pass leaves behind was accepted and read. -/
theorem processOne_drawnFrom (henv : env.DrawnFrom S) (hdb : db.DrawnFrom S)
    (hcache : p.cache.DrawnFrom S) (id : Int) (since : Option Instant) (isTrial : Bool) :
    (p.processOne env db id since isTrial).db.DrawnFrom S ∧
      (p.processOne env db id since isTrial).processor.cache.DrawnFrom S := by
  rw [processOne]
  cases selectId db env.faults id with
  | error e => exact ⟨hdb, hcache⟩
  | ok repository =>
    set e : EndedPass :=
      ⟨{ service := env.service, now := env.clock 0, repo := repository.context, since }, db, db,
        p.cache⟩
    have hplan : e.plan.DrawnFrom S := ⟨henv.service, henv.clock 0⟩
    have hpass : runPass env.service p.config env.faults (env.clock 0) repository.context since
        isTrial db p.cache = e.pass p.config env.faults isTrial := runPass_eq
    have hhanded : HandedOn p.config (·.DrawnFrom S) p.cache e.cache := .first
    simp only [hpass]
    exact ⟨EndedPass.drawnFrom hplan hcache hdb _ _ _,
      (hhanded.across hplan env.faults isTrial db db).drawnFrom (fun _ h => h) hcache⟩

end Processor

/-! ### Runs of the program -/

/-- What a processor and its database come to, when what is accepted and read is among the sources.
The database begins empty. The program registers repositories, starts and ends their monitoring,
records polls, runs sessions, single passes and passes that overlap, and may begin again with
another processor. -/
inductive Operated (S : Sources) : Processor → Database → Prop
  | created {config : Configuration} {p : Processor} (hcreate : Processor.create config = .ok p) :
      Operated S p .empty
  | recreated {config : Configuration} {p p' : Processor} {db : Database} (h : Operated S p db)
      (hcreate : Processor.create config = .ok p') : Operated S p' db
  | register {p : Processor} {db db' : Database} {r : NewRepository} {id : Int}
      (h : Operated S p db) (hok : db.insertRepository r = .ok (id, db')) : Operated S p db'
  | setActive {p : Processor} {db db' : Database} {id : Int} {isActive : Bool}
      (h : Operated S p db) (hok : db.setActive id isActive = .ok db') : Operated S p db'
  | markPolled {p : Processor} {db db' : Database} {id : Int} {time : Instant}
      (h : Operated S p db) (hok : db.markPolled id time = .ok db') : Operated S p db'
  | session {p : Processor} {db : Database} (h : Operated S p db) {env : Surroundings}
      (henv : env.DrawnFrom S) (ids : Option (List Int)) (mode : Mode) :
      Operated S (p.processAll env db ids mode).processor (p.processAll env db ids mode).db
  | single {p : Processor} {db : Database} (h : Operated S p db) {env : Surroundings}
      (henv : env.DrawnFrom S) (id : Int) (since : Option Instant) (isTrial : Bool) :
      Operated S (p.processOne env db id since isTrial).processor
        (p.processOne env db id since isTrial).db
  | passes {p : Processor} {db db' : Database} {cache : Cache} {faults : Faults} {isTrial : Bool}
      {ended : List EndedPass} (h : Operated S p db)
      (hpasses : Succession p.config faults isTrial (·.DrawnFrom S) p.cache db ended db')
      (hcache : HandedOn p.config (·.DrawnFrom S) p.cache cache) : Operated S { p with cache } db'
  | shutdown {p : Processor} {db : Database} (h : Operated S p db) :
      Operated S p.requestShutdown db

namespace Operated

variable {p : Processor} {db : Database}

/-- All that the database and the cache hold was accepted and read. -/
theorem drawnFrom (h : Operated S p db) : db.DrawnFrom S ∧ p.cache.DrawnFrom S := by
  have hcreated {config : Configuration} {p : Processor} (h : Processor.create config = .ok p) :
      p.cache.DrawnFrom S := by
    rw [Processor.create_eq_ok h]
    exact List.forall_mem_nil _
  induction h with
  | created hcreate => exact ⟨.empty, hcreated hcreate⟩
  | recreated _ hcreate ih => exact ⟨ih.1, hcreated hcreate⟩
  | register _ hok ih =>
    obtain ⟨-, -, rfl⟩ := Database.insertRepository_eq_ok.1 hok
    exact ⟨ih.1.withRepositories _, ih.2⟩
  | setActive _ hok ih =>
    rw [Database.modifyRepository_eq_ok hok]
    exact ⟨ih.1.withRepositories _, ih.2⟩
  | markPolled _ hok ih =>
    rw [Database.modifyRepository_eq_ok hok]
    exact ⟨ih.1.withRepositories _, ih.2⟩
  | session _ henv ids mode ih => exact Processor.processAll_drawnFrom henv ih.1 ih.2 ids mode
  | single _ henv id since isTrial ih =>
    exact Processor.processOne_drawnFrom henv ih.1 ih.2 id since isTrial
  | passes _ hpasses hcache ih =>
    exact ⟨hpasses.drawnFrom (fun _ h => h) ih.2 ih.1, hcache.drawnFrom (fun _ h => h) ih.2⟩
  | shutdown _ ih => exact ih

/-- The program makes the database. -/
theorem reachable (h : Operated S p db) : Reachable db := by
  induction h with
  | created _ => exact .empty
  | recreated _ _ ih => exact ih
  | register _ hok ih => exact ih.register hok
  | setActive _ hok ih => exact ih.setActive hok
  | markPolled _ hok ih => exact ih.markPolled hok
  | session _ _ ids mode ih => exact ih.processAll _ _ ids mode
  | single _ _ id since isTrial ih => exact ih.processOne _ _ id since isTrial
  | passes _ hpasses _ ih => exact hpasses.reachable ih
  | shutdown _ ih => exact ih

end Operated

/-! ### Which rows decode -/

/-- The times of all that is accepted and read can be stored. -/
structure Sources.Storable (S : Sources) : Prop where
  pulls : ∀ p, S.pulls p → p.Storable
  checks : ∀ c, S.checks c → c.Storable
  times : ∀ t, S.times t → t.Storable

namespace Database

variable {db : Database}

/-- Every row gives back what was accepted, or does not decode since its times cannot be stored. -/
structure DecodesAsDrawn (S : Sources) (db : Database) : Prop where
  pulls : ∀ r ∈ db.pulls.rows, ∃ e : PullEntry, S.pulls e.first ∧ S.pulls e.last ∧
    ∀ stored, r.2.decode r.1 = .ok stored ↔ (e.stored r.1).Storable ∧ stored = e.stored r.1
  checks : ∀ r ∈ db.checks.rows, ∃ e : CheckEntry, S.checks e.first ∧ S.checks e.last ∧
    ∀ stored, r.2.decode r.1 = .ok stored ↔ e.last.Storable ∧ stored = e.stored r.1
  history : ∀ r ∈ db.history.rows, ∃ e : HistoryEntry, S.times e.recordedAt ∧
    ∀ entry, r.2.decode = .ok entry ↔ e.recordedAt.Storable ∧ entry = e

/-- Every row decodes. -/
structure Decodes (db : Database) : Prop where
  pulls : ∀ r ∈ db.pulls.rows, ∃ stored, r.2.decode r.1 = .ok stored
  checks : ∀ r ∈ db.checks.rows, ∃ stored, r.2.decode r.1 = .ok stored
  history : ∀ r ∈ db.history.rows, ∃ entry, r.2.decode = .ok entry

theorem DrawnFrom.decodesAsDrawn (h : db.DrawnFrom S) : db.DecodesAsDrawn S where
  pulls r hr := by
    obtain ⟨e, hfirst, hlast, hrow⟩ := h.pulls r hr
    exact ⟨e, hfirst, hlast, fun stored => hrow ▸ PullEntry.decode_row_eq_ok⟩
  checks r hr := by
    obtain ⟨e, hfirst, hlast, hrow⟩ := h.checks r hr
    exact ⟨e, hfirst, hlast, fun stored => hrow ▸ CheckEntry.decode_row_eq_ok⟩
  history r hr := by
    obtain ⟨e, htime, hrow⟩ := h.history r hr
    exact ⟨e, htime, fun entry => hrow ▸ HistoryRow.decode_ofEntry_eq_ok⟩

theorem DecodesAsDrawn.decodes (h : db.DecodesAsDrawn S) (hS : S.Storable) : db.Decodes where
  pulls r hr := by
    obtain ⟨e, hfirst, hlast, hdecode⟩ := h.pulls r hr
    have hcreated := (hS.pulls _ hfirst).createdAt
    have hstored : (e.stored r.1).Storable := { hS.pulls _ hlast with createdAt := hcreated }
    exact ⟨_, (hdecode _).2 ⟨hstored, rfl⟩⟩
  checks r hr := by
    obtain ⟨e, -, hlast, hdecode⟩ := h.checks r hr
    exact ⟨_, (hdecode _).2 ⟨hS.checks _ hlast, rfl⟩⟩
  history r hr := by
    obtain ⟨e, htime, hdecode⟩ := h.history r hr
    exact ⟨e, (hdecode e).2 ⟨hS.times _ htime, rfl⟩⟩

/-- Where all rows decode, detection can read what it needs. -/
theorem Decodes.exists_detect (h : db.Decodes) (hdb : db.Sound) (repositoryId : Int)
    (f : Findings) : ∃ changes, detect db .never repositoryId f = .ok changes := by
  refine ⟨_, detect_eq_ok_iff.2 ⟨fun p _ => ?_, rfl⟩⟩
  refine hdb.readable_iff.2 ⟨fun r hr => h.pulls r (List.mem_of_find?_eq_some hr),
    fun _ externalId r hr => ?_⟩
  obtain ⟨pull, -, hcheck⟩ := Option.bind_eq_some_iff.1 hr
  exact h.checks r (List.mem_of_find?_eq_some hcheck)

end Database

/-! ### Passes over rows that do not decode -/

section Undecoded

variable {config : Configuration} {faults : Faults} {isTrial : Bool} {r : Int × PullRow}

/-- The discovery of the pass finds the pull request of a row. -/
def EndedPass.Discovers (config : Configuration) (row : PullRow) (e : EndedPass) : Prop :=
  e.plan.repo.id = row.repositoryId ∧ ∃ f,
    (discover e.plan.service config e.plan.now e.plan.repo e.plan.since e.cache).1 = .ok f ∧
      row.number.toUInt64 ∈ f.numbers

/-- A pass that discovers a pull request whose row does not decode fails in detection, and leaves
the database as it is. -/
theorem EndedPass.undetected_of_undecoded {e : EndedPass} (hseen : e.seen.Sound)
    (hr : r ∈ e.seen.pulls.rows) (hundecoded : ∀ stored, r.2.decode r.1 ≠ .ok stored)
    (he : e.Discovers config r.2) (faults : Faults) (isTrial : Bool) :
    (e.pass config faults isTrial).result.failedPhase = some .changeDetectionFailure ∧
      (e.pass config faults isTrial).db = e.found := by
  obtain ⟨hrepository, f, hdiscover, hnumber⟩ := he
  have hnone : ∀ changes, detect e.seen faults e.plan.repo.id f ≠ .ok changes := by
    intro changes hdetect
    obtain ⟨p, hp, hsame⟩ := List.mem_map.1 hnumber
    obtain ⟨hread, -⟩ := detect_eq_ok_iff.1 (detect_never hdetect)
    have hrow : e.seen.pullRow? e.plan.repo.id p.number = some r := by
      refine hseen.pullRow?_eq_some.2 ⟨hr, ?_⟩
      rw [PullRow.key, hsame, hrepository, Int64.toInt64_toUInt64]
    obtain ⟨stored, hstored⟩ := (hseen.readable_iff.1 (hread p hp)).1 r hrow
    exact hundecoded stored hstored
  have houtcome : PassOutcome e.plan.service config faults e.plan.now e.plan.repo e.plan.since
      isTrial e.seen e.found e.cache (e.pass config faults isTrial) := passOutcome_runPassAcross
  cases houtcome with
  | undiscovered hother => cases hdiscover.symm.trans hother
  | undetected _ _ hfailed _ hdb => exact ⟨hfailed, hdb⟩
  | rolledBack hother hdetect =>
    obtain rfl := Except.ok.inj (hdiscover.symm.trans hother)
    exact absurd hdetect (hnone _)
  | completed hother hdetect =>
    obtain rfl := Except.ok.inj (hdiscover.symm.trans hother)
    exact absurd hdetect (hnone _)

/-- However many passes discover a pull request whose row does not decode, they all fail in
detection, and the row stays as it is. -/
theorem Succession.undetected_of_undecoded {plans : PassPlan → Prop} {first : Cache}
    {start db : Database} {ended : List EndedPass}
    (h : Succession config faults isTrial plans first start ended db) (hstart : start.Sound)
    (hr : r ∈ start.pulls.rows) (hundecoded : ∀ stored, r.2.decode r.1 ≠ .ok stored)
    (hended : ∀ e ∈ ended, e.Discovers config r.2) :
    (∀ d ∈ databasesOf config faults isTrial start ended, d = start) ∧
      ∀ result ∈ resultsOf config faults isTrial ended,
        result.failedPhase = some .changeDetectionFailure := by
  induction h with
  | nil => exact ⟨List.forall_mem_singleton.2 rfl, List.forall_mem_nil _⟩
  | @concat ended e hearlier hseen _ _ ih =>
    obtain ⟨hearlierEnded, he⟩ := List.forall_mem_append.1 hended
    obtain ⟨hdatabases, hresults⟩ := ih hearlierEnded
    have hseenStart : e.seen = start := hdatabases _ hseen
    have hfound : e.found = start := hdatabases _ hearlier.mem_databasesOf
    obtain ⟨hfailed, hdb⟩ := EndedPass.undetected_of_undecoded (hseenStart ▸ hstart)
      (hseenStart ▸ hr) hundecoded (he e (List.mem_singleton_self e)) faults isTrial
    rw [databasesOf_append, resultsOf_append]
    exact ⟨List.forall_mem_append.2 ⟨hdatabases, List.forall_mem_singleton.2 (hdb.trans hfound)⟩,
      List.forall_mem_append.2 ⟨hresults, List.forall_mem_singleton.2 hfailed⟩⟩

end Undecoded

/-- **Which rows decode.** In every run of the program, whatever the payloads are, each row decodes
to what was accepted, or does not decode since its times lie outside the years 0 to 9999. When the
times of all payloads that are accepted and all readings of the clocks lie in these years, every row
decodes and no detection fails.

When the row of a pull request does not decode, all later passes that discover the pull request fail
in detection and leave the database as it is, however many there are and however they overlap. -/
theorem stored_rows_decode {p : Processor} {db : Database} (h : Operated S p db) :
    db.DecodesAsDrawn S ∧
      (S.Storable → db.Decodes ∧
        ∀ repositoryId f, ∃ changes, detect db .never repositoryId f = .ok changes) ∧
      ∀ r ∈ db.pulls.rows, (∀ stored, r.2.decode r.1 ≠ .ok stored) →
        ∀ (config : Configuration) (faults : Faults) (isTrial : Bool) (plans : PassPlan → Prop)
          (first : Cache) (ended : List EndedPass) (db' : Database),
          Succession config faults isTrial plans first db ended db' →
            (∀ e ∈ ended, e.Discovers config r.2) →
              db' = db ∧ ∀ result ∈ resultsOf config faults isTrial ended,
                result.failedPhase = some .changeDetectionFailure := by
  have hsound : db.Sound := h.reachable.sound
  have hrows : db.DecodesAsDrawn S := h.drawnFrom.1.decodesAsDrawn
  refine ⟨hrows, fun hS => ?_, fun r hr hundecoded _ _ _ _ _ ended db' hpasses hended => ?_⟩
  · have hdecodes := hrows.decodes hS
    exact ⟨hdecodes, hdecodes.exists_detect hsound⟩
  · obtain ⟨hdatabases, hresults⟩ :=
      hpasses.undetected_of_undecoded hsound hr hundecoded hended
    exact ⟨hdatabases db' hpasses.mem_databasesOf, hresults⟩

/-! ### Small runs -/

theorem operated_sample (S : Sources) : Operated S sampleProcessor sampleDatabase := by
  have hcreate : Processor.create {} = .ok sampleProcessor := rfl
  exact .register (r := { owner := "acme", name := "widgets" }) (.created hcreate) rfl

/-- Everything whose times can be stored. -/
def storableSources : Sources :=
  { pulls := fun p => p.Storable, checks := fun c => c.Storable, times := fun t => t.Storable }

/-- The small service, and clocks that stand still. -/
def stillSurroundings : Surroundings :=
  { service := sampleService false, clock := fun _ => laterMoment }

theorem drawnFrom_still : stillSurroundings.DrawnFrom storableSources where
  service :=
    { pulls := fun _ page hpage item hitem p hp => by
        have hall : ((GitHub.parsePull samplePull).toOption.all fun p => decide p.Storable) =
            true := by decide +kernel
        obtain rfl := Except.ok.inj hpage
        rw [← List.mem_singleton.1 hitem, hp] at hall
        exact (of_decide_eq_true hall : p.Storable)
      checks := fun _ envelope henvelope items total hopen item hitem c hc => by
        have hall : ((GitHub.parseCheck sampleCheck).toOption.all fun c => decide c.Storable) =
            true := by decide +kernel
        obtain rfl := Except.ok.inj henvelope
        obtain ⟨rfl, -⟩ := Prod.mk.inj (Except.ok.inj hopen)
        rw [← List.mem_singleton.1 hitem, hc] at hall
        exact (of_decide_eq_true hall : c.Storable) }
  clock _ := show laterMoment.time.Storable by decide

/-- The row that a session over the small service writes decodes. -/
theorem stored_rows_decode_sample :
    let o := sampleProcessor.processAll stillSurroundings sampleDatabase none .full
    o.db.pulls.rows.length = 1 ∧ o.db.checks.rows.length = 1 ∧ o.db.Decodes := by
  intro o
  have hoperated : Operated storableSources o.processor o.db :=
    (operated_sample storableSources).session drawnFrom_still none .full
  have hstorable : storableSources.Storable := ⟨fun _ h => h, fun _ h => h, fun _ h => h⟩
  obtain ⟨-, hdecodes, -⟩ := stored_rows_decode hoperated
  exact ⟨by decide +kernel, by decide +kernel, (hdecodes hstorable).1⟩

/-- A pull request that was last updated in the year 10000. -/
def farPull : Json :=
  .object [("number", .nat 1), ("title", .str "Add a reader"), ("state", .str "open"),
    ("base", .object [("ref", .str "main"), ("sha", .str "b0")]),
    ("head", .object [("ref", .str "reader"), ("sha", .str "h0")]),
    ("html_url", .str "https://example.org/1"), ("created_at", .str "2024-03-01T00:00:00Z"),
    ("updated_at", .str "+10000-01-01T00:00:00Z")]

/-- A service that shows the pull request. -/
def farService : GitHub.Service :=
  { sampleService false with pulls := fun _ => .ok { items := [farPull], hasNext := false } }

/-- What an incremental session over that service leaves behind. -/
def farSession : Outcome Batch :=
  sampleProcessor.processAll (surroundingsOf farService) sampleDatabase none .incremental

/-- What the service shows. -/
def farFindings : Findings :=
  (discover farService {} sampleMoment sampleRepository none
    sampleCache).1.toOption.getD { pulls := [], checks := [], problems := [] }

/-- A payload from a far year is enough to write a row that does not decode, and then to make
detection fail. -/
theorem not_forall_rows_decode :
    (¬ ∀ (S : Sources) (p : Processor) (db : Database), Operated S p db → db.Decodes) ∧
      ¬ ∀ (S : Sources) (p : Processor) (db : Database), Operated S p db →
        ∃ changes, detect db .never sampleRepository.id farFindings = .ok changes := by
  have hoperated : Operated ⟨fun _ => True, fun _ => True, fun _ => True⟩ farSession.processor
      farSession.db :=
    (operated_sample _).session ⟨⟨by simp, by simp⟩, by simp⟩ none .incremental
  constructor
  · intro h
    have hrows : farSession.db.pulls.rows.map (fun r => (r.2.decode r.1).toOption.isSome) =
        [false] := by decide +kernel
    obtain ⟨r, hr⟩ : ∃ r, r ∈ farSession.db.pulls.rows :=
      List.exists_mem_of_ne_nil _ fun hnil => by rw [hnil] at hrows; exact nomatch hrows
    obtain ⟨stored, hstored⟩ := (h _ _ _ hoperated).pulls r hr
    have hnot : (r.2.decode r.1).toOption.isSome = false :=
      List.mem_singleton.1 (hrows ▸ List.mem_map_of_mem hr)
    rw [hstored] at hnot
    exact nomatch hnot
  · intro h
    obtain ⟨changes, hchanges⟩ := h _ _ _ hoperated
    have hnot : (detect farSession.db .never sampleRepository.id farFindings).toOption.isSome =
        false := by decide +kernel
    rw [hchanges] at hnot
    exact nomatch hnot

end PullWatch
