import PullWatch.Proofs.Dossiers

/-!
# Change sets fit the database they were detected in

Detection tells new records from stored ones by what it reads, and the writes rely on it: an update
names the row of the record it replaces, a record that is added has no row, and a check run is added
to a pull request that has a row or gets one before. So when a change set is written to the database
it was detected in, no row is missed. All that can go wrong is a rule of the schema, such as when a
record was discovered twice, or a fault.

## Main definitions

* `ChangeSet.Fits`: every change of a change set fits the rows of a database.

## Main results

* `Database.fits_changesFor`: a detected change set fits.
* `Database.constraint_of_store_changesFor`: why it cannot be written.
* `detected_changes_fit`: both, and how many rows are written.
-/

namespace PullWatch

/-- The changes of a change set fit the rows of a database: replaced records have the row that the
change names, and new ones have none. -/
structure ChangeSet.Fits (changes : ChangeSet) (db : Database) (repositoryId : Int) : Prop where
  updatedPull : ∀ c ∈ changes.updatedPulls, ∃ id, c.existingId = some id ∧
    db.PullAt repositoryId c.record.number id
  newPull : ∀ c ∈ changes.newPulls, c.existingId = none ∧
    ∀ id, ¬ db.PullAt repositoryId c.record.number id
  updatedCheck : ∀ c ∈ changes.updatedChecks, ∃ id, c.existingId = some id ∧
    db.CheckAt repositoryId c.pullNumber c.record.externalId id
  newCheck : ∀ c ∈ changes.newChecks, c.existingId = none ∧
    ∀ id, ¬ db.CheckAt repositoryId c.pullNumber c.record.externalId id
  /-- Exactly the events of new pull requests announce a creation. -/
  pullCreated : ∀ c ∈ changes.newPulls ++ changes.updatedPulls,
    (c.existingId = none ↔ c.event.kind = .pullCreated)
  /-- Exactly the events of new check runs announce a creation. -/
  checkCreated : ∀ c ∈ changes.newChecks ++ changes.updatedChecks,
    (c.existingId = none ↔ c.event.kind = .checkCreated)
  /-- The pull request of a new check run is stored or new itself. -/
  owner : ∀ c ∈ changes.newChecks, (∃ id, db.PullAt repositoryId c.pullNumber id) ∨
    c.pullNumber ∈ changes.newPulls.map (·.record.number)
  total : changes.total = changes.events.length

/-! ### Creations -/

section Creations

variable {e : Event}

/-- The event of a pull request announces a creation when there is no stored one. -/
theorem pullCreated_iff {old : Option StoredPullRequest} {new : PullRequest}
    (h : detectPull old new = some e) : e.kind = .pullCreated ↔ old = none := by
  cases old with
  | none =>
    obtain rfl := Option.some.inj h
    simp
  | some old =>
    simp only [detectPull] at h
    split_ifs at h
    all_goals
      obtain rfl := Option.some.inj h
      simp

/-- The event of a check run announces a creation when there is no stored one. -/
theorem checkCreated_iff {old : Option StoredCheckRun} {new : CheckRun}
    (h : detectCheck old new = some e) : e.kind = .checkCreated ↔ old = none := by
  cases old with
  | none =>
    obtain rfl := Option.some.inj h
    simp
  | some old =>
    simp only [detectCheck] at h
    split_ifs at h
    all_goals
      obtain rfl := Option.some.inj h
      simp

end Creations

namespace Database

variable {db s : Database} {repositoryId : Int} {time : Instant} {f : Findings}
  {number : UInt64} {cause : StoreError}

/-! ### Changes and what is known of their records -/

/-- A change of a pull request comes from the comparison with the stored one. -/
theorem of_mem_pulls {c : PullChange}
    (h : c ∈ (db.changesFor repositoryId f).newPulls ++
      (db.changesFor repositoryId f).updatedPulls) :
    c.record ∈ f.pulls ∧
      c.existingId = (db.knownPull repositoryId c.record.number).map (·.id) ∧
      detectPull (db.knownPull repositoryId c.record.number) c.record.toPullRequest =
        some c.event := by
  have hc : c ∈ f.pulls.filterMap (db.pullChange repositoryId) := by
    rw [changesFor, ChangeSet.ofChanges, List.mem_append] at h
    exact h.elim List.mem_of_mem_filter List.mem_of_mem_filter
  obtain ⟨p, hp, hc⟩ := List.mem_filterMap.1 hc
  obtain ⟨rfl, hid, hevent⟩ := pullChange_eq_some.1 hc
  exact ⟨hp, hid, hevent⟩

/-- A change of a check run comes from the comparison with the stored one of its external id, also
when check runs with this id were discovered more than once. -/
theorem of_mem_checks {c : CheckChange}
    (h : c ∈ (db.changesFor repositoryId f).newChecks ++
      (db.changesFor repositoryId f).updatedChecks) :
    c.pullNumber ∈ f.numbers ∧
      c.existingId =
        (db.knownCheck repositoryId c.pullNumber c.record.externalId).map (·.id) ∧
      ∃ d ∈ f.checksFor c.pullNumber,
        detectCheck (db.knownCheck repositoryId c.pullNumber c.record.externalId) d =
          some c.event := by
  have hc : c ∈ f.pulls.flatMap fun p => db.changesOfChecks repositoryId f p.number := by
    rw [changesFor, ChangeSet.ofChanges, List.mem_append] at h
    exact h.elim List.mem_of_mem_filter List.mem_of_mem_filter
  obtain ⟨hnumber, hc⟩ := mem_changesOfChecks.1 hc
  obtain ⟨-, d, hd, hevent, hrecord, hid⟩ := mem_checkChanges.1 hc
  have hexternal : c.record.externalId = d.externalId := by simpa using List.find?_some hrecord
  rw [hexternal]
  exact ⟨hnumber, hid, d, hd, hevent⟩

/-- A detected change set fits the database it was detected in. -/
theorem fits_changesFor (hdb : db.Sound)
    (hread : ∀ p ∈ f.pulls, db.Readable repositoryId f.checks p.number) :
    (db.changesFor repositoryId f).Fits db repositoryId where
  updatedPull c hc := by
    obtain ⟨r, hr, hid⟩ := exists_pullRow hc
    exact ⟨r.1, hid, hdb.pullAt_iff.2 ⟨r.2, hr⟩⟩
  newPull c hc := by
    obtain ⟨hp, hid, -⟩ := of_mem_pulls (List.mem_append_left _ hc)
    have hnew : c.existingId = none := by simpa using (List.mem_filter.1 hc).2
    rw [hnew, eq_comm, Option.map_eq_none_iff, (hread _ hp).knownPull_eq_none_iff] at hid
    refine ⟨hnew, fun id hat => ?_⟩
    obtain ⟨row, hrow⟩ := hdb.pullAt_iff.1 hat
    simp [hid] at hrow
  updatedCheck c hc := by
    obtain ⟨-, hid, -⟩ := of_mem_checks (List.mem_append_right _ hc)
    obtain ⟨id, hsome⟩ := Option.isSome_iff_exists.1 (List.mem_filter.1 hc).2
    obtain ⟨old, hknown, rfl⟩ := Option.map_eq_some_iff.1 (hid.symm.trans hsome)
    obtain ⟨row, hrow, -⟩ := hdb.knownCheck_eq_some hknown
    exact ⟨old.id, hsome, hdb.checkAt_iff.2 ⟨row, hrow⟩⟩
  newCheck c hc := by
    obtain ⟨hnumber, hid, d, hd, -⟩ := of_mem_checks (List.mem_append_left _ hc)
    obtain ⟨p, hp, hpn⟩ := List.mem_map.1 hnumber
    have hnew : c.existingId = none := by simpa using (List.mem_filter.1 hc).2
    have hget : (f.checks.get? c.pullNumber).isSome := Findings.isSome_get?_of_mem hd
    rw [hnew, eq_comm, Option.map_eq_none_iff,
      hdb.knownCheck_eq_none_iff (hpn ▸ hread p hp) hget] at hid
    refine ⟨hnew, fun id hat => ?_⟩
    obtain ⟨row, hrow⟩ := hdb.checkAt_iff.1 hat
    simp [hid] at hrow
  pullCreated c hc := by
    obtain ⟨-, hid, hevent⟩ := of_mem_pulls hc
    rw [hid, Option.map_eq_none_iff, pullCreated_iff hevent]
  checkCreated c hc := by
    obtain ⟨-, hid, d, -, hevent⟩ := of_mem_checks hc
    rw [hid, Option.map_eq_none_iff, checkCreated_iff hevent]
  owner c hc := by
    have hnumber := pullNumber_mem_of_newChecks hc
    rw [newPulls_numbers hread, Findings.newNumbers, List.mem_filter]
    cases hrow : db.pullRow? repositoryId c.pullNumber with
    | none => exact .inr ⟨hnumber, rfl⟩
    | some r => exact .inl ⟨r.1, hdb.pullAt_iff.2 ⟨r.2, hrow⟩⟩
  total := (ChangeSet.length_events _).symm

/-! ### Why a detected change set cannot be written -/

theorem constraint_of_addPull {c : PullChange} (h : s.addPull repositoryId time c = .error cause) :
    ∃ broken, cause = .constraint broken := by
  simp only [addPull, insertPull, Outcome.bind_eq_error] at h
  obtain h | ⟨_, -, h⟩ := h
  · split_ifs at h
    all_goals
      exact ⟨_, (Except.error.inj h).symm⟩
  · exact absurd h (by simp)

theorem constraint_of_addCheckTo {pullRequestId : Int} {c : CheckChange}
    (h : s.addCheckTo pullRequestId time c = .error cause) :
    ∃ broken, cause = .constraint broken := by
  simp only [addCheckTo, insertCheck, Outcome.bind_eq_error] at h
  obtain h | ⟨_, -, h⟩ := h
  · split_ifs at h
    all_goals
      exact ⟨_, (Except.error.inj h).symm⟩
  · cases hconclusion : c.record.conclusion <;> simp [hconclusion] at h

/-- A check run of a pull request that has a row is refused for a broken rule only. -/
theorem constraint_of_addCheck {c : CheckChange}
    (howner : (s.pullRow? repositoryId c.pullNumber).isSome)
    (h : s.addCheck repositoryId time c = .error cause) :
    ∃ broken, cause = .constraint broken := by
  obtain ⟨r, hr⟩ := Option.isSome_iff_exists.1 howner
  rw [addCheck, pullId?_eq, hr] at h
  exact constraint_of_addCheckTo h

/-- A detected change set cannot be written only when it would break a rule of the schema: all rows
that it names are there. -/
theorem constraint_of_store_changesFor (hdb : db.Sound)
    (hread : ∀ p ∈ f.pulls, db.Readable repositoryId f.checks p.number)
    (h : (db.changesFor repositoryId f).store repositoryId time db = .error cause) :
    ∃ broken, cause = .constraint broken := by
  have hgrown : Grown repositoryId db db := .refl hdb
  simp only [ChangeSet.store, Outcome.bind_eq_error] at h
  obtain h | ⟨s₁, h₁, h⟩ := h
  · obtain ⟨c, _, s, -, hc⟩ :=
      Outcome.foldlM_eq_error (P := fun _ _ => True) (fun _ _ _ _ _ _ => trivial) trivial h
    exact constraint_of_addPull hc
  have hgrown₁ : Grown repositoryId db s₁ :=
    Outcome.foldlM_keeps (fun _ _ _ _ (h : Grown repositoryId db _) hok => h.addPull hok) hgrown h₁
  obtain ⟨t, ht, hgrown₂, hcovers⟩ :=
    updatedPulls_succeed hgrown₁ (covers_of_addPulls hgrown hread h₁) time
  obtain h | ⟨s₂, h₂, h⟩ := h
  · exact absurd (ht.symm.trans h) (by simp)
  obtain rfl : t = s₂ := Except.ok.inj (ht.symm.trans h₂)
  obtain h | ⟨s₃, h₃, h⟩ := h
  · let P (rest : List CheckChange) (s : Database) : Prop :=
      Grown repositoryId db s ∧ ∀ c ∈ rest, (s.pullRow? repositoryId c.pullNumber).isSome
    have hstep (c : CheckChange) (rest : List CheckChange) (s s' : Database)
        (hP : P (c :: rest) s) (hok : s.addCheck repositoryId time c = .ok s') : P rest s' := by
      refine ⟨hP.1.addCheck hok, fun c' hc' => ?_⟩
      rw [pullRow?_addCheck hP.1.sound hok]
      exact hP.2 c' (List.mem_cons_of_mem _ hc')
    have hstart : P (db.changesFor repositoryId f).newChecks t :=
      ⟨hgrown₂, fun c hc => hcovers _ (pullNumber_mem_of_newChecks hc)⟩
    obtain ⟨c, rest, s, hP, hc⟩ := Outcome.foldlM_eq_error hstep hstart h
    exact constraint_of_addCheck (hP.2 c List.mem_cons_self) hc
  · have hgrown₃ : Grown repositoryId db s₃ := Outcome.foldlM_keeps
      (fun _ _ _ _ (h : Grown repositoryId db _) hok => h.addCheck hok) hgrown₂ h₃
    obtain ⟨s₄, h₄, -⟩ := updatedChecks_succeed hdb hgrown₃ time
    exact absurd (h₄.symm.trans h) (by simp)

end Database

/-- In a change set that fits, every change writes a row. -/
theorem ChangeSet.Fits.rowsWritten_eq {changes : ChangeSet} {db : Database} {repositoryId : Int}
    (h : changes.Fits db repositoryId) : changes.rowsWritten = changes.total := by
  refine ChangeSet.rowsWritten_eq_total (fun c hc => ?_) fun c hc => ?_
  · obtain ⟨id, hid, -⟩ := h.updatedPull c hc
    exact Option.isSome_iff_exists.2 ⟨id, hid⟩
  · obtain ⟨id, hid, -⟩ := h.updatedCheck c hc
    exact Option.isSome_iff_exists.2 ⟨id, hid⟩

/-- A change set that detection finds in a database, whatever was discovered and however often, fits
that database. When it is written there, no row turns out to be missing: it fails with the error of
a fault or because a rule of the schema would be broken, and if it succeeds it writes one row for
each change. -/
theorem detected_changes_fit {db : Database} {faults : Faults} {repositoryId : Int} {f : Findings}
    {changes : ChangeSet} (hdb : db.Sound)
    (h : detect db faults repositoryId f = .ok changes) :
    changes.Fits db repositoryId ∧
      ∀ (faults : Faults) (chunkSize : Nat) (time : Instant),
        (∀ cause, synchronize faults chunkSize repositoryId time changes db = .error cause →
          (∃ k, faults.writeAbout repositoryId k = some cause) ∨
            ∃ broken, cause = .constraint broken) ∧
        ∀ n db', synchronize faults chunkSize repositoryId time changes db = .ok (n, db') →
          n = changes.total := by
  obtain ⟨hread, rfl⟩ := detect_eq_ok_iff.1 (detect_never h)
  have hfits := Database.fits_changesFor hdb hread
  refine ⟨hfits, fun faults chunkSize time => ⟨fun cause herror => ?_, fun n db' hok => ?_⟩⟩
  · exact (synchronize_eq_error herror).imp_right
      (Database.constraint_of_store_changesFor hdb hread)
  · rw [(synchronize_eq_ok.1 hok).2.2, hfits.rowsWritten_eq]

/-! ### Records that are new, told twice and updated -/

/-- What the service shows, with its pull request told twice. -/
def repeatedFindings : Findings :=
  { sampleFindings with pulls := sampleFindings.pulls ++ sampleFindings.pulls }

/-- What the service shows after the pull request has another title and its check run has passed. -/
def changedFindings : Findings :=
  { sampleFindings with
    pulls := sampleFindings.pulls.map fun p => { p with title := "Add a faster reader" }
    checks := sampleFindings.checks.map fun e =>
      (e.1, e.2.map fun c => { c with conclusion := some .success }) }

/-- The database after what the service shows was written. -/
def storedDatabase : Database :=
  ((sampleDatabase.changesFor 1 sampleFindings).store 1 .epoch sampleDatabase).toOption.getD
    sampleDatabase

theorem sound_sample : sampleDatabase.Sound := .of_rows_eq_nil rfl rfl

theorem readable_sample (f : Findings) :
    ∀ p ∈ f.pulls, sampleDatabase.Readable 1 f.checks p.number := fun _ _ =>
  sound_sample.readable_iff.2 ⟨fun _ hr => (nomatch hr), fun _ _ _ hr => (nomatch hr)⟩

theorem store_sample :
    (sampleDatabase.changesFor 1 sampleFindings).store 1 .epoch sampleDatabase =
      .ok storedDatabase := by
  obtain ⟨db, hdb⟩ := (Database.store_changesFor_iff sound_sample rfl (readable_sample _) .epoch).2
    ⟨distinct_sample.numbers.filter _, distinct_sample.checkKeys.filter _⟩
  rw [storedDatabase, hdb]
  rfl

/-- A new pull request and its check run are written, and so are their updates; told twice, they
break a rule of the schema. -/
theorem detected_changes_fit_sample :
    sampleDatabase.Sound ∧
    (∃ changes n db', detect sampleDatabase .never 1 sampleFindings = .ok changes ∧
      synchronize .never 1 1 .epoch changes sampleDatabase = .ok (n, db') ∧
      changes.Fits sampleDatabase 1 ∧ n = changes.total ∧
      ∃ later m db'', detect db' .never 1 changedFindings = .ok later ∧
        later.updatedPulls.length = 1 ∧ later.updatedChecks.length = 1 ∧
        synchronize .never 1 1 laterMoment.time later db' = .ok (m, db'') ∧
        later.Fits db' 1 ∧ m = later.total) ∧
    ∃ changes broken, detect sampleDatabase .never 1 repeatedFindings = .ok changes ∧
      synchronize .never 1 1 .epoch changes sampleDatabase = .error (.constraint broken) := by
  have hdetect (f : Findings) :
      detect sampleDatabase .never 1 f = .ok (sampleDatabase.changesFor 1 f) :=
    detect_eq_ok_iff.2 ⟨readable_sample f, rfl⟩
  refine ⟨sound_sample, ?_, ?_⟩
  · have hwrite : synchronize .never 1 1 .epoch (sampleDatabase.changesFor 1 sampleFindings)
        sampleDatabase = .ok (_, storedDatabase) := synchronize_eq_ok.2 ⟨store_sample, .never, rfl⟩
    obtain ⟨hfits, hwrites⟩ := detected_changes_fit sound_sample (hdetect sampleFindings)
    refine ⟨_, _, _, hdetect _, hwrite, hfits, (hwrites .never 1 .epoch).2 _ _ hwrite, ?_⟩
    -- both records are stored now, and both have changed
    have hstored : storedDatabase.Sound := sound_sample.store store_sample
    obtain ⟨later, hlater⟩ : ∃ later, detect storedDatabase .never 1 changedFindings = .ok later :=
      (Option.isSome_iff_exists.1 (by decide +kernel)).imp fun _ => Outcome.toOption_eq_some.1
    obtain ⟨-, rfl⟩ := detect_eq_ok_iff.1 hlater
    obtain ⟨db'', hstore⟩ : ∃ db'', (storedDatabase.changesFor 1 changedFindings).store 1
        laterMoment.time storedDatabase = .ok db'' :=
      (Option.isSome_iff_exists.1 (by decide +kernel)).imp fun _ => Outcome.toOption_eq_some.1
    have hupdate : synchronize .never 1 1 laterMoment.time
        (storedDatabase.changesFor 1 changedFindings) storedDatabase = .ok (_, db'') :=
      synchronize_eq_ok.2 ⟨hstore, .never, rfl⟩
    obtain ⟨hlaterFits, hlaterWrites⟩ := detected_changes_fit hstored hlater
    exact ⟨_, _, db'', hlater, by decide +kernel, by decide +kernel, hupdate, hlaterFits,
      (hlaterWrites .never 1 laterMoment.time).2 _ db'' hupdate⟩
  · have hrepeats : ¬ (repeatedFindings.newNumbers sampleDatabase 1).Nodup := by decide +kernel
    obtain ⟨cause, hwrite⟩ : ∃ cause, synchronize .never 1 1 .epoch
        (sampleDatabase.changesFor 1 repeatedFindings) sampleDatabase = .error cause := by
      rw [exists_synchronize_eq_error_iff,
        Database.store_changesFor_iff sound_sample rfl (readable_sample repeatedFindings)]
      exact fun h => hrepeats h.1.1
    obtain ⟨k, hfault⟩ | ⟨broken, rfl⟩ :=
      ((detected_changes_fit sound_sample (hdetect repeatedFindings)).2 .never 1 .epoch).1 cause
        hwrite
    · exact absurd hfault (by simp [Faults.never])
    · exact ⟨_, broken, hdetect _, hwrite⟩

end PullWatch
