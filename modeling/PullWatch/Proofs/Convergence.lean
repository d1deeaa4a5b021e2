import PullWatch.Proofs.DiscoveryCache
import PullWatch.Proofs.Passes
import PullWatch.Proofs.Pending

/-!
# Passes converge

After a pass that succeeds, the rows of all discovered records hold the values that are compared:
for each record either its row held them before, or a change brought them. So the next pass finds
nothing to change, as long as the service shows the same.

## Main definitions

* `Database.PullAgrees`, `Database.CheckAgrees`: the row of a record holds its compared values.
* `Converging`: every record agrees with its row or has a change that waits.

## Main results

* `Database.converged_store`: after its changes all records agree with their rows.
* `Database.changesFor_eq_empty`: records that agree with their rows bring no changes.
* `pass_converges`: a pass that succeeds stores what it discovered, and the next one changes
  nothing.
-/

namespace PullWatch

/-- The times of all discovered records can be stored. -/
structure Findings.Storable (f : Findings) : Prop where
  pulls : ∀ p ∈ f.pulls, p.Storable
  checks : ∀ e ∈ f.checks, ∀ c ∈ e.2, c.Storable

theorem Findings.Storable.checksFor {f : Findings} (h : f.Storable) {number : UInt64} {c : CheckRun}
    (hc : c ∈ f.checksFor number) : c.Storable := by
  rw [Findings.checksFor, ChecksByPull.get?] at hc
  cases hfind : f.checks.find? fun e => e.1 = number with
  | none => simp [hfind] at hc
  | some e => exact h.checks e (List.mem_of_find?_eq_some hfind) c (by simpa [hfind] using hc)

namespace Database

/-! ### Agreement -/

/-- The row of a pull request holds the values of it that are compared. -/
def PullAgrees (repositoryId : Int) (s : Database) (p : FetchedPullRequest) : Prop :=
  ∃ r old, s.pullRow? repositoryId p.number = some r ∧ r.2.decode r.1 = .ok old ∧
    old.snapshot = p.snapshot

/-- The row of a check run of a pull request holds the values of it that are compared. -/
def CheckAgrees (repositoryId : Int) (s : Database) (number : UInt64) (c : CheckRun) : Prop :=
  ∃ r old, s.checkRowOf? repositoryId number c.externalId = some r ∧ r.2.decode r.1 = .ok old ∧
    old.snapshot = c.snapshot

variable {s s' : Database} {repositoryId : Int} {time : Instant}

/-- A pull request that agrees with its row has no other row. -/
theorem PullAgrees.exists_only_row {p : FetchedPullRequest} (h : s.PullAgrees repositoryId p)
    (hs : s.Sound) :
    ∃ id row old, (s.pulls.select fun row => row.isAt repositoryId p.number) = [(id, row)] ∧
      row.decode id = .ok old ∧ old.snapshot = p.snapshot := by
  obtain ⟨r, old, hr, hdecode, hsnapshot⟩ := h
  refine ⟨r.1, r.2, old, ?_, hdecode, hsnapshot⟩
  rw [hs.select_pulls, hr]
  rfl

/-- A check run that agrees with its row has no other row under its pull request. -/
theorem CheckAgrees.exists_only_row {number : UInt64} {c : CheckRun} {r : Int × PullRow}
    (h : s.CheckAgrees repositoryId number c) (hs : s.Sound)
    (hr : s.pullRow? repositoryId number = some r) :
    ∃ id row old, (s.checks.select fun row => row.isAt r.1 c.externalId) = [(id, row)] ∧
      row.decode id = .ok old ∧ old.snapshot = c.snapshot := by
  obtain ⟨q, old, hq, hdecode, hsnapshot⟩ := h
  rw [checkRowOf?, hr, Option.bind_some] at hq
  refine ⟨q.1, q.2, old, ?_, hdecode, hsnapshot⟩
  rw [hs.select_checks, hq]
  rfl

theorem pullAgrees_addPull {c : PullChange} (hc : c.record.Storable)
    (hok : s.addPull repositoryId time c = .ok s') : s'.PullAgrees repositoryId c.record := by
  refine ⟨((s.pulls.lastId : Int) + 1, .ofRecord repositoryId c.record), _, ?_,
    PullRow.decode_ofRecord hc _ _, ?_⟩
  · rw [pullRow?_addPull hok, if_pos ⟨rfl, rfl⟩]
  · rfl

theorem pullAgrees_replacePull {c : PullChange} (hc : c.record.Storable)
    (hpending : c.Pending repositoryId s) (hok : s.replacePull time c = .ok s') :
    s'.PullAgrees repositoryId c.record := by
  obtain ⟨id, row, old, hid, hrow, hdecode, -⟩ := hpending
  refine ⟨(id, row.update c.record), _, ?_, PullRow.decode_update hc hdecode, ?_⟩
  · rw [pullRow?_replacePull hid hok, hrow, Option.map_some, if_pos rfl]
  · rfl

theorem checkAgrees_addCheck {c : CheckChange} (hc : c.record.Storable) (hs : s.Sound)
    (hok : s.addCheck repositoryId time c = .ok s') :
    s'.CheckAgrees repositoryId c.pullNumber c.record := by
  obtain ⟨r, hr, -, -⟩ := (addCheck_eq_ok hs).1 hok
  refine ⟨((s.checks.lastId : Int) + 1, .ofRecord r.1 c.record), _, ?_,
    CheckRow.decode_ofRecord hc _ _, ?_⟩
  · rw [checkRowOf?_addCheck hs hok, if_pos ⟨rfl, rfl, rfl⟩, hr]
    rfl
  · rfl

theorem checkAgrees_replaceCheck {c : CheckChange} (hc : c.record.Storable)
    (hpending : c.Pending repositoryId s) (hok : s.replaceCheck time c = .ok s') :
    s'.CheckAgrees repositoryId c.pullNumber c.record := by
  obtain ⟨id, row, old, hid, hrow, -, -⟩ := hpending
  refine ⟨(id, row.update c.record), _, ?_, CheckRow.decode_update hc row id, ?_⟩
  · rw [checkRowOf?_replaceCheck hid hok, hrow, Option.map_some, if_pos rfl]
  · rfl

/-- A replaced pull request is the only one whose row changes. -/
theorem pullRow?_replacePull_of_ne {c : PullChange} {number : UInt64} (hs : s.Sound)
    (hpending : c.Pending repositoryId s) (hok : s.replacePull time c = .ok s')
    (hne : number ≠ c.record.number) :
    s'.pullRow? repositoryId number = s.pullRow? repositoryId number := by
  obtain ⟨id, row, -, hid, hrow, -⟩ := hpending
  rw [pullRow?_replacePull hid hok]
  cases hother : s.pullRow? repositoryId number with
  | none => rfl
  | some r =>
    rw [Option.map_some, if_neg]
    rintro rfl
    exact hne (Prod.ext_iff.1 (hs.pullRow?_inj hother hrow)).2

/-- A replaced check run is the only one whose row changes. -/
theorem checkRowOf?_replaceCheck_of_ne {c : CheckChange} {number externalId : UInt64} (hs : s.Sound)
    (hpending : c.Pending repositoryId s) (hok : s.replaceCheck time c = .ok s')
    (hne : (number, externalId) ≠ (c.pullNumber, c.record.externalId)) :
    s'.checkRowOf? repositoryId number externalId =
      s.checkRowOf? repositoryId number externalId := by
  obtain ⟨id, row, -, hid, hrow, -⟩ := hpending
  rw [checkRowOf?_replaceCheck hid hok]
  cases hother : s.checkRowOf? repositoryId number externalId with
  | none => rfl
  | some r =>
    rw [Option.map_some, if_neg]
    rintro rfl
    exact hne (Prod.ext_iff.1 (hs.checkRowOf?_inj hother hrow)).2

end Database

/-! ### Convergence -/

/-- Rows decode, and every discovered record agrees with its row or has a change that waits. -/
structure Converging (repositoryId : Int) (f : Findings) (pulls : List PullChange)
    (checks : List CheckChange) (s : Database) : Prop where
  pullRows : ∀ number ∈ f.numbers, ∀ r, s.pullRow? repositoryId number = some r →
    ∃ old, r.2.decode r.1 = .ok old
  checkRows : ∀ number ∈ f.numbers, (f.checks.get? number).isSome → ∀ externalId r,
    s.checkRowOf? repositoryId number externalId = some r → ∃ old, r.2.decode r.1 = .ok old
  pulls : ∀ p ∈ f.pulls, s.PullAgrees repositoryId p ∨ ∃ c ∈ pulls, c.record = p
  checks : ∀ number ∈ f.numbers, ∀ d ∈ f.checksFor number,
    s.CheckAgrees repositoryId number d ∨ ∃ c ∈ checks, c.pullNumber = number ∧ c.record = d

namespace Converging

variable {repositoryId : Int} {f : Findings} {pulls pulls' : List PullChange}
  {checks checks' : List CheckChange} {s s' : Database}

/-- The change of a pull request was made. -/
theorem writePull {c : PullChange} (h : Converging repositoryId f pulls checks s)
    (hf : f.Distinct) (hc : c.record ∈ f.pulls) (hrest : ∀ d ∈ pulls, d = c ∨ d ∈ pulls')
    (hagrees : s'.PullAgrees repositoryId c.record)
    (hpulls : ∀ number, number ≠ c.record.number →
      s'.pullRow? repositoryId number = s.pullRow? repositoryId number)
    (hchecks : ∀ number externalId,
      s'.checkRowOf? repositoryId number externalId =
        s.checkRowOf? repositoryId number externalId) :
    Converging repositoryId f pulls' checks s' where
  pullRows := by
    intro number hnumber r hr
    by_cases heq : number = c.record.number
    · obtain ⟨r', old, hr', hdecode, -⟩ := hagrees
      obtain rfl : r' = r := Option.some.inj (hr'.symm.trans (heq ▸ hr))
      exact ⟨old, hdecode⟩
    · rw [hpulls number heq] at hr
      exact h.pullRows number hnumber r hr
  checkRows := by
    intro number hnumber hget externalId r hr
    rw [hchecks] at hr
    exact h.checkRows number hnumber hget externalId r hr
  pulls := by
    intro p hp
    by_cases heq : p.number = c.record.number
    · obtain rfl : p = c.record := List.inj_on_of_nodup_map hf.numbers hp hc heq
      exact .inl hagrees
    · rcases h.pulls p hp with ⟨r, old, hr, hold⟩ | ⟨d, hd, rfl⟩
      · exact .inl ⟨r, old, by rw [hpulls _ heq, hr], hold⟩
      · refine .inr ⟨d, (hrest d hd).resolve_left ?_, rfl⟩
        rintro rfl
        exact heq rfl
  checks := by
    intro number hnumber d hd
    refine (h.checks number hnumber d hd).imp_left ?_
    rintro ⟨r, old, hr, hold⟩
    exact ⟨r, old, by rw [hchecks, hr], hold⟩

/-- The change of a check run was made. -/
theorem writeCheck {c : CheckChange} (h : Converging repositoryId f pulls checks s)
    (hf : f.Distinct) (hnumber : c.pullNumber ∈ f.numbers)
    (hc : c.record ∈ f.checksFor c.pullNumber) (hrest : ∀ d ∈ checks, d = c ∨ d ∈ checks')
    (hagrees : s'.CheckAgrees repositoryId c.pullNumber c.record)
    (hchecks : ∀ number externalId, (number, externalId) ≠ (c.pullNumber, c.record.externalId) →
      s'.checkRowOf? repositoryId number externalId =
        s.checkRowOf? repositoryId number externalId)
    (hpulls : ∀ number, s'.pullRow? repositoryId number = s.pullRow? repositoryId number) :
    Converging repositoryId f pulls checks' s' where
  pullRows := by
    intro number hnumber r hr
    rw [hpulls] at hr
    exact h.pullRows number hnumber r hr
  checkRows := by
    intro number hnumber hget externalId r hr
    by_cases heq : (number, externalId) = (c.pullNumber, c.record.externalId)
    · obtain ⟨rfl, rfl⟩ := Prod.mk.inj heq
      obtain ⟨r', old, hr', hdecode, -⟩ := hagrees
      obtain rfl : r' = r := Option.some.inj (hr'.symm.trans hr)
      exact ⟨old, hdecode⟩
    · rw [hchecks number externalId heq] at hr
      exact h.checkRows number hnumber hget externalId r hr
  pulls := by
    intro p hp
    refine (h.pulls p hp).imp_left ?_
    rintro ⟨r, old, hr, hold⟩
    exact ⟨r, old, by rw [hpulls, hr], hold⟩
  checks := by
    intro number hnumber' d hd
    by_cases heq : (number, d.externalId) = (c.pullNumber, c.record.externalId)
    · obtain ⟨rfl, hid⟩ := Prod.mk.inj heq
      obtain rfl : d = c.record := List.inj_on_of_nodup_map (hf.checksFor hnumber) hd hc hid
      exact .inl hagrees
    · rcases h.checks number hnumber' d hd with ⟨r, old, hr, hold⟩ | ⟨e, he, rfl, rfl⟩
      · exact .inl ⟨r, old, by rw [hchecks _ _ heq, hr], hold⟩
      · refine .inr ⟨e, (hrest e he).resolve_left ?_, rfl, rfl⟩
        rintro rfl
        exact heq rfl

/-- Once every change was made, every pull request agrees with its row. -/
theorem pullAgrees (h : Converging repositoryId f [] [] s) {p : FetchedPullRequest}
    (hp : p ∈ f.pulls) : s.PullAgrees repositoryId p := by
  refine (h.pulls p hp).resolve_right ?_
  rintro ⟨c, hc, -⟩
  exact absurd hc List.not_mem_nil

/-- Once every change was made, every check run agrees with its row. -/
theorem checkAgrees (h : Converging repositoryId f [] [] s) {number : UInt64} {d : CheckRun}
    (hnumber : number ∈ f.numbers) (hd : d ∈ f.checksFor number) :
    s.CheckAgrees repositoryId number d := by
  refine (h.checks number hnumber d hd).resolve_right ?_
  rintro ⟨c, hc, -⟩
  exact absurd hc List.not_mem_nil

end Converging

namespace Database

variable {db db' : Database} {repositoryId : Int} {time : Instant} {f : Findings}

/-- Before its changes are made, every record that does not agree with its row has one. -/
theorem converging_changesFor (hdb : db.Sound) (hf : f.Distinct)
    (hread : ∀ p ∈ f.pulls, db.Readable repositoryId f.checks p.number) :
    Converging repositoryId f
      ((db.changesFor repositoryId f).newPulls ++ (db.changesFor repositoryId f).updatedPulls)
      ((db.changesFor repositoryId f).newChecks ++ (db.changesFor repositoryId f).updatedChecks)
      db where
  pullRows := by
    intro number hnumber
    obtain ⟨p, hp, rfl⟩ := List.mem_map.1 hnumber
    exact (hdb.readable_iff.1 (hread p hp)).1
  checkRows := by
    intro number hnumber
    obtain ⟨p, hp, rfl⟩ := List.mem_map.1 hnumber
    exact (hdb.readable_iff.1 (hread p hp)).2
  pulls := by
    intro p hp
    cases hknown : db.knownPull repositoryId p.number with
    | none =>
      have hmem : p ∈ (db.changesFor repositoryId f).newPulls.map (·.record) := by
        rw [newPulls_records]
        exact List.mem_filter.2 ⟨hp, by rw [hknown]; rfl⟩
      obtain ⟨c, hc, hrecord⟩ := List.mem_map.1 hmem
      exact .inr ⟨c, List.mem_append_left _ hc, hrecord⟩
    | some old =>
      cases hevent : detectPull (some old) p.toPullRequest with
      | none =>
        obtain ⟨row, hrow, hdecode⟩ := knownPull_eq_some hknown
        exact .inl ⟨_, old, hrow, hdecode, detectPull_eq_none_iff.1 hevent⟩
      | some event =>
        let c : PullChange := { record := p, existingId := some old.id, event }
        have hc : c ∈ (db.changesFor repositoryId f).updatedPulls :=
          mem_updatedPulls.2 ⟨hp, old, hknown, rfl, hevent⟩
        exact .inr ⟨c, List.mem_append_right _ hc, rfl⟩
  checks := by
    intro number hnumber d hd
    cases hknown : db.knownCheck repositoryId number d.externalId with
    | none =>
      obtain ⟨event, hevent⟩ : ∃ event, detectCheck none d = some event := ⟨_, rfl⟩
      let c : CheckChange := { record := d, pullNumber := number, existingId := none, event }
      have hc : c ∈ (db.changesFor repositoryId f).newChecks :=
        (mem_newChecks hf).2 ⟨hnumber, hd, hknown, rfl, hevent⟩
      exact .inr ⟨c, List.mem_append_left _ hc, rfl, rfl⟩
    | some old =>
      cases hevent : detectCheck (some old) d with
      | none =>
        obtain ⟨row, hrow, hdecode⟩ := hdb.knownCheck_eq_some hknown
        exact .inl ⟨_, old, hrow, hdecode, detectCheck_eq_none_iff.1 hevent⟩
      | some event =>
        let c : CheckChange :=
          { record := d, pullNumber := number, existingId := some old.id, event }
        have hc : c ∈ (db.changesFor repositoryId f).updatedChecks :=
          (mem_updatedChecks hf).2 ⟨hnumber, hd, old, hknown, rfl, hevent⟩
        exact .inr ⟨c, List.mem_append_right _ hc, rfl, rfl⟩

/-- After the changes of a change set all discovered records agree with their rows. -/
theorem converged_store (hdb : db.Sound) (hf : f.Distinct) (hstorable : f.Storable)
    (hread : ∀ p ∈ f.pulls, db.Readable repositoryId f.checks p.number)
    (hok : (db.changesFor repositoryId f).store repositoryId time db = .ok db') :
    Converging repositoryId f [] [] db' := by
  let P (rest : ChangeSet) (s : Database) : Prop :=
    Converging repositoryId f (rest.newPulls ++ rest.updatedPulls)
      (rest.newChecks ++ rest.updatedChecks) s
  have hlast : P (.empty repositoryId) db' := by
    refine store_changesFor_keeps hdb hf (fun c hc rest s s' hs hok hP => ?_)
      (fun c hc rest s s' hs hpending hok hP => ?_) (fun c hc rest s s' hs hok hP => ?_)
      (fun c hc rest s s' hs hpending hok hP => ?_) (converging_changesFor hdb hf hread) hok
    · have hmem : c.record ∈ f.pulls := by
        have hrecord := List.mem_map_of_mem hc (f := (·.record))
        rw [newPulls_records] at hrecord
        exact (List.mem_filter.1 hrecord).1
      refine Converging.writePull hP hf hmem (fun d hd => ?_)
        (pullAgrees_addPull (hstorable.pulls _ hmem) hok) (fun number hne => ?_)
        (checkRowOf?_addPull hok hs repositoryId)
      · simpa [or_assoc] using hd
      · rw [pullRow?_addPull hok, if_neg fun h => hne h.2]
    · have hmem : c.record ∈ f.pulls := (mem_updatedPulls.1 hc).1
      have ⟨id, _, _, hid, _⟩ := hpending
      refine Converging.writePull hP hf hmem (fun d hd => ?_)
        (pullAgrees_replacePull (hstorable.pulls _ hmem) hpending hok)
        (fun number hne => pullRow?_replacePull_of_ne hs hpending hok hne)
        (checkRowOf?_replacePull hid hok repositoryId)
      simpa [or_left_comm] using hd
    · obtain ⟨hnumber, hmem, -⟩ := (mem_newChecks hf).1 hc
      refine Converging.writeCheck hP hf hnumber hmem (fun d hd => ?_)
        (checkAgrees_addCheck (hstorable.checksFor hmem) hs hok) (fun number externalId hne => ?_)
        (pullRow?_addCheck hs hok repositoryId)
      · simpa [or_assoc] using hd
      · rw [checkRowOf?_addCheck hs hok, if_neg fun h => hne (Prod.ext h.2.1 h.2.2)]
    · obtain ⟨hnumber, hmem, -⟩ := (mem_updatedChecks hf).1 hc
      have ⟨id, _, _, hid, _⟩ := hpending
      refine Converging.writeCheck hP hf hnumber hmem (fun d hd => ?_)
        (checkAgrees_replaceCheck (hstorable.checksFor hmem) hpending hok)
        (fun number externalId hne => checkRowOf?_replaceCheck_of_ne hs hpending hok hne)
        (pullRow?_replaceCheck hid hok repositoryId)
      simpa [or_left_comm] using hd
  exact hlast

/-- Records that agree with their rows bring no changes. -/
theorem changesFor_eq_empty (hdb : db.Sound) (h : Converging repositoryId f [] [] db) :
    (∀ p ∈ f.pulls, db.Readable repositoryId f.checks p.number) ∧
      db.changesFor repositoryId f = .empty repositoryId := by
  have hnumber {p : FetchedPullRequest} (hp : p ∈ f.pulls) : p.number ∈ f.numbers :=
    List.mem_map_of_mem hp
  have hread : ∀ p ∈ f.pulls, db.Readable repositoryId f.checks p.number := fun p hp =>
    hdb.readable_iff.2 ⟨h.pullRows _ (hnumber hp), h.checkRows _ (hnumber hp)⟩
  have hpull : ∀ p ∈ f.pulls, db.pullChange repositoryId p = none := by
    intro p hp
    obtain ⟨r, old, hr, hdecode, hsnapshot⟩ := h.pullAgrees hp
    exact pullChange_eq_none (knownPull_of_row hr hdecode) hsnapshot
  have hchecks : ∀ p ∈ f.pulls, db.changesOfChecks repositoryId f p.number = [] := by
    refine fun p hp => changesOfChecks_eq_nil fun c hc => ?_
    obtain ⟨r, old, hr, hdecode, hsnapshot⟩ := h.checkAgrees (hnumber hp) hc
    have hget : (f.checks.get? p.number).isSome := Findings.isSome_get?_of_mem hc
    exact ⟨old, hdb.knownCheck_of_row (hread p hp) hget hr hdecode, hsnapshot⟩
  refine ⟨hread, ?_⟩
  rw [changesFor, List.filterMap_eq_nil_iff.2 hpull, List.flatMap_eq_nil_iff.2 hchecks]
  rfl

end Database

section Passes

variable {service : GitHub.Service} {config : Configuration} {faults : Faults} {now : Moment}
  {repo : RepositoryContext} {since : Option Instant} {db : Database} {cache : Cache} {f : Findings}

theorem converged_of_success (hdb : db.Sound)
    (hdiscover : (discover service config now repo since cache).1 = .ok f) (hf : f.Distinct)
    (hstorable : f.Storable)
    (hsuccess :
      (runPass service config faults now repo since false db cache).result.success = true) :
    (runPass service config faults now repo since false db cache).db.Sound ∧
      Converging repo.id f [] []
        (runPass service config faults now repo since false db cache).db := by
  rw [runPass_eq] at hsuccess ⊢
  obtain ⟨f', changes, n, hdiscover', hdetect, hwrite⟩ := succeeds_iff.1 hsuccess
  obtain rfl : f' = f := Except.ok.inj (hdiscover'.symm.trans hdiscover)
  obtain ⟨hread, rfl⟩ := detect_eq_ok_iff.1 (detect_never hdetect)
  have hstore := (synchronize_eq_ok.1 hwrite).1
  exact ⟨hdb.store hstore, Database.converged_store hdb hf hstorable hread hstore⟩

/-- A pass that finds nothing to change succeeds and leaves the database as it is. -/
theorem pass_without_changes {isTrial : Bool}
    (hdiscover : (discover service config now repo since cache).1 = .ok f)
    (hdetect : detect db .never repo.id f = .ok (.empty repo.id)) :
    let pass := runPass service config .never now repo since isTrial db cache
    pass.result.success = true ∧ pass.result.changesDetected = 0 ∧ pass.db = db := by
  intro pass
  have houtcome : PassOutcome service config .never now repo since isTrial db db cache pass :=
    passOutcome_runPass
  cases houtcome with
  | undiscovered hdiscover' => simp [hdiscover] at hdiscover'
  | undetected hdiscover' hdetect' =>
    obtain rfl := Except.ok.inj (hdiscover.symm.trans hdiscover')
    simp [hdetect] at hdetect'
  | rolledBack hdiscover' hdetect' _ hwrite =>
    obtain rfl := Except.ok.inj (hdiscover.symm.trans hdiscover')
    obtain rfl := Except.ok.inj (hdetect.symm.trans hdetect')
    exact absurd hwrite (by
      simp [synchronize, ChangeSet.hasChanges, ChangeSet.total, ChangeSet.empty])
  | completed hdiscover' hdetect' _ hsuccess hdetected hdb =>
    obtain rfl := Except.ok.inj (hdiscover.symm.trans hdiscover')
    obtain rfl := Except.ok.inj (hdetect.symm.trans hdetect')
    refine ⟨hsuccess, hdetected, ?_⟩
    rcases hdb with ⟨-, hdb⟩ | ⟨-, n, hwrite⟩
    · exact hdb
    · exact (Prod.mk.inj (Except.ok.inj hwrite)).2.symm

/-- A pass that succeeds stores what it discovered, each record in one row. As long as the service
shows the same, the next pass detects no changes and leaves the database as it is. -/
theorem pass_converges (hdb : db.Sound)
    (hdiscover : (discover service config now repo since cache).1 = .ok f) (hf : f.Distinct)
    (hstorable : f.Storable)
    (hsuccess :
      (runPass service config faults now repo since false db cache).result.success = true) :
    let first := runPass service config faults now repo since false db cache
    (∀ p ∈ f.pulls, ∃ id row old,
      (first.db.pulls.select fun row => row.isAt repo.id p.number) = [(id, row)] ∧
        row.decode id = .ok old ∧ old.snapshot = p.snapshot) ∧
    (∀ e ∈ f.checks, ∃ pullId pullRow,
      (first.db.pulls.select fun row => row.isAt repo.id e.1) = [(pullId, pullRow)] ∧
        ∀ c ∈ e.2, ∃ id row old,
          (first.db.checks.select fun row => row.isAt pullId c.externalId) = [(id, row)] ∧
            row.decode id = .ok old ∧ old.snapshot = c.snapshot) ∧
    ∀ later : Moment, now.ticks ≤ later.ticks →
      cache.Reflects service config repo since now.ticks → ∀ isTrial,
        let second := runPass service config .never later repo since isTrial first.db first.cache
        second.result.success = true ∧ second.result.changesDetected = 0 ∧
          second.db = first.db := by
  intro first
  obtain ⟨hsound, hconverged⟩ := converged_of_success hdb hdiscover hf hstorable hsuccess
  change first.db.Sound at hsound
  change Converging repo.id f [] [] first.db at hconverged
  refine ⟨fun p hp => ?_, fun e he => ?_, fun later hlater hreflects isTrial => ?_⟩
  · exact (hconverged.pullAgrees hp).exists_only_row hsound
  · obtain ⟨hget, p, hp, -, hnumber⟩ := mem_checks_of_discover hdiscover he
    have hnumbers : e.1 ∈ f.numbers := hnumber ▸ List.mem_map_of_mem hp
    obtain ⟨r, old, hr, -⟩ := hconverged.pullAgrees hp
    rw [hnumber] at hr
    have hrow : (first.db.pulls.select fun row => row.isAt repo.id e.1) = [(r.1, r.2)] := by
      rw [hsound.select_pulls, hr]
      rfl
    refine ⟨r.1, r.2, hrow, fun c hc => ?_⟩
    have hmem : c ∈ f.checksFor e.1 := by rwa [Findings.checksFor, hget]
    exact (hconverged.checkAgrees hnumbers hmem).exists_only_row hsound hr
  · obtain ⟨hshown, hcache⟩ := discover_of_reflects hreflects
    have hfirst : first.cache = (discover service config now repo since cache).2.1 :=
      runPass_cache hsuccess
    rw [← hfirst] at hcache
    have hagain : (discover service config later repo since first.cache).1 = .ok f := by
      rw [(discover_of_reflects (hcache.later hlater)).1, ← hshown, hdiscover]
    obtain ⟨hread, hempty⟩ := Database.changesFor_eq_empty hsound hconverged
    exact pass_without_changes hagain (detect_eq_ok_iff.2 ⟨hread, hempty.symm⟩)

end Passes

theorem storable_sample : sampleFindings.Storable := by
  have htimes : ∀ p ∈ sampleFindings.pulls, p.createdAt.Storable ∧ p.updatedAt.Storable ∧
      p.closedAt = none ∧ p.mergedAt = none := by decide +kernel
  have hnone : ∀ e ∈ sampleFindings.checks, ∀ c ∈ e.2,
      c.startedAt = none ∧ c.completedAt = none := by decide +kernel
  refine ⟨fun p hp => ?_, fun e he c hc => ?_⟩
  · obtain ⟨hcreated, hupdated, hclosed, hmerged⟩ := htimes p hp
    exact ⟨hcreated, hupdated, by simp [hclosed], by simp [hmerged]⟩
  · obtain ⟨hstarted, hcompleted⟩ := hnone e he c hc
    exact ⟨by simp [hstarted], by simp [hcompleted]⟩

/-- A first pass over the sample repository stores two records, and the next one nothing. -/
theorem pass_converges_sample :
    let first := runPass (sampleService false) {} .never sampleMoment sampleRepository none false
      sampleDatabase sampleCache
    let second := runPass (sampleService false) {} .never laterMoment sampleRepository none false
      first.db first.cache
    first.result.changesDetected = 2 ∧ second.result.changesDetected = 0 ∧
      second.db = first.db := by
  have hsuccess : (runPass (sampleService false) {} .never sampleMoment sampleRepository none false
      sampleDatabase sampleCache).result.success = true := by decide +kernel
  obtain ⟨-, -, hagain⟩ := pass_converges (.of_rows_eq_nil rfl rfl) discover_sample distinct_sample
    storable_sample hsuccess
  obtain ⟨-, hnone, hsame⟩ :=
    hagain laterMoment (by decide) (.of_forall_ne (by simp [sampleCache])) false
  exact ⟨by decide +kernel, hnone, hsame⟩

end PullWatch
