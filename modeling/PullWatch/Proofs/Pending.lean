import PullWatch.Proofs.Fitting

/-!
# A detected change set, change by change

Detection compares all records before the first change is written. Of findings without repetitions
every change is about a record of its own, so when its turn comes the row that it replaces is still
the one that it was compared with.

## Main definitions

* `PullChange.Pending`, `CheckChange.Pending`: the change replaces the row that it was compared
  with.
* `Waiting`: the replacements that are still to be made.

## Main results

* `Database.store_changesFor_keeps`: what every change of a detected change set keeps.
-/

namespace PullWatch

open Database

/-- The change replaces the row of its pull request, with which its record was compared. -/
def PullChange.Pending (repositoryId : Int) (db : Database) (c : PullChange) : Prop :=
  ∃ id row old, c.existingId = some id ∧
    db.pullRow? repositoryId c.record.number = some (id, row) ∧ row.decode id = .ok old ∧
    detectPull (some old) c.record.toPullRequest = some c.event

/-- The change replaces the row of its check run, with which its record was compared. -/
def CheckChange.Pending (repositoryId : Int) (db : Database) (c : CheckChange) : Prop :=
  ∃ id row old, c.existingId = some id ∧
    db.checkRowOf? repositoryId c.pullNumber c.record.externalId = some (id, row) ∧
    row.decode id = .ok old ∧ detectCheck (some old) c.record = some c.event

variable {db db' s s' : Database} {repositoryId : Int} {time : Instant} {f : Findings}

/-! ### Changes that wait -/

namespace PullChange.Pending

variable {c d : PullChange}

theorem addPull (h : c.Pending repositoryId s) (hok : s.addPull repositoryId time d = .ok s') :
    c.Pending repositoryId s' := by
  obtain ⟨id, row, old, hid, hrow, hdecode, hevent⟩ := h
  refine ⟨id, row, old, hid, ?_, hdecode, hevent⟩
  rw [pullRow?_addPull hok, if_neg, hrow]
  rintro ⟨-, hnumber⟩
  rw [hnumber, (addPull_eq_ok.1 hok).1] at hrow
  exact Option.some_ne_none _ hrow.symm

theorem replacePull (hs : s.Sound) (h : c.Pending repositoryId s) (hd : d.Pending repositoryId s)
    (hne : c.record.number ≠ d.record.number) (hok : s.replacePull time d = .ok s') :
    c.Pending repositoryId s' := by
  obtain ⟨id, row, old, hid, hrow, hdecode, hevent⟩ := h
  obtain ⟨other, drow, -, hother, hdrow, -⟩ := hd
  have hids : id ≠ other := by
    rintro rfl
    exact hne (Prod.ext_iff.1 (hs.pullRow?_inj hrow hdrow)).2
  refine ⟨id, row, old, hid, ?_, hdecode, hevent⟩
  rw [pullRow?_replacePull hother hok, hrow, Option.map_some, if_neg hids]

end PullChange.Pending

namespace CheckChange.Pending

variable {c d : CheckChange}

theorem addPull {p : PullChange} (hs : s.Sound) (h : c.Pending repositoryId s)
    (hok : s.addPull repositoryId time p = .ok s') : c.Pending repositoryId s' := by
  obtain ⟨id, row, old, hid, hrow, hdecode, hevent⟩ := h
  exact ⟨id, row, old, hid, by rw [checkRowOf?_addPull hok hs, hrow], hdecode, hevent⟩

theorem replacePull {p : PullChange} (h : c.Pending repositoryId s)
    (hp : p.Pending repositoryId s) (hok : s.replacePull time p = .ok s') :
    c.Pending repositoryId s' := by
  obtain ⟨id, row, old, hid, hrow, hdecode, hevent⟩ := h
  obtain ⟨pid, -, -, hpid, -⟩ := hp
  exact ⟨id, row, old, hid, by rw [checkRowOf?_replacePull hpid hok, hrow], hdecode, hevent⟩

theorem addCheck (hs : s.Sound) (h : c.Pending repositoryId s)
    (hok : s.addCheck repositoryId time d = .ok s') : c.Pending repositoryId s' := by
  obtain ⟨id, row, old, hid, hrow, hdecode, hevent⟩ := h
  refine ⟨id, row, old, hid, ?_, hdecode, hevent⟩
  rw [checkRowOf?_addCheck hs hok, if_neg, hrow]
  rintro ⟨-, hnumber, hext⟩
  obtain ⟨r, hr, hnew, -⟩ := (addCheck_eq_ok hs).1 hok
  rw [checkRowOf?, hnumber, hext, hr, Option.bind_some, hnew] at hrow
  exact Option.some_ne_none _ hrow.symm

theorem replaceCheck (hs : s.Sound) (h : c.Pending repositoryId s) (hd : d.Pending repositoryId s)
    (hne : (c.pullNumber, c.record.externalId) ≠ (d.pullNumber, d.record.externalId))
    (hok : s.replaceCheck time d = .ok s') : c.Pending repositoryId s' := by
  obtain ⟨id, row, old, hid, hrow, hdecode, hevent⟩ := h
  obtain ⟨other, drow, -, hother, hdrow, -⟩ := hd
  have hids : id ≠ other := by
    rintro rfl
    exact hne (Prod.ext_iff.1 (hs.checkRowOf?_inj hrow hdrow)).2
  refine ⟨id, row, old, hid, ?_, hdecode, hevent⟩
  rw [checkRowOf?_replaceCheck hother hok, hrow, Option.map_some, if_neg hids]

end CheckChange.Pending

/-- The changes still to be made that replace rows. Each is about a record of its own, and finds the
row that it was compared with. -/
structure Waiting (repositoryId : Int) (pulls : List PullChange) (checks : List CheckChange)
    (s : Database) : Prop where
  sound : s.Sound
  pendingPulls : ∀ c ∈ pulls, c.Pending repositoryId s
  numbers : (pulls.map (·.record.number)).Nodup
  pendingChecks : ∀ c ∈ checks, c.Pending repositoryId s
  keys : (checks.map fun c => (c.pullNumber, c.record.externalId)).Nodup

namespace Waiting

variable {pulls : List PullChange} {checks : List CheckChange} {p : PullChange} {c : CheckChange}

theorem addPull (h : Waiting repositoryId pulls checks s)
    (hok : s.addPull repositoryId time p = .ok s') : Waiting repositoryId pulls checks s' where
  sound := h.sound.addPull hok
  pendingPulls := fun d hd => (h.pendingPulls d hd).addPull hok
  numbers := h.numbers
  pendingChecks := fun d hd => (h.pendingChecks d hd).addPull h.sound hok
  keys := h.keys

theorem replacePull (h : Waiting repositoryId (p :: pulls) checks s)
    (hok : s.replacePull time p = .ok s') : Waiting repositoryId pulls checks s' := by
  have hp : p.Pending repositoryId s := h.pendingPulls p List.mem_cons_self
  obtain ⟨hnumber, hnumbers⟩ := List.nodup_cons.1 (List.map_cons ▸ h.numbers)
  have ⟨id, _, _, hid, _⟩ := hp
  refine ⟨h.sound.replacePull hid hok, fun d hd => ?_, hnumbers,
    fun d hd => (h.pendingChecks d hd).replacePull hp hok, h.keys⟩
  refine (h.pendingPulls d (List.mem_cons_of_mem _ hd)).replacePull h.sound hp ?_ hok
  intro heq
  exact hnumber (heq ▸ List.mem_map_of_mem hd)

theorem addCheck (h : Waiting repositoryId [] checks s)
    (hok : s.addCheck repositoryId time c = .ok s') : Waiting repositoryId [] checks s' where
  sound := h.sound.addCheck hok
  pendingPulls := by simp
  numbers := h.numbers
  pendingChecks := fun d hd => (h.pendingChecks d hd).addCheck h.sound hok
  keys := h.keys

theorem replaceCheck (h : Waiting repositoryId [] (c :: checks) s)
    (hok : s.replaceCheck time c = .ok s') : Waiting repositoryId [] checks s' := by
  have hc : c.Pending repositoryId s := h.pendingChecks c List.mem_cons_self
  obtain ⟨hkey, hkeys⟩ := List.nodup_cons.1 (List.map_cons ▸ h.keys)
  have ⟨id, _, _, hid, _⟩ := hc
  refine ⟨h.sound.replaceCheck hid hok, by simp, h.numbers, fun d hd => ?_, hkeys⟩
  refine (h.pendingChecks d (List.mem_cons_of_mem _ hd)).replaceCheck h.sound hc ?_ hok
  intro heq
  exact hkey (heq ▸ List.mem_map_of_mem hd)

end Waiting

namespace Database

/-! ### Changes of findings without repetitions -/

theorem waiting_changesFor (hdb : db.Sound) (hf : f.Distinct) :
    Waiting repositoryId (db.changesFor repositoryId f).updatedPulls
      (db.changesFor repositoryId f).updatedChecks db where
  sound := hdb
  pendingPulls := by
    intro c hc
    obtain ⟨-, old, hknown, hid, hevent⟩ := mem_updatedPulls.1 hc
    obtain ⟨row, hrow, hdecode⟩ := knownPull_eq_some hknown
    exact ⟨old.id, row, old, hid, hrow, hdecode, hevent⟩
  numbers := hf.numbers.sublist (updatedPulls_sublist f)
  pendingChecks := by
    intro c hc
    obtain ⟨-, -, old, hknown, hid, hevent⟩ := (mem_updatedChecks hf).1 hc
    obtain ⟨row, hrow, hdecode⟩ := hdb.knownCheck_eq_some hknown
    exact ⟨old.id, row, old, hid, hrow, hdecode, hevent⟩
  keys := hf.checkKeys.sublist (updatedChecks_sublist f)

/-- What every change of a detected change set keeps, as a statement about the changes still to be
made and the database, holds of the database that the change set leaves. A change that replaces a
row finds the row that it was compared with. -/
theorem store_changesFor_keeps {P : ChangeSet → Database → Prop} (hdb : db.Sound) (hf : f.Distinct)
    (haddPull : ∀ c ∈ (db.changesFor repositoryId f).newPulls, ∀ rest s s', s.Sound →
      s.addPull repositoryId time c = .ok s' →
      P { rest with newPulls := c :: rest.newPulls } s → P rest s')
    (hreplacePull : ∀ c ∈ (db.changesFor repositoryId f).updatedPulls, ∀ rest s s', s.Sound →
      c.Pending repositoryId s → s.replacePull time c = .ok s' →
      P { rest with updatedPulls := c :: rest.updatedPulls } s → P rest s')
    (haddCheck : ∀ c ∈ (db.changesFor repositoryId f).newChecks, ∀ rest s s', s.Sound →
      s.addCheck repositoryId time c = .ok s' →
      P { rest with newChecks := c :: rest.newChecks } s → P rest s')
    (hreplaceCheck : ∀ c ∈ (db.changesFor repositoryId f).updatedChecks, ∀ rest s s', s.Sound →
      c.Pending repositoryId s → s.replaceCheck time c = .ok s' →
      P { rest with updatedChecks := c :: rest.updatedChecks } s → P rest s')
    (hstart : P (db.changesFor repositoryId f) db)
    (hok : (db.changesFor repositoryId f).store repositoryId time db = .ok db') :
    P (.empty repositoryId) db' := by
  have hwaiting : Waiting repositoryId (db.changesFor repositoryId f).updatedPulls
      (db.changesFor repositoryId f).updatedChecks db := waiting_changesFor hdb hf
  rcases hchanges : db.changesFor repositoryId f with ⟨i, l₁, l₂, l₃, l₄⟩
  obtain rfl : repositoryId = i := congrArg ChangeSet.repositoryId hchanges
  simp only [hchanges] at haddPull hreplacePull haddCheck hreplaceCheck hstart hok hwaiting
  obtain ⟨db₁, db₂, db₃, h₁, h₂, h₃, h₄⟩ := ChangeSet.store_eq_ok.1 hok
  let P₁ (rest : List PullChange) (s : Database) : Prop :=
    rest ⊆ l₁ ∧ Waiting repositoryId l₂ l₄ s ∧ P ⟨repositoryId, rest, l₂, l₃, l₄⟩ s
  let P₂ (rest : List PullChange) (s : Database) : Prop :=
    rest ⊆ l₂ ∧ Waiting repositoryId rest l₄ s ∧ P ⟨repositoryId, [], rest, l₃, l₄⟩ s
  let P₃ (rest : List CheckChange) (s : Database) : Prop :=
    rest ⊆ l₃ ∧ Waiting repositoryId [] l₄ s ∧ P ⟨repositoryId, [], [], rest, l₄⟩ s
  let P₄ (rest : List CheckChange) (s : Database) : Prop :=
    rest ⊆ l₄ ∧ Waiting repositoryId [] rest s ∧ P ⟨repositoryId, [], [], [], rest⟩ s
  have hstep₁ (c : PullChange) (rest : List PullChange) (s s' : Database) (h : P₁ (c :: rest) s)
      (hok : s.addPull repositoryId time c = .ok s') : P₁ rest s' := by
    obtain ⟨hsub, hwaiting, hP⟩ := h
    exact ⟨(List.cons_subset.1 hsub).2, hwaiting.addPull hok,
      haddPull c (hsub List.mem_cons_self) _ s s' hwaiting.sound hok hP⟩
  have hstep₂ (c : PullChange) (rest : List PullChange) (s s' : Database) (h : P₂ (c :: rest) s)
      (hok : s.replacePull time c = .ok s') : P₂ rest s' := by
    obtain ⟨hsub, hwaiting, hP⟩ := h
    exact ⟨(List.cons_subset.1 hsub).2, hwaiting.replacePull hok,
      hreplacePull c (hsub List.mem_cons_self) _ s s' hwaiting.sound
        (hwaiting.pendingPulls c List.mem_cons_self) hok hP⟩
  have hstep₃ (c : CheckChange) (rest : List CheckChange) (s s' : Database)
      (h : P₃ (c :: rest) s) (hok : s.addCheck repositoryId time c = .ok s') : P₃ rest s' := by
    obtain ⟨hsub, hwaiting, hP⟩ := h
    exact ⟨(List.cons_subset.1 hsub).2, hwaiting.addCheck hok,
      haddCheck c (hsub List.mem_cons_self) _ s s' hwaiting.sound hok hP⟩
  have hstep₄ (c : CheckChange) (rest : List CheckChange) (s s' : Database)
      (h : P₄ (c :: rest) s) (hok : s.replaceCheck time c = .ok s') : P₄ rest s' := by
    obtain ⟨hsub, hwaiting, hP⟩ := h
    exact ⟨(List.cons_subset.1 hsub).2, hwaiting.replaceCheck hok,
      hreplaceCheck c (hsub List.mem_cons_self) _ s s' hwaiting.sound
        (hwaiting.pendingChecks c List.mem_cons_self) hok hP⟩
  obtain ⟨-, hwaiting, hP⟩ : P₁ [] db₁ :=
    Outcome.foldlM_keeps hstep₁ ⟨fun _ => id, hwaiting, hstart⟩ h₁
  obtain ⟨-, hwaiting, hP⟩ : P₂ [] db₂ :=
    Outcome.foldlM_keeps hstep₂ ⟨fun _ => id, hwaiting, hP⟩ h₂
  obtain ⟨-, hwaiting, hP⟩ : P₃ [] db₃ :=
    Outcome.foldlM_keeps hstep₃ ⟨fun _ => id, hwaiting, hP⟩ h₃
  obtain ⟨-, -, hP⟩ : P₄ [] db' :=
    Outcome.foldlM_keeps hstep₄ ⟨fun _ => id, hwaiting, hP⟩ h₄
  exact hP

end Database

end PullWatch
