import PullWatch.Proofs.Detection

/-!
# Change detection is exact

A fresh record is reported exactly when it is unseen or differs from the stored one in an attribute
that is compared, and the event tells no more and no less than the difference: its values after,
put into the stored snapshot, give the fresh one, and its values before take the fresh snapshot back
to the stored one.

Whether two records agree in an attribute is stated on the records themselves, not on the typed
values that detection compares.

## Main definitions

* `PullRequest.agreesAt`, `CheckRun.agreesAt`: two records have one value of an attribute.
* `PullRequest.differing`, `CheckRun.differing`: the attributes in which two records differ.
* `PullSnapshot.set`, `CheckSnapshot.set`, `patched`: giving attributes values.
* `Event.TellsPull`, `Event.TellsCheck`: an event tells a difference.
* `CheckRun.isNotable`, `Event.Reports`: the fresh check runs to be reported, and how.

## Main results

* `value_patched`: what a patch makes of an attribute.
* `PullSnapshot.redo`, `PullSnapshot.undo`, `CheckSnapshot.redo`, `CheckSnapshot.undo`: the
  differences of two snapshots take one to the other.
* `detection_exact`: detection reports what is new or differs, and nothing else.
-/

namespace PullWatch

/-! ### Agreement of records -/

/-- Two pull requests have one value of an attribute. -/
def PullRequest.agreesAt (a b : PullRequest) : PullField → Bool
  | .created => true
  | .title => a.title = b.title
  | .state => a.state = b.state
  | .draft => a.draft = b.draft
  | .headSha => a.headSha = b.headSha
  | .baseSha => a.baseSha = b.baseSha
  | .body => a.body = b.body
  | .author => a.author = b.author
  | .lastUpdatedAt => a.updatedAt = b.updatedAt

/-- The attributes in which two pull requests differ, in reporting order. -/
def PullRequest.differing (a b : PullRequest) : List PullField :=
  PullField.compared.filter fun f => !a.agreesAt b f

/-- Two check runs have one value of an attribute. -/
def CheckRun.agreesAt (a b : CheckRun) : CheckField → Bool
  | .created => true
  | .status => a.status = b.status
  | .conclusion => a.conclusion = b.conclusion
  | .outputSummary => a.outputSummary = b.outputSummary
  | .outputText => a.outputText = b.outputText
  | .startedAt => a.startedAt = b.startedAt
  | .completedAt => a.completedAt = b.completedAt
  | .detailsUrl => a.detailsUrl = b.detailsUrl
  | .logsUrl => a.logsUrl = b.logsUrl

/-- The attributes in which two check runs differ, in reporting order. -/
def CheckRun.differing (a b : CheckRun) : List CheckField :=
  CheckField.compared.filter fun f => !a.agreesAt b f

/-- No two values of an attribute are compared as one. -/
theorem PullRequest.agreesAt_iff {a b : PullRequest} {f : PullField} :
    a.agreesAt b f = true ↔ a.snapshot.value f = b.snapshot.value f := by
  cases f <;> simp [agreesAt, snapshot, PullSnapshot.value, FieldValue.ofText?_inj]

/-- No two values of an attribute are compared as one. -/
theorem CheckRun.agreesAt_iff {a b : CheckRun} {f : CheckField} :
    a.agreesAt b f = true ↔ a.snapshot.value f = b.snapshot.value f := by
  cases f <;> simp [agreesAt, snapshot, CheckSnapshot.value, FieldValue.ofText?_inj,
    FieldValue.ofTime?_inj, FieldValue.ofConclusion?_inj]

/-- Every attribute but the marker is compared. -/
theorem PullRequest.snapshot_eq_iff {a b : PullRequest} :
    a.snapshot = b.snapshot ↔ ∀ f, a.agreesAt b f = true := by
  simp only [agreesAt_iff]
  exact ⟨fun h f => by rw [h], fun h => PullSnapshot.eq_iff.2 fun f _ => h f⟩

theorem CheckRun.differing_eq_nil_iff {a b : CheckRun} :
    a.differing b = [] ↔ a.snapshot = b.snapshot := by
  simp [differing, CheckSnapshot.eq_iff, List.filter_eq_nil_iff, agreesAt_iff]

/-! ### Patches -/

/-- The snapshot with a value for an attribute. A value of the wrong type changes nothing. -/
def PullSnapshot.set (s : PullSnapshot) : ChangedField → FieldValue → PullSnapshot
  | .pull .title, .text v => { s with title := v }
  | .pull .state, .state v => { s with state := v }
  | .pull .draft, .flag v => { s with draft := v }
  | .pull .headSha, .text v => { s with headSha := v }
  | .pull .baseSha, .text v => { s with baseSha := v }
  | .pull .body, .text v => { s with body := some v }
  | .pull .body, .absent => { s with body := none }
  | .pull .author, .text v => { s with author := v }
  | .pull .lastUpdatedAt, .time v => { s with lastUpdatedAt := v }
  | _, _ => s

/-- The snapshot with a value for an attribute. A value of the wrong type changes nothing. -/
def CheckSnapshot.set (s : CheckSnapshot) : ChangedField → FieldValue → CheckSnapshot
  | .check .status, .status v => { s with status := v }
  | .check .conclusion, .conclusion v => { s with conclusion := some v }
  | .check .conclusion, .absent => { s with conclusion := none }
  | .check .outputSummary, .text v => { s with outputSummary := some v }
  | .check .outputSummary, .absent => { s with outputSummary := none }
  | .check .outputText, .text v => { s with outputText := some v }
  | .check .outputText, .absent => { s with outputText := none }
  | .check .startedAt, .time v => { s with startedAt := some v }
  | .check .startedAt, .absent => { s with startedAt := none }
  | .check .completedAt, .time v => { s with completedAt := some v }
  | .check .completedAt, .absent => { s with completedAt := none }
  | .check .detailsUrl, .text v => { s with detailsUrl := some v }
  | .check .detailsUrl, .absent => { s with detailsUrl := none }
  | .check .logsUrl, .text v => { s with logsUrl := some v }
  | .check .logsUrl, .absent => { s with logsUrl := none }
  | _, _ => s

/-- A snapshot with values for some attributes, given in order. -/
def patched {σ : Type} (set : σ → ChangedField → FieldValue → σ) (s : σ)
    (values : List (ChangedField × FieldValue)) : σ :=
  values.foldl (fun s a => set s a.1 a.2) s

/-- The values after the change. -/
def Event.newValues (e : Event) : List (ChangedField × FieldValue) :=
  e.diffs.map fun d => (d.field, d.new)

/-- The values before the change. -/
def Event.oldValues (e : Event) : List (ChangedField × FieldValue) :=
  e.diffs.map fun d => (d.field, d.old)

/-- Giving an attribute the value it has in `t` changes that attribute only. -/
theorem PullSnapshot.value_set (s t : PullSnapshot) (f g : PullField) :
    (s.set (.pull f) (t.value f)).value g = if g = f then t.value g else s.value g := by
  cases f
  case body =>
    cases hbody : t.body <;> cases g <;> simp [PullSnapshot.set, value, FieldValue.ofText?, hbody]
  all_goals
    cases g <;> rfl

/-- Giving an attribute the value it has in `t` changes that attribute only. -/
theorem CheckSnapshot.value_set (s t : CheckSnapshot) (f g : CheckField) :
    (s.set (.check f) (t.value f)).value g = if g = f then t.value g else s.value g := by
  obtain ⟨status, conclusion, outputSummary, outputText, startedAt, completedAt, detailsUrl,
    logsUrl⟩ := t
  cases f
  case created | status => cases g <;> rfl
  case conclusion => cases conclusion <;> cases g <;> rfl
  case outputSummary => cases outputSummary <;> cases g <;> rfl
  case outputText => cases outputText <;> cases g <;> rfl
  case startedAt => cases startedAt <;> cases g <;> rfl
  case completedAt => cases completedAt <;> cases g <;> rfl
  case detailsUrl => cases detailsUrl <;> cases g <;> rfl
  case logsUrl => cases logsUrl <;> cases g <;> rfl

section Patches

variable {σ φ : Type} [DecidableEq φ] {set : σ → ChangedField → FieldValue → σ}
  {value : σ → φ → FieldValue} {tag : φ → ChangedField}

/-- Giving attributes the values they have in `t` changes those attributes only. -/
theorem value_patched
    (hset : ∀ s t f g, value (set s (tag f) (value t f)) g = if g = f then value t g else value s g)
    (t : σ) (fields : List φ) (s : σ) (g : φ) :
    value (patched set s (fields.map fun f => (tag f, value t f))) g =
      if g ∈ fields then value t g else value s g := by
  induction fields generalizing s with
  | nil => rfl
  | cons f fields ih =>
    rw [List.map_cons, patched, List.foldl_cons, ← patched, ih, hset]
    by_cases hg : g ∈ fields <;> simp [hg]

/-- The attributes in which two snapshots differ take one to the other. -/
theorem value_patched_differing
    (hset : ∀ s t f g, value (set s (tag f) (value t f)) g = if g = f then value t g else value s g)
    {s t : σ} {fields : List φ} {g : φ} (hg : g ∈ fields) :
    value (patched set s ((fields.filter fun f => value s f ≠ value t f).map
      fun f => (tag f, value t f))) g = value t g := by
  rw [value_patched hset]
  split_ifs with hmem
  · rfl
  · simpa [hg] using hmem

end Patches

namespace PullSnapshot

/-- The values after take the old snapshot to the new one. -/
theorem redo (old new : PullSnapshot) :
    patched set old ((differences .pull PullField.compared old.value new.value).map
      fun d => (d.field, d.new)) = new := by
  rw [eq_iff, differences, List.map_map]
  exact fun f hf => value_patched_differing value_set hf

/-- The values before take the new snapshot back to the old one. -/
theorem undo (old new : PullSnapshot) :
    patched set new ((differences .pull PullField.compared old.value new.value).map
      fun d => (d.field, d.old)) = old := by
  rw [eq_iff, differences, List.map_map]
  simp only [ne_comm (a := old.value _)]
  exact fun f hf => value_patched_differing value_set hf

end PullSnapshot

namespace CheckSnapshot

/-- The values after take the old snapshot to the new one. -/
theorem redo (old new : CheckSnapshot) :
    patched set old ((differences .check CheckField.compared old.value new.value).map
      fun d => (d.field, d.new)) = new := by
  rw [eq_iff, differences, List.map_map]
  exact fun f hf => value_patched_differing value_set hf

/-- The values before take the new snapshot back to the old one. -/
theorem undo (old new : CheckSnapshot) :
    patched set new ((differences .check CheckField.compared old.value new.value).map
      fun d => (d.field, d.old)) = old := by
  rw [eq_iff, differences, List.map_map]
  simp only [ne_comm (a := old.value _)]
  exact fun f hf => value_patched_differing value_set hf

end CheckSnapshot

/-! ### What an event tells -/

namespace Event

/-- The event tells how a fresh pull request differs from the stored one. -/
structure TellsPull (e : Event) (old new : PullRequest) : Prop where
  subject : e.subject = .pullRequest new.number (some old.snapshot) new.snapshot
  fields : e.changedFields = (old.differing new).map .pull
  redo : patched PullSnapshot.set old.snapshot e.newValues = new.snapshot
  undo : patched PullSnapshot.set new.snapshot e.oldValues = old.snapshot
  kind : e.kind = if old.state = new.state then .pullUpdated else .pullStateChanged

/-- The event tells how a fresh check run differs from the stored one. -/
structure TellsCheck (e : Event) (old new : CheckRun) : Prop where
  subject : e.subject = .checkRun new.externalId (some old.snapshot) new.snapshot
  fields : e.changedFields = (old.differing new).map .check
  redo : patched CheckSnapshot.set old.snapshot e.newValues = new.snapshot
  undo : patched CheckSnapshot.set new.snapshot e.oldValues = old.snapshot
  kind : e.kind =
    if old.status = new.status ∧ old.conclusion = new.conclusion then .checkUpdated
    else .checkStatusChanged

/-- The event announces a check run that was not seen before. -/
structure AnnouncesCheck (e : Event) (new : CheckRun) : Prop where
  subject : e.subject = .checkRun new.externalId none new.snapshot
  fields : e.changedFields = [.check .created]
  kind : e.kind = .checkCreated

/-- The event is the one that a fresh check run calls for, given the stored ones. -/
structure Reports (e : Event) (stored : List StoredCheckRun) (new : CheckRun) : Prop where
  unseen : (∀ s ∈ stored, s.externalId ≠ new.externalId) → e.AnnouncesCheck new
  seen : ∀ s ∈ stored, s.externalId = new.externalId → e.TellsCheck s.toCheckRun new

end Event

/-- A fresh check run is unseen, or differs from a stored one with its external id. -/
def CheckRun.isNotable (stored : List StoredCheckRun) (new : CheckRun) : Bool :=
  (stored.all fun s => s.externalId ≠ new.externalId) ||
    stored.any fun s => s.externalId = new.externalId && s.differing new ≠ []

section Events

variable {e : Event}

/-- The event of a known pull request tells how it differs. -/
theorem tellsPull_of_detectPull {old : StoredPullRequest} {new : PullRequest}
    (h : detectPull (some old) new = some e) : e.TellsPull old.toPullRequest new := by
  have hfields : e.changedFields = (old.differing new).map .pull := by
    simp [Event.changedFields, diffs_of_detectPull h, differences, PullRequest.differing,
      ← PullRequest.agreesAt_iff]
  simp only [detectPull] at h
  split_ifs at h with _ hstate
  all_goals
    obtain rfl := Option.some.inj h
    exact ⟨rfl, hfields, PullSnapshot.redo .., PullSnapshot.undo .., by simp [hstate]⟩

/-- The event of a known check run tells how it differs. -/
theorem tellsCheck_of_detectCheck {old : StoredCheckRun} {new : CheckRun}
    (h : detectCheck (some old) new = some e) : e.TellsCheck old.toCheckRun new := by
  have hfields : e.changedFields = (old.differing new).map .check := by
    simp [Event.changedFields, diffs_of_detectCheck h, differences, CheckRun.differing,
      ← CheckRun.agreesAt_iff]
  simp only [detectCheck] at h
  split_ifs at h with _ hend
  all_goals
    obtain rfl := Option.some.inj h
    exact ⟨rfl, hfields, CheckSnapshot.redo .., CheckSnapshot.undo .., by simp [hend]⟩

theorem announcesCheck_of_detectCheck {new : CheckRun} (h : detectCheck none new = some e) :
    e.AnnouncesCheck new := by
  obtain rfl := Option.some.inj h
  exact ⟨rfl, rfl, rfl⟩

end Events

/-! ### The check runs of a pull request -/

section Lists

variable {stored : List StoredCheckRun} {new : CheckRun} {e : Event}

theorem storedWith_eq_none_iff {externalId : UInt64} :
    storedWith stored externalId = none ↔ ∀ s ∈ stored, s.externalId ≠ externalId := by
  simp [storedWith, List.find?_eq_none]

/-- Among stored check runs with distinct external ids there is one to compare with. -/
theorem storedWith_of_mem (hstored : (stored.map (·.externalId)).Nodup) {s : StoredCheckRun}
    (hs : s ∈ stored) : storedWith stored s.externalId = some s := by
  cases hfound : storedWith stored s.externalId with
  | none => exact absurd rfl (storedWith_eq_none_iff.1 hfound s hs)
  | some t =>
    obtain ⟨ht, hid⟩ := Database.storedWith_eq_some hfound
    rw [List.inj_on_of_nodup_map hstored ht hs hid]

/-- Notable check runs are those that detection does not pass over. -/
theorem isNotable_iff (hstored : (stored.map (·.externalId)).Nodup) :
    new.isNotable stored = true ↔ detectCheck (storedWith stored new.externalId) new ≠ none := by
  cases hfound : storedWith stored new.externalId with
  | none =>
    have hunseen := storedWith_eq_none_iff.1 hfound
    simpa [CheckRun.isNotable, detectCheck] using .inl hunseen
  | some s =>
    obtain ⟨hs, hid⟩ := Database.storedWith_eq_some hfound
    have honly (t : StoredCheckRun) (ht : t ∈ stored) (htid : t.externalId = new.externalId) :
        t = s := List.inj_on_of_nodup_map hstored ht hs (htid.trans hid.symm)
    rw [ne_eq, detectCheck_eq_none_iff, ← CheckRun.differing_eq_nil_iff]
    simp only [CheckRun.isNotable, Bool.or_eq_true, List.all_eq_true, List.any_eq_true,
      Bool.and_eq_true, decide_eq_true_eq]
    constructor
    · rintro (hunseen | ⟨t, ht, htid, hdiffers⟩)
      · exact absurd hid (hunseen s hs)
      · rwa [← honly t ht htid]
    · exact fun hdiffers => .inr ⟨s, hs, hid, hdiffers⟩

theorem reports_of_detectCheck (hstored : (stored.map (·.externalId)).Nodup)
    (h : detectCheck (storedWith stored new.externalId) new = some e) : e.Reports stored new where
  unseen hunseen := by
    rw [storedWith_eq_none_iff.2 hunseen] at h
    exact announcesCheck_of_detectCheck h
  seen s hs hid := by
    rw [← hid, storedWith_of_mem hstored hs] at h
    exact tellsCheck_of_detectCheck h

/-- What a partial function keeps of a list, entry by entry. -/
theorem forall₂_filterMap {α β : Type} {f : α → Option β} {p : α → Bool} {R : α → β → Prop}
    (hp : ∀ a, p a = true ↔ f a ≠ none) (hR : ∀ a b, f a = some b → R a b) (l : List α) :
    List.Forall₂ R (l.filter p) (l.filterMap f) := by
  induction l with
  | nil => exact .nil
  | cons a l ih =>
    cases hf : f a with
    | none => simpa [hp, hf] using ih
    | some b => simpa [hp, hf] using ⟨hR a b hf, ih⟩

end Lists

/-- Detection reports exactly what is new or differs. A stored pull request and a fresh one give no
event when they agree in every attribute, and otherwise one that tells the difference. Fresh check
runs, against stored ones with distinct external ids, give one event for each that is unseen or
differs, in their order. -/
theorem detection_exact :
    (∀ (old : StoredPullRequest) (new : PullRequest),
      (detectPull (some old) new = none ↔ ∀ f, old.agreesAt new f = true) ∧
        ∀ e, detectPull (some old) new = some e → e.TellsPull old.toPullRequest new) ∧
    ∀ (stored : List StoredCheckRun) (fresh : List CheckRun),
      (stored.map (·.externalId)).Nodup →
        List.Forall₂ (fun new e => e.Reports stored new)
          (fresh.filter (·.isNotable stored)) (detectChecks stored fresh) := by
  refine ⟨fun old new => ⟨?_, fun e => tellsPull_of_detectPull⟩, fun stored fresh hstored => ?_⟩
  · rw [detectPull_eq_none_iff]
    exact PullRequest.snapshot_eq_iff
  · exact forall₂_filterMap (fun _ => isNotable_iff hstored)
      (fun _ _ => reports_of_detectCheck hstored) fresh

/-- An open pull request with a title. -/
def openPull (title : String) (state : PullState) : PullRequest :=
  { number := 1, title, author := "octo", state, draft := false, baseBranch := "main"
    baseSha := "b0", headBranch := "topic", headSha := "h0", url := "https://example.org/1"
    body := none, labels := [], assignees := [], milestone := none, createdAt := .epoch
    updatedAt := .epoch, closedAt := none, mergedAt := none }

/-- A check run that ended in a conclusion, or runs. -/
def buildRun (externalId : UInt64) (conclusion : Option CheckConclusion) : CheckRun :=
  { externalId, name := "build", status := if conclusion.isSome then .completed else .inProgress
    conclusion, suiteId := none, detailsUrl := none, logsUrl := none, outputTitle := none
    outputSummary := none, outputText := none, startedAt := none, completedAt := none }

/-- Two check runs of one pull request, the second of which has ended. -/
def storedRuns : List StoredCheckRun :=
  [{ buildRun 1 none with id := 1, pullRequestId := 1 },
   { buildRun 2 (some .success) with id := 2, pullRequestId := 1 }]

/-- A pull request is renamed and merged; of its check runs one fails, one is left alone and one is
new. -/
theorem detection_exact_sample :
    (∃ e, detectPull (some { openPull "Draft" .opened with id := 1, repositoryId := 1 })
        (openPull "Final" .merged) = some e ∧
      e.changedFields = [.pull .title, .pull .state] ∧ e.kind = .pullStateChanged) ∧
    (storedRuns.map (·.externalId)).Nodup ∧
    ∃ failed new, detectChecks storedRuns
        [buildRun 2 (some .success), buildRun 1 (some .failure), buildRun 3 none] = [failed, new] ∧
      failed.changedFields = [.check .status, .check .conclusion] ∧
      failed.kind = .checkStatusChanged ∧ new.AnnouncesCheck (buildRun 3 none) := by
  have hdistinct : (storedRuns.map (·.externalId)).Nodup := by decide
  obtain ⟨e, he⟩ : ∃ e, detectPull
      (some { openPull "Draft" .opened with id := 1, repositoryId := 1 })
      (openPull "Final" .merged) = some e := ⟨_, rfl⟩
  have hpull := (detection_exact.1 _ _).2 e he
  have hruns := detection_exact.2 storedRuns
    [buildRun 2 (some .success), buildRun 1 (some .failure), buildRun 3 none] hdistinct
  have hnotable : [buildRun 2 (some .success), buildRun 1 (some .failure), buildRun 3 none].filter
      (·.isNotable storedRuns) = [buildRun 1 (some .failure), buildRun 3 none] := by decide
  rw [hnotable] at hruns
  obtain ⟨failed, rest, hfailed, hrest, hevents⟩ := List.forall₂_cons_left_iff.1 hruns
  obtain ⟨new, _, hnew, hnil, rfl⟩ := List.forall₂_cons_left_iff.1 hrest
  obtain rfl := List.forall₂_nil_left_iff.1 hnil
  have htells := hfailed.seen _ (List.mem_cons_self ..) rfl
  exact ⟨⟨e, he, hpull.fields, hpull.kind⟩, hdistinct, failed, new, hevents, htells.fields,
    htells.kind, hnew.unseen (by decide)⟩

end PullWatch
