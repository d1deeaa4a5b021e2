import PullWatch.Proofs.ExactDetection
import PullWatch.Proofs.FittedChanges

/-!
# Which events are passed on

Two procedures judge an event. The rules of severity look at its subject only, and the first rule
that applies decides. Whether the event is passed on depends on its severity, its kind and its
subject. For the events that detection makes, both come down to what was compared: an event is
passed on when a pull request became closed or merged, when a pull request is new and no draft, or
when a check run began to fail, and it is of high severity in the first and the last of these cases.

## Main definitions

* `Comparison`: a fresh record and the stored one, and `Comparison.event?`, the event it gives.
* `Comparison.EndsPull`, `Comparison.OpensPull`, `Comparison.BreaksCheck`: what is worth passing on.

## Main results

* `Subject.severity_eq_high_iff`: what the rules come to.
* `Comparison.isActionable_iff`: which events are passed on.
* `Comparison.isSome_event?`: nothing worth passing on goes without an event.
* `actionable_events_exact`: both for all events, also those of change sets.
-/

namespace PullWatch

/-! ### The rules -/

theorem PullState.isTerminal_iff {s : PullState} :
    s.isTerminal = true ↔ s = .closed ∨ s = .merged := by
  cases s <;> simp [isTerminal]

theorem CheckConclusion.any_isFailure_iff {c : Option CheckConclusion} :
    c.any (·.isFailure) = true ↔ c = some .failure ∨ c = some .timedOut := by
  rcases c with _ | c
  · simp
  · cases c <;> simp [isFailure]

/-- The first two rules give a high severity, and no rule gives a higher one. -/
theorem Subject.severity_eq (s : Subject) :
    s.severity =
      if s.isNewFailure || s.isNewlyTerminal then .high
      else if s.isCompletedOrReady || s.hasNewCommits then .medium else .low := by
  rw [severity, severityRules]
  simp only [List.find?_cons, List.find?_nil]
  cases s.isNewFailure <;> cases s.isNewlyTerminal <;> cases s.isCompletedOrReady <;>
    cases s.hasNewCommits <;> rfl

theorem Subject.severity_eq_high_iff {s : Subject} :
    s.severity = .high ↔ s.isNewFailure = true ∨ s.isNewlyTerminal = true := by
  rw [severity_eq, ← Bool.or_eq_true]
  split_ifs <;> simp_all

theorem Subject.high_le_severity_iff {s : Subject} :
    Severity.high ≤ s.severity ↔ s.severity = .high := by
  rw [severity_eq]
  split_ifs <;> decide

/-! ### Passing on -/

section Passing

variable {e : Event}

/-- Which events of pull requests are passed on. -/
theorem Event.isActionable_pull {number : UInt64} {old : Option PullSnapshot} {new : PullSnapshot}
    (h : e.subject = .pullRequest number old new) :
    e.isActionable = true ↔ .high ≤ e.severity ∨
      if e.kind = .pullCreated then new.draft = false else e.subject.isNewlyTerminal = true := by
  rw [isActionable, Bool.or_eq_true, decide_eq_true_iff, h]
  refine or_congr_right ?_
  cases e.kind <;> simp

/-- Which events of check runs are passed on. -/
theorem Event.isActionable_check {externalId : UInt64} {old : Option CheckSnapshot}
    {new : CheckSnapshot} (h : e.subject = .checkRun externalId old new) :
    e.isActionable = true ↔ .high ≤ e.severity ∨
      e.kind = .checkCreated ∧ new.conclusion.any (·.isFailure) = true := by
  rw [isActionable, Bool.or_eq_true, decide_eq_true_iff, h]
  refine or_congr_right ?_
  cases e.kind <;> simp

end Passing

/-! ### Comparisons -/

/-- What detection compares: a fresh record, and the stored one if there is one. -/
inductive Comparison where
  | pull (old : Option StoredPullRequest) (new : PullRequest)
  | check (old : Option StoredCheckRun) (new : CheckRun)

namespace Comparison

/-- The event that detection makes of a comparison, if it makes one. -/
def event? : Comparison → Option Event
  | pull old new => detectPull old new
  | check old new => detectCheck old new

/-- What the event is about. -/
def subject : Comparison → Subject
  | pull old new => .pullRequest new.number (old.map (·.snapshot)) new.snapshot
  | check old new => .checkRun new.externalId (old.map (·.snapshot)) new.snapshot

/-- A pull request is closed or merged, and was not so before. -/
def EndsPull : Comparison → Prop
  | pull old new =>
    (new.state = .closed ∨ new.state = .merged) ∧ ∀ o ∈ old, o.state ≠ new.state
  | check _ _ => False

/-- A pull request is new and no draft. -/
def OpensPull : Comparison → Prop
  | pull old new => old = none ∧ new.draft = false
  | check _ _ => False

/-- A check run failed or ran out of time, and had not ended in this way before. -/
def BreaksCheck : Comparison → Prop
  | pull _ _ => False
  | check old new =>
    (new.conclusion = some .failure ∨ new.conclusion = some .timedOut) ∧
      ∀ o ∈ old, o.conclusion ≠ new.conclusion

/-- What was found is worth passing on. -/
def IsNews (c : Comparison) : Prop := c.EndsPull ∨ c.OpensPull ∨ c.BreaksCheck

instance : DecidablePred EndsPull
  | pull old new => inferInstanceAs (Decidable
      ((new.state = .closed ∨ new.state = .merged) ∧ ∀ o ∈ old, o.state ≠ new.state))
  | check _ _ => inferInstanceAs (Decidable False)

instance : DecidablePred OpensPull
  | pull old new => inferInstanceAs (Decidable (old = none ∧ new.draft = false))
  | check _ _ => inferInstanceAs (Decidable False)

instance : DecidablePred BreaksCheck
  | pull _ _ => inferInstanceAs (Decidable False)
  | check old new => inferInstanceAs (Decidable
      ((new.conclusion = some .failure ∨ new.conclusion = some .timedOut) ∧
        ∀ o ∈ old, o.conclusion ≠ new.conclusion))

instance : DecidablePred IsNews := fun c =>
  inferInstanceAs (Decidable (c.EndsPull ∨ c.OpensPull ∨ c.BreaksCheck))

theorem isNewlyTerminal_subject {c : Comparison} :
    c.subject.isNewlyTerminal = true ↔ c.EndsPull := by
  cases c with
  | pull old new =>
    cases old <;>
      simp [subject, Subject.isNewlyTerminal, EndsPull, PullRequest.snapshot,
        PullState.isTerminal_iff]
  | check old new => exact iff_of_false Bool.false_ne_true id

theorem isNewFailure_subject {c : Comparison} : c.subject.isNewFailure = true ↔ c.BreaksCheck := by
  cases c with
  | pull old new => exact iff_of_false Bool.false_ne_true id
  | check old new =>
    cases old <;>
      simp [subject, Subject.isNewFailure, BreaksCheck, CheckRun.snapshot,
        CheckConclusion.any_isFailure_iff]

variable {c : Comparison} {e : Event}

/-- The subject of an event holds what was compared, and its severity is that of the rules. -/
theorem subject_of_event? (h : c.event? = some e) :
    e.subject = c.subject ∧ e.severity = c.subject.severity := by
  cases c with
  | pull old new =>
    cases old with
    | none =>
      obtain rfl := Option.some.inj h
      exact ⟨rfl, rfl⟩
    | some old =>
      simp only [event?, detectPull] at h
      split_ifs at h
      all_goals
        obtain rfl := Option.some.inj h
        exact ⟨rfl, rfl⟩
  | check old new =>
    cases old with
    | none =>
      obtain rfl := Option.some.inj h
      exact ⟨rfl, rfl⟩
    | some old =>
      simp only [event?, detectCheck] at h
      split_ifs at h
      all_goals
        obtain rfl := Option.some.inj h
        exact ⟨rfl, rfl⟩

/-- The severity of an event tells whether a pull request ended or a check run began to fail. -/
theorem severity_eq_high_iff (h : c.event? = some e) :
    e.severity = .high ↔ c.EndsPull ∨ c.BreaksCheck := by
  rw [(subject_of_event? h).2, Subject.severity_eq_high_iff, isNewlyTerminal_subject,
    isNewFailure_subject, or_comm]

/-- Which events are passed on. The kind of an event matters for pull requests only: a new check run
that failed is of high severity anyway. -/
theorem isActionable_iff (h : c.event? = some e) : e.isActionable = true ↔ c.IsNews := by
  obtain ⟨hsubject, hseverity⟩ := subject_of_event? h
  have hhigh : .high ≤ e.severity ↔ c.EndsPull ∨ c.BreaksCheck := by
    rw [hseverity, Subject.high_le_severity_iff, ← hseverity, severity_eq_high_iff h]
  cases c with
  | pull old new =>
    rw [Event.isActionable_pull hsubject, hhigh, hsubject, isNewlyTerminal_subject, IsNews]
    by_cases hnew : old = none
    · rw [if_pos ((pullCreated_iff h).2 hnew)]
      simp [BreaksCheck, OpensPull, hnew, PullRequest.snapshot]
    · rw [if_neg (mt (pullCreated_iff h).1 hnew)]
      simp [BreaksCheck, OpensPull, hnew]
  | check old new =>
    have hcreated : e.kind = .checkCreated ∧ new.snapshot.conclusion.any (·.isFailure) = true →
        BreaksCheck (.check old new) := by
      rintro ⟨hkind, hfails⟩
      obtain rfl := (checkCreated_iff h).1 hkind
      exact ⟨CheckConclusion.any_isFailure_iff.1 hfails, by simp⟩
    rw [Event.isActionable_check hsubject, hhigh, or_assoc, or_iff_left_of_imp hcreated, IsNews]
    simp [OpensPull]

/-- Nothing worth passing on goes without an event. -/
theorem isSome_event? (h : c.IsNews) : c.event?.isSome := by
  rw [Option.isSome_iff_ne_none]
  intro hnone
  cases c with
  | pull old new =>
    cases old with
    | none => cases hnone
    | some old =>
      have hstate : old.state = new.state :=
        congrArg PullSnapshot.state (detectPull_eq_none_iff.1 hnone)
      obtain ⟨-, hends⟩ | ⟨hnew, -⟩ | hbreaks := h
      · exact hends old rfl hstate
      · cases hnew
      · exact hbreaks
  | check old new =>
    cases old with
    | none => cases hnone
    | some old =>
      have hconclusion : old.conclusion = new.conclusion :=
        congrArg CheckSnapshot.conclusion (detectCheck_eq_none_iff.1 hnone)
      obtain hends | hopens | ⟨-, hbreaks⟩ := h
      · exact hends
      · exact hopens
      · exact hbreaks old rfl hconclusion

/-! ### Lists of events -/

theorem classified_of_event? (h : c.event? = some e) : e.classified = e := by
  obtain ⟨hsubject, hseverity⟩ := subject_of_event? h
  rw [Event.classified, hsubject, ← hseverity, ← hsubject]

/-- Judging the events of comparisons once more changes nothing. -/
theorem map_classified (cs : List Comparison) :
    (cs.filterMap event?).map Event.classified = cs.filterMap event? := by
  have hsame : ∀ e ∈ cs.filterMap event?, e.classified = id e := fun e he => by
    obtain ⟨c, -, hc⟩ := List.mem_filterMap.1 he
    exact classified_of_event? hc
  rw [List.map_congr_left hsame, List.map_id]

/-- The events that are passed on are those of the comparisons that are worth it, in their order. -/
theorem filter_isActionable (cs : List Comparison) :
    (cs.filterMap event?).filter Event.isActionable =
      (cs.filter fun c => c.IsNews).filterMap event? := by
  induction cs with
  | nil => rfl
  | cons c cs ih =>
    cases he : c.event? with
    | none =>
      have hquiet : ¬ c.IsNews := fun hnews => by simpa [he] using isSome_event? hnews
      simp [he, hquiet, ih]
    | some e =>
      by_cases hnews : c.IsNews
      · simp [he, hnews, (isActionable_iff he).2 hnews, ih]
      · have hkept : e.isActionable = false :=
          Bool.eq_false_iff.2 fun hactionable => hnews ((isActionable_iff he).1 hactionable)
        simp [he, hnews, hkept, ih]

/-- Events that each come from a comparison are those of some comparisons, in their order. -/
theorem exists_filterMap_event? {es : List Event}
    (h : ∀ e ∈ es, ∃ c : Comparison, c.event? = some e) :
    ∃ cs : List Comparison, es = cs.filterMap event? := by
  induction es with
  | nil => exact ⟨[], rfl⟩
  | cons e es ih =>
    obtain ⟨⟨c, hc⟩, hrest⟩ := List.forall_mem_cons.1 h
    obtain ⟨cs, rfl⟩ := ih hrest
    exact ⟨c :: cs, by rw [List.filterMap_cons_some hc]⟩

/-- The events of a detected change set come from comparisons. -/
theorem exists_of_mem_events {db : Database} {faults : Faults} {repositoryId : Int} {f : Findings}
    {changes : ChangeSet} (h : detect db faults repositoryId f = .ok changes)
    (he : e ∈ changes.events) : ∃ c : Comparison, c.event? = some e := by
  obtain ⟨-, rfl⟩ := detect_eq_ok_iff.1 (detect_never h)
  rcases List.mem_append.1 he with he | he
  · obtain ⟨change, hchange, rfl⟩ := List.mem_map.1 he
    exact ⟨.pull _ _, (Database.of_mem_pulls hchange).2.2⟩
  · obtain ⟨change, hchange, rfl⟩ := List.mem_map.1 he
    obtain ⟨-, -, d, -, hevent⟩ := Database.of_mem_checks hchange
    exact ⟨.check _ d, hevent⟩

end Comparison

/-- Which events are passed on, and which are of high severity, of all that detection makes: an
event is passed on exactly when a pull request became closed or merged, a pull request is new and no
draft, or a check run began to fail. It is of high severity exactly in the first and the last of
these cases, and none of them goes without an event. To judge the events of comparisons once more
changes nothing, and those that are passed on are left in their order. The events of every change set
that detection finds are such events. -/
theorem actionable_events_exact :
    (∀ (c : Comparison) (e : Event), c.event? = some e →
      (e.isActionable = true ↔ c.EndsPull ∨ c.OpensPull ∨ c.BreaksCheck) ∧
        (e.severity = .high ↔ c.EndsPull ∨ c.BreaksCheck)) ∧
    (∀ c : Comparison, c.EndsPull ∨ c.OpensPull ∨ c.BreaksCheck → c.event?.isSome) ∧
    (∀ cs : List Comparison,
      (cs.filterMap Comparison.event?).map Event.classified = cs.filterMap Comparison.event? ∧
        (cs.filterMap Comparison.event?).filter Event.isActionable =
          (cs.filter fun c => c.EndsPull ∨ c.OpensPull ∨ c.BreaksCheck).filterMap
            Comparison.event?) ∧
    ∀ (db : Database) (faults : Faults) (repositoryId : Int) (f : Findings) (changes : ChangeSet),
      detect db faults repositoryId f = .ok changes →
        ∃ cs : List Comparison, changes.events = cs.filterMap Comparison.event? := by
  refine ⟨fun c e h => ⟨c.isActionable_iff h, c.severity_eq_high_iff h⟩, fun c => c.isSome_event?,
    fun cs => ⟨Comparison.map_classified cs, Comparison.filter_isActionable cs⟩,
    fun db faults repositoryId f changes h => ?_⟩
  exact Comparison.exists_filterMap_event? fun e => Comparison.exists_of_mem_events h

/-- A check run that timed out after a failure, and a closed pull request that is renamed. -/
def sampleComparisons : List Comparison :=
  [.check (some { buildRun 1 (some .failure) with id := 1, pullRequestId := 1 })
      (buildRun 1 (some .timedOut)),
    .pull (some { openPull "Draft" .closed with id := 1, repositoryId := 1 })
      (openPull "Final" .closed)]

/-- The first of them is passed on, the second is not. What the sample service shows is passed on as
well: a new pull request and a check run that failed. -/
theorem actionable_events_exact_sample :
    (∃ ran renamed, sampleComparisons.filterMap Comparison.event? = [ran, renamed] ∧
      ran.isActionable = true ∧ ran.severity = .high ∧ renamed.isActionable = false ∧
      [ran, renamed].map Event.classified = [ran, renamed]) ∧
    ∃ changes, ∃ cs : List Comparison,
      detect sampleDatabase .never 1 sampleFindings = .ok changes ∧
        changes.events = cs.filterMap Comparison.event? ∧ changes.actionableEvents.length = 2 := by
  obtain ⟨hevents, -, hlists, hdetected⟩ := actionable_events_exact
  refine ⟨⟨_, _, rfl, ?_⟩, ?_⟩
  · obtain ⟨hran, hhigh⟩ := hevents (sampleComparisons.head (by decide)) _ rfl
    obtain ⟨hrenamed, -⟩ := hevents (sampleComparisons.getLast (by decide)) _ rfl
    refine ⟨hran.2 (by decide), hhigh.2 (by decide), ?_, (hlists sampleComparisons).1⟩
    exact Bool.eq_false_iff.2 fun hactionable => absurd (hrenamed.1 hactionable) (by decide)
  · have hsound : sampleDatabase.Sound := .of_rows_eq_nil rfl rfl
    have hread : ∀ p ∈ sampleFindings.pulls,
        sampleDatabase.Readable 1 sampleFindings.checks p.number := fun p _ =>
      hsound.readable_iff.2 ⟨fun _ hr => (nomatch hr), fun _ _ _ hr => (nomatch hr)⟩
    have hdetect : detect sampleDatabase .never 1 sampleFindings =
        .ok (sampleDatabase.changesFor 1 sampleFindings) := detect_eq_ok_iff.2 ⟨hread, rfl⟩
    obtain ⟨cs, hcs⟩ := hdetected _ _ _ _ _ hdetect
    exact ⟨_, cs, hdetect, hcs, by decide +kernel⟩

end PullWatch
