import PullWatch.Proofs.Pairs
import PullWatch.Proofs.Selection
import PullWatch.Proofs.WrittenRows
import Mathlib.Algebra.GroupWithZero.Nat
import Mathlib.Data.List.Induction
import Mathlib.Data.Prod.Lex

/-!
# Which repositories need a poll

The order of polling compares the priority, the time of the last poll and the id, one after the
other. This is a linear order of keys, and since no two rows have one id, it leaves no choice: the
repositories that are due can be put into this order in one way only, however the rows lie.

Whether a repository is due is told by adding its interval to the time of its last poll. That time
was read from a column, so its year has four digits, and no interval leads out of the calendar from
there.

## Main definitions

* `Repository.urgency`: what the order of polling compares.
* `Repository.IsDueAt`: a repository was never polled, or its interval has passed.

## Main results

* `Repository.precedes_iff`: the order of polling is the order of these keys.
* `Instant.exists_addMinutes?_of_parseStrict`: no interval leads out of the calendar.
* `needingPoll_exact`: which repositories need a poll, and in which order.
-/

namespace PullWatch

/-! ### Times that are read -/

theorem Digits.digit_lt {c : Char} (h : c.isDigit = true) : digit c < 10 := by
  simp only [Char.isDigit, Bool.and_eq_true, decide_eq_true_eq, UInt32.le_iff_toNat_le] at h
  have hhigh : c.toNat ≤ 57 := h.2
  rw [digit]
  omega

theorem Digits.value_lt {ds : List Char} (h : ∀ c ∈ ds, c.isDigit = true) :
    value ds < 10 ^ ds.length := by
  induction ds using List.reverseRecOn with
  | nil => exact Nat.one_pos
  | append_singleton ds c ih =>
    rw [List.forall_mem_append, List.forall_mem_singleton] at h
    have hvalue := ih h.1
    have hdigit := digit_lt h.2
    rw [value_append_singleton, List.length_append, List.length_singleton, Nat.pow_succ]
    omega

/-- The days of the years up to 9999 have small numbers. -/
theorem CalendarDate.dayNumber_le {date : CalendarDate} (hyear : date.year ≤ 9999)
    (hvalid : date.Valid) : date.dayNumber ≤ 2932958 := by
  have hmonth : 1 ≤ date.month ∧ date.month ≤ 12 ∧ date.day ≤ 31 := by
    obtain ⟨hlow, hhigh⟩ := hvalid
    unfold daysInMonth at hhigh
    split at hhigh
    · split_ifs at hhigh <;> omega
    all_goals omega
  rw [dayNumber_eq]
  have hleap : ∀ year, year ≤ 9999 → leapDays year ≤ 2424 := fun year h => leapDays_mono h
  simp only [daysBeforeMonth]
  split_ifs with hearly
  · have := hleap (date.year - 1) (by omega)
    omega
  · have := hleap date.year hyear
    omega

namespace Instant

variable {cs rest : List Char} {n lo hi width : Nat} {f : DateTimeFields} {t : Instant}

theorem exactDigits_lt (h : exactDigits width cs = .ok (n, rest)) : n < 10 ^ width := by
  simp only [exactDigits] at h
  split_ifs at h with hshort hdigits
  obtain ⟨rfl, -⟩ := Prod.mk.inj (Except.ok.inj h)
  have hlength : (cs.take width).length = width := by
    have := List.length_take_le width cs
    omega
  have hvalue := Digits.value_lt (List.all_eq_true.1 hdigits)
  rwa [hlength] at hvalue

theorem le_of_bounded {field : Step Nat} (h : bounded lo hi field cs = .ok (n, rest)) : n ≤ hi := by
  obtain ⟨⟨m, later⟩, -, hm⟩ := Outcome.bind_eq_ok.1 h
  simp only at hm
  split_ifs at hm
  obtain ⟨rfl, -⟩ := Prod.mk.inj (Except.ok.inj hm)
  omega

/-- The strict reader takes years of four digits. -/
theorem bounds_of_strictFields (h : strictFields cs = .ok (f, rest)) :
    f.year ≤ 9999 ∧ f.hour ≤ 23 ∧ f.minute ≤ 59 ∧ f.second ≤ 60 := by
  simp only [strictFields, Outcome.bind_eq_ok, Prod.exists] at h
  obtain ⟨year, _, hyear, _, -, month, _, -, _, -, day, _, -, _, -, hour, _, hhour, _, -,
    minute, _, hminute, _, -, second, _, hsecond, fraction, _, -, offset, _, -, hf⟩ := h
  obtain ⟨rfl, -⟩ := Prod.mk.inj (Except.ok.inj hf)
  have hyear := exactDigits_lt hyear
  exact ⟨by simp only; omega, le_of_bounded hhour, le_of_bounded hminute, le_of_bounded hsecond⟩

theorem second_le_of_toInstant (h : f.toInstant = .ok t) (hyear : f.year ≤ 9999)
    (hhour : f.hour ≤ 23) (hminute : f.minute ≤ 59) (hsecond : f.second ≤ 60) :
    t.second ≤ 253407744000 := by
  simp only [DateTimeFields.toInstant] at h
  split_ifs at h with hdate hoffset
  have hvalid : (⟨f.year, f.month, f.day⟩ : CalendarDate).Valid :=
    by_contra fun hvalid => hdate (.inl hvalid)
  have hday := CalendarDate.dayNumber_le hyear hvalid
  split at h
  · rename_i s hs
    obtain rfl := Except.ok.inj h
    simp only [ofSeconds?] at hs
    split_ifs at hs
    rw [← Option.some.inj hs]
    simp only
    omega
  · cases h

/-- What the strict reader reads lies in a year of four digits, or an offset away from one. -/
theorem second_le_of_parseStrict {text : String} (h : parseStrict text = .ok t) :
    t.second ≤ 253407744000 := by
  obtain ⟨⟨f, rest⟩, hfields, hread⟩ := Outcome.bind_eq_ok.1 h
  obtain ⟨hyear, hhour, hminute, hsecond⟩ := bounds_of_strictFields hfields
  simp only at hread
  split_ifs at hread
  exact second_le_of_toInstant hread hyear hhour hminute hsecond

/-- A number of minutes can be added unless it leads past the last second of the calendar. -/
theorem exists_addMinutes?_iff {minutes : Nat} :
    (∃ next, t.addMinutes? minutes = some next) ↔ t.second + minutes * 60 ≤ 8210266876799 := by
  have hrange := t.inRange
  have hwell : t.fraction % nanosPerSecond < 1000000000 ∨
      t.fraction % nanosPerSecond < 2000000000 ∧ (t.second + minutes * 60) % 60 = 59 :=
    .inl (Nat.mod_lt _ (by decide))
  rw [addMinutes?]
  split_ifs with hzero
  · subst hzero
    simpa using hrange.2
  · rw [ofSeconds?]
    by_cases hlast : t.second + minutes * 60 ≤ 8210266876799
    · rw [dif_pos ⟨by omega, hlast⟩, dif_pos hwell]
      exact ⟨fun _ => hlast, fun _ => ⟨_, rfl⟩⟩
    · rw [dif_neg fun h => hlast h.2]
      refine iff_of_false ?_ hlast
      rintro ⟨next, h⟩
      cases h

/-- No interval leads out of the calendar from a time that was read. -/
theorem exists_addMinutes?_of_parseStrict {text : String} (h : parseStrict text = .ok t)
    (interval : UInt32) : ∃ next, t.addMinutes? interval.toNat = some next := by
  have hsecond := second_le_of_parseStrict h
  have hinterval := interval.toNat_lt
  rw [exists_addMinutes?_iff]
  omega

/-- Where the time lies in the order of times. -/
def position (t : Instant) : Int ×ₗ Nat := toLex (t.second, t.fraction)

theorem position_lt_iff {s t : Instant} : s.position < t.position ↔ s < t := Prod.Lex.toLex_lt_toLex

theorem position_inj {s t : Instant} : s.position = t.position ↔ s = t := by
  rw [position, position, toLex_inj, Prod.mk.injEq, Instant.ext_iff]

end Instant

theorem Column.exists_addMinutes?_of_time {text : String} {last : Instant}
    (h : time text = some last) (interval : UInt32) :
    ∃ next, last.addMinutes? interval.toNat = some next :=
  Instant.exists_addMinutes?_of_parseStrict (Outcome.toOption_eq_some.1 h) interval

/-! ### The order of polling -/

namespace Repository

variable {a b c : Repository} {l l' : List Repository}

/-- The time of the last poll; having none comes before all times. -/
def lastPoll (r : Repository) : Bool ×ₗ (Int ×ₗ Nat) :=
  match r.lastPolledAt with
  | none => toLex (false, toLex (0, 0))
  | some t => toLex (true, t.position)

/-- What the order of polling compares: higher priorities first, no poll before any poll, earlier
polls before later ones, smaller ids first. -/
def urgency (r : Repository) : Int ×ₗ ((Bool ×ₗ (Int ×ₗ Nat)) ×ₗ Int) :=
  toLex (-r.priority.toInt, toLex (r.lastPoll, r.id))

theorem precedes_iff : a.Precedes b ↔ a.urgency < b.urgency := by
  have hpriority : b.priority < a.priority ↔ -a.priority.toInt < -b.priority.toInt := by
    rw [Int32.lt_iff_toInt_lt, Int.neg_lt_neg_iff]
  have hsame : a.priority = b.priority ↔ -a.priority.toInt = -b.priority.toInt := by
    rw [Int.neg_inj, Int32.toInt_inj]
  simp only [urgency, Prod.Lex.toLex_lt_toLex, Precedes, hpriority, hsame, lastPoll]
  refine or_congr_right (and_congr_right fun _ => ?_)
  cases a.lastPolledAt <;> cases b.lastPolledAt <;>
    simp [Prod.Lex.toLex_lt_toLex, Instant.position_lt_iff, Instant.position_inj]

theorem Precedes.irrefl (a : Repository) : ¬ a.Precedes a := by
  rw [precedes_iff]
  exact lt_irrefl _

theorem Precedes.trans (hab : a.Precedes b) (hbc : b.Precedes c) : a.Precedes c := by
  rw [precedes_iff] at *
  exact hab.trans hbc

/-- Of two repositories one precedes the other. -/
theorem precedes_or_precedes (hid : a.id ≠ b.id) : a.Precedes b ∨ b.Precedes a := by
  rw [precedes_iff, precedes_iff]
  exact lt_or_gt_of_ne fun h => hid (congrArg (fun key => (ofLex (ofLex key).2).2) h)

/-- Sorted repositories are in the order of polling. -/
theorem pairwise_sortByUrgency (hids : (l.map (·.id)).Nodup) :
    (sortByUrgency l).Pairwise Precedes := by
  have hle (a b : Repository) :
      (!decide (b.Precedes a)) = true ↔ a.urgency ≤ b.urgency := by
    rw [Bool.not_eq_true', decide_eq_false_iff_not, precedes_iff, not_lt]
  have hsorted : (sortByUrgency l).Pairwise fun a b => (!decide (b.Precedes a)) = true :=
    List.pairwise_mergeSort (fun a b c => by simpa only [hle] using le_trans)
      (fun a b => by simpa only [Bool.or_eq_true, hle] using le_total _ _) l
  have hdistinct : (sortByUrgency l).Pairwise fun a b => a.id ≠ b.id :=
    List.pairwise_map.1 (((List.mergeSort_perm l _).map _).nodup_iff.2 hids)
  refine (hsorted.and hdistinct).imp fun {a b} h => ?_
  rw [Bool.not_eq_true', decide_eq_false_iff_not] at h
  exact (precedes_or_precedes h.2).resolve_right h.1

theorem nodup_of_pairwise (h : l.Pairwise Precedes) : l.Nodup :=
  h.imp fun {a b} hab heq => by
    subst heq
    exact Precedes.irrefl a hab

/-- Repositories can be put into the order of polling in one way only. -/
theorem eq_of_pairwise_precedes (h : l.Pairwise Precedes) (h' : l'.Pairwise Precedes)
    (hmem : ∀ r, r ∈ l ↔ r ∈ l') : l = l' :=
  List.Perm.eq_of_pairwise (fun a _ _ _ hab hba => absurd (hab.trans hba) (Precedes.irrefl a)) h h'
    ((List.perm_ext_iff_of_nodup (nodup_of_pairwise h) (nodup_of_pairwise h')).2 hmem)

/-! ### Due repositories -/

/-- The repository was never polled, or its interval has passed since the last poll. -/
def IsDueAt (r : Repository) (now : Instant) : Prop :=
  r.lastPolledAt = none ∨ ∃ last next, r.lastPolledAt = some last ∧
    last.addMinutes? r.pollingInterval.toNat = some next ∧ next ≤ now

theorem isDue?_eq_true_iff {now : Instant} :
    a.isDue? now = some true ↔ a.isActive = true ∧ a.IsDueAt now := by
  rw [isDue?, IsDueAt]
  cases a.isActive <;> cases a.lastPolledAt <;> simp

theorem IsDueAt.later {now later : Instant} (h : a.IsDueAt now) (hlater : now ≤ later) :
    a.IsDueAt later := by
  refine h.imp_right ?_
  rintro ⟨last, next, hlast, hnext, hle⟩
  exact ⟨last, next, hlast, hnext, Instant.le_trans hle hlater⟩

end Repository

/-! ### The repositories of the database -/

namespace Database

variable {db : Database} {repository : Repository} {active : List Repository}

/-- The monitored repositories have the ids of their rows. -/
theorem ids_of_active (h : db.activeRepositories = .ok active) :
    active.map (·.id) = (db.repositories.select fun row => row.isActive).map (·.1) := by
  refine (map_eq_map_of_forall₂ ((Outcome.mapM_eq_ok.1 h).imp fun r repository hdecode => ?_)).symm
  obtain ⟨last, -, rfl⟩ := RepositoryRow.decode_eq_ok.1 hdecode
  rfl

/-- The monitored repositories are those of the database that are active. -/
theorem mem_active_iff (h : db.activeRepositories = .ok active) :
    repository ∈ active ↔ db.Holds repository ∧ repository.isActive = true := by
  constructor
  · intro hmem
    obtain ⟨r, hr, hdecode⟩ := Outcome.exists_of_mem_mapM h hmem
    obtain ⟨last, -, hrepository⟩ := RepositoryRow.decode_eq_ok.1 hdecode
    refine ⟨holds_of_active h hmem, ?_⟩
    rw [← hrepository]
    exact (List.mem_filter.1 hr).2
  · rintro ⟨⟨row, hrow, hdecode⟩, hactive⟩
    obtain ⟨last, -, hrepository⟩ := RepositoryRow.decode_eq_ok.1 hdecode
    have hrowActive : row.isActive = true := by rwa [← hrepository] at hactive
    obtain ⟨other, hother, hsame⟩ := Outcome.mapM_mem h (List.mem_filter.2 ⟨hrow, hrowActive⟩)
    exact Except.ok.inj (hdecode.symm.trans hsame) ▸ hother

/-- The time of a repository's last poll was read from a column. -/
theorem Holds.exists_text {last : Instant} (h : db.Holds repository)
    (hlast : repository.lastPolledAt = some last) : ∃ text, Column.time text = some last := by
  obtain ⟨row, -, hdecode⟩ := h
  obtain ⟨polled, hpolled, hrepository⟩ := RepositoryRow.decode_eq_ok.1 hdecode
  obtain rfl : polled = some last := by rwa [← hrepository] at hlast
  obtain ⟨text, -, htext⟩ := Option.map_eq_some_iff.1 (Column.decode?_eq_ok.1 hpolled)
  exact ⟨text, htext⟩

/-- Whether a repository of the database is due can always be told. -/
theorem Holds.exists_isDue? (h : db.Holds repository) (now : Instant) :
    ∃ isDue, repository.isDue? now = some isDue := by
  rw [Repository.isDue?]
  split_ifs
  · cases hlast : repository.lastPolledAt with
    | none => exact ⟨true, rfl⟩
    | some last =>
      obtain ⟨text, htext⟩ := h.exists_text hlast
      obtain ⟨next, hnext⟩ := Column.exists_addMinutes?_of_time htext repository.pollingInterval
      exact ⟨decide (next ≤ now), by simp only [hnext, Option.map_some]⟩
  · exact ⟨false, rfl⟩

/-- The time of the last poll can be read of every monitored row. -/
def ActiveRowsDecode (db : Database) : Prop :=
  ∀ r ∈ db.repositories.rows, r.2.isActive = true → ∃ repository, r.2.decode r.1 = .ok repository

/-- The repositories that need a poll, in the order of polling. -/
theorem needingPoll_of_decode (hids : (db.repositories.rows.map (·.1)).Nodup)
    (hdecode : db.ActiveRowsDecode) (now : Instant) :
    ∃ due, db.needingPoll now = .ok due ∧ due.Pairwise Repository.Precedes ∧
      ∀ r, r ∈ due ↔ db.Holds r ∧ r.isActive = true ∧ r.IsDueAt now := by
  obtain ⟨active, hactive⟩ : ∃ active, db.activeRepositories = .ok active :=
    Outcome.mapM_succeeds fun r hr => hdecode r (List.mem_filter.1 hr).1 (List.mem_filter.1 hr).2
  have hactiveIds : (active.map (·.id)).Nodup := by
    rw [ids_of_active hactive]
    exact hids.sublist (List.filter_sublist.map _)
  refine ⟨Repository.needingPoll active now, by rw [needingPoll, hactive]; rfl, ?_, fun r => ?_⟩
  · exact Repository.pairwise_sortByUrgency (hactiveIds.sublist (List.filter_sublist.map _))
  · rw [Repository.needingPoll, Repository.mem_sortByUrgency, List.mem_filter, decide_eq_true_eq,
      mem_active_iff hactive, Repository.isDue?_eq_true_iff]
    tauto

/-- The order of the rows does not matter. -/
theorem needingPoll_of_perm {db' : Database} {due : List Repository} {now : Instant}
    (hids : (db.repositories.rows.map (·.1)).Nodup) (hdecode : db.ActiveRowsDecode)
    (hrows : db'.repositories.rows.Perm db.repositories.rows) (hdue : db.needingPoll now = .ok due) :
    db'.needingPoll now = .ok due := by
  obtain ⟨ordered, hordered, hsorted, hmem⟩ := needingPoll_of_decode hids hdecode now
  obtain rfl : ordered = due := Except.ok.inj (hordered.symm.trans hdue)
  have hids' : (db'.repositories.rows.map (·.1)).Nodup := (hrows.map _).nodup_iff.2 hids
  have hdecode' : db'.ActiveRowsDecode := fun r hr => hdecode r (hrows.mem_iff.1 hr)
  obtain ⟨other, hother, hsorted', hmem'⟩ := needingPoll_of_decode hids' hdecode' now
  have hholds (r : Repository) : db'.Holds r ↔ db.Holds r :=
    exists_congr fun row => and_congr_left fun _ => hrows.mem_iff
  rw [hother, Repository.eq_of_pairwise_precedes hsorted' hsorted fun r => by
    rw [hmem, hmem', hholds]]

end Database

/-- **Which repositories need a poll.** Of a database whose rows of repositories have distinct ids,
as a table gives them, and of whose monitored rows the time of the last poll can be read: the
repositories that need a poll are the monitored ones that were never polled or whose interval has
passed, and no other, each once. They are in the order of polling, whatever the order of the rows,
and as time goes by none of them is left out.

The order of polling is a strict total order of repositories with distinct ids. Whether a repository
is due can always be told: from a time that was read, no interval leads out of the calendar. -/
theorem needingPoll_exact (db : Database) (hids : (db.repositories.rows.map (·.1)).Nodup)
    (hdecode : db.ActiveRowsDecode) (now : Instant) :
    (∃ due, db.needingPoll now = .ok due ∧
      (∀ r, r ∈ due ↔ db.Holds r ∧ r.isActive = true ∧ r.IsDueAt now) ∧
      due.Nodup ∧ due.Pairwise Repository.Precedes ∧
      (∀ db' : Database, db'.repositories.rows.Perm db.repositories.rows →
        db'.needingPoll now = .ok due) ∧
      ∀ later, now ≤ later → ∃ due', db.needingPoll later = .ok due' ∧ due ⊆ due') ∧
    ((∀ a : Repository, ¬ a.Precedes a) ∧
      (∀ a b c : Repository, a.Precedes b → b.Precedes c → a.Precedes c) ∧
      ∀ a b : Repository, a.id ≠ b.id → a.Precedes b ∨ b.Precedes a) ∧
    (∀ r, db.Holds r → ∃ isDue, r.isDue? now = some isDue) ∧
    ∀ text last, Column.time text = some last →
      ∀ interval : UInt32, ∃ next, last.addMinutes? interval.toNat = some next := by
  refine ⟨?_, ⟨Repository.Precedes.irrefl, fun _ _ _ => Repository.Precedes.trans,
    fun _ _ => Repository.precedes_or_precedes⟩, fun r hr => hr.exists_isDue? now,
    fun _ _ => Column.exists_addMinutes?_of_time⟩
  obtain ⟨due, hdue, hsorted, hmem⟩ := Database.needingPoll_of_decode hids hdecode now
  refine ⟨due, hdue, hmem, Repository.nodup_of_pairwise hsorted, hsorted,
    fun db' hrows => Database.needingPoll_of_perm hids hdecode hrows hdue, fun later hlater => ?_⟩
  obtain ⟨due', hdue', -, hmem'⟩ := Database.needingPoll_of_decode hids hdecode later
  refine ⟨due', hdue', fun r hr => ?_⟩
  obtain ⟨hholds, hactive, hisDue⟩ := (hmem r).1 hr
  exact (hmem' r).2 ⟨hholds, hactive, hisDue.later hlater⟩

/-- Two repositories, one of which was never polled. The other was polled at the last moment that a
column can tell and is to be polled again after the longest interval. -/
def patientDatabase : Database :=
  { repositories :=
      { rows :=
          [(1, { owner := "acme", name := "widgets", isActive := true
                 pollingInterval := 4294967295, priority := 0
                 lastPolledAt := some "9999-12-31T23:59:60-23:59" }),
           (2, { owner := "acme", name := "gadgets", isActive := true, pollingInterval := 15
                 priority := 0, lastPolledAt := none })]
        lastId := 2 } }

theorem needingPoll_exact_sample :
    (patientDatabase.repositories.rows.map (·.1)).Nodup ∧ patientDatabase.ActiveRowsDecode ∧
      ∃ due, patientDatabase.needingPoll .epoch = .ok due ∧ due.Nodup ∧
        ∃ r ∈ due, r.id = 2 := by
  have hids : (patientDatabase.repositories.rows.map (·.1)).Nodup := by decide
  have hdecode : patientDatabase.ActiveRowsDecode := by
    simp only [Database.ActiveRowsDecode, patientDatabase, List.forall_mem_cons]
    exact ⟨fun _ => ⟨_, rfl⟩, fun _ => ⟨_, rfl⟩, List.forall_mem_nil _⟩
  obtain ⟨⟨due, hdue, hmem, hnodup, -⟩, -⟩ :=
    needingPoll_exact patientDatabase hids hdecode .epoch
  have hheld : patientDatabase.Holds
      { id := 2, owner := "acme", name := "gadgets", isActive := true, pollingInterval := 15
        priority := 0, lastPolledAt := none } :=
    ⟨_, List.mem_cons_of_mem _ (List.mem_singleton_self _), rfl⟩
  exact ⟨hids, hdecode, due, hdue, hnodup, _, (hmem _).2 ⟨hheld, rfl, .inl rfl⟩, rfl⟩

end PullWatch
