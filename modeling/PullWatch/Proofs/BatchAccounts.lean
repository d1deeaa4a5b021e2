import PullWatch.Proofs.PolledTimes
import PullWatch.Proofs.SessionEndings
import Mathlib.Data.List.Forall2

/-!
# The books of a session

A session passes over the chunks of its selection. However it ends, its results fall into groups,
one for each chunk that was passed over, and every group has one result for each entry of its chunk.
The figures of the session are the sums over its results, and what a shutdown has left out is the
rest of the selection.

## Main definitions

* `Counts`, `Counts.of`: the figures of a session, and those of some results.
* `OneEach`: the results are those of some repositories, one for each.
* `requestsBefore`: the requests that were begun before a batch.
* `OpenAt`: no shutdown had been requested before a batch.
* `Told`: what is known of a series of batches.
* `Accounts`: the books of a session whose first batches were run.

## Main results

* `counts_foldl_record`: what recording results does to the figures.
* `BatchesRan.told`: every series of batches.
* `processAll_accounts`: every session.
-/

namespace PullWatch

/-! ### Texts of warnings -/

theorem toList_append_of_some {a : String} {i : Nat} {c : Char} (h : a.toList[i]? = some c)
    (x : String) : (a ++ x).toList[i]? = some c := by
  rw [String.toList_append, List.getElem?_append_left (List.getElem?_eq_some_iff.1 h).1, h]

theorem second_shutdownWarning (m : Nat) : (shutdownWarning m).toList[1]? = some 'h' :=
  have h : "Shutdown requested; ".toList[1]? = some 'h' := by decide
  toList_append_of_some (toList_append_of_some h _) _

theorem second_timeWarning (config : Configuration) :
    (timeWarning config).toList[1]? = some 'e' :=
  have h : "Session exceeded ".toList[1]? = some 'e' := by decide
  toList_append_of_some (toList_append_of_some h _) _

theorem second_pollWarning (e : StoreError) (id : Int) :
    (pollWarning e id).toList[1]? = some 'a' :=
  have h : "Failed to record poll time for ".toList[1]? = some 'a' := by decide
  toList_append_of_some (toList_append_of_some (toList_append_of_some h _) _) _

theorem ne_of_second {v w : String} {c d : Char} (hv : v.toList[1]? = some c)
    (hw : w.toList[1]? = some d) (hne : c ≠ d) : v ≠ w := by
  rintro rfl
  exact hne (Option.some.inj (hv.symm.trans hw))

theorem toString_inj {m n : Nat} (h : toString m = toString n) : m = n := by
  have hdigits : Nat.toDigits 10 m = Nat.toDigits 10 n :=
    Nat.toList_repr.symm.trans ((congrArg String.toList h).trans Nat.toList_repr)
  exact Nat.ofDigitChars_ten_toDigits.symm.trans
    ((congrArg (Nat.ofDigitChars 10 · 0) hdigits).trans Nat.ofDigitChars_ten_toDigits)

theorem shutdownWarning_inj {m n : Nat} (h : shutdownWarning m = shutdownWarning n) : m = n := by
  unfold shutdownWarning at h
  exact toString_inj ((String.append_right_inj _).1 ((String.append_left_inj _).1 h))

/-! ### Figures -/

/-- The figures of a session. -/
structure Counts where
  processed : Nat
  succeeded : Nat
  failed : Nat
  pulls : Nat
  checks : Nat
  detected : Nat
  synchronized : Nat
  actionable : Nat
  deriving DecidableEq

/-- The figures of some results. -/
def Counts.of (results : List RepositoryResult) : Counts where
  processed := results.length
  succeeded := (results.filter (·.success)).length
  failed := (results.filter (!·.success)).length
  pulls := (results.map (·.pullsDiscovered)).sum
  checks := (results.map (·.checksDiscovered)).sum
  detected := (results.map (·.changesDetected)).sum
  synchronized := (results.map (·.changesSynchronized)).sum
  actionable := (results.map (·.actionableEvents.length)).sum

theorem Counts.processed_of (results : List RepositoryResult) :
    (of results).processed = (of results).succeeded + (of results).failed :=
  (List.length_eq_length_filter_add _).trans rfl

namespace Session

/-- The figures of the session. -/
def counts (s : Session) : Counts where
  processed := s.repositoriesProcessed
  succeeded := s.repositoriesSucceeded
  failed := s.repositoriesFailed
  pulls := s.pullsDiscovered
  checks := s.checksDiscovered
  detected := s.changesDetected
  synchronized := s.changesSynchronized
  actionable := s.actionableEvents

theorem counts_record {s : Session} {results : List RepositoryResult}
    (h : s.counts = .of results) (result : RepositoryResult) :
    (s.record result).counts = .of (results ++ [result]) := by
  simp only [counts, Counts.of, Counts.mk.injEq] at h
  obtain ⟨hprocessed, hsucceeded, hfailed, hpulls, hchecks, hdetected, hsynchronized,
    hactionable⟩ := h
  simp only [counts, record, Counts.of, Counts.mk.injEq, List.length_append, List.filter_append,
    List.map_append, List.sum_append, hprocessed, hsucceeded, hfailed, hpulls, hchecks, hdetected,
    hsynchronized, hactionable]
  cases hsuccess : result.success <;> simp [hsuccess]

/-- Recording results adds their figures. -/
theorem counts_foldl_record {s : Session} {results : List RepositoryResult}
    (h : s.counts = .of results) (more : List RepositoryResult) :
    (more.foldl Session.record s).counts = .of (results ++ more) := by
  induction more generalizing s results with
  | nil => rwa [List.append_nil]
  | cons result more ih =>
    rw [List.append_cons]
    exact ih (counts_record h result)

theorem warnings_foldl_record (results : List RepositoryResult) (s : Session) :
    (results.foldl record s).warnings = s.warnings := by
  induction results generalizing s with
  | nil => rfl
  | cons result results ih => exact ih (s.record result)

@[simp] theorem counts_enterIfAllowed (s : Session) (next : Phase) (time : Instant) :
    (s.enterIfAllowed next time).counts = s.counts := by
  rw [enterIfAllowed, enter?]
  split_ifs <;> rfl

end Session

/-! ### Results and repositories -/

/-- The results are those of the repositories, one for each of them. -/
def OneEach (results : List RepositoryResult) (repositories : List Repository) : Prop :=
  (results.map fun r => (r.repositoryId, r.repository)).Perm
    (repositories.map fun r => (r.id, r.fullName))

namespace OneEach

variable {results : List RepositoryResult} {repositories : List Repository}

theorem append {more : List RepositoryResult} {others : List Repository}
    (h : OneEach results repositories) (hmore : OneEach more others) :
    OneEach (results ++ more) (repositories ++ others) := by
  rw [OneEach, List.map_append, List.map_append]
  exact List.Perm.append h hmore

theorem flatten {groups : List (List RepositoryResult)} {batches : List (List Repository)}
    (h : List.Forall₂ OneEach groups batches) : OneEach groups.flatten batches.flatten := by
  induction h with
  | nil => exact .refl _
  | cons hfirst _ ih => exact hfirst.append ih

/-- The last of some groups is about the last of their batches. -/
theorem of_concat {earlier : List (List RepositoryResult)} {final : List RepositoryResult}
    {batches : List (List Repository)}
    (h : List.Forall₂ OneEach (earlier ++ [final]) (batches.take (earlier.length + 1))) :
    List.Forall₂ OneEach earlier (batches.take earlier.length) ∧
      OneEach final ((batches.drop earlier.length).take 1).flatten := by
  induction earlier generalizing batches with
  | nil =>
    cases batches with
    | nil => cases h
    | cons batch rest =>
      obtain _ | ⟨hfinal, -⟩ := h
      exact ⟨.nil, by rwa [List.length_nil, List.drop_zero, List.take_succ_cons, List.take_zero,
        List.flatten_singleton]⟩
  | cons group earlier ih =>
    cases batches with
    | nil => cases h
    | cons batch rest =>
      obtain _ | ⟨hgroup, hrest⟩ := h
      exact ⟨.cons hgroup (ih hrest).1, (ih hrest).2⟩

theorem length_eq (h : OneEach results repositories) : results.length = repositories.length := by
  have hlength := List.Perm.length_eq h
  rwa [List.length_map, List.length_map] at hlength

end OneEach

variable {env : Surroundings} {config : Configuration}

/-- Passes have one result for each repository. -/
theorem PassesRan.oneEach {batch : List Repository} {ended : List EndedPass} {r r' : Run}
    (h : PassesRan env config batch ended r r') :
    OneEach (resultsOf config env.faults r.session.mode.isDryRun ended) batch := by
  have hended : (resultsOf config env.faults r.session.mode.isDryRun ended).map
      (fun r => (r.repositoryId, r.repository)) =
        (ended.map (·.plan.repo)).map fun repo => (repo.id, repo.fullName) := by
    rw [resultsOf, List.map_map, List.map_map]
    refine List.map_congr_left fun e _ => ?_
    have hreport := @PassPlan.across_repository config env.faults r.session.mode.isDryRun e.plan
      e.seen e.found e.cache
    exact Prod.ext hreport.1 hreport.2
  have hkeys := h.repositories.map fun repo : RepositoryContext => (repo.id, repo.fullName)
  rw [List.map_map (l := batch)] at hkeys
  rw [OneEach, hended]
  exact hkeys

/-! ### Chunks -/

/-- The first chunks of a list are its beginning. -/
theorem flatten_take_chunks {α : Type} {size : Nat} (hsize : 1 ≤ size) (xs : List α) (k : Nat) :
    ((chunks size xs).take k).flatten = xs.take (k * size) := by
  fun_induction chunks size xs generalizing k with
  | case1 => simp
  | case2 x xs ih =>
    cases k with
    | zero => simp
    | succ k =>
      have hsplit : (k + 1) * size = (size - 1 + k * size) + 1 := by
        rw [Nat.succ_mul]
        omega
      rw [List.take_succ_cons, List.flatten_cons, ih, hsplit, List.take_succ_cons, List.take_add]
      rfl

theorem length_le_of_chunks {α : Type} {size : Nat} (hsize : 1 ≤ size) (xs : List α) :
    xs.length ≤ (chunks size xs).length * size := by
  have hall := congrArg List.length (flatten_take_chunks hsize xs (chunks size xs).length)
  rw [List.take_length, flatten_chunks, List.length_take] at hall
  omega

/-- The chunks that are left are those of the rest of the list. -/
theorem drop_chunks {α : Type} {size : Nat} (hsize : 1 ≤ size) (xs : List α) (k : Nat) :
    (chunks size xs).drop k = chunks size (xs.drop (k * size)) := by
  fun_induction chunks size xs generalizing k with
  | case1 => simp [chunks]
  | case2 x xs ih =>
    cases k with
    | zero => simp [chunks]
    | succ k =>
      have hsplit : (k + 1) * size = (size - 1 + k * size) + 1 := by
        rw [Nat.succ_mul]
        omega
      rw [List.drop_succ_cons, ih, hsplit, List.drop_succ_cons, List.drop_drop]

/-! ### Batches -/

/-- The requests that were begun, as others see them. -/
def requestsIn (trace : List RunEvent) : Nat :=
  trace.countP fun
    | .sent _ => true
    | .published _ => false

theorem requestsIn_append (trace later : List RunEvent) :
    requestsIn (trace ++ later) = requestsIn trace + requestsIn later :=
  List.countP_append

theorem requestsIn_sent (calls : List GitHub.Call) :
    requestsIn (calls.map .sent) = calls.length := by
  induction calls with
  | nil => rfl
  | cons call calls ih =>
    rw [List.map_cons, requestsIn, List.countP_cons_of_pos rfl, List.length_cons]
    exact congrArg (· + 1) ih

/-- How often the session was shown to observers. -/
def shownIn (trace : List RunEvent) : Nat :=
  trace.countP fun
    | .published _ => true
    | .sent _ => false

theorem shownIn_append (trace later : List RunEvent) :
    shownIn (trace ++ later) = shownIn trace + shownIn later :=
  List.countP_append

theorem shownIn_sent (calls : List GitHub.Call) : shownIn (calls.map .sent) = 0 := by
  simp [shownIn, List.countP_map, Function.comp_def]

/-- The requests that were begun before the session was shown to observers another time, after it
had been shown a number of times. -/
def requestsBefore : Nat → List RunEvent → Nat
  | _, [] => 0
  | n, .sent _ :: trace => requestsBefore n trace + 1
  | 0, .published _ :: _ => 0
  | n + 1, .published _ :: trace => requestsBefore n trace

theorem requestsBefore_shownIn (before : List RunEvent) (session : Session)
    (later : List RunEvent) :
    requestsBefore (shownIn before) (before ++ .published session :: later) =
      requestsIn before := by
  induction before with
  | nil => rfl
  | cons event before ih =>
    cases event with
    | published other =>
      rw [shownIn, List.countP_cons_of_pos rfl, requestsIn, List.countP_cons_of_neg (by simp)]
      exact ih
    | sent call =>
      rw [shownIn, List.countP_cons_of_neg (by simp), requestsIn, List.countP_cons_of_pos rfl]
      exact congrArg (· + 1) ih

/-- No shutdown had been requested when the session was shown to observers another time, after it
had been shown a number of times, and the clocks had been read a number of times. -/
def OpenAt (env : Surroundings) (isShutdown : Bool) (trace : List RunEvent)
    (shown readings : Nat) : Prop :=
  ∃ before session later, trace = before ++ .published session :: later ∧
    shownIn before = shown ∧ (isShutdown || env.isShutdown (requestsIn before) readings) = false

theorem OpenAt.append {isShutdown : Bool} {trace : List RunEvent} {shown readings : Nat}
    (h : OpenAt env isShutdown trace shown readings) (more : List RunEvent) :
    OpenAt env isShutdown (trace ++ more) shown readings := by
  obtain ⟨before, session, later, rfl, hshown, hopen⟩ := h
  exact ⟨before, session, later ++ more, List.append_assoc _ _ _, hshown, hopen⟩

theorem OpenAt.requestsBefore_eq {isShutdown : Bool} {trace : List RunEvent}
    {shown readings : Nat} (h : OpenAt env isShutdown trace shown readings) :
    (isShutdown || env.isShutdown (requestsBefore shown trace) readings) = false := by
  obtain ⟨before, session, later, rfl, rfl, hopen⟩ := h
  rwa [requestsBefore_shownIn]

namespace BatchRan

variable {batch : List Repository} {ended : List EndedPass} {results : List RepositoryResult}
  {r r' : Run}

theorem oneEach (h : BatchRan env config batch ended results r r') : OneEach results batch := by
  obtain ⟨hpasses, rfl, -⟩ := h
  exact hpasses.oneEach

theorem results_eq (h : BatchRan env config batch ended results r r') :
    r'.results = r.results ++ results := by
  obtain ⟨hpasses, rfl, -⟩ := h
  exact hpasses.results_eq

theorem counts_eq (h : BatchRan env config batch ended results r r') {done : List RepositoryResult}
    (hdone : r.session.counts = .of done) : r'.session.counts = .of (done ++ results) := by
  obtain ⟨hpasses, -, -⟩ := h
  rw [← hpasses.session_eq] at hdone
  exact Session.counts_foldl_record hdone results

/-- A batch takes a reading for each of its passes, and one for itself. -/
theorem readings_eq (h : BatchRan env config batch ended results r r') :
    r'.readings = r.readings + results.length + 1 := by
  have hlength := h.oneEach.length_eq
  obtain ⟨hpasses, -, -⟩ := h
  rw [hlength, ← hpasses.readings_eq]
  rfl

/-- A batch begins some requests, and then the session is shown to observers. -/
theorem trace_eq (h : BatchRan env config batch ended results r r') :
    ∃ calls : List GitHub.Call, ∃ session,
      r'.trace = r.trace ++ calls.map .sent ++ [.published session] ∧
        r'.requests = r.requests + calls.length := by
  obtain @⟨s, warnings, hpasses, -, -⟩ := h
  obtain ⟨calls, hrequests, htrace⟩ := hpasses.calls
  exact ⟨calls, _, congrArg (· ++ [_]) htrace, hrequests⟩

theorem requests_eq (h : BatchRan env config batch ended results r r')
    (hr : r.requests = requestsIn r.trace) : r'.requests = requestsIn r'.trace := by
  obtain ⟨calls, session, htrace, hrequests⟩ := h.trace_eq
  rw [hrequests, htrace, requestsIn_append, requestsIn_append, requestsIn_sent, hr]
  rfl

theorem forall_warnings (h : BatchRan env config batch ended results r r') :
    ∀ w ∈ r'.session.warnings, w ∈ r.session.warnings ∨ w = timeWarning config := by
  obtain ⟨hpasses, -, hwarnings⟩ := h
  rw [← hpasses.session_eq]
  intro w hw
  rw [Run.afterBatch, Run.publish, Session.warnAll, Session.warnings_foldl_record,
    List.mem_append] at hw
  exact hw.imp_right (hwarnings w)

end BatchRan

/-- What is known of a series of batches, whose results fall into groups, one for each of the
batches that were run. -/
structure Told (env : Surroundings) (config : Configuration) (isShutdown : Bool)
    (batches : List (List Repository)) (r : Run) (last : Except ProcessorError Unit × Run)
    (groups : List (List RepositoryResult)) : Prop where
  oneEach : List.Forall₂ OneEach groups (batches.take groups.length)
  results_eq : last.2.results = r.results ++ groups.flatten
  counts_eq : ∀ done, r.session.counts = .of done →
    last.2.session.counts = .of (done ++ groups.flatten)
  requests_eq : r.requests = requestsIn r.trace → last.2.requests = requestsIn last.2.trace
  trace_eq : ∃ later, last.2.trace = r.trace ++ later
  readings_eq : last.2.readings = r.readings + groups.flatten.length + groups.length
  /-- No shutdown had been requested before any of the batches that were run. The session is shown
  to observers before the first of them, and after each. -/
  opened : r.requests = requestsIn r.trace → ∀ before session,
    r.trace = before ++ [.published session] → ∀ k < groups.length,
      OpenAt env isShutdown last.2.trace (shownIn before + k)
        (r.readings + (groups.take k).flatten.length + k)
  warnings : ∀ w ∈ last.2.session.warnings, w ∈ r.session.warnings ∨ w = timeWarning config ∨
    w = shutdownWarning (batches.drop groups.length).flatten.length
  ending :
    last.1 = .ok () ∧ (groups.length = batches.length ∨
      (isShutdown || env.isShutdown last.2.requests last.2.readings) = true ∧
        shutdownWarning (batches.drop groups.length).flatten.length ∈ last.2.session.warnings) ∨
    config.stopOnFirstError = true ∧ ∃ earlier final failed, groups = earlier ++ [final] ∧
      failed ∈ final ∧ failed.success = false ∧ last.1 = .error (.aborted failed.repository)

/-- No shutdown had been requested when the first batch is run. -/
theorem openAt_first {isShutdown : Bool} {r : Run} {before : List RunEvent} {session : Session}
    (hr : r.requests = requestsIn r.trace) (htrace : r.trace = before ++ [.published session])
    (hopen : (isShutdown || env.isShutdown r.requests r.readings) = false) :
    OpenAt env isShutdown r.trace (shownIn before) r.readings := by
  refine ⟨before, session, [], htrace, rfl, ?_⟩
  rw [hr, htrace, requestsIn_append] at hopen
  exact hopen

/-- Every series of batches. -/
theorem BatchesRan.told {isShutdown : Bool} {batches : List (List Repository)} {r : Run}
    {ended : List EndedPass} {last : Except ProcessorError Unit × Run}
    (h : BatchesRan env config isShutdown batches r ended last) :
    ∃ groups, Told env config isShutdown batches r last groups := by
  induction h with
  | done =>
    refine ⟨[], .nil, (List.append_nil _).symm, fun done hdone => ?_, id,
      ⟨[], (List.append_nil _).symm⟩, rfl, fun _ _ _ _ k hk => absurd hk k.not_lt_zero,
      fun w hw => .inl hw, .inl ⟨rfl, .inl rfl⟩⟩
    rwa [List.flatten_nil, List.append_nil]
  | @shutdown batch rest r hshutdown =>
    refine ⟨[], .nil, (List.append_nil _).symm, fun done hdone => ?_, id,
      ⟨[], (List.append_nil _).symm⟩, rfl, fun _ _ _ _ k hk => absurd hk k.not_lt_zero,
      fun w hw => ?_, .inl ⟨rfl, .inr ⟨hshutdown, ?_⟩⟩⟩
    · rwa [List.flatten_nil, List.append_nil]
    · rcases List.mem_append.1 hw with hw | hw
      · exact .inl hw
      · exact .inr (.inr (List.mem_singleton.1 hw))
    · exact List.mem_append_right _ (List.mem_singleton_self _)
  | @aborted batch rest r s ended results failed hopen hran hstop hfailed hfailure =>
    obtain ⟨calls, session, htrace, -⟩ := hran.trace_eq
    rw [List.append_assoc] at htrace
    refine ⟨[results], .cons hran.oneEach .nil, ?_, fun done hdone => ?_, hran.requests_eq,
      ⟨_, htrace⟩, ?_, fun hr before shown hfirst k hk => ?_, fun w hw => ?_,
      .inr ⟨hstop, [], results, failed, rfl, hfailed, hfailure, rfl⟩⟩
    · rw [hran.results_eq, List.flatten_singleton]
    · rw [List.flatten_singleton]
      exact hran.counts_eq hdone
    · rw [List.flatten_singleton]
      exact hran.readings_eq
    · obtain rfl : k = 0 := Nat.lt_one_iff.1 hk
      rw [show s.trace = _ from htrace]
      exact (openAt_first hr hfirst hopen).append _
    · exact (hran.forall_warnings w hw).imp_right .inl
  | @next batch rest r s ended later results last hopen hran hgoes hrest ih =>
    obtain ⟨groups, hgroups⟩ := ih
    obtain ⟨calls, session, htrace, -⟩ := hran.trace_eq
    obtain ⟨rest, hrestTrace⟩ := hgroups.trace_eq
    have hall : last.2.trace = r.trace ++ (calls.map .sent ++ .published session :: rest) := by
      rw [hrestTrace, htrace, List.append_assoc, List.append_assoc]
      rfl
    refine ⟨results :: groups, .cons hran.oneEach hgroups.oneEach, ?_, fun done hdone => ?_,
      fun hr => hgroups.requests_eq (hran.requests_eq hr), ⟨_, hall⟩, ?_,
      fun hr before shown hfirst k hk => ?_, fun w hw => ?_, ?_⟩
    · rw [hgroups.results_eq, hran.results_eq, List.flatten_cons, List.append_assoc]
    · rw [List.flatten_cons, ← List.append_assoc]
      exact hgroups.counts_eq _ (hran.counts_eq hdone)
    · rw [hgroups.readings_eq, hran.readings_eq, List.flatten_cons, List.length_append,
        List.length_cons]
      omega
    · cases k with
      | zero =>
        rw [hall]
        exact (openAt_first hr hfirst hopen).append _
      | succ k =>
        have hopened := hgroups.opened (hran.requests_eq hr) _ session htrace k
          (Nat.lt_of_succ_lt_succ hk)
        rw [shownIn_append, shownIn_sent, hfirst, shownIn_append] at hopened
        rwa [List.take_succ_cons, List.flatten_cons, List.length_append, Nat.add_comm k 1,
          ← Nat.add_assoc (shownIn before),
          show r.readings + (results.length + (groups.take k).flatten.length) + (1 + k) =
            s.readings + (groups.take k).flatten.length + k by rw [hran.readings_eq]; omega]
    · obtain hw | hw := hgroups.warnings w hw
      · exact (hran.forall_warnings w hw).imp_right .inl
      · exact .inr hw
    · obtain ⟨hok, hall | hshutdown⟩ | ⟨hstop, earlier, final, failed, heq, hfailed⟩ :=
        hgroups.ending
      · exact .inl ⟨hok, .inl (congrArg (· + 1) hall)⟩
      · exact .inl ⟨hok, .inr hshutdown⟩
      · exact .inr ⟨hstop, results :: earlier, final, failed, congrArg (results :: ·) heq, hfailed⟩

/-! ### The end of a session -/

/-- After its batches a session changes neither its results nor their figures, and begins no
requests. It may warn about polls. -/
structure Run.Settles (r r' : Run) : Prop where
  results_eq : r'.results = r.results
  counts_eq : r'.session.counts = r.session.counts
  total_eq : r'.session.totalRepositories = r.session.totalRepositories
  trace_eq : ∃ more, r'.trace = r.trace ++ more ∧ requestsIn more = 0
  warnings : ∃ more, r'.session.warnings = r.session.warnings ++ more ∧
    ∀ w ∈ more, ∃ e id, w = pollWarning e id

namespace Run

variable {r r' r'' : Run}

theorem Settles.trans (h : r.Settles r') (h' : r'.Settles r'') : r.Settles r'' := by
  obtain ⟨shown, htrace, hnone⟩ := h.trace_eq
  obtain ⟨shown', htrace', hnone'⟩ := h'.trace_eq
  obtain ⟨more, hwarnings, hmore⟩ := h.warnings
  obtain ⟨more', hwarnings', hmore'⟩ := h'.warnings
  refine ⟨h'.results_eq.trans h.results_eq, h'.counts_eq.trans h.counts_eq,
    h'.total_eq.trans h.total_eq, ⟨shown ++ shown', ?_, ?_⟩, more ++ more', ?_,
    List.forall_mem_append.2 ⟨hmore, hmore'⟩⟩
  · rw [htrace', htrace, List.append_assoc]
  · rw [requestsIn_append, hnone, hnone']
  · rw [hwarnings', hwarnings, List.append_assoc]

theorem Settles.requestsIn_eq (h : r.Settles r') : requestsIn r'.trace = requestsIn r.trace := by
  obtain ⟨more, htrace, hnone⟩ := h.trace_eq
  rw [htrace, requestsIn_append, hnone, Nat.add_zero]

theorem settles_enter (env : Surroundings) (next : Phase) (r : Run) :
    r.Settles (r.enter env next) := by
  refine ⟨rfl, Session.counts_enterIfAllowed _ _ _, ?_, ⟨[], (List.append_nil _).symm, rfl⟩, [],
    ?_, List.forall_mem_nil _⟩
  · rw [enter, Session.enterIfAllowed, Session.enter?]
    split_ifs <;> rfl
  · rw [List.append_nil, enter, Session.enterIfAllowed, Session.enter?]
    split_ifs <;> rfl

theorem settles_publish (r : Run) : r.Settles r.publish :=
  ⟨rfl, rfl, rfl, ⟨[.published r.session], rfl, rfl⟩, [], (List.append_nil _).symm,
    List.forall_mem_nil _⟩

theorem settles_recordPolls (env : Surroundings) (r : Run) : r.Settles (r.recordPolls env) := by
  obtain ⟨-, hresults, htrace, -, warnings, hsession, hwarnings, -⟩ := marked_recordPolls env r
  refine ⟨hresults, ?_, ?_, ⟨[], ?_, rfl⟩, warnings, ?_, hwarnings⟩
  · rw [hsession]
    rfl
  · rw [hsession]
    rfl
  · rw [htrace, List.append_nil]
    rfl
  · rw [hsession]
    rfl

theorem settles_close (env : Surroundings) (r : Run) : r.Settles (r.close env) := by
  have hfirst := (r.settles_enter env .changeDetection).trans (settles_publish _)
  refine (Settles.trans ?_ (settles_enter _ _ _)).trans (settles_enter _ _ _)
  rw [finishWork]
  split_ifs
  · exact hfirst
  · exact ((hfirst.trans (settles_enter _ _ _)).trans (settles_publish _)).trans
      (settles_recordPolls _ _)

theorem settles_recoverSession (env : Surroundings) (e : ProcessorError) (r : Run) :
    r.Settles (recoverSession env e r) := by
  have hreport : r.Settles (r.reportFailure e) :=
    ⟨rfl, rfl, rfl, ⟨[], (List.append_nil _).symm, rfl⟩, [], (List.append_nil _).symm,
      List.forall_mem_nil _⟩
  rw [recoverSession_eq]
  exact (hreport.trans (settles_enter _ _ _)).trans (settles_enter _ _ _)

end Run

/-! ### Sessions -/

/-- The session has no results yet, and no warnings. -/
structure Run.Fresh (r : Run) : Prop where
  results_eq : r.results = []
  counts_eq : r.session.counts = .of []
  warnings_eq : r.session.warnings = []

/-- The books of a session that has passed over the first `k` chunks of its selection. -/
structure Accounts (size : Nat) (selected : List Repository) (k : Nat) (batch : Batch) : Prop where
  chunks : k ≤ (PullWatch.chunks size selected).length
  results : OneEach batch.results (selected.take (k * size))
  total : batch.session.totalRepositories = selected.length
  counts : batch.session.counts = .of batch.results
  remaining : ∀ m, shutdownWarning m ∈ batch.session.warnings →
    m + batch.results.length = selected.length

namespace Accounts

variable {size k : Nat} {selected : List Repository} {batch : Batch}

/-- Every repository that was passed over has succeeded or failed, and none is counted that was not
selected. -/
theorem processed (h : Accounts size selected k batch) :
    batch.session.repositoriesProcessed =
        batch.session.repositoriesSucceeded + batch.session.repositoriesFailed ∧
      batch.session.repositoriesProcessed ≤ batch.session.totalRepositories := by
  have hprocessed : batch.session.repositoriesProcessed = batch.results.length :=
    congrArg Counts.processed h.counts
  refine ⟨?_, ?_⟩
  · have hsum := Counts.processed_of batch.results
    rwa [← h.counts] at hsum
  · rw [hprocessed, h.results.length_eq, h.total]
    exact List.length_take_le' _ _

/-- The session and the batch tell the same rate of successes. -/
theorem successRate (h : Accounts size selected k batch) :
    batch.session.successRate = batch.successRate := by
  have hsucceeded : batch.session.repositoriesSucceeded = (Counts.of batch.results).succeeded :=
    congrArg Counts.succeeded h.counts
  have hprocessed : batch.session.repositoriesProcessed = (Counts.of batch.results).processed :=
    congrArg Counts.processed h.counts
  rw [Session.successRate, Batch.successRate, hsucceeded, hprocessed]
  rfl

end Accounts

/-- The readings of the clocks that a session has taken when it has passed over the first `k` chunks
of its selection: three before them, one for each pass and one for each batch. -/
def readingsBefore (size : Nat) (selected : List Repository) (k : Nat) : Nat :=
  3 + (selected.take (k * size)).length + k

namespace Told

variable {isShutdown : Bool} {selected : List Repository} {first r : Run}
  {last : Except ProcessorError Unit × Run} {groups : List (List RepositoryResult)}

/-- The results of the first batches and what the others would pass over make up the selection. -/
theorem length_add_length {batches : List (List Repository)}
    (h : Told env config isShutdown batches first last groups) :
    (batches.drop groups.length).flatten.length + groups.flatten.length =
      batches.flatten.length := by
  rw [(OneEach.flatten h.oneEach).length_eq, Nat.add_comm, ← List.length_append,
    ← List.flatten_append, List.take_append_drop]

/-- The first batches passed over the first chunks of the selection. -/
theorem length_take (hsize : 1 ≤ config.batchSize)
    (h : Told env config isShutdown (chunks config.batchSize selected) first last groups) {k : Nat}
    (hk : k ≤ groups.length) :
    (groups.take k).flatten.length = (selected.take (k * config.batchSize)).length := by
  have hfirst := (OneEach.flatten (List.forall₂_take k h.oneEach)).length_eq
  rwa [List.take_take, Nat.min_eq_left hk, flatten_take_chunks hsize] at hfirst

/-- The readings that were taken for the chunks that were passed over. -/
theorem readings_eq_readingsBefore (hsize : 1 ≤ config.batchSize)
    (h : Told env config isShutdown (chunks config.batchSize selected) first last groups)
    (hreadings : first.readings = 3) :
    last.2.readings = readingsBefore config.batchSize selected groups.length := by
  have hall := h.length_take hsize le_rfl
  rw [List.take_length] at hall
  rw [h.readings_eq, hreadings, hall, readingsBefore]


/-- The last batch that was run is the chunk of the selection after those of the earlier batches. -/
theorem lastBatch {earlier : List (List RepositoryResult)} {final : List RepositoryResult}
    (hsize : 1 ≤ config.batchSize)
    (h : Told env config isShutdown (chunks config.batchSize selected) first last
      (earlier ++ [final])) :
    OneEach earlier.flatten (selected.take (earlier.length * config.batchSize)) ∧
      OneEach final
        ((selected.drop (earlier.length * config.batchSize)).take config.batchSize) := by
  have hgroups := h.oneEach
  rw [List.length_append, List.length_singleton] at hgroups
  obtain ⟨hearlier, hfinal⟩ := OneEach.of_concat hgroups
  have hbefore := OneEach.flatten hearlier
  rw [flatten_take_chunks hsize] at hbefore
  rw [drop_chunks hsize, flatten_take_chunks hsize, Nat.one_mul] at hfinal
  exact ⟨hbefore, hfinal⟩

theorem accounts (hsize : 1 ≤ config.batchSize)
    (h : Told env config isShutdown (chunks config.batchSize selected) first last groups)
    (hfresh : first.Fresh) (htotal : last.2.session.totalRepositories = selected.length)
    (hend : last.2.Settles r) :
    Accounts config.batchSize selected groups.length
      { session := r.session, results := r.results } := by
  have hresults : r.results = groups.flatten := by
    rw [hend.results_eq, h.results_eq, hfresh.results_eq, List.nil_append]
  refine
    { chunks := ?_, results := ?_, total := hend.total_eq.trans htotal, counts := ?_
      remaining := fun m hm => ?_ }
  · have hlength := h.oneEach.length_eq
    rw [List.length_take] at hlength
    omega
  · rw [← flatten_take_chunks hsize]
    simp only [hresults]
    exact OneEach.flatten h.oneEach
  · simp only [hresults, hend.counts_eq]
    exact h.counts_eq [] hfresh.counts_eq
  · obtain ⟨more, hwarnings, hmore⟩ := hend.warnings
    have hlength := h.length_add_length
    rw [flatten_chunks] at hlength
    simp only [hresults]
    simp only [hwarnings, List.mem_append] at hm
    rcases hm with hm | hm
    · rcases h.warnings _ hm with hm | hm | hm
      · rw [hfresh.warnings_eq] at hm
        exact absurd hm List.not_mem_nil
      · exact absurd hm (ne_of_second (second_shutdownWarning m) (second_timeWarning _) (by decide))
      · rw [shutdownWarning_inj hm, hlength]
    · obtain ⟨e, id, hpoll⟩ := hmore _ hm
      exact absurd hpoll (ne_of_second (second_shutdownWarning m) (second_pollWarning e id)
        (by decide))

end Told

/-- The repositories that a session selects; none when it cannot. -/
def selectedBy (env : Surroundings) (db : Database) (ids : Option (List Int)) (mode : Mode) :
    List Repository :=
  (selectRepositories db env.faults ids mode (env.clock 1).time).toOption.getD []

theorem selectedBy_of_eq_ok {db : Database} {ids : Option (List Int)} {mode : Mode}
    {repositories : List Repository}
    (h : selectRepositories db env.faults ids mode (env.clock 1).time = .ok repositories) :
    selectedBy env db ids mode = repositories := by
  rw [selectedBy, h]
  rfl

theorem selectedBy_of_eq_error {db : Database} {ids : Option (List Int)} {mode : Mode}
    {e : ProcessorError}
    (h : selectRepositories db env.faults ids mode (env.clock 1).time = .error e) :
    selectedBy env db ids mode = [] := by
  rw [selectedBy, h]
  rfl

/-- The batches of a session, and the books of the session when it has settled. -/
theorem Processor.batches_told {p : Processor} {db : Database} {mode : Mode}
    {selected : List Repository} {ended : List EndedPass} {last : Except ProcessorError Unit × Run}
    {r : Run} (hsize : 1 ≤ p.config.batchSize)
    (h : BatchesRan env p.config p.isShutdown (chunks p.config.batchSize selected)
      (p.discovering env db mode selected) ended last) (hend : last.2.Settles r) :
    ∃ groups, Told env p.config p.isShutdown (chunks p.config.batchSize selected)
        (p.discovering env db mode selected) last groups ∧
      Accounts p.config.batchSize selected groups.length
        { session := r.session, results := r.results } ∧
      last.2.requests = requestsIn r.trace ∧
      ∀ j < groups.length, (p.isShutdown || env.isShutdown (requestsBefore (1 + j) r.trace)
        (readingsBefore p.config.batchSize selected j)) = false := by
  obtain ⟨groups, htold⟩ := h.told
  have htotal : last.2.session.totalRepositories = selected.length :=
    congrArg Course.totalRepositories h.course_eq
  have hrequests : last.2.requests = requestsIn r.trace := by
    rw [hend.requestsIn_eq]
    exact htold.requests_eq rfl
  refine ⟨groups, htold, htold.accounts hsize ⟨rfl, rfl, rfl⟩ htotal hend, hrequests,
    fun j hj => ?_⟩
  -- the session is shown when it begins and when its batches begin
  have hopened := htold.opened rfl [.published _] _ rfl j hj
  rw [htold.length_take hsize hj.le] at hopened
  obtain ⟨more, hmore, -⟩ := hend.trace_eq
  rw [hmore]
  exact (hopened.append more).requestsBefore_eq

/-- **The books of sessions.** However a session of an idle processor ends, it has passed over the
first chunks of its selection: it has one result for each of their entries, its figures are the sums
over its results, and a warning about a shutdown tells how many entries were left out.

When it ends with success, entries were left out only if a shutdown had been requested before the
first chunk that was left out, and then there is the warning. Otherwise nothing could be selected,
or the last of its batches had a failure that ended it, which the error names. In no case had a
shutdown been requested before a chunk that was passed over: the session is shown to observers when
it begins, before its batches and after each of them. -/
theorem processAll_accounts (p : Processor) (hidle : p.isRunning = false)
    (hsize : 1 ≤ p.config.batchSize) (env : Surroundings) (db : Database)
    (ids : Option (List Int)) (mode : Mode) :
    let o := p.processAll env db ids mode
    let selected := selectedBy env db ids mode
    let size := p.config.batchSize
    ∃ batch k, Accounts size selected k batch ∧
      batch.session.repositoriesProcessed =
        batch.session.repositoriesSucceeded + batch.session.repositoriesFailed ∧
      batch.session.repositoriesProcessed ≤ batch.session.totalRepositories ∧
      batch.session.successRate = batch.successRate ∧
      (∀ j < k, (p.isShutdown ||
        env.isShutdown (requestsBefore (1 + j) o.trace) (readingsBefore size selected j)) = false) ∧
      ((o.result = .ok batch ∧ (k * size < selected.length →
          (p.isShutdown ||
              env.isShutdown (requestsIn o.trace) (readingsBefore size selected k)) = true ∧
            shutdownWarning (selected.length - batch.results.length) ∈ batch.session.warnings)) ∨
        (∃ e, o.result = .error (.sessionFailed batch e) ∧
          selectRepositories db env.faults ids mode (env.clock 1).time = .error e) ∨
        p.config.stopOnFirstError = true ∧ 1 ≤ k ∧ ∃ earlier final failed,
          batch.results = earlier ++ final ∧
            OneEach earlier (selected.take ((k - 1) * size)) ∧
            OneEach final ((selected.drop ((k - 1) * size)).take size) ∧
            failed ∈ final ∧ failed.success = false ∧
            o.result = .error (.sessionFailed batch (.aborted failed.repository))) := by
  intro o selected size
  obtain ⟨_, last, hends, -, hresult, -, htrace, -⟩ :=
    Processor.processAll_ends hidle env db ids mode
  suffices h : ∃ batch k, Accounts size selected k batch ∧ _ by
    obtain ⟨batch, k, haccounts, hrest⟩ := h
    obtain ⟨hsum, hle⟩ := haccounts.processed
    exact ⟨batch, k, haccounts, hsum, hle, haccounts.successRate, hrest⟩
  cases hends with
  | @unselected e hselect =>
    rw [show selected = [] from selectedBy_of_eq_error hselect]
    have hnone : BatchesRan env p.config p.isShutdown (chunks size []) (p.firstRun env db mode).read
        [] (.ok (), (p.firstRun env db mode).read) := by
      rw [chunks]
      exact .done
    obtain ⟨groups, htold⟩ := hnone.told
    have haccounts := htold.accounts hsize ⟨rfl, rfl, rfl⟩ rfl (Run.settles_recoverSession env e _)
    refine ⟨_, _, haccounts, fun j hj => ?_, .inr (.inl ⟨e, hresult, hselect⟩)⟩
    have hchunks := hj.trans_le haccounts.chunks
    rw [chunks] at hchunks
    exact absurd hchunks j.not_lt_zero
  | @aborted chosen e ended r hselect hbatches =>
    rw [show selected = chosen from selectedBy_of_eq_ok hselect,
      show o.trace = (recoverSession env e r).trace from htrace]
    obtain ⟨groups, htold, haccounts, -, hopened⟩ :=
      Processor.batches_told hsize hbatches (r.settles_recoverSession env e)
    obtain ⟨hok, -⟩ | ⟨hstop, earlier, final, failed, rfl, hfailed, hfailure, herror⟩ :=
      htold.ending
    · cases hok
    · obtain rfl := Except.error.inj herror
      obtain ⟨hbefore, hfinal⟩ := htold.lastBatch hsize
      rw [show (earlier ++ [final]).length = earlier.length + 1 from List.length_append]
        at haccounts hopened
      have hresults : r.results = (earlier ++ [final]).flatten := htold.results_eq
      rw [List.flatten_append, List.flatten_singleton] at hresults
      exact ⟨_, _, haccounts, hopened, .inr (.inr ⟨hstop, Nat.succ_pos _, earlier.flatten, final,
        failed, hresults, hbefore, hfinal, hfailed, hfailure, hresult⟩)⟩
  | @completed chosen ended r hselect hbatches =>
    rw [show selected = chosen from selectedBy_of_eq_ok hselect,
      show o.trace = (r.close env).trace from htrace]
    have hend := r.settles_close env
    obtain ⟨groups, htold, haccounts, hrequests, hopened⟩ :=
      Processor.batches_told hsize hbatches hend
    refine ⟨_, _, haccounts, hopened, .inl ⟨hresult, fun hless => ?_⟩⟩
    obtain ⟨-, hall | ⟨hshutdown, hwarning⟩⟩ | ⟨-, _, _, _, -, -, -, herror⟩ := htold.ending
    · rw [hall] at hless
      exact absurd hless (length_le_of_chunks hsize chosen).not_gt
    · obtain ⟨more, hwarnings, -⟩ := hend.warnings
      have hwarned := List.mem_append_left more hwarning
      rw [← hwarnings] at hwarned
      rw [hrequests, htold.readings_eq_readingsBefore hsize rfl] at hshutdown
      refine ⟨hshutdown, ?_⟩
      rwa [← haccounts.remaining _ hwarned, Nat.add_sub_cancel]
    · cases herror

/-- A processor that keeps the listings of the small service. -/
def keepingProcessor : Processor :=
  (({ sampleProcessor with config := { batchSize := 2 } } : Processor).processAll
    sampleSurroundings sampleDatabase none .incremental).processor

/-- A shutdown is requested while the first batch of two is made, although the session makes no
request. The small database holds one repository, which the selection names three times. -/
theorem processAll_accounts_sample :
    let env : Surroundings := { sampleSurroundings with shutdownByReading := fun n => 3 < n }
    let o := keepingProcessor.processAll env sampleDatabase (some [1, 1, 1]) .incremental
    keepingProcessor.isRunning = false ∧ 1 ≤ keepingProcessor.config.batchSize ∧
      requestsIn o.trace = 0 ∧ ∃ batch, o.result = .ok batch ∧
        shutdownWarning 1 ∈ batch.session.warnings ∧ 1 + batch.results.length = 3 := by
  intro env o
  have hwarnings : o.result.toOption.map (·.session.warnings) = some [shutdownWarning 1] := by
    decide +kernel
  have hidle : keepingProcessor.isRunning = false := by decide +kernel
  have hsize : 1 ≤ keepingProcessor.config.batchSize := by decide +kernel
  obtain ⟨batch, hbatch, hwarning⟩ := Option.map_eq_some_iff.1 hwarnings
  have hresult := Outcome.toOption_eq_some.1 hbatch
  obtain ⟨told, k, haccounts, -, -, -, -, ⟨hok, -⟩ | ⟨e, herror, -⟩ | ⟨-, -, _, _, _, -, -, -, -,
    -, herror⟩⟩ := processAll_accounts keepingProcessor hidle hsize env sampleDatabase
      (some [1, 1, 1]) .incremental
  · obtain rfl : told = batch := Except.ok.inj (hok.symm.trans hresult)
    have hmem : shutdownWarning 1 ∈ told.session.warnings := hwarning ▸ List.mem_singleton_self _
    exact ⟨hidle, hsize, by decide +kernel, told, hresult, hmem, haccounts.remaining 1 hmem⟩
  · exact nomatch herror.symm.trans hresult
  · exact nomatch herror.symm.trans hresult

end PullWatch
