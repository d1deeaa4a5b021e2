import PullWatch.Proofs.DiscoveryCache
import Mathlib.Data.Finset.Card

/-!
# What the cache answers

An entry leaves the cache in many ways: it is looked up when its time is over, anything is stored
when its time is over, something else is stored in its place, its repository is dropped, or
everything is. Still, what the cache answers can be told from the history of what was done to it:
for every query from the listing that was stored last, unless that is too old or was dropped since.

No entry is held that the history does not tell of. An entry that the history tells of may be gone,
but then its time was over at some event, and so it is over ever after. So it does not matter when
an expired entry is removed.

## Main definitions

* `CacheEvent`: something done to the cache at a time.
* `Cache.after`: the cache after a history of such events.
* `LastStored`: what a history tells of a query.
* `Cache.Follows`: the cache holds what a history tells.

## Main results

* `Cache.Follows.act`: one event.
* `Cache.follows_after`: a history of events.
* `cache_refines_history`: what the cache answers, drops and holds.
-/

namespace PullWatch

/-! ### Histories -/

/-- Something done to the cache. -/
inductive CacheAction where
  | store (repositoryId : Int) (key : String) (value : Cached)
  | findPulls (repositoryId : Int) (key : String)
  | findChecks (repositoryId : Int) (key : String)
  | dropRepository (repositoryId : Int)
  | clear

namespace CacheAction

/-- The action takes away what was stored for a query before, or replaces it. -/
def Displaces (a : CacheAction) (repositoryId : Int) (key : String) : Prop :=
  match a with
  | store id k _ => id = repositoryId ∧ k = key
  | findPulls _ _ | findChecks _ _ => False
  | dropRepository id => id = repositoryId
  | clear => True

/-- The query for which the action stores something. -/
def storedFor? : CacheAction → Option (Int × String)
  | store repositoryId key _ => some (repositoryId, key)
  | findPulls _ _ | findChecks _ _ | dropRepository _ | clear => none

end CacheAction

/-- Something done to the cache at a time. -/
structure CacheEvent where
  time : Nat
  action : CacheAction

/-- A listing was stored for a query at a time, and nothing has displaced it since. -/
def LastStored (history : List CacheEvent) (repositoryId : Int) (key : String) (time : Nat)
    (value : Cached) : Prop :=
  ∃ before after, history = before ++ ⟨time, .store repositoryId key value⟩ :: after ∧
    ∀ e ∈ after, ¬ e.action.Displaces repositoryId key

/-- The queries for which something was stored less than a lifetime ago. -/
def recentQueries (lifetime now : Nat) (history : List CacheEvent) : Finset (Int × String) :=
  ((history.filter fun e => now - e.time < lifetime).filterMap fun e =>
    e.action.storedFor?).toFinset

section LastStored

variable {history rest : List CacheEvent} {e : CacheEvent} {repositoryId : Int} {key : String}
  {time : Nat} {value : Cached}

/-- One more event stores the listing, or leaves it where it is. -/
theorem lastStored_concat :
    LastStored (history ++ [e]) repositoryId key time value ↔
      e = ⟨time, .store repositoryId key value⟩ ∨
        LastStored history repositoryId key time value ∧
          ¬ e.action.Displaces repositoryId key := by
  constructor
  · rintro ⟨before, after, heq, hafter⟩
    rcases List.eq_nil_or_concat after with rfl | ⟨after, last, rfl⟩
    · exact .inl (List.append_singleton_inj.1 heq).2
    · rw [List.concat_eq_append, ← List.cons_append, ← List.append_assoc] at heq
      obtain ⟨rfl, rfl⟩ := List.append_singleton_inj.1 heq
      rw [List.concat_eq_append, List.forall_mem_append, List.forall_mem_singleton] at hafter
      exact .inr ⟨⟨before, after, rfl, hafter.1⟩, hafter.2⟩
  · rintro (rfl | ⟨⟨before, after, rfl, hafter⟩, he⟩)
    · exact ⟨history, [], rfl, List.forall_mem_nil _⟩
    · refine ⟨before, after ++ [e], by simp, ?_⟩
      rw [List.forall_mem_append, List.forall_mem_singleton]
      exact ⟨hafter, he⟩

/-- An event that displaces nothing of a query might as well not have been. -/
theorem lastStored_skip (he : ¬ e.action.Displaces repositoryId key) (rest : List CacheEvent) :
    LastStored (history ++ e :: rest) repositoryId key time value ↔
      LastStored (history ++ rest) repositoryId key time value := by
  induction rest using List.reverseRecOn with
  | nil =>
    rw [lastStored_concat, List.append_nil]
    refine ⟨?_, fun h => .inr ⟨h, he⟩⟩
    rintro (rfl | h)
    · exact absurd ⟨rfl, rfl⟩ he
    · exact h.1
  | append_singleton rest last ih =>
    rw [← List.cons_append, ← List.append_assoc, lastStored_concat, ih, ← List.append_assoc,
      lastStored_concat]

/-- What is stored was stored by an event. -/
theorem LastStored.mem (h : LastStored history repositoryId key time value) :
    ⟨time, .store repositoryId key value⟩ ∈ history := by
  obtain ⟨before, after, rfl, -⟩ := h
  exact List.mem_append_right before List.mem_cons_self

end LastStored

/-! ### The cache and its history -/

/-- The query that the entry answers. -/
def CacheEntry.query (e : CacheEntry) : Int × String := (e.repositoryId, e.key)

theorem CacheEntry.isAt_iff {e : CacheEntry} {repositoryId : Int} {key : String} :
    e.isAt repositoryId key = true ↔ e.query = (repositoryId, key) := by
  simp [isAt, query]

namespace Cache

/-- The cache after an event. -/
def act (c : Cache) : CacheEvent → Cache
  | ⟨now, .store repositoryId key value⟩ => c.store now repositoryId key value
  | ⟨now, .findPulls repositoryId key⟩ => (c.findPulls now repositoryId key).2
  | ⟨now, .findChecks repositoryId key⟩ => (c.findChecks now repositoryId key).2
  | ⟨_, .dropRepository repositoryId⟩ => (c.dropRepository repositoryId).2
  | ⟨_, .clear⟩ => c.clear

/-- The cache after a history that begins with an empty one. -/
def after (lifetime : Nat) (history : List CacheEvent) : Cache :=
  history.foldl act { lifetime }

@[simp] theorem after_concat (lifetime : Nat) (history : List CacheEvent) (e : CacheEvent) :
    after lifetime (history ++ [e]) = (after lifetime history).act e := by
  simp [after]

/-- The cache holds what a history tells, but for entries whose time was over at some event. -/
structure Follows (c : Cache) (history : List CacheEvent) : Prop where
  /-- A cache that keeps nothing holds nothing. -/
  disabled : c.lifetime = 0 → c.entries = []
  /-- There is at most one entry for each query. -/
  distinct : (c.entries.map CacheEntry.query).Nodup
  told : ∀ e ∈ c.entries, LastStored history e.repositoryId e.key e.storedAt e.value
  held : ∀ repositoryId key time value, LastStored history repositoryId key time value →
    { repositoryId, key, storedAt := time, value } ∈ c.entries ∨
      ∃ e ∈ history, c.lifetime ≤ e.time - time

variable {c : Cache} {history : List CacheEvent} {now : Nat} {repositoryId : Int} {key : String}
  {value : Cached}

theorem isEnabled_iff : c.isEnabled = true ↔ 0 < c.lifetime := by simp [isEnabled]

/-! ### Looking up -/

theorem find_entries_sublist (c : Cache) (now : Nat) (repositoryId : Int) (key : String) :
    (c.find now repositoryId key).2.entries.Sublist c.entries := by
  rw [find]
  split_ifs
  · cases c.entries.find? fun e => e.isAt repositoryId key with
    | none => exact List.Sublist.refl _
    | some e =>
      simp only
      split_ifs
      · exact List.filter_sublist
      · exact List.Sublist.refl _
  · exact List.Sublist.refl _

/-- The entry for a query is the one that is found. -/
theorem find?_of_distinct (hdistinct : (c.entries.map CacheEntry.query).Nodup) {e : CacheEntry}
    (he : e ∈ c.entries) : (c.entries.find? fun d => d.isAt e.repositoryId e.key) = some e := by
  cases hfind : c.entries.find? fun d => d.isAt e.repositoryId e.key with
  | none => exact absurd (CacheEntry.isAt_iff.2 rfl) (List.find?_eq_none.1 hfind e he)
  | some d =>
    have hat : d.isAt e.repositoryId e.key = true := by simpa using List.find?_some hfind
    have hquery : d.query = e.query := CacheEntry.isAt_iff.1 hat
    exact congrArg some
      (List.inj_on_of_nodup_map hdistinct (List.mem_of_find?_eq_some hfind) he hquery)

/-- What is found is what an entry holds whose time is not over. -/
theorem find_eq_some_iff (hdistinct : (c.entries.map CacheEntry.query).Nodup) :
    (c.find now repositoryId key).1 = some value ↔
      0 < c.lifetime ∧ ∃ time, { repositoryId, key, storedAt := time, value } ∈ c.entries ∧
        now - time < c.lifetime := by
  constructor
  · intro h
    obtain ⟨e, he, rfl, rfl, hlive, rfl⟩ := find_eq_some h
    have hage : now - e.storedAt < c.lifetime := by simpa [CacheEntry.isExpired] using hlive
    exact ⟨Nat.zero_lt_of_lt hage, e.storedAt, he, hage⟩
  · rintro ⟨hlifetime, time, he, hage⟩
    have hlive : ¬ CacheEntry.isExpired ⟨repositoryId, key, time, value⟩ c.lifetime now = true := by
      simpa [CacheEntry.isExpired] using hage
    have hfind : (c.entries.find? fun d => d.isAt repositoryId key) =
        some ⟨repositoryId, key, time, value⟩ := find?_of_distinct hdistinct he
    rw [find, if_pos (isEnabled_iff.2 hlifetime), hfind]
    simp only [if_neg hlive]

/-- A look-up removes no entry whose time is not over. -/
theorem mem_find_of_live (hdistinct : (c.entries.map CacheEntry.query).Nodup) {e : CacheEntry}
    (he : e ∈ c.entries) (hlive : ¬ c.lifetime ≤ now - e.storedAt) :
    e ∈ (c.find now repositoryId key).2.entries := by
  rw [find]
  split_ifs
  · cases hfind : c.entries.find? fun e => e.isAt repositoryId key with
    | none => exact he
    | some d =>
      simp only
      split_ifs with hexpired
      · refine List.mem_filter.2 ⟨he, ?_⟩
        by_contra hplace
        -- the entry that was found is the only one for its query
        have hquery : e.query = (repositoryId, key) := CacheEntry.isAt_iff.1 (by simpa using hplace)
        obtain ⟨rfl, rfl⟩ := Prod.mk.inj hquery
        obtain rfl : e = d :=
          Option.some.inj ((find?_of_distinct hdistinct he).symm.trans hfind)
        exact hlive (by simpa [CacheEntry.isExpired] using hexpired)
      · exact he
  · exact he

theorem findPulls_eq_some_iff {found : List FetchedPullRequest} :
    (c.findPulls now repositoryId key).1 = some found ↔
      (c.find now repositoryId key).1 = some (.pulls found) := by
  refine ⟨findPulls_eq_some, fun h => ?_⟩
  rcases hfind : c.find now repositoryId key with ⟨value, later⟩
  obtain rfl : value = some (.pulls found) := by rwa [hfind] at h
  rw [findPulls, hfind]

theorem findChecks_eq_some_iff {found : List CheckRun} :
    (c.findChecks now repositoryId key).1 = some found ↔
      (c.find now repositoryId key).1 = some (.checks found) := by
  refine ⟨findChecks_eq_some, fun h => ?_⟩
  rcases hfind : c.find now repositoryId key with ⟨value, later⟩
  obtain rfl : value = some (.checks found) := by rwa [hfind] at h
  rw [findChecks, hfind]

/-! ### Storing -/

theorem store_of_lifetime_zero (hzero : c.lifetime = 0) : c.store now repositoryId key value = c := by
  simp [store, isEnabled, hzero]

/-- After something was stored, what is held is that and all that is for another query and not too
old. -/
theorem mem_store_iff (hlifetime : 0 < c.lifetime) {e : CacheEntry} :
    e ∈ (c.store now repositoryId key value).entries ↔
      (e ∈ c.entries ∧ now - e.storedAt < c.lifetime ∧ e.query ≠ (repositoryId, key)) ∨
        e = { repositoryId, key, storedAt := now, value } := by
  have hkept : (!e.isExpired c.lifetime now && !e.isAt repositoryId key) = true ↔
      now - e.storedAt < c.lifetime ∧ e.query ≠ (repositoryId, key) := by
    simp [← CacheEntry.isAt_iff, CacheEntry.isExpired]
  rw [store, if_pos (isEnabled_iff.2 hlifetime), List.mem_append, List.mem_filter,
    List.mem_singleton, hkept]

theorem distinct_store (hdistinct : (c.entries.map CacheEntry.query).Nodup) :
    ((c.store now repositoryId key value).entries.map CacheEntry.query).Nodup := by
  rw [store]
  split_ifs
  · rw [List.map_append, List.map_singleton]
    refine (hdistinct.sublist (List.filter_sublist.map _)).append (List.nodup_singleton _)
      (List.disjoint_singleton.2 fun hquery => ?_)
    obtain ⟨e, he, hsame⟩ := List.mem_map.1 hquery
    have hother := (List.mem_filter.1 he).2
    rw [CacheEntry.isAt_iff.2 hsame] at hother
    simp at hother
  · exact hdistinct

/-! ### One event -/

namespace Follows

theorem empty (lifetime : Nat) : Follows { lifetime } [] where
  disabled _ := rfl
  distinct := List.nodup_nil
  told := List.forall_mem_nil _
  held _ _ _ _ h := absurd h.mem List.not_mem_nil

variable (h : c.Follows history)
include h

theorem store (repositoryId : Int) (key : String) (value : Cached) :
    (c.store now repositoryId key value).Follows
      (history ++ [⟨now, .store repositoryId key value⟩]) := by
  rcases Nat.eq_zero_or_pos c.lifetime with hzero | hlifetime
  · rw [store_of_lifetime_zero hzero]
    refine ⟨h.disabled, h.distinct, fun e he => ?_, fun id k time v hstored => .inr ?_⟩
    · rw [h.disabled hzero] at he
      cases he
    · exact ⟨_, hstored.mem, by omega⟩
  · refine ⟨fun hzero => ?_, distinct_store h.distinct, fun e he => ?_,
      fun id k time v hstored => ?_⟩
    · rw [lifetime_store] at hzero
      omega
    · rcases (mem_store_iff hlifetime).1 he with ⟨he, -, hother⟩ | rfl
      · exact lastStored_concat.2 (.inr ⟨h.told e he, fun hsame =>
          hother (Prod.ext hsame.1.symm hsame.2.symm)⟩)
      · exact lastStored_concat.2 (.inl rfl)
    · rw [lifetime_store]
      rcases lastStored_concat.1 hstored with heq | ⟨hbefore, hother⟩
      · cases heq
        exact .inl ((mem_store_iff hlifetime).2 (.inr rfl))
      · rcases h.held id k time v hbefore with he | ⟨e, he, hage⟩
        · by_cases hage : c.lifetime ≤ now - time
          · exact .inr ⟨_, List.mem_append_right _ (List.mem_singleton_self _), hage⟩
          · refine .inl ((mem_store_iff hlifetime).2 (.inl ⟨he, not_le.1 hage, fun hsame => ?_⟩))
            obtain ⟨rfl, rfl⟩ := Prod.mk.inj hsame
            exact hother ⟨rfl, rfl⟩
        · exact .inr ⟨e, List.mem_append_left _ he, hage⟩

/-- A look-up, whatever is looked for. -/
theorem find (repositoryId : Int) (key : String) {action : CacheAction}
    (haction : ∀ id k, ¬ action.Displaces id k) :
    (c.find now repositoryId key).2.Follows (history ++ [⟨now, action⟩]) where
  disabled hzero := by
    rw [lifetime_find] at hzero
    exact List.sublist_nil.1 (h.disabled hzero ▸ find_entries_sublist c now repositoryId key)
  distinct := h.distinct.sublist ((find_entries_sublist c now repositoryId key).map _)
  told e he := lastStored_concat.2 (.inr ⟨h.told e (mem_find he), haction _ _⟩)
  held id k time v hstored := by
    rw [lifetime_find]
    have hbefore := (lastStored_skip (haction id k) []).1 hstored
    rw [List.append_nil] at hbefore
    rcases h.held id k time v hbefore with he | ⟨e, he, hage⟩
    · by_cases hage : c.lifetime ≤ now - time
      · exact .inr ⟨_, List.mem_append_right _ (List.mem_singleton_self _), hage⟩
      · exact .inl (mem_find_of_live h.distinct he hage)
    · exact .inr ⟨e, List.mem_append_left _ he, hage⟩

theorem dropRepository (repositoryId : Int) :
    (c.dropRepository repositoryId).2.Follows (history ++ [⟨now, .dropRepository repositoryId⟩])
      where
  disabled hzero := by simp [Cache.dropRepository, h.disabled hzero]
  distinct := h.distinct.sublist (List.filter_sublist.map _)
  told e he := by
    obtain ⟨he, hother⟩ := mem_dropRepository.1 he
    exact lastStored_concat.2 (.inr ⟨h.told e he, fun hsame => hother hsame.symm⟩)
  held id k time v hstored := by
    rcases lastStored_concat.1 hstored with heq | ⟨hbefore, hother⟩
    · cases heq
    · rcases h.held id k time v hbefore with he | ⟨e, he, hage⟩
      · exact .inl (mem_dropRepository.2 ⟨he, fun hsame => hother hsame.symm⟩)
      · exact .inr ⟨e, List.mem_append_left _ he, hage⟩

omit h in
theorem clear : c.clear.Follows (history ++ [⟨now, .clear⟩]) where
  disabled _ := rfl
  distinct := List.nodup_nil
  told := List.forall_mem_nil _
  held id k time v hstored := by
    rcases lastStored_concat.1 hstored with heq | ⟨-, hother⟩
    · cases heq
    · exact absurd trivial hother

/-- One event. -/
theorem act (e : CacheEvent) : (c.act e).Follows (history ++ [e]) := by
  obtain ⟨now, action⟩ := e
  cases action with
  | store repositoryId key value => exact h.store repositoryId key value
  | findPulls repositoryId key =>
    rw [Cache.act, findPulls_snd]
    exact h.find repositoryId key fun _ _ => id
  | findChecks repositoryId key =>
    rw [Cache.act, findChecks_snd]
    exact h.find repositoryId key fun _ _ => id
  | dropRepository repositoryId => exact h.dropRepository repositoryId
  | clear => exact clear

/-- What is found at a time after all events of the history. -/
theorem find_eq_some_iff (hnow : ∀ e ∈ history, e.time ≤ now) :
    (c.find now repositoryId key).1 = some value ↔
      0 < c.lifetime ∧ ∃ time, LastStored history repositoryId key time value ∧
        now - time < c.lifetime := by
  rw [Cache.find_eq_some_iff h.distinct]
  refine and_congr_right fun _ => exists_congr fun time => and_congr_left fun hage => ?_
  refine ⟨fun he => h.told _ he, fun hstored => ?_⟩
  rcases h.held _ _ _ _ hstored with he | ⟨e, he, hold⟩
  · exact he
  · have hlater := hnow e he
    omega

end Follows

/-! ### A history of events -/

theorem follows_after (lifetime : Nat) (history : List CacheEvent) :
    (after lifetime history).Follows history := by
  induction history using List.reverseRecOn with
  | nil => exact .empty lifetime
  | append_singleton history e ih => exact after_concat lifetime history e ▸ ih.act e

@[simp] theorem lifetime_act (c : Cache) (e : CacheEvent) : (c.act e).lifetime = c.lifetime := by
  obtain ⟨now, action⟩ := e
  cases action with
  | store repositoryId key value => exact lifetime_store
  | findPulls repositoryId key => rw [act, findPulls_snd, lifetime_find]
  | findChecks repositoryId key => rw [act, findChecks_snd, lifetime_find]
  | dropRepository repositoryId => rfl
  | clear => rfl

@[simp] theorem lifetime_after (lifetime : Nat) (history : List CacheEvent) :
    (after lifetime history).lifetime = lifetime := by
  induction history using List.reverseRecOn with
  | nil => rfl
  | append_singleton history e ih => rw [after_concat, lifetime_act, ih]

section After

variable {lifetime : Nat}

/-- What is found after a history. -/
theorem find_after_eq_some_iff (hnow : ∀ e ∈ history, e.time ≤ now) :
    ((after lifetime history).find now repositoryId key).1 = some value ↔
      0 < lifetime ∧ ∃ time, LastStored history repositoryId key time value ∧
        now - time < lifetime := by
  rw [(follows_after lifetime history).find_eq_some_iff hnow, lifetime_after]

/-- What is found for a query does not depend on an event that displaces nothing of it. -/
theorem find_after_skip {e : CacheEvent} (he : ¬ e.action.Displaces repositoryId key)
    {rest : List CacheEvent} (hnow : ∀ d ∈ history ++ e :: rest, d.time ≤ now) :
    ((after lifetime (history ++ e :: rest)).find now repositoryId key).1 =
      ((after lifetime (history ++ rest)).find now repositoryId key).1 := by
  have hrest : ∀ d ∈ history ++ rest, d.time ≤ now := fun d hd =>
    hnow d (by simp only [List.mem_append, List.mem_cons] at hd ⊢; tauto)
  ext value
  rw [find_after_eq_some_iff hnow, find_after_eq_some_iff hrest]
  simp only [lastStored_skip he]

/-- Nothing is held after a listing was stored that is as old as a lifetime. -/
theorem age_lt_of_mem_store (hlifetime : 0 < c.lifetime) {e : CacheEntry}
    (he : e ∈ (c.store now repositoryId key value).entries) : now - e.storedAt < c.lifetime := by
  rcases (mem_store_iff hlifetime).1 he with ⟨-, hage, -⟩ | rfl
  · exact hage
  · simpa using hlifetime

/-- There are not more entries than queries with something recent stored, if all are recent. -/
theorem Follows.size_le (h : c.Follows history)
    (hrecent : ∀ e ∈ c.entries, now - e.storedAt < c.lifetime) :
    c.size ≤ (recentQueries c.lifetime now history).card := by
  have hsubset : c.entries.map CacheEntry.query ⊆
      (history.filter fun e => now - e.time < c.lifetime).filterMap fun e =>
        e.action.storedFor? := by
    intro query hquery
    obtain ⟨e, he, rfl⟩ := List.mem_map.1 hquery
    exact List.mem_filterMap.2
      ⟨_, List.mem_filter.2 ⟨(h.told e he).mem, decide_eq_true (hrecent e he)⟩, rfl⟩
  rw [size, ← List.length_map (f := CacheEntry.query), ← List.toFinset_card_of_nodup h.distinct]
  exact Finset.card_le_card fun query hquery =>
    List.mem_toFinset.2 (hsubset (List.mem_toFinset.1 hquery))

end After

end Cache

/-- **The cache answers as its history tells.** Of a history none of whose events comes after `now`,
in particular of one in the order of time: a listing is found for a query exactly when the cache
keeps anything, the listing was the last to be stored for the query, less than a lifetime ago, and
neither the repository nor everything was dropped since.

Dropping a repository removes its entries and no other, tells how many there were, and changes
nothing of what is found for another repository, then or later. After something was stored in a
cache that keeps anything, no entry is as old as a lifetime, so there are not more entries than
queries for which something was stored within the last lifetime. -/
theorem cache_refines_history (lifetime : Nat) (history : List CacheEvent) (now : Nat)
    (hnow : ∀ e ∈ history, e.time ≤ now) :
    let c := Cache.after lifetime history
    (∀ repositoryId key,
      (∀ found, (c.findPulls now repositoryId key).1 = some found ↔ 0 < lifetime ∧
        ∃ time, LastStored history repositoryId key time (.pulls found) ∧ now - time < lifetime) ∧
      ∀ found, (c.findChecks now repositoryId key).1 = some found ↔ 0 < lifetime ∧
        ∃ time, LastStored history repositoryId key time (.checks found) ∧
          now - time < lifetime) ∧
    (∀ repositoryId,
      let dropping : CacheEvent := ⟨now, .dropRepository repositoryId⟩
      (c.dropRepository repositoryId).1 + (c.dropRepository repositoryId).2.size = c.size ∧
        (∀ e, e ∈ (c.dropRepository repositoryId).2.entries ↔
          e ∈ c.entries ∧ e.repositoryId ≠ repositoryId) ∧
        ∀ other key rest later, other ≠ repositoryId →
          (∀ e ∈ history ++ dropping :: rest, e.time ≤ later) →
          let dropped := Cache.after lifetime (history ++ dropping :: rest)
          let kept := Cache.after lifetime (history ++ rest)
          (dropped.findPulls later other key).1 = (kept.findPulls later other key).1 ∧
            (dropped.findChecks later other key).1 = (kept.findChecks later other key).1) ∧
    (0 < lifetime → ∀ repositoryId key value,
      let storing : CacheEvent := ⟨now, .store repositoryId key value⟩
      let stored := Cache.after lifetime (history ++ [storing])
      (∀ e ∈ stored.entries, now - e.storedAt < lifetime) ∧
        stored.size ≤ (recentQueries lifetime now (history ++ [storing])).card) := by
  intro c
  refine ⟨fun repositoryId key => ⟨fun found => ?_, fun found => ?_⟩, fun repositoryId => ?_,
    fun hlifetime repositoryId key value => ?_⟩
  · rw [Cache.findPulls_eq_some_iff, Cache.find_after_eq_some_iff hnow]
  · rw [Cache.findChecks_eq_some_iff, Cache.find_after_eq_some_iff hnow]
  · intro dropping
    refine ⟨?_, fun e => Cache.mem_dropRepository, fun other key rest later hother hlater => ?_⟩
    · exact Nat.sub_add_cancel (List.length_filter_le _ _)
    · intro dropped kept
      have hsame : (dropped.find later other key).1 = (kept.find later other key).1 :=
        Cache.find_after_skip (e := dropping) (fun heq => hother heq.symm) hlater
      refine ⟨Option.ext fun found => ?_, Option.ext fun found => ?_⟩
      · rw [Cache.findPulls_eq_some_iff, Cache.findPulls_eq_some_iff, hsame]
      · rw [Cache.findChecks_eq_some_iff, Cache.findChecks_eq_some_iff, hsame]
  · intro storing stored
    have hfollows : stored.Follows (history ++ [storing]) :=
      Cache.follows_after lifetime (history ++ [storing])
    have hlifetime' : stored.lifetime = lifetime := Cache.lifetime_after lifetime _
    have hrecent : ∀ e ∈ stored.entries, now - e.storedAt < lifetime := fun e he => by
      have hstored : stored = c.store now repositoryId key value :=
        Cache.after_concat lifetime history storing
      rw [hstored] at he
      have hage := Cache.age_lt_of_mem_store (c := c) (by rwa [Cache.lifetime_after]) he
      rwa [Cache.lifetime_after] at hage
    refine ⟨hrecent, ?_⟩
    rw [← hlifetime'] at hrecent ⊢
    exact hfollows.size_le hrecent

/-- Two listings are stored, and the repository of the second is dropped. -/
def sampleHistory : List CacheEvent :=
  [⟨0, .store 1 "open" (.pulls [])⟩, ⟨0, .store 2 "h0" (.checks [])⟩, ⟨5, .dropRepository 2⟩]

/-- The first listing is found until its time is over. When another one is stored right then, it is
removed. -/
theorem cache_refines_history_sample :
    (∀ e ∈ sampleHistory, e.time ≤ 9) ∧
      ((Cache.after 10 sampleHistory).findPulls 9 1 "open").1 = some [] ∧
      (∀ e ∈ sampleHistory, e.time ≤ 10) ∧
      (Cache.after 10 (sampleHistory ++ [⟨10, .store 1 "closed" (.pulls [])⟩])).size ≤ 1 := by
  have hbefore : ∀ e ∈ sampleHistory, e.time ≤ 9 := by simp [sampleHistory]
  have hafter : ∀ e ∈ sampleHistory, e.time ≤ 10 := by simp [sampleHistory]
  have hstored : LastStored sampleHistory 1 "open" 0 (.pulls []) :=
    ⟨[], _, rfl, by simp [CacheAction.Displaces]⟩
  have hfound := ((cache_refines_history 10 sampleHistory 9 hbefore).1 1 "open").1 []
  have hsize :=
    ((cache_refines_history 10 sampleHistory 10 hafter).2.2 (by decide) 1 "closed" (.pulls [])).2
  exact ⟨hbefore, hfound.2 ⟨by decide, 0, hstored, by decide⟩, hafter, hsize.trans (by decide)⟩

end PullWatch
