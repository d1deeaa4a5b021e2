import Mathlib.Data.List.Basic
import PullWatch.GitHub.Overlap
import PullWatch.Proofs.QuotaUse

/-!
# How often the quota is asked for

A client asks for the quota before its first request and before each twentieth after that. It counts
with 32 bits, and `2 ^ 32` is no multiple of twenty: where the count starts again, a check comes
sixteen requests after the one before. So of twenty requests in a row one asks for the quota, and of
sixteen in a row no more than one, however many requests there are. Requests that overlap are taken
in the order in which they are counted.

## Main definitions

* `ChecksAt`, `gapAfter`: the numbers of requests that a check comes before, and the gaps in them.
* `Throttle.after`: a throttle after a number of requests.
* `Flight.Sound`: a request has come as far as its client brings it.
* `Traffic.Orderly`: requests were counted one after the other.
* `Traffic.inTurn`: requests that do not overlap.

## Main results

* `ChecksAt.add_iff`: where the next check is.
* `Flight.Sound.advance`: requests that overlap end like requests that do not.
* `Traffic.orderly_run`: how far requests have come, whatever the order of their steps.
* `Traffic.run_inTurn`: requests one after the other.
* `Traffic.asksQuota_spaced`: how many of some requests in a row have asked for the quota.
-/

namespace PullWatch

open GitHub (quotaRoute)

/-! ### Lists -/

theorem countP_le_one_of_pairwise {α : Type} {l : List α} {p : α → Bool}
    (h : l.Pairwise fun a b => ¬ (p a = true ∧ p b = true)) : l.countP p ≤ 1 := by
  induction h with
  | nil => exact Nat.zero_le 1
  | @cons a l hhead _ ih =>
    by_cases ha : p a = true
    · have htail : l.countP p = 0 :=
        List.countP_eq_zero.2 fun b hb hpb => hhead b hb ⟨ha, hpb⟩
      have hcount : (a :: l).countP p = 1 := by rw [List.countP_cons_of_pos ha, htail]
      exact Nat.le_of_eq hcount
    · rwa [List.countP_cons_of_neg ha]

theorem modify_concat {α : Type} (f : α → α) (l : List α) (a : α) :
    (l ++ [a]).modify l.length f = l ++ [f a] :=
  List.modifyTailIdx_add (List.modifyHead f) 0 l [a]

/-! ### Numbers of requests -/

/-- The quota is asked for before the request of this number. Numbers begin at zero, and a client
counts with 32 bits. -/
def ChecksAt (n : Nat) : Prop := n % UInt32.size % 20 = 0

/-- Requests from one check to the next: twenty, but fewer if the count starts again. -/
def gapAfter (n : Nat) : Nat := if n % UInt32.size + 16 = UInt32.size then 16 else 20

theorem sixteen_le_gapAfter (n : Nat) : 16 ≤ gapAfter n := by
  rw [gapAfter]
  split_ifs <;> decide

theorem gapAfter_le_twenty (n : Nat) : gapAfter n ≤ 20 := by
  rw [gapAfter]
  split_ifs <;> decide

theorem checksAt_zero : ChecksAt 0 := rfl

/-- Where the next check is. -/
theorem ChecksAt.add_iff {n k : Nat} (h : ChecksAt n) (hpos : 0 < k) (hk : k ≤ 20) :
    ChecksAt (n + k) ↔ k = gapAfter n := by
  have hcount : n % UInt32.size < UInt32.size := Nat.mod_lt _ (by decide)
  have hsum : (n + k) % UInt32.size = (n % UInt32.size + k) % UInt32.size :=
    (Nat.mod_add_mod ..).symm
  rw [ChecksAt] at h
  rw [ChecksAt, gapAfter, hsum]
  generalize n % UInt32.size = count at hcount h
  simp only [UInt32.size] at hcount ⊢
  split_ifs with hlast
  · -- only sixteen numbers are left before the count starts again
    obtain hearly | hlate := Nat.lt_or_ge k 16
    · have hstays : (count + k) % 4294967296 = count + k := Nat.mod_eq_of_lt (by omega)
      rw [hstays]
      omega
    · have hrestarts : (count + k) % 4294967296 = k - 16 := by
        rw [Nat.mod_eq_sub_mod (by omega), Nat.mod_eq_of_lt (by omega)]
        omega
      rw [hrestarts, Nat.mod_eq_of_lt (by omega)]
      omega
  · -- no other multiple of twenty is so close to the last number
    have hstays : (count + k) % 4294967296 = count + k := Nat.mod_eq_of_lt (by omega)
    rw [hstays]
    omega

/-- A check comes before one of twenty requests in a row. -/
theorem exists_checksAt (n : Nat) : ∃ k < 20, ChecksAt (n + k) := by
  induction n with
  | zero => exact ⟨0, by decide, checksAt_zero⟩
  | succ n ih =>
    obtain ⟨_ | k, hk, hchecks⟩ := ih
    · -- the check that is left behind is followed by another one in time
      have hleast := sixteen_le_gapAfter n
      have hmost := gapAfter_le_twenty n
      have hnext : ChecksAt (n + gapAfter n) := (ChecksAt.add_iff hchecks (by omega) hmost).2 rfl
      refine ⟨gapAfter n - 1, by omega, ?_⟩
      rwa [Nat.add_assoc, Nat.add_sub_cancel' (by omega)]
    · exact ⟨k, Nat.lt_of_succ_lt hk, by rwa [Nat.add_assoc, Nat.add_comm 1]⟩

/-- Two checks are sixteen requests apart at the least. -/
theorem ChecksAt.add_le {m n : Nat} (hm : ChecksAt m) (hn : ChecksAt n) (hlt : m < n) :
    m + 16 ≤ n := by
  obtain ⟨k, rfl⟩ := Nat.exists_eq_add_of_le (Nat.le_of_lt hlt)
  by_contra hclose
  have hgap : k = gapAfter m := (hm.add_iff (by omega) (by omega)).1 hn
  have hleast := sixteen_le_gapAfter m
  omega

/-- The last check before the count starts again, and the first one after that. -/
example : ChecksAt 4294967280 ∧ ChecksAt 4294967296 := ⟨rfl, rfl⟩

namespace Throttle

/-- The throttle after a number of requests. -/
def after (n : Nat) : Throttle := { sent := .ofNat n }

theorem next_after (n : Nat) : (after n).next = after (n + 1) := by
  rw [next, after, after, UInt32.ofNat_add]
  rfl

theorem checksNext_after_iff (n : Nat) : (after n).checksNext = true ↔ ChecksAt n := by
  rw [checksNext_iff, after, UInt32.toNat_ofNat']
  exact Iff.rfl

end Throttle

namespace GitHub

/-! ### Single requests -/

/-- The answers of one moment to the question for the quota, and those of another to all else. -/
def Transport.splice (first second : Transport) : Transport := fun route =>
  if route = quotaRoute then first route else second route

/-- A request has come as far as its client brings it. Whatever the service answers on the way, it
ends like a request that is made at once. -/
inductive Flight.Sound (c : Client) (q : Call) : Flight → Prop
  | counted : Sound c q { client := c, query := q }
  | cleared (transport : Transport) (now : UInt64) :
    Sound c q
      { client := c, query := q
        stage := .cleared (c.checkQuota transport now).1 (c.checkQuota transport now).2 }
  | ended (transport : Transport) (now : UInt64) :
    Sound c q { client := c, query := q, stage := .ended (c.perform transport now q).2 }

namespace Flight

variable {c : Client} {q : Call} {f : Flight}

theorem Sound.advance (hf : f.Sound c q) (transport : Transport) (now : UInt64) :
    (f.advance transport now).Sound c q := by
  cases hf with
  | counted => exact .cleared transport now
  | cleared first earlier =>
    -- one transport that answers as the service has done at both moments
    have hquota : first.splice transport quotaRoute = first quotaRoute := if_pos rfl
    have hroute : first.splice transport q.route = transport q.route :=
      if_neg q.route_ne_quotaRoute
    have hended := Sound.ended (c := c) (q := q) (first.splice transport) earlier
    rw [Client.perform_eq hroute c earlier now, Client.checkQuota_congr hquota] at hended
    exact hended
  | ended first earlier => exact .ended first earlier

/-- Which requests have asked for the quota. -/
theorem Sound.asksQuota_iff (hf : f.Sound c q) :
    f.asksQuota = true ↔ f.isCleared = true ∧ c.checksNext = true := by
  cases hf with
  | counted => simp [asksQuota, routes, isCleared]
  | cleared transport now => simp [asksQuota, routes, isCleared, Client.checkQuota_routes]
  | ended transport now =>
    have hroutes : (c.perform transport now q).2.routes =
        (c.checkQuota transport now).1 ++ [q.route] := by
      rw [Client.perform_eq rfl c now now]
    simp [asksQuota, routes, isCleared, hroutes, Client.checkQuota_routes,
      q.route_ne_quotaRoute.symm]

/-- A request that takes its steps without a break ends as its client ends it. -/
theorem advance_advance (c : Client) (q : Call) (transport : Transport) (now : UInt64) :
    (Flight.advance transport now { client := c, query := q }).advance transport now =
      { client := c, query := q, stage := .ended (c.perform transport now q).2 } := by
  rw [Client.perform_eq rfl c now now]
  rfl

end Flight

namespace Traffic

variable {s : Traffic}

/-! ### Requests that overlap -/

/-- Requests were counted one after the other, and each has come as far as its client brings it. -/
structure Orderly (s : Traffic) : Prop where
  client : s.client = Throttle.after s.flights.length
  flights : ∀ (k : Nat) (f : Flight), s.flights[k]? = some f → ∃ q, f.Sound (Throttle.after k) q

theorem Orderly.step (h : s.Orderly) (move : Move) : (s.step move).Orderly := by
  cases move with
  | start query =>
    refine ⟨?_, fun k f hf => ?_⟩
    · rw [Traffic.step, h.client, Throttle.next_after, List.length_append, List.length_singleton]
    · rw [Traffic.step] at hf
      obtain hk | rfl | hk := Nat.lt_trichotomy k s.flights.length
      · rw [List.getElem?_append_left hk] at hf
        exact h.flights k f hf
      · rw [List.getElem?_concat_length] at hf
        obtain rfl := Option.some.inj hf
        exact ⟨query, h.client ▸ .counted⟩
      · rw [List.getElem?_eq_none (by rwa [List.length_append, List.length_singleton])] at hf
        cases hf
  | advance position transport now =>
    refine ⟨?_, fun k f hf => ?_⟩
    · rw [Traffic.step, h.client, List.length_modify]
    · rw [Traffic.step, List.getElem?_modify] at hf
      obtain ⟨g, hg, rfl⟩ := Option.map_eq_some_iff.1 hf
      obtain ⟨q, hq⟩ := h.flights k g hg
      refine ⟨q, ?_⟩
      split_ifs
      · exact hq.advance transport now
      · exact hq

/-- The requests of a client, whatever the order of their steps. -/
theorem orderly_run (moves : List Move) : (run moves).Orderly :=
  List.foldlRecOn moves Traffic.step ⟨rfl, nofun⟩ fun _ h move _ => h.step move

theorem Orderly.asksQuota_iff (h : s.Orderly) {k : Nat} {f : Flight}
    (hf : s.flights[k]? = some f) : f.asksQuota = true ↔ f.isCleared = true ∧ ChecksAt k := by
  obtain ⟨q, hq⟩ := h.flights k f hf
  rw [hq.asksQuota_iff, Throttle.checksNext_after_iff]

/-! ### Requests one after the other -/

/-- All steps of one request, when so many were counted before. -/
def turn (counted : Nat) (q : Call) (transport : Transport) (now : UInt64) : List Move :=
  [.start q, .advance counted transport now, .advance counted transport now]

theorem foldl_turn {counted : Nat} (h : s.flights.length = counted) (q : Call)
    (transport : Transport) (now : UInt64) :
    (turn counted q transport now).foldl step s =
      { client := s.client.next
        flights := s.flights ++
          [{ client := s.client, query := q
             stage := .ended (s.client.perform transport now q).2 }] } := by
  subst h
  simp only [turn, List.foldl_cons, List.foldl_nil, step, modify_concat, Flight.advance_advance]

section Turns

variable (query : Nat → Call) (transport : Nat → Transport) (now : Nat → UInt64)

/-- The steps of so many requests that are made one after the other. -/
def inTurn (n : Nat) : List Move :=
  (List.range n).flatMap fun k => turn k (query k) (transport k) (now k)

/-- The request that is made when so many were made before. -/
def made (k : Nat) : Flight :=
  { client := Throttle.after k, query := query k
    stage := .ended (Client.perform (.after k) (transport k) (now k) (query k)).2 }

/-- Requests that are made one after the other end as the client ends them. -/
theorem run_inTurn (n : Nat) :
    run (inTurn query transport now n) =
      { client := Throttle.after n, flights := (List.range n).map (made query transport now) } := by
  induction n with
  | zero => rfl
  | succ n ih =>
    have hlength : ((List.range n).map (made query transport now)).length = n := by
      rw [List.length_map, List.length_range]
    rw [run, inTurn] at ih ⊢
    rw [List.range_succ, List.flatMap_append, List.foldl_append, ih, List.flatMap_singleton,
      foldl_turn hlength, List.map_append, Throttle.next_after]
    rfl

theorem isCleared_of_mem_inTurn {n : Nat} {f : Flight}
    (hf : f ∈ (run (inTurn query transport now n)).flights) : f.isCleared = true := by
  rw [run_inTurn] at hf
  obtain ⟨k, -, rfl⟩ := List.mem_map.1 hf
  rfl

end Turns

/-! ### Requests in a row -/

section Windows

variable {window : List Flight}

/-- Of twenty requests in a row one has asked for the quota, if none of them has yet to do so. -/
theorem Orderly.one_le_countP (h : s.Orderly) (hwindow : window <:+: s.flights)
    (hlength : 20 ≤ window.length) (hcleared : ∀ f ∈ window, f.isCleared = true) :
    1 ≤ window.countP Flight.asksQuota := by
  obtain ⟨start, -, hflights⟩ := List.infix_iff_getElem?.1 hwindow
  obtain ⟨k, hk, hchecks⟩ := exists_checksAt start
  rw [Nat.add_comm] at hchecks
  have hlt : k < window.length := Nat.lt_of_lt_of_le hk hlength
  have hmem : window[k] ∈ window := List.getElem_mem hlt
  have hasked : window[k].asksQuota = true :=
    (h.asksQuota_iff (hflights k hlt)).2 ⟨hcleared _ hmem, hchecks⟩
  exact List.one_le_countP_iff.2 ⟨window[k], hmem, hasked⟩

/-- Of sixteen requests in a row no two have asked for the quota. -/
theorem Orderly.countP_le_one (h : s.Orderly) (hwindow : window <:+: s.flights)
    (hlength : window.length ≤ 16) : window.countP Flight.asksQuota ≤ 1 := by
  obtain ⟨start, -, hflights⟩ := List.infix_iff_getElem?.1 hwindow
  refine countP_le_one_of_pairwise (List.pairwise_iff_getElem.2 ?_)
  rintro i j hi hj hij ⟨hfirst, hsecond⟩
  have hchecks : ChecksAt (i + start) := ((h.asksQuota_iff (hflights i hi)).1 hfirst).2
  have hchecks' : ChecksAt (j + start) := ((h.asksQuota_iff (hflights j hj)).1 hsecond).2
  have hapart : i + start + 16 ≤ j + start :=
    hchecks.add_le hchecks' (Nat.add_lt_add_right hij start)
  omega

end Windows

/-- How often the quota is asked for, for any number of requests and however they overlap. The first
request asks for it, of twenty requests in a row one does, and of sixteen in a row no more than one.
A request that was only counted has yet to do so. -/
theorem asksQuota_spaced (moves : List Move) :
    (∀ f, (run moves).flights.head? = some f → f.isCleared = true → f.asksQuota = true) ∧
      ∀ window, window <:+: (run moves).flights →
        (20 ≤ window.length → (∀ f ∈ window, f.isCleared = true) →
            1 ≤ window.countP Flight.asksQuota) ∧
          (window.length ≤ 16 → window.countP Flight.asksQuota ≤ 1) := by
  have horderly := orderly_run moves
  refine ⟨fun f hf hcleared => ?_, fun window hwindow => ⟨?_, ?_⟩⟩
  · rw [List.head?_eq_getElem?] at hf
    exact (horderly.asksQuota_iff hf).2 ⟨hcleared, checksAt_zero⟩
  · exact horderly.one_le_countP hwindow
  · exact horderly.countP_le_one hwindow

/-- Requests one after the other, a few more than a client has numbers for. -/
def wrappingMoves : List Move :=
  inTurn
    (fun k => .pulls
      { owner := "acme", name := "widgets", listing := .open, perPage := 100, page := k + 1 })
    (fun _ => drainingTransport) (fun _ => 1000) 4294967301

/-- So many requests in a row, from that of a number on. -/
def row (s : Traffic) (start length : Nat) : List Flight := (s.flights.drop start).take length

theorem isInfix_row (s : Traffic) (start length : Nat) : s.row start length <:+: s.flights :=
  (List.take_prefix ..).isInfix.trans (List.drop_suffix ..).isInfix

theorem length_row {start length : Nat} (h : start + length ≤ s.flights.length) :
    (s.row start length).length = length := by
  rw [row, List.length_take, List.length_drop]
  omega

/-- The first of these requests, twenty of them about the place where the count starts again, and
the sixteen that come before it. -/
theorem asksQuota_spaced_wrapping :
    (∃ f, (run wrappingMoves).flights.head? = some f ∧ f.isCleared = true ∧ f.asksQuota = true) ∧
      (((run wrappingMoves).row 4294967281 20).length = 20 ∧
        (∀ f ∈ (run wrappingMoves).row 4294967281 20, f.isCleared = true) ∧
        1 ≤ ((run wrappingMoves).row 4294967281 20).countP Flight.asksQuota) ∧
      ((run wrappingMoves).row 4294967280 16).length = 16 ∧
        ((run wrappingMoves).row 4294967280 16).countP Flight.asksQuota ≤ 1 := by
  have hlength : (run wrappingMoves).flights.length = 4294967301 := by
    rw [wrappingMoves, run_inTurn, List.length_map, List.length_range]
  have hcleared : ∀ f ∈ (run wrappingMoves).flights, f.isCleared = true :=
    fun _ => isCleared_of_mem_inTurn _ _ _
  have hne : (run wrappingMoves).flights ≠ [] := List.ne_nil_of_length_pos (by omega)
  have hfirst := List.head?_eq_some_head hne
  have hdone := hcleared _ (List.head_mem hne)
  have htwenty : ((run wrappingMoves).row 4294967281 20).length = 20 := length_row (by omega)
  have hsixteen : ((run wrappingMoves).row 4294967280 16).length = 16 := length_row (by omega)
  have hpart := (run wrappingMoves).isInfix_row 4294967281 20
  have hall : ∀ f ∈ (run wrappingMoves).row 4294967281 20, f.isCleared = true :=
    fun f hf => hcleared f (hpart.subset hf)
  obtain ⟨hhead, hspaced⟩ := asksQuota_spaced wrappingMoves
  refine ⟨⟨_, hfirst, hdone, hhead _ hfirst hdone⟩, ⟨htwenty, hall, ?_⟩, hsixteen, ?_⟩
  · exact (hspaced _ hpart).1 (Nat.le_of_eq htwenty.symm) hall
  · exact (hspaced _ ((run wrappingMoves).isInfix_row 4294967280 16)).2 (Nat.le_of_eq hsixteen)

end Traffic

end GitHub

end PullWatch
