import Mathlib.Data.List.Basic
import Mathlib.Data.List.Induction
import PullWatch.GitHub.Client

/-!
# How requests use up the quota

A client asks for the quota before its first request and before each twentieth after that, and waits
for the next window when fewer than ten requests remain. So a check that finds ten requests or more
lets up to twenty go. When the quota is renewed meanwhile they are covered, since a window grants
twenty at least. When it is not, a check that has found fewer than twenty does not cover them all.
The requests that are sent with nothing left are told exactly: they come when as many requests as
the check has found were sent since, in the window of the check.

## Main definitions

* `Allowance`: the core quota at a moment, as the service keeps it.
* `Allowance.Passes`: time passes, and nobody else spends.
* `Request`: a request of a client, with the quota at its moments.
* `Sends`: the requests that one client sends, one after the other.
* `LastCheck`: the last request of some before which the quota was asked for.
* `Kept`: what a check tells of the quota later.

## Main results

* `Kept.of_check`: the quota when a request goes out after a check.
* `Sends.reached`: the quota after any number of requests.
* `sent_without_quota_iff`: when a request is sent without quota.
-/

namespace PullWatch

open GitHub (CheckQuery Client Exchange Page PullQuery Transport quotaRoute)

/-! ### The quota as the service keeps it -/

/-- The core quota at a moment, as the service keeps it. -/
structure Allowance where
  /-- The second of the moment, counted from 1970. -/
  now : UInt64
  /-- Requests that remain. -/
  remaining : UInt64
  /-- Requests of a whole window. -/
  limit : UInt64
  /-- The second at which the next window begins. -/
  reset : UInt64
  deriving DecidableEq

namespace Allowance

/-- The window of the moment ends later, within an hour. -/
def Open (a : Allowance) : Prop := a.now < a.reset ∧ a.reset.toNat ≤ a.now.toNat + 3600

/-- Time passes and nobody spends. When the window ends the quota returns to its limit, which is
twenty at least. -/
def Passes (a b : Allowance) : Prop :=
  a.now ≤ b.now ∧
    if b.now < a.reset then b.remaining = a.remaining ∧ b.limit = a.limit ∧ b.reset = a.reset
    else b.remaining = b.limit ∧ 20 ≤ b.limit ∧ b.Open

/-- One unit is spent, if there is one. -/
def spend (a : Allowance) : Allowance :=
  { a with remaining := if a.remaining = 0 then 0 else a.remaining - 1 }

/-- The quota, as the service states it. -/
def stated (a : Allowance) : Quota := .ofCounts a.remaining a.limit a.reset

variable {a b c : Allowance}

theorem Passes.refl (h : a.now < a.reset) : a.Passes a := by
  rw [Passes, if_pos h]
  exact ⟨UInt64.le_refl _, rfl, rfl, rfl⟩

theorem Passes.cases (h : a.Passes b) :
    (a.now.toNat ≤ b.now.toNat ∧ b.now.toNat < a.reset.toNat ∧ b.remaining = a.remaining ∧
        b.limit = a.limit ∧ b.reset = a.reset) ∨
      (a.now.toNat ≤ b.now.toNat ∧ a.reset.toNat ≤ b.now.toNat ∧ b.remaining = b.limit ∧
        20 ≤ b.limit ∧ b.Open) := by
  obtain ⟨hnow, h⟩ := h
  split_ifs at h with hwindow
  · exact .inl ⟨hnow, hwindow, h⟩
  · exact .inr ⟨hnow, UInt64.not_lt.1 hwindow, h⟩

/-- A window that ends within an hour is followed by such windows. -/
theorem Passes.opens (h : a.Passes b) (ha : a.Open) : b.Open := by
  obtain ⟨hnow, hwindow, -, -, hreset⟩ | ⟨-, -, -, -, hopen⟩ := h.cases
  · have hlate : a.reset.toNat ≤ b.now.toNat + 3600 := Nat.le_trans ha.2 (by omega)
    exact ⟨hreset ▸ hwindow, hreset ▸ hlate⟩
  · exact hopen

theorem Passes.trans (h : a.Passes b) (h' : b.Passes c) : a.Passes c := by
  have hnow : a.now ≤ c.now := UInt64.le_trans h.1 h'.1
  obtain ⟨-, -, hremaining, hlimit, hreset⟩ | ⟨-, hended, hremaining, hlimit, hopen⟩ := h.cases
  · refine ⟨hnow, ?_⟩
    rw [← hremaining, ← hlimit, ← hreset]
    exact h'.2
  · -- the first window has ended, so only what the quota is later matters
    have hover : ¬ c.now < a.reset := by
      have hlater : b.now.toNat ≤ c.now.toNat := h'.1
      rw [UInt64.lt_iff_toNat_lt]
      omega
    refine ⟨hnow, ?_⟩
    rw [if_neg hover]
    obtain ⟨-, -, hremaining', hlimit', -⟩ | ⟨-, -, hrenewed⟩ := h'.cases
    · rw [hremaining', hlimit', hremaining]
      exact ⟨rfl, hlimit, h'.opens hopen⟩
    · exact hrenewed

theorem toNat_remaining_spend (a : Allowance) :
    a.spend.remaining.toNat = a.remaining.toNat - 1 := by
  rw [spend]
  split_ifs with hnone
  · simp [hnone]
  · have hpos : a.remaining.toNat ≠ 0 := fun h => hnone (UInt64.toNat_inj.1 h)
    exact UInt64.toNat_sub_of_le _ _ (UInt64.le_iff_toNat_le.2 (Nat.one_le_iff_ne_zero.2 hpos))

/-- Who is told of fewer than ten requests waits for the end of the window. -/
theorem Open.pause_stated (ha : a.Open) (hfew : a.remaining < 10) {now : UInt64}
    (hlater : a.now ≤ now) (hwindow : now < a.reset) :
    a.stated.pause now = some (a.reset - now) := by
  have hlow : a.stated.isLow = true := by
    have hcut : a.remaining.toUInt32.toNat ≤ a.remaining.toNat := by
      rw [UInt64.toNat_toUInt32]
      exact Nat.mod_le _ _
    exact decide_eq_true (UInt32.lt_iff_toNat_lt.2
      (Nat.lt_of_le_of_lt hcut (UInt64.lt_iff_toNat_lt.1 hfew)))
  have hwait : a.reset - now ≤ Quota.longestPause := by
    have hclose : a.reset.toNat ≤ now.toNat + 3600 :=
      Nat.le_trans ha.2 (Nat.add_le_add_right hlater 3600)
    rw [UInt64.le_iff_toNat_le, UInt64.toNat_sub_of_le _ _ (UInt64.le_of_lt hwindow)]
    exact Nat.sub_le_iff_le_add'.2 hclose
  have hmin : min (a.reset - now) Quota.longestPause = a.reset - now := if_pos hwait
  have hreset : a.stated.reset = a.reset := rfl
  rw [Quota.pause, Quota.wait?, hreset, if_pos ⟨hlow, hwindow⟩, Option.map_some, hmin]

end Allowance

/-! ### Requests -/

/-- A request of a client, the answers of the service meanwhile, and the quota at three moments:
when the service states it, when the clock is read, and when the request goes out. -/
structure Request where
  client : Client
  query : PullQuery ⊕ CheckQuery
  transport : Transport
  asked : Allowance
  read : Allowance
  sent : Allowance

namespace Request

/-- The client after the request, and what the request led to. -/
def exchange (r : Request) : Client × Exchange (Page ⊕ Json) :=
  match r.query with
  | .inl q =>
    let (c, e) := r.client.listPulls r.transport r.read.now q
    (c, { routes := e.routes, slept := e.slept, result := e.result.map .inl })
  | .inr q =>
    let (c, e) := r.client.listChecks r.transport r.read.now q
    (c, { routes := e.routes, slept := e.slept, result := e.result.map .inr })

/-- The quota is asked for before the request. -/
def Checks (r : Request) : Prop := quotaRoute ∈ r.exchange.2.routes

/-- The route of what is asked for. -/
def route (r : Request) : String := r.query.elim GitHub.pullRoute GitHub.checkRoute

variable (r : Request)

theorem exchange_client : r.exchange.1 = r.client.next := by
  rw [exchange]
  cases r.query <;> rfl

theorem exchange_routes :
    r.exchange.2.routes = (r.client.checkQuota r.transport r.read.now).1 ++ [r.route] := by
  rw [exchange, route]
  cases r.query <;> rfl

theorem exchange_slept :
    r.exchange.2.slept = (r.client.checkQuota r.transport r.read.now).2 := by
  rw [exchange]
  cases r.query <;> rfl

theorem route_ne_quotaRoute : r.route ≠ quotaRoute := by
  rw [route]
  rcases r.query with q | q
  · exact GitHub.pullRoute_ne_quotaRoute q
  · exact GitHub.checkRoute_ne_quotaRoute q

theorem checks_iff : r.Checks ↔ r.client.checksNext = true := by
  rw [Checks, exchange_routes, GitHub.Client.checkQuota_routes]
  split_ifs with hchecks
  · simp [hchecks]
  · simp [hchecks, r.route_ne_quotaRoute.symm]

/-- A request of a client, made after a moment. Whoever asks for the quota is told it, and the
request goes out when the wait is over. -/
structure Follows (r : Request) (c : Client) (a : Allowance) : Prop where
  client : r.client = c
  asked : a.Passes r.asked
  read : r.asked.Passes r.read
  sent : r.read.Passes r.sent
  truthful : r.Checks → (r.transport quotaRoute).quota? = some r.asked.stated
  waits : r.read.now.toNat + r.exchange.2.slept.toNat ≤ r.sent.now.toNat

end Request

/-- Requests that one client sends one after the other, from a moment on. Each spends one unit of
the quota, and nothing else does. -/
inductive Sends (start : Allowance) : List Request → Client → Allowance → Prop
  | nil : Sends start [] {} start
  | concat {made : List Request} {c : Client} {a : Allowance} {r : Request}
      (h : Sends start made c a) (hr : r.Follows c a) :
      Sends start (made ++ [r]) r.exchange.1 r.sent.spend

/-! ### From one check to the next -/

/-- The last request of some before which the quota was asked for, and those after it. -/
structure LastCheck (made : List Request) (check : Request) (since : List Request) : Prop where
  splits : ∃ before, made = before ++ check :: since
  checks : check.Checks
  silent : ∀ r ∈ since, ¬ r.Checks

/-- What a check tells of the quota later, when some units were spent since. In the same window
they are missing from what the check has found, which was not low. In a later window nothing else
is missing from twenty. -/
def Kept (check : Request) (spent : Nat) (a : Allowance) : Prop :=
  (a.now < check.asked.reset ∧ a.reset = check.asked.reset ∧ 10 ≤ check.asked.remaining ∧
      a.remaining.toNat = check.asked.remaining.toNat - spent) ∨
    (check.asked.reset ≤ a.now ∧ 20 ≤ a.remaining.toNat + spent)

namespace Kept

variable {check r : Request} {spent : Nat} {a b : Allowance} {c : Client}

theorem passes (h : Kept check spent a) (hpasses : a.Passes b) : Kept check spent b := by
  obtain ⟨hnow, hopen, hsame, -, hreset'⟩ | ⟨hnow, hended, hfull, hlimit, -⟩ := hpasses.cases
  · obtain ⟨-, hreset, hfound, hremaining⟩ | ⟨hwindow, hremaining⟩ := h
    · exact .inl ⟨hreset ▸ hopen, hreset'.trans hreset, hfound, hsame ▸ hremaining⟩
    · exact .inr ⟨Nat.le_trans hwindow hnow, hsame ▸ hremaining⟩
  · have hcovered : 20 ≤ b.remaining.toNat + spent :=
      Nat.le_add_right_of_le (hfull ▸ UInt64.le_iff_toNat_le.1 hlimit)
    obtain ⟨-, hreset, -⟩ | ⟨hwindow, -⟩ := h
    · exact .inr ⟨hreset ▸ hended, hcovered⟩
    · exact .inr ⟨Nat.le_trans hwindow hnow, hcovered⟩

theorem spend (h : Kept check spent a) : Kept check (spent + 1) a.spend := by
  obtain ⟨hwindow, hreset, hfound, hremaining⟩ | ⟨hwindow, hremaining⟩ := h
  · refine .inl ⟨hwindow, hreset, hfound, ?_⟩
    rw [a.toNat_remaining_spend]
    omega
  · refine .inr ⟨hwindow, ?_⟩
    rw [a.toNat_remaining_spend]
    omega

/-- With fewer than twenty units spent since, nothing is left exactly when the check has found no
more than that in the same window. -/
theorem remaining_eq_zero_iff (h : Kept check spent a) (hspent : spent < 20) :
    a.remaining = 0 ↔ 10 ≤ check.asked.remaining ∧ check.asked.remaining.toNat ≤ spent ∧
      a.now < check.asked.reset := by
  rw [← UInt64.toNat_inj, UInt64.toNat_zero]
  obtain ⟨hwindow, -, hfound, hremaining⟩ | ⟨hwindow, hremaining⟩ := h
  · rw [hremaining, Nat.sub_eq_zero_iff_le]
    exact ⟨fun hle => ⟨hfound, hle, hwindow⟩, fun hcase => hcase.2.1⟩
  · have hleft : a.remaining.toNat ≠ 0 := by omega
    exact ⟨fun hnone => absurd hnone hleft, fun hcase => absurd hcase.2.2 (UInt64.not_lt.2 hwindow)⟩

/-- The quota when a request goes out before which it was asked for. -/
theorem of_check (hr : r.Follows c a) (ha : a.Open) (hchecks : r.Checks) : Kept r 0 r.sent := by
  obtain ⟨hnow, hopen, hsame, -, hreset⟩ | ⟨-, hended, hfull, hlimit, -⟩ :=
    (hr.read.trans hr.sent).cases
  · refine .inl ⟨hopen, hreset, ?_, by rw [hsame, Nat.sub_zero]⟩
    -- a low quota makes the request wait beyond the window
    by_contra hfew
    have hwindow : r.read.now < r.asked.reset :=
      UInt64.lt_of_le_of_lt hr.sent.1 hopen
    have hslept : r.exchange.2.slept = r.asked.reset - r.read.now := by
      rw [r.exchange_slept, Client.checkQuota, if_pos (r.checks_iff.1 hchecks),
        hr.truthful hchecks, Option.bind_some,
        (hr.asked.opens ha).pause_stated (UInt64.not_le.1 hfew) hr.read.1 hwindow, Option.getD_some]
    have hwaits := hr.waits
    rw [hslept, UInt64.toNat_sub_of_le _ _ (UInt64.le_of_lt hwindow)] at hwaits
    omega
  · refine .inr ⟨hended, ?_⟩
    rw [hfull]
    exact Nat.le_add_right_of_le (UInt64.le_iff_toNat_le.1 hlimit)

end Kept

/-- The quota is asked for next, or the count of requests tells how many were sent since it was. -/
def Counted (c : Client) (n : Nat) : Prop :=
  c.checksNext = true ∨ n < 20 ∧ c.sent.toNat % 20 = n

theorem Throttle.checksNext_iff (t : Throttle) : t.checksNext = true ↔ t.sent.toNat % 20 = 0 := by
  rw [checksNext, decide_eq_true_iff, ← UInt32.toNat_inj, UInt32.toNat_mod]
  exact Iff.rfl

/-- One more request. When all numbers are used up the count starts again, and with it a check. -/
theorem Counted.next {c : Client} {n : Nat} (hn : n < 20) (h : c.sent.toNat % 20 = n) :
    Counted c.next (n + 1) := by
  have hsent : c.next.sent.toNat = (c.sent.toNat + 1) % 4294967296 := UInt32.toNat_add _ _
  have hbound : c.sent.toNat < 4294967296 := c.sent.toNat_lt
  rw [Counted, Throttle.checksNext_iff, hsent]
  by_cases hwrap : c.sent.toNat + 1 = 4294967296
  · exact .inl (by rw [hwrap])
  · have hmod : (c.sent.toNat + 1) % 4294967296 = c.sent.toNat + 1 :=
      Nat.mod_eq_of_lt (by omega)
    rw [hmod]
    omega

/-- Some requests were sent, and the last check before them tells of the quota. -/
def Reached (made : List Request) (c : Client) (a : Allowance) : Prop :=
  ∃ check since, LastCheck made check since ∧ Kept check (since.length + 1) a ∧
    Counted c (since.length + 1)

section Runs

variable {start a : Allowance} {made earlier later : List Request} {c : Client} {r : Request}

/-- When a request goes out, fewer than twenty were sent since the last check. -/
theorem Request.Follows.reached (hr : r.Follows c a) (ha : a.Open)
    (hbefore : c = {} ∨ Reached made c a) :
    ∃ check since, LastCheck (made ++ [r]) check since ∧ since.length < 20 ∧
      Kept check since.length r.sent ∧ Counted r.exchange.1 (since.length + 1) := by
  have hnext : r.exchange.1 = c.next := by rw [r.exchange_client, hr.client]
  have hchecks : r.Checks ↔ c.checksNext = true := by rw [r.checks_iff, hr.client]
  rw [hnext]
  by_cases hcheck : r.Checks
  · refine ⟨r, [], ⟨⟨made, rfl⟩, hcheck, List.forall_mem_nil _⟩, by decide,
      .of_check hr ha hcheck, ?_⟩
    exact .next (by decide) (c.checksNext_iff.1 (hchecks.1 hcheck))
  · obtain rfl | ⟨check, since, ⟨⟨before, rfl⟩, hfirst, hsilent⟩, hkept, hcounted⟩ := hbefore
    · exact absurd (hchecks.2 rfl) hcheck
    · obtain ⟨hfew, hcount⟩ := hcounted.resolve_left (hchecks.not.1 hcheck)
      have hlength : (since ++ [r]).length = since.length + 1 := List.length_append
      refine ⟨check, since ++ [r], ⟨⟨before, ?_⟩, hfirst, ?_⟩, ?_, ?_, ?_⟩
      · rw [List.append_assoc, List.cons_append]
      · exact List.forall_mem_append.2 ⟨hsilent, List.forall_mem_singleton.2 hcheck⟩
      · rwa [hlength]
      · rw [hlength]
        exact hkept.passes ((hr.asked.trans hr.read).trans hr.sent)
      · rw [hlength]
        exact .next hfew hcount

/-- The quota after any number of requests. -/
theorem Sends.reached (hstart : start.Open) (h : Sends start made c a) :
    a.Open ∧ (c = {} ∨ Reached made c a) := by
  induction h with
  | nil => exact ⟨hstart, .inl rfl⟩
  | concat h hr ih =>
    obtain ⟨hopen, hbefore⟩ := ih
    obtain ⟨check, since, hlast, -, hkept, hcounted⟩ := hr.reached hopen hbefore
    exact ⟨hr.sent.opens (hr.read.opens (hr.asked.opens hopen)),
      .inr ⟨check, since, hlast, hkept.spend, hcounted⟩⟩

/-- The requests before the last one, and the last one. -/
theorem Sends.of_concat (h : Sends start (made ++ [r]) c a) :
    ∃ c a, Sends start made c a ∧ r.Follows c a := by
  generalize hall : made ++ [r] = all at h
  cases h with
  | nil => exact absurd hall (List.append_ne_nil_of_right_ne_nil _ (List.cons_ne_nil _ _))
  | concat h hr =>
    obtain ⟨rfl, hlast⟩ := List.append_inj' hall rfl
    obtain rfl := List.singleton_inj.1 hlast
    exact ⟨_, _, h, hr⟩

theorem Sends.of_append (h : Sends start (earlier ++ later) c a) :
    ∃ c a, Sends start earlier c a := by
  induction later using List.reverseRecOn generalizing c a with
  | nil => exact ⟨c, a, by rwa [List.append_nil] at h⟩
  | append_singleton later r ih =>
    rw [← List.append_assoc] at h
    obtain ⟨c, a, h, -⟩ := h.of_concat
    exact ih h

/-- When a request is sent without quota. The quota was last asked for at most nineteen requests
before. The request finds nothing left exactly when that check has found ten or more, as many
requests as it has found were sent since, and its window has not ended. -/
theorem sent_without_quota_iff (hstart : start.Open)
    (h : Sends start (earlier ++ r :: later) c a) :
    ∃ check since, LastCheck (earlier ++ [r]) check since ∧ since.length < 20 ∧
      (r.sent.remaining = 0 ↔ 10 ≤ check.asked.remaining ∧
        check.asked.remaining.toNat ≤ since.length ∧ r.sent.now < check.asked.reset) := by
  rw [List.append_cons] at h
  obtain ⟨c, a, h⟩ := h.of_append
  obtain ⟨c, a, h, hr⟩ := h.of_concat
  obtain ⟨hopen, hbefore⟩ := h.reached hstart
  obtain ⟨check, since, hlast, hfew, hkept, -⟩ := hr.reached hopen hbefore
  exact ⟨check, since, hlast, hfew, hkept.remaining_eq_zero_iff hfew⟩

end Runs

/-! ### A window with ten requests left -/

/-- The quota when ten requests were left and some of them are spent. -/
def drainedAllowance (spent : Nat) : Allowance :=
  { now := 1000, remaining := .ofNat (10 - spent), limit := 5000, reset := 2800 }

/-- A service that states the quota before any of the ten requests is spent. Its listings are empty.
-/
def drainingTransport : Transport := fun route =>
  { status := 200
    body :=
      if route = quotaRoute then
        "\x7b\"resources\":\x7b\"core\":\x7b\"limit\":5000,\"used\":4990,\"remaining\":10,"
          ++ "\"reset\":2800\x7d,\"search\":\x7b\"limit\":30,\"used\":0,\"remaining\":30,"
          ++ "\"reset\":1060\x7d\x7d,\"rate\":\x7b\"limit\":5000,\"used\":4990,"
          ++ "\"remaining\":10,\"reset\":2800\x7d\x7d"
      else "[]" }

/-- A request for one more page, when some were sent before. -/
def drainingRequest (spent : Nat) : Request :=
  { client := { sent := .ofNat spent }
    query := .inl
      { owner := "acme", name := "widgets", listing := .open, perPage := 100, page := spent + 1 }
    transport := drainingTransport, asked := drainedAllowance spent
    read := drainedAllowance spent, sent := drainedAllowance spent }

theorem passes_drained (spent : Nat) :
    (drainedAllowance spent).Passes (drainedAllowance spent) := by
  have hopen : (1000 : UInt64) < 2800 := by decide
  exact .refl hopen

theorem quota?_draining :
    (drainingTransport quotaRoute).quota? = some (drainedAllowance 0).stated := by
  decide +kernel

/-- Only the first of the requests asks for the quota. -/
theorem eq_zero_of_checks_draining {spent : Nat} (h : spent < 11)
    (hchecks : (drainingRequest spent).client.checksNext = true) : spent = 0 := by
  revert spent
  decide

theorem slept_draining {spent : Nat} (h : spent < 11) :
    (drainingRequest spent).exchange.2.slept = 0 := by
  rw [Request.exchange_slept, Client.checkQuota]
  split_ifs with hchecks
  · obtain rfl := eq_zero_of_checks_draining h hchecks
    have hstated : ((drainingRequest 0).transport quotaRoute).quota? =
        some (drainedAllowance 0).stated := quota?_draining
    rw [hstated]
    decide
  · rfl

theorem follows_draining {spent : Nat} (h : spent < 11) :
    (drainingRequest spent).Follows { sent := .ofNat spent } (drainedAllowance spent) where
  client := rfl
  asked := passes_drained spent
  read := passes_drained spent
  sent := passes_drained spent
  truthful hchecks := by
    obtain rfl := eq_zero_of_checks_draining h ((drainingRequest spent).checks_iff.1 hchecks)
    exact quota?_draining
  waits := by
    rw [slept_draining h]
    exact Nat.le_refl _

theorem sends_draining {spent : Nat} (h : spent ≤ 11) :
    Sends (drainedAllowance 0) ((List.range spent).map drainingRequest)
      { sent := .ofNat spent } (drainedAllowance spent) := by
  induction spent with
  | zero => exact .nil
  | succ spent ih =>
    have hspend : ∀ n < 11, (drainingRequest n).sent.spend = drainedAllowance (n + 1) := by decide
    have hclient : ∀ n < 11, (drainingRequest n).exchange.1 = { sent := .ofNat (n + 1) } := by
      decide +kernel
    rw [List.range_succ, List.map_append, List.map_singleton, ← hspend spent h, ← hclient spent h]
    exact (ih (Nat.le_of_succ_le h)).concat (follows_draining h)

/-- The eleventh request finds nothing left. -/
theorem sent_without_quota_iff_draining :
    (drainingRequest 10).sent.remaining = 0 ∧
      ∃ check since,
        LastCheck ((List.range 10).map drainingRequest ++ [drainingRequest 10]) check since ∧
          since.length < 20 ∧
          ((drainingRequest 10).sent.remaining = 0 ↔ 10 ≤ check.asked.remaining ∧
            check.asked.remaining.toNat ≤ since.length ∧
            (drainingRequest 10).sent.now < check.asked.reset) :=
  ⟨by decide, sent_without_quota_iff ⟨by decide, by decide⟩ (sends_draining (Nat.le_refl 11))⟩

/-- Requests are sent without quota. -/
theorem not_forall_sent_with_quota :
    ¬ ∀ start made c a, start.Open → Sends start made c a →
      ∀ r ∈ made, r.sent.remaining ≠ 0 := by
  intro hall
  refine hall (drainedAllowance 0) _ _ _ ⟨by decide, by decide⟩ (sends_draining (Nat.le_refl 11))
    (drainingRequest 10) ?_ (by decide)
  exact List.mem_map_of_mem (by decide)

end PullWatch
