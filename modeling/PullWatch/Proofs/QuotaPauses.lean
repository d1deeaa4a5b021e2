import PullWatch.GitHub.Client
import PullWatch.Proofs.Elaborations
import PullWatch.Proofs.Panics

/-!
# How long a low quota holds requests up

A client that asks for the quota sleeps when fewer than ten requests remain and the next window is
still to come: until that window begins, or for an hour if that is less. The service states its
counts in 64 bits and the client keeps 32 of them, so this is true of counts that fit into 32 bits.
A larger count is taken for what is left of it when its high bits are cut off, and a client may
sleep though there are plenty of requests left.

## Main definitions

* `StatedQuota`: a quota as the service states it, and `StatedQuota.stated?`, that of an answer.
* `Guarded.pause`, `Guarded.checkQuota`: the guarded forms, with the difference of the times as a
  use that may panic.

## Main results

* `StatedQuota.quota?_eq`: the client keeps what is stated, with the high bits cut off.
* `StatedQuota.reads_statement`: all counts of 64 bits can be stated.
* `checkQuota_pause_exact`: when a client sleeps, and how long.
-/

namespace PullWatch

open GitHub (Client Response Transport quotaRoute)

/-! ### Decoders -/

namespace Json

variable {α β : Type} (f : α → β) (decode : Decoder α)

theorem required_map (ms : List (String × Json)) (name : String) :
    required ms name (fun v => f <$> decode v) = f <$> required ms name decode := by
  unfold required
  split <;> rfl

theorem fits_map : fits (fun v => f <$> decode v) = fits decode := by
  funext v
  rw [fits, fits]
  cases decode v <;> rfl

theorem fits_nullable_map : fits (nullable fun v => f <$> decode v) = fits (nullable decode) := by
  funext v
  rw [fits, fits]
  unfold nullable
  split
  · rfl
  · dsimp only
    cases decode v <;> rfl

end Json

/-! ### What the service states -/

/-- What the service states of one resource. -/
structure StatedQuota where
  limit : UInt64
  used : UInt64
  remaining : UInt64
  reset : UInt64
  deriving DecidableEq

namespace StatedQuota

/-- The quota, as a client keeps it. -/
def quota (s : StatedQuota) : Quota := .ofCounts s.remaining s.limit s.reset

/-- A stated quota with all its bits. -/
def decode : Json.Decoder StatedQuota := fun v => do
  let ms ← Quota.shape.members v
  let limit ← Json.required ms "limit" Json.word
  let used ← Json.required ms "used" Json.word
  let remaining ← Json.required ms "remaining" Json.word
  let reset ← Json.required ms "reset" Json.word
  .ok { limit, used, remaining, reset }

/-- The quota of the core resource, where those of core and search are stated. -/
def decodeResources : Json.Decoder StatedQuota := fun v => do
  let ms ← Quota.resourcesShape.members v
  let core ← Json.required ms "core" decode
  let _ ← Json.required ms "search" decode
  .ok core

/-- The core quota in the service's statement. -/
def decodeStatement : Json.Decoder StatedQuota := fun v => do
  let ms ← Quota.statementShape.members v
  let core ← Json.required ms "resources" decodeResources
  let _ ← Json.required ms "rate" decode
  .ok core

/-- The core quota that an answer states, if it states one. -/
def stated? (r : Response) : Option StatedQuota :=
  if r.isSuccess then (Json.parse? r.body).bind fun v => (decodeStatement v).toOption else none

/-! ### What a client keeps of it -/

theorem decode_quota : Quota.decode = fun v => quota <$> decode v := by
  funext v
  simp only [Quota.decode, decode, map_bind]
  rfl

theorem decodeResources_quota : Quota.decodeResources = fun v => quota <$> decodeResources v := by
  funext v
  simp only [Quota.decodeResources, decodeResources, decode_quota, Json.required_map, map_bind,
    bind_map_left]
  rfl

theorem decodeStatement_quota : Quota.decodeStatement = fun v => quota <$> decodeStatement v := by
  funext v
  simp only [Quota.decodeStatement, decodeStatement, decodeResources_quota, decode_quota,
    Json.required_map, map_bind, bind_map_left]
  rfl

/-- A client keeps what an answer states, with the high bits of the counts cut off. -/
theorem quota?_eq (r : Response) : r.quota? = (stated? r).map quota := by
  rw [Response.quota?, stated?, Quota.parse?, decodeStatement_quota]
  split_ifs
  · cases Json.parse? r.body with
    | none => rfl
    | some v =>
      simp only [Option.bind_eq_bind, Option.bind_some]
      cases decodeStatement v <;> rfl
  · rfl

/-! ### Statements of all counts -/

/-- The statement of one resource. -/
def json (s : StatedQuota) : Json :=
  .obj [("limit", .nat s.limit.toNat), ("remaining", .nat s.remaining.toNat),
    ("reset", .nat s.reset.toNat), ("used", .nat s.used.toNat)]

/-- The statement of all resources. Only core and search have to be stated. -/
def resources (core search : StatedQuota) (others : String → Option StatedQuota) : Json :=
  .obj (("core", core.json) :: ("search", search.json) ::
    ["graphql", "integration_manifest", "scim", "source_import"].map fun name =>
      (name, Json.optional json (others name)))

/-- The service's statement. -/
def statement (core search rate : StatedQuota) (others : String → Option StatedQuota) : Json :=
  .obj [("rate", rate.json), ("resources", resources core search others)]

/-- Counts of 64 bits are read as they are, whatever else is stated. -/
theorem reads_json (s : StatedQuota) : Json.Reads decode s.json s := by
  rintro _ (_ | _ | _ | _ | _ | _ | ⟨distinct, hmembers⟩)
  simp only [List.forall_mem_cons] at hmembers
  obtain ⟨hlimit, hremaining, hreset, hused, -⟩ := hmembers
  have hlimit := Json.reads_word _ _ hlimit
  have hremaining := Json.reads_word _ _ hremaining
  have hreset := Json.reads_word _ _ hreset
  have hused := Json.reads_word _ _ hused
  have hshape : Quota.shape.members (.obj _) = .ok _ := Json.members_obj distinct (by
    simpa [Quota.shape] using ⟨Json.fits_of_eq_ok hlimit, Json.fits_of_eq_ok hused,
      Json.fits_of_eq_ok hremaining, Json.fits_of_eq_ok hreset⟩)
  simp only [decode, hshape, Json.required_of_eq_ok hlimit nofun,
    Json.required_of_eq_ok hused nofun, Json.required_of_eq_ok hremaining nofun,
    Json.required_of_eq_ok hreset nofun, bind, Except.bind]

theorem reads_optional_json (s : Option StatedQuota) :
    Json.Reads (Json.nullable decode) (Json.optional json s) s :=
  Json.reads_optional reads_json (fun _ => nofun) s

theorem reads_resources (core search : StatedQuota) (others : String → Option StatedQuota) :
    Json.Reads decodeResources (resources core search others) core := by
  rintro _ (_ | _ | _ | _ | _ | _ | ⟨distinct, hmembers⟩)
  simp only [List.forall_mem_cons, List.map_cons] at hmembers
  obtain ⟨hcore, hsearch, hgraphql, hmanifest, hscim, himport, -⟩ := hmembers
  have hcore := reads_json _ _ hcore
  have hsearch := reads_json _ _ hsearch
  have hshape : Quota.resourcesShape.members (.obj _) = .ok _ := Json.members_obj distinct (by
    simpa [Quota.resourcesShape, decode_quota, Json.fits_map, Json.fits_nullable_map] using
      ⟨Json.fits_of_eq_ok hcore, Json.fits_of_eq_ok hsearch,
        Json.fits_of_eq_ok (reads_optional_json _ _ hgraphql),
        Json.fits_of_eq_ok (reads_optional_json _ _ hmanifest),
        Json.fits_of_eq_ok (reads_optional_json _ _ hscim),
        Json.fits_of_eq_ok (reads_optional_json _ _ himport)⟩)
  simp only [decodeResources, hshape, Json.required_of_eq_ok hcore nofun,
    Json.required_of_eq_ok hsearch nofun, bind, Except.bind]

/-- Whatever counts of 64 bits the service states of core, they are read, and nothing else of its
statement matters. -/
theorem reads_statement (core search rate : StatedQuota) (others : String → Option StatedQuota) :
    Json.Reads decodeStatement (statement core search rate others) core := by
  rintro _ (_ | _ | _ | _ | _ | _ | ⟨distinct, hmembers⟩)
  simp only [List.forall_mem_cons] at hmembers
  obtain ⟨hrate, hresources, -⟩ := hmembers
  have hrate := reads_json _ _ hrate
  have hresources := reads_resources _ _ _ _ hresources
  have hshape : Quota.statementShape.members (.obj _) = .ok _ := Json.members_obj distinct (by
    simpa [Quota.statementShape, decode_quota, decodeResources_quota, Json.fits_map] using
      ⟨Json.fits_of_eq_ok hresources, Json.fits_of_eq_ok hrate⟩)
  simp only [decodeStatement, hshape, Json.required_of_eq_ok hresources nofun,
    Json.required_of_eq_ok hrate nofun, bind, Except.bind]

/-! ### Which quotas are low -/

theorem isLow_quota_iff {s : StatedQuota} :
    s.quota.isLow = true ↔ s.remaining.toNat % UInt32.size < 10 := by
  rw [Quota.isLow, decide_eq_true_iff, UInt32.lt_iff_toNat_lt]
  exact Iff.rfl

/-- A count that fits into 32 bits is taken for what it is. -/
theorem isLow_quota_iff_of_lt {s : StatedQuota} (h : s.remaining.toNat < UInt32.size) :
    s.quota.isLow = true ↔ s.remaining < 10 := by
  rw [isLow_quota_iff, Nat.mod_eq_of_lt h]
  exact (UInt64.lt_iff_toNat_lt (b := 10)).symm

end StatedQuota

/-! ### Pauses -/

/-- How long a quota makes a client sleep. -/
theorem Quota.toNat_pause (q : Quota) (now : UInt64) :
    ((q.pause now).getD 0).toNat =
      if q.isLow ∧ now < q.reset then min (q.reset.toNat - now.toNat) 3600 else 0 := by
  rw [pause, wait?]
  split_ifs with h
  · have hdifference : (q.reset - now).toNat = q.reset.toNat - now.toNat :=
      UInt64.toNat_sub_of_le _ _ (UInt64.le_of_lt h.2)
    rw [Option.map_some, Option.getD_some, UInt64.toNat_min, hdifference]
    rfl
  · rfl

theorem Quota.getD_pause_ne_zero_iff (q : Quota) (now : UInt64) :
    (q.pause now).getD 0 ≠ 0 ↔ q.isLow = true ∧ now < q.reset := by
  rw [Ne, ← UInt64.toNat_inj, toNat_pause, UInt64.toNat_zero]
  split_ifs with h
  · have hlater : now.toNat < q.reset.toNat := h.2
    exact iff_of_true (by omega) h
  · exact iff_of_false (fun hne => hne rfl) h

namespace Guarded

/-- Seconds to sleep before the next request. The difference is a use that may panic. -/
def pause (q : Quota) (now : UInt64) : Except Panic (Option UInt64) :=
  if !q.isLow || q.reset ≤ now then .ok none
  else
    (difference q.reset.toNat now.toNat).map fun seconds =>
      some (min (.ofNat seconds) Quota.longestPause)

/-- Asks for the quota if it is time to do so. -/
def checkQuota (c : Client) (transport : Transport) (now : UInt64) :
    Except Panic (List String × UInt64) :=
  if c.checksNext then
    match (transport quotaRoute).quota? with
    | none => .ok ([quotaRoute], 0)
    | some q => (pause q now).map fun seconds => ([quotaRoute], seconds.getD 0)
  else .ok ([], 0)

/-- The difference is taken only when the next window is still to come. -/
theorem pause_eq (q : Quota) (now : UInt64) : pause q now = .ok (q.pause now) := by
  rw [pause, Quota.pause, Quota.wait?]
  by_cases h : q.isLow ∧ now < q.reset
  · have hle : now.toNat ≤ q.reset.toNat := Nat.le_of_lt h.2
    have hdifference : UInt64.ofNat (q.reset.toNat - now.toNat) = q.reset - now := by
      rw [← UInt64.toNat_sub_of_le _ _ (UInt64.le_of_lt h.2), UInt64.ofNat_toNat]
    rw [if_neg (by simp [h]), if_pos h, difference, demand_of _ hle]
    exact congrArg (fun seconds => Except.ok (some (min seconds Quota.longestPause))) hdifference
  · have hguard : (!q.isLow || decide (q.reset ≤ now)) = true := by
      rw [Bool.or_eq_true, Bool.not_eq_true', decide_eq_true_iff, ← UInt64.not_lt]
      cases hlow : q.isLow
      · exact .inl rfl
      · exact .inr fun hnow => h ⟨hlow, hnow⟩
    rw [if_pos hguard, if_neg h]
    rfl

/-- Asking for the quota does not panic. -/
theorem checkQuota_eq (c : Client) (transport : Transport) (now : UInt64) :
    checkQuota c transport now = .ok (c.checkQuota transport now) := by
  rw [checkQuota, Client.checkQuota]
  split_ifs
  · cases (transport quotaRoute).quota? with
    | none => rfl
    | some q =>
      dsimp only
      rw [pause_eq]
      rfl
  · rfl

end Guarded

section Answers

variable {c : Client} {transport : Transport} {s : StatedQuota}

/-- A client that asks for the quota, and is told it. -/
theorem checkQuota_of_stated (hchecks : c.checksNext = true)
    (hstated : StatedQuota.stated? (transport quotaRoute) = some s) (now : UInt64) :
    c.checkQuota transport now = ([quotaRoute], (s.quota.pause now).getD 0) := by
  rw [Client.checkQuota, if_pos hchecks, StatedQuota.quota?_eq, hstated]
  rfl

/-- When a client that asks for the quota sleeps, and how long. It sleeps when the low 32 bits of
the stated count say that fewer than ten requests remain and the next window is still to come, and
then until that window begins or for an hour, whichever is less. So a count that fits into 32 bits
makes it sleep exactly when it is low. The difference of the times does not underflow. -/
theorem checkQuota_pause_exact (hchecks : c.checksNext = true)
    (hstated : StatedQuota.stated? (transport quotaRoute) = some s) (now : UInt64) :
    ∃ slept, c.checkQuota transport now = ([quotaRoute], slept) ∧
      Guarded.checkQuota c transport now = .ok ([quotaRoute], slept) ∧
      (slept ≠ 0 ↔ s.remaining.toNat % UInt32.size < 10 ∧ now < s.reset) ∧
      (slept ≠ 0 → slept.toNat = min (s.reset.toNat - now.toNat) 3600) ∧
      (s.remaining.toNat < UInt32.size → (slept ≠ 0 ↔ s.remaining < 10 ∧ now < s.reset)) := by
  have hslept := checkQuota_of_stated hchecks hstated now
  have hsleeps := s.quota.getD_pause_ne_zero_iff now
  refine ⟨_, hslept, by rw [Guarded.checkQuota_eq, hslept], ?_, fun hne => ?_, fun hfits => ?_⟩
  · rw [hsleeps, StatedQuota.isLow_quota_iff]
    exact Iff.rfl
  · rw [Quota.toNat_pause, if_pos (hsleeps.1 hne)]
    rfl
  · rw [hsleeps, StatedQuota.isLow_quota_iff_of_lt hfits]
    exact Iff.rfl

end Answers

/-- A service that states how many requests remain. The next window begins in the second 2800. -/
def countingTransport (remaining : UInt64) : Transport := fun _ =>
  let rate := "\x7b\"limit\":5000,\"used\":0,\"remaining\":" ++ toString remaining
    ++ ",\"reset\":2800\x7d"
  { status := 200
    body := "\x7b\"rate\":" ++ rate ++ ",\"resources\":\x7b\"core\":" ++ rate ++ ",\"search\":"
      ++ rate ++ "\x7d\x7d" }

/-- The quota that it states. -/
def countedQuota (remaining : UInt64) : StatedQuota :=
  { limit := 5000, used := 0, remaining, reset := 2800 }

/-- With three requests left a client sleeps until the next window. -/
theorem checkQuota_pause_exact_low :
    StatedQuota.stated? (countingTransport 3 quotaRoute) = some (countedQuota 3) ∧
      ∃ slept, Client.checkQuota {} (countingTransport 3) 1000 = ([quotaRoute], slept) ∧
        Guarded.checkQuota {} (countingTransport 3) 1000 = .ok ([quotaRoute], slept) ∧
        slept.toNat = 1800 := by
  have hstated : StatedQuota.stated? (countingTransport 3 quotaRoute) = some (countedQuota 3) := by
    decide +kernel
  obtain ⟨slept, hslept, hguarded, hsleeps, hlong, -⟩ :=
    checkQuota_pause_exact (c := {}) (by decide) hstated 1000
  exact ⟨hstated, slept, hslept, hguarded, hlong (hsleeps.2 ⟨by decide, by decide⟩)⟩

/-- A count of `2 ^ 32` is taken for none. -/
theorem not_forall_pauses_when_low :
    ¬ ∀ (c : Client) (transport : Transport) (s : StatedQuota) (now : UInt64),
      c.checksNext = true → StatedQuota.stated? (transport quotaRoute) = some s →
        ((c.checkQuota transport now).2 ≠ 0 ↔ s.remaining < 10 ∧ now < s.reset) := by
  intro hall
  have hstated : StatedQuota.stated? (countingTransport 4294967296 quotaRoute) =
      some (countedQuota 4294967296) := by decide +kernel
  have hsleeps := hall {} (countingTransport 4294967296) _ 1000 (by decide) hstated
  rw [checkQuota_of_stated (by decide) hstated] at hsleeps
  exact absurd (hsleeps.1 (by decide)) (by decide)

end PullWatch
