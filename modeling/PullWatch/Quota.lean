import PullWatch.Json.Reader
import PullWatch.Json.Record

/-!
# The request quota

The service grants a number of requests per window and tells how many remain and when the next
window begins. When fewer than ten remain, requests wait for that time, one hour at the most.

## Main definitions

* `Quota`, `Quota.isLow`, `Quota.wait?`: a quota and how long to wait for the next window.
* `Quota.pause`: the wait, one hour at the most.
* `Quota.parse?`: the quota that the service states.
* `Throttle`: counts requests, and asks for the quota before each twentieth.
-/

namespace PullWatch

/-- What is left of the present window. -/
structure Quota where
  /-- Requests that remain. -/
  remaining : UInt32
  /-- The second at which the next window begins, counted from 1970. -/
  reset : UInt64
  /-- Requests of a whole window. -/
  limit : UInt32
  deriving DecidableEq, Repr

namespace Quota

/-- With fewer requests than this, callers wait. -/
def threshold : UInt32 := 10

/-- The longest wait, in seconds. -/
def longestPause : UInt64 := 3600

/-- Too few requests remain. -/
def isLow (q : Quota) : Bool := q.remaining < threshold

/-- Seconds until the next window, if it is worth waiting for it. -/
def wait? (q : Quota) (now : UInt64) : Option UInt64 :=
  if q.isLow ∧ now < q.reset then some (q.reset - now) else none

/-- Seconds to sleep before the next request, if at all. -/
def pause (q : Quota) (now : UInt64) : Option UInt64 :=
  (q.wait? now).map fun seconds => min seconds longestPause

/-- The quota of stated counts. Counts of 64 bits are cut to their low 32 bits. -/
def ofCounts (remaining limit reset : UInt64) : Quota :=
  { remaining := remaining.toUInt32, reset, limit := limit.toUInt32 }

/-- The fields of a stated quota. -/
def shape : Json.RecordShape :=
  { name := "Rate"
    fields :=
      [("limit", Json.fits Json.word), ("used", Json.fits Json.word),
       ("remaining", Json.fits Json.word), ("reset", Json.fits Json.word)] }

/-- A stated quota. -/
def decode : Json.Decoder Quota := fun v => do
  let ms ← shape.members v
  let limit ← Json.required ms "limit" Json.word
  let _ ← Json.required ms "used" Json.word
  let remaining ← Json.required ms "remaining" Json.word
  let reset ← Json.required ms "reset" Json.word
  .ok (ofCounts remaining limit reset)

/-- The fields of the quotas of all resources. -/
def resourcesShape : Json.RecordShape :=
  { name := "Resources"
    fields :=
      [("core", Json.fits decode), ("search", Json.fits decode),
       ("graphql", Json.fits (Json.nullable decode)),
       ("integration_manifest", Json.fits (Json.nullable decode)),
       ("scim", Json.fits (Json.nullable decode)),
       ("source_import", Json.fits (Json.nullable decode))] }

/-- The quota of the core resource, where those of core and search are stated. -/
def decodeResources : Json.Decoder Quota := fun v => do
  let ms ← resourcesShape.members v
  let core ← Json.required ms "core" decode
  let _ ← Json.required ms "search" decode
  .ok core

/-- The fields of the service's statement. -/
def statementShape : Json.RecordShape :=
  { name := "RateLimit"
    fields := [("resources", Json.fits decodeResources), ("rate", Json.fits decode)] }

/-- The core quota in the service's statement. -/
def decodeStatement : Json.Decoder Quota := fun v => do
  let ms ← statementShape.members v
  let core ← Json.required ms "resources" decodeResources
  let _ ← Json.required ms "rate" decode
  .ok core

/-- The core quota in the text of the service's statement. -/
def parse? (text : String) : Option Quota := do
  let v ← Json.parse? text
  (decodeStatement v).toOption

end Quota

/-- Counts the requests of one client. The count starts again after 32 bits are used up. -/
structure Throttle where
  sent : UInt32 := 0
  deriving DecidableEq, Repr

namespace Throttle

/-- Requests from one check of the quota to the next. -/
def period : UInt32 := 20

/-- The quota is checked before the next request. -/
def checksNext (t : Throttle) : Bool := t.sent % period = 0

/-- The throttle after one more request. -/
def next (t : Throttle) : Throttle := { sent := t.sent + 1 }

end Throttle

end PullWatch
