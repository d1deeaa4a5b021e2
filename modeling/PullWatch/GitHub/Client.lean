import PullWatch.GitHub.Service
import PullWatch.Quota

/-!
# Requests over HTTP

The client sends each request to a route of the service and reads the answer's text. Before every
twentieth request it asks for the quota and waits when it is low; a quota that cannot be read does
not hold a request up. A refusal counts as one only when its text states a message.

## Main definitions

* `GitHub.Response`, `GitHub.Exchange`: an answer, and what one request led to.
* `GitHub.pullRoute`, `GitHub.checkRoute`: the routes of the two listings.
* `GitHub.Client.listPulls`, `GitHub.Client.listChecks`: the requests.
-/

namespace PullWatch.GitHub

/-- An answer: status code and text. -/
structure Response where
  status : Nat
  body : String
  deriving DecidableEq, Repr

/-- The answers to all routes. -/
abbrev Transport := String → Response

/-- What one request led to: the routes asked in order, the seconds slept and the result. -/
structure Exchange (α : Type) where
  routes : List String
  slept : UInt64
  result : Except Failure α

/-- The route of the quota statement. -/
def quotaRoute : String := "/rate_limit"

/-- The route of a page of pull requests, most recently updated first. -/
def pullRoute (q : PullQuery) : String :=
  "/repos/" ++ q.owner ++ "/" ++ q.name ++ "/pulls?state=" ++ q.listing.name
    ++ "&sort=updated&direction=desc&per_page=" ++ toString q.perPage
    ++ "&page=" ++ toString q.page

/-- The route of a page of check runs. -/
def checkRoute (q : CheckQuery) : String :=
  "/repos/" ++ q.owner ++ "/" ++ q.name ++ "/commits/" ++ q.sha ++ "/check-runs?per_page="
    ++ toString q.perPage ++ "&page=" ++ toString q.page

theorem repos_append_ne_quotaRoute (rest : String) : "/repos/" ++ rest ≠ quotaRoute := by
  intro h
  have hprefix : "/repos/".toList <+: quotaRoute.toList :=
    ⟨rest.toList, by rw [← String.toList_append, h]⟩
  exact absurd hprefix (by decide)

theorem pullRoute_ne_quotaRoute (q : PullQuery) : pullRoute q ≠ quotaRoute := by
  delta pullRoute
  simp only [String.append_assoc]
  exact repos_append_ne_quotaRoute _

theorem checkRoute_ne_quotaRoute (q : CheckQuery) : checkRoute q ≠ quotaRoute := by
  delta checkRoute
  simp only [String.append_assoc]
  exact repos_append_ne_quotaRoute _

/-- The fields of a refusal. -/
def refusalShape : Json.RecordShape :=
  { name := "GitHubErrorBody"
    fields :=
      [("documentation_url", Json.fits (Json.nullable Json.text)),
       ("errors", Json.fits (Json.nullable (Json.sequence fun v => .ok v))),
       ("message", Json.fits Json.text)] }

/-- The message that a refusal states. -/
def refusalMessage? (body : String) : Option String := do
  let v ← Json.parse? body
  let ms ← (refusalShape.members v).toOption
  (Json.required ms "message" Json.text).toOption

/-- The status means success. -/
def Response.isSuccess (r : Response) : Bool := 200 ≤ r.status ∧ r.status < 300

/-- How a refused request failed. Only a refusal that states a message is told apart by status. -/
def Response.failure (r : Response) (resource : String) : Failure :=
  match refusalMessage? r.body with
  | some message =>
    if r.status = 404 then .notFound resource
    else if r.status = 429 then .rateLimited message
    else .api message
  | none => .api "unreadable refusal"

/-- The value in a successful answer. -/
def Response.read (r : Response) (resource : String) : Except Failure Json :=
  if r.isSuccess then
    match Json.parse? r.body with
    | some v => .ok v
    | none => .error (.api "unreadable answer")
  else .error (r.failure resource)

/-- The core quota in an answer, if it states one. -/
def Response.quota? (r : Response) : Option Quota :=
  if r.isSuccess then Quota.parse? r.body else none

/-- A client and the number of requests it has sent. -/
abbrev Client := Throttle

namespace Client

/-- Asks for the quota if it is time to do so: the route asked and the seconds slept. -/
def checkQuota (c : Client) (transport : Transport) (now : UInt64) : List String × UInt64 :=
  if c.checksNext then
    let slept := ((transport quotaRoute).quota?.bind fun q => q.pause now).getD 0
    ([quotaRoute], slept)
  else ([], 0)

theorem checkQuota_routes (c : Client) (transport : Transport) (now : UInt64) :
    (c.checkQuota transport now).1 = if c.checksNext then [quotaRoute] else [] := by
  rw [checkQuota]
  split <;> rfl

/-- Only one answer matters to a check. -/
theorem checkQuota_congr {first second : Transport} (h : first quotaRoute = second quotaRoute)
    (c : Client) (now : UInt64) : c.checkQuota first now = c.checkQuota second now := by
  rw [checkQuota, checkQuota, h]

/-- Sends a request to a route and reads the answer. -/
def send {α : Type} (c : Client) (transport : Transport) (now : UInt64) (route : String)
    (read : Response → Except Failure α) : Client × Exchange α :=
  let (asked, slept) := c.checkQuota transport now
  (c.next, { routes := asked ++ [route], slept, result := read (transport route) })

/-- One page of pull requests. A full page may be followed by another. -/
def listPulls (c : Client) (transport : Transport) (now : UInt64) (q : PullQuery) :
    Client × Exchange Page :=
  c.send transport now (pullRoute q) fun r => do
    match ← r.read (q.owner ++ "/" ++ q.name) with
    | .arr items => .ok { items, hasNext := q.perPage ≤ items.length }
    | _ => .error (.api "unreadable answer")

/-- The envelope of one page of check runs. -/
def listChecks (c : Client) (transport : Transport) (now : UInt64) (q : CheckQuery) :
    Client × Exchange Json :=
  c.send transport now (checkRoute q) fun r => r.read (q.owner ++ "/" ++ q.name ++ "@" ++ q.sha)

end Client

end PullWatch.GitHub
