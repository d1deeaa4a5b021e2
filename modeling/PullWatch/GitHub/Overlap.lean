import PullWatch.GitHub.Client

/-!
# Requests that overlap

Requests of one client may be under way side by side. Each is counted before anything else, then it
asks for the quota and waits if its count says so, and then it is sent. They share nothing but the
count, which each of them reads and moves on in one step.

## Main definitions

* `Call.route`, `Client.perform`: a request of either kind, and a client that makes it.
* `Flight`, `Flight.advance`: a request that was counted, and its next step.
* `Traffic`: the requests of a client, in the order in which they were counted.
* `Move`, `Traffic.step`, `Traffic.run`: one step of one request, and a series of steps.
-/

namespace PullWatch.GitHub

/-- An exchange with another reading of its result. -/
def Exchange.map {α β : Type} (f : α → β) (e : Exchange α) : Exchange β :=
  { routes := e.routes, slept := e.slept, result := e.result.map f }

/-- The route of what is asked for. -/
def Call.route : Call → String
  | .pulls q => pullRoute q
  | .checks q => checkRoute q

theorem Call.route_ne_quotaRoute (q : Call) : q.route ≠ quotaRoute := by
  cases q with
  | pulls q => exact pullRoute_ne_quotaRoute q
  | checks q => exact checkRoute_ne_quotaRoute q

/-- Makes a request of either kind. -/
def Client.perform (c : Client) (transport : Transport) (now : UInt64) :
    Call → Client × Exchange (Page ⊕ Json)
  | .pulls q => (c.listPulls transport now q).map id (.map .inl)
  | .checks q => (c.listChecks transport now q).map id (.map .inr)

/-- What a request leads to. Its result depends on nothing but the answer of its route. -/
theorem Client.perform_eq {first second : Transport} {q : Call}
    (h : first q.route = second q.route) (c : Client) (now later : UInt64) :
    c.perform first now q =
      (c.next,
        { routes := (c.checkQuota first now).1 ++ [q.route]
          slept := (c.checkQuota first now).2
          result := (c.perform second later q).2.result }) := by
  cases q with
  | pulls q =>
    have hroute : first (pullRoute q) = second (pullRoute q) := h
    simp only [perform, listPulls, send, hroute]
    rfl
  | checks q =>
    have hroute : first (checkRoute q) = second (checkRoute q) := h
    simp only [perform, listChecks, send, hroute]
    rfl

/-- How far a request has come that was counted. -/
inductive Flight.Stage where
  | counted
  /-- It has asked for the quota if it was time to do so, and it has waited. -/
  | cleared (asked : List String) (slept : UInt64)
  | ended (exchange : Exchange (Page ⊕ Json))

/-- A request that was counted. -/
structure Flight where
  /-- The client as the request has found it. -/
  client : Client
  query : Call
  stage : Flight.Stage := .counted

namespace Flight

/-- The routes asked so far. -/
def routes (f : Flight) : List String :=
  match f.stage with
  | .counted => []
  | .cleared asked _ => asked
  | .ended e => e.routes

/-- The quota was asked for. -/
def asksQuota (f : Flight) : Bool := f.routes.contains quotaRoute

/-- The request will not ask for the quota any more. -/
def isCleared (f : Flight) : Bool :=
  match f.stage with
  | .counted => false
  | .cleared _ _ | .ended _ => true

/-- The next step of a request, at a time, with the answers of the service at that time. -/
def advance (transport : Transport) (now : UInt64) (f : Flight) : Flight :=
  match f.stage with
  | .counted =>
    let (asked, slept) := f.client.checkQuota transport now
    { f with stage := .cleared asked slept }
  | .cleared asked slept =>
    -- the quota was asked for before, so of a request made now only the result counts
    let answered := (f.client.perform transport now f.query).2
    { f with
      stage := .ended
        { routes := asked ++ [f.query.route], slept, result := answered.result } }
  | .ended _ => f

end Flight

/-- A client, and the requests that it has counted, in this order. -/
structure Traffic where
  client : Client := {}
  flights : List Flight := []

/-- A step of a request. -/
inductive Move where
  /-- A request is counted. -/
  | start (query : Call)
  /-- The request at a position takes its next step. -/
  | advance (position : Nat) (transport : Transport) (now : UInt64)

namespace Traffic

/-- One step of one request. -/
def step (s : Traffic) : Move → Traffic
  | .start query =>
    { client := s.client.next, flights := s.flights ++ [{ client := s.client, query }] }
  | .advance position transport now =>
    { s with flights := s.flights.modify position (Flight.advance transport now) }

/-- The steps of all requests of a new client, in any order. -/
def run (moves : List Move) : Traffic := moves.foldl step {}

end Traffic

end PullWatch.GitHub
