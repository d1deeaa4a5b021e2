import PullWatch.PullRequest

/-!
# The service that is asked for listings

Pull requests of a repository and check runs of a commit are listed page by page. A page holds raw
payloads; a page of check runs is an envelope around them.

## Main definitions

* `GitHub.PullQuery`, `GitHub.CheckQuery`: the requests.
* `GitHub.Failure`: how a request fails, and `GitHub.Failure.message`, its wording.
* `GitHub.Service`: the answers to all requests.
* `GitHub.Call`: a request as a log of calls keeps it.
-/

namespace PullWatch.GitHub

/-- Items asked for on one page. -/
def perPage : Nat := 100

/-- Asks for one page of a repository's pull requests. -/
structure PullQuery where
  owner : String
  name : String
  listing : Listing
  perPage : Nat
  page : Nat
  deriving DecidableEq, Repr

/-- Asks for one page of a commit's check runs. -/
structure CheckQuery where
  owner : String
  name : String
  sha : String
  perPage : Nat
  page : Nat
  deriving DecidableEq, Repr

/-- How a request fails. -/
inductive Failure where
  /-- The repository or the commit does not exist. -/
  | notFound (resource : String)
  /-- Too many requests were sent. -/
  | rateLimited (message : String)
  /-- Any other failure. -/
  | api (message : String)
  deriving DecidableEq, Repr

namespace Failure

/-- The wording of a failure. -/
def message : Failure → String
  | notFound resource => "Not found: " ++ resource
  | rateLimited message => "Rate limited: " ++ message
  | api message => "GitHub API error: " ++ message

/-- The thing asked for does not exist. -/
def isNotFound : Failure → Bool
  | notFound _ => true
  | rateLimited _ | api _ => false

end Failure

/-- One page of a listing of pull requests. -/
structure Page where
  /-- The payloads, newest update first. -/
  items : List Json
  /-- Whether another page may follow. -/
  hasNext : Bool

/-- The answers to all requests. -/
structure Service where
  pulls : PullQuery → Except Failure Page
  /-- The envelope of a page of check runs. -/
  checks : CheckQuery → Except Failure Json

/-- A request that was sent. -/
inductive Call where
  | pulls (query : PullQuery)
  | checks (query : CheckQuery)
  deriving DecidableEq, Repr

end PullWatch.GitHub
