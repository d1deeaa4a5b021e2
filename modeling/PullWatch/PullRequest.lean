import PullWatch.Instant
import PullWatch.Json

/-!
# Pull requests

## Main definitions

* `PullState`: open, closed without merging, or merged, with the names under which states are
  stored and listed.
* `PullRequest`: the attributes of a pull request.
* `FetchedPullRequest` and `StoredPullRequest`: a pull request as one discovery pass sees it, and
  as the database holds it.
-/

namespace PullWatch

/-- The lifecycle state of a pull request. -/
inductive PullState where
  /-- Open for review. -/
  | opened
  /-- Closed without merging. -/
  | closed
  /-- Closed by merging. -/
  | merged
  deriving DecidableEq, Repr, Inhabited

/-- The two listings that the service offers for a repository's pull requests. A merged pull request
is listed as a closed one. -/
inductive Listing where
  | open
  | closed
  deriving DecidableEq, Repr

/-- The name of a listing in a request. -/
def Listing.name : Listing → String
  | .open => "open"
  | closed => "closed"

namespace PullState

/-- All states, in declaration order. -/
def all : List PullState := [opened, closed, merged]

/-- The stored name. -/
def name : PullState → String
  | opened => "opened"
  | closed => "closed"
  | merged => "merged"

/-- The state of a stored name; `open` is another name of `opened`. -/
def ofName? (s : String) : Option PullState :=
  if s = "opened" ∨ s = "open" then some opened
  else if s = "closed" then some closed
  else if s = "merged" then some merged
  else none

/-- The listing that shows pull requests of this state. -/
def listing : PullState → Listing
  | opened => .open
  | closed | merged => .closed

/-- Closed and merged pull requests have reached the end of their life. -/
def isTerminal : PullState → Bool
  | opened => false
  | closed | merged => true

@[simp] theorem ofName?_name (s : PullState) : ofName? s.name = some s := by
  cases s <;> rfl

end PullState

/-- The attributes of a pull request. -/
structure PullRequest where
  /-- The number within the repository. -/
  number : UInt64
  title : String
  author : String
  state : PullState
  draft : Bool
  baseBranch : String
  baseSha : String
  headBranch : String
  headSha : String
  url : String
  body : Option String
  labels : List String
  assignees : List String
  milestone : Option String
  createdAt : Instant
  updatedAt : Instant
  closedAt : Option Instant
  mergedAt : Option Instant
  deriving DecidableEq

/-- A pull request as one discovery pass sees it, with the payload it was read from. -/
structure FetchedPullRequest extends PullRequest where
  payload : Json

/-- A pull request as the database holds it. -/
structure StoredPullRequest extends PullRequest where
  /-- The row's id. -/
  id : Int
  /-- The id of the repository's row. -/
  repositoryId : Int
  deriving DecidableEq

end PullWatch
