/-!
# Problems met while repositories are processed

A problem is recorded, not raised: processing goes on with what was obtained. It has a kind, a
message and named context values, such as the repository or the number of a pull request.

## Main definitions

* `ProblemKind`, `Problem`: problems and their kinds.
* `Problem.about`: a problem with one more context value.
* `Problem.text`: the problem in one line.
-/

namespace PullWatch

/-- The kinds of problems. -/
inductive ProblemKind where
  /-- A repository, commit or pull request no longer exists. -/
  | notFound
  /-- The service failed in any other way. -/
  | apiError
  /-- A payload could not be read and was skipped. -/
  | malformedRecord
  /-- Discovery brought nothing usable. -/
  | discoveryFailure
  /-- The stored state could not be read. -/
  | changeDetectionFailure
  /-- The changes could not be written. -/
  | synchronizationFailure
  deriving DecidableEq, Repr

namespace ProblemKind

/-- All kinds, in declaration order. -/
def all : List ProblemKind :=
  [notFound, apiError, malformedRecord, discoveryFailure, changeDetectionFailure,
   synchronizationFailure]

/-- The name in reports. -/
def name : ProblemKind → String
  | notFound => "not_found"
  | apiError => "api_error"
  | malformedRecord => "malformed_record"
  | discoveryFailure => "discovery_failure"
  | changeDetectionFailure => "change_detection_failure"
  | synchronizationFailure => "synchronization_failure"

end ProblemKind

/-- Named context values with distinct names, in ascending order of the names. -/
abbrev Context := List (String × String)

namespace Context

/-- Sets a value. -/
def insert (key value : String) : Context → Context
  | [] => [(key, value)]
  | (k, old) :: rest =>
    if key < k then (key, value) :: (k, old) :: rest
    else if key = k then (key, value) :: rest
    else (k, old) :: insert key value rest

/-- The value of a name. -/
def get? (c : Context) (key : String) : Option String :=
  (c.find? fun e => e.1 == key).map (·.2)

end Context

/-- One problem. -/
structure Problem where
  kind : ProblemKind
  message : String
  context : Context := []
  deriving DecidableEq, Repr

namespace Problem

/-- The problem with a context value set. -/
def about (p : Problem) (key value : String) : Problem :=
  { p with context := p.context.insert key value }

/-- The problem in one line: its kind in brackets, its message, and the context values. -/
def text (p : Problem) : String :=
  "[" ++ p.kind.name ++ "] " ++ p.message
    ++ String.join (p.context.map fun e => " " ++ e.1 ++ "=" ++ e.2)

end Problem

end PullWatch
