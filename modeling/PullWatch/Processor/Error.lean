import PullWatch.Configuration
import PullWatch.Database.Error
import PullWatch.Session

/-!
# Processor errors

## Main definitions

* `ProcessorError`: why a processor could not be built or a session could not be run.
* `ProcessorError.cause`, `ProcessorError.gathered?`: the error behind a failed session, and what
  the session had gathered.
-/

namespace PullWatch

/-- Why a processor could not be built or a session could not be run. Failures of single
repositories are part of their results and do not appear here. -/
inductive ProcessorError where
  | configuration (fault : ConfigurationFault)
  /-- A limit on concurrent work is larger than limits can be. -/
  | limitTooLarge (limit : Nat)
  | unknownRepository (id : Int)
  | store (cause : StoreError)
  /-- Another session is running on this processor. -/
  | alreadyRunning
  | invalidTransition (source target : Phase)
  /-- A repository failed and the session ends with the first failure. -/
  | aborted (repository : String)
  /-- A session that had started failed. -/
  | sessionFailed (gathered : Batch) (cause : ProcessorError)

namespace ProcessorError

/-- The wording of an error. -/
def message : ProcessorError → String
  | configuration fault => fault.message
  | limitTooLarge limit => "a limit of " ++ toString limit ++ " is too large"
  | unknownRepository id => "Unknown repository id " ++ toString id
  | store cause => cause.message
  | alreadyRunning => "A processing session is already active"
  | invalidTransition source target =>
    "Invalid phase transition from " ++ source.name ++ " to " ++ target.name
  | aborted repository =>
    "Processing of " ++ repository ++ " failed and stop-on-first-error is set"
  | sessionFailed _ cause => "Processing session failed: " ++ cause.message

/-- The error behind a failed session; any other error is its own cause. -/
def cause : ProcessorError → ProcessorError
  | sessionFailed _ cause => cause.cause
  | e => e

/-- What a failed session had gathered. -/
def gathered? : ProcessorError → Option Batch
  | sessionFailed gathered _ => some gathered
  | _ => none

end ProcessorError

end PullWatch
