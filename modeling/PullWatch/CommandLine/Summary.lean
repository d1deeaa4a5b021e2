import PullWatch.CommandLine.Invocation
import PullWatch.Session

/-!
# What the program prints

## Main definitions

* `Batch.summary`: the figures of a session, its failures and its warnings.
* `HelpTopic.lines`, `versionLine`: answers to requests for help and for the version.
-/

namespace PullWatch

/-- A rate as a percentage with one place. -/
def SuccessRate.percentage (r : SuccessRate) : String :=
  (r.value.scaleBy 100).fixedText 1 ++ "%"

/-- A duration in nanoseconds as seconds with two places. -/
def secondsText (nanoseconds : Nat) : String :=
  (Binary64.ofRatio false nanoseconds 1000000000).fixedText 2 ++ "s"

/-- A failed repository: its phase and its problems. -/
def RepositoryResult.failureLines (r : RepositoryResult) : List String :=
  let phase := (r.failedPhase.map ProblemKind.name).getD "unknown"
  ("  FAILED " ++ r.repository ++ " (" ++ phase ++ ")")
    :: r.problems.map fun p => "    - " ++ p.text

/-- The summary of a session under its name. A session that does not write has no count of written
changes. -/
def Batch.summary (b : Batch) (name : String) (now : Instant) : List String :=
  let s := b.session
  ["", "Summary:",
   "  Session: " ++ name,
   "  Mode: " ++ s.mode.name,
   "  Repositories processed: " ++ toString b.repositoriesProcessed,
   "  Success rate: " ++ b.successRate.percentage,
   "  Pull requests discovered: " ++ toString s.pullsDiscovered,
   "  Check runs discovered: " ++ toString s.checksDiscovered,
   "  Changes detected: " ++ toString s.changesDetected]
  ++ (if s.mode.isDryRun then []
      else ["  Changes synchronized: " ++ toString s.changesSynchronized])
  ++ ["  Actionable events: " ++ toString s.actionableEvents,
      "  Errors: " ++ toString b.totalErrors,
      "  Duration: " ++ secondsText (s.duration now)]
  ++ b.failures.flatMap RepositoryResult.failureLines
  ++ s.warnings.map fun w => "  Warning: " ++ w

/-- The name under which the program is invoked. -/
def programName : String := "pr-monitor-cli"

/-- The answer to a request for the version. -/
def versionLine : String := programName ++ " 0.1.0"

/-- The answer to a request for help. -/
def HelpTopic.lines : HelpTopic → List String
  | program =>
    ["CLI for watching GitHub repositories for pull request and check run activity",
     "",
     "Usage: " ++ programName ++ " [OPTIONS] <COMMAND>",
     "",
     "Commands:",
     "  run   Run one monitoring session",
     "  add   Register a repository for monitoring",
     "  help  Print this message or the help of the given subcommand(s)",
     "",
     "Options:",
     "      --database <DATABASE>  Path to the SQLite database [env: PR_MONITOR_DATABASE=] "
       ++ "[default: " ++ ({} : InvocationDefaults).database ++ "]",
     "  -h, --help                 Print help",
     "  -V, --version              Print version"]
  | run =>
    ["Run one monitoring session",
     "",
     "Usage: " ++ programName ++ " run [OPTIONS] --token <TOKEN>",
     "",
     "Options:",
     "      --token <TOKEN>    GitHub Personal Access Token [env: GITHUB_TOKEN=]",
     "      --config <CONFIG>  Path to processor.toml; defaults are used when omitted",
     "      --mode <MODE>      Processing mode [default: incremental] [possible values: "
       ++ String.intercalate ", " (Mode.all.map Mode.word) ++ "]",
     "      --repository <ID>  Only process these repository ids",
     "  -h, --help             Print help"]
  | add =>
    ["Register a repository for monitoring",
     "",
     "Usage: " ++ programName ++ " add [OPTIONS] <FULL_NAME>",
     "",
     "Arguments:",
     "  <FULL_NAME>  Repository in `owner/name` form",
     "",
     "Options:",
     "      --polling-interval <POLLING_INTERVAL>  Minutes between two incremental polls "
       ++ "[default: 15]",
     "      --priority <PRIORITY>                  Higher values are polled first [default: 0]",
     "  -h, --help                                 Print help"]

end PullWatch
