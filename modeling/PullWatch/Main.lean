import PullWatch.CommandLine
import PullWatch.Database.Dump
import Std.Time.DateTime.Timestamp

/-!
# The command line

Reads the files that an invocation names, executes it, and writes the databases and lines that it
leaves. Requests need a connection to the service, which the program does not bring along: without
one every request fails.
-/

namespace PullWatch

/-- The text of a file; absent when it cannot be read. -/
def readText? (path : String) : IO (Option String) := do
  try
    let text ← IO.FS.readFile path
    return some text
  catch _ => return none

/-- The file space with the file at a path, if there is one. -/
def withFile (files : Filespace) (path : String) : IO Filespace := do
  match ← readText? path with
  | none => return files
  | some text =>
    let names := pathNames path
    let content :=
      match DatabaseFile.ofText? text with
      | some file => FileContent.database file
      | none => .text text
    return (files.makeDirectories names.dropLast []).2.write (names.foldl Place.step []) content

/-- The path of a place. -/
def pathOf (place : Place) : String := String.intercalate "/" place

/-- Writes the databases of a file space. -/
def writeDatabases (files : Filespace) : IO Unit :=
  files.files.forM fun
    | (place, .database file) => do
      if 1 < place.length then IO.FS.createDirAll (pathOf place.dropLast)
      IO.FS.writeFile (pathOf place) file.toText
    | _ => pure ()

/-- The service without a connection. -/
def unreachable : GitHub.Service :=
  { pulls := fun _ => .error (.api "no connection"), checks := fun _ => .error (.api "no connection") }

/-- The present. -/
def presentMoment : IO Moment := do
  let nanos := (← Std.Time.Timestamp.now).toNanosecondsSinceUnixEpoch.val
  let time := Instant.ofSeconds? (nanos / 1000000000) (nanos % 1000000000).toNat
  return { time := time.getD Instant.epoch, ticks := ← IO.monoNanosNow }

/-- Executes an invocation. -/
def run (words : List String) : IO UInt32 := do
  let database ← IO.getEnv "PR_MONITOR_DATABASE"
  let token ← IO.getEnv "GITHUB_TOKEN"
  let plain : InvocationDefaults := {}
  let defaults := { database := database.getD plain.database, token : InvocationDefaults }
  let paths :=
    match Invocation.ofWords defaults words with
    | .ok invocation => invocation.paths
    | .error _ => []
  let files ← paths.foldlM withFile {}
  let moment ← presentMoment
  let circumstances : Circumstances :=
    { service := unreachable, clock := fun _ => moment
      sessionName := toString moment.ticks, defaults }
  let done := execute circumstances files words
  try
    writeDatabases done.files
    done.lines.forM fun line => IO.println line
    return UInt32.ofNat done.exitCode
  catch _ => return 2

end PullWatch

/-- The entry point. -/
def main (words : List String) : IO UInt32 := PullWatch.run words
