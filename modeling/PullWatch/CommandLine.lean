import PullWatch.CommandLine.Summary
import PullWatch.Configuration.Reader
import PullWatch.Filespace
import PullWatch.Processor

/-!
# The program

An execution of the program takes the words of its invocation and the files it finds, and yields an
exit code, the lines it prints and the files it leaves.

The exit code is 0 when everything succeeded, 1 when a session ended with failures, and 2 when a
command could not be carried out.

## Main definitions

* `Execution`, `execute`: what an execution yields, and the execution of an invocation.
* `register`, `runCommand`: the execution of the commands.
-/

namespace PullWatch

/-- What the program meets besides files. -/
structure Circumstances where
  service : GitHub.Service
  /-- The n-th reading of the clocks. -/
  clock : Nat → Moment
  /-- The name of the next session. -/
  sessionName : String
  defaults : InvocationDefaults := {}

/-- What an execution yields. -/
structure Execution where
  exitCode : Nat
  lines : List String := []
  files : Filespace

/-- The path of a database that is not kept. -/
def transientPath : String := ":memory:"

/-- Opens the database at a path. Its place is absent when it is not kept. -/
def openNamed (files : Filespace) (path : String) :
    Except StoreError (Option Place × Database) × Filespace :=
  if path = transientPath then
    (DatabaseFile.empty.openDatabase.map fun db => (none, db), files)
  else
    let (opened, files) := files.openStore path
    (opened.map fun (place, db) => (some place, db), files)

/-- The files with the new content of a database that is kept. -/
def Filespace.keep (files : Filespace) (place : Option Place) (db : Database) : Filespace :=
  match place with
  | some place => files.save place db
  | none => files

/-- Owner and name of a repository: the parts before and after the first slash, neither of them
empty. -/
def ownerAndName? (fullName : String) : Option (String × String) :=
  let cs := fullName.toList
  let owner := cs.takeWhile (· != '/')
  match cs.drop owner.length with
  | [] => none
  | _ :: name =>
    if owner.isEmpty || name.isEmpty then none
    else some (String.ofList owner, String.ofList name)

/-- Registers a repository. -/
def register (files : Filespace) (database fullName : String) (pollingInterval : UInt32)
    (priority : Int32) : Execution :=
  match ownerAndName? fullName with
  | none => { exitCode := 2, files }
  | some (owner, name) =>
    match openNamed files database with
    | (.error _, files) => { exitCode := 2, files }
    | (.ok (place, db), files) =>
      match db.insertRepository { owner, name, pollingInterval, priority } with
      | .error _ => { exitCode := 2, files }
      | .ok (id, db) =>
        { exitCode := 0
          lines := ["Registered " ++ fullName ++ " with id " ++ toString id]
          files := files.keep place db }

/-- The token can be sent to the service: it holds blanks and printable ASCII characters only. -/
def isSendable (token : String) : Bool :=
  token.toList.all fun c => c == '\t' || (32 ≤ c.toNat && c.toNat < 127)

/-- The configuration at a path, or the default one. -/
def namedConfiguration (files : Filespace) :
    Option String → Except ConfigurationError Configuration
  | some path => Configuration.load (files.read? path)
  | none => .ok {}

/-- The exit code of a processor that cannot be built. Limits that are too large break the program
off. -/
def ProcessorError.exitCode : ProcessorError → Nat
  | limitTooLarge _ => 101
  | _ => 2

/-- The exit code of a session that came to its end. -/
def Batch.exitCode (b : Batch) : Nat :=
  if b.failures.isEmpty && b.session.problems.isEmpty then 0 else 1

/-- Runs a session and prints its summary, also when it failed after it had started. -/
def runCommand (circumstances : Circumstances) (files : Filespace) (database token : String)
    (config : Option String) (mode : Mode) (ids : List Int) : Execution :=
  match namedConfiguration files config with
  | .error _ => { exitCode := 2, files }
  | .ok config =>
    if !isSendable token then { exitCode := 2, files }
    else
      match openNamed files database with
      | (.error _, files) => { exitCode := 2, files }
      | (.ok (place, db), files) =>
        match Processor.create config with
        | .error e => { exitCode := e.exitCode, files }
        | .ok processor =>
          let env : Surroundings :=
            { service := circumstances.service, clock := circumstances.clock }
          let outcome :=
            processor.processAll env db (if ids.isEmpty then none else some ids) mode
          let files := files.keep place outcome.db
          let summary (b : Batch) : List String :=
            b.summary circumstances.sessionName (circumstances.clock 0).time
          match outcome.result with
          | .ok batch => { exitCode := batch.exitCode, lines := summary batch, files }
          | .error e =>
            { exitCode := 2, lines := (e.gathered?.map summary).getD [], files }

/-- The execution of the invocation that words express. -/
def execute (circumstances : Circumstances) (files : Filespace) (words : List String) :
    Execution :=
  match Invocation.ofWords circumstances.defaults words with
  | .error .misuse => { exitCode := 2, files }
  | .error (.help topic) => { exitCode := 0, lines := topic.lines, files }
  | .error .version => { exitCode := 0, lines := [versionLine], files }
  | .ok invocation =>
    match invocation.command with
    | .run token config mode ids =>
      runCommand circumstances files invocation.database token config mode ids
    | .add fullName pollingInterval priority =>
      register files invocation.database fullName pollingInterval priority

end PullWatch
