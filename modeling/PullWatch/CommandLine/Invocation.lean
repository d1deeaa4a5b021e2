import PullWatch.PullRequest
import PullWatch.Session.Phase
import PullWatch.Text.Digits

/-!
# Invocations

The program is invoked with the path of a database, a command, and the options of the command. An
option is written in one word, with an equals sign before its value, or in two. A word that begins
with a hyphen is never the value of the option before it, except for a lone hyphen. Two hyphens end
the options.

## Main definitions

* `Command`, `Invocation`: what the program is asked to do.
* `Interruption`: a misuse, or a request for help or for the version.
* `InvocationDefaults`: what the environment supplies.
* `Invocation.ofWords`: the invocation that words express.
-/

namespace PullWatch

/-- What the program is asked to do. -/
inductive Command where
  /-- Run one session, over the repositories of the given ids if there are any. -/
  | run (token : String) (config : Option String) (mode : Mode) (ids : List Int)
  /-- Register a repository. -/
  | add (fullName : String) (pollingInterval : UInt32) (priority : Int32)
  deriving DecidableEq, Repr

/-- What an invocation takes from its environment where no option tells. -/
structure InvocationDefaults where
  database : String := "pr-monitor.db"
  token : Option String := none

/-- A command and the database that it works on. -/
structure Invocation where
  database : String
  command : Command
  deriving DecidableEq, Repr

/-- What help is about. -/
inductive HelpTopic where
  | program
  | run
  | add
  deriving DecidableEq, Repr

/-- Why words are no invocation. -/
inductive Interruption where
  | misuse
  | help (topic : HelpTopic)
  | version
  deriving DecidableEq, Repr

/-- One word of an invocation. -/
inductive Word where
  /-- An option with a long name, and its value if that is written in the same word. -/
  | option (name : String) (value : Option String)
  /-- Options of one letter each. -/
  | letters (cs : List Char)
  /-- Two hyphens. -/
  | endOfOptions
  | plain (text : String)
  deriving DecidableEq, Repr

namespace Word

/-- The kind of a word. -/
def ofString (s : String) : Word :=
  match s.toList with
  | ['-', '-'] => endOfOptions
  | '-' :: '-' :: cs =>
    let name := cs.takeWhile (· != '=')
    match cs.drop name.length with
    | _ :: value => option (String.ofList name) (some (String.ofList value))
    | [] => option (String.ofList name) none
  | ['-'] => plain s
  | '-' :: cs => letters cs
  | _ => plain s

/-- The word can be the value of the option before it. -/
def isValue : Word → Bool
  | plain _ => true
  | option .. | letters _ | endOfOptions => false

end Word

/-! ### Values -/

/-- A whole number between two bounds. It may have a sign. -/
def numberBetween? (low high : Int) (s : String) : Option Int :=
  let (isNegative, ds) : Bool × List Char :=
    match s.toList with
    | '+' :: ds => (false, ds)
    | '-' :: ds => (true, ds)
    | ds => (false, ds)
  if ds.isEmpty || !ds.all Char.isDigit then none
  else
    let magnitude := Digits.value ds
    let n : Int := if isNegative then -(magnitude : Int) else magnitude
    if low ≤ n ∧ n ≤ high then some n else none

/-- A whole number of one of `size` values, half of them negative. -/
def signed? (size : Nat) (s : String) : Option Int :=
  numberBetween? (-(size / 2 : Nat)) (size / 2 - 1 : Nat) s

/-- A path, which is not empty. -/
def path? (s : String) : Option String := if s = "" then none else some s

/-- The name of a mode on the command line. -/
def Mode.word : Mode → String
  | full => "full"
  | incremental => "incremental"
  | dryRun => "dry-run"

/-- The mode of a name. -/
def mode? (s : String) : Option Mode := Mode.all.find? fun m => m.word == s

/-- Sets a field that has not been set before. -/
def setOnce {α : Type} (old : Option α) (value : Option α) : Option (Option α) :=
  match old, value with
  | none, some x => some (some x)
  | _, _ => none

/-! ### Reading words -/

/-- What a command reads into a state: its options, and what it does with plain words. -/
structure Grammar (σ : Type) where
  topic : HelpTopic
  options : List (String × (String → σ → Option σ))
  plain : String → σ → Option σ

/-- A step that may not be possible. -/
def orMisuse {α : Type} : Option α → Except Interruption α
  | some x => .ok x
  | none => .error .misuse

namespace Grammar

variable {σ : Type}

/-- Reads the value of an option. -/
def setOption (g : Grammar σ) (name value : String) (s : σ) : Except Interruption σ :=
  orMisuse do
    let o ← g.options.find? fun o => o.1 == name
    o.2 value s

/-- Reads words from left to right. -/
def read (g : Grammar σ) : Bool → List String → σ → Except Interruption σ
  | _, [], s => .ok s
  | true, w :: ws, s => do
    let s ← orMisuse (g.plain w s)
    read g true ws s
  | false, w :: ws, s =>
    match Word.ofString w with
    | .endOfOptions => read g true ws s
    | .letters ('h' :: _) | .option "help" none => .error (.help g.topic)
    | .letters _ => .error .misuse
    | .plain text => do
      let s ← orMisuse (g.plain text s)
      read g false ws s
    | .option name (some value) => do
      let s ← g.setOption name value s
      read g false ws s
    | .option name none =>
      match ws with
      | [] => .error .misuse
      | v :: ws =>
        if (Word.ofString v).isValue then do
          let s ← g.setOption name v s
          read g false ws s
        else .error .misuse

end Grammar

/-! ### The commands -/

/-- The options of `run` as far as they have been read. -/
structure RunWords where
  token : Option String := none
  config : Option String := none
  mode : Option Mode := none
  ids : List Int := []

/-- The words of `run`. -/
def runGrammar : Grammar RunWords :=
  { topic := .run
    options :=
      [("token", fun v s => (setOnce s.token (some v)).map fun x => { s with token := x }),
       ("config", fun v s => (setOnce s.config (path? v)).map fun x => { s with config := x }),
       ("mode", fun v s => (setOnce s.mode (mode? v)).map fun x => { s with mode := x }),
       ("repository", fun v s =>
        (signed? UInt64.size v).map fun n => { s with ids := s.ids ++ [n] })]
    plain := fun _ _ => none }

/-- The options of `add` as far as they have been read. -/
structure AddWords where
  fullName : Option String := none
  pollingInterval : Option UInt32 := none
  priority : Option Int32 := none

/-- The words of `add`. -/
def addGrammar : Grammar AddWords :=
  { topic := .add
    options :=
      [("polling-interval", fun v s =>
        let value := (numberBetween? 0 (UInt32.size - 1) v).map fun n => UInt32.ofNat n.toNat
        (setOnce s.pollingInterval value).map fun x => { s with pollingInterval := x }),
       ("priority", fun v s =>
        let value := (signed? UInt32.size v).map Int32.ofInt
        (setOnce s.priority value).map fun x => { s with priority := x })]
    plain := fun v s => (setOnce s.fullName (some v)).map fun x => { s with fullName := x } }

namespace Command

/-- The command that words after its name express. -/
def ofWords (defaults : InvocationDefaults) (name : String) (words : List String) :
    Except Interruption Command :=
  if name = "run" then do
    let s ← runGrammar.read false words {}
    let token ← orMisuse (s.token.or defaults.token)
    .ok (run token s.config (s.mode.getD .incremental) s.ids)
  else if name = "add" then do
    let s ← addGrammar.read false words {}
    let fullName ← orMisuse s.fullName
    .ok (add fullName (s.pollingInterval.getD 15) (s.priority.getD 0))
  else if name = "help" then
    match words with
    | [] => .error (.help .program)
    | ["run"] => .error (.help .run)
    | ["add"] => .error (.help .add)
    | _ => .error .misuse
  else .error .misuse

end Command

namespace Invocation

/-- Reads words up to the command, and then the command. -/
def read (defaults : InvocationDefaults) :
    List String → Option String → Except Interruption Invocation
  | [], _ => .error .misuse
  | w :: ws, database =>
    match Word.ofString w with
    | .letters ('h' :: _) | .option "help" none => .error (.help .program)
    | .letters ('V' :: _) | .option "version" none => .error .version
    | .letters _ | .endOfOptions => .error .misuse
    | .plain name => do
      let command ← Command.ofWords defaults name ws
      .ok { database := database.getD defaults.database, command }
    | .option "database" (some value) => do
      let database ← orMisuse (setOnce database (path? value))
      read defaults ws database
    | .option "database" none =>
      match ws with
      | [] => .error .misuse
      | v :: ws =>
        if (Word.ofString v).isValue then do
          let database ← orMisuse (setOnce database (path? v))
          read defaults ws database
        else .error .misuse
    | .option _ _ => .error .misuse

/-- The invocation that words express. -/
def ofWords (defaults : InvocationDefaults) (words : List String) :
    Except Interruption Invocation :=
  read defaults words none

/-- The paths of the files that an invocation reads. -/
def paths (i : Invocation) : List String :=
  match i.command with
  | .run _ config _ _ => i.database :: config.toList
  | .add .. => [i.database]

end Invocation

end PullWatch
