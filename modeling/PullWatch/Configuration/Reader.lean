import PullWatch.Configuration
import PullWatch.Misfit
import PullWatch.Toml.Reader

/-!
# Reading the configuration

A configuration is a TOML document whose root table names settings; settings that it does not name
have their defaults. The names are visited in ascending order, and the first that is unknown or has
a value that does not fit is reported. Only then is it checked that the settings fit together.

## Main definitions

* `SettingFault`, `SettingFault.message`: why a document is no configuration.
* `settings`: the names of the settings and how their values are read.
* `Configuration.ofEntries`: the configuration that a root table describes.
* `Configuration.parse`: the usable configuration that a document describes.
-/

namespace PullWatch

/-- Why a document is no configuration. -/
inductive SettingFault where
  | misfit (misfit : Misfit)
  /-- An integer needs more than 128 bits. -/
  | integerTooLarge
  | floatTooLarge
  /-- A name from a fixed list is neither a text nor a table. -/
  | notNamed
  /-- A table in the place of a name is empty. -/
  | noName
  /-- A table in the place of a name has several entries. -/
  | severalNames
  /-- A name comes with an array that has items. -/
  | filledArray
  /-- A name comes with a table that has entries. -/
  | filledTable
  /-- A name comes with a value of this kind. -/
  | notTable (kind : String)
  deriving DecidableEq, Repr

/-- The wording of a fault. -/
def SettingFault.message : SettingFault → String
  | misfit m => m.message
  | integerTooLarge => "integer number overflowed"
  | floatTooLarge => "floating-point number overflowed"
  | notNamed => "wanted string or table"
  | noName => "wanted exactly 1 element, found 0 elements"
  | severalNames => "wanted exactly 1 element, more than 1 element"
  | filledArray => "expected empty array"
  | filledTable => "expected empty table"
  | notTable kind => "expected table, found " ++ kind

namespace Setting

/-- Floating-point numbers are named without an exponent. -/
def floatStyle : Binary64.FloatStyle :=
  { leastPositional := -400, greatestPositional := 400, exponentDigits := 1 }

/-- The number of values of 128 bits. -/
def longSize : Int := UInt64.size * UInt64.size

/-- The fault of an integer of more than 64 bits. -/
def wideFault (n : Int) (expected : String) : SettingFault :=
  if -(longSize / 2) ≤ n ∧ n < longSize / 2 then .misfit (.invalidType (.wideInt n "i128") expected)
  else if 0 ≤ n ∧ n < longSize then .misfit (.invalidType (.wideInt n "u128") expected)
  else .integerTooLarge

/-- The integer has 64 bits, with or without a sign. -/
def isWord (n : Int) : Bool := -(UInt64.size / 2 : Int) ≤ n ∧ n < UInt64.size

/-- The fault of a value in the place of something else. -/
def misplaced (v : Toml) (expected : String) : SettingFault :=
  let found (f : Found) : SettingFault := .misfit (.invalidType f expected)
  match v with
  | .text s => found (.text s)
  | .integer n => if isWord n then found (.int n) else wideFault n expected
  | .float (some x) => found (.float (x.text floatStyle))
  | .float none => .floatTooLarge
  | .flag b => found (.bool b)
  | .moment _ | .inline _ | .table .. => found .map
  | .array _ | .tables _ => found .sequence

/-- A natural number below a limit; `format` names its range. -/
def natural (format : String) (limit : Nat) : Toml → Except SettingFault Nat
  | .integer n =>
    if 0 ≤ n ∧ n < limit then .ok n.toNat
    else if isWord n then .error (.misfit (.invalidValue (.int n) format))
    else .error (wideFault n format)
  | v => .error (misplaced v format)

/-- A size. -/
def size : Toml → Except SettingFault Nat := natural "usize" UInt64.size

/-- A number of 64 bits. -/
def long : Toml → Except SettingFault Nat := natural "u64" UInt64.size

/-- A number of 32 bits. -/
def short : Toml → Except SettingFault Nat := natural "u32" UInt32.size

/-- A truth value. -/
def flag : Toml → Except SettingFault Bool
  | .flag b => .ok b
  | v => .error (misplaced v "a boolean")

/-- The state of a name. Unlike stored names, a setting has no other name for open pull requests. -/
def stateNamed (name : String) : Except SettingFault PullState :=
  match PullState.all.find? fun s => s.name == name with
  | some s => .ok s
  | none => .error (.misfit (.unknownVariant name (PullState.all.map PullState.name)))

/-- A name may come with an empty array or an empty table, and with nothing else. -/
def bare : Toml → Except SettingFault Unit
  | .array [] | .tables [] | .inline [] | .table _ [] => .ok ()
  | .array _ | .tables _ => .error .filledArray
  | .inline _ | .table .. => .error .filledTable
  | .text _ => .error (.notTable "string")
  | .integer _ => .error (.notTable "integer")
  | .float _ => .error (.notTable "float")
  | .flag _ => .error (.notTable "boolean")
  | .moment _ => .error (.notTable "datetime")

/-- The state that the only entry of a table names. -/
def stateOfEntries : Toml.Entries → Except SettingFault PullState
  | [] => .error .noName
  | [(name, v)] => do
    let state ← stateNamed name
    bare v
    .ok state
  | _ => .error .severalNames

/-- A state of pull requests. -/
def state : Toml → Except SettingFault PullState
  | .text name => stateNamed name
  | .inline entries | .table _ entries => stateOfEntries entries
  | _ => .error .notNamed

/-- A list of states. -/
def states : Toml → Except SettingFault (List PullState)
  | .array items => items.mapM state
  | .tables items => items.mapM stateOfEntries
  | v => .error (misplaced v "a sequence")

end Setting

/-- The name of a setting and how its value is read into a configuration. -/
structure Setting where
  name : String
  read : Toml → Configuration → Except SettingFault Configuration

/-- The settings, in the order in which messages list them. -/
def settings : List Setting :=
  [{ name := "max-concurrent-repos"
     read := fun v c => (Setting.size v).map fun n => { c with maxConcurrentRepos := n } },
   { name := "max-concurrent-api-calls"
     read := fun v c => (Setting.size v).map fun n => { c with maxConcurrentApiCalls := n } },
   { name := "max-concurrent-check-discoveries"
     read := fun v c =>
      (Setting.size v).map fun n => { c with maxConcurrentCheckDiscoveries := n } },
   { name := "batch-size"
     read := fun v c => (Setting.size v).map fun n => { c with batchSize := n } },
   { name := "sync-chunk-size"
     read := fun v c => (Setting.size v).map fun n => { c with syncChunkSize := n } },
   { name := "pr-states"
     read := fun v c => (Setting.states v).map fun s => { c with pullStates := s } },
   { name := "inter-batch-delay-ms"
     read := fun v c => (Setting.long v).map fun n => { c with interBatchDelay := n } },
   { name := "session-timeout-secs"
     read := fun v c => (Setting.long v).map fun n => { c with sessionTimeout := n } },
   { name := "memory-limit-mb"
     read := fun v c => (Setting.long v).map fun n => { c with memoryLimit := n } },
   { name := "resource-sample-interval-ms"
     read := fun v c => (Setting.long v).map fun n => { c with resourceSampleInterval := n } },
   { name := "cache-ttl-secs"
     read := fun v c => (Setting.long v).map fun n => { c with cacheLifetime := n } },
   { name := "max-pages-per-query"
     read := fun v c => (Setting.short v).map fun n => { c with maxPagesPerQuery := n } },
   { name := "stop-on-first-error"
     read := fun v c => (Setting.flag v).map fun b => { c with stopOnFirstError := b } }]

/-- Why a text is no usable configuration. -/
inductive ConfigurationError where
  /-- The file cannot be read. -/
  | unreadable
  /-- The text is no TOML document. -/
  | notToml
  | setting (fault : SettingFault)
  | unusable (fault : ConfigurationFault)
  deriving DecidableEq, Repr

namespace Configuration

/-- The configuration with one setting from a document. -/
def apply (c : Configuration) (entry : String × Toml) : Except SettingFault Configuration :=
  match settings.find? fun s => s.name == entry.1 with
  | some s => s.read entry.2 c
  | none => .error (.misfit (.unknownField entry.1 (settings.map (·.name))))

/-- The configuration that a root table describes. -/
def ofEntries (base : Configuration) (entries : Toml.Entries) :
    Except SettingFault Configuration :=
  (entries.mergeSort fun a b => decide (a.1 ≤ b.1)).foldlM apply base

/-- The configuration that a document describes, if it is usable. -/
def parse (document : String) : Except ConfigurationError Configuration :=
  match Toml.parse? document with
  | none => .error .notToml
  | some entries =>
    match ofEntries {} entries with
    | .error fault => .error (.setting fault)
    | .ok c =>
      match c.validate with
      | .error fault => .error (.unusable fault)
      | .ok () => .ok c

/-- The usable configuration in a file; its text is absent when it cannot be read. -/
def load (document : Option String) : Except ConfigurationError Configuration :=
  match document with
  | none => .error .unreadable
  | some text => parse text

end Configuration

end PullWatch
