import PullWatch.Number.Binary64

/-!
# TOML documents

A document is a table of named values. Tables arise from headers, from longer headers that pass
through them, and from dotted keys; how a table arose decides where it may be extended. No name is
given twice, so of two statements that give one name the second is refused.

## Main definitions

* `Toml`: the values.
* `Toml.assign?`: the root table after a key has been given a value.
* `Toml.openTable?`, `Toml.openItem?`: the root table after a header.
-/

namespace PullWatch

/-- How a table arose. -/
inductive TableOrigin where
  /-- From a header of its own, or as the root. -/
  | header
  /-- From a longer header that passes through it. -/
  | passage
  /-- From a dotted key. -/
  | dotted
  deriving DecidableEq, Repr

/-- A value of a document. -/
inductive Toml where
  | text (value : String)
  | integer (value : Int)
  /-- A floating-point number; absent when the literal is too large. -/
  | float (value : Option Binary64)
  | flag (value : Bool)
  /-- A date, a time of day or both, as written. -/
  | moment (written : String)
  | array (items : List Toml)
  /-- A table written as a value, which is complete. -/
  | inline (entries : List (String × Toml))
  | table (origin : TableOrigin) (entries : List (String × Toml))
  /-- The tables of headers in double brackets. -/
  | tables (items : List (List (String × Toml)))
  deriving Inhabited

namespace Toml

/-- The entries of a table, in order of appearance. -/
abbrev Entries := List (String × Toml)

/-- A table with its origin. -/
abbrev Body := TableOrigin × Entries

/-- The value of a name. -/
def get? (entries : Entries) (name : String) : Option Toml :=
  (entries.find? fun e => e.1 == name).map (·.2)

/-- Gives a name a value: in the place of its old one, or at the end. -/
def set (entries : Entries) (name : String) (value : Toml) : Entries :=
  if entries.any fun e => e.1 == name then
    entries.map fun e => if e.1 == name then (name, value) else e
  else entries ++ [(name, value)]

/-- A step from a table to one inside it. -/
structure Step where
  name : String
  /-- The step is part of a dotted key and not of a header. -/
  isDotted : Bool

/-- Changes the table at the end of a path; tables that are not there yet are made on the way. A
header reaches the last of several tables of one name. A dotted key does not pass through a table
with a header of its own. -/
def changeAt? (change : Body → Option Body) : List Step → Body → Option Body
  | [], body => change body
  | step :: path, (origin, entries) =>
    match get? entries step.name with
    | none => do
      let made := if step.isDotted then TableOrigin.dotted else .passage
      let (o, es) ← changeAt? change path (made, [])
      some (origin, set entries step.name (table o es))
    | some (table made inner) =>
      if step.isDotted && made == .header then none
      else do
        let (o, es) ← changeAt? change path (made, inner)
        some (origin, set entries step.name (table o es))
    | some (tables items) =>
      match items.getLast? with
      | none => none
      | some last =>
        if step.isDotted then none
        else do
          let (_, es) ← changeAt? change path (.header, last)
          some (origin, set entries step.name (tables (items.dropLast ++ [es])))
    | some _ => none

/-- The steps of a header. -/
def headerSteps (path : List String) : List Step := path.map fun name => ⟨name, false⟩

/-- The steps of a dotted key but its last name. -/
def dottedSteps (path : List String) : List Step := path.map fun name => ⟨name, true⟩

/-- The root table after a key under a header has been given a value. A dotted key ends in a table
that arose from dotted keys, and any other key in one that did not. -/
def assign? (header path : List String) (name : String) (value : Toml) (root : Entries) :
    Option Entries := do
  let change : Body → Option Body := fun (origin, entries) =>
    if (origin == .dotted) == path.isEmpty then none
    else if (get? entries name).isSome then none
    else some (origin, entries ++ [(name, value)])
  let (_, root) ← changeAt? change (headerSteps header ++ dottedSteps path) (.header, root)
  some root

/-- The root table after a header in single brackets. A table that longer headers have passed
through gets its own header now; any other value of that name is in the way. -/
def openTable? (path : List String) (name : String) (root : Entries) : Option Entries := do
  let change : Body → Option Body := fun (origin, entries) =>
    match get? entries name with
    | none => some (origin, entries ++ [(name, table .header [])])
    | some (table .passage inner) => some (origin, set entries name (table .header inner))
    | some _ => none
  let (_, root) ← changeAt? change (headerSteps path) (.header, root)
  some root

/-- The root table after a header in double brackets: one more table of that name. -/
def openItem? (path : List String) (name : String) (root : Entries) : Option Entries := do
  let change : Body → Option Body := fun (origin, entries) =>
    match get? entries name with
    | none => some (origin, entries ++ [(name, tables [[]])])
    | some (tables items) => some (origin, set entries name (tables (items ++ [[]])))
    | some _ => none
  let (_, root) ← changeAt? change (headerSteps path) (.header, root)
  some root

end Toml

end PullWatch
