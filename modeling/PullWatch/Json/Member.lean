import PullWatch.Json.Record

/-!
# Single members of an object

Where the fields of an object are independent of one another, each is read by its name. A field that
is absent or null has a default.

## Main definitions

* `Json.integer`, `Json.natural`, `Json.oneOf`: further decoders.
* `Json.member`, `Json.member?`, `Json.memberOr`: a field by its name.
-/

namespace PullWatch.Json

/-- An integer. -/
def integer : Decoder Int
  | int n => .ok n
  | v => .error (.invalidType v.found "an integer")

/-- A natural number. -/
def natural : Decoder Nat := fun v => do
  let n ← integer v
  if 0 ≤ n then .ok n.toNat else .error (.invalidValue (.int n) "a natural number")

/-- One of several values under its name. -/
def oneOf {α : Type} (all : List α) (name : α → String) : Decoder α := fun v => do
  let s ← text v
  match all.find? fun x => name x == s with
  | some x => .ok x
  | none => .error (.unknownVariant s (all.map name))

/-- The names and values of an object. -/
def entries : Decoder (List (String × Json))
  | obj members => .ok members
  | v => .error (.invalidType v.found "a map")

/-- A field that may be absent or null. -/
def member? {α : Type} (v : Json) (name : String) (decode : Decoder α) :
    Except Misfit (Option α) :=
  match v.get? name with
  | none => .ok none
  | some x => nullable decode x

/-- A field with a default. -/
def memberOr {α : Type} (v : Json) (name : String) (decode : Decoder α) (default : α) :
    Except Misfit α :=
  (member? v name decode).map fun x => x.getD default

/-- A field that has to be there. -/
def member {α : Type} (v : Json) (name : String) (decode : Decoder α) : Except Misfit α := do
  match ← member? v name decode with
  | some x => .ok x
  | none => .error (.missingField name)

end PullWatch.Json
