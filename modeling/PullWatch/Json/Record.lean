import PullWatch.Json.Printer
import PullWatch.Misfit

/-!
# Records in JSON

A record is written as an object, or as an array of its fields in their declared order. The members
of an object are checked in ascending order of their names and the first that does not fit is
reported; members that the record does not know are passed over. Only then are absent fields
reported, in declared order.

## Main definitions

* `Json.Decoder`: reads a value of a type, and `Json.text`, `Json.word`, `Json.time` and others.
* `Json.RecordShape`, `Json.RecordShape.members`: the fields of a record, and the checked members
  of a value.
* `Json.required`, `Json.optional?`: a field of checked members.
-/

namespace PullWatch.Json

/-- A JSON value as a message names it. -/
def found : Json → Found
  | null => .null
  | bool b => .bool b
  | int n => .int n
  | float x => .float (x.text floatStyle)
  | str s => .text s
  | arr _ => .sequence
  | obj _ => .map

/-- Reads a value of a type, or tells why it does not fit. -/
abbrev Decoder (α : Type) := Json → Except Misfit α

/-- A text. -/
def text : Decoder String
  | str s => .ok s
  | v => .error (.invalidType v.found "a string")

/-- A truth value. -/
def flag : Decoder Bool
  | bool b => .ok b
  | v => .error (.invalidType v.found "a boolean")

/-- A natural number of 64 bits. -/
def word : Decoder UInt64
  | int n =>
    if 0 ≤ n then .ok (UInt64.ofNat n.toNat) else .error (.invalidValue (.int n) "u64")
  | v => .error (.invalidType v.found "u64")

/-- A time in loose form. -/
def time : Decoder Instant
  | str s =>
    match Instant.parseLoose s with
    | .ok t => .ok t
    | .error fault => .error (.badTime fault)
  | v => .error (.invalidType v.found "an RFC 3339 formatted date and time string")

/-- A value that may be null. -/
def nullable {α : Type} (decode : Decoder α) : Decoder (Option α)
  | null => .ok none
  | v => (decode v).map some

/-- A list of values. -/
def sequence {α : Type} (decode : Decoder α) : Decoder (List α)
  | arr items => items.mapM decode
  | v => .error (.invalidType v.found "a sequence")

/-- Whether a value fits, without the result. -/
def fits {α : Type} (decode : Decoder α) : Json → Except Misfit Unit :=
  fun v => (decode v).map fun _ => ()

/-- The name of a record and its fields in declared order, each with the check of its value. -/
structure RecordShape where
  name : String
  fields : List (String × (Json → Except Misfit Unit))

namespace RecordShape

/-- What a message says is expected in place of the record. -/
def expected (shape : RecordShape) : String := "struct " ++ shape.name

/-- What a message says is expected in place of an array that is too short. -/
def expectedLength (shape : RecordShape) : String :=
  shape.expected ++ " with " ++ toString shape.fields.length
    ++ (if shape.fields.length = 1 then " element" else " elements")

/-- Checks a member under its name; an unknown name is passed over. -/
def checkMember (shape : RecordShape) (m : String × Json) : Except Misfit Unit :=
  match shape.fields.find? fun f => f.1 == m.1 with
  | some f => f.2 m.2
  | none => .ok ()

/-- The members of a value that has the shape of the record: its own, or the items of an array under
the declared names. -/
def members (shape : RecordShape) : Decoder (List (String × Json))
  | obj ms => do
    ms.forM shape.checkMember
    .ok ms
  | arr items => do
    let ms := (shape.fields.map (·.1)).zip items
    ms.forM shape.checkMember
    if items.length < shape.fields.length then
      .error (.invalidLength items.length shape.expectedLength)
    else if shape.fields.length < items.length then
      .error (.invalidLength items.length "fewer elements in array")
    else .ok ms
  | v => .error (.invalidType v.found shape.expected)

end RecordShape

/-- The value of a name among members. -/
def lookup (ms : List (String × Json)) (name : String) : Option Json :=
  (ms.find? fun m => m.1 == name).map (·.2)

/-- A field that has to be present. -/
def required {α : Type} (ms : List (String × Json)) (name : String) (decode : Decoder α) :
    Except Misfit α :=
  match lookup ms name with
  | some v => decode v
  | none => .error (.missingField name)

/-- A field that may be absent or null. -/
def optional? {α : Type} (ms : List (String × Json)) (name : String) (decode : Decoder α) :
    Except Misfit (Option α) :=
  match lookup ms name with
  | some v => nullable decode v
  | none => .ok none

end PullWatch.Json
