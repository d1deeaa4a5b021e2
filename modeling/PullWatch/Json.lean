import PullWatch.Number.Binary64

/-!
# JSON values

A JSON value keeps integers exactly and every other number as a 64-bit floating-point number. The
members of an object have distinct names in ascending order of code points, whatever the order in
which they were written.

## Main definitions

* `Json`: the values.
* `Json.insertMember`, `Json.object`: objects with their members in order.
* `Json.get?`: a member of an object by name.
-/

namespace PullWatch

/-- A JSON value. -/
inductive Json where
  | null
  | bool (value : Bool)
  | int (value : Int)
  | float (value : Binary64)
  | str (value : String)
  | arr (items : List Json)
  | obj (members : List (String × Json))
  deriving Inhabited

namespace Json

/-- Adds a member at its place; a member of the same name is replaced. -/
def insertMember (name : String) (value : Json) : List (String × Json) → List (String × Json)
  | [] => [(name, value)]
  | (other, old) :: rest =>
    if name < other then (name, value) :: (other, old) :: rest
    else if name = other then (name, value) :: rest
    else (other, old) :: insertMember name value rest

/-- The members in order; of several with one name the last counts. -/
def sortMembers (members : List (String × Json)) : List (String × Json) :=
  members.foldl (fun sorted m => insertMember m.1 m.2 sorted) []

/-- The object with given members. -/
def object (members : List (String × Json)) : Json := obj (sortMembers members)

/-- A member of an object; absent for another value. -/
def get? (name : String) : Json → Option Json
  | obj members => (members.find? fun m => m.1 == name).map (·.2)
  | _ => none

/-- The array of the values of a list. -/
def list {α : Type} (f : α → Json) (xs : List α) : Json := arr (xs.map f)

/-- A value that may be absent. -/
def optional {α : Type} (f : α → Json) : Option α → Json
  | some x => f x
  | none => null

/-- A natural number. -/
def nat (n : Nat) : Json := int n

end Json

end PullWatch
