import PullWatch.Instant.Reader
import PullWatch.Text.Quoted

/-!
# Why a value does not fit a record

Payloads and configuration texts arrive as trees of untyped values. `Misfit` names the reason why
such a tree is not the record it should be, and `Misfit.message` words it.
-/

namespace PullWatch

/-- What stands in the place of the expected value. Floating-point numbers come with their written
form, since formats write them differently. -/
inductive Found where
  | null
  | bool (value : Bool)
  | int (value : Int)
  /-- An integer of more than 64 bits, with the name of the narrowest format that holds it. -/
  | wideInt (value : Int) (format : String)
  | float (written : String)
  | text (value : String)
  | sequence
  | map
  deriving DecidableEq, Repr

/-- The wording of what was found. -/
def Found.description : Found → String
  | null => "null"
  | bool true => "boolean `true`"
  | bool false => "boolean `false`"
  | int n => "integer `" ++ toString n ++ "`"
  | wideInt n format => "integer `" ++ toString n ++ "` as " ++ format
  | float written => "floating point `" ++ written ++ "`"
  | text s => "string " ++ Text.quote s
  | sequence => "sequence"
  | map => "map"

/-- Why a value does not fit. -/
inductive Misfit where
  /-- A value of another kind stands there. -/
  | invalidType (found : Found) (expected : String)
  /-- The kind is right and the value is out of range. -/
  | invalidValue (found : Found) (expected : String)
  /-- A sequence has the wrong number of items. -/
  | invalidLength (length : Nat) (expected : String)
  /-- A required field is absent. -/
  | missingField (name : String)
  /-- A field has a name that the record does not know. -/
  | unknownField (name : String) (known : List String)
  /-- A name is none of those of an enumeration. -/
  | unknownVariant (name : String) (known : List String)
  /-- A text is no time. -/
  | badTime (fault : TimeFault)
  deriving DecidableEq, Repr

namespace Misfit

/-- A name between backticks. -/
def ticked (name : String) : String := "`" ++ name ++ "`"

/-- The known names, as a message lists them. -/
def alternatives : List String → String
  | [] => "nothing"
  | [a] => ticked a
  | [a, b] => ticked a ++ " or " ++ ticked b
  | names => "one of " ++ String.intercalate ", " (names.map ticked)

/-- The wording of a misfit. -/
def message : Misfit → String
  | invalidType found expected =>
    "invalid type: " ++ found.description ++ ", expected " ++ expected
  | invalidValue found expected =>
    "invalid value: " ++ found.description ++ ", expected " ++ expected
  | invalidLength n expected => "invalid length " ++ toString n ++ ", expected " ++ expected
  | missingField name => "missing field " ++ ticked name
  | unknownField name known =>
    "unknown field " ++ ticked name ++ ", expected " ++ alternatives known
  | unknownVariant name known =>
    "unknown variant " ++ ticked name ++ ", expected " ++ alternatives known
  | badTime fault => fault.message

end Misfit

end PullWatch
