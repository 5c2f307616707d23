import TriggerLedger.Binary64.Shortest
import TriggerLedger.Text.Inspect
/-!
# Faults found when decoding
-/

namespace TriggerLedger.Json

/-- What stands where something else is expected. -/
inductive Found where
  | null
  | bool (value : Bool)
  | integer (value : Int)
  | real (value : Binary64)
  | string (value : String)
  | array
  | object
  /-- The bare name of an alternative that needs a payload. -/
  | bareName
  deriving DecidableEq

/-- Why a JSON text does not decode. -/
inductive DecodeError where
  /-- The text is not JSON, or a literal in it has no acceptable value. -/
  | malformed
  | missingField (name : String)
  | duplicateField (name : String)
  /-- A name that is none of the known alternatives. -/
  | unknownName (name : String) (known : List String)
  | wrongKind (found : Found) (expected : String)
  /-- An integer outside the range of its width. -/
  | outOfRange (value : Int) (expected : String)
  /-- A list in place of a record with the wrong number of items. -/
  | wrongLength (length : Nat) (expected : String)
  deriving DecidableEq

/-- The description of what was found. -/
def Found.describe : Found → String
  | .null => "null"
  | .bool value => s!"boolean `{value}`"
  | .integer value => s!"integer `{value}`"
  | .real value => "floating point `" ++ String.ofList value.render ++ "`"
  | .string value => "string " ++ Text.inspect value
  | .array => "sequence"
  | .object => "map"
  | .bareName => "unit variant"

namespace DecodeError

/-- A name as messages quote it. -/
def quoteName (name : String) : String := "`" ++ name ++ "`"

/-- The names that would have been accepted: one, either of two, or one of several. -/
def describeKnown : List String → String
  | [] => "there are no variants"
  | [only] => "expected " ++ quoteName only
  | [first, second] => "expected " ++ quoteName first ++ " or " ++ quoteName second
  | known => "expected one of " ++ String.intercalate ", " (known.map quoteName)

/-- The text of a fault; the form of a text that is no JSON is not described further. -/
def message : DecodeError → String
  | .malformed => "<json>"
  | .missingField name => "missing field " ++ quoteName name
  | .duplicateField name => "duplicate field " ++ quoteName name
  | .unknownName name known => "unknown variant " ++ quoteName name ++ ", " ++ describeKnown known
  | .wrongKind found expected => "invalid type: " ++ found.describe ++ ", expected " ++ expected
  | .outOfRange value expected =>
    "invalid value: " ++ (Found.integer value).describe ++ ", expected " ++ expected
  | .wrongLength length expected => s!"invalid length {length}, expected {expected}"

end DecodeError
end TriggerLedger.Json
