/-!
# JSON values

An object keeps its members in the order of the text, repeated names included; whoever reads it
decides which of two members counts. A number keeps its decimal digits.
-/

namespace SeedScript.Json

abbrev Digit := Fin 10

/-- A number as it is spelled: digits before the point, digits after it, and a power of ten. -/
structure Number where
  negative : Bool
  whole : List Digit
  fraction : List Digit
  exponentNegative : Bool
  exponent : List Digit
  deriving DecidableEq, Repr

inductive Value where
  | null
  | boolean (b : Bool)
  | number (n : Number)
  | string (s : String)
  | array (items : List Value)
  | object (members : List (String × Value))
  deriving Repr

inductive Kind where
  | null | boolean | number | string | array | object
  deriving DecidableEq, Repr

def Value.kind : Value → Kind
  | .null => .null
  | .boolean _ => .boolean
  | .number _ => .number
  | .string _ => .string
  | .array _ => .array
  | .object _ => .object

def Kind.name : Kind → String
  | .null => "null"
  | .boolean => "boolean"
  | .number => "number"
  | .string => "string"
  | .array => "array"
  | .object => "object"

/-- Why a text is not the JSON that its reader asks for: it stops too early, it breaks the grammar,
or it follows the grammar with a value of another kind. -/
inductive Fault where
  | truncated | malformed | mistyped
  deriving DecidableEq, Repr

end SeedScript.Json
