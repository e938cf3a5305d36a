import SeedScript.Config
import SeedScript.Json.Reader
import SeedScript.Json.Writer

/-!
# Configuration as JSON

A configuration is an object of four optional fields; a field of another name, or one that comes
twice, is not accepted. It may also be an array of at most four values, in the order of the fields.
-/

namespace SeedScript

inductive ConfigField where
  | delimiter (field : DelimiterField)
  | strict
  deriving DecidableEq, Repr

def ConfigField.name : ConfigField → String
  | .delimiter field => field.name
  | .strict => "strict"

def ConfigField.all : List ConfigField :=
  [.delimiter .oneToMany, .delimiter .manyToMany, .delimiter .rowItem, .strict]

def ConfigField.ofName? (name : String) : Option ConfigField :=
  ConfigField.all.find? fun field => field.name == name

def LiteralMode.ofStrict (strict : Bool) : LiteralMode := if strict then .strict else .compat

def LiteralMode.isStrict (mode : LiteralMode) : Bool := mode == .strict

namespace Config

def delimiter (c : Config) : DelimiterField → String
  | .oneToMany => c.delimiters.oneToMany
  | .manyToMany => c.delimiters.manyToMany
  | .rowItem => c.rowItemDelimiter

def setDelimiter (c : Config) (field : DelimiterField) (s : String) : Config :=
  match field with
  | .oneToMany => { c with delimiters := { c.delimiters with oneToMany := s } }
  | .manyToMany => { c with delimiters := { c.delimiters with manyToMany := s } }
  | .rowItem => { c with rowItemDelimiter := s }

/-! ## Reading -/

open Json (Reader Fault)

/-- A configuration with one field read from a text. -/
def readField (c : Config) : ConfigField → Reader Config
  | .delimiter field => fun cs =>
    (Json.stringValue cs).map fun (s, rest) => (c.setDelimiter field s, rest)
  | .strict => fun cs =>
    (Json.booleanValue cs).map fun (b, rest) => ({ c with mode := .ofStrict b }, rest)

/-- A member of the object: `state` holds the fields that have been read, and the configuration
that they make. -/
def readMember (state : List ConfigField × Config) (name : String) :
    Reader (List ConfigField × Config) := fun cs =>
  match ConfigField.ofName? name with
  | none => .error .mistyped
  | some field =>
    if field ∈ state.1 then .error .mistyped
    else (Json.afterColon (state.2.readField field) cs).map fun (c, rest) =>
      ((field :: state.1, c), rest)

/-- The values of an array, for the given fields. -/
def readPositions : List ConfigField → Config → Reader Config
  | [], c => fun cs => .ok (c, cs)
  | field :: fields, c => fun cs => do
    let (c, cs) ← c.readField field cs
    match Json.skipBlanks cs with
    | ']' :: cs => .ok (c, cs)
    | ',' :: cs =>
      if fields.isEmpty then .error .malformed
      else
        match Json.skipBlanks cs with
        | ']' :: _ => .error .malformed
        | [] => .error .truncated
        | cs => readPositions fields c cs
    | cs => .error (Json.unexpected cs)

/-- A configuration, usable or not; a field that is not given is as in the standard one. -/
def read : Reader Config
  | '\x7b' :: cs =>
    (Json.members readMember ([], standard) cs).map fun (state, rest) => (state.2, rest)
  | '[' :: cs =>
    match Json.skipBlanks cs with
    | ']' :: cs => .ok (standard, cs)
    | [] => .error .truncated
    | cs => readPositions ConfigField.all standard cs
  | cs => .error (Json.wrongKind cs)

/-- The usable configuration that a JSON text holds. -/
def ofJson (text : String) : Except SeedError Config :=
  match Json.document read text with
  | .error fault => .error (.json fault)
  | .ok c => c.validate.map fun () => c

/-! ## Writing -/

def fieldValue (c : Config) : ConfigField → Json.Value
  | .delimiter field => .string (c.delimiter field)
  | .strict => .boolean c.mode.isStrict

/-- A configuration as a JSON object with all its fields. -/
def json (c : Config) : Json.Value :=
  .object (ConfigField.all.map fun field => (field.name, c.fieldValue field))

end Config

end SeedScript
