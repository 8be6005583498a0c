/-
Marginalia.Settings.Error — why a text gives no settings.

A text can fail to be YAML, hold more than one document, or hold something
other than settings. In the last case the report says where in the settings
and where in the text that is.
-/
import Marginalia.Text.Quoted
import Marginalia.Yaml.Meaning

namespace Marginalia.Settings

/-! ## 1. What is wrong -/

/-- What stands where something else is expected. -/
inductive Found where
  | scalar (meaning : Yaml.Meaning)
  | sequence
  | map
  deriving Repr

/-- The words for a whole number; those beyond 64 bits say how wide they are. -/
def integerWords (n : Int) : String :=
  let text := "integer `" ++ toString n ++ "`"
  if n ≥ Int.pow 2 64 then text ++ " as u128"
  else if n < -Int.pow 2 63 then text ++ " as i128"
  else text

/-- The words for what was found. -/
def Found.message : Found → String
  | .scalar .null => "unit value"
  | .scalar (.bool b) => "boolean `" ++ (if b then "true" else "false") ++ "`"
  | .scalar (.integer n) => integerWords n
  | .scalar (.float bits) =>
    "floating point `" ++ String.ofList (Decimal.positionalText bits) ++ "`"
  | .scalar (.text s) => "string " ++ Text.quote (String.ofList s)
  | .sequence => "sequence"
  | .map => "map"

/-- What can be wrong with something in the settings. -/
inductive Wrong where
  | wrongType (found : Found) (expected : String)
  /-- A scalar that is not what its tag says. -/
  | wrongTag (text : List Char) (asked : Yaml.Asked)
  | unknownField (name : List Char) (known : List String)
  | duplicateField (name : String)
  deriving Repr

/-- Names in backquotes, as alternatives. -/
def oneOf : List String → String
  | [] => ""
  | [a] => "`" ++ a ++ "`"
  | [a, b] => "`" ++ a ++ "` or `" ++ b ++ "`"
  | names => "one of " ++ ", ".intercalate (names.map fun n => "`" ++ n ++ "`")

/-- The words for what is wrong. -/
def Wrong.message : Wrong → String
  | .wrongType found expected => "invalid type: " ++ found.message ++ ", expected " ++ expected
  | .wrongTag text asked =>
    "invalid value: string " ++ Text.quote (String.ofList text) ++ ", expected "
      ++ asked.message
  | .unknownField name known =>
    "unknown field `" ++ String.ofList name ++ "`, expected " ++ oneOf known
  | .duplicateField name => "duplicate field `" ++ name ++ "`"

/-! ## 2. Errors -/

/-- The way to something in the settings: names of fields from the outside in,
where they are known. -/
abbrev FieldPath := List (Option (List Char))

/-- The words for a way, which end in a colon; there are none for the whole
of the settings. -/
def pathWords (path : FieldPath) : String :=
  if path.isEmpty then ""
  else ".".intercalate (path.map fun s => String.ofList (s.getD ['?'])) ++ ": "

/-- Why a text gives no settings. -/
inductive Error where
  | yaml (fault : Yaml.Fault)
  | endOfText
  | moreDocuments
  | wrong (wrong : Wrong) (path : FieldPath) (place : Yaml.Mark)
  deriving Repr

/-- The sentence that reports an error. -/
def Error.message : Error → String
  | .yaml f => f.message
  | .endOfText => "EOF while parsing a value"
  | .moreDocuments =>
    "deserializing from YAML containing more than one document is not supported"
  | .wrong w path place => pathWords path ++ w.message ++ place.suffix

end Marginalia.Settings
