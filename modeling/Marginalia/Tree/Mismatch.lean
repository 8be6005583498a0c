/-
Marginalia.Tree.Mismatch — why a JSON text is no tree.

A text can fail to be JSON, or be JSON of the wrong shape. `ReadError` is
either, `Mismatch` lists the wrong shapes, and `ReadError.message` words
them.
-/
import Marginalia.Json.Draft
import Marginalia.Text.Quoted

namespace Marginalia

/-! ## 1. What was found -/

/-- What stands in the place of a value of another shape. -/
inductive Found where
  | scalar (value : Json.Scalar)
  | sequence
  | map

/-- The words for what was found. -/
def Found.message : Found → String
  | .scalar .null => "null"
  | .scalar (.bool b) => "boolean `" ++ (if b then "true" else "false") ++ "`"
  | .scalar (.number (.integer n)) => "integer `" ++ String.ofList (Json.integerText n) ++ "`"
  | .scalar (.number (.float bits)) =>
    "floating point `" ++ String.ofList (Json.floatText bits) ++ "`"
  | .scalar (.text s) => "string " ++ Text.quote s
  | .sequence => "sequence"
  | .map => "map"

/-! ## 2. Mismatches -/

/-- A way for a value to have the wrong shape. -/
inductive Mismatch where
  /-- A member that must be there is not. -/
  | missingField (name : String)
  /-- A member is there twice. -/
  | duplicateField (name : String)
  /-- A type name that names no kind. -/
  | unknownVariant (name : String) (known : List String)
  /-- A value of another type. -/
  | wrongType (found : Found) (expected : String)
  /-- A value of the right type that is out of range. -/
  | wrongValue (found : Found) (expected : String)
  /-- An array that ends before all fields of a record are read. -/
  | tooShort (length : Nat) (expected : String)
  /-- An array with items behind the fields of a record. -/
  | tooLong (length fields : Nat)

/-- Names in backquotes, with commas between them. -/
def quotedNames (names : List String) : String :=
  ", ".intercalate (names.map fun n => "`" ++ n ++ "`")

/-- A count with the word it counts. -/
def elements (n : Nat) : String := toString n ++ (if n == 1 then " element" else " elements")

/-- The sentence that reports a mismatch. -/
def Mismatch.message : Mismatch → String
  | .missingField name => "missing field `" ++ name ++ "`"
  | .duplicateField name => "duplicate field `" ++ name ++ "`"
  | .unknownVariant name known =>
    "unknown variant `" ++ name ++ "`, expected one of " ++ quotedNames known
  | .wrongType found expected => "invalid type: " ++ found.message ++ ", expected " ++ expected
  | .wrongValue found expected =>
    "invalid value: " ++ found.message ++ ", expected " ++ expected
  | .tooShort length expected =>
    "invalid length " ++ toString length ++ ", expected " ++ expected
  | .tooLong length fields =>
    "invalid length " ++ toString length ++ ", expected " ++ elements fields ++ " in sequence"

/-! ## 3. Errors -/

/-- Why a text could not be read as a tree. -/
inductive ReadError where
  /-- The text is no JSON. -/
  | fault (fault : Json.Fault)
  /-- The text is JSON of another shape. -/
  | mismatch (mismatch : Mismatch)

/-- The sentence that reports an error. -/
def ReadError.message : ReadError → String
  | .fault f => f.message
  | .mismatch m => m.message

end Marginalia
