/-
Marginalia.Json.Fault — what can be wrong with a JSON text.

A fault is a place where the text is no JSON. The first fault met in
reading order is the one reported; the sentence that reports it is
`Fault.message`.
-/

namespace Marginalia.Json

/-- A way for a text not to be JSON, or not to be readable as such. -/
inductive Fault where
  /-- The text ends inside an array. -/
  | endsInArray
  /-- The text ends inside an object. -/
  | endsInObject
  /-- The text ends inside a string. -/
  | endsInString
  /-- The text ends where a value should be, or inside one. -/
  | endsInValue
  /-- A key is not followed by a colon. -/
  | expectedColon
  /-- An item is followed by neither a comma nor the end of its array. -/
  | expectedArrayComma
  /-- A member is followed by neither a comma nor the end of its object. -/
  | expectedObjectComma
  /-- A word other than the three literals. -/
  | expectedWord
  /-- A character that starts no value. -/
  | expectedValue
  /-- A backslash before a character that makes no escape. -/
  | badEscape
  /-- A number that is not written as one. -/
  | badNumber
  /-- A number too large for a floating point number. -/
  | numberOutOfRange
  /-- A control character inside a string. -/
  | controlCharacter
  /-- A key that is not a string. -/
  | keyNotString
  /-- Half of a surrogate pair without the other half. -/
  | loneSurrogate
  /-- A first half of a surrogate pair with no escape behind it. -/
  | endOfEscape
  /-- A comma before the end of an array or object. -/
  | trailingComma
  /-- Characters behind the value. -/
  | trailingCharacters
  /-- Too many arrays and objects inside one another. -/
  | tooDeep
  deriving DecidableEq, Repr

/-- Does the fault say that the text ended early? -/
def Fault.endsEarly : Fault → Bool
  | .endsInArray | .endsInObject | .endsInString | .endsInValue => true
  | _ => false

/-- The sentence that reports a fault. -/
def Fault.message : Fault → String
  | .endsInArray => "EOF while parsing a list"
  | .endsInObject => "EOF while parsing an object"
  | .endsInString => "EOF while parsing a string"
  | .endsInValue => "EOF while parsing a value"
  | .expectedColon => "expected `:`"
  | .expectedArrayComma => "expected `,` or `]`"
  | .expectedObjectComma => "expected `,` or `\x7d`"
  | .expectedWord => "expected ident"
  | .expectedValue => "expected value"
  | .badEscape => "invalid escape"
  | .badNumber => "invalid number"
  | .numberOutOfRange => "number out of range"
  | .controlCharacter => "control character (\\u0000-\\u001F) found while parsing a string"
  | .keyNotString => "key must be a string"
  | .loneSurrogate => "lone leading surrogate in hex escape"
  | .endOfEscape => "unexpected end of hex escape"
  | .trailingComma => "trailing comma"
  | .trailingCharacters => "trailing characters"
  | .tooDeep => "recursion limit exceeded"

end Marginalia.Json
