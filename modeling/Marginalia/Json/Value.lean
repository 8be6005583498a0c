/-
Marginalia.Json.Value — JSON values and their compact and indented texts.

Members of an object keep their order; whether a key may occur twice is
left to whoever builds the value. In a text only the quote, the backslash
and the control characters below the space are escaped.
-/
import Marginalia.Json.Number

namespace Marginalia

/-! ## 1. Values -/

/-- A JSON value. -/
inductive Json where
  | null
  | bool (value : Bool)
  | number (value : Json.Number)
  | text (value : String)
  | arr (items : List Json)
  | obj (members : List (String × Json))
  deriving Inhabited, Repr

namespace Json

/-! ## 2. Escapes -/

/-- A hexadecimal digit in lower case. -/
def lowerHex (n : Nat) : Char := Nat.digitChar n

/-- One character of a text as it stands between the quotes. -/
def escapeChar (c : Char) : List Char :=
  if c = '"' then ['\\', '"']
  else if c = '\\' then ['\\', '\\']
  else if c = '\n' then ['\\', 'n']
  else if c = '\r' then ['\\', 'r']
  else if c = '\t' then ['\\', 't']
  else if c.toNat = 8 then ['\\', 'b']
  else if c.toNat = 12 then ['\\', 'f']
  else if c.toNat < 32 then
    ['\\', 'u', '0', '0', lowerHex (c.toNat / 16), lowerHex (c.toNat % 16)]
  else [c]

/-- A text as it stands between the quotes. -/
def escape (s : List Char) : List Char := s.flatMap escapeChar

/-- A text between quotes. -/
def quoted (s : String) : List Char := '"' :: escape s.toList ++ ['"']

/-! ## 3. The compact text -/

mutual

/-- The text of a value without any blanks. -/
def compactChars : Json → List Char
  | .null => ['n', 'u', 'l', 'l']
  | .bool true => ['t', 'r', 'u', 'e']
  | .bool false => ['f', 'a', 'l', 's', 'e']
  | .number n => n.text
  | .text s => quoted s
  | .arr [] => ['[', ']']
  | .arr (item :: items) => '[' :: (compactChars item ++ compactItems items ++ [']'])
  | .obj [] => ['\x7b', '\x7d']
  | .obj (m :: ms) => '\x7b' :: (compactMember m ++ compactMembers ms ++ ['\x7d'])

/-- The texts of the items after the first, each behind a comma. -/
def compactItems : List Json → List Char
  | [] => []
  | item :: items => ',' :: (compactChars item ++ compactItems items)

/-- The text of a member. -/
def compactMember : String × Json → List Char
  | (key, value) => quoted key ++ ':' :: compactChars value

/-- The texts of the members after the first, each behind a comma. -/
def compactMembers : List (String × Json) → List Char
  | [] => []
  | m :: ms => ',' :: (compactMember m ++ compactMembers ms)

end

/-- The text of a value without any blanks. -/
def compact (j : Json) : String := String.ofList j.compactChars

/-! ## 4. The indented text -/

/-- A line end and the indent of a nesting depth, two blanks a level. -/
def newline (depth : Nat) : List Char := '\n' :: List.replicate (2 * depth) ' '

mutual

/-- The text of a value at a nesting depth, with an item or a member a line.
Empty arrays and objects stay on one line. -/
def prettyChars (depth : Nat) : Json → List Char
  | .null => ['n', 'u', 'l', 'l']
  | .bool true => ['t', 'r', 'u', 'e']
  | .bool false => ['f', 'a', 'l', 's', 'e']
  | .number n => n.text
  | .text s => quoted s
  | .arr [] => ['[', ']']
  | .arr (item :: items) =>
    '[' :: newline (depth + 1) ++ prettyChars (depth + 1) item ++ prettyItems (depth + 1) items
      ++ newline depth ++ [']']
  | .obj [] => ['\x7b', '\x7d']
  | .obj (m :: ms) =>
    '\x7b' :: newline (depth + 1) ++ prettyMember (depth + 1) m ++ prettyMembers (depth + 1) ms
      ++ newline depth ++ ['\x7d']

/-- The items after the first, each behind a comma and on its own line. -/
def prettyItems (depth : Nat) : List Json → List Char
  | [] => []
  | item :: items => ',' :: newline depth ++ prettyChars depth item ++ prettyItems depth items

/-- The text of a member, with a blank behind the colon. -/
def prettyMember (depth : Nat) : String × Json → List Char
  | (key, value) => quoted key ++ ':' :: ' ' :: prettyChars depth value

/-- The members after the first, each behind a comma and on its own line. -/
def prettyMembers (depth : Nat) : List (String × Json) → List Char
  | [] => []
  | m :: ms => ',' :: newline depth ++ prettyMember depth m ++ prettyMembers depth ms

end

/-- The indented text of a value. -/
def pretty (j : Json) : String := String.ofList (j.prettyChars 0)

/-! ## 5. Sorted objects -/

/-- Puts a member into members that are sorted by key, in place of one of the
same key. -/
def insertSorted (key : String) (value : Json) : List (String × Json) → List (String × Json)
  | [] => [(key, value)]
  | (k, v) :: ms =>
    if key < k then (key, value) :: (k, v) :: ms
    else if key = k then (key, value) :: ms
    else (k, v) :: insertSorted key value ms

mutual

/-- The value with the members of every object sorted by key; of several
members with one key the last is kept. -/
def sorted : Json → Json
  | .arr items => .arr (sortedItems items)
  | .obj members => .obj (sortedMembers [] members)
  | j => j

/-- Each item with its objects sorted. -/
def sortedItems : List Json → List Json
  | [] => []
  | j :: js => j.sorted :: sortedItems js

/-- Puts members into sorted ones, one after the other. -/
def sortedMembers (acc : List (String × Json)) : List (String × Json) → List (String × Json)
  | [] => acc
  | m :: ms => sortedMembers (insertMember acc m) ms

/-- Puts one member, with its objects sorted, into sorted ones. -/
def insertMember (acc : List (String × Json)) : String × Json → List (String × Json)
  | (key, value) => insertSorted key value.sorted acc

end

end Json

end Marginalia
