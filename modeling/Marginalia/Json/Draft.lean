/-
Marginalia.Json.Draft — JSON texts as far as they can be read.

`Draft.ofText` never fails: it reads a text up to the first place where no
reader could go on, and leaves the fault at that place of the tree. What a
reader reports then depends on how it looks at the tree:

* a reader that wants the values (`Draft.toJson`) stops at the first fault
  in reading order, also at a number that is too large, at half a
  surrogate pair, and at the 128th array or object inside one another;
* a reader that passes over a part (`Draft.skipFault?`) looks only whether
  it is well formed, and words some faults differently.

Each leaf and each early end of an array or object therefore carries both.
-/
import Marginalia.Json.Fault
import Marginalia.Json.Value
import Marginalia.Text.Ranges

namespace Marginalia.Json

open Marginalia.Text (hexValue?)

/-! ## 1. Drafts -/

/-- The fault at which an array, an object or a leaf breaks off: as a reader
of values reports it, and as one that passes over it does. -/
structure Break where
  /-- What a reader of values reports. -/
  read : Fault
  /-- What a reader that passes over it reports. -/
  skip : Fault
  deriving DecidableEq, Repr

/-- The break that every reader reports alike. -/
def Break.plain (f : Fault) : Break := ⟨f, f⟩

/-- A leaf: what its reader gets, and what hinders passing over it. -/
structure Leaf (α : Type) where
  /-- The value, or the first fault in it. -/
  read : Except Fault α
  /-- The first fault that remains when the value is of no interest. -/
  skip : Option Fault

/-- A leaf without faults. -/
def Leaf.ok {α : Type} (a : α) : Leaf α := ⟨.ok a, none⟩

/-- A leaf that breaks off. -/
def Leaf.broken {α : Type} (b : Break) : Leaf α := ⟨.error b.read, some b.skip⟩

/-- The values that are no arrays or objects. -/
inductive Scalar where
  | null
  | bool (value : Bool)
  | number (value : Number)
  | text (value : String)
  deriving DecidableEq, Repr

/-- A scalar as a value. -/
def Scalar.toJson : Scalar → Json
  | .null => .null
  | .bool b => .bool b
  | .number n => .number n
  | .text s => .text s

/-- A JSON text as far as it can be read. -/
inductive Draft where
  | scalar (leaf : Leaf Scalar)
  | arr (items : List Draft) (stop : Option Break)
  | obj (members : List (Leaf String × Draft)) (stop : Option Break)

/-- A value that is missing or cannot be started. -/
def Draft.broken (f : Fault) : Draft := .scalar (.broken (.plain f))

/-! ## 2. Leaves -/

/-- The blanks of JSON. -/
def isBlank (c : Char) : Bool := c == ' ' || c == '\n' || c == '\t' || c == '\r'

/-- The text without the blanks in front. -/
def skipBlanks (s : List Char) : List Char := s.dropWhile isBlank

/-- Reads the rest of a literal: what comes behind it, or the fault. -/
def readWord : List Char → List Char → Except Fault (List Char)
  | [], s => .ok s
  | _ :: _, [] => .error .endsInValue
  | w :: ws, c :: s => if w == c then readWord ws s else .error .expectedWord

/-- The digits in front of a text, and what follows them. -/
def readDigits (s : List Char) : List Nat × List Char :=
  ((s.takeWhile Char.isDigit).map fun c => c.toNat - 48, s.dropWhile Char.isDigit)

/-- Reads an exponent behind its `e`: its value and what follows. -/
def readExponent (s : List Char) : Except Break (Int × List Char) :=
  let (negative, s) := match s with
    | '+' :: r => (false, r)
    | '-' :: r => (true, r)
    | r => (false, r)
  match readDigits s with
  | ([], []) => .error ⟨.endsInValue, .badNumber⟩
  | ([], _ :: _) => .error (.plain .badNumber)
  | (ds, r) =>
    let e : Int := digitsValue 0 ds
    .ok (if negative then -e else e, r)

/-- Reads an optional exponent. -/
def readExponent? (s : List Char) : Except Break (Option Int × List Char) :=
  match s with
  | 'e' :: r | 'E' :: r => (readExponent r).map fun (e, r) => (some e, r)
  | r => .ok (none, r)

/-- Reads an optional fraction. -/
def readFraction? (s : List Char) : Except Break (Option (List Nat) × List Char) :=
  match s with
  | '.' :: r =>
    match readDigits r with
    | ([], []) => .error ⟨.endsInValue, .badNumber⟩
    | ([], _ :: _) => .error (.plain .badNumber)
    | (ds, r) => .ok (some ds, r)
  | r => .ok (none, r)

/-- Reads the digits before the point; a zero stands alone. -/
def readWhole (s : List Char) : Except Break (List Nat × List Char) :=
  match readDigits s with
  | ([], []) => .error ⟨.endsInValue, .badNumber⟩
  | ([], _ :: _) => .error (.plain .badNumber)
  | (0 :: _ :: _, _) => .error (.plain .badNumber)
  | (ds, r) => .ok (ds, r)

/-- Reads a number behind its sign. -/
def readNumber (negative : Bool) (s : List Char) : Leaf Scalar × Option (List Char) :=
  let text : Except Break (NumberText × List Char) := do
    let (whole, s) ← readWhole s
    let (fraction, s) ← readFraction? s
    let (exponent, s) ← readExponent? s
    return (⟨negative, whole, fraction, exponent⟩, s)
  match text with
  | .error b => (.broken b, none)
  | .ok (t, rest) =>
    match Number.ofText? t with
    | some n => (.ok (.number n), some rest)
    | none => (⟨.error .numberOutOfRange, none⟩, some rest)

/-- Reads the four hexadecimal digits of an escape. They are counted in bytes
of UTF-8: a text with fewer than four bytes left ends early. -/
def readHex (s : List Char) : Except Fault (Nat × List Char) :=
  match s with
  | a :: b :: c :: d :: r =>
    match hexValue? a, hexValue? b, hexValue? c, hexValue? d with
    | some a, some b, some c, some d => .ok (4096 * a + 256 * b + 16 * c + d, r)
    | _, _, _, _ => .error .badEscape
  | s =>
    if 4 ≤ s.foldr (fun c n => c.utf8Size + n) 0 then .error .badEscape
      else .error .endsInString

/-- The character that an escape letter stands for. -/
def escapeLetter? : Char → Option Char
  | '"' => some '"'
  | '\\' => some '\\'
  | '/' => some '/'
  | 'b' => some (Char.ofNat 8)
  | 'f' => some (Char.ofNat 12)
  | 'n' => some '\n'
  | 'r' => some '\r'
  | 't' => some '\t'
  | _ => none

/-- Is the number the first half of a surrogate pair? -/
def isHighSurrogate (n : Nat) : Bool := 0xD800 ≤ n && n ≤ 0xDBFF

/-- Is the number the second half of a surrogate pair? -/
def isLowSurrogate (n : Nat) : Bool := 0xDC00 ≤ n && n ≤ 0xDFFF

/-- Reads the escaped character behind `\u`, which may take two escapes. -/
def readUnicode (s : List Char) : Except Fault (Char × List Char) := do
  let (n, r) ← readHex s
  if isLowSurrogate n then .error .loneSurrogate
  else if !isHighSurrogate n then .ok (Char.ofNat n, r)
  else match r with
    | [] => .error .endsInString
    | '\\' :: [] => .error .endsInString
    | '\\' :: 'u' :: r => do
      let (m, r) ← readHex r
      if isLowSurrogate m then
        .ok (Char.ofNat (0x10000 + 1024 * (n - 0xD800) + (m - 0xDC00)), r)
      else .error .loneSurrogate
    | _ => .error .endOfEscape

/-- Looks for the end of a string without reading it: what comes behind it,
or the fault. The fuel bounds the length of the text. -/
def skipString (fuel : Nat) (s : List Char) : Except Fault (List Char) :=
  match fuel, s with
  | 0, _ | _, [] => .error .endsInString
  | _ + 1, '"' :: r => .ok r
  | _ + 1, '\\' :: [] => .error .endsInString
  | fuel + 1, '\\' :: 'u' :: r =>
    match readHex r with
    | .error f => .error f
    | .ok (_, r) => skipString fuel r
  | fuel + 1, '\\' :: c :: r =>
    if (escapeLetter? c).isSome then skipString fuel r else .error .badEscape
  | fuel + 1, c :: r => if c.toNat < 32 then .error .controlCharacter else skipString fuel r

/-- Reads a string behind its opening quote: its characters and what comes
behind it, or the fault. The fuel bounds the length of the text. -/
def readString (fuel : Nat) (s : List Char) : Except Fault (List Char) :=
  match fuel, s with
  | 0, _ | _, [] => .error .endsInString
  | _ + 1, '"' :: _ => .ok []
  | _ + 1, '\\' :: [] => .error .endsInString
  | fuel + 1, '\\' :: 'u' :: r =>
    match readUnicode r with
    | .error f => .error f
    | .ok (c, r) => (readString fuel r).map (c :: ·)
  | fuel + 1, '\\' :: c :: r =>
    match escapeLetter? c with
    | some c => (readString fuel r).map (c :: ·)
    | none => .error .badEscape
  | fuel + 1, c :: r =>
    if c.toNat < 32 then .error .controlCharacter else (readString fuel r).map (c :: ·)

/-- Reads a string behind its opening quote. -/
def readText (s : List Char) : Leaf String × Option (List Char) :=
  let text := (readString (s.length + 1) s).map String.ofList
  match skipString (s.length + 1) s with
  | .ok rest => (⟨text, none⟩, some rest)
  | .error f => (⟨text, some f⟩, none)

/-- A leaf's value read further. -/
def Leaf.map {α β : Type} (f : α → β) (l : Leaf α) : Leaf β := ⟨l.read.map f, l.skip⟩

/-! ## 3. Reading a text

Each function gives what was read and what comes behind it, or nothing
behind it if no reader could go on. The fuel bounds the length of the text.
-/

/-- A literal behind its first letter. -/
def readLiteral (value : Scalar) (word : List Char) (s : List Char) :
    Draft × Option (List Char) :=
  match readWord word s with
  | .ok rest => (.scalar (.ok value), some rest)
  | .error f => (.broken f, none)

mutual

/-- A value. -/
def readValue (fuel : Nat) (s : List Char) : Draft × Option (List Char) :=
  match fuel with
  | 0 => (.broken .endsInValue, none)
  | fuel + 1 =>
    match skipBlanks s with
    | [] => (.broken .endsInValue, none)
    | 'n' :: r => readLiteral .null ['u', 'l', 'l'] r
    | 't' :: r => readLiteral (.bool true) ['r', 'u', 'e'] r
    | 'f' :: r => readLiteral (.bool false) ['a', 'l', 's', 'e'] r
    | '-' :: r => let (l, r) := readNumber true r; (.scalar l, r)
    | '"' :: r => let (l, r) := readText r; (.scalar (l.map .text), r)
    | '[' :: r =>
      match skipBlanks r with
      | [] => (.arr [] (some (.plain .endsInArray)), none)
      | ']' :: r => (.arr [] none, some r)
      | r => let (items, stop, r) := readItems fuel r; (.arr items stop, r)
    | '\x7b' :: r =>
      match skipBlanks r with
      | [] => (.obj [] (some (.plain .endsInObject)), none)
      | '\x7d' :: r => (.obj [] none, some r)
      | '"' :: r => let (members, stop, r) := readMembers fuel r; (.obj members stop, r)
      | _ :: _ => (.obj [] (some (.plain .keyNotString)), none)
    | c :: r =>
      if c.isDigit then let (l, r) := readNumber false (c :: r); (.scalar l, r)
      else (.broken .expectedValue, none)

/-- An item and those behind it, up to the end of their array. -/
def readItems (fuel : Nat) (s : List Char) : List Draft × Option Break × Option (List Char) :=
  match fuel with
  | 0 => ([], some (.plain .endsInArray), none)
  | fuel + 1 =>
    match readValue fuel s with
    | (item, none) => ([item], none, none)
    | (item, some r) =>
      match skipBlanks r with
      | [] => ([item], some (.plain .endsInArray), none)
      | ']' :: r => ([item], none, some r)
      | ',' :: r =>
        match skipBlanks r with
        | [] => ([item], some (.plain .endsInValue), none)
        | ']' :: _ => ([item], some ⟨.trailingComma, .expectedValue⟩, none)
        | r =>
          let (items, stop, r) := readItems fuel r
          (item :: items, stop, r)
      | _ => ([item], some (.plain .expectedArrayComma), none)

/-- A member behind its opening quote and those behind it, up to the end of
their object. -/
def readMembers (fuel : Nat) (s : List Char) :
    List (Leaf String × Draft) × Option Break × Option (List Char) :=
  match fuel with
  | 0 => ([], some (.plain .endsInObject), none)
  | fuel + 1 =>
    match readText s with
    | (key, none) => ([(key, .broken .endsInObject)], none, none)
    | (key, some r) =>
      match skipBlanks r with
      | ':' :: r =>
        match readValue fuel r with
        | (value, none) => ([(key, value)], none, none)
        | (value, some r) =>
          match skipBlanks r with
          | [] => ([(key, value)], some (.plain .endsInObject), none)
          | '\x7d' :: r => ([(key, value)], none, some r)
          | ',' :: r =>
            match skipBlanks r with
            | [] => ([(key, value)], some ⟨.endsInValue, .endsInObject⟩, none)
            | '"' :: r =>
              let (members, stop, r) := readMembers fuel r
              ((key, value) :: members, stop, r)
            | '\x7d' :: _ => ([(key, value)], some ⟨.trailingComma, .keyNotString⟩, none)
            | _ => ([(key, value)], some (.plain .keyNotString), none)
          | _ => ([(key, value)], some (.plain .expectedObjectComma), none)
      | [] => ([(key, .broken .endsInObject)], none, none)
      | _ => ([(key, .broken .expectedColon)], none, none)

end

/-- A whole text: its value, and whether anything but blanks comes behind. -/
structure Draft.Whole where
  /-- The value. -/
  value : Draft
  /-- Does anything but blanks come behind it? -/
  trailing : Bool

/-- Reads a text as far as it can be read. -/
def Draft.ofText (text : String) : Draft.Whole :=
  let s := text.toList
  match readValue (2 * s.length + 2) s with
  | (value, some rest) => ⟨value, !(skipBlanks rest).isEmpty⟩
  | (value, none) => ⟨value, false⟩

/-! ## 4. Reading values -/

/-- How many arrays and objects may stand inside one another. -/
def depthLimit : Nat := 127

/-- The fault at which an array or object breaks off, if it does. -/
def breakRead : Option Break → Except Fault Unit
  | none => .ok ()
  | some b => .error b.read

mutual

/-- The value a draft stands for, at a nesting depth. -/
def Draft.toJson (depth : Nat) : Draft → Except Fault Json
  | .scalar leaf => leaf.read.map Scalar.toJson
  | .arr items stop =>
    if depthLimit ≤ depth then .error .tooDeep
    else do
      let values ← Draft.itemsToJson (depth + 1) items
      breakRead stop
      return .arr values
  | .obj members stop =>
    if depthLimit ≤ depth then .error .tooDeep
    else do
      let values ← Draft.membersToJson (depth + 1) members
      breakRead stop
      return .obj values

/-- The values of items. -/
def Draft.itemsToJson (depth : Nat) : List Draft → Except Fault (List Json)
  | [] => .ok []
  | d :: ds => do
    let value ← d.toJson depth
    let values ← Draft.itemsToJson depth ds
    return value :: values

/-- The values of members. -/
def Draft.membersToJson (depth : Nat) :
    List (Leaf String × Draft) → Except Fault (List (String × Json))
  | [] => .ok []
  | m :: ms => do
    let value ← Draft.memberToJson depth m
    let values ← Draft.membersToJson depth ms
    return value :: values

/-- The value of a member. -/
def Draft.memberToJson (depth : Nat) : Leaf String × Draft → Except Fault (String × Json)
  | (key, d) => do
    let key ← key.read
    let value ← d.toJson depth
    return (key, value)

end

/-! ## 5. Passing over values -/

mutual

/-- The first fault met in passing over a value. -/
def Draft.skipFault? : Draft → Option Fault
  | .scalar leaf => leaf.skip
  | .arr items stop => (Draft.itemsSkipFault? items).or (stop.map Break.skip)
  | .obj members stop => (Draft.membersSkipFault? members).or (stop.map Break.skip)

/-- The first fault met in passing over items. -/
def Draft.itemsSkipFault? : List Draft → Option Fault
  | [] => none
  | d :: ds => d.skipFault?.or (Draft.itemsSkipFault? ds)

/-- The first fault met in passing over members. -/
def Draft.membersSkipFault? : List (Leaf String × Draft) → Option Fault
  | [] => none
  | m :: ms => (Draft.memberSkipFault? m).or (Draft.membersSkipFault? ms)

/-- The first fault met in passing over a member. -/
def Draft.memberSkipFault? : Leaf String × Draft → Option Fault
  | (key, d) => key.skip.or d.skipFault?

end

end Marginalia.Json
