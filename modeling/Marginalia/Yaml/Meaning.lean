/-
Marginalia.Yaml.Meaning — what the scalars of YAML texts stand for.

A plain scalar stands for null, a truth value, a whole number or a floating
point number if it is written like one, and for itself otherwise. A number
with zeros in front is a text. A scalar that is quoted, or written as a
block, stands for itself; a tag may say otherwise.
-/
import Marginalia.Decimal.Positional
import Marginalia.Yaml.Event

namespace Marginalia.Yaml

/-! ## 1. Plain scalars -/

/-- What a scalar stands for. -/
inductive Meaning where
  | null
  | bool (b : Bool)
  | integer (n : Int)
  | float (bits : UInt64)
  | text (s : List Char)
  deriving DecidableEq, Repr

/-- The truth value that a text writes. -/
def boolOf? (s : List Char) : Option Bool :=
  if ["true", "True", "TRUE"].contains (String.ofList s) then some true
  else if ["false", "False", "FALSE"].contains (String.ofList s) then some false
  else none

/-- Does a text write null? -/
def isNull (s : List Char) : Bool := ["null", "Null", "NULL", "~"].contains (String.ofList s)

/-- Is the text a zero with further digits behind it? -/
def hasLeadingZero (s : List Char) : Bool :=
  let digits := match s with
    | '-' :: r | '+' :: r => r
    | r => r
  digits.length > 1 && digits.head? == some '0' && digits.all Char.isDigit

/-- The number that digits write, if there is at least one and all are digits
of the base. -/
def natOf? (base : Nat) (s : List Char) : Option Nat :=
  if s.isEmpty then none
  else s.foldlM (fun n c => do
    let d ← Text.hexValue? c
    if d < base then some (base * n + d) else none) 0

/-- The whole number that a text without sign writes; a prefix of two
characters gives the base. -/
def magnitudeOf? (s : List Char) : Option Nat :=
  match s with
  | '0' :: 'x' :: r => natOf? 16 r
  | '0' :: 'o' :: r => natOf? 8 r
  | '0' :: 'b' :: r => natOf? 2 r
  | r => if hasLeadingZero r then none else natOf? 10 r

/-- The whole number that a text writes, if it has at most 128 bits. -/
def integerOf? (s : List Char) : Option Int :=
  let inRange (n : Int) : Option Int :=
    if -Int.pow 2 127 ≤ n && n < Int.pow 2 128 then some n else none
  match s with
  | '-' :: r => (magnitudeOf? r).bind fun n => inRange (-n)
  | '+' :: r => (magnitudeOf? r).bind fun n => inRange n
  | r => (magnitudeOf? r).bind fun n => inRange n

/-- Digits, with the value they write behind a value. -/
def digitsOf (n : Nat) (s : List Char) : Nat := s.foldl (fun n c => 10 * n + (c.toNat - 48)) n

/-- The largest power of ten of any floating point number, with room. -/
def maxExponent : Int := 400

/-- The sign of a floating point number, as bits. -/
def signBit : UInt64 := 0x8000000000000000

/-- The number that a decimal writes, if it is in range. -/
def floatOfDecimal? (negative : Bool) (digits : Nat) (exponent : Int) : Option UInt64 :=
  let top : Int := (Nat.toDigits 10 digits).length + exponent
  let magnitude? : Option Float :=
    if digits = 0 || top < -maxExponent then some 0
    else if top > maxExponent then none
    else some (Float.ofScientific digits (exponent < 0) exponent.natAbs)
  magnitude?.bind fun f =>
    if (Decimal.Binary.ofBits? f.toBits).isNone then none
    else some (if negative then f.toBits ||| signBit else f.toBits)

/-- The exponent behind the digits of a number: nothing, or `e`, a sign or
none, and digits. -/
def exponentOf? (s : List Char) : Option Int :=
  match s with
  | [] => some 0
  | c :: r =>
    if c == 'e' || c == 'E' then
      let (negative, digits) := match r with
        | '-' :: r => (true, r)
        | '+' :: r => (false, r)
        | r => (false, r)
      if digits.isEmpty || !digits.all Char.isDigit then none
      else some (if negative then -(digitsOf 0 digits) else digitsOf 0 digits)
    else none

/-- The number that a text without sign writes: digits on at least one side of
a point, and perhaps an exponent. -/
def unsignedFloatOf? (negative : Bool) (s : List Char) : Option UInt64 :=
  let whole := s.takeWhile Char.isDigit
  let rest := s.drop whole.length
  let fraction := match rest with
    | '.' :: r => r.takeWhile Char.isDigit
    | _ => []
  let rest := match rest with
    | '.' :: r => r.drop fraction.length
    | r => r
  if whole.isEmpty && fraction.isEmpty then none
  else (exponentOf? rest).bind fun e =>
    floatOfDecimal? negative (digitsOf (digitsOf 0 whole) fraction) (e - fraction.length)

/-- Infinity, as bits. -/
def infinityBits : UInt64 := 0x7FF0000000000000

/-- The floating point number that a text writes. -/
def floatOf? (s : List Char) : Option UInt64 :=
  let named (s : List Char) (names : List String) : Bool := names.contains (String.ofList s)
  let infinities := [".inf", ".Inf", ".INF"]
  if named s [".nan", ".NaN", ".NAN"] then some 0x7FF8000000000000
  else match s with
    | '-' :: r =>
      if named r infinities then some (infinityBits ||| signBit) else unsignedFloatOf? true r
    | '+' :: r => if named r infinities then some infinityBits else unsignedFloatOf? false r
    | r => if named r infinities then some infinityBits else unsignedFloatOf? false r

/-- What a plain scalar stands for. -/
def Meaning.ofPlain (s : List Char) : Meaning :=
  if s.isEmpty || isNull s then .null
  else match boolOf? s with
    | some b => .bool b
    | none => match integerOf? s with
      | some n => .integer n
      | none => match if hasLeadingZero s then none else floatOf? s with
        | some bits => .float bits
        | none => .text s

/-! ## 2. Tags -/

/-- The kinds of scalars that tags ask for. -/
inductive Asked where
  | boolean
  | integer
  | float
  | null
  deriving DecidableEq, Repr

/-- The kind that a tag asks for. -/
def Asked.ofTag? (tag : List Char) : Option Asked :=
  [("bool", Asked.boolean), ("int", .integer), ("float", .float), ("null", .null)].findSome?
    fun (name, asked) =>
      if tag = ("tag:yaml.org,2002:" ++ name).toList then some asked else none

/-- The words for what a tag asks for. -/
def Asked.message : Asked → String
  | .boolean => "a boolean"
  | .integer => "an integer"
  | .float => "a float"
  | .null => "null"

/-- The scalar as what its tag asks for. -/
def Asked.read (a : Asked) (s : List Char) : Option Meaning :=
  match a with
  | .boolean => (boolOf? s).map .bool
  | .integer => (integerOf? s).map .integer
  | .float => (floatOf? s).map .float
  | .null => if isNull s then some .null else none

/-- What a scalar stands for, or the kind that its tag asks for in vain. -/
def Meaning.ofScalar (tag : Option (List Char)) (style : Style) (s : List Char) :
    Except Asked Meaning :=
  match tag with
  | none => .ok (if style = .plain then .ofPlain s else .text s)
  | some tag => match Asked.ofTag? tag with
    | some asked => match asked.read s with
      | some m => .ok m
      | none => .error asked
    | none => .ok (if tag.head? == some '!' && style = .plain then .ofPlain s else .text s)

/-- Can the scalar be a truth value as it is written? It is plain, or literal
with a tag that says so. -/
def mayBeBool (tag : Option (List Char)) (style : Style) : Bool :=
  style == .plain || (style == .literal && tag.any fun t => Asked.ofTag? t == some .boolean)

end Marginalia.Yaml
