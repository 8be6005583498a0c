/-
Marginalia.Json.Number — the numbers of JSON texts.

A number is a whole number or a 64-bit floating point number. A text
without fraction and exponent whose value fits 64 bits, signed or
unsigned, is whole; every other number is floating point. Its digits are
read into a 64-bit significand while they fit: further digits of the
whole part only raise the power of ten, further digits of the fraction are
dropped. The significand is then scaled by one rounded operation.

Main statement: `ofText?_natural` (digit runs that fit 64 bits are read
exactly).
-/
import Marginalia.Decimal.Shortest

namespace Marginalia.Json

/-! ## 1. Numbers -/

/-- A number as JSON texts hold it; a floating point number is given by its
64 bits. -/
inductive Number where
  | integer (value : Int)
  | float (bits : UInt64)
  deriving DecidableEq, Inhabited, Repr

/-! ## 2. Writing -/

/-- The largest power of ten whose leading digit is still written in place. -/
def topPlace : Int := 15

/-- The smallest power of ten whose leading digit is still written in place. -/
def bottomPlace : Int := -5

/-- A decimal number in positional notation between `bottomPlace` and
`topPlace`, with at least one digit on each side of the point, and beyond
them with one digit before the point and a signed exponent. -/
def decimalText (d : Decimal.Numeral) : List Char :=
  let digits := Nat.toDigits 10 d.digits
  let place : Int := (digits.length : Int) - 1 + d.exponent
  if bottomPlace ≤ place && place ≤ topPlace then
    if place < 0 then
      ['0', '.'] ++ List.replicate (-place - 1).toNat '0' ++ digits
    else
      let whole := place.toNat + 1
      if digits.length ≤ whole then
        digits ++ List.replicate (whole - digits.length) '0' ++ ['.', '0']
      else digits.take whole ++ ['.'] ++ digits.drop whole
  else
    let mantissa := match digits with
      | [c] => [c]
      | c :: rest => c :: '.' :: rest
      | [] => []
    mantissa ++ ['e', if place < 0 then '-' else '+'] ++ Nat.toDigits 10 place.natAbs

/-- The text of a finite floating point number: its sign and the shortest
digits that read back. -/
def floatText (bits : UInt64) : List Char :=
  let sign := if Decimal.isNegativeBits bits then ['-'] else []
  match Decimal.Binary.ofBits? bits with
  | none => ['n', 'u', 'l', 'l']
  | some b =>
    if b.significand == 0 then sign ++ ['0', '.', '0']
    else sign ++ decimalText (Decimal.shortest b)

/-- The text of a whole number. -/
def integerText (n : Int) : List Char :=
  if n < 0 then '-' :: Nat.toDigits 10 n.natAbs else Nat.toDigits 10 n.natAbs

/-- The text of a number. -/
def Number.text : Number → List Char
  | .integer n => integerText n
  | .float bits => floatText bits

/-! ## 3. Reading -/

/-- The largest significand. -/
def maxSignificand : Nat := UInt64.size - 1

/-- Reads digits of the whole part on top of a significand: the significand
reached, and how many digits did not fit. -/
def absorbWhole (significand : Nat) : List Nat → Nat × Nat
  | [] => (significand, 0)
  | d :: ds =>
    if 10 * significand + d ≤ maxSignificand then absorbWhole (10 * significand + d) ds
    else (significand, ds.length + 1)

/-- Reads digits of the fraction on top of a significand: the significand
reached, and how many digits fit. -/
def absorbFraction (significand : Nat) : List Nat → Nat × Nat
  | [] => (significand, 0)
  | d :: ds =>
    if 10 * significand + d ≤ maxSignificand then
      let (s, taken) := absorbFraction (10 * significand + d) ds
      (s, taken + 1)
    else (significand, 0)

/-- The largest power of ten that is a finite floating point number. -/
def maxPower : Nat := 308

/-- The floating point number nearest to a power of ten. -/
def powerOfTen (e : Nat) : Float := Float.ofScientific 1 false e

/-- A floating point number divided by ten to a power, in steps of at most
`maxPower`. -/
def scaleDown (f : Float) (e : Nat) : Float :=
  if e ≤ maxPower then f / powerOfTen e
  else if f == 0.0 then f
  else scaleDown (f / powerOfTen maxPower) (e - maxPower)
termination_by e
decreasing_by simp [maxPower] at *; omega

/-- A significand times a power of ten, or nothing if it is too large. -/
def scale? (significand : Nat) (exponent : Int) : Option Float :=
  let f := significand.toUInt64.toFloat
  if exponent < 0 then some (scaleDown f exponent.natAbs)
  else if exponent.toNat ≤ maxPower then
    let scaled := f * powerOfTen exponent.toNat
    if scaled.isInf then none else some scaled
  else if f == 0.0 then some f else none

/-- The parts of a number's text. -/
structure NumberText where
  /-- Is there a minus sign? -/
  negative : Bool
  /-- The digits before the point. -/
  whole : List Nat
  /-- The digits after the point, if there is one. -/
  fraction : Option (List Nat)
  /-- The exponent, if there is one. -/
  exponent : Option Int

/-- The number its text stands for, or nothing if it is out of range. -/
def Number.ofText? (t : NumberText) : Option Number :=
  let (whole, excess) := absorbWhole 0 t.whole
  let sign (f : Float) : Number := .float (if t.negative then -f else f).toBits
  match t.fraction, t.exponent, excess with
  | none, none, 0 =>
    if !t.negative then some (.integer whole)
    else if whole == 0 || Nat.pow 2 63 < whole then some (sign whole.toUInt64.toFloat)
    else some (.integer (-whole))
  | fraction, exponent, _ =>
    let (significand, taken) := absorbFraction whole (fraction.getD [])
    (scale? significand (excess - taken + exponent.getD 0)).map sign

/-! ## 4. Short digit runs are exact -/

/-- The number that digits write in base ten. -/
def digitsValue (significand : Nat) (ds : List Nat) : Nat :=
  ds.foldl (fun n d => 10 * n + d) significand

theorem le_digitsValue (s : Nat) (ds : List Nat) : s ≤ digitsValue s ds := by
  induction ds generalizing s with
  | nil => simp [digitsValue]
  | cons d ds ih => exact Nat.le_trans (by omega) (ih (10 * s + d))

theorem absorbWhole_exact {s : Nat} {ds : List Nat} (h : digitsValue s ds ≤ maxSignificand) :
    absorbWhole s ds = (digitsValue s ds, 0) := by
  induction ds generalizing s with
  | nil => rfl
  | cons d ds ih =>
    have : 10 * s + d ≤ maxSignificand := Nat.le_trans (le_digitsValue _ ds) h
    rw [absorbWhole, if_pos this, ih h]
    rfl

/-- Digits without sign, fraction and exponent are read exactly as long as
their value fits 64 bits. -/
theorem ofText?_natural {ds : List Nat} (h : digitsValue 0 ds ≤ maxSignificand) :
    Number.ofText? ⟨false, ds, none, none⟩ = some (.integer (digitsValue 0 ds)) := by
  simp [Number.ofText?, absorbWhole_exact h]

end Marginalia.Json
