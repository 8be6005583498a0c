/-
Marginalia.Decimal.Shortest — the fewest digits that read back.

A finite binary floating point number stands for every real number that
rounds to it, an interval around its value. `shortest` finds the decimal
number with the fewest digits in that interval, and of several with that
many digits the one nearest to the value. All arithmetic is exact.

For each digit count the grid of decimals with that many digits has two
neighbours of the value; if any point of the grid lies in the interval,
so does one of the two, because the interval contains the value.
-/

namespace Marginalia.Decimal

/-! ## 1. Binary numbers -/

/-- A finite nonnegative number: a significand times a power of two. -/
structure Binary where
  /-- The significand. -/
  significand : Nat
  /-- The power of two it is multiplied by. -/
  exponent : Int
  /-- Is the next smaller number only half a step away? -/
  narrowBelow : Bool

/-- The magnitude of a 64-bit floating point number given by its bits, if it
is finite. -/
def Binary.ofBits? (bits : UInt64) : Option Binary :=
  let fraction : Nat := bits.toNat % Nat.pow 2 52
  let biased : Nat := bits.toNat / Nat.pow 2 52 % Nat.pow 2 11
  if biased == 2047 then none
  else if biased == 0 then some ⟨fraction, -1074, false⟩
  else some ⟨Nat.pow 2 52 + fraction, (biased : Int) - 1075, fraction == 0 && biased != 1⟩

/-- Is the sign bit set? -/
def isNegativeBits (bits : UInt64) : Bool := Nat.pow 2 63 ≤ bits.toNat

/-! ## 2. Decimal numbers -/

/-- A decimal number: digits times a power of ten. -/
structure Numeral where
  /-- The digits, read as one whole number. -/
  digits : Nat
  /-- The power of ten they are multiplied by. -/
  exponent : Int
  deriving DecidableEq, Repr

/-- Ten to a power as a fraction. -/
def tenTo (e : Int) : Nat × Nat :=
  if 0 ≤ e then (Nat.pow 10 e.toNat, 1) else (1, Nat.pow 10 (-e).toNat)

/-- The interval that rounds to a binary number, as numerators over one
denominator: lower end, value, upper end. -/
def Binary.interval (b : Binary) : (Nat × Nat × Nat) × Nat :=
  let scale := if 0 ≤ b.exponent - 2 then Nat.pow 2 (b.exponent - 2).toNat else 1
  let den := if 0 ≤ b.exponent - 2 then 1 else Nat.pow 2 (2 - b.exponent).toNat
  let low := 4 * b.significand - (if b.narrowBelow then 1 else 2)
  ((low * scale, 4 * b.significand * scale, (4 * b.significand + 2) * scale), den)

/-- The better of the value's two neighbours on the grid of multiples of ten
to the power `e`, if one of them is in the interval. -/
def onGrid (b : Binary) (e : Int) : Option Numeral :=
  let ((low, value, high), den) := b.interval
  let (num, dec) := tenTo e
  -- a grid point `k` is `k * num / dec`; compare over the denominator `den * dec`
  let unit := num * den
  let k := value * dec / unit
  let inside (j : Nat) : Bool :=
    let x := j * unit
    if b.significand % 2 == 0 then low * dec ≤ x && x ≤ high * dec
    else low * dec < x && x < high * dec
  let below := value * dec - k * unit
  let above := (k + 1) * unit - value * dec
  match inside k && k != 0, inside (k + 1) with
  | true, true =>
    if below < above || (below == above && k % 2 == 0) then some ⟨k, e⟩ else some ⟨k + 1, e⟩
  | true, false => some ⟨k, e⟩
  | false, true => some ⟨k + 1, e⟩
  | false, false => none

/-- The number of digits before the point of the value's whole part, or, of
a value below one, minus the number of zeros after its point. -/
def magnitude (b : Binary) : Int :=
  let ((_, value, _), den) := b.interval
  if den ≤ value then (Nat.toDigits 10 (value / den)).length
  else -- the reciprocal's whole part has one digit more than there are zeros
    1 - (Nat.toDigits 10 ((den - 1) / value)).length

/-- Takes the zeros off the end of the digits; `fuel` bounds their number. -/
def Numeral.withoutZeros (fuel : Nat) (d : Numeral) : Numeral :=
  match fuel with
  | 0 => d
  | fuel + 1 =>
    if d.digits % 10 == 0 && d.digits != 0 then
      Numeral.withoutZeros fuel ⟨d.digits / 10, d.exponent + 1⟩
    else d

/-- The shortest decimal that rounds to a positive binary number. Seventeen
digits always suffice. -/
def shortest (b : Binary) : Numeral :=
  let top := magnitude b
  match (List.range 17).findSome? fun (n : Nat) => onGrid b (top - 1 - n) with
  | some d => d.withoutZeros 400
  | none => ⟨0, 0⟩

example : (Binary.ofBits? 0x3FB999999999999A).map shortest = some ⟨1, -1⟩ := by decide +kernel
example : (Binary.ofBits? 1).map shortest = some ⟨5, -324⟩ := by decide +kernel

end Marginalia.Decimal
