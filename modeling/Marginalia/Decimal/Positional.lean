/-
Marginalia.Decimal.Positional — decimal numbers without exponents.

A decimal number is written with all its digits in place, and at least one
digit on each side of the point.
-/
import Marginalia.Decimal.Shortest

namespace Marginalia.Decimal

/-- A decimal number in positional notation. -/
def Numeral.positional (d : Numeral) : List Char :=
  let digits := Nat.toDigits 10 d.digits
  let whole : Int := digits.length + d.exponent
  if whole ≤ 0 then ['0', '.'] ++ List.replicate (-whole).toNat '0' ++ digits
  else if digits.length ≤ whole.toNat then
    digits ++ List.replicate (whole.toNat - digits.length) '0' ++ ['.', '0']
  else digits.take whole.toNat ++ ['.'] ++ digits.drop whole.toNat

/-- A 64-bit floating point number given by its bits, in positional notation
with the fewest digits that read back. -/
def positionalText (bits : UInt64) : List Char :=
  let sign := if isNegativeBits bits then ['-'] else []
  match Binary.ofBits? bits with
  | none =>
    if bits.toNat % Nat.pow 2 52 = 0 then sign ++ ['i', 'n', 'f'] else ['N', 'a', 'N']
  | some b =>
    if b.significand == 0 then sign ++ ['0', '.', '0'] else sign ++ (shortest b).positional

example : (⟨15, -1⟩ : Numeral).positional = "1.5".toList := by decide
example : (⟨5, -3⟩ : Numeral).positional = "0.005".toList := by decide
example : (⟨12, 2⟩ : Numeral).positional = "1200.0".toList := by decide

end Marginalia.Decimal
