/-
Marginalia.Text.Ranges — sets of code points written as ranges.

The tables of the Unicode properties this library needs are long lists of
ranges. They are kept as text, the way the Unicode data files write them:
words `XXXX` or `XXXX-YYYY` in hexadecimal, parted by spaces. This module
reads such a text into a list of ranges and tests membership.
-/

namespace Marginalia.Text

/-! ## 1. Hexadecimal numbers -/

/-- The value of a hexadecimal digit, if it is one. -/
def hexValue? (c : Char) : Option Nat :=
  let n := c.toNat
  if 48 ≤ n && n ≤ 57 then some (n - 48)
  else if 65 ≤ n && n ≤ 70 then some (n - 55)
  else if 97 ≤ n && n ≤ 102 then some (n - 87)
  else none

/-- The number a run of hexadecimal digits writes; other characters count
nothing. -/
def hexNumber (digits : List Char) : Nat :=
  digits.foldl (fun n c => match hexValue? c with
    | some d => 16 * n + d
    | none => n) 0

/-! ## 2. Ranges -/

/-- A set of code points as inclusive ranges. -/
structure Ranges where
  /-- First and last code point of each range. -/
  bounds : List (Nat × Nat)

namespace Ranges

/-- Is the character in one of the ranges? -/
def contains (r : Ranges) (c : Char) : Bool :=
  r.bounds.any fun (first, last) => first ≤ c.toNat && c.toNat ≤ last

/-- The text cut at every space; empty pieces are left out. -/
def words (text : List Char) : List (List Char) :=
  let step (c : Char) : List Char × List (List Char) → List Char × List (List Char)
    | (word, rest) => if c == ' ' then ([], word :: rest) else (c :: word, rest)
  let (word, rest) := text.foldr step ([], [])
  (word :: rest).filter (!·.isEmpty)

/-- One range from its word. -/
def ofWord (word : List Char) : Nat × Nat :=
  match word.span (· != '-') with
  | (first, []) => (hexNumber first, hexNumber first)
  | (first, _ :: last) => (hexNumber first, hexNumber last)

/-- The ranges written in the lines of a table. -/
def ofTable (lines : List String) : Ranges :=
  ⟨lines.flatMap fun l => (words l.toList).map ofWord⟩

end Ranges

example : (Ranges.ofTable ["41-43 5F"]).bounds = [(0x41, 0x43), (0x5F, 0x5F)] := by decide

end Marginalia.Text
