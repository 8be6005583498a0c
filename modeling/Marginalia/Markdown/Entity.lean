/-
Marginalia.Markdown.Entity — character references and backslash escapes.

An ampersand starts a character reference when a known name and a
semicolon follow, or `#` with one to seven decimal digits, or `#x` with one
to seven hexadecimal digits, and a semicolon. A number that is no character
stands for U+FFFD, and so does the first number behind the surrogates. A
backslash before ASCII punctuation stands for that character. In addresses
and titles references are resolved first, so that a backslash may itself
come from a reference.
-/
import Marginalia.Markdown.EntityNames
import Marginalia.Text.Blank
import Marginalia.Text.Category

namespace Marginalia.Markdown

/-! ## 1. Character references -/

/-- The character with a code point; U+FFFD for NUL, for numbers that are no
character, and for U+E000. -/
def charOfCode (n : Nat) : Char :=
  if n = 0 ∨ n = 0xE000 ∨ ¬ n.isValidChar then '\uFFFD' else Char.ofNat n

/-- The decimal or hexadecimal digits behind `#`, and what follows them. -/
def readNumericEntity? (s : List Char) : Option (Nat × List Char) :=
  match s with
  | 'x' :: r | 'X' :: r =>
    let digits := r.takeWhile (Text.hexValue? · |>.isSome)
    if 1 ≤ digits.length ∧ digits.length ≤ 7 then
      some (Text.hexNumber digits, r.drop digits.length)
    else none
  | r =>
    let digits := r.takeWhile Char.isDigit
    if 1 ≤ digits.length ∧ digits.length ≤ 7 then
      some (digits.foldl (fun n c => 10 * n + (c.toNat - 48)) 0, r.drop digits.length)
    else none

/-- Reads the reference behind an ampersand: the characters it stands for and
the number of characters it takes, the semicolon included. -/
def readEntity? (s : List Char) : Option (List Char × Nat) :=
  match s with
  | '#' :: r => match readNumericEntity? r with
    | some (n, ';' :: rest) => some ([charOfCode n], s.length - rest.length)
    | _ => none
  | _ =>
    let name := s.takeWhile (· != ';')
    if name.length < s.length then
      (entityNamed? name).map fun chars => (chars, name.length + 1)
    else none

/-- Resolves references; the first `skip` characters belong to a reference
already resolved. -/
def decodeEntitiesFrom (skip : Nat) : List Char → List Char
  | [] => []
  | c :: cs => match skip with
    | k + 1 => decodeEntitiesFrom k cs
    | 0 =>
      if c == '&' then match readEntity? cs with
        | some (chars, n) => chars ++ decodeEntitiesFrom n cs
        | none => c :: decodeEntitiesFrom 0 cs
      else c :: decodeEntitiesFrom 0 cs

/-- The text with its character references resolved. -/
def decodeEntities (s : List Char) : List Char := decodeEntitiesFrom 0 s

/-! ## 2. Backslashes -/

/-- The text without the backslashes that stand before ASCII punctuation. -/
def dropBackslashes : List Char → List Char
  | '\\' :: c :: cs =>
    if Text.isAsciiPunct c then c :: dropBackslashes cs else '\\' :: dropBackslashes (c :: cs)
  | c :: cs => c :: dropBackslashes cs
  | [] => []

example : dropBackslashes "a\\*\\b\\\\".toList = "a*\\b\\".toList := by decide

/-! ## 3. Addresses, titles and info texts -/

/-- The text with references resolved and then escapes. -/
def unescape (s : List Char) : List Char := dropBackslashes (decodeEntities s)

/-- The address that a link destination writes. -/
def addressOf (s : List Char) : List Char := unescape (Text.trimPlain s)

/-- The title that a link title writes: its delimiters are cut. -/
def titleOf (s : List Char) : List Char :=
  match s.head?, s.getLast? with
  | some '"', some '"' | some '\'', some '\'' | some '(', some ')' =>
    unescape ((s.drop 1).take (s.length - 2))
  | _, _ => unescape s

/-- The info text that the opening line of fenced code writes. -/
def infoOf (s : List Char) : List Char := dropBackslashes (Text.trimPlain (decodeEntities s))

end Marginalia.Markdown
