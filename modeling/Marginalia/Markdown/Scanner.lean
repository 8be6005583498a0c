/-
Marginalia.Markdown.Scanner — taking the front off a text.

A scanner takes some characters off the front of a text and gives what is
left, or refuses. Scanners are put one behind the other with `then`, so the
definition of a lexeme reads like its grammar. Where several lengths are
possible a scanner takes the longest.
-/

namespace Marginalia.Markdown

/-- Takes some characters off the front of a text, or refuses. -/
abbrev Scanner := List Char → Option (List Char)

namespace Scanner

/-- One scanner behind the other. -/
def andThen (a b : Scanner) : Scanner := fun s => (a s).bind b

instance : AndThen Scanner where
  andThen a b := a.andThen (b ())

/-- The first scanner, or the second where the first refuses. -/
def orElse (a b : Scanner) : Scanner := fun s => (a s).or (b s)

instance : OrElse Scanner where
  orElse a b := a.orElse (b ())

/-- Takes nothing off. -/
def done : Scanner := some

/-- One character of a class. -/
def one (p : Char → Bool) : Scanner
  | c :: cs => if p c then some cs else none
  | [] => none

/-- One given character. -/
def char (c : Char) : Scanner := one (· == c)

/-- A given text. -/
def chars : List Char → Scanner
  | [] => done
  | c :: cs => char c >> chars cs

/-- A given ASCII text, in any case of its letters. -/
def word : List Char → Scanner
  | [] => done
  | c :: cs => one (fun d => d.toLower == c.toLower) >> word cs

/-- The first of some words that the text starts with and after which the
scanner goes on. -/
def oneOf (words : List String) (after : Scanner) : Scanner := fun s =>
  words.findSome? fun w => (word w.toList >> after) s

/-- The longest run of characters of a class, which may be empty. -/
def run (p : Char → Bool) : Scanner := fun s => some (s.dropWhile p)

/-- The longest run of characters of a class, which may not be empty. -/
def run1 (p : Char → Bool) : Scanner := one p >> run p

/-- The scanner, or nothing where it refuses. -/
def maybe (a : Scanner) : Scanner := fun s => some ((a s).getD s)

/-- The scanner up to `n` times, as long as it takes something off. -/
def upTo (a : Scanner) : Nat → List Char → List Char
  | 0, s => s
  | n + 1, s => match a s with
    | some r => if r.length < s.length then upTo a n r else s
    | none => s

/-- The scanner as often as it takes something off. -/
def many (a : Scanner) : Scanner := fun s => some (upTo a s.length s)

/-- How many characters the scanner takes off. -/
def lengthOf? (a : Scanner) (s : List Char) : Option Nat :=
  (a s).map fun r => s.length - r.length

/-- Does the text start with what the scanner takes? -/
def starts (a : Scanner) (s : List Char) : Bool := (a s).isSome

/-- Does what the scanner takes stand somewhere in the text? -/
def occurs (a : Scanner) : List Char → Bool
  | [] => a.starts []
  | c :: cs => a.starts (c :: cs) || occurs a cs

end Scanner

end Marginalia.Markdown
