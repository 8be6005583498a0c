/-
Marginalia.Markdown.LineStart — what the content of a line may start with.

Each function looks at the rest of a line from its first character that is
neither space nor tab, the line feed included, and recognises one way in
which a block starts there.
-/
import Marginalia.Markdown.Outline

namespace Marginalia.Markdown.LineStart

open Text

/-- Does the line end here, spaces and tabs aside? -/
def isLineEnd (s : List Char) : Bool := (s.dropWhile isSpaceOrTab).head? == some '\n'

/-- The length of the run of a character. -/
def runLength (c : Char) (s : List Char) : Nat := (s.takeWhile (· == c)).length

/-- A heading behind one to six number signs: its level, and the length of
the signs and of the blanks behind them. -/
def heading? (s : List Char) : Option (Nat × Nat) :=
  let level := runLength '#' s
  let rest := s.drop level
  if level < 1 || level > 6 then none
  else match rest with
    | '\n' :: _ => some (level, level + 1)
    | _ =>
      let blanks := (rest.takeWhile isSpaceOrTab).length
      if blanks = 0 then none else some (level, level + blanks)

/-- A fence that opens code: its character and length. The rest of a line
behind backquotes has none. -/
def fence? (s : List Char) : Option (Char × Nat) :=
  let backquotes := runLength '\x60' s
  let tildes := runLength '~' s
  if backquotes ≥ 3 then
    if (s.drop backquotes).contains '\x60' then none else some ('\x60', backquotes)
  else if tildes ≥ 3 then some ('~', tildes)
  else none

/-- Is the line a fence that closes code opened by such a fence? -/
def closesFence (fence : Char) (length : Nat) (s : List Char) : Bool :=
  let n := runLength fence s
  n ≥ 3 && n ≥ length && isLineEnd (s.drop n)

/-- The level of the heading that a line underlines, if it is an underline. -/
def underline? (s : List Char) : Option Nat :=
  let level (c : Char) (n : Nat) :=
    if runLength c s ≥ 1 && isLineEnd (s.drop (runLength c s)) then some n else none
  (level '=' 1).or (level '-' 2)

/-- Is the line a thematic break: three or more of one mark, and blanks? -/
def isRule (s : List Char) : Bool :=
  ['*', '_', '-'].any fun c =>
    s.head? == some c && s.count c ≥ 3
      && s.all fun d => d == c || isSpaceOrTab d || d == '\n'

/-- The marker of an item and its length. One that interrupts a paragraph
needs content on its line and, if it is a number, to be one. -/
def marker? (interrupts : Bool) (s : List Char) : Option (Marker × Nat) :=
  let accept (marker : Marker) (length : Nat) : Option (Marker × Nat) :=
    let rest := s.drop length
    if !rest.head?.any isPlainBlank then none
    else if interrupts && isLineEnd rest then none
    else some (marker, length)
  match s with
  | c :: cs =>
    if c == '*' || c == '-' || c == '+' then accept (.bullet c) 1
    else
      let digits := ((c :: cs).takeWhile Char.isDigit).take 9
      let start := digits.foldl (fun n d => 10 * n + (d.toNat - 48)) 0
      match s.drop digits.length with
      | d :: _ =>
        if digits.isEmpty || !(d == '.' || d == ')') || (interrupts && start != 1) then none
        else accept (.ordered d start) (digits.length + 1)
      | [] => none
  | [] => none

/-- The text of a heading line behind the number signs, without blanks at
its end and without the closing run of number signs. -/
def headingText (s : List Char) : List Char :=
  let trimmed := dropEndWhile isPlainBlank s
  let rest := dropEndWhile (· == '#') trimmed
  if rest.isEmpty then []
  else if rest.length < trimmed.length && rest.getLast?.any isSpaceOrTab then
    dropEndWhile isPlainBlank rest
  else trimmed

example : headingText "a ## ".toList = ['a'] := by decide
example : headingText "a#".toList = ['a', '#'] := by decide

end Marginalia.Markdown.LineStart
