/-
Marginalia.Yaml.Place — going through the characters of a YAML text.

Lines end at line feeds, carriage returns and pairs of these, and at the
three further line ends of Unicode, of which two are kept in scalars as they
are and all others become line feeds.
-/
import Marginalia.Yaml.Fault

namespace Marginalia.Yaml

/-! ## 1. Classes of characters -/

/-- A space or a tab. -/
def isBlank (c : Char) : Bool := c == ' ' || c == '\t'

/-- A character at which a line ends. -/
def isBreak (c : Char) : Bool :=
  c == '\n' || c == '\r' || c == '\u0085' || c == '\u2028' || c == '\u2029'

/-- Blanks, line ends, and the end of the text. -/
def isGap (c : Option Char) : Bool := c.all fun c => isBlank c || isBreak c

/-- A character of names: a letter, a digit, a hyphen or an underscore. -/
def isNameChar (c : Char) : Bool := c.isAlphanum || c == '-' || c == '_'

/-- Is the character one that YAML texts may hold? -/
def isAllowed (c : Char) : Bool :=
  let n := c.toNat
  n == 9 || n == 10 || n == 13 || (0x20 ≤ n && n ≤ 0x7E) || n == 0x85
    || (0xA0 ≤ n && n ≤ 0xD7FF) || (0xE000 ≤ n && n ≤ 0xFFFD) || 0x10000 ≤ n

/-! ## 2. Places -/

/-- The bytes that a text takes. -/
def byteCount (s : List Char) : Nat := s.foldr (fun c n => c.utf8Size + n) 0

/-- A place in a text, with the characters that follow. -/
structure Place where
  rest : List Char
  mark : Mark := {}

namespace Place

/-- The `n`-th character from here. -/
def peek (p : Place) (n : Nat) : Option Char := p.rest[n]?

/-- Does the character come next? -/
def at? (p : Place) (c : Char) : Bool := p.peek 0 == some c

/-- Does the text end here? -/
def atEnd (p : Place) : Bool := p.rest.isEmpty

/-- The place behind `n` characters that end no line. -/
def skip (n : Nat) (p : Place) : Place :=
  let taken := p.rest.take n
  ⟨p.rest.drop n,
    { p.mark with
      index := p.mark.index + byteCount taken
      column := p.mark.column + taken.length }⟩

/-- The place behind a line end, if one comes next, and the character that it
stands for. -/
def skipBreak? (p : Place) : Option (Char × Place) :=
  let next (n : Nat) (r : List Char) : Place := ⟨r, ⟨p.mark.index + n, p.mark.line + 1, 0⟩⟩
  match p.rest with
  | '\r' :: '\n' :: r => some ('\n', next 2 r)
  | c :: r =>
    if c == '\u2028' || c == '\u2029' then some (c, next c.utf8Size r)
    else if isBreak c then some ('\n', next c.utf8Size r)
    else none
  | [] => none

/-- The longest run of a class from here, and the place behind it. -/
def takeWhile (test : Char → Bool) (p : Place) : List Char × Place :=
  let run := p.rest.takeWhile test
  (run, p.skip run.length)

/-- The place behind the longest run of a class. -/
def skipWhile (test : Char → Bool) (p : Place) : Place := (p.takeWhile test).2

/-- The place behind a comment, if one starts here. -/
def skipComment (p : Place) : Place := if p.at? '#' then p.skipWhile (!isBreak ·) else p

/-- The fault that a problem here is. -/
def fault (p : Place) (problem : Problem) (reading : Option (Activity × Mark)) : Fault :=
  .problem problem p.mark reading

/-- Does a line of three given characters and a gap start here? -/
def atIndicator (p : Place) (c : Char) : Bool :=
  p.mark.column == 0 && p.rest.take 3 == [c, c, c] && isGap (p.peek 3)

/-- Does a line that starts or ends a document start here? -/
def atDocument (p : Place) : Bool := p.atIndicator '-' || p.atIndicator '.'

end Place

/-! ## 3. Folding -/

/-- What stands between two parts of a scalar: blanks, or the line ends and
nothing of the blanks around them. -/
structure Gap where
  blanks : List Char := []
  breaks : List Char := []

namespace Gap

/-- The text of a gap: a line feed alone is a space, one before other line
ends is dropped. -/
def folded (g : Gap) : List Char :=
  match g.breaks with
  | [] => g.blanks
  | ['\n'] => [' ']
  | '\n' :: more => more
  | breaks => breaks

/-- Reads a gap, line ends newest first. Where a `margin` is given, a tab to
the left of it behind a line end is a problem. -/
def readFrom (margin : Int) (g : Gap) (p : Place) : Nat → Except Mark (Gap × Place)
  | 0 => .ok (g, p)
  | n + 1 =>
    match p.rest with
    | [] => .ok (g, p)
    | c :: _ =>
      if isBlank c then
        if g.breaks.isEmpty then
          readFrom margin { g with blanks := c :: g.blanks } (p.skip 1) n
        else if c == '\t' && (p.mark.column : Int) < margin then .error p.mark
        else readFrom margin g (p.skip 1) n
      else match p.skipBreak? with
        | some (b, next) => readFrom margin { g with breaks := b :: g.breaks } next n
        | none => .ok (g, p)

/-- Reads a gap. -/
def read (margin : Int) (p : Place) : Except Mark (Gap × Place) :=
  (readFrom margin {} p p.rest.length).map fun (g, p) =>
    (⟨g.blanks.reverse, g.breaks.reverse⟩, p)

/-- Reads a gap in which a line end has been escaped: blanks do not count,
and no line end is dropped. -/
def readEscaped (p : Place) : Nat → List Char × Place
  | 0 => ([], p)
  | n + 1 =>
    match p.rest with
    | [] => ([], p)
    | c :: _ =>
      if isBlank c then readEscaped (p.skip 1) n
      else match p.skipBreak? with
        | some (b, next) =>
          let (breaks, p) := readEscaped next n
          (b :: breaks, p)
        | none => ([], p)

end Gap

end Marginalia.Yaml
