/-
Marginalia.Markdown.Cursor — a place in a line, counted in columns.

A tab reaches to the next column that is a multiple of four. Indentation is
taken off by columns, so a place may lie inside a tab, of which then some
columns are left.
-/
import Marginalia.Text.Blank

namespace Marginalia.Markdown

/-- How far it is from a column to the next tab stop. -/
def toTabStop (column : Nat) : Nat := 4 - column % 4

/-- A place in a line. -/
structure Cursor where
  /-- The rest of the line, with its line feed. -/
  rest : List Char
  /-- The column of the place. -/
  column : Nat := 0
  /-- Does the rest start with a tab of which some columns are taken? -/
  inTab : Bool := false
  deriving Repr

namespace Cursor

/-- The columns of the leading spaces and tabs of a text that starts at a
column. -/
def blankColumns (column : Nat) : List Char → Nat
  | ' ' :: cs => 1 + blankColumns (column + 1) cs
  | '\t' :: cs => toTabStop column + blankColumns (column + toTabStop column) cs
  | _ => 0

/-- How far the content of the line is indented from here. -/
def indent (c : Cursor) : Nat := blankColumns c.column c.rest

/-- The rest of the line without leading spaces and tabs. -/
def content (c : Cursor) : List Char := c.rest.dropWhile Text.isSpaceOrTab

/-- Is nothing left but spaces and tabs? -/
def isBlank (c : Cursor) : Bool := c.content.head? == some '\n'

/-- The place behind `n` more characters. -/
def skip : Nat → Cursor → Cursor
  | 0, c => c
  | n + 1, ⟨ch :: cs, column, _⟩ =>
    skip n ⟨cs, if ch == '\t' then column + toTabStop column else column + 1, false⟩
  | _ + 1, ⟨[], column, inTab⟩ => ⟨[], column, inTab⟩

/-- The place `n` columns on in a text that starts at a column. -/
def skipColumnsFrom (column : Nat) (inTab : Bool) (n : Nat) : List Char → Cursor
  | [] => ⟨[], column, inTab⟩
  | c :: cs =>
    if n = 0 then ⟨c :: cs, column, inTab⟩
    else if c == '\t' then
      if toTabStop column > n then ⟨c :: cs, column + n, true⟩
      else skipColumnsFrom (column + toTabStop column) false (n - toTabStop column) cs
    else skipColumnsFrom (column + 1) false (n - 1) cs

/-- The place `n` columns on. -/
def skipColumns (n : Nat) (c : Cursor) : Cursor := skipColumnsFrom c.column c.inTab n c.rest

/-- The place where the content of the line starts. -/
def toContent (c : Cursor) : Cursor := c.skip (c.rest.length - c.content.length)

/-- Does a space or a tab come next? -/
def atBlank (c : Cursor) : Bool := c.rest.head?.any Text.isSpaceOrTab

/-- Does the line end here? -/
def atEnd (c : Cursor) : Bool := c.rest.head? == some '\n'

/-- The place behind up to `n` columns of spaces and tabs. -/
def skipBlankColumns : Nat → Cursor → Cursor
  | 0, c => c
  | n + 1, c => if c.atBlank then skipBlankColumns n (c.skipColumns 1) else c

/-- The rest of the line as text: what is left of a tab stands as spaces. -/
def text (c : Cursor) : List Char :=
  if c.inTab then List.replicate (toTabStop c.column) ' ' ++ c.rest.drop 1 else c.rest

end Cursor

end Marginalia.Markdown
