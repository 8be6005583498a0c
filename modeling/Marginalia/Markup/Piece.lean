/-
Marginalia.Markup.Piece — HTML as a sequence of pieces.

HTML is written as opening tags with attributes, closing tags, texts, and
raw passages that are passed on as they are. Texts escape the ampersand and
the less-than sign; attribute values, which stand between double quotes,
escape the ampersand and the quote. Everything else stands for itself.

Main statements: `escapeText_append`, `render_append` (writing goes piece
by piece).
-/

namespace Marginalia.Markup

/-! ## 1. Pieces -/

/-- An attribute: its name and its value before escaping. -/
abbrev Attribute := String × String

/-- A piece of HTML. -/
inductive Piece where
  | openTag (name : String) (attributes : List Attribute)
  | closeTag (name : String)
  | text (value : String)
  | raw (value : String)
  deriving DecidableEq, Repr

/-- The line end between pieces. -/
def Piece.newline : Piece := .text "\n"

/-! ## 2. Escapes -/

/-- A character of a text. -/
def escapeTextChar (c : Char) : List Char :=
  if c = '&' then ['&', 'a', 'm', 'p', ';']
  else if c = '<' then ['&', 'l', 't', ';']
  else [c]

/-- A character of an attribute value. -/
def escapeAttributeChar (c : Char) : List Char :=
  if c = '&' then ['&', 'a', 'm', 'p', ';']
  else if c = '"' then ['&', 'q', 'u', 'o', 't', ';']
  else [c]

/-- A text with its escapes. -/
def escapeText (s : List Char) : List Char := s.flatMap escapeTextChar

/-- An attribute value with its escapes. -/
def escapeAttribute (s : List Char) : List Char := s.flatMap escapeAttributeChar

theorem escapeText_append (s t : List Char) :
    escapeText (s ++ t) = escapeText s ++ escapeText t := by simp [escapeText]

/-! ## 3. Writing -/

/-- An attribute behind a blank. -/
def attributeChars (a : Attribute) : List Char :=
  ' ' :: a.1.toList ++ '=' :: '"' :: escapeAttribute a.2.toList ++ ['"']

/-- A piece as it is written. -/
def Piece.chars : Piece → List Char
  | .openTag name attributes =>
    '<' :: name.toList ++ attributes.flatMap attributeChars ++ ['>']
  | .closeTag name => '<' :: '/' :: name.toList ++ ['>']
  | .text value => escapeText value.toList
  | .raw value => value.toList

/-- Pieces as they are written. -/
def renderChars (ps : List Piece) : List Char := ps.flatMap Piece.chars

/-- The text of pieces. -/
def render (ps : List Piece) : String := String.ofList (renderChars ps)

theorem renderChars_append (ps qs : List Piece) :
    renderChars (ps ++ qs) = renderChars ps ++ renderChars qs := by simp [renderChars]

theorem render_append (ps qs : List Piece) : render (ps ++ qs) = render ps ++ render qs := by
  simp [render, renderChars_append]

end Marginalia.Markup
