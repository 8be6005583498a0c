/-
Marginalia.Markdown.Tag — raw HTML and addresses between angle brackets.

The lexical forms that markdown takes over from HTML: tags, comments,
processing instructions, declarations and CDATA sections; the lines that
start and end a block of raw HTML; and the two forms of an address between
angle brackets. The forms are looked for behind the opening bracket.
-/
import Marginalia.Markdown.Scanner
import Marginalia.Text.Blank

namespace Marginalia.Markdown.Tag

open Scanner

/-! ## 1. Tags -/

/-- Blanks, line feeds among them. -/
def blanks : Scanner := run Text.isAsciiBlank

/-- At least one blank. -/
def blanks1 : Scanner := run1 Text.isAsciiBlank

/-- The name of an element. -/
def name : Scanner := one Char.isAlpha >> run fun c => c.isAlphanum || c == '-'

/-- The name of an attribute. -/
def attributeName : Scanner :=
  one (fun c => c.isAlpha || c == '_' || c == ':') >>
    run fun c => c.isAlphanum || c == ':' || c == '.' || c == '_' || c == '-'

/-- Characters up to the next quote of the kind, and the quote. -/
def upToQuote (quote : Char) : Scanner := run (· != quote) >> char quote

/-- The value of an attribute, bare or between quotes. -/
def attributeValue : Scanner :=
  (char '"' >> upToQuote '"') <|> (char '\'' >> upToQuote '\'') <|>
    run1 fun c => !(Text.isAsciiBlank c || ['"', '\'', '=', '<', '>', '\x60'].contains c)

/-- An attribute with the blanks before it. -/
def spacedAttribute : Scanner :=
  blanks1 >> attributeName >> maybe (blanks >> char '=' >> blanks >> attributeValue)

/-- An opening tag behind its bracket. -/
def opening : Scanner := name >> many spacedAttribute >> blanks >> maybe (char '/') >> char '>'

/-- A closing tag behind its bracket. -/
def closing : Scanner := char '/' >> name >> blanks >> char '>'

/-! ## 2. Other markup

A closing delimiter is looked for in steps: a step that starts with a first
part of the delimiter takes the character behind that part with it, so of
the three hyphens in `--->` the last two are not seen together. -/

/-- The text of a comment behind `<!--`, and `-->`. -/
def commentBody : Scanner
  | '-' :: '-' :: '>' :: r => some r
  | '-' :: '-' :: _ :: r => commentBody r
  | '-' :: _ :: r => commentBody r
  | _ :: r => commentBody r
  | [] => none

/-- The text of a CDATA section, and its end. -/
def cdataBody : Scanner
  | ']' :: ']' :: '>' :: r => some r
  | ']' :: ']' :: _ :: r => cdataBody r
  | ']' :: _ :: r => cdataBody r
  | _ :: r => cdataBody r
  | [] => none

/-- The text of a processing instruction, and its end. -/
def instructionBody : Scanner
  | '?' :: '>' :: r => some r
  | '?' :: _ :: r => instructionBody r
  | _ :: r => instructionBody r
  | [] => none

/-- A comment behind its bracket. -/
def comment : Scanner :=
  chars ['!', '-', '-', '>'] <|> chars ['!', '-', '-', '-', '>'] <|>
    (chars ['!', '-', '-'] >> commentBody)

/-- A CDATA section behind its bracket. -/
def cdata : Scanner := chars ['!', '['] >> word "CDATA[".toList >> cdataBody

/-- A declaration behind its bracket: a name in capitals, a blank, and more. -/
def declaration : Scanner :=
  char '!' >> run1 Char.isUpper >> blanks1 >> run (· != '>') >> char '>'

/-- A processing instruction behind its bracket. -/
def instruction : Scanner := char '?' >> instructionBody

/-- The forms of markup that were looked for in vain: what has no end once is
not looked for again in the same text. -/
structure Unended where
  comment : Bool := false
  cdata : Bool := false
  instruction : Bool := false

/-- The length of the markup behind an opening bracket, if there is any, and
the forms that have no end from here on. -/
def markupLength? (gone : Unended) (s : List Char) : Option Nat × Unended :=
  match s with
  | '!' :: '-' :: '-' :: _ =>
    if gone.comment then (none, gone)
    else match comment.lengthOf? s with
      | some n => (some n, gone)
      | none => (none, { gone with comment := true })
  | '!' :: '[' :: r =>
    if gone.comment || gone.cdata then (none, gone)
    else match cdata.lengthOf? s with
      | some n => (some n, gone)
      | none => (none, { gone with cdata := (word "CDATA[".toList).starts r })
  | '!' :: _ => (if gone.comment then none else declaration.lengthOf? s, gone)
  | '?' :: _ =>
    if gone.instruction then (none, gone)
    else match instruction.lengthOf? s with
      | some n => (some n, gone)
      | none => (none, { gone with instruction := true })
  | _ => ((opening <|> closing).lengthOf? s, gone)

/-! ## 3. Addresses -/

/-- A character of the scheme of an address. -/
def isSchemeChar (c : Char) : Bool := c.isAlphanum || c == '.' || c == '+' || c == '-'

/-- An absolute address behind its bracket, with the closing bracket: a
scheme of 2 to 32 characters, a colon, and no blanks, controls or brackets. -/
def absolute : Scanner := fun s =>
  let scheme := s.takeWhile isSchemeChar
  if 2 ≤ scheme.length && scheme.length ≤ 32 && (one Char.isAlpha).starts s then
    (char ':' >> run (fun c => !(c.toNat ≤ 32 || c == '<' || c == '>')) >> char '>')
      (s.drop scheme.length)
  else none

/-- A part of the name of a host: letters, digits and inner hyphens, at most
63 characters. -/
def label : Scanner := fun s =>
  let part := s.takeWhile fun c => c.isAlphanum || c == '-'
  if 1 ≤ part.length && part.length ≤ 63 && part.head? != some '-' && part.getLast? != some '-'
  then some (s.drop part.length)
  else none

/-- A mail address behind its bracket, with the closing bracket. -/
def mail : Scanner :=
  run1 (fun c => c.isAlphanum || ".!#$%&'*+/=?^_\x60\x7b|\x7d~-".toList.contains c) >>
  char '@' >>
    label >> many (char '.' >> label) >> char '>'

/-! ## 4. Blocks of raw HTML -/

/-- The ways in which a block of raw HTML starts; they end differently. -/
inductive BlockStart where
  /-- An element whose text is not markup. -/
  | verbatim
  | comment
  | instruction
  | declaration
  | cdata
  /-- An element that is a block by itself. -/
  | element
  /-- Any other tag, alone on its line. -/
  | lone
  deriving DecidableEq, Repr

/-- The elements whose text is not markup. -/
def verbatimNames : List String := ["script", "pre", "textarea", "style"]

/-- The elements that are blocks by themselves. -/
def blockNames : List String :=
  ["address", "article", "aside", "base", "basefont", "blockquote", "body", "caption",
   "center", "col", "colgroup", "dd", "details", "dialog", "dir", "div", "dl", "dt",
   "fieldset", "figcaption", "figure", "footer", "form", "frame", "frameset", "h1", "h2",
   "h3", "h4", "h5", "h6", "head", "header", "hr", "html", "iframe", "legend",
   "li", "link", "main", "menu", "menuitem", "nav", "noframes", "ol", "optgroup", "option",
   "p", "param", "search", "section", "summary", "table", "tbody", "td", "tfoot", "th",
   "thead", "title", "tr", "track", "ul"]

/-- The way in which a line starts a block of raw HTML, if it does; a lone
tag counts only where `lone` is set. -/
def blockStart? (lone : Bool) (line : List Char) : Option BlockStart :=
  match line with
  | '<' :: s =>
    if (oneOf verbatimNames (one fun c => Text.isAsciiBlank c || c == '>')).starts s then
      some .verbatim
    else if (chars ['!', '-', '-']).starts s then some .comment
    else if (char '?').starts s then some .instruction
    else if (char '!' >> one Char.isUpper).starts s then some .declaration
    else if (word "![CDATA[".toList).starts s then some .cdata
    else if (maybe (char '/') >> oneOf blockNames
        (one Text.isAsciiBlank <|> (maybe (char '/') >> char '>'))).starts s then
      some .element
    else if lone && ((opening <|> closing) >>
        run (fun c => Text.isSpaceOrTab c || c == '\x0c') >> char '\n').starts s then
      some .lone
    else none
  | _ => none

/-- Does the block end with this line? The last two kinds end before a blank
line instead. -/
def BlockStart.endsOn (start : BlockStart) (line : List Char) : Bool :=
  match start with
  | .verbatim => (chars ['<', '/'] >> oneOf verbatimNames (char '>')).occurs line
  | .comment => (chars ['-', '-', '>']).occurs line
  | .instruction => (chars ['?', '>']).occurs line
  | .declaration => (char '>').occurs line
  | .cdata => (chars [']', ']', '>']).occurs line
  | .element | .lone => false

/-- Does a blank line end the block? -/
def BlockStart.endsBeforeBlank : BlockStart → Bool
  | .element | .lone => true
  | _ => false

end Marginalia.Markdown.Tag
