/-
Marginalia.Markdown.Outline — the blocks of a text before their running
text is read.

An outline is a tree of blocks. A list is tight when no two of its items,
and no two blocks directly inside one of its items, are parted by a blank
line. Whether a blank line follows a block is noted while lines are read;
a list or an item is also followed by one when its last child is.
-/
import Marginalia.Markdown.Tag

namespace Marginalia.Markdown

/-! ## 1. Shapes -/

/-- What stands before an item of a list. -/
inductive Marker where
  | bullet (char : Char)
  | ordered (delimiter : Char) (start : Nat)
  deriving DecidableEq, Repr

/-- Do two markers stand before items of one list? Numbers do not matter. -/
def Marker.sameKind : Marker → Marker → Bool
  | .bullet c, .bullet d => c == d
  | .ordered c _, .ordered d _ => c == d
  | _, _ => false

/-- What a block of an outline is. -/
inductive Shape where
  | document
  | quote
  | list (marker : Marker)
  /-- An item, with the indentation of its marker and the width that the
  marker and the blanks behind it take. -/
  | item (offset width : Nat)
  | indentedCode
  /-- Code between fences, with the indentation of the opening fence. -/
  | fencedCode (fence : Char) (length offset : Nat)
  | html (start : Tag.BlockStart)
  | paragraph
  | heading (level : Nat)
  | rule
  deriving DecidableEq, Repr

namespace Shape

/-- Can a block of the one shape stand directly in a block of the other? -/
def holds (outer inner : Shape) : Bool :=
  match outer, inner with
  | .list _, .item .. => true
  | .document, .item .. | .quote, .item .. | .item .., .item .. => false
  | .document, _ | .quote, _ | .item .., _ => true
  | _, _ => false

/-- Is the block made of lines of running text? -/
def takesText : Shape → Bool
  | .paragraph | .heading _ => true
  | _ => false

/-- Is the block made of lines taken as they are? -/
def isVerbatim : Shape → Bool
  | .indentedCode | .fencedCode .. | .html _ => true
  | _ => false

end Shape

/-! ## 2. Outlines -/

/-- A block: its shape, its lines, whether a blank line follows it, whether
it is tight if it is a list, and its children. -/
inductive Outline where
  | mk (shape : Shape) (lines : List (List Char)) (blankAfter tight : Bool)
    (children : List Outline)
  deriving Repr

namespace Outline

/-- The outline with a blank line after it. -/
def withBlankAfter : Outline → Outline
  | .mk shape lines _ tight children => .mk shape lines true tight children

mutual

/-- Does a blank line follow the block, or end it? -/
def endsBlank : Outline → Bool
  | .mk (.list _) _ blank _ cs => blank || lastEndsBlank cs
  | .mk (.item ..) _ blank _ cs => blank || lastEndsBlank cs
  | .mk _ _ blank _ _ => blank

/-- Does a blank line follow the last of some blocks, or end it? -/
def lastEndsBlank : List Outline → Bool
  | [] => false
  | [o] => endsBlank o
  | _ :: os => lastEndsBlank os

end

/-- Is no blank line between the children of an item, or behind the last of
them if the item is not the `last` one? -/
def childrenTight (last : Bool) : List Outline → Bool
  | [] => true
  | [o] => last || !o.endsBlank
  | o :: os => !o.endsBlank && childrenTight last os

/-- Are the items those of a tight list? -/
def itemsTight : List Outline → Bool
  | [] => true
  | .mk _ _ blank _ cs :: items =>
    !(blank && !items.isEmpty) && childrenTight items.isEmpty cs && itemsTight items

end Outline

end Marginalia.Markdown
