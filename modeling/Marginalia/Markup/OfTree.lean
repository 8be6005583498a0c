/-
Marginalia.Markup.OfTree — trees as HTML.

Every block is written as an element. Its name is the kind's own unless the
block carries one, and the properties it carries are merged over the
element's own attributes: a property replaces an attribute of the same name
in place, or comes behind the others.

Blocks that stand side by side are parted by line ends. An element that
holds blocks has each on lines of its own; in a tight list the paragraphs
of an item are written without element, as inlines. Raw HTML is left out
unless it is allowed, and leaves no line end behind.

The whole is structural: `lines` keeps the pieces of each shown block apart,
and `joinLines`, `container` and `childPieces` lay them out.
-/
import Marginalia.Callout.Conversion
import Marginalia.Markup.Piece

namespace Marginalia.Markup

/-! ## 1. Attributes -/

/-- The attribute that a property is written as. -/
def attributeName (property : String) : String :=
  if property = Data.classProperty then "class"
  else if property = "htmlFor" then "for"
  else property

/-- The attributes with one of them set: in place, or at the end if there is
none of the name. -/
def setAttribute (name value : String) : List Attribute → List Attribute
  | [] => [(name, value)]
  | a :: as => if a.1 = name then (name, value) :: as else a :: setAttribute name value as

/-- An element's own attributes with the properties of a block merged over
them. -/
def mergeAttributes (own : List Attribute) (properties : List (String × String)) :
    List Attribute :=
  properties.foldl (fun as p => setAttribute (attributeName p.1) p.2 as) own

/-- The opening tag of an element of a block. -/
def openTag (name : String) (own : List Attribute) (d : Data) : Piece :=
  .openTag name (mergeAttributes own d.properties.entries)

/-- The name of a block's element. -/
def elementName (d : Data) (natural : String) : String := d.elementName.getD natural

/-! ## 2. Inlines -/

/-- The attribute `title`, if there is a title. -/
def titleAttribute : Option String → List Attribute
  | none => []
  | some t => [("title", t)]

mutual

/-- The pieces of an inline; `raw` allows raw HTML. -/
def inlinePieces (raw : Bool) : Inline → List Piece
  | .text value => [.text value]
  | .emphasis cs => .openTag "em" [] :: inlinesPieces raw cs ++ [.closeTag "em"]
  | .strong cs => .openTag "strong" [] :: inlinesPieces raw cs ++ [.closeTag "strong"]
  | .delete cs => .openTag "del" [] :: inlinesPieces raw cs ++ [.closeTag "del"]
  | .code value => [.openTag "code" [], .text value, .closeTag "code"]
  | .lineBreak => [.openTag "br" [], .newline]
  | .link url title cs =>
    .openTag "a" (("href", url) :: titleAttribute title) :: inlinesPieces raw cs
      ++ [.closeTag "a"]
  | .image url title alt =>
    [.openTag "img" (("src", url) :: ("alt", alt) :: titleAttribute title)]
  | .html value => if raw then [.raw value] else []

/-- The pieces of inlines. -/
def inlinesPieces (raw : Bool) : List Inline → List Piece
  | [] => []
  | i :: is => inlinePieces raw i ++ inlinesPieces raw is

end

/-! ## 3. Layout -/

/-- Is the block written at all? -/
def isShown (raw : Bool) : Block → Bool
  | .html .. => raw
  | _ => true

/-- Lines with a line end between each two. -/
def joinLines : List (List Piece) → List Piece
  | [] => []
  | [l] => l
  | l :: ls => l ++ .newline :: joinLines ls

/-- An element with lines inside, each followed by a line end. -/
def container (name : String) (own : List Attribute) (d : Data) (ls : List (List Piece)) :
    List Piece :=
  openTag name own d :: .newline :: ls.flatMap (· ++ [.newline]) ++ [.closeTag name]

/-- A child of an item: its pieces, and whether it is a paragraph written
without element. -/
structure Child where
  /-- Is it written without element? -/
  unwrapped : Bool
  /-- Its pieces. -/
  pieces : List Piece

/-- The children of an item, each after the first behind a line end. An
element has a line end before it also when it comes first, and one behind it
when it comes last. -/
def childPieces (first : Bool) : List Child → List Piece
  | [] => []
  | [c] =>
    (if first && c.unwrapped then [] else [.newline]) ++ c.pieces
      ++ (if c.unwrapped then [] else [.newline])
  | c :: cs =>
    (if first && c.unwrapped then [] else [.newline]) ++ c.pieces ++ childPieces false cs

/-- The attributes of a callout itself: its kind as class, unless the class
is set in its data. -/
def calloutAttributes (kind : String) (d : Data) : List Attribute :=
  if d.className?.isSome then [] else [("class", kind)]

/-- The attributes of a list itself: where an ordered list starts, unless at
one. -/
def listAttributes (ordered : Bool) (start : Option UInt64) : List Attribute :=
  match start with
  | some n =>
    if ordered && n != 1 then [("start", String.ofList (Nat.toDigits 10 n.toNat))] else []
  | none => []

/-- The attributes of code itself: its language. -/
def codeAttributes : Option String → List Attribute
  | some language => [("class", "language-" ++ language)]
  | none => []

/-- The element of a heading of some depth. -/
def headingName (depth : UInt8) : String := "h" ++ String.ofList (Nat.toDigits 10 depth.toNat)

/-- A block with its pieces as a child of an item; unless the item is loose, a
paragraph is written without element. -/
def itemChild (raw loose : Bool) (b : Block) (pieces : List Piece) : Child :=
  match b with
  | .paragraph cs _ => if loose then ⟨false, pieces⟩ else ⟨true, inlinesPieces raw cs⟩
  | _ => ⟨false, pieces⟩

/-! ## 4. Blocks -/

mutual

/-- The pieces of a block; `raw` allows raw HTML. -/
def blockPieces (raw : Bool) : Block → List Piece
  | .paragraph cs d =>
    openTag (elementName d "p") [] d :: inlinesPieces raw cs ++ [.closeTag (elementName d "p")]
  | .heading depth cs d =>
    let name := elementName d (headingName depth)
    openTag name [] d :: inlinesPieces raw cs ++ [.closeTag name]
  | .quote cs d => container (elementName d "blockquote") [] d (lines raw cs)
  | .callout kind cs d =>
    container (elementName d Callout.defaultElement) (calloutAttributes kind d) d
      (lines raw cs)
  | .list ordered start spread items d =>
    container (elementName d (if ordered then "ol" else "ul")) (listAttributes ordered start) d
      (itemLines raw spread items)
  | .code language _ value d =>
    let name := elementName d "code"
    .openTag "pre" [] :: openTag name (codeAttributes language) d
      :: (if value.isEmpty then [] else [.text value, .newline])
      ++ [.closeTag name, .closeTag "pre"]
  | .rule d => [openTag (elementName d "hr") [] d]
  | .html value _ => if raw then [.raw value] else []

/-- The pieces of each block that is shown. -/
def lines (raw : Bool) : List Block → List (List Piece)
  | [] => []
  | b :: bs => if isShown raw b then blockPieces raw b :: lines raw bs else lines raw bs

/-- The pieces of each item of a list. -/
def itemLines (raw spread : Bool) : List Item → List (List Piece)
  | [] => []
  | i :: is => itemPieces raw spread i :: itemLines raw spread is

/-- The pieces of an item of a list that is spread or not. -/
def itemPieces (raw spread : Bool) : Item → List Piece
  | .mk itemSpread cs d =>
    openTag (elementName d "li") [] d
      :: childPieces true (itemChildren raw (spread || itemSpread) cs)
      ++ [.closeTag (elementName d "li")]

/-- The children of an item that are shown. -/
def itemChildren (raw loose : Bool) : List Block → List Child
  | [] => []
  | b :: bs =>
    if isShown raw b then
      itemChild raw loose b (blockPieces raw b) :: itemChildren raw loose bs
    else itemChildren raw loose bs

end

/-! ## 5. HTML -/

/-- The pieces of a sequence of blocks, parted by line ends. -/
def blocksPieces (raw : Bool) (bs : List Block) : List Piece := joinLines (lines raw bs)

/-- The HTML of a sequence of blocks. -/
def ofBlocks (raw : Bool) (bs : List Block) : String := render (blocksPieces raw bs)

/-- The HTML of inlines. -/
def ofInlines (raw : Bool) (is : List Inline) : String := render (inlinesPieces raw is)

/-- The HTML of a document. -/
def ofRoot (raw : Bool) (r : Root) : String := ofBlocks raw r.children

end Marginalia.Markup
