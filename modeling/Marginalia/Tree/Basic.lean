/-
Marginalia.Tree.Basic — the tree of a markdown document.

A document is a sequence of blocks. Quotes, callouts and the items of lists
hold blocks again; paragraphs and headings hold inlines, the pieces of a
running text. A callout is a quote that was recognised by its marker; no
reader makes one.

Every function on trees is structural on `Block`, `Item` and lists of them.
-/
import Marginalia.Tree.Data

namespace Marginalia

/-! ## 1. Inlines -/

/-- A piece of a running text. A soft line break is a line feed in a text. -/
inductive Inline where
  | text (value : String)
  | emphasis (children : List Inline)
  | strong (children : List Inline)
  | delete (children : List Inline)
  | code (value : String)
  | lineBreak
  | link (url : String) (title : Option String) (children : List Inline)
  | image (url : String) (title : Option String) (alt : String)
  | html (value : String)
  deriving Inhabited

/-- The text of a text inline. -/
def Inline.asText? : Inline → Option String
  | .text value => some value
  | _ => none

/-! ## 2. Blocks -/

mutual

/-- A block of a document. -/
inductive Block where
  | paragraph (children : List Inline) (data : Data)
  | heading (depth : UInt8) (children : List Inline) (data : Data)
  | quote (children : List Block) (data : Data)
  /-- A quote with a marker; `kind` is the marker's type in lower case. -/
  | callout (kind : String) (children : List Block) (data : Data)
  /-- A list; `start` is the number of the first item of an ordered list, and
  `spread` says that its items are set apart by blank lines. -/
  | list (ordered : Bool) (start : Option UInt64) (spread : Bool) (items : List Item)
      (data : Data)
  /-- Code; `language` is the first word of its info text and `details` the rest. -/
  | code (language details : Option String) (value : String) (data : Data)
  | rule (data : Data)
  | html (value : String) (data : Data)

/-- An item of a list. -/
inductive Item where
  | mk (spread : Bool) (children : List Block) (data : Data)

end

instance : Inhabited Block := ⟨.rule .none⟩
instance : Inhabited Item := ⟨.mk false [] .none⟩

namespace Item

/-- Are the item's children set apart by blank lines? -/
def spread : Item → Bool
  | .mk spread _ _ => spread

/-- The blocks of the item. -/
def children : Item → List Block
  | .mk _ children _ => children

/-- What the item carries for its writer. -/
def data : Item → Data
  | .mk _ _ data => data

end Item

namespace Block

/-- The name of the block's kind. -/
def typeName : Block → String
  | .paragraph .. => "paragraph"
  | .heading .. => "heading"
  | .quote .. => "blockquote"
  | .callout .. => "callout"
  | .list .. => "list"
  | .code .. => "code"
  | .rule .. => "thematicBreak"
  | .html .. => "html"

/-- What the block carries for its writer. -/
def data : Block → Data
  | .paragraph _ d | .heading _ _ d | .quote _ d | .callout _ _ d | .list _ _ _ _ d
  | .code _ _ _ d | .rule d | .html _ d => d

/-- The block with other data. -/
def setData (d : Data) : Block → Block
  | .paragraph cs _ => .paragraph cs d
  | .heading n cs _ => .heading n cs d
  | .quote cs _ => .quote cs d
  | .callout k cs _ => .callout k cs d
  | .list o s sp is _ => .list o s sp is d
  | .code l m v _ => .code l m v d
  | .rule _ => .rule d
  | .html v _ => .html v d

/-- Is the block a callout? -/
def isCallout : Block → Bool
  | .callout .. => true
  | _ => false

/-- Is the block raw HTML? -/
def isHtml : Block → Bool
  | .html .. => true
  | _ => false

/-- Is the block a paragraph? -/
def isParagraph : Block → Bool
  | .paragraph .. => true
  | _ => false

end Block

/-! ## 3. Documents -/

/-- A document. -/
structure Root where
  /-- The blocks of the document, in order. -/
  children : List Block
  deriving Inhabited

/-- The document without blocks. -/
def Root.empty : Root := ⟨[]⟩

/-- The document with a block put at its end. -/
def Root.push (r : Root) (b : Block) : Root := ⟨r.children ++ [b]⟩

end Marginalia
