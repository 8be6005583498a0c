/-
Marginalia.Markdown.Node — the parse tree of a markdown text.

A parse tree is finer than a document: running text is cut wherever the
reader looked for a delimiter, soft line breaks and escaped characters are
nodes of their own, and there are kinds of nodes, those of tables, footnotes
and formulas among them, that have no counterpart in a document. The reader of
this library makes only some kinds; other parsers may make any. Nothing is said
about which nodes may stand below which; `Markdown.ToTree` copes with all of
them.
-/

namespace Marginalia.Markdown

/-- What a node of a parse tree is. -/
inductive Kind where
  | document
  | frontMatter (text : String)
  | blockQuote
  | list (ordered : Bool) (start : UInt64) (tight : Bool)
  | item
  | taskItem
  | codeBlock (info literal : String)
  | htmlBlock (literal : String)
  | paragraph
  | heading (level : UInt8)
  | thematicBreak
  | footnoteDefinition
  | table
  | tableRow
  | tableCell
  | descriptionList
  | descriptionItem
  | descriptionTerm
  | descriptionDetails
  | multilineBlockQuote
  | alert
  | raw (text : String)
  | text (value : String)
  | softBreak
  | lineBreak
  | code (literal : String)
  | htmlInline (literal : String)
  | emph
  | strong
  | strikethrough
  | superscript
  | subscript
  | underline
  | spoileredText
  | math (literal : String)
  | link (url title : String)
  | image (url title : String)
  | footnoteReference
  | wikiLink (url : String)
  | escaped
  | escapedTag (text : String)
  deriving DecidableEq, Inhabited, Repr

/-- A node of a parse tree. -/
inductive Node where
  | mk (kind : Kind) (children : List Node)
  deriving Inhabited, Repr

namespace Node

/-- What the node is. -/
def kind : Node → Kind
  | .mk kind _ => kind

/-- The nodes below the node. -/
def children : Node → List Node
  | .mk _ children => children

/-- A node without children. -/
def leaf (kind : Kind) : Node := .mk kind []

end Node

end Marginalia.Markdown
