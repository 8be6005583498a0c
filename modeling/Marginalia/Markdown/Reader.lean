/-
Marginalia.Markdown.Reader — parse trees of markdown texts.

A text is first read into an outline of blocks; then the running text of
paragraphs and headings is read, in the order of the document, with the
definitions of the whole text at hand. The targets that references insert
may together take as many bytes as the text, or a fixed number if that is
more.
-/
import Marginalia.Markdown.Outliner
import Marginalia.Markdown.Running

namespace Marginalia.Markdown

/-- The bytes that targets of references may take in any text. -/
def minBudget : Nat := 100000

/-- The text of indented code: without blank lines at its end. -/
def indentedText (lines : List (List Char)) : List Char :=
  (Text.dropEndWhile (fun line => line.all fun c => Text.isSpaceOrTab c || c == '\n')
    lines).flatten

/-- The block that holds no other block, from its shape and lines; the
children of the others are given. -/
def Shape.toNode (shape : Shape) (lines : List (List Char)) (tight : Bool)
    (children : List Node) : Node :=
  match shape with
  | .document => .mk .document children
  | .quote => .mk .blockQuote children
  | .list (.bullet _) => .mk (.list false 1 tight) children
  | .list (.ordered _ start) => .mk (.list true (UInt64.ofNat start) tight) children
  | .item .. => .mk .item children
  | .indentedCode => .leaf (.codeBlock "" (String.ofList (indentedText lines)))
  | .fencedCode .. =>
    let info := infoOf (Text.dropFinalNewline (lines.headD []))
    .leaf (.codeBlock (String.ofList info) (String.ofList (lines.drop 1).flatten))
  | .html _ => .leaf (.htmlBlock (String.ofList lines.flatten))
  | .paragraph => .mk .paragraph children
  | .heading level => .mk (.heading (UInt8.ofNat level)) children
  | .rule => .leaf .thematicBreak

mutual

/-- The node of an outline, and what is left of the budget. -/
def outlineNode (gfm : Bool) (d : Definitions) (budget : Nat) : Outline → Node × Nat
  | .mk shape lines _ tight cs =>
    let (children, budget) :=
      if shape.takesText then runningNodes gfm d budget lines.flatten
      else outlineNodes gfm d budget cs
    (shape.toNode lines tight children, budget)

/-- The nodes of outlines, and what is left of the budget. -/
def outlineNodes (gfm : Bool) (d : Definitions) (budget : Nat) : List Outline → List Node × Nat
  | [] => ([], budget)
  | o :: os =>
    let (n, budget) := outlineNode gfm d budget o
    let (ns, budget) := outlineNodes gfm d budget os
    (n :: ns, budget)

end

/-- The nodes of the blocks of a text; `gfm` adds deletions between tildes and
bare links. -/
def blockNodes (gfm : Bool) (text : String) : List Node :=
  let (blocks, definitions) := outline text.toList
  (outlineNodes gfm definitions (max text.utf8ByteSize minBudget) blocks).1

/-- The parse tree of a text. -/
def parse (gfm : Bool) (text : String) : Node := .mk .document (blockNodes gfm text)

end Marginalia.Markdown
