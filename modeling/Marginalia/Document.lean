/-
Marginalia.Document — from markdown to HTML.

A text is read into a document, the pipeline of the settings is run on it,
and the result is written as HTML. Any function from texts to nodes can be
the parser that reads the text; this library has one of its own.

Main statements: `Markdown.toRoot?_parse` (the parse tree of a text always makes a
document), `result_execute_pipeline` (the pipeline of settings never fails),
`renderBy_blockNodes` (the parser of this library is one of those that can read the
text).
-/
import Marginalia.Markdown.Reader
import Marginalia.Markdown.ToTree
import Marginalia.Markup.OfTree
import Marginalia.Pipeline.Transforms

namespace Marginalia

/-- A parser of markdown: for a text, the nodes below the document in its parse
tree. It is told whether to read struck-out text and bare links. -/
abbrev Markdown.Parser := Bool → String → List Markdown.Node

/-- The document that a markdown text writes. -/
def Root.ofMarkdown (gfm : Bool) (text : String) : Root :=
  (Markdown.rootOf (Markdown.blockNodes gfm text)).value

/-- The parse tree of a text always makes a document. -/
theorem Markdown.toRoot?_parse (gfm : Bool) (text : String) :
    (Markdown.toRoot? (Markdown.parse gfm text)).map Traced.value
      = some (Root.ofMarkdown gfm text) := rfl

/-- What is made of a document in the end. -/
structure Rendering where
  html : String
  /-- The number of callouts in the document. -/
  callouts : Nat
  deriving DecidableEq, Repr

/-- What is made of a document, with raw HTML or without. -/
def Rendering.ofRoot (rawHtml : Bool) (r : Root) : Rendering :=
  ⟨Markup.ofRoot rawHtml r, r.countCallouts⟩

namespace Settings

/-! ## 1. With any parser -/

/-- The document that a parser reads, as the settings ask for it. -/
def readBy (parser : Markdown.Parser) (s : Settings) (text : String) : Root :=
  (Markdown.rootOf (parser s.gfm text)).value

/-- The document that the pipeline of the settings makes of a text. -/
def treeBy (parser : Markdown.Parser) (s : Settings) (text : String) : Except String Root :=
  (s.pipeline.execute (s.readBy parser text)).result

/-- What the settings make of a text. -/
def renderBy (parser : Markdown.Parser) (s : Settings) (text : String) :
    Except String Rendering :=
  (s.treeBy parser text).map (Rendering.ofRoot s.rawHtml)

/-- The pipeline of settings never fails. -/
theorem result_execute_pipeline (s : Settings) (r : Root) :
    (s.pipeline.execute r).result = .ok (s.pipeline.execute r).tree := by
  unfold pipeline
  split <;> rfl

/-! ## 2. With the parser of this library -/

/-- What the pipeline of the settings makes of a markdown text. -/
def transformed (s : Settings) (text : String) : Outcome :=
  s.pipeline.execute (Root.ofMarkdown s.gfm text)

/-- The HTML that the settings make of a markdown text. -/
def render (s : Settings) (text : String) : String :=
  Markup.ofRoot s.rawHtml (s.transformed text).tree

theorem renderBy_blockNodes (s : Settings) (text : String) :
    s.renderBy Markdown.blockNodes text
      = .ok ⟨s.render text, (s.transformed text).tree.countCallouts⟩ :=
  congrArg _ (s.result_execute_pipeline _)

end Settings

end Marginalia
