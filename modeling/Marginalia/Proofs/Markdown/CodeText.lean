/-
Marginalia.Proofs.Markdown.CodeText — the text of code, from its parse tree to
its HTML.

The code of a parse tree ends in a line feed unless it is empty. A document
holds it without the final line feed, and HTML is written with one again,
unless there is no text to put it behind.

`nodeHtml_codeBlock`: the element of code holds exactly the code, whatever blank
lines it starts with, holds or ends in. The one exception is code that is a
single blank line: a document does not tell it from empty code, and both are
written without content (`blankLine_is_empty`).
-/
import Marginalia.Markdown.ToTree
import Marginalia.Proofs.Markup.Rendered

namespace Marginalia.Markdown

open Markup (Piece blockPieces codeAttributes escapeAttribute escapeText ofBlocks
  openTag render)

/-! ## 1. Code and its element -/

/-- The code is empty, or its last line ends. -/
def LastLineEnds (literal : String) : Prop := literal = "" ∨ ∃ s, literal = s ++ "\n"

/-- The opening tag of code, with its language as class. -/
def languageTag : Option String → String
  | none => "<code>"
  | some language =>
    "<code class=\"" ++ String.ofList (escapeAttribute ("language-" ++ language).toList)
      ++ "\">"

/-- The opening tag of code whose info text starts with the language. -/
def codeTag (info : String) : String := languageTag (splitInfo info).1

/-- The HTML of the block that a node becomes, if it becomes one. -/
def nodeHtml (raw : Bool) (n : Node) : Option String :=
  (blockOf n).value.map fun b => ofBlocks raw [b]

/-! ## 2. The final line feed -/

theorem dropFinalNewline_append (s : String) : dropFinalNewline (s ++ "\n") = s := by
  have hchars : (s ++ "\n").toList = s.toList ++ ['\n'] := by simp
  rw [dropFinalNewline, hchars, Text.dropFinalNewline_append, String.ofList_toList]

/-- The content of the element of code, escaped. -/
def codeContent (value : String) : String :=
  if value.isEmpty then "" else String.ofList (escapeText value.toList) ++ "\n"

/-- What is dropped from code is put back, unless nothing was left. -/
theorem codeContent_dropFinalNewline {literal : String} (h : LastLineEnds literal) :
    codeContent (dropFinalNewline literal)
      = if literal = "\n" then "" else String.ofList (escapeText literal.toList) := by
  rcases h with rfl | ⟨s, rfl⟩
  · decide
  · have hescape : String.ofList (escapeText (s ++ "\n").toList)
        = String.ofList (escapeText s.toList) ++ "\n" := by
      rw [String.toList_append, Markup.escapeText_append, String.ofList_append]
      rfl
    have hblank : s ++ "\n" = "\n" ↔ s = "" := by
      rw [← String.toList_inj, ← String.toList_inj]
      simp
    rw [dropFinalNewline_append, codeContent, hescape]
    simp only [hblank, String.isEmpty_iff]

/-! ## 3. The element -/

theorem render_codeTag (language : Option String) :
    render [openTag "code" (codeAttributes language) .none] = languageTag language := by
  rw [← String.toList_inj]
  cases language <;>
    simp [render, Markup.renderChars, Piece.chars, openTag, Markup.mergeAttributes, Data.none,
      codeAttributes, Markup.attributeChars, languageTag]

theorem render_codeContent (value : String) :
    render (if value.isEmpty then [] else [.text value, .newline]) = codeContent value := by
  unfold codeContent
  split
  · rfl
  · rw [← List.singleton_append, Markup.render_append, Markup.render_newline]
    simp [render, Markup.renderChars, Piece.chars]

theorem ofBlocks_code (raw : Bool) (language details : Option String) (value : String) :
    ofBlocks raw [.code language details value .none]
      = "<pre>" ++ languageTag language ++ codeContent value ++ "</code></pre>" := by
  have hpieces : blockPieces raw (.code language details value .none)
      = [.openTag "pre" []] ++ [openTag "code" (codeAttributes language) .none]
        ++ (if value.isEmpty then [] else [.text value, .newline])
        ++ [.closeTag "code", .closeTag "pre"] := by
    simp [blockPieces, Markup.elementName, Data.none]
  have hopen : render [.openTag "pre" []] = "<pre>" := rfl
  have hclose : render [.closeTag "code", .closeTag "pre"] = "</code></pre>" := rfl
  rw [Markup.ofBlocks_singleton raw rfl, hpieces, Markup.render_append, Markup.render_append,
    Markup.render_append, hopen, hclose, render_codeTag, render_codeContent]

/-! ## 4. From the parse tree to HTML -/

/-- **The text of code is kept.** The HTML of code holds the code with its
escapes, and nothing else; only a single blank line is written like no code. -/
theorem nodeHtml_codeBlock (raw : Bool) (info : String) {literal : String}
    (h : LastLineEnds literal) (below : List Node) :
    nodeHtml raw (.mk (.codeBlock info literal) below)
      = some ("<pre>" ++ codeTag info
          ++ (if literal = "\n" then "" else String.ofList (escapeText literal.toList))
          ++ "</code></pre>") := by
  rw [nodeHtml, blockOf_codeBlock, Option.map_some, ofBlocks_code,
    codeContent_dropFinalNewline h]
  rfl

/-- Code of blank lines around a line to escape. -/
theorem nodeHtml_codeBlock_blankLines :
    LastLineEnds "\n\na < b\n\n"
      ∧ nodeHtml false (.leaf (.codeBlock " c++\ttitle" "\n\na < b\n\n"))
        = some "<pre><code class=\"language-c++\">\n\na &lt; b\n\n</code></pre>" := by
  have h : LastLineEnds "\n\na < b\n\n" := .inr ⟨"\n\na < b\n", by decide⟩
  refine ⟨h, ?_⟩
  rw [Node.leaf, nodeHtml_codeBlock false _ h]
  decide

/-- Code of one blank line ends as it should and yet is written without it. -/
theorem blankLine_is_empty :
    LastLineEnds "\n"
      ∧ nodeHtml false (.leaf (.codeBlock "" "\n")) = some "<pre><code></code></pre>"
      ∧ ¬ ∀ (raw : Bool) (info literal : String) (below : List Node), LastLineEnds literal →
        nodeHtml raw (.mk (.codeBlock info literal) below)
          = some ("<pre>" ++ codeTag info ++ String.ofList (escapeText literal.toList)
              ++ "</code></pre>") := by
  have h : LastLineEnds "\n" := .inr ⟨"", rfl⟩
  have hhtml : nodeHtml false (.leaf (.codeBlock "" "\n"))
      = some "<pre><code></code></pre>" := by
    decide
  refine ⟨h, hhtml, fun hall => ?_⟩
  have hkept := (hall false "" "\n" [] h).symm.trans hhtml
  revert hkept
  decide

end Marginalia.Markdown
