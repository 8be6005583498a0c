/-
Marginalia.Proofs.Callout.Written — a marked quote, from its parse tree to
its HTML.

A parse tree cuts running text wherever a delimiter might have been: in
texts, soft line breaks and escaped characters. `Spells` says what such
nodes spell when they are put together.

`ofRoot_markedQuote`: take a quote in a parse tree whose first paragraph
spells a marker with its remainder, with any nodes behind that paragraph.
Made a document, converted and written, it is the element of a callout,
classed by the marker's word in lower case, with the remainder as its first
paragraph unless that is blank, and then the lines of the other nodes. How
the text was cut into nodes does not show.

## How the proof goes

Three steps, one for each stage. What spells a text that is not empty
becomes that text, in one piece (`toInlines_of_spells`). The quote that
starts with it becomes a callout whose children were visited with the marker
cut out (`convertWithin_marked`). A callout is written line by line
(`render_container`), and each node behind the first gives its own line or
none (`join_lines`).
-/
import Marginalia.Markdown.ToTree
import Marginalia.Proofs.Callout.MarkerGrammar
import Marginalia.Proofs.Callout.Structure
import Marginalia.Proofs.Markup.Rendered

namespace Marginalia.Callout

open Markup
open Markdown (Node mergeTexts_texts inlinesOf inlinesOfAll toInlines blockOf blocksOf rootOf
  toRoot?)

/-! ## 1. What nodes spell -/

/-- The nodes are texts, soft line breaks and escaped nodes of these, and
put together they are the text. Nothing below a text or a line break counts. -/
inductive Spells : List Node → List Char → Prop where
  | nil : Spells [] []
  | text (value : String) {below ns : List Node} {s : List Char} (h : Spells ns s) :
      Spells (.mk (.text value) below :: ns) (value.toList ++ s)
  | softBreak {below ns : List Node} {s : List Char} (h : Spells ns s) :
      Spells (.mk .softBreak below :: ns) ('\n' :: s)
  | escaped {inside ns : List Node} {s t : List Char} (hi : Spells inside s)
      (h : Spells ns t) :
      Spells (.mk .escaped inside :: ns) (s ++ t)

/-- What spells a text becomes pieces of it. -/
theorem inlinesOfAll_of_spells {ns : List Node} {s : List Char} (h : Spells ns s) :
    ∃ parts : List String,
      (inlinesOfAll ns).value = parts.map .text ∧ (String.join parts).toList = s := by
  induction h with
  | nil => exact ⟨[], rfl, rfl⟩
  | text value _ ih =>
    obtain ⟨parts, hvalue, rfl⟩ := ih
    exact ⟨value :: parts, by simp [inlinesOfAll, inlinesOf, hvalue], by simp⟩
  | softBreak _ ih =>
    obtain ⟨parts, hvalue, rfl⟩ := ih
    exact ⟨"\n" :: parts, by simp [inlinesOfAll, inlinesOf, hvalue], by simp⟩
  | escaped _ _ ihi ih =>
    obtain ⟨inside, hinside, rfl⟩ := ihi
    obtain ⟨parts, hvalue, rfl⟩ := ih
    exact ⟨inside ++ parts, by simp [inlinesOfAll, inlinesOf, hinside, hvalue], by simp⟩

/-- What spells a text that is not empty becomes one text. -/
theorem toInlines_of_spells {ns : List Node} {s : List Char} (h : Spells ns s) (hs : s ≠ []) :
    (toInlines ns).value = [.text (String.ofList s)] := by
  obtain ⟨parts, hvalue, rfl⟩ := inlinesOfAll_of_spells h
  cases parts with
  | nil => exact absurd rfl hs
  | cons part parts =>
    rw [toInlines, Traced.value_bind, hvalue, Traced.value_pure, mergeTexts_texts,
      String.ofList_toList]

/-! ## 2. The callout -/

variable (element : String)

/-- The body of a marker as a paragraph, or nothing for an empty one. -/
def bodyBlocks (m : Marker) : List Block :=
  if m.body = [] then [] else [.paragraph [.text (String.ofList m.body)] .none]

/-- A quote that starts with a marker becomes a callout that starts with its
body. -/
theorem convertWithin_markedText {m : Marker} (hm : m.WellFormed) (bs : List Block) :
    (convertWithin element
        (.quote (.paragraph [.text (String.ofList m.chars)] .none :: bs) .none)).value
      = .callout m.kindName (bodyBlocks m ++ (convertAll element bs).value)
          (mergeData element m.kindName .none) := by
  have hmarker : leadingMarker? (.paragraph [.text (String.ofList m.chars)] .none :: bs)
      = some m :=
    leadingMarker?_eq_some_iff.2 ⟨hm, [], .none, bs, rfl⟩
  rw [convertWithin_marked element hmarker, convertAll_cons, convertWithin_paragraph]
  cases hbody : m.body with
  | nil => simp [splice, bodyBlocks, hbody]
  | cons c cs => simp [splice, bodyBlocks, hbody]

/-! ## 3. Its HTML -/

/-- In lower case the characters of words are small letters, digits and
underscores. -/
theorem toLower_wordChar {c : Char} (h : isWordChar c = true) :
    c.toLower.isLower = true ∨ c.toLower.isDigit = true ∨ c.toLower = '_' := by
  -- Words are made of ASCII characters, so these are all that have to be looked at.
  have hascii : ∀ n < 128, isWordChar (Char.ofNat n) = true →
      (Char.ofNat n).toLower.isLower = true ∨ (Char.ofNat n).toLower.isDigit = true
        ∨ (Char.ofNat n).toLower = '_' := by
    decide +kernel
  have hc := hascii c.toNat ((Marker.isWordChar_iff c).1 h).lt
  rw [Char.ofNat_toNat] at hc
  exact hc h

theorem mem_kindName {m : Marker} (hm : m.WellFormed) {c : Char} (hc : c ∈ m.kindName.toList) :
    c.isLower = true ∨ c.isDigit = true ∨ c = '_' := by
  rw [Marker.kindName, String.toList_ofList] at hc
  obtain ⟨x, hx, rfl⟩ := List.mem_map.1 hc
  exact toLower_wordChar (hm.2 x hx)

/-- The kind of a callout needs no escape as the value of an attribute. -/
theorem escapeAttribute_kindName {m : Marker} (hm : m.WellFormed) :
    escapeAttribute m.kindName.toList = m.kindName.toList := by
  refine escapeAttribute_eq_self fun c hc => ?_
  have hkind := mem_kindName hm hc
  refine ⟨?_, ?_⟩ <;> (rintro rfl; revert hkind; decide)

/-- The opening tag of a callout that carried nothing as a quote. -/
theorem render_calloutTag {m : Marker} (hm : m.WellFormed) :
    render [openTag element (calloutAttributes m.kindName (mergeData element m.kindName .none))
        (mergeData element m.kindName .none)]
      = "<" ++ element ++ " class=\"" ++ m.kindName ++ "\">" := by
  have hown : calloutAttributes m.kindName (mergeData element m.kindName .none) = [] := by
    simp [calloutAttributes, mergeData]
  have hmerged : mergeAttributes [] (mergeData element m.kindName .none).properties.entries
      = [("class", m.kindName)] := rfl
  rw [openTag, hown, hmerged, ← String.toList_inj]
  simp [render, renderChars, Piece.chars, attributeChars, escapeAttribute_kindName hm]

/-- The paragraph of a body. -/
theorem render_bodyLines (raw : Bool) (m : Marker) :
    String.join ((lines raw (bodyBlocks m)).map fun l => render l ++ "\n")
      = if m.body = [] then ""
        else "<p>" ++ String.ofList (escapeText m.body) ++ "</p>\n" := by
  unfold bodyBlocks
  split
  · rfl
  · rw [← String.toList_inj]
    simp [lines, isShown, blockPieces, inlinesPieces, inlinePieces, openTag, elementName,
      Data.none, mergeAttributes, render, renderChars, Piece.chars]

/-- The line that a node brings into the HTML of a callout: its block,
converted, if it becomes one and that is shown. -/
def lineOf (raw : Bool) (n : Node) : String :=
  match (blockOf n).value with
  | none => ""
  | some b =>
    if isShown raw (convertWithin element b).value then
      ofBlocks raw [(convertWithin element b).value] ++ "\n"
    else ""

theorem join_lines (raw : Bool) (ns : List Node) :
    String.join ((lines raw (convertAll element (blocksOf ns).value).value).map
        fun l => render l ++ "\n")
      = String.join (ns.map (lineOf element raw)) := by
  induction ns with
  | nil => simp [lines]
  | cons n ns ih =>
    rw [List.map_cons, String.join_cons, ← ih, lineOf]
    cases hb : (blockOf n).value with
    | none => simp [hb]
    | some b =>
      cases hs : isShown raw (convertWithin element b).value <;>
        simp [hb, convertAll_cons, lines, hs, ofBlocks_singleton]

/-- The HTML of a callout that starts with the body of its marker. -/
theorem ofBlocks_callout (raw : Bool) {m : Marker} (hm : m.WellFormed) (bs : List Block) :
    ofBlocks raw [.callout m.kindName (bodyBlocks m ++ bs)
      (mergeData element m.kindName .none)]
      = "<" ++ element ++ " class=\"" ++ m.kindName ++ "\">\n"
          ++ (if m.body = [] then ""
            else "<p>" ++ String.ofList (escapeText m.body) ++ "</p>\n")
          ++ String.join ((lines raw bs).map fun l => render l ++ "\n")
          ++ "</" ++ element ++ ">" := by
  have hname : elementName (mergeData element m.kindName .none) defaultElement = element := rfl
  rw [ofBlocks_singleton raw rfl, blockPieces, hname, render_container,
    render_calloutTag element hm, lines_append, List.map_append, String.join_append,
    render_bodyLines]
  have hopen : "\">" ++ "\n" = "\">\n" := rfl
  simp only [String.append_assoc, ← hopen]

/-! ## 4. From the parse tree to HTML -/

/-- **A marked quote, from its parse tree to its HTML.** The first paragraph
spells a marker with its remainder; any nodes follow. The document of the
quote, converted and written, is one element classed by the marker's word in
lower case, with the remainder as a paragraph unless it is blank, and a line for each
node behind that gives one. -/
theorem ofRoot_markedQuote (raw : Bool) {m : Marker} (hm : m.WellFormed) {ns : List Node}
    (hspells : Spells ns m.chars) (further : List Node) :
    (toRoot? (.mk .document [.mk .blockQuote (.mk .paragraph ns :: further)])).map
        (fun parsed => ofRoot raw (convertRoot element parsed.value).value)
      = some ("<" ++ element ++ " class=\"" ++ String.ofList (m.kind.map Char.toLower)
        ++ "\">\n"
          ++ (if m.remainder.all Text.isBlank then ""
              else "<p>" ++ String.ofList (escapeText (Text.trimStart m.remainder))
                ++ "</p>\n")
          ++ String.join (further.map (lineOf element raw)) ++ "</" ++ element ++ ">") := by
  have htext : (toInlines ns).value = [.text (String.ofList m.chars)] :=
    toInlines_of_spells hspells (by simp [Marker.chars])
  have hparsed : (rootOf [.mk .blockQuote (.mk .paragraph ns :: further)]).value
      = ⟨[.quote (.paragraph [.text (String.ofList m.chars)] .none :: (blocksOf further).value)
          .none]⟩ := by
    simp [htext]
  have hconverted : (convertRoot element
        (rootOf [.mk .blockQuote (.mk .paragraph ns :: further)]).value).value
      = ⟨[.callout m.kindName
          (bodyBlocks m ++ (convertAll element (blocksOf further).value).value)
          (mergeData element m.kindName .none)]⟩ := by
    rw [hparsed, convertRoot, Traced.value_bind, Traced.value_pure, convertAll_cons,
      convertWithin_markedText element hm, convertAll_nil]
  rw [toRoot?, Option.map_some, hconverted, ofRoot, ofBlocks_callout element raw hm,
    join_lines]
  simp only [m.body_eq_nil_iff]
  rfl

/-- A marker cut into many nodes, before a list, a dropped table and raw HTML. -/
theorem ofRoot_markedQuote_cut :
    (toRoot? (.mk .document [.mk .blockQuote
        [.mk .paragraph [.leaf (.text "["), .mk .escaped [.leaf (.text "!"), .mk .escaped []],
            .leaf (.text "Tip_1"), .leaf (.text "] "), .leaf .softBreak,
            .leaf (.text "a < b")],
          .leaf .table, .leaf (.htmlBlock "<hr>"), .leaf .thematicBreak]])).map
        (fun parsed => ofRoot false (convertRoot "div" parsed.value).value)
      = some "<div class=\"tip_1\">\n<p>a &lt; b</p>\n<hr>\n</div>" := by
  have hm : (⟨"Tip_1".toList, " \na < b".toList⟩ : Marker).WellFormed :=
    ⟨by decide, List.all_eq_true.mp (by decide)⟩
  have hspells : Spells
      [.leaf (.text "["), .mk .escaped [.leaf (.text "!"), .mk .escaped []],
        .leaf (.text "Tip_1"), .leaf (.text "] "), .leaf .softBreak, .leaf (.text "a < b")]
      (⟨"Tip_1".toList, " \na < b".toList⟩ : Marker).chars :=
    .text "[" (.escaped (.text "!" (.escaped .nil .nil)) (.text "Tip_1" (.text "] "
      (.softBreak (.text "a < b" .nil)))))
  have hrule : (convertWithin "div" (.rule .none)).value = .rule .none := by
    rw [convertWithin_leaf "div" rfl]
  have hraw : (convertWithin "div" (.html "<hr>" .none)).value = .html "<hr>" .none := by
    rw [convertWithin_leaf "div" rfl]
  have hhtml : Markdown.dropFinalNewline "<hr>" = "<hr>" := by decide
  have hlines : [.leaf .table, .leaf (.htmlBlock "<hr>"), .leaf .thematicBreak].map
      (lineOf "div" false) = ["", "", "<hr>\n"] := by
    simp [lineOf, Node.leaf, hhtml, hraw, hrule, isShown]
    decide
  rw [ofRoot_markedQuote "div" false hm hspells, hlines]
  decide

end Marginalia.Callout
