/-
Marginalia.Proofs.Callout.ClassAttribute — a callout has one class, its kind.

A quote may carry any properties, the class property among them, or one with
the name `class` itself, or both. When it becomes a callout, the class
property is set to the kind of the callout and goes behind all others. Of the
properties that are written as one attribute the last counts, and so the kind
is the class, whatever the quote carried.

`callouts_classed`: the opening tag of a callout that was a marked quote has
the element name asked for and exactly one attribute `class`, whose value is
the marker's word in lower case. No name of an attribute appears twice in it.
Every other property of the quote is an attribute, unless one behind it is
written as the same attribute. This holds of a quote converted by itself and
of all marked quotes of a document, whose tags stand in its HTML in order.
-/
import Marginalia.Proofs.Callout.Correspondence
import Marginalia.Proofs.Markup.BlockTags
import Marginalia.Proofs.Markup.Rendered

namespace Marginalia

open Markup

namespace Callout

/-! ## 1. The tag of a callout -/

/-- A tag for a callout with the marker `m` that carried `d` as a quote. -/
structure ClassedTag (element : String) (m : Marker) (d : Data)
    (tag : String × List Attribute) : Prop where
  /-- Its name is the element name asked for. -/
  name : tag.1 = element
  /-- No name of an attribute appears twice. -/
  distinct : (tag.2.map Prod.fst).Nodup
  /-- There is one class, the marker's word in lower case. -/
  classed : tag.2.filter (·.1 = "class") = [("class", String.ofList (m.kind.map Char.toLower))]
  /-- Every other property is an attribute, unless a later one is written as
  the same attribute. -/
  others : ∀ before p after, d.properties.entries = before ++ p :: after →
    attributeName p.1 ≠ "class" → (∀ q ∈ after, attributeName q.1 ≠ attributeName p.1) →
      (attributeName p.1, p.2) ∈ tag.2

theorem attributeName_classProperty : attributeName Data.classProperty = "class" := rfl

/-- The class stands behind the other properties. -/
theorem entries_mergeData (element kind : String) (d : Data) :
    (mergeData element kind d).properties.entries
      = d.properties.entries.filter (·.1 != Data.classProperty)
        ++ [(Data.classProperty, kind)] :=
  rfl

/-- A callout with its class set has no attribute of its own beside it. -/
theorem tagOf_callout (element kind : String) (cs : List Block) (d : Data) :
    tagOf (.callout kind cs (mergeData element kind d))
      = (element, mergeAttributes [] (mergeData element kind d).properties.entries) := by
  have hown : calloutAttributes kind (mergeData element kind d) = [] := by
    simp [calloutAttributes, mergeData]
  simp only [tagOf, Block.data, ownAttributes, hown]
  rfl

/-- Behind all other properties, the class is the only one written. -/
theorem filter_class_mergeAttributes (ps : List (String × String)) (kind : String) :
    (mergeAttributes [] (ps ++ [(Data.classProperty, kind)])).filter (·.1 = "class")
      = [("class", kind)] := by
  have hclass : ("class", kind) ∈ mergeAttributes [] (ps ++ [(Data.classProperty, kind)]) :=
    mem_mergeAttributes [] ps (by simp)
  exact filter_fst_eq (nodup_mergeAttributes (by simp) _) hclass

theorem classedTag_callout (element : String) (m : Marker) (cs : List Block) (d : Data) :
    ClassedTag element m d
      (tagOf (.callout m.kindName cs (mergeData element m.kindName d))) := by
  rw [tagOf_callout, entries_mergeData]
  refine ⟨rfl, nodup_mergeAttributes (by simp) _, filter_class_mergeAttributes _ _, ?_⟩
  intro before p after hentries hp hafter
  have hne : p.1 ≠ Data.classProperty := by
    intro h
    exact hp (h ▸ attributeName_classProperty)
  have hsplit : d.properties.entries.filter (·.1 != Data.classProperty)
        ++ [(Data.classProperty, m.kindName)]
      = before.filter (·.1 != Data.classProperty) ++ p ::
          (after.filter (·.1 != Data.classProperty)
            ++ [(Data.classProperty, m.kindName)]) := by
    simp [hentries, hne]
  rw [hsplit]
  refine mem_mergeAttributes [] _ fun q hq => ?_
  rcases List.mem_append.1 hq with hq | hq
  · exact hafter q (List.mem_of_mem_filter hq)
  · rw [List.mem_singleton.1 hq, attributeName_classProperty]
    exact hp.symm

/-- A callout written by itself starts with its tag. -/
theorem ofBlocks_callout_starts (raw : Bool) (kind : String) (cs : List Block) (d : Data) :
    ∃ rest, (ofBlocks raw [.callout kind cs d]).toList
      = (Piece.openTag (tagOf (.callout kind cs d)).1 (tagOf (.callout kind cs d)).2).chars
          ++ rest := by
  rw [ofBlocks_singleton raw rfl, render, String.toList_ofList]
  exact ⟨_, rfl⟩

/-! ## 2. The callouts of a document -/

/-- A marked quote and the callout that it became: the callout is of the kind
that the marker names, and it is written with a tag for it. -/
inductive Classed (element : String) (raw : Bool) : Block → Block → Prop where
  | intro {cs cs' : List Block} {d d' : Data} {m : Marker} {rest : List Char}
      (hm : marker? (.quote cs d) = some m)
      (htag : ClassedTag element m d (tagOf (.callout m.kindName cs' d')))
      (hhtml : (ofBlocks raw [.callout m.kindName cs' d']).toList
        = (Piece.openTag (tagOf (.callout m.kindName cs' d')).1
            (tagOf (.callout m.kindName cs' d')).2).chars ++ rest) :
      Classed element raw (.quote cs d) (.callout m.kindName cs' d')

theorem classed_mergeData (element : String) (raw : Bool) {cs : List Block} {d : Data}
    {m : Marker} (hm : marker? (.quote cs d) = some m) (cs' : List Block) :
    Classed element raw (.quote cs d)
      (.callout m.kindName cs' (mergeData element m.kindName d)) := by
  obtain ⟨rest, hrest⟩ := ofBlocks_callout_starts raw m.kindName cs'
    (mergeData element m.kindName d)
  exact .intro hm (classedTag_callout element m cs' d) hrest

theorem ofQuote_marked (element : String) {cs : List Block} {d : Data} {m : Marker}
    (hm : marker? (.quote cs d) = some m) :
    ofQuote element cs d
      = .callout m.kindName (splice m.body cs) (mergeData element m.kindName d) := by
  rw [marker?_quote] at hm
  exact ofQuote_of_leadingMarker element hm d

/-- Only a marked quote becomes a callout. -/
theorem exists_marker_of_isCallout {element : String} {cs : List Block} {d : Data}
    (h : (ofQuote element cs d).isCallout = true) : ∃ m, marker? (.quote cs d) = some m := by
  rw [marker?_quote]
  cases hm : leadingMarker? cs with
  | some m => exact ⟨m, rfl⟩
  | none =>
    rw [ofQuote_of_not_leadingMarker element hm] at h
    cases h

/-- Among quotes and callouts and what they become, each marked quote has its
callout. -/
theorem exists_classed {element : String} (raw : Bool) {bs bs' : List Block}
    (h : List.Forall₂ (Becomes element) bs bs') :
    ∃ callouts : List Block, callouts.Sublist bs'
      ∧ List.Forall₂ (Classed element raw) (bs.filter fun b => (marker? b).isSome)
        callouts := by
  induction h with
  | nil => exact ⟨[], .slnil, .nil⟩
  | cons hb _ ih =>
    obtain ⟨callouts, hsub, hall⟩ := ih
    cases hb with
    | callout kind cs cs' d => exact ⟨callouts, hsub.cons _, hall⟩
    | unmarked hm cs' =>
      rw [List.filter_cons_of_neg (by simp [hm])]
      exact ⟨callouts, hsub.cons _, hall⟩
    | marked hm cs' =>
      rw [List.filter_cons_of_pos (by simp [hm])]
      exact ⟨_ :: callouts, hsub.cons_cons _,
        .cons (classed_mergeData element raw hm cs') hall⟩

/-- Quotes and callouts are written as elements wherever they stand. -/
theorem isElement_of_isQuoteOrCallout {p : Placed} (h : isQuoteOrCallout p.block = true) :
    p.isElement = true := by
  obtain ⟨tight, b⟩ := p
  cases b with
  | quote => simp [Placed.isElement, Block.isHtml, Block.isParagraph]
  | callout => simp [Placed.isElement, Block.isHtml, Block.isParagraph]
  | _ => cases h

/-- The tags of quotes and callouts of a document stand in its HTML in order. -/
theorem inOrder_tags (raw : Bool) (r : Root) {bs : List Block}
    (h : bs.Sublist (quotesAndCallouts r)) :
    InOrder (bs.map fun b => (Piece.openTag (tagOf b).1 (tagOf b).2).chars)
      (ofRoot raw r).toList := by
  have hwalk : quotesAndCallouts r
      = (r.placed.filter fun p => isQuoteOrCallout p.block).map Placed.block := by
    rw [quotesAndCallouts, Root.walk, ← map_block_placedAll false, List.filter_map]
    rfl
  have helement : (r.placed.filter fun p => isQuoteOrCallout p.block).Sublist
      (r.placed.filter Placed.isElement) :=
    List.monotone_filter_right _ fun _ => isElement_of_isQuoteOrCallout
  have htags : (bs.map fun b => Piece.openTag (tagOf b).1 (tagOf b).2).Sublist
      (tagPieces r.placed) := by
    rw [hwalk] at h
    simpa [tagPieces, Function.comp_def] using
      (h.trans (helement.map Placed.block)).map fun b => Piece.openTag (tagOf b).1 (tagOf b).2
  have hpieces : (tagPieces r.placed).Sublist (blocksPieces raw r.children) :=
    (tags_lines raw r.children).trans (flatten_sublist_joinLines _)
  have hin := inOrder_of_sublist (htags.trans hpieces)
  rw [ofRoot, ofBlocks, render, String.toList_ofList]
  simpa [Function.comp_def] using hin

/-- **A callout has one class, its kind.** A quote that becomes a callout when
it is converted by itself is written with a tag classed by its marker. In a
converted document each marked quote has such a callout, in order, and the tags
of these stand in the HTML in order. -/
theorem callouts_classed (element : String) (raw : Bool) :
    (∀ cs d, (ofQuote element cs d).isCallout = true →
        Classed element raw (.quote cs d) (ofQuote element cs d))
      ∧ ∀ r : Root, ∃ callouts : List Block,
          callouts.Sublist (convertRoot element r).value.walk
            ∧ List.Forall₂ (Classed element raw)
                (r.walk.filter fun b => (marker? b).isSome) callouts
            ∧ InOrder (callouts.map fun b => (Piece.openTag (tagOf b).1 (tagOf b).2).chars)
                (ofRoot raw (convertRoot element r).value).toList := by
  refine ⟨fun cs d h => ?_, fun r => ?_⟩
  · obtain ⟨m, hm⟩ := exists_marker_of_isCallout h
    rw [ofQuote_marked element hm]
    exact classed_mergeData element raw hm _
  · obtain ⟨callouts, hsub, hall⟩ := exists_classed raw (becomes_convertAll element r.children)
    refine ⟨callouts, hsub.trans List.filter_sublist, ?_, inOrder_tags raw _ hsub⟩
    have hmarked : (r.walk.filter isQuoteOrCallout).filter (fun b => (marker? b).isSome)
        = r.walk.filter fun b => (marker? b).isSome := by
      rw [List.filter_filter]
      refine List.filter_congr fun b _ => ?_
      cases b <;> simp [isQuoteOrCallout, marker?]
    exact hmarked ▸ hall

/-- What a quote carries that has a class in either way, with a name between. -/
def twiceClassed : Data where
  elementName := some "section"
  properties := .ofList [("className", "old"), ("id", "a\"b"), ("class", "older")]

/-- Neither class is left. -/
theorem callouts_classed_twice :
    (ofQuote "div" [.paragraph [.text "[!TIP_2] x"] .none] twiceClassed).isCallout = true
      ∧ Classed "div" false (.quote [.paragraph [.text "[!TIP_2] x"] .none] twiceClassed)
          (ofQuote "div" [.paragraph [.text "[!TIP_2] x"] .none] twiceClassed)
      ∧ ofBlocks false [ofQuote "div" [.paragraph [.text "[!TIP_2] x"] .none] twiceClassed]
          = "<div id=\"a&quot;b\" class=\"tip_2\">\n<p>x</p>\n</div>" := by
  have hm : marker? (.quote [.paragraph [.text "[!TIP_2] x"] .none] twiceClassed)
      = some ⟨"TIP_2".toList, " x".toList⟩ := by decide
  have hkind : (⟨"TIP_2".toList, " x".toList⟩ : Marker).kindName = "tip_2" := by decide
  have hbody : (⟨"TIP_2".toList, " x".toList⟩ : Marker).body = ['x'] := by decide
  have hcallout :
    (ofQuote "div" [.paragraph [.text "[!TIP_2] x"] .none] twiceClassed).isCallout
      = true := by
    rw [ofQuote_marked "div" hm]
    rfl
  refine ⟨hcallout, (callouts_classed "div" false).1 _ _ hcallout, ?_⟩
  rw [ofQuote_marked "div" hm, hkind, hbody]
  decide

end Callout

end Marginalia
