/-
Marginalia.Proofs.Callout.Correspondence — what becomes of each quote and
each callout of a tree.

`convertRoot_corresponds`: the quotes and callouts before and after a
conversion, in document order, correspond one by one. A callout stays one
of the same kind and data, an unmarked quote stays a quote with its data,
and a marked quote is a callout of the kind its marker names, dressed with
the element name and the class. The log names the marked quotes in the same
order, and the document has that many callouts more.

## How the proof goes

The lists are filtered walks. Walking into a converted quote meets the
marker cut out of its children, and a filter that lets no paragraph pass
does not see the cut (`filter_walkAll_splice`). What is left is an
induction on the tree, one equation of `Proofs.Callout.Structure` for each
kind of block. It shows exactly what each quote and callout becomes
(`Becomes`); the correspondence is what a reader wants to know of that.
-/
import Mathlib.Data.List.Forall2
import Marginalia.Proofs.Callout.Structure

namespace Marginalia.Callout

/-! ## 1. Marked quotes -/

/-- The marker of a quote whose first child is a paragraph that starts with
a text with a marker. -/
def marker? : Block → Option Marker
  | .quote (.paragraph (.text s :: _) _ :: _) _ => Marker.parse? s.toList
  | _ => none

/-- Is the block a quote or a callout? -/
def isQuoteOrCallout : Block → Bool
  | .quote .. | .callout .. => true
  | _ => false

/-- The quotes and callouts of a document, each before those inside it. -/
def quotesAndCallouts (r : Root) : List Block := r.walk.filter isQuoteOrCallout

/-- The markers of the marked quotes of a document, in order. -/
def markersOf (r : Root) : List Marker := r.walk.filterMap marker?

theorem marker?_quote (cs : List Block) (d : Data) :
    marker? (.quote cs d) = leadingMarker? cs := by
  rw [leadingMarker?]
  unfold marker? leadingText?
  split <;> simp_all

theorem marker?_of_not_quote {b : Block} (h : ∀ cs d, b ≠ .quote cs d) : marker? b = none := by
  cases b <;> first | rfl | exact absurd rfl (h _ _)

/-! ## 2. The correspondence -/

/-- The data of a callout beside the data of the quote it was: the element
name and the class are set, and everything else is as it was. -/
structure Dressed (element kind : String) (before after : Data) : Prop where
  /-- The element name is set. -/
  elementName : after.elementName = some element
  /-- The class is the callout's kind. -/
  className : after.className? = some kind
  /-- Every other property has its value and its place among the others. -/
  others : after.properties.entries.filter (·.1 != Data.classProperty)
    = before.properties.entries.filter (·.1 != Data.classProperty)
  /-- The bag is untouched. -/
  extra : after.extra = before.extra

/-- What a quote or callout before a conversion has to do with the one in
its place after it. The kind of a new callout is the marker's word in lower case. -/
inductive Corresponds (element : String) : Block → Block → Prop where
  | callout (kind : String) (cs cs' : List Block) (d : Data) :
      Corresponds element (.callout kind cs d) (.callout kind cs' d)
  | unmarked {cs : List Block} {d : Data} (h : marker? (.quote cs d) = none)
      (cs' : List Block) :
      Corresponds element (.quote cs d) (.quote cs' d)
  | marked {cs : List Block} {d d' : Data} {m : Marker} (h : marker? (.quote cs d) = some m)
      (hd : Dressed element (String.ofList (m.kind.map Char.toLower)) d d')
      (cs' : List Block) :
      Corresponds element (.quote cs d)
        (.callout (String.ofList (m.kind.map Char.toLower)) cs' d')

theorem dressed_mergeData (element kind : String) (d : Data) :
    Dressed element kind d (mergeData element kind d) where
  elementName := rfl
  className := by simp [mergeData]
  others := by simp [mergeData, Data.setProperty, Data.setElementName]
  extra := rfl

/-- What a quote or callout becomes, apart from what is inside it. -/
inductive Becomes (element : String) : Block → Block → Prop where
  | callout (kind : String) (cs cs' : List Block) (d : Data) :
      Becomes element (.callout kind cs d) (.callout kind cs' d)
  | unmarked {cs : List Block} {d : Data} (h : marker? (.quote cs d) = none)
      (cs' : List Block) :
      Becomes element (.quote cs d) (.quote cs' d)
  | marked {cs : List Block} {d : Data} {m : Marker} (h : marker? (.quote cs d) = some m)
      (cs' : List Block) :
      Becomes element (.quote cs d) (.callout m.kindName cs' (mergeData element m.kindName d))

theorem Becomes.corresponds {element : String} {b b' : Block} (h : Becomes element b b') :
    Corresponds element b b' := by
  cases h with
  | callout kind cs cs' d => exact .callout kind cs cs' d
  | unmarked h cs' => exact .unmarked h cs'
  | marked h cs' => exact .marked h (dressed_mergeData ..) cs'

/-! ## 3. Whole trees -/

variable (element : String)

theorem filter_walkAll_splice (body : List Char) (bs : List Block) :
    (walkAll (splice body bs)).filter isQuoteOrCallout
      = (walkAll bs).filter isQuoteOrCallout := by
  simp only [← List.filterMap_eq_filter]
  exact filterMap_walkAll_splice (fun _ _ => rfl) body bs

mutual

theorem becomes_convertWithin : ∀ b : Block,
    List.Forall₂ (Becomes element) (b.walk.filter isQuoteOrCallout)
      ((convertWithin element b).value.walk.filter isQuoteOrCallout)
  | .quote cs d => by
      have ih := becomes_convertAll cs
      cases hm : leadingMarker? cs with
      | none =>
        rw [convertWithin_unmarked element hm]
        exact .cons (.unmarked (by rw [marker?_quote, hm]) _) ih
      | some m =>
        rw [convertWithin_marked element hm]
        refine .cons (.marked (by rw [marker?_quote, hm]) _) ?_
        rw [filter_walkAll_splice]
        exact ih
  | .callout kind cs d => by
      rw [convertWithin_callout]
      exact .cons (.callout ..) (becomes_convertAll cs)
  | .list o s sp is d => by
      rw [convertWithin_list]
      exact becomes_convertItems is
  | .paragraph .. | .heading .. | .code .. | .rule .. | .html .. => by
      rw [convertWithin_leaf element rfl]
      exact .nil

theorem becomes_convertAll : ∀ bs : List Block,
    List.Forall₂ (Becomes element) ((walkAll bs).filter isQuoteOrCallout)
      ((walkAll (convertAll element bs).value).filter isQuoteOrCallout)
  | [] => by simp [walkAll]
  | b :: bs => by
      rw [convertAll_cons]
      simp only [walkAll, List.filter_append]
      exact List.rel_append (becomes_convertWithin b) (becomes_convertAll bs)

theorem becomes_convertItems : ∀ is : List Item,
    List.Forall₂ (Becomes element) ((walkItems is).filter isQuoteOrCallout)
      ((walkItems (convertItems element is).value).filter isQuoteOrCallout)
  | [] => by simp [walkItems]
  | .mk sp cs d :: is => by
      rw [convertItems_cons]
      simp only [walkItems, walkItem, List.filter_append]
      exact List.rel_append (becomes_convertAll cs) (becomes_convertItems is)

end

theorem corresponds_convertAll (bs : List Block) :
    List.Forall₂ (Corresponds element) ((walkAll bs).filter isQuoteOrCallout)
      ((walkAll (convertAll element bs).value).filter isQuoteOrCallout) :=
  (becomes_convertAll element bs).imp fun _ _ => Becomes.corresponds

/-! ## 4. The log -/

mutual

theorem log_convertWithin : ∀ b : Block,
    (convertWithin element b).log = (b.walk.filterMap marker?).map Marker.kindName
  | .quote cs d => by
      have ih := log_convertAll cs
      have hq := marker?_quote cs d
      cases hm : leadingMarker? cs with
      | none =>
        rw [convertWithin_unmarked element hm]
        simp [Block.walk, hq, hm, ih]
      | some m =>
        rw [convertWithin_marked element hm]
        simp [Block.walk, hq, hm, ih]
  | .callout kind cs d => by
      rw [convertWithin_callout]
      exact log_convertAll cs
  | .list o s sp is d => by
      rw [convertWithin_list]
      exact log_convertItems is
  | .paragraph .. | .heading .. | .code .. | .rule .. | .html .. => by
      rw [convertWithin_leaf element rfl]
      rfl

theorem log_convertAll : ∀ bs : List Block,
    (convertAll element bs).log = ((walkAll bs).filterMap marker?).map Marker.kindName
  | [] => by simp [walkAll]
  | b :: bs => by
      rw [convertAll_cons]
      simp only [walkAll, List.filterMap_append, List.map_append]
      rw [log_convertWithin b, log_convertAll bs]

theorem log_convertItems : ∀ is : List Item,
    (convertItems element is).log = ((walkItems is).filterMap marker?).map Marker.kindName
  | [] => by simp [walkItems]
  | .mk sp cs d :: is => by
      rw [convertItems_cons]
      simp only [walkItems, walkItem, List.filterMap_append, List.map_append]
      rw [log_convertAll cs, log_convertItems is]

end

/-! ## 5. Counting -/

/-- Every marked quote among corresponding blocks is one callout more. -/
theorem countP_of_corresponds {bs bs' : List Block}
    (h : List.Forall₂ (Corresponds element) bs bs') :
    bs'.countP Block.isCallout
      = bs.countP Block.isCallout + (bs.filterMap marker?).length := by
  induction h with
  | nil => rfl
  | cons hb _ ih =>
    cases hb with
    | callout kind cs cs' d =>
      have hm : marker? (.callout kind cs d) = none := rfl
      simp [List.countP_cons, hm, Block.isCallout, ih]
      omega
    | unmarked hm => simp [hm, Block.isCallout, ih]
    | marked hm =>
      simp [List.countP_cons, hm, Block.isCallout, ih]
      omega

theorem countCallouts_eq (r : Root) :
    r.countCallouts = (quotesAndCallouts r).countP Block.isCallout := by
  rw [quotesAndCallouts, List.countP_filter, Root.countCallouts]
  congr 1
  funext b
  cases b <;> rfl

theorem markersOf_eq (r : Root) : markersOf r = (quotesAndCallouts r).filterMap marker? := by
  rw [quotesAndCallouts, List.filterMap_filter, markersOf]
  congr 1
  funext b
  by_cases hb : isQuoteOrCallout b
  · rw [if_pos hb]
  · rw [if_neg hb, marker?_of_not_quote]
    rintro cs d rfl
    exact hb rfl

/-- **What becomes of quotes and callouts.** One by one and in order, those
of a document correspond to those of the converted document; it has a
callout more for each marked quote, and the log names the marked quotes by their
words in lower case. -/
theorem convertRoot_corresponds (r : Root) :
    List.Forall₂ (Corresponds element) (quotesAndCallouts r)
        (quotesAndCallouts (convertRoot element r).value)
      ∧ (convertRoot element r).value.countCallouts = r.countCallouts + (markersOf r).length
      ∧ (convertRoot element r).log
        = (markersOf r).map fun m => String.ofList (m.kind.map Char.toLower) := by
  have h : List.Forall₂ (Corresponds element) (quotesAndCallouts r)
      (quotesAndCallouts (convertRoot element r).value) :=
    corresponds_convertAll element r.children
  refine ⟨h, ?_, ?_⟩
  · rw [countCallouts_eq, countCallouts_eq, countP_of_corresponds element h, markersOf_eq]
  · calc (convertRoot element r).log
        = (convertAll element r.children).log := by simp [convertRoot]
      _ = (markersOf r).map Marker.kindName := log_convertAll element r.children

end Marginalia.Callout
