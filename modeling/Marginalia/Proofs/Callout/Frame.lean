/-
Marginalia.Proofs.Callout.Frame — what a conversion leaves alone.

`convertRoot_frame`: take the blocks of a document that are neither quotes
nor callouts, in the order of walking, each with the container it stands in.
Conversion edits this sequence and no more. The paragraph that marks a quote
has its marker cut out, and is gone if nothing is left of it; every other
block is kept where it is, a list with all that it and its items carry. The
empty paragraphs afterwards are those of before.

## How the proof goes

A place has to survive the deletion of a paragraph, so containers are
counted among containers: the place of a block is said by the numbers of the
containers around it, and a paragraph more or less in front does not change
them. With that, the sites of a tree and of the converted tree are compared
by induction on the tree, one equation of `Proofs.Callout.Structure` for each
kind of block. Below a marked quote the first child is a paragraph, and the
four ways to cut a marker out of it are the edits (`edits_splice`).
-/
import Marginalia.Proofs.Callout.Correspondence

namespace Marginalia

/-! ## 1. Sites -/

/-- A block and where it stands. -/
structure Site where
  /-- The containers around the block, from the outside in. A quote, a callout
  or a list is given by the number of those before it among the blocks beside
  it, an item by the number of items before it. -/
  place : List Nat
  /-- The marker of the quote that the block is the first child of. -/
  marker : Option Callout.Marker
  /-- The block. -/
  block : Block

mutual

/-- A block and the blocks inside it in the order of walking, with their
sites. The block itself stands at a place behind `n` containers. -/
def Block.sites (place : List Nat) (n : Nat) (marker : Option Callout.Marker) :
    Block → List Site
  | .quote cs d =>
    ⟨place, marker, .quote cs d⟩
      :: sitesIn (place ++ [n]) 0 (Callout.marker? (.quote cs d)) cs
  | .callout kind cs d =>
    ⟨place, marker, .callout kind cs d⟩ :: sitesIn (place ++ [n]) 0 none cs
  | .list ordered start spread is d =>
    ⟨place, marker, .list ordered start spread is d⟩ :: sitesInItems (place ++ [n]) 0 is
  | .paragraph cs d => [⟨place, marker, .paragraph cs d⟩]
  | .heading depth cs d => [⟨place, marker, .heading depth cs d⟩]
  | .code language details value d => [⟨place, marker, .code language details value d⟩]
  | .rule d => [⟨place, marker, .rule d⟩]
  | .html value d => [⟨place, marker, .html value d⟩]

/-- The blocks of a sequence and those inside them, with their sites. The
marker is that of the first. -/
def sitesIn (place : List Nat) (n : Nat) (marker : Option Callout.Marker) :
    List Block → List Site
  | [] => []
  | b :: bs => b.sites place n marker ++ sitesIn place (n + b.holdsBlocks.toNat) none bs

/-- The blocks inside items, with their sites. -/
def sitesInItems (place : List Nat) (n : Nat) : List Item → List Site
  | [] => []
  | .mk _ cs _ :: is => sitesIn (place ++ [n]) 0 none cs ++ sitesInItems place (n + 1) is

end

/-- The blocks of a document with their sites. -/
def Root.sites (r : Root) : List Site := sitesIn [] 0 none r.children

mutual

theorem map_block_sites (place : List Nat) (n : Nat) (marker : Option Callout.Marker) :
    ∀ b : Block, (b.sites place n marker).map Site.block = b.walk
  | .quote cs d | .callout _ cs d => by
      simp [Block.sites, Block.walk, map_block_sitesIn _ 0 _ cs]
  | .list _ _ _ is d => by simp [Block.sites, Block.walk, map_block_sitesInItems _ 0 is]
  | .paragraph .. | .heading .. | .code .. | .rule .. | .html .. => rfl

theorem map_block_sitesIn (place : List Nat) (n : Nat) (marker : Option Callout.Marker) :
    ∀ bs : List Block, (sitesIn place n marker bs).map Site.block = walkAll bs
  | [] => rfl
  | b :: bs => by
      simp [sitesIn, walkAll, map_block_sites place n marker b,
        map_block_sitesIn place _ none bs]

theorem map_block_sitesInItems (place : List Nat) (n : Nat) : ∀ is : List Item,
    (sitesInItems place n is).map Site.block = walkItems is
  | [] => rfl
  | .mk _ cs _ :: is => by
      simp [sitesInItems, walkItems, walkItem, map_block_sitesIn _ 0 none cs,
        map_block_sitesInItems place _ is]

end

theorem map_block_rootSites (r : Root) : r.sites.map Site.block = r.walk :=
  map_block_sitesIn [] 0 none r.children

namespace Site

/-- Is the block neither a quote nor a callout? -/
def isOther (s : Site) : Bool := !Callout.isQuoteOrCallout s.block

/-- Is the block a paragraph without inlines? -/
def isEmptyParagraph (s : Site) : Bool :=
  match s.block with
  | .paragraph [] _ => true
  | _ => false

theorem isOther_of_isEmptyParagraph {s : Site} (h : s.isEmptyParagraph = true) :
    s.isOther = true := by
  obtain ⟨place, marker, b⟩ := s
  cases b <;> first | rfl | cases h

end Site

namespace Callout

/-! ## 2. Edits -/

/-- What an item carries itself. -/
def itemShell (i : Item) : Bool × Data := (i.spread, i.data)

/-- The block is kept: as it is, or, as a list, with all that it and its items
carry themselves. -/
inductive Kept : Block → Block → Prop where
  | leaf {b : Block} (hb : b.holdsBlocks = false) : Kept b b
  | list (ordered : Bool) (start : Option UInt64) (spread : Bool) {is is' : List Item}
      (d : Data) (h : is'.map itemShell = is.map itemShell) :
      Kept (.list ordered start spread is d) (.list ordered start spread is' d)

/-- Sites before and after a conversion. -/
inductive Edits : List Site → List Site → Prop where
  | nil : Edits [] []
  /-- A block that marks no quote is kept, where it stands. -/
  | kept (place : List Nat) {b b' : Block} {before after : List Site} (hb : Kept b b')
      (h : Edits before after) :
      Edits (⟨place, none, b⟩ :: before) (⟨place, none, b'⟩ :: after)
  /-- A marker with something behind it leaves that. -/
  | body (place : List Nat) {m : Marker} (is : List Inline) (d : Data)
      {before after : List Site}
      (hm : ¬ m.remainder.all Text.isBlank) (h : Edits before after) :
      Edits (⟨place, some m, .paragraph (.text (String.ofList m.chars) :: is) d⟩ :: before)
        (⟨place, none,
          .paragraph (.text (String.ofList (Text.trimStart m.remainder)) :: is) d⟩ :: after)
  /-- A marker with nothing behind it leaves the inlines after it. -/
  | bare (place : List Nat) {m : Marker} {is : List Inline} (d : Data)
      {before after : List Site}
      (hm : m.remainder.all Text.isBlank) (his : is ≠ []) (h : Edits before after) :
      Edits (⟨place, some m, .paragraph (.text (String.ofList m.chars) :: is) d⟩ :: before)
        (⟨place, none, .paragraph is d⟩ :: after)
  /-- A marker with nothing behind it and no inline after it leaves nothing. -/
  | gone (place : List Nat) {m : Marker} (d : Data) {before after : List Site}
      (hm : m.remainder.all Text.isBlank) (h : Edits before after) :
      Edits (⟨place, some m, .paragraph [.text (String.ofList m.chars)] d⟩ :: before) after

theorem Edits.append {before after before' after' : List Site} (h : Edits before after)
    (h' : Edits before' after') : Edits (before ++ before') (after ++ after') := by
  induction h with
  | nil => exact h'
  | kept place hb _ ih => exact .kept place hb ih
  | body place is d hm _ ih => exact .body place is d hm ih
  | bare place d hm his _ ih => exact .bare place d hm his ih
  | gone place d hm _ ih => exact .gone place d hm ih

/-- Behind a block that marks no quote there are edits again. -/
theorem Edits.tail {place place' : List Nat} {marker : Option Marker} {b b' : Block}
    {before after : List Site}
    (h : Edits (⟨place, none, b⟩ :: before) (⟨place', marker, b'⟩ :: after)) :
    Edits before after := by
  cases h with
  | kept _ _ h => exact h

/-- No edit empties a paragraph, and none touches an empty one. -/
theorem Edits.filter_isEmptyParagraph {before after : List Site} (h : Edits before after) :
    after.filter Site.isEmptyParagraph = before.filter Site.isEmptyParagraph := by
  induction h with
  | nil => rfl
  | kept place hb _ ih =>
    cases hb with
    | leaf => simp only [List.filter_cons, ih]
    | list => exact ih
  | body => assumption
  | @bare _ _ is _ _ _ _ his _ ih =>
    cases is with
    | nil => exact absurd rfl his
    | cons => exact ih
  | gone => assumption

/-! ## 3. Whole trees -/

variable (element : String)

theorem holdsBlocks_convertWithin (b : Block) :
    (convertWithin element b).value.holdsBlocks = b.holdsBlocks := by
  cases b with
  | quote cs d =>
    cases hm : leadingMarker? cs with
    | none => rw [convertWithin_unmarked element hm]; rfl
    | some m => rw [convertWithin_marked element hm]; rfl
  | callout kind cs d => rw [convertWithin_callout]; rfl
  | list o s sp is d => rw [convertWithin_list]; rfl
  | _ => rw [convertWithin_leaf element rfl]

theorem map_itemShell_convertItems : ∀ is : List Item,
    (convertItems element is).value.map itemShell = is.map itemShell
  | [] => by rw [convertItems_nil]
  | .mk sp cs d :: is => by
      rw [convertItems_cons]
      simpa [itemShell, Item.spread, Item.data] using map_itemShell_convertItems is

/-- Cutting the marker out of the visited children of a marked quote is an
edit of its children. -/
theorem edits_splice {place : List Nat} {cs : List Block} {m : Marker}
    (hm : leadingMarker? cs = some m)
    (h : Edits ((sitesIn place 0 none cs).filter Site.isOther)
      ((sitesIn place 0 none (convertAll element cs).value).filter Site.isOther)) :
    Edits ((sitesIn place 0 (some m) cs).filter Site.isOther)
      ((sitesIn place 0 none (splice m.body (convertAll element cs).value)).filter
        Site.isOther) := by
  obtain ⟨-, is, d, bs, rfl⟩ := leadingMarker?_eq_some_iff.1 hm
  rw [convertAll_cons, convertWithin_paragraph] at h ⊢
  have hrest : Edits ((sitesIn place 0 none bs).filter Site.isOther)
      ((sitesIn place 0 none (convertAll element bs).value).filter Site.isOther) := h.tail
  cases hbody : m.body with
  | cons c body =>
    have hremainder : ¬ m.remainder.all Text.isBlank := by
      rw [← m.body_eq_nil_iff, hbody]
      simp
    rw [splice, ← hbody]
    · exact .body place is d hremainder hrest
    · simp
    · simp
  | nil =>
    have hremainder : m.remainder.all Text.isBlank := m.body_eq_nil_iff.1 hbody
    cases is with
    | nil => exact .gone place d hremainder hrest
    | cons i is => exact .bare place d hremainder (by simp) hrest

mutual

theorem edits_convertWithin (place : List Nat) (n : Nat) : ∀ b : Block,
    Edits ((b.sites place n none).filter Site.isOther)
      (((convertWithin element b).value.sites place n none).filter Site.isOther)
  | .quote cs d => by
      have ih := edits_convertAll (place ++ [n]) 0 cs
      cases hm : leadingMarker? cs with
      | none =>
        rw [convertWithin_unmarked element hm]
        simp only [Block.sites, marker?_quote, leadingMarker?_convertAll, hm]
        exact ih
      | some m =>
        rw [convertWithin_marked element hm]
        simp only [Block.sites, marker?_quote, hm]
        exact edits_splice element hm ih
  | .callout kind cs d => by
      rw [convertWithin_callout]
      exact edits_convertAll (place ++ [n]) 0 cs
  | .list ordered start spread is d => by
      rw [convertWithin_list]
      exact .kept place (.list ordered start spread d (map_itemShell_convertItems element is))
        (edits_convertItems (place ++ [n]) 0 is)
  | .paragraph .. | .heading .. | .code .. | .rule .. | .html .. => by
      rw [convertWithin_leaf element rfl]
      exact .kept place (.leaf rfl) .nil

theorem edits_convertAll (place : List Nat) (n : Nat) : ∀ bs : List Block,
    Edits ((sitesIn place n none bs).filter Site.isOther)
      ((sitesIn place n none (convertAll element bs).value).filter Site.isOther)
  | [] => by
      rw [convertAll_nil]
      exact .nil
  | b :: bs => by
      rw [convertAll_cons]
      simp only [sitesIn, List.filter_append, holdsBlocks_convertWithin]
      exact (edits_convertWithin place n b).append (edits_convertAll place _ bs)

theorem edits_convertItems (place : List Nat) (n : Nat) : ∀ is : List Item,
    Edits ((sitesInItems place n is).filter Site.isOther)
      ((sitesInItems place n (convertItems element is).value).filter Site.isOther)
  | [] => by
      rw [convertItems_nil]
      exact .nil
  | .mk sp cs d :: is => by
      rw [convertItems_cons]
      simp only [sitesInItems, List.filter_append]
      exact (edits_convertAll (place ++ [n]) 0 cs).append (edits_convertItems place (n + 1) is)

end

theorem edits_sites (r : Root) :
    Edits (r.sites.filter Site.isOther)
      ((convertRoot element r).value.sites.filter Site.isOther) :=
  edits_convertAll element [] 0 r.children

/-! ## 4. Block by block -/

/-- A paragraph before and after a marker was cut out of it. -/
inductive Trimmed : Block → Block → Prop where
  | body (value body : String) (is : List Inline) (d : Data) :
      Trimmed (.paragraph (.text value :: is) d) (.paragraph (.text body :: is) d)
  | bare (value : String) (is : List Inline) (d : Data) :
      Trimmed (.paragraph (.text value :: is) d) (.paragraph is d)

/-- What stands there after edits stood there before, kept or trimmed. -/
theorem Edits.exists_sublist {before after : List Site} (h : Edits before after) :
    ∃ left : List Site, left.Sublist before
      ∧ List.Forall₂ (fun s t => Kept s.block t.block ∨ Trimmed s.block t.block)
        left after := by
  induction h with
  | nil => exact ⟨[], .slnil, .nil⟩
  | kept place hb _ ih =>
    obtain ⟨left, hsub, hall⟩ := ih
    exact ⟨_ :: left, hsub.cons_cons _, .cons (.inl hb) hall⟩
  | body place is d _ _ ih =>
    obtain ⟨left, hsub, hall⟩ := ih
    exact ⟨_ :: left, hsub.cons_cons _, .cons (.inr (.body ..)) hall⟩
  | bare place d _ _ _ ih =>
    obtain ⟨left, hsub, hall⟩ := ih
    exact ⟨_ :: left, hsub.cons_cons _, .cons (.inr (.bare ..)) hall⟩
  | gone place d _ _ ih =>
    obtain ⟨left, hsub, hall⟩ := ih
    exact ⟨left, hsub.cons _, hall⟩

/-- Of lists related member by member, each member of the second has one of the
first. -/
theorem exists_of_forall₂ {α β : Type} {R : α → β → Prop} {as : List α} {bs : List β}
    (h : List.Forall₂ R as bs) {b : β} (hb : b ∈ bs) : ∃ a ∈ as, R a b := by
  induction h with
  | nil => cases hb
  | cons hab _ ih =>
    rcases List.mem_cons.1 hb with rfl | hb
    · exact ⟨_, List.mem_cons_self, hab⟩
    · obtain ⟨a, ha, hr⟩ := ih hb
      exact ⟨a, List.mem_cons_of_mem _ ha, hr⟩

/-- Every block of a converted document was a block of the document: a quote or
callout, or one that was kept or trimmed. -/
theorem exists_of_mem_walk_convertRoot {r : Root} {b' : Block}
    (h : b' ∈ (convertRoot element r).value.walk) :
    ∃ b ∈ r.walk, Becomes element b b' ∨ Kept b b' ∨ Trimmed b b' := by
  cases hq : isQuoteOrCallout b' with
  | true =>
    obtain ⟨b, hb, hbecomes⟩ := exists_of_forall₂ (becomes_convertAll element r.children)
      (List.mem_filter.2 ⟨h, hq⟩)
    exact ⟨b, List.mem_of_mem_filter hb, .inl hbecomes⟩
  | false =>
    rw [← map_block_rootSites] at h ⊢
    obtain ⟨t, ht, rfl⟩ := List.mem_map.1 h
    obtain ⟨left, hsub, hall⟩ := (edits_sites element r).exists_sublist
    obtain ⟨s, hs, hst⟩ := exists_of_forall₂ hall
      (List.mem_filter.2 ⟨ht, by simp [Site.isOther, hq]⟩)
    exact ⟨s.block, List.mem_map_of_mem (List.mem_of_mem_filter (hsub.subset hs)), .inr hst⟩

/-! ## 5. Documents -/

/-- The empty paragraphs are among the blocks that are edited. -/
theorem filter_isEmptyParagraph_isOther (ss : List Site) :
    (ss.filter Site.isOther).filter Site.isEmptyParagraph
      = ss.filter Site.isEmptyParagraph := by
  rw [List.filter_filter]
  refine List.filter_congr fun s _ => ?_
  cases h : s.isEmptyParagraph with
  | true => simp [Site.isOther_of_isEmptyParagraph h]
  | false => rfl

/-- **What a conversion leaves alone.** The sites of a document are those of
its walk. Of the blocks that are neither quotes nor callouts, conversion edits
the paragraphs that mark a quote and keeps all others, in order and in their
containers. The empty paragraphs are the same ones as before. -/
theorem convertRoot_frame (r : Root) :
    r.sites.map Site.block = r.walk
      ∧ Edits (r.sites.filter Site.isOther)
          ((convertRoot element r).value.sites.filter Site.isOther)
      ∧ (convertRoot element r).value.sites.filter Site.isEmptyParagraph
          = r.sites.filter Site.isEmptyParagraph := by
  have h := edits_sites element r
  refine ⟨map_block_rootSites r, h, ?_⟩
  rw [← filter_isEmptyParagraph_isOther, h.filter_isEmptyParagraph,
    filter_isEmptyParagraph_isOther]

end Callout

end Marginalia
