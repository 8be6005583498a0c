/-
Marginalia.Proofs.Markup.BlockTags — what blocks carry is written into their
opening tags.

`blockTags_inOrder`: the HTML of a document contains an opening tag for each
block that is written as an element, in the order in which the tree is
walked and none of them twice. The tag has the element name that the block
carries, or else the name of its kind, and each property that no later one
replaces is an attribute of it, with its value escaped.

Two kinds of blocks are not written as elements: raw HTML, and a paragraph
that stands directly in a tight item. The second is where what a block
carries is lost (`tightDocument_drops_data`).

## How the proof goes

`placed` walks a tree and remembers of each block whether it stands
directly in a tight item, which the block itself does not say. The tags are
then a sublist of the pieces: along the tree, each block brings its own tag
in front of what is inside it (`tags_blockPieces`), and the layout only adds
line ends between lines. A sublist of pieces is met in order in what is
written (`inOrder_of_sublist`).
-/
import Mathlib.Data.List.Forall2
import Marginalia.Proofs.Markup.Attributes

namespace Marginalia

/-! ## 1. Places -/

/-- A block and where it stands. -/
structure Placed where
  /-- Does it stand directly in a tight item? -/
  inTightItem : Bool
  /-- The block. -/
  block : Block

/-- Is the block written as an element? -/
def Placed.isElement (p : Placed) : Bool :=
  !p.block.isHtml && !(p.inTightItem && p.block.isParagraph)

mutual

/-- A block and the blocks inside it in the order of walking, each with its
place; `tight` says where the block itself stands. -/
def Block.placed (tight : Bool) : Block → List Placed
  | .quote cs d => ⟨tight, .quote cs d⟩ :: placedAll false cs
  | .callout kind cs d => ⟨tight, .callout kind cs d⟩ :: placedAll false cs
  | .list ordered start spread is d =>
    ⟨tight, .list ordered start spread is d⟩ :: placedItems spread is
  | .paragraph cs d => [⟨tight, .paragraph cs d⟩]
  | .heading depth cs d => [⟨tight, .heading depth cs d⟩]
  | .code language details value d => [⟨tight, .code language details value d⟩]
  | .rule d => [⟨tight, .rule d⟩]
  | .html value d => [⟨tight, .html value d⟩]

/-- The blocks of a sequence and those inside them, with their places. -/
def placedAll (tight : Bool) : List Block → List Placed
  | [] => []
  | b :: bs => b.placed tight ++ placedAll tight bs

/-- The blocks inside items, with their places; `spread` says that the items
are set apart. -/
def placedItems (spread : Bool) : List Item → List Placed
  | [] => []
  | .mk itemSpread cs _ :: is =>
    placedAll (!(spread || itemSpread)) cs ++ placedItems spread is

end

/-- Every block of a document with its place. -/
def Root.placed (r : Root) : List Placed := placedAll false r.children

mutual

theorem map_block_placed (tight : Bool) : ∀ b : Block,
    (b.placed tight).map Placed.block = b.walk
  | .quote cs d | .callout _ cs d => by
      simp [Block.placed, Block.walk, map_block_placedAll false cs]
  | .list _ _ spread is d => by
    simp [Block.placed, Block.walk, map_block_placedItems spread is]
  | .paragraph .. | .heading .. | .code .. | .rule .. | .html .. => rfl

theorem map_block_placedAll (tight : Bool) : ∀ bs : List Block,
    (placedAll tight bs).map Placed.block = walkAll bs
  | [] => rfl
  | b :: bs => by
      simp [placedAll, walkAll, map_block_placed tight b, map_block_placedAll tight bs]

theorem map_block_placedItems (spread : Bool) : ∀ is : List Item,
    (placedItems spread is).map Placed.block = walkItems is
  | [] => rfl
  | .mk itemSpread cs d :: is => by
      simp [placedItems, walkItems, walkItem, map_block_placedAll _ cs,
        map_block_placedItems spread is]

end

namespace Markup

/-! ## 2. The tag of a block -/

/-- The element name of a block's kind; raw HTML is no element. -/
def naturalName : Block → String
  | .paragraph .. => "p"
  | .heading depth .. => headingName depth
  | .quote .. => "blockquote"
  | .callout .. => Callout.defaultElement
  | .list ordered .. => if ordered then "ol" else "ul"
  | .code .. => "code"
  | .rule .. => "hr"
  | .html .. => ""

/-- The attributes that a block's element has of its own. -/
def ownAttributes : Block → List Attribute
  | .callout kind _ d => calloutAttributes kind d
  | .list ordered start .. => listAttributes ordered start
  | .code language .. => codeAttributes language
  | _ => []

/-- The name and the attributes of the opening tag of a block. -/
def tagOf (b : Block) : String × List Attribute :=
  (elementName b.data (naturalName b),
    mergeAttributes (ownAttributes b) b.data.properties.entries)

/-- The tag shows what the block carries. -/
structure Shows (b : Block) (tag : String × List Attribute) : Prop where
  /-- Its name is the element name that the block carries, if it carries one. -/
  name : tag.1 = b.data.elementName.getD (naturalName b)
  /-- A property is an attribute unless a later one is written as the same
  attribute. -/
  attributes : ∀ before p after, b.data.properties.entries = before ++ p :: after →
    (∀ q ∈ after, attributeName q.1 ≠ attributeName p.1) → (attributeName p.1, p.2) ∈ tag.2

theorem shows_tagOf (b : Block) : Shows b (tagOf b) where
  name := rfl
  attributes before p after hentries hafter := by
    rw [tagOf, hentries]
    exact mem_mergeAttributes _ before hafter

/-! ## 3. The tags are among the pieces -/

/-- The opening tags of the blocks that are written as elements. -/
def tagPieces (ps : List Placed) : List Piece :=
  (ps.filter Placed.isElement).map fun p => .openTag (tagOf p.block).1 (tagOf p.block).2

theorem tagPieces_append (ps qs : List Placed) :
    tagPieces (ps ++ qs) = tagPieces ps ++ tagPieces qs := by
  simp [tagPieces]

theorem tagPieces_cons (p : Placed) (ps : List Placed) :
    tagPieces (p :: ps) = tagPieces [p] ++ tagPieces ps := tagPieces_append [p] ps

/-- One block brings at most its own tag. -/
theorem tagPieces_singleton (p : Placed) :
    List.Sublist (tagPieces [p]) [.openTag (tagOf p.block).1 (tagOf p.block).2] := by
  unfold tagPieces
  cases h : p.isElement <;> simp [h]

theorem tagPieces_placed_html (tight : Bool) (value : String) (d : Data) :
    tagPieces ((Block.html value d).placed tight) = [] := rfl

/-- A paragraph of a tight item has no tag. -/
theorem tagPieces_placed_tight (cs : List Inline) (d : Data) :
    tagPieces ((Block.paragraph cs d).placed true) = [] := rfl

theorem flatten_sublist_onLines : ∀ ls : List (List Piece),
    ls.flatten.Sublist (ls.flatMap (· ++ [.newline]))
  | [] => .slnil
  | l :: ls => by
      simpa using (List.Sublist.refl l).append ((flatten_sublist_onLines ls).cons _)

theorem flatten_sublist_joinLines : ∀ ls : List (List Piece), ls.flatten.Sublist (joinLines ls)
  | [] => .slnil
  | [l] => by simp [joinLines]
  | l :: l' :: ls => by
      rw [joinLines]
      · exact (List.Sublist.refl l).append ((flatten_sublist_joinLines (l' :: ls)).cons _)
      · simp

theorem flatten_sublist_childPieces : ∀ (first : Bool) (cs : List Child),
    (cs.map Child.pieces).flatten.Sublist (childPieces first cs)
  | _, [] => .slnil
  | first, [c] => by
      rw [childPieces, List.append_assoc]
      refine .trans ?_ (List.sublist_append_right _ _)
      simp
  | first, c :: c' :: cs => by
      rw [childPieces]
      · rw [List.append_assoc]
        refine .trans ?_ (List.sublist_append_right _ _)
        exact (List.Sublist.refl c.pieces).append
          (flatten_sublist_childPieces false (c' :: cs))
      · simp

/-- The tag of an element that holds lines, and the tags inside the lines. -/
theorem tags_container {p : Placed} {ps : List Placed} {ls : List (List Piece)}
    (h : (tagPieces ps).Sublist ls.flatten) :
    (tagPieces (p :: ps)).Sublist
      (container (tagOf p.block).1 (ownAttributes p.block) p.block.data ls) := by
  rw [tagPieces_cons, container, List.cons_append]
  have hlines := (h.trans (flatten_sublist_onLines ls)).cons Piece.newline
  exact (tagPieces_singleton p).append (hlines.trans (List.sublist_append_left _ _))

/-- The tag of a block without blocks inside it is at its front. -/
theorem tags_leaf (p : Placed) (ps : List Piece) :
    (tagPieces [p]).Sublist (.openTag (tagOf p.block).1 (tagOf p.block).2 :: ps) :=
  (tagPieces_singleton p).trans (List.singleton_sublist.2 List.mem_cons_self)

mutual

theorem tags_blockPieces (raw tight : Bool) : ∀ b : Block,
    (tagPieces (b.placed tight)).Sublist (blockPieces raw b)
  | .quote cs d => tags_container (p := ⟨tight, .quote cs d⟩) (tags_lines raw cs)
  | .callout kind cs d => tags_container (p := ⟨tight, .callout kind cs d⟩) (tags_lines raw cs)
  | .list ordered start spread is d =>
      tags_container (p := ⟨tight, .list ordered start spread is d⟩)
        (tags_itemLines raw spread is)
  | .paragraph cs d => tags_leaf ⟨tight, .paragraph cs d⟩ _
  | .heading depth cs d => tags_leaf ⟨tight, .heading depth cs d⟩ _
  -- the tag of code stands inside the one of the element around it
  | .code language details value d =>
    (tags_leaf ⟨tight, .code language details value d⟩ _).cons _
  | .rule d => tags_leaf ⟨tight, .rule d⟩ _
  | .html .. => List.nil_sublist _

theorem tags_lines (raw : Bool) : ∀ bs : List Block,
    (tagPieces (placedAll false bs)).Sublist (lines raw bs).flatten
  | [] => .slnil
  | b :: bs => by
      have hb := tags_blockPieces raw false b
      have hbs := tags_lines raw bs
      rw [placedAll, tagPieces_append]
      cases hs : isShown raw b with
      | true => simpa [lines, hs] using hb.append hbs
      | false =>
        obtain ⟨value, d, rfl⟩ : ∃ value d, b = .html value d := by
          cases b <;> first | exact ⟨_, _, rfl⟩ | cases hs
        simpa [lines, hs, tagPieces_placed_html] using hbs

theorem tags_itemLines (raw spread : Bool) : ∀ is : List Item,
    (tagPieces (placedItems spread is)).Sublist (itemLines raw spread is).flatten
  | [] => .slnil
  | .mk itemSpread cs d :: is => by
      rw [placedItems, tagPieces_append, itemLines, List.flatten_cons, itemPieces]
      have hcs := (tags_itemChildren raw (spread || itemSpread) cs).trans
        (flatten_sublist_childPieces true _)
      exact ((hcs.cons _).trans (List.sublist_append_left _ _)).append
        (tags_itemLines raw spread is)

theorem tags_itemChildren (raw loose : Bool) : ∀ bs : List Block,
    (tagPieces (placedAll (!loose) bs)).Sublist
      ((itemChildren raw loose bs).map Child.pieces).flatten
  | [] => .slnil
  | b :: bs => by
      have hb := tags_blockPieces raw (!loose) b
      have hbs := tags_itemChildren raw loose bs
      rw [placedAll, tagPieces_append]
      cases b with
      | paragraph cs d =>
        cases loose with
        | true => simpa [itemChildren, isShown, itemChild] using hb.append hbs
        | false =>
          simpa [itemChildren, isShown, itemChild, tagPieces_placed_tight] using
            hbs.trans (List.sublist_append_right _ _)
      | html value d =>
        cases raw with
        | true => simpa [itemChildren, isShown, itemChild] using hb.append hbs
        | false => simpa [itemChildren, isShown, tagPieces_placed_html] using hbs
      | _ => simpa [itemChildren, isShown, itemChild] using hb.append hbs

end

/-! ## 4. In order in the text -/

/-- The stretches stand in the text one behind the other. -/
inductive InOrder : List (List Char) → List Char → Prop where
  | nil (s : List Char) : InOrder [] s
  | cons (before stretch : List Char) {stretches : List (List Char)} {rest : List Char}
      (h : InOrder stretches rest) : InOrder (stretch :: stretches) (before ++ stretch ++ rest)

theorem InOrder.prepend {stretches : List (List Char)} {s : List Char}
    (h : InOrder stretches s) (front : List Char) : InOrder stretches (front ++ s) := by
  cases h with
  | nil => exact .nil _
  | cons before stretch h =>
    rw [← List.append_assoc, ← List.append_assoc]
    exact .cons (front ++ before) stretch h

/-- Each stretch is part of the text. -/
theorem InOrder.subset {stretches : List (List Char)} {s : List Char} (h : InOrder stretches s)
    {stretch : List Char} (hmem : stretch ∈ stretches) : stretch ⊆ s := by
  induction h with
  | nil => cases hmem
  | cons before first _ ih =>
    rcases List.mem_cons.1 hmem with rfl | hmem
    · intro c hc
      simp [hc]
    · intro c hc
      exact List.mem_append_right _ (ih hmem hc)

/-- Some of the pieces are met in order in what all of them are written as. -/
theorem inOrder_of_sublist {ps qs : List Piece} (h : ps.Sublist qs) :
    InOrder (ps.map Piece.chars) (renderChars qs) := by
  induction h with
  | slnil => exact .nil _
  | cons q _ ih => exact ih.prepend q.chars
  | cons_cons q _ ih => exact .cons [] q.chars ih

/-! ## 5. Documents -/

/-- **What blocks carry is written into their tags.** The blocks of a
document that are written as elements, in the order of walking, have opening
tags in its HTML in that order, and each tag shows what its block carries. -/
theorem blockTags_inOrder (raw : Bool) (r : Root) :
    r.placed.map Placed.block = r.walk
      ∧ ∃ tags : List (String × List Attribute),
          List.Forall₂ Shows ((r.placed.filter Placed.isElement).map Placed.block) tags
            ∧ InOrder (tags.map fun t => (Piece.openTag t.1 t.2).chars)
              (ofRoot raw r).toList := by
  refine ⟨map_block_placedAll false r.children,
    ((r.placed.filter Placed.isElement).map Placed.block).map tagOf, ?_, ?_⟩
  · rw [List.forall₂_map_right_iff]
    exact List.forall₂_same.2 fun b _ => shows_tagOf b
  · have hpieces : (tagPieces r.placed).Sublist (blocksPieces raw r.children) :=
      (tags_lines raw r.children).trans (flatten_sublist_joinLines _)
    have h := inOrder_of_sublist hpieces
    rw [ofRoot, ofBlocks, render, String.toList_ofList]
    simpa [tagPieces, Function.comp_def] using h

/-- Does the block carry an element name or a property? -/
def carriesMarkup (b : Block) : Bool :=
  b.data.elementName.isSome || !b.data.properties.isEmpty

/-- A list with one tight item, whose paragraph carries an element name. -/
def tightDocument : Root :=
  ⟨[.list false none false
    [.mk false [.paragraph [.text "a"] { elementName := some "div" }] .none] .none]⟩

/-- Its paragraph has no tag, and what it carries is not written. -/
theorem tightDocument_drops_data :
    ¬ ∃ tags : List (String × List Attribute),
        List.Forall₂ Shows
          (tightDocument.walk.filter fun b => !b.isHtml && carriesMarkup b) tags
          ∧ InOrder (tags.map fun t => (Piece.openTag t.1 t.2).chars)
              (ofRoot false tightDocument).toList := by
  rintro ⟨tags, hshows, horder⟩
  have hwalk : tightDocument.walk.filter (fun b => !b.isHtml && carriesMarkup b)
      = [.paragraph [.text "a"] { elementName := some "div" }] := rfl
  have hhtml : (ofRoot false tightDocument).toList = "<ul>\n<li>a</li>\n</ul>".toList := by
    decide
  rw [hwalk] at hshows
  obtain ⟨t, ts, ht, -, rfl⟩ := List.forall₂_cons_left_iff.1 hshows
  have hname : t.1 = "div" := ht.name
  have htag : 'd' ∈ (Piece.openTag t.1 t.2).chars := by simp [Piece.chars, hname]
  have hd := horder.subset (List.mem_map_of_mem List.mem_cons_self) htag
  rw [hhtml] at hd
  exact absurd hd (by decide)

end Markup

end Marginalia
