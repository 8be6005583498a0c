/-
Marginalia.Proofs.Markup.RawHtml — leaving raw HTML out is never having had it.

`withoutHtml` takes the raw HTML out of a tree: every block and every inline
of that kind, out of every sequence it stands in, and nothing else.

`ofRoot_withoutHtml`: where raw HTML is not allowed, a document is written as
the document without it, and that one is written the same whether raw HTML
is allowed or not. So two documents that differ in raw HTML only, in what it
says or in where it stands, are written alike: no line end and no change of
layout shows that there was any.

## How the proof goes

One statement carries both halves: with either setting, the pieces of what
is left of a tree are the pieces of the tree with raw HTML left out. The
writer drops raw HTML where it goes along a sequence, `lines` and
`itemChildren`, and so does `withoutHtml`; the layout is laid over what is
left, and needs no case of its own.
-/
import Marginalia.Markup.OfTree

namespace Marginalia

/-! ## 1. Taking raw HTML out -/

/-- Is the inline raw HTML? -/
def Inline.isHtml : Inline → Bool
  | .html _ => true
  | _ => false

mutual

/-- The inline with the raw HTML inside it taken out. -/
def Inline.withoutHtml : Inline → Inline
  | .text value => .text value
  | .emphasis cs => .emphasis (inlinesWithoutHtml cs)
  | .strong cs => .strong (inlinesWithoutHtml cs)
  | .delete cs => .delete (inlinesWithoutHtml cs)
  | .code value => .code value
  | .lineBreak => .lineBreak
  | .link url title cs => .link url title (inlinesWithoutHtml cs)
  | .image url title alt => .image url title alt
  | .html value => .html value

/-- The inlines but raw HTML, with the raw HTML inside them taken out. -/
def inlinesWithoutHtml : List Inline → List Inline
  | [] => []
  | i :: is =>
    if i.isHtml then inlinesWithoutHtml is else i.withoutHtml :: inlinesWithoutHtml is

end

mutual

/-- The block with the raw HTML inside it taken out. -/
def Block.withoutHtml : Block → Block
  | .paragraph cs d => .paragraph (inlinesWithoutHtml cs) d
  | .heading depth cs d => .heading depth (inlinesWithoutHtml cs) d
  | .quote cs d => .quote (blocksWithoutHtml cs) d
  | .callout kind cs d => .callout kind (blocksWithoutHtml cs) d
  | .list ordered start spread is d => .list ordered start spread (itemsWithoutHtml is) d
  | .code language details value d => .code language details value d
  | .rule d => .rule d
  | .html value d => .html value d

/-- The blocks but raw HTML, with the raw HTML inside them taken out. -/
def blocksWithoutHtml : List Block → List Block
  | [] => []
  | b :: bs => if b.isHtml then blocksWithoutHtml bs else b.withoutHtml :: blocksWithoutHtml bs

/-- The items with the raw HTML inside them taken out. -/
def itemsWithoutHtml : List Item → List Item
  | [] => []
  | .mk spread cs d :: is => .mk spread (blocksWithoutHtml cs) d :: itemsWithoutHtml is

end

/-- The document with its raw HTML taken out. -/
def Root.withoutHtml (r : Root) : Root := ⟨blocksWithoutHtml r.children⟩

namespace Markup

/-! ## 2. What is left is written as before -/

variable (raw : Bool)

mutual

theorem inlinePieces_withoutHtml : ∀ i : Inline, i.isHtml = false →
    inlinePieces raw i.withoutHtml = inlinePieces false i
  | .emphasis cs, _ | .strong cs, _ | .delete cs, _ | .link _ _ cs, _ => by
      simp only [Inline.withoutHtml, inlinePieces, inlinesPieces_withoutHtml cs]
  | .text _, _ | .code _, _ | .lineBreak, _ | .image .., _ => rfl

theorem inlinesPieces_withoutHtml : ∀ is : List Inline,
    inlinesPieces raw (inlinesWithoutHtml is) = inlinesPieces false is
  | [] => rfl
  | i :: is => by
      have ih := inlinesPieces_withoutHtml is
      cases hi : i.isHtml with
      | true =>
        obtain ⟨value, rfl⟩ : ∃ value, i = .html value := by
          cases i <;> first | exact ⟨_, rfl⟩ | cases hi
        simpa [inlinesWithoutHtml, hi, inlinesPieces, inlinePieces] using ih
      | false =>
        simp [inlinesWithoutHtml, hi, inlinesPieces, inlinePieces_withoutHtml i hi, ih]

end

/-- What raw HTML leaves behind is shown. -/
theorem isShown_withoutHtml {b : Block} (hb : b.isHtml = false) :
    isShown raw b.withoutHtml = true := by
  cases b <;> first | rfl | cases hb

theorem isShown_false (b : Block) : isShown false b = !b.isHtml := by
  cases b <;> rfl

/-- Being written without element does not depend on the raw HTML in a
block. -/
theorem itemChild_withoutHtml (loose : Bool) {b : Block} (ps : List Piece) :
    itemChild raw loose b.withoutHtml ps = itemChild false loose b ps := by
  cases b with
  | paragraph cs d => simp only [Block.withoutHtml, itemChild, inlinesPieces_withoutHtml]
  | _ => rfl

mutual

theorem blockPieces_withoutHtml : ∀ b : Block, b.isHtml = false →
    blockPieces raw b.withoutHtml = blockPieces false b
  | .paragraph cs d, _ | .heading _ cs d, _ => by
      simp only [Block.withoutHtml, blockPieces, inlinesPieces_withoutHtml]
  | .quote cs d, _ | .callout _ cs d, _ => by
      simp only [Block.withoutHtml, blockPieces, lines_withoutHtml cs]
  | .list ordered start spread is d, _ => by
      simp only [Block.withoutHtml, blockPieces, itemLines_withoutHtml spread is]
  | .code .., _ | .rule _, _ => rfl

theorem lines_withoutHtml : ∀ bs : List Block,
    lines raw (blocksWithoutHtml bs) = lines false bs
  | [] => rfl
  | b :: bs => by
      have ih := lines_withoutHtml bs
      cases hb : b.isHtml with
      | true => simpa [blocksWithoutHtml, hb, lines, isShown_false] using ih
      | false =>
        simp [blocksWithoutHtml, hb, lines, isShown_false, isShown_withoutHtml,
          blockPieces_withoutHtml b hb, ih]

theorem itemLines_withoutHtml (spread : Bool) : ∀ is : List Item,
    itemLines raw spread (itemsWithoutHtml is) = itemLines false spread is
  | [] => rfl
  | .mk itemSpread cs d :: is => by
      simp only [itemsWithoutHtml, itemLines, itemPieces,
        itemChildren_withoutHtml (spread || itemSpread) cs, itemLines_withoutHtml spread is]

theorem itemChildren_withoutHtml (loose : Bool) : ∀ bs : List Block,
    itemChildren raw loose (blocksWithoutHtml bs) = itemChildren false loose bs
  | [] => rfl
  | b :: bs => by
      have ih := itemChildren_withoutHtml loose bs
      cases hb : b.isHtml with
      | true => simpa [blocksWithoutHtml, hb, itemChildren, isShown_false] using ih
      | false =>
        simp [blocksWithoutHtml, hb, itemChildren, isShown_false, isShown_withoutHtml,
          itemChild_withoutHtml, blockPieces_withoutHtml b hb, ih]

end

theorem ofRoot_raw_withoutHtml (r : Root) : ofRoot raw r.withoutHtml = ofRoot false r := by
  simp only [ofRoot, ofBlocks, blocksPieces, Root.withoutHtml, lines_withoutHtml]

/-! ## 3. Documents -/

/-- **Leaving raw HTML out is never having had it.** A document written
without raw HTML is written as what is left when its raw HTML is taken out,
which is written the same with either setting. So documents that have the
same left are written alike. -/
theorem ofRoot_withoutHtml (r : Root) :
    ofRoot false r = ofRoot false r.withoutHtml
      ∧ ofRoot false r = ofRoot true r.withoutHtml
      ∧ ∀ r' : Root, r'.withoutHtml = r.withoutHtml → ofRoot false r' = ofRoot false r := by
  refine ⟨(ofRoot_raw_withoutHtml false r).symm, (ofRoot_raw_withoutHtml true r).symm, ?_⟩
  intro r' h
  calc ofRoot false r'
      = ofRoot false r'.withoutHtml := (ofRoot_raw_withoutHtml false r').symm
    _ = ofRoot false r.withoutHtml := by rw [h]
    _ = ofRoot false r := ofRoot_raw_withoutHtml false r

end Markup

end Marginalia
