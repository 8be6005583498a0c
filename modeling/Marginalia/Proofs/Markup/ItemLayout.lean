/-
Marginalia.Proofs.Markup.ItemLayout — where the line ends of an item stand.

Items have a layout of their own, since a tight one writes its paragraphs
without element. `ofItem_layout` compares it with the layout of the other
elements that hold blocks:

* a loose item, and a tight one without a paragraph among the blocks that are
  shown, is a `container` of its blocks, each on a line of its own;
* a tight item that shows paragraphs only is their inlines with a line end
  between each two, and none before the first or behind the last;
* any tight item has one line end between each two blocks, one before the
  first unless that is a paragraph, and one behind the last unless that is.

Raw HTML that is left out counts nowhere.

## How the proof goes

Blocks are first brought into the form the layouts take: those that are shown,
each with its pieces (`lines_eq_map`, `itemChildren_eq_map`). The layout of an
item is the layout of lines with the two ends added (`childPieces_eq`). A
container has a line end at both ends, and so the first case is the general
one with no child at an end that is a paragraph (`childPieces_wrapped`).
-/
import Marginalia.Proofs.Markup.Rendered

namespace Marginalia.Markup

/-! ## 1. The blocks that are shown -/

/-- The blocks of a sequence that are shown. -/
def shownBlocks (raw : Bool) (bs : List Block) : List Block := bs.filter (isShown raw)

theorem lines_eq_map (raw : Bool) (bs : List Block) :
    lines raw bs = (shownBlocks raw bs).map (blockPieces raw) := by
  induction bs with
  | nil => rfl
  | cons b bs ih => cases hb : isShown raw b <;> simp [lines, shownBlocks, hb, ih]

theorem itemChildren_eq_map (raw loose : Bool) (bs : List Block) :
    itemChildren raw loose bs
      = (shownBlocks raw bs).map fun b => itemChild raw loose b (blockPieces raw b) := by
  induction bs with
  | nil => rfl
  | cons b bs ih => cases hb : isShown raw b <;> simp [itemChildren, shownBlocks, hb, ih]

theorem unwrapped_itemChild (raw loose : Bool) (b : Block) (ps : List Piece) :
    (itemChild raw loose b ps).unwrapped = (!loose && b.isParagraph) := by
  cases b <;> cases loose <;> rfl

/-- A child with an element is written as the block. -/
theorem pieces_itemChild_of_wrapped {raw loose : Bool} {b : Block} {ps : List Piece}
    (h : (itemChild raw loose b ps).unwrapped = false) :
    (itemChild raw loose b ps).pieces = ps := by
  cases b <;> cases loose <;> first | rfl | cases h

/-! ## 2. The layout of children -/

theorem joinLines_cons_cons (l l' : List Piece) (ls : List (List Piece)) :
    joinLines (l :: l' :: ls) = l ++ .newline :: joinLines (l' :: ls) := by
  rw [joinLines]
  simp

/-- The line end at a child that comes first or last, unless that is a paragraph
without element. -/
def endAt (c : Option Child) : List Piece := if c.any Child.unwrapped then [] else [.newline]

/-- Children are laid out like lines, with a line end before and behind them
unless a paragraph without element stands there. -/
theorem childPieces_eq (first : Bool) {cs : List Child} (h : cs ≠ []) :
    childPieces first cs
      = endAt (if first then cs.head? else none) ++ joinLines (cs.map Child.pieces)
        ++ endAt cs.getLast? := by
  induction cs generalizing first with
  | nil => exact absurd rfl h
  | cons c cs ih =>
    have hfirst : (if (first && c.unwrapped) = true then [] else [.newline])
        = endAt (if first then some c else none) := by
      cases first <;> simp [endAt]
    cases cs with
    | nil => rw [childPieces, hfirst]; rfl
    | cons c' cs =>
      rw [childPieces, hfirst, ih false (List.cons_ne_nil c' cs)]
      · have hnone : endAt none = [.newline] := rfl
        simp [joinLines_cons_cons, hnone]
      · simp

/-- Lines that each have a line end behind them, laid out as lines. -/
theorem flatMap_newline_eq {ls : List (List Piece)} (h : ls ≠ []) :
    ls.flatMap (· ++ [.newline]) = joinLines ls ++ [.newline] := by
  induction ls with
  | nil => exact absurd rfl h
  | cons l ls ih =>
    cases ls with
    | nil => simp [joinLines]
    | cons l' ls =>
      rw [List.flatMap_cons, ih (List.cons_ne_nil l' ls), joinLines_cons_cons]
      simp

/-- Children with elements only are laid out as in a container. -/
theorem childPieces_wrapped {cs : List Child} (h : cs ≠ [])
    (hw : ∀ c ∈ cs, c.unwrapped = false) :
    childPieces true cs = .newline :: (cs.map Child.pieces).flatMap (· ++ [.newline]) := by
  have hend : ∀ c? : Option Child, (∀ c ∈ c?, c ∈ cs) → endAt c? = [.newline] := by
    rintro (_ | c) hc
    · rfl
    · simp [endAt, hw c (hc c rfl)]
  have hmap : cs.map Child.pieces ≠ [] := fun hnil => h (List.map_eq_nil_iff.1 hnil)
  rw [childPieces_eq true h, if_pos rfl, hend _ fun _ => List.mem_of_mem_head?,
    hend _ fun _ => List.mem_of_mem_getLast?, flatMap_newline_eq hmap]
  rfl

theorem render_joinLines (ls : List (List Piece)) :
    render (joinLines ls) = "\n".intercalate (ls.map render) := by
  induction ls with
  | nil => rfl
  | cons l ls ih =>
    cases ls with
    | nil => rfl
    | cons l' ls =>
      have hsplit : l ++ .newline :: joinLines (l' :: ls)
          = l ++ [.newline] ++ joinLines (l' :: ls) := by simp
      rw [joinLines_cons_cons, hsplit, render_append, render_append, render_newline, ih,
        List.map_cons, List.map_cons, List.map_cons, String.intercalate_cons_cons]

/-! ## 3. Items -/

/-- The HTML of an item of a list that is spread or not. -/
def ofItem (raw spread : Bool) (i : Item) : String := render (itemPieces raw spread i)

/-- A block as a tight item has it: a paragraph without its element. -/
def ofTightChild (raw : Bool) : Block → String
  | .paragraph cs _ => ofInlines raw cs
  | b => ofBlocks raw [b]

/-- The line end of a tight item at a block that comes first or last. -/
def lineEndAt (b : Option Block) : String := if b.any Block.isParagraph then "" else "\n"

theorem render_itemChild (raw : Bool) {b : Block} (hb : isShown raw b = true) :
    render (itemChild raw false b (blockPieces raw b)).pieces = ofTightChild raw b := by
  cases b with
  | paragraph cs d => rfl
  | _ => exact (ofBlocks_singleton raw hb).symm

/-- An item, its children laid out in some way. -/
theorem ofItem_eq (raw spread itemSpread : Bool) (cs : List Block) (d : Data) :
    ofItem raw spread (.mk itemSpread cs d)
      = render [openTag (elementName d "li") [] d]
        ++ render (childPieces true (itemChildren raw (spread || itemSpread) cs))
        ++ "</" ++ elementName d "li" ++ ">" := by
  have hpieces : itemPieces raw spread (.mk itemSpread cs d)
      = [openTag (elementName d "li") [] d]
        ++ childPieces true (itemChildren raw (spread || itemSpread) cs)
        ++ [.closeTag (elementName d "li")] := by
    simp [itemPieces]
  rw [ofItem, hpieces, render_append, render_append, render_closeTag]
  simp only [String.append_assoc]

/-- An item without paragraphs to unwrap is a container. -/
theorem itemPieces_eq_container {raw spread itemSpread : Bool} {cs : List Block} (d : Data)
    (hshown : shownBlocks raw cs ≠ [])
    (h : (spread || itemSpread) = true ∨ ∀ b ∈ shownBlocks raw cs, b.isParagraph = false) :
    itemPieces raw spread (.mk itemSpread cs d)
      = container (elementName d "li") [] d (lines raw cs) := by
  have hwrapped : ∀ b ∈ shownBlocks raw cs,
      (itemChild raw (spread || itemSpread) b (blockPieces raw b)).unwrapped = false := by
    intro b hb
    rw [unwrapped_itemChild]
    rcases h with hloose | hplain
    · rw [hloose]
      rfl
    · rw [hplain b hb, Bool.and_false]
  have hpieces : (itemChildren raw (spread || itemSpread) cs).map Child.pieces
      = lines raw cs := by
    rw [itemChildren_eq_map, lines_eq_map, List.map_map]
    exact List.map_congr_left fun b hb => pieces_itemChild_of_wrapped (hwrapped b hb)
  have hchildren : ∀ c ∈ itemChildren raw (spread || itemSpread) cs, c.unwrapped = false := by
    rw [itemChildren_eq_map]
    exact List.forall_mem_map.2 hwrapped
  have hne : itemChildren raw (spread || itemSpread) cs ≠ [] := by
    rw [itemChildren_eq_map]
    exact fun hnil => hshown (List.map_eq_nil_iff.1 hnil)
  simp only [itemPieces, childPieces_wrapped hne hchildren, hpieces, container,
    List.cons_append]

/-- The children of a tight item. -/
theorem render_tightChildren {raw : Bool} {cs : List Block}
    (hshown : shownBlocks raw cs ≠ []) :
    render (childPieces true (itemChildren raw false cs))
      = lineEndAt (shownBlocks raw cs).head?
        ++ "\n".intercalate ((shownBlocks raw cs).map (ofTightChild raw))
        ++ lineEndAt (shownBlocks raw cs).getLast? := by
  let child (b : Block) : Child := itemChild raw false b (blockPieces raw b)
  have hne : (shownBlocks raw cs).map child ≠ [] := fun hnil =>
    hshown (List.map_eq_nil_iff.1 hnil)
  have hend (b : Option Block) : render (endAt (b.map child)) = lineEndAt b := by
    cases b with
    | none => rfl
    | some b =>
      have hunwrapped : (child b).unwrapped = b.isParagraph :=
        unwrapped_itemChild raw false b _
      rw [Option.map_some, endAt, lineEndAt, Option.any_some, Option.any_some, hunwrapped]
      cases b.isParagraph <;> rfl
  have hlines : ((shownBlocks raw cs).map child).map (render ∘ Child.pieces)
      = (shownBlocks raw cs).map (ofTightChild raw) := by
    rw [List.map_map]
    exact List.map_congr_left fun b hb => render_itemChild raw (List.mem_filter.1 hb).2
  rw [itemChildren_eq_map, childPieces_eq true hne, if_pos rfl, render_append, render_append,
    render_joinLines, List.map_map, hlines, List.head?_map, List.getLast?_map, hend, hend]

/-- **The layout of an item** that shows a block at least. -/
theorem ofItem_layout (raw spread itemSpread : Bool) {cs : List Block} (d : Data)
    (hshown : ∃ b ∈ cs, isShown raw b = true) :
    ((spread || itemSpread) = true ∨ (∀ b ∈ shownBlocks raw cs, b.isParagraph = false) →
        ofItem raw spread (.mk itemSpread cs d)
            = render (container (elementName d "li") [] d (lines raw cs))
          ∧ ofItem raw spread (.mk itemSpread cs d)
            = render [openTag (elementName d "li") [] d] ++ "\n"
              ++ String.join ((shownBlocks raw cs).map fun b => ofBlocks raw [b] ++ "\n")
              ++ "</" ++ elementName d "li" ++ ">")
      ∧ ((spread || itemSpread) = false → (∀ b ∈ shownBlocks raw cs, b.isParagraph = true) →
        ofItem raw spread (.mk itemSpread cs d)
          = render [openTag (elementName d "li") [] d]
            ++ "\n".intercalate ((shownBlocks raw cs).map (ofTightChild raw))
            ++ "</" ++ elementName d "li" ++ ">")
      ∧ ((spread || itemSpread) = false →
        ofItem raw spread (.mk itemSpread cs d)
          = render [openTag (elementName d "li") [] d]
            ++ lineEndAt (shownBlocks raw cs).head?
            ++ "\n".intercalate ((shownBlocks raw cs).map (ofTightChild raw))
            ++ lineEndAt (shownBlocks raw cs).getLast?
            ++ "</" ++ elementName d "li" ++ ">") := by
  have hne : shownBlocks raw cs ≠ [] := by
    obtain ⟨b, hb, hs⟩ := hshown
    exact List.ne_nil_of_mem (List.mem_filter.2 ⟨hb, hs⟩)
  have htight (ht : (spread || itemSpread) = false) : ofItem raw spread (.mk itemSpread cs d)
      = render [openTag (elementName d "li") [] d]
        ++ lineEndAt (shownBlocks raw cs).head?
        ++ "\n".intercalate ((shownBlocks raw cs).map (ofTightChild raw))
        ++ lineEndAt (shownBlocks raw cs).getLast?
        ++ "</" ++ elementName d "li" ++ ">" := by
    rw [ofItem_eq, ht, render_tightChildren hne]
    simp only [String.append_assoc]
  refine ⟨fun h => ?_, fun ht hp => ?_, htight⟩
  · have hlines : (lines raw cs).map (fun l => render l ++ "\n")
        = (shownBlocks raw cs).map fun b => ofBlocks raw [b] ++ "\n" := by
      rw [lines_eq_map, List.map_map]
      refine List.map_congr_left fun b hb => ?_
      rw [ofBlocks_singleton raw (List.mem_filter.1 hb).2]
      rfl
    have hitem : ofItem raw spread (.mk itemSpread cs d)
        = render (container (elementName d "li") [] d (lines raw cs)) := by
      rw [ofItem, itemPieces_eq_container d hne h]
    exact ⟨hitem, by rw [hitem, render_container, hlines]⟩
  · have hend : ∀ b? : Option Block, (∃ b, b? = some b ∧ b ∈ shownBlocks raw cs) →
        lineEndAt b? = "" := by
      rintro _ ⟨b, rfl, hb⟩
      simp [lineEndAt, hp b hb]
    rw [htight ht, hend _ ⟨_, List.head?_eq_some_head hne, List.head_mem hne⟩,
      hend _ ⟨_, List.getLast?_eq_some_getLast hne, List.getLast_mem hne⟩, String.append_empty,
      String.append_empty]

/-- A loose item, a tight one of paragraphs around raw HTML that is left out, and
a mixed one, in which the raw HTML is not. -/
theorem ofItem_layout_mixed :
    ofItem false true (.mk false [.paragraph [.text "a"] .none] .none)
      = "<li>\n<p>a</p>\n</li>"
      ∧ ofItem false false (.mk false [.html "<hr>" .none, .paragraph [.text "a"] .none,
          .html "<hr>" .none, .paragraph [.text "b"] .none] .none) = "<li>a\nb</li>"
      ∧ ofItem true false (.mk false [.paragraph [.text "a"] .none, .quote [] .none,
          .html "<hr>" .none] .none) = "<li>a\n<blockquote>\n</blockquote>\n<hr>\n</li>" := by
  refine ⟨?_, ?_, ?_⟩
  · rw [((ofItem_layout false true false .none ⟨_, List.mem_cons_self, rfl⟩).1 (.inl rfl)).2]
    decide
  · rw [(ofItem_layout false false false .none
      ⟨.paragraph [.text "a"] .none, by simp, rfl⟩).2.1 rfl
      (by simp [shownBlocks, isShown, Block.isParagraph])]
    decide
  · rw [(ofItem_layout true false false .none ⟨_, List.mem_cons_self, rfl⟩).2.2 rfl]
    decide

end Marginalia.Markup
