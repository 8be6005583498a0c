/-
Marginalia.Proofs.Callout.Traversal — conversion from the top and from the
leaves.

`convertRoot_eq_convertUp`: a conversion goes through a tree from the top, so
that a quote is judged and cut before the blocks inside it are visited. The
same tree comes out when the blocks inside are converted first and the quote
is judged and cut afterwards. For one quote this says that converting it by
itself and visiting what is inside can change places.

The order could matter in two ways, since a cut can take away the first child
of a quote, and a visit can make a callout of it. It does not: a visit leaves
the paragraph that a quote is judged by as it is
(`leadingMarker?_convertAll`), and a cut touches no other child
(`convertAll_splice`).
-/
import Marginalia.Proofs.Callout.Structure

namespace Marginalia

/-- The block with the sequences of blocks that it holds changed. -/
def Block.mapInside (f : List Block → List Block) : Block → Block
  | .quote cs d => .quote (f cs) d
  | .callout kind cs d => .callout kind (f cs) d
  | .list ordered start spread is d =>
    .list ordered start spread (is.map fun i => .mk i.spread (f i.children) i.data) d
  | .paragraph cs d => .paragraph cs d
  | .heading depth cs d => .heading depth cs d
  | .code language details value d => .code language details value d
  | .rule d => .rule d
  | .html value d => .html value d

namespace Callout

variable (element : String)

/-! ## 1. From the leaves -/

mutual

/-- A block, converted after the blocks inside it. -/
def convertUp : Block → Block
  | .quote cs d => ofQuote element (convertUpAll cs) d
  | .callout kind cs d => .callout kind (convertUpAll cs) d
  | .list ordered start spread is d => .list ordered start spread (convertUpItems is) d
  | .paragraph cs d => .paragraph cs d
  | .heading depth cs d => .heading depth cs d
  | .code language details value d => .code language details value d
  | .rule d => .rule d
  | .html value d => .html value d

/-- The blocks of a sequence, each converted after the blocks inside it. -/
def convertUpAll : List Block → List Block
  | [] => []
  | b :: bs => convertUp b :: convertUpAll bs

/-- Items, with the blocks inside them converted. -/
def convertUpItems : List Item → List Item
  | [] => []
  | .mk spread cs d :: is => .mk spread (convertUpAll cs) d :: convertUpItems is

end

/-! ## 2. One block, and what is inside it -/

/-- A quote is converted by itself before what is inside is visited, or after. -/
theorem convertWithin_quote (cs : List Block) (d : Data) :
    (convertWithin element (.quote cs d)).value
      = ofQuote element (convertAll element cs).value d := by
  cases hm : leadingMarker? cs with
  | none =>
    rw [convertWithin_unmarked element hm]
    exact (ofQuote_of_not_leadingMarker element (by rw [leadingMarker?_convertAll, hm]) d).symm
  | some m =>
    rw [convertWithin_marked element hm]
    exact (ofQuote_of_leadingMarker element (by rw [leadingMarker?_convertAll, hm]) d).symm

theorem value_convertItems (is : List Item) : (convertItems element is).value
    = is.map fun i => .mk i.spread (convertAll element i.children).value i.data := by
  induction is with
  | nil =>
    rw [convertItems_nil]
    rfl
  | cons i is ih =>
    obtain ⟨spread, cs, d⟩ := i
    rw [convertItems_cons, ih]
    rfl

/-- A block is converted by itself, and then what is inside the result is
visited. -/
theorem convertWithin_eq_mapInside (b : Block) : (convertWithin element b).value
    = (convert element b).value.mapInside fun cs => (convertAll element cs).value := by
  cases b with
  | quote cs d =>
    change _ = (ofQuote element cs d).mapInside _
    cases hm : leadingMarker? cs with
    | none =>
      rw [convertWithin_unmarked element hm, ofQuote_of_not_leadingMarker element hm]
      rfl
    | some m =>
      rw [convertWithin_marked_cut element hm, ofQuote_of_leadingMarker element hm]
      rfl
  | callout kind cs d => rw [convertWithin_callout]; rfl
  | list ordered start spread is d =>
    rw [convertWithin_list, value_convertItems]
    rfl
  | paragraph | heading | code | rule | html => rw [convertWithin_leaf element rfl]; rfl

/-! ## 3. Whole trees -/

mutual

theorem convertWithin_eq_convertUp : ∀ b : Block,
    (convertWithin element b).value = convertUp element b
  | .quote cs d => by
      rw [convertWithin_quote, convertAll_eq_convertUpAll cs, convertUp]
  | .callout kind cs d => by
      rw [convertWithin_callout, convertAll_eq_convertUpAll cs, convertUp]
  | .list ordered start spread is d => by
      rw [convertWithin_list, convertItems_eq_convertUpItems is, convertUp]
  | .paragraph .. | .heading .. | .code .. | .rule .. | .html .. => by
      rw [convertWithin_leaf element rfl, convertUp]

theorem convertAll_eq_convertUpAll : ∀ bs : List Block,
    (convertAll element bs).value = convertUpAll element bs
  | [] => by rw [convertAll_nil, convertUpAll]
  | b :: bs => by
      rw [convertAll_cons, convertWithin_eq_convertUp b, convertAll_eq_convertUpAll bs,
        convertUpAll]

theorem convertItems_eq_convertUpItems : ∀ is : List Item,
    (convertItems element is).value = convertUpItems element is
  | [] => by rw [convertItems_nil, convertUpItems]
  | .mk spread cs d :: is => by
      rw [convertItems_cons, convertAll_eq_convertUpAll cs, convertItems_eq_convertUpItems is,
        convertUpItems]

end

/-- **The order of traversal does not matter.** From the top a document is
converted to the same tree as from the leaves. A single quote may be converted
by itself before the blocks inside the result are visited, or after the blocks
inside it were. -/
theorem convertRoot_eq_convertUp :
    (∀ r : Root, (convertRoot element r).value = ⟨convertUpAll element r.children⟩)
      ∧ ∀ (cs : List Block) (d : Data),
          (convertAll element [.quote cs d]).value
              = [(ofQuote element cs d).mapInside fun bs => (convertAll element bs).value]
            ∧ (convertAll element [.quote cs d]).value
                = [ofQuote element (convertAll element cs).value d] := by
  have hsingle : ∀ b : Block,
      (convertAll element [b]).value = [(convertWithin element b).value] := by
    intro b
    rw [convertAll_cons, convertAll_nil]
  refine ⟨fun r => ?_, fun cs d => ⟨?_, ?_⟩⟩
  · exact congrArg Root.mk (convertAll_eq_convertUpAll element r.children)
  · rw [hsingle, convertWithin_eq_mapInside]
    rfl
  · rw [hsingle, convertWithin_quote]

end Callout

end Marginalia
