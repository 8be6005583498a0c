/-
Marginalia.Proofs.Callout.Structure — conversion by the structure of a tree.

`convertWithin` converts a quote first and then visits the children of the
result, which for a marked quote are not the children it had: the marker
has been cut out of them. So its recursion follows a weight and not the
tree, and no induction on trees applies to it as it stands.

The way out is that cutting and visiting commute (`convertAll_splice`):
a paragraph is visited without change, and a paragraph is all that cutting
touches. With that, the children of a converted quote are the visited
children of the quote with the marker cut out, `convertWithin` has one
equation for each kind of block, and every statement about whole trees is
an induction on the tree.
-/
import Marginalia.Callout.Conversion

namespace Marginalia

/-- Does the block hold blocks? -/
def Block.holdsBlocks : Block → Bool
  | .quote .. | .callout .. | .list .. => true
  | _ => false

namespace Callout

/-! ## 1. Sequences -/

variable (element : String)

@[simp] theorem convertAll_nil : convertAll element [] = ⟨[], []⟩ := by rw [convertAll]; rfl

theorem convertAll_cons (b : Block) (bs : List Block) :
    convertAll element (b :: bs)
      = ⟨(convertWithin element b).value :: (convertAll element bs).value,
          (convertWithin element b).log ++ (convertAll element bs).log⟩ := by
  rw [convertAll]
  simp [bind, pure]

@[simp] theorem convertItems_nil : convertItems element [] = ⟨[], []⟩ := by
  rw [convertItems]; rfl

theorem convertItems_cons (spread : Bool) (cs : List Block) (d : Data) (is : List Item) :
    convertItems element (.mk spread cs d :: is)
      = ⟨.mk spread (convertAll element cs).value d :: (convertItems element is).value,
          (convertAll element cs).log ++ (convertItems element is).log⟩ := by
  rw [convertItems]
  simp [bind, pure]

/-! ## 2. Blocks, by what their conversion gives -/

variable {element}

theorem convertWithin_of_quote {b : Block} {cs : List Block} {d : Data} {log : List String}
    (h : convert element b = ⟨.quote cs d, log⟩) :
    convertWithin element b
      = ⟨.quote (convertAll element cs).value d, log ++ (convertAll element cs).log⟩ := by
  rw [convertWithin]
  split <;> simp_all [bind, pure, Traced.notes]

theorem convertWithin_of_callout {b : Block} {kind : String} {cs : List Block} {d : Data}
    {log : List String} (h : convert element b = ⟨.callout kind cs d, log⟩) :
    convertWithin element b
      = ⟨.callout kind (convertAll element cs).value d,
        log ++ (convertAll element cs).log⟩ := by
  rw [convertWithin]
  split <;> simp_all [bind, pure, Traced.notes]

theorem convertWithin_of_list {b : Block} {ordered : Bool} {start : Option UInt64}
    {spread : Bool} {is : List Item} {d : Data} {log : List String}
    (h : convert element b = ⟨.list ordered start spread is d, log⟩) :
    convertWithin element b
      = ⟨.list ordered start spread (convertItems element is).value d,
          log ++ (convertItems element is).log⟩ := by
  rw [convertWithin]
  split
  case h_4 hl => exact absurd (congrArg Traced.value h) (hl _ _ _ _ _)
  all_goals simp_all [bind, pure, Traced.notes]

/-! ## 3. Blocks, by their kind -/

variable (element)

theorem convertWithin_callout (kind : String) (cs : List Block) (d : Data) :
    convertWithin element (.callout kind cs d)
      = ⟨.callout kind (convertAll element cs).value d, (convertAll element cs).log⟩ := by
  have h : convert element (.callout kind cs d) = ⟨.callout kind cs d, []⟩ := rfl
  simpa using convertWithin_of_callout h

theorem convertWithin_list (ordered : Bool) (start : Option UInt64) (spread : Bool)
    (is : List Item) (d : Data) :
    convertWithin element (.list ordered start spread is d)
      = ⟨.list ordered start spread (convertItems element is).value d,
          (convertItems element is).log⟩ := by
  have h : convert element (.list ordered start spread is d)
      = ⟨.list ordered start spread is d, []⟩ := rfl
  simpa using convertWithin_of_list h

/-- A block that holds no blocks is left as it is. -/
theorem convertWithin_leaf {b : Block} (hb : b.holdsBlocks = false) :
    convertWithin element b = ⟨b, []⟩ := by
  have h : convert element b = ⟨b, []⟩ := by cases b <;> first | rfl | cases hb
  rw [convertWithin]
  split
  case h_4 => exact h
  all_goals simp_all [Block.holdsBlocks]

theorem convertWithin_unmarked {cs : List Block} (hm : leadingMarker? cs = none) (d : Data) :
    convertWithin element (.quote cs d)
      = ⟨.quote (convertAll element cs).value d, (convertAll element cs).log⟩ := by
  have h : convert element (.quote cs d) = ⟨.quote cs d, []⟩ := by
    simp only [convert, convertQuote, hm]; rfl
  simpa using convertWithin_of_quote h

/-- A marked quote becomes a callout; its children are visited behind the cut. -/
theorem convertWithin_marked_cut {cs : List Block} {m : Marker}
    (hm : leadingMarker? cs = some m) (d : Data) :
    convertWithin element (.quote cs d)
      = ⟨.callout m.kindName (convertAll element (splice m.body cs)).value
            (mergeData element m.kindName d),
          m.kindName :: (convertAll element (splice m.body cs)).log⟩ := by
  have h : convert element (.quote cs d)
      = ⟨.callout m.kindName (splice m.body cs) (mergeData element m.kindName d),
          [m.kindName]⟩ := by
    simp only [convert, convertQuote, hm]; rfl
  simpa using convertWithin_of_callout h

/-! ## 4. Cutting and visiting commute -/

theorem exists_of_isParagraph {b : Block} (h : b.isParagraph = true) :
    ∃ is d, b = .paragraph is d := by
  cases b <;> first | exact ⟨_, _, rfl⟩ | cases h

theorem splice_of_not_paragraph (body : List Char) {b : Block} (h : b.isParagraph = false)
    (bs : List Block) : splice body (b :: bs) = b :: bs := by
  cases b <;> first | rfl | cases h

theorem leadingText?_of_not_paragraph {b : Block} (h : b.isParagraph = false)
    (bs : List Block) :
    leadingText? (b :: bs) = none := by
  cases b <;> first | rfl | cases h

/-- Only a paragraph stays or becomes a paragraph. -/
theorem isParagraph_convertWithin {b : Block} (h : b.isParagraph = false) :
    (convertWithin element b).value.isParagraph = false := by
  cases b with
  | quote cs d =>
    cases hm : leadingMarker? cs with
    | none => rw [convertWithin_unmarked element hm]; rfl
    | some m => rw [convertWithin_marked_cut element hm]; rfl
  | callout kind cs d => rw [convertWithin_callout]; rfl
  | list o s sp is d => rw [convertWithin_list]; rfl
  | paragraph cs d => cases h
  | _ => rw [convertWithin_leaf element rfl]; exact h

theorem convertWithin_paragraph (is : List Inline) (d : Data) :
    convertWithin element (.paragraph is d) = ⟨.paragraph is d, []⟩ :=
  convertWithin_leaf element rfl

theorem convertAll_splice (body : List Char) (bs : List Block) :
    convertAll element (splice body bs)
      = ⟨splice body (convertAll element bs).value, (convertAll element bs).log⟩ := by
  cases bs with
  | nil => simp [splice]
  | cons b rest =>
    by_cases hb : b.isParagraph
    · obtain ⟨is, d, rfl⟩ := exists_of_isParagraph hb
      cases is with
      | nil => simp [splice, convertAll_cons, convertWithin_paragraph]
      | cons i is =>
        cases body with
        | cons c cs => simp [splice, convertAll_cons, convertWithin_paragraph]
        | nil => cases is <;> simp [splice, convertAll_cons, convertWithin_paragraph]
    · have hb : b.isParagraph = false := by simpa using hb
      rw [splice_of_not_paragraph body hb, convertAll_cons,
        splice_of_not_paragraph body (isParagraph_convertWithin element hb)]

theorem leadingText?_convertAll (bs : List Block) :
    leadingText? (convertAll element bs).value = leadingText? bs := by
  cases bs with
  | nil => simp
  | cons b rest =>
    rw [convertAll_cons]
    by_cases hb : b.isParagraph
    · obtain ⟨is, d, rfl⟩ := exists_of_isParagraph hb
      rw [convertWithin_paragraph]
      cases is with
      | nil => rfl
      | cons i is => cases i <;> rfl
    · have hb : b.isParagraph = false := by simpa using hb
      rw [leadingText?_of_not_paragraph hb,
        leadingText?_of_not_paragraph (isParagraph_convertWithin element hb)]

theorem leadingMarker?_convertAll (bs : List Block) :
    leadingMarker? (convertAll element bs).value = leadingMarker? bs := by
  rw [leadingMarker?, leadingText?_convertAll, leadingMarker?]

/-- A marked quote becomes a callout whose children are those of the quote,
visited, with the marker cut out. -/
theorem convertWithin_marked {cs : List Block} {m : Marker} (hm : leadingMarker? cs = some m)
    (d : Data) :
    convertWithin element (.quote cs d)
      = ⟨.callout m.kindName (splice m.body (convertAll element cs).value)
            (mergeData element m.kindName d),
          m.kindName :: (convertAll element cs).log⟩ := by
  rw [convertWithin_marked_cut element hm, convertAll_splice]

/-! ## 5. One quote by itself -/

/-- A sequence starts with a marker when it starts with a paragraph whose first
inline is a text, the marker with its remainder. -/
theorem leadingMarker?_eq_some_iff {cs : List Block} {m : Marker} :
    leadingMarker? cs = some m
      ↔ m.WellFormed
        ∧ ∃ is d bs, cs = .paragraph (.text (String.ofList m.chars) :: is) d :: bs := by
  constructor
  · intro h
    obtain ⟨s, hs, hparse⟩ := Option.bind_eq_some_iff.1 h
    refine ⟨Marker.wellFormed_of_parse? hparse, ?_⟩
    unfold leadingText? at hs
    split at hs
    · obtain rfl := Option.some.inj hs
      rw [← Marker.chars_of_parse? hparse, String.ofList_toList]
      exact ⟨_, _, _, rfl⟩
    · cases hs
  · rintro ⟨hm, is, d, bs, rfl⟩
    rw [leadingMarker?, leadingText?, Option.bind_some, String.toList_ofList,
      Marker.parse?_chars hm]

theorem ofQuote_of_leadingMarker {cs : List Block} {m : Marker}
    (hm : leadingMarker? cs = some m) (d : Data) :
    ofQuote element cs d
      = .callout m.kindName (splice m.body cs) (mergeData element m.kindName d) := by
  simp only [ofQuote, convertQuote, hm]
  rfl

theorem ofQuote_of_not_leadingMarker {cs : List Block} (hm : leadingMarker? cs = none)
    (d : Data) :
    ofQuote element cs d = .quote cs d := by
  simp only [ofQuote, convertQuote, hm]
  rfl

/-! ## 6. Walking past the cut -/

/-- A view of the blocks of a tree that leaves paragraphs out does not see
the cut. -/
theorem filterMap_walkAll_splice {β : Type} {f : Block → Option β}
    (hf : ∀ is d, f (.paragraph is d) = none) (body : List Char) (bs : List Block) :
    (walkAll (splice body bs)).filterMap f = (walkAll bs).filterMap f := by
  unfold splice
  split
  · split <;> simp [walkAll, Block.walk, hf]
  · rfl

end Callout

end Marginalia
