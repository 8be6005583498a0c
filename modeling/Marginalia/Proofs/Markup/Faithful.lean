/-
Marginalia.Proofs.Markup.Faithful — HTML says what the tree has to say.

`lex_ofRoot`: with raw HTML left out, the HTML of a document whose element
names and property names are names lexes, and the tokens are those that
`rootTokens` prescribes, with the texts side by side put together. So a
text, an address, a title, a language or a value, whatever it holds, opens,
closes and alters no tag, and is read as it stands in the tree.

## How the proof goes

`Says` relates a piece of HTML to the token it is to be read as, and asks
that names are names; a raw passage says nothing. Two inductions meet
there. Along the pieces, the lexer reads what the pieces say
(`lexFrom_pieces`): the run it is in is always an escaped text. Along the
tree, the pieces of a block say what the block has to say
(`says_blockPieces`). That the attributes are the prescribed ones is shown by
their names in order and by what each name looks up to (`blockAttributes_eq`).
-/
import Mathlib.Data.List.Forall2
import Mathlib.Data.List.Nodup
import Marginalia.Proofs.Markup.MergedAttributes
import Marginalia.Proofs.Markup.Prescription
import Marginalia.Proofs.Tree.Carried

namespace Marginalia.Markup

/-! ## 1. Pieces that say a token -/

/-- The piece is read as the token. -/
inductive Says : Piece → Token → Prop where
  | openTag {name : String} {as : List Attribute} (hn : isName name = true)
      (has : ∀ a ∈ as, isName a.1 = true) : Says (.openTag name as) (.openTag name as)
  | closeTag {name : String} (hn : isName name = true) : Says (.closeTag name) (.closeTag name)
  | text (value : String) : Says (.text value) (.text value)

/-- The pieces are read as the tokens, one by one. -/
abbrev SaysAll : List Piece → List Token → Prop := List.Forall₂ Says

theorem textToken_escapeText (s : List Char) : textToken (escapeText s) = wholeText s := by
  cases hs : escapeText s with
  | nil =>
    have := decode_escapeText s
    rw [hs] at this
    rw [← this]
    rfl
  | cons c cs =>
    cases s with
    | nil => simp [escapeText] at hs
    | cons x xs =>
      rw [textToken, ← hs, decode_escapeText, wholeText]
      all_goals simp

/-- The lexer reads what the pieces say, in the middle of an escaped text. -/
theorem lexFrom_pieces {ps : List Piece} {ts : List Token} (h : SaysAll ps ts) :
    ∀ begun : List Char,
      lexFrom (.text (escapeText begun)) (renderChars ps) = some (joinTexts begun ts) := by
  induction h with
  | nil =>
    intro begun
    simp [renderChars, lexFrom, joinTexts, textToken_escapeText]
  | cons hp _ ih =>
    intro begun
    rw [renderChars, List.flatMap_cons, ← renderChars]
    have hnext : lexFrom (.text []) (renderChars _) = some (joinTexts [] _) := ih []
    cases hp with
    | openTag hn has =>
      rw [reads_openTag (escapeText begun) hn has, hnext, textToken_escapeText]
      simp [joinTexts]
    | closeTag hn =>
      rw [reads_closeTag (escapeText begun) hn, hnext, textToken_escapeText]
      simp [joinTexts]
    | text value =>
      have := ih (begun ++ value.toList)
      rw [escapeText_append] at this
      rw [Piece.chars, reads_text, this]
      simp [joinTexts]

theorem lex_render {ps : List Piece} {ts : List Token} (h : SaysAll ps ts) :
    lex (render ps).toList = some (joinTexts [] ts) := by
  rw [render, String.toList_ofList]
  exact lexFrom_pieces h []

/-! ## 2. Attributes -/

section
variable {own : List Attribute}

theorem eraseDups_eq_self {names : List String} (h : names.Nodup) :
    names.eraseDups = names := by
  induction names with
  | nil => rfl
  | cons n ns ih =>
    obtain ⟨hn, hns⟩ := List.nodup_cons.1 h
    have hfilter : ns.filter (fun m => !m == n) = ns := by
      refine List.filter_eq_self.2 fun m hm => ?_
      have hne : m ≠ n := fun hmn => hn (hmn ▸ hm)
      simp [hne]
    rw [List.eraseDups_cons, hfilter, ih hns]

/-- Attributes without repeated names are their names with what these look up to. -/
theorem filterMap_lookup {as : List Attribute} (h : (as.map Prod.fst).Nodup) :
    (as.map Prod.fst).filterMap (fun name => (as.lookup name).map (name, ·)) = as := by
  rw [List.filterMap_map]
  calc as.filterMap ((fun name => (as.lookup name).map (name, ·)) ∘ Prod.fst)
      = as.filterMap some := by
        refine List.filterMap_congr fun a ha => ?_
        rw [Function.comp_apply, (mem_iff_lookup h).1 ha]
        rfl
    _ = as := List.filterMap_some

theorem lookup_reverse {as : List Attribute} (h : (as.map Prod.fst).Nodup) (n : String) :
    as.reverse.lookup n = as.lookup n := by
  have hreverse : (as.reverse.map Prod.fst).Nodup := by
    rw [List.map_reverse]
    exact List.nodup_reverse.2 h
  ext v
  exact (mem_iff_lookup hreverse (a := (n, v))).symm.trans
    (List.mem_reverse.trans (mem_iff_lookup h))

theorem lookup_written (n : String) (ps : List (String × String)) :
    (ps.map fun p => (attributeName p.1, p.2)).lookup n
      = (ps.find? fun p => attributeName p.1 = n).map Prod.snd := by
  induction ps with
  | nil => rfl
  | cons p ps ih =>
    rw [List.map_cons, lookup_cons_eq, ih, List.find?_cons]
    by_cases hn : attributeName p.1 = n
    · simp [hn]
    · simp [hn, Ne.symm hn]

theorem map_fst_givenAttributes (own : List Attribute) (d : Data) :
    (givenAttributes own d).map Prod.fst
      = own.map Prod.fst ++ writtenNames d.properties.entries := by
  rw [givenAttributes, List.map_append, List.map_map]
  rfl

theorem lookup_givenAttributes (h : (own.map Prod.fst).Nodup) (d : Data) (n : String) :
    (givenAttributes own d).reverse.lookup n
      = (lastValue? n d.properties.entries).or (own.lookup n) := by
  have hgiven : givenAttributes own d
      = own ++ d.properties.entries.map fun p => (attributeName p.1, p.2) := rfl
  rw [hgiven, List.reverse_append, List.lookup_append, lookup_reverse h, ← List.map_reverse,
    lookup_written, lastValue?]

/-- What is prescribed is what merging gives. -/
theorem blockAttributes_eq (h : (own.map Prod.fst).Nodup) (d : Data) :
    blockAttributes own d = mergeAttributes own d.properties.entries := by
  have hnames : ((givenAttributes own d).map Prod.fst).eraseDups
      = (mergeAttributes own d.properties.entries).map Prod.fst := by
    have hremove : (writtenNames d.properties.entries).removeAll (own.map Prod.fst)
        = (writtenNames d.properties.entries).filter (· ∉ own.map Prod.fst) :=
      List.filter_congr fun n _ => by simp
    rw [map_fst_givenAttributes, List.eraseDups_append, eraseDups_eq_self h, hremove,
      map_fst_mergeAttributes]
  rw [blockAttributes, hnames]
  simp only [lookup_givenAttributes h, ← lookup_mergeAttributes]
  exact filterMap_lookup (nodup_mergeAttributes h _)

theorem titleAttribute_eq (title : Option String) :
    titleAttribute title = attributeOf "title" title := by
  cases title <;> rfl

theorem codeAttributes_eq (language : Option String) :
    codeAttributes language = attributeOf "class" (language.map ("language-" ++ ·)) := by
  cases language <;> rfl

theorem listAttributes_eq (ordered : Bool) (start : Option UInt64) :
    listAttributes ordered start
      = attributeOf "start"
          ((start.filter fun n => ordered ∧ n ≠ 1).map fun n => toString n.toNat) := by
  cases start with
  | none => rfl
  | some n =>
    cases ordered <;> by_cases hn : n = 1 <;>
      simp [listAttributes, attributeOf, Option.filter_some, hn, Nat.repr_eq_ofList_toDigits]

theorem nodup_attributeOf (name : String) (value : Option String) :
    ((attributeOf name value).map Prod.fst).Nodup := by
  cases value <;> simp [attributeOf]

theorem nodup_calloutAttributes (kind : String) (d : Data) :
    ((calloutAttributes kind d).map Prod.fst).Nodup := by
  unfold calloutAttributes
  split <;> simp

end

/-! ## 3. Names -/

theorem names_cons {name value : String} (hn : isName name = true) {as : List Attribute}
    (h : ∀ a ∈ as, isName a.1 = true) : ∀ a ∈ (name, value) :: as, isName a.1 = true :=
  List.forall_mem_cons.2 ⟨hn, h⟩

theorem isName_attributeName {p : String} (h : isName p = true) :
    isName (attributeName p) = true := by
  unfold attributeName
  split
  · decide
  · split
    · decide
    · exact h

theorem names_mergeAttributes {own : List Attribute} (ho : ∀ a ∈ own, isName a.1 = true)
    {ps : List (String × String)} (h : ∀ p ∈ ps, isName p.1 = true) :
    ∀ a ∈ mergeAttributes own ps, isName a.1 = true :=
  forall_mergeAttributes (P := fun n => isName n = true) ho
    fun p hp => isName_attributeName (h p hp)

theorem isName_elementName {d : Data} (hd : NamesOf d) {natural : String}
    (h : isName natural = true) : isName (elementName d natural) = true := by
  unfold elementName
  cases he : d.elementName with
  | none => exact h
  | some n => exact hd.1 n he

theorem isName_headingName (depth : UInt8) : isName (headingName depth) = true := by
  rw [isName_iff, headingName]
  simp only [String.toList_append, String.toList_ofList]
  refine ⟨by simp, fun c hc => ?_⟩
  rcases List.mem_append.1 hc with hc | hc
  · rw [show "h".toList = ['h'] from rfl, List.mem_singleton] at hc
    subst c
    decide
  · have := Nat.isDigit_of_mem_toDigits (by decide) (by decide) hc
    simp [isNameChar, Char.isAlphanum, this]

theorem names_attributeOf {name : String} (hn : isName name = true) (value : Option String) :
    ∀ a ∈ attributeOf name value, isName a.1 = true := by
  cases value with
  | none => exact List.forall_mem_nil _
  | some v => exact names_cons hn (List.forall_mem_nil _)

theorem names_titleAttribute (title : Option String) :
    ∀ a ∈ titleAttribute title, isName a.1 = true := by
  rw [titleAttribute_eq]
  exact names_attributeOf (by decide) title

theorem names_calloutAttributes (kind : String) (d : Data) :
    ∀ a ∈ calloutAttributes kind d, isName a.1 = true := by
  unfold calloutAttributes
  split
  · exact List.forall_mem_nil _
  · exact names_cons (by decide) (List.forall_mem_nil _)

theorem names_listAttributes (ordered : Bool) (start : Option UInt64) :
    ∀ a ∈ listAttributes ordered start, isName a.1 = true := by
  rw [listAttributes_eq]
  exact names_attributeOf (by decide) _

theorem names_codeAttributes (language : Option String) :
    ∀ a ∈ codeAttributes language, isName a.1 = true := by
  rw [codeAttributes_eq]
  exact names_attributeOf (by decide) _

/-! ## 4. Elements and lines -/

theorem says_newline : Says .newline .newline := .text "\n"

theorem says_element {name : String} {as : List Attribute} (hn : isName name = true)
    (has : ∀ a ∈ as, isName a.1 = true) {ps : List Piece} {ts : List Token}
    (h : SaysAll ps ts) :
    SaysAll (.openTag name as :: ps ++ [.closeTag name]) (element name as ts) :=
  List.rel_append (.cons (.openTag hn has) h) (.cons (.closeTag hn) .nil)

/-- The opening tag of a block says the prescribed name and attributes. -/
theorem says_openTag {d : Data} (hd : NamesOf d) {natural : String}
    (hn : isName natural = true) {own : List Attribute} (ho : ∀ a ∈ own, isName a.1 = true)
    (hown : (own.map Prod.fst).Nodup) :
    Says (openTag (elementName d natural) own d)
      (.openTag (d.elementName.getD natural) (blockAttributes own d)) := by
  rw [blockAttributes_eq hown]
  exact .openTag (isName_elementName hd hn) (names_mergeAttributes ho hd.2)

theorem says_blockElement {d : Data} (hd : NamesOf d) {natural : String}
    (hn : isName natural = true) {own : List Attribute} (ho : ∀ a ∈ own, isName a.1 = true)
    (hown : (own.map Prod.fst).Nodup) {ps : List Piece} {ts : List Token} (h : SaysAll ps ts) :
    SaysAll (openTag (elementName d natural) own d :: ps
      ++ [.closeTag (elementName d natural)])
      (blockElement natural own d ts) :=
  List.rel_append (.cons (says_openTag hd hn ho hown) h)
    (.cons (.closeTag (isName_elementName hd hn)) .nil)

/-- Each line says what it has to say. -/
abbrev LinesSay : List (List Piece) → List (List Token) → Prop := List.Forall₂ SaysAll

theorem says_onLines {ls : List (List Piece)} {ts : List (List Token)} (h : LinesSay ls ts) :
    SaysAll (.newline :: ls.flatMap (· ++ [.newline])) (onLines ts) := by
  refine .cons says_newline ?_
  induction h with
  | nil => exact .nil
  | cons hl _ ih => exact List.rel_append (List.rel_append hl (.cons says_newline .nil)) ih

theorem says_container {d : Data} (hd : NamesOf d) {natural : String}
    (hn : isName natural = true) {own : List Attribute} (ho : ∀ a ∈ own, isName a.1 = true)
    (hown : (own.map Prod.fst).Nodup) {ls : List (List Piece)} {ts : List (List Token)}
    (h : LinesSay ls ts) :
    SaysAll (container (elementName d natural) own d ls)
      (blockElement natural own d (onLines ts)) :=
  says_blockElement hd hn ho hown (says_onLines h)

theorem sideBySide_cons_cons (l l' : List Token) (ls : List (List Token)) :
    sideBySide (l :: l' :: ls) = l ++ .newline :: sideBySide (l' :: ls) := by
  simp [sideBySide, List.intercalate]

theorem says_joinLines {ls : List (List Piece)} {ts : List (List Token)} (h : LinesSay ls ts) :
    SaysAll (joinLines ls) (sideBySide ts) := by
  induction h with
  | nil => exact .nil
  | cons hl hls ih =>
    cases hls with
    | nil => simpa [joinLines, sideBySide, List.intercalate] using hl
    | cons hl' hls' =>
      rw [sideBySide_cons_cons, joinLines]
      · exact List.rel_append hl (.cons says_newline ih)
      · simp

/-- A child of an item says what it has to say. -/
def ChildSays (c : Child) (t : Bool × List Token) : Prop :=
  c.unwrapped = t.1 ∧ SaysAll c.pieces t.2

theorem says_edge (bare : Bool) : SaysAll (if bare then [] else [.newline]) (edge bare) := by
  cases bare
  · exact .cons says_newline .nil
  · exact .nil

/-- Children behind the first, or from the first on. -/
theorem says_childPieces {c : Child} {t : Bool × List Token} {cs : List Child}
    {ts : List (Bool × List Token)} (h : ChildSays c t) (hs : List.Forall₂ ChildSays cs ts)
    (first : Bool) :
    SaysAll (childPieces first (c :: cs))
      (edge (first && t.1) ++ sideBySide ((t :: ts).map Prod.snd)
        ++ edge ((t :: ts).getLast (by simp)).1) := by
  induction hs generalizing c t first with
  | nil =>
    simp only [childPieces, h.1]
    refine List.rel_append (List.rel_append (says_edge _) ?_) (says_edge _)
    simpa [sideBySide, List.intercalate] using h.2
  | cons h' hs' ih =>
    rw [childPieces]
    · -- the line end between the two comes with the children behind the first
      have hrest := ih h' false
      have hfirst : SaysAll (if first && c.unwrapped then [] else [.newline])
          (edge (first && t.1)) := h.1 ▸ says_edge (first && c.unwrapped)
      simpa [sideBySide_cons_cons, edge] using
        List.rel_append hfirst (List.rel_append h.2 hrest)
    · simp

theorem says_itemLayout {cs : List Child} {ts : List (Bool × List Token)}
    (h : List.Forall₂ ChildSays cs ts) : SaysAll (childPieces true cs) (itemLayout ts) := by
  cases h with
  | nil => exact .nil
  | cons h hs => exact says_childPieces h hs true

/-! ## 5. Trees -/

mutual

theorem says_inlinePieces : ∀ i : Inline, SaysAll (inlinePieces false i) (inlineTokens i)
  | .text value => .cons (.text value) .nil
  | .emphasis cs | .strong cs | .delete cs =>
      says_element (by decide) (by simp) (says_inlinesPieces cs)
  | .code value => says_element (by decide) (by simp) (.cons (.text value) .nil)
  | .lineBreak => .cons (.openTag (by decide) (by simp)) (.cons says_newline .nil)
  | .link url title cs => by
      rw [inlineTokens, ← titleAttribute_eq]
      exact says_element (by decide) (names_cons (by decide) (names_titleAttribute title))
        (says_inlinesPieces cs)
  | .image url title alt => by
      rw [inlineTokens, ← titleAttribute_eq]
      exact .cons (.openTag (by decide) (names_cons (by decide)
        (names_cons (by decide) (names_titleAttribute title)))) .nil
  | .html _ => .nil

theorem says_inlinesPieces :
    ∀ is : List Inline, SaysAll (inlinesPieces false is) (inlinesTokens is)
  | [] => .nil
  | i :: is => List.rel_append (says_inlinePieces i) (says_inlinesPieces is)

end

theorem says_code (value : String) :
    SaysAll (if value.isEmpty then [] else [.text value, .newline])
      (if value.isEmpty then [] else [.text value, .newline]) := by
  split
  · exact .nil
  · exact .cons (.text value) (.cons says_newline .nil)

mutual

theorem says_blockPieces : ∀ b : Block, (∀ d ∈ b.carried, NamesOf d) →
    SaysAll (blockPieces false b) (blockTokens b)
  | .paragraph cs d, h =>
      says_blockElement (h d (by simp [Block.carried])) (by decide) (by simp) (by simp)
        (says_inlinesPieces cs)
  | .heading depth cs d, h =>
      says_blockElement (h d (by simp [Block.carried])) (isName_headingName depth)
        (by simp) (by simp)
        (says_inlinesPieces cs)
  | .quote cs d, h => by
      obtain ⟨hd, hcs⟩ := List.forall_mem_cons.1 h
      exact says_container hd (by decide) (by simp) (by simp) (says_lines cs hcs)
  | .callout kind cs d, h => by
      obtain ⟨hd, hcs⟩ := List.forall_mem_cons.1 h
      exact says_container hd (by decide) (names_calloutAttributes kind d)
        (nodup_calloutAttributes kind d) (says_lines cs hcs)
  | .list ordered start spread items d, h => by
      obtain ⟨hd, his⟩ := List.forall_mem_cons.1 h
      have hn : isName (if ordered then "ol" else "ul") = true := by cases ordered <;> decide
      simp only [blockTokens, ← listAttributes_eq]
      exact says_container hd hn (names_listAttributes ordered start)
        (listAttributes_eq ordered start ▸ nodup_attributeOf ..)
        (says_itemLines spread items his)
  | .code language details value d, h => by
      have hd : NamesOf d := h d (by simp [Block.carried])
      have hn : isName "code" = true := by decide
      have hcode := says_blockElement hd hn (names_codeAttributes language)
        (codeAttributes_eq language ▸ nodup_attributeOf ..) (says_code value)
      have hpre : isName "pre" = true := by decide
      simpa [blockPieces, blockTokens, ← codeAttributes_eq] using
        says_element hpre (List.forall_mem_nil _) hcode
  | .rule d, h => by
      have hd : NamesOf d := h d (by simp [Block.carried])
      exact .cons (says_openTag hd (by decide) (by simp) .nil) .nil
  | .html .., _ => .nil

theorem says_lines : ∀ bs : List Block, (∀ d ∈ carriedAll bs, NamesOf d) →
    LinesSay (lines false bs) (shownTokens bs)
  | [], _ => .nil
  | b :: bs, h => by
      obtain ⟨hb, hbs⟩ := List.forall_mem_append.1 h
      have hb := says_blockPieces b hb
      have hbs := says_lines bs hbs
      cases b with
      | html value d => exact hbs
      | _ => exact .cons hb hbs

theorem says_itemLines (spread : Bool) : ∀ is : List Item, (∀ d ∈ carriedItems is, NamesOf d) →
    LinesSay (itemLines false spread is) (itemsTokens spread is)
  | [], _ => .nil
  | .mk itemSpread cs d :: is, h => by
      obtain ⟨hd, h⟩ := List.forall_mem_cons.1 h
      obtain ⟨hcs, his⟩ := List.forall_mem_append.1 h
      exact .cons (says_blockElement hd (by decide) (by simp) (by simp)
        (says_itemLayout (says_itemChildren (spread || itemSpread) cs hcs)))
        (says_itemLines spread is his)

theorem says_itemChildren (loose : Bool) :
    ∀ bs : List Block, (∀ d ∈ carriedAll bs, NamesOf d) →
    List.Forall₂ ChildSays (itemChildren false loose bs) (childrenTokens loose bs)
  | [], _ => .nil
  | b :: bs, h => by
      obtain ⟨hb, hbs⟩ := List.forall_mem_append.1 h
      have hb := says_blockPieces b hb
      have hbs := says_itemChildren loose bs hbs
      cases b with
      | html value d => exact hbs
      | paragraph is d =>
        cases loose with
        | true => exact .cons ⟨rfl, hb⟩ hbs
        | false => exact .cons ⟨rfl, says_inlinesPieces is⟩ hbs
      | _ => exact .cons ⟨rfl, hb⟩ hbs

end

/-! ## 6. Documents -/

/-- **HTML says what the tree has to say.** Where element names and property
names are names, the HTML of a document without raw HTML lexes, and its
tokens are the prescribed ones. -/
theorem lex_ofRoot (r : Root) (h : ∀ d ∈ r.carried, NamesOf d) :
    lex (ofRoot false r).toList = some (joinTexts [] (rootTokens r)) :=
  lex_render (says_joinLines (says_lines r.children h))

/-- A document whose texts try to get out of their places. -/
def hostile : Root :=
  ⟨[.callout "x\" onclick=\"y" [.paragraph [.text "</p><b>", .text "&lt;", .html "<script>",
      .link "\"><i>" (some "&quot;") [.code "<!--"]] { elementName := some "note-1" }]
      { properties := .ofList [("id", "a\"b"), ("htmlFor", "<&amp;>")] },
    .html "<hr>" .none]⟩

/-- None of them does. -/
theorem lex_ofRoot_hostile :
    (∀ d ∈ hostile.carried, NamesOf d)
      ∧ lex (ofRoot false hostile).toList = some [
        .openTag "aside" [("class", "x\" onclick=\"y"), ("id", "a\"b"), ("for", "<&amp;>")],
        .text "\n", .openTag "note-1" [], .text "</p><b>&lt;",
        .openTag "a" [("href", "\"><i>"), ("title", "&quot;")],
        .openTag "code" [], .text "<!--", .closeTag "code", .closeTag "a",
        .closeTag "note-1", .text "\n", .closeTag "aside"] := by
  have h : ∀ d ∈ hostile.carried, NamesOf d := by decide
  exact ⟨h, (lex_ofRoot hostile h).trans (by decide)⟩

end Marginalia.Markup
