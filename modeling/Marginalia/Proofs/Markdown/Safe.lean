/-
Marginalia.Proofs.Markdown.Safe — the HTML of any parse tree is safe.

`lex_safe`: take any parse tree that starts at a document, make it a
document, convert that with an element name that is a name, and write it
without raw HTML. What comes out lexes, and every tag in it is one of a fixed
list of elements, of a heading of the parse tree, or of a callout. Its
attributes are of a fixed list, none of them twice, and a class is either the
kind of a callout or the language of code. So no text, info, address or raw
HTML of the parse tree brings a tag or an attribute of its own.

## How the proof goes

Three stages meet in one condition on blocks, `Harmless`. A node makes
harmless blocks, for it gives them nothing to carry and takes the language of
code from a word of its info. Conversion keeps blocks harmless, for a callout
carries what its marker allows (`harmless_convertRoot`). Harmless blocks have
only safe tokens to say (`safe_blockTokens`), and HTML says what its tree has
to say (`lex_render`, `says_lines`).
-/
import Marginalia.Proofs.Callout.Written
import Marginalia.Proofs.Markdown.NormalForm
import Marginalia.Proofs.Markup.Faithful

namespace Marginalia.Markdown

open Markup Callout

/-! ## 1. Safe tokens -/

/-- The elements that blocks and inlines are written as, but headings and
callouts. -/
def plainElements : List String :=
  ["p", "blockquote", "ul", "ol", "li", "pre", "code", "hr", "em", "strong", "del", "br",
   "a", "img"]

/-- The attributes that are written. -/
def plainAttributes : List String := ["class", "start", "href", "title", "src", "alt"]

/-- A name of a plain element, of the element of callouts, or of a heading among
the nodes. -/
inductive SafeName (callout : String) (ns : List Node) : String → Prop where
  | plain {name : String} (h : name ∈ plainElements) : SafeName callout ns name
  | callout : SafeName callout ns callout
  | heading {level : UInt8} {below : List Node}
      (h : .mk (.heading level) below ∈ withinAll ns) :
      SafeName callout ns ("h" ++ toString level.toNat)

/-- One or more small letters, digits and underscores. -/
def IsKindName (s : String) : Prop :=
  s ≠ "" ∧ ∀ c ∈ s.toList, c.isLower = true ∨ c.isDigit = true ∨ c = '_'

/-- The class for a language, which is a word. -/
def IsLanguageClass (s : String) : Prop :=
  ∃ word : String, s = "language-" ++ word ∧ word ≠ ""
    ∧ ∀ c ∈ word.toList, Text.isBlank c = false

/-- Attributes of a tag that are plain, each there once, with a class only on a
callout or on code. -/
structure SafeAttributes (callout name : String) (as : List Attribute) : Prop where
  plain : ∀ a ∈ as, a.1 ∈ plainAttributes
  distinct : (as.map Prod.fst).Nodup
  classed : ∀ a ∈ as, a.1 = "class" →
    name = callout ∧ IsKindName a.2 ∨ name = "code" ∧ IsLanguageClass a.2

/-- The token is a text, or a tag with a safe name and safe attributes. -/
inductive SafeToken (callout : String) (ns : List Node) : Token → Prop where
  | text (value : String) : SafeToken callout ns (.text value)
  | closeTag {name : String} (hn : SafeName callout ns name) :
      SafeToken callout ns (.closeTag name)
  | openTag {name : String} {as : List Attribute} (hn : SafeName callout ns name)
      (ha : SafeAttributes callout name as) : SafeToken callout ns (.openTag name as)

/-- All tokens are safe. -/
abbrev AllSafe (callout : String) (ns : List Node) (ts : List Token) : Prop :=
  ∀ t ∈ ts, SafeToken callout ns t

variable {callout : String} {ns : List Node}

/-! ## 2. Harmless blocks -/

/-- The block carries nothing that could be written, unless it is a callout, and
it says no more of itself than a node can. -/
inductive Harmless (callout : String) (ns : List Node) : Block → Prop where
  | paragraph (cs : List Inline) : Harmless callout ns (.paragraph cs .none)
  | heading {level : UInt8} {below : List Node} (h : .mk (.heading level) below ∈ withinAll ns)
      (cs : List Inline) : Harmless callout ns (.heading level cs .none)
  | quote (cs : List Block) : Harmless callout ns (.quote cs .none)
  | callout {kind : String} (h : IsKindName kind) (cs : List Block) :
      Harmless callout ns (.callout kind cs (mergeData callout kind .none))
  | list (ordered : Bool) (start : Option UInt64) (spread : Bool) {items : List Item}
      (h : ∀ i ∈ items, i.data = .none) :
      Harmless callout ns (.list ordered start spread items .none)
  | code {language details : Option String} (h : TidyInfo language details) (value : String) :
      Harmless callout ns (.code language details value .none)
  | rule : Harmless callout ns (.rule .none)
  | html (value : String) : Harmless callout ns (.html value .none)

theorem harmless_of_makes {n : Node} {b : Block} (hn : n ∈ withinAll ns) (h : Makes n b) :
    Harmless callout ns b := by
  cases h with
  | paragraph => exact .paragraph _
  | heading => exact .heading hn _
  | code info => exact .code (tidyInfo_splitInfo info) _
  | quote => exact .quote _
  | list _ _ _ _ h => exact .list _ _ _ fun i hi => (h i hi).2
  | rule => exact .rule
  | html => exact .html _

theorem data_of_makes_list {n : Node} {ordered : Bool} {start : Option UInt64} {spread : Bool}
    {items : List Item} {d : Data} (h : Makes n (.list ordered start spread items d)) :
    ∀ i ∈ items, i.data = .none := by
  cases h with
  | list _ _ _ _ h => exact fun i hi => (h i hi).2

theorem isKindName_kindName {m : Callout.Marker} (hm : m.WellFormed) :
    IsKindName m.kindName := by
  refine ⟨fun h => hm.1 ?_, fun c => mem_kindName hm⟩
  have hnil := congrArg String.toList h
  rwa [Callout.Marker.kindName, String.toList_ofList, String.toList_empty,
    List.map_eq_nil_iff] at hnil

/-- What a conversion makes of a block that a node makes is harmless. -/
theorem harmless_convertRoot {b' : Block}
    (h : b' ∈ (convertRoot callout (rootOf ns).value).value.walk) :
    Harmless callout ns b' := by
  obtain ⟨b, hb, hturns⟩ := exists_of_mem_walk_convertRoot callout h
  obtain ⟨n, hn, hmakes⟩ := exists_makes hb
  obtain ⟨hcallout, hdata⟩ := bare_of_makes hmakes
  rcases hturns with hbecomes | hkept | htrimmed
  · cases hbecomes with
    | callout => cases hcallout
    | unmarked =>
      obtain rfl : _ = Data.none := hdata
      exact .quote _
    | marked hm =>
      obtain rfl : _ = Data.none := hdata
      rw [marker?_quote] at hm
      exact .callout (isKindName_kindName (leadingMarker?_eq_some_iff.1 hm).1) _
  · cases hkept with
    | leaf => exact harmless_of_makes hn hmakes
    | list _ _ _ _ hshell =>
      obtain rfl : _ = Data.none := hdata
      refine .list _ _ _ fun i hi => ?_
      obtain ⟨j, hj, hji⟩ := List.mem_map.1 (hshell ▸ List.mem_map_of_mem hi)
      rw [← (Prod.mk.inj hji).2]
      exact data_of_makes_list hmakes j hj
  · cases htrimmed <;>
    · obtain rfl : _ = Data.none := hdata
      exact .paragraph _

/-- What holds of nothing carried, and of what callouts carry, holds of all that a
harmless block carries. -/
theorem forall_ownData {P : Data → Prop} (hnone : P .none)
    (hmerged : ∀ kind, P (mergeData callout kind .none)) {b : Block}
    (h : Harmless callout ns b) : ∀ d ∈ b.ownData, P d := by
  cases h with
  | @callout kind =>
    intro d hd
    obtain rfl := List.mem_singleton.1 hd
    exact hmerged kind
  | list _ _ _ hitems =>
    intro d hd
    rcases List.mem_cons.1 hd with rfl | hd
    · exact hnone
    · obtain ⟨i, hi, rfl⟩ := List.mem_map.1 hd
      rw [hitems i hi]
      exact hnone
  | _ =>
    intro d hd
    obtain rfl := List.mem_singleton.1 hd
    exact hnone

/-- What harmless blocks carry has names only. -/
theorem namesOf_ownData (hcallout : isName callout = true) {b : Block}
    (h : Harmless callout ns b) : ∀ d ∈ b.ownData, NamesOf d := by
  refine forall_ownData (by decide) (fun kind => ⟨fun n hn => ?_, fun p hp => ?_⟩) h
  · obtain rfl := Option.some.inj hn
    exact hcallout
  · obtain rfl := List.mem_singleton.1 hp
    exact (by decide : isName Data.classProperty = true)

/-! ## 3. Layout -/

theorem mem_sideBySide {t : Token} {ls : List (List Token)} (h : t ∈ sideBySide ls) :
    t = .newline ∨ ∃ l ∈ ls, t ∈ l := by
  induction ls with
  | nil => cases h
  | cons l ls ih =>
    cases ls with
    | nil =>
      exact .inr ⟨l, List.mem_cons_self, by
        simpa [sideBySide, List.intercalate] using h⟩
    | cons l' ls =>
      rw [sideBySide_cons_cons, List.mem_append, List.mem_cons] at h
      rcases h with h | rfl | h
      · exact .inr ⟨l, List.mem_cons_self, h⟩
      · exact .inl rfl
      · rcases ih h with rfl | ⟨k, hk, hin⟩
        · exact .inl rfl
        · exact .inr ⟨k, List.mem_cons_of_mem _ hk, hin⟩

theorem mem_onLines {t : Token} {ls : List (List Token)} (h : t ∈ onLines ls) :
    t = .newline ∨ ∃ l ∈ ls, t ∈ l := by
  rcases List.mem_cons.1 h with rfl | h
  · exact .inl rfl
  · obtain ⟨l, hl, h⟩ := List.mem_flatMap.1 h
    rcases List.mem_append.1 h with h | h
    · exact .inr ⟨l, hl, h⟩
    · exact .inl (List.mem_singleton.1 h)

theorem mem_edge {t : Token} {bare : Bool} (h : t ∈ edge bare) : t = .newline := by
  cases bare with
  | true => cases h
  | false => exact List.mem_singleton.1 h

theorem mem_itemLayout {t : Token} {cs : List (Bool × List Token)} (h : t ∈ itemLayout cs) :
    t = .newline ∨ ∃ c ∈ cs, t ∈ c.2 := by
  cases cs with
  | nil => cases h
  | cons c cs =>
    rw [itemLayout, List.mem_append, List.mem_append] at h
    rcases h with (h | h) | h
    · exact .inl (mem_edge h)
    · rcases mem_sideBySide h with rfl | ⟨l, hl, hin⟩
      · exact .inl rfl
      · obtain ⟨c', hc', rfl⟩ := List.mem_map.1 hl
        exact .inr ⟨c', hc', hin⟩
    · exact .inl (mem_edge h)

/-- Putting texts together brings no tags. -/
theorem mem_joinTexts {t : Token} {begun : List Char} {ts : List Token}
    (h : t ∈ Markup.joinTexts begun ts) : t ∈ ts ∨ ∃ value, t = .text value := by
  have hwhole : ∀ {s : List Char}, t ∈ wholeText s → ∃ value, t = .text value := by
    intro s hs
    cases s with
    | nil => cases hs
    | cons => exact ⟨_, List.mem_singleton.1 hs⟩
  induction ts generalizing begun with
  | nil => exact .inr (hwhole h)
  | cons u ts ih =>
    cases u with
    | text value => exact (ih h).imp_left (List.mem_cons_of_mem _)
    | _ =>
      rw [Markup.joinTexts] at h
      · rcases List.mem_append.1 h with h | h
        · exact .inr (hwhole h)
        · rcases List.mem_cons.1 h with rfl | h
          · exact .inl List.mem_cons_self
          · exact (ih h).imp_left (List.mem_cons_of_mem _)
      · simp

theorem allSafe_onLines {ls : List (List Token)} (h : ∀ l ∈ ls, AllSafe callout ns l) :
    AllSafe callout ns (onLines ls) := by
  intro t ht
  rcases mem_onLines ht with rfl | ⟨l, hl, ht⟩
  · exact .text _
  · exact h l hl t ht

theorem allSafe_itemLayout {cs : List (Bool × List Token)}
    (h : ∀ c ∈ cs, AllSafe callout ns c.2) : AllSafe callout ns (itemLayout cs) := by
  intro t ht
  rcases mem_itemLayout ht with rfl | ⟨c, hc, ht⟩
  · exact .text _
  · exact h c hc t ht

/-! ## 4. Elements -/

theorem safeAttributes_nil (name : String) : SafeAttributes callout name [] where
  plain := by simp
  distinct := by simp
  classed := by simp

/-- Plain attributes without a class are safe on every tag. -/
theorem safeAttributes_unclassed {name : String} {as : List Attribute}
    (hplain : ∀ a ∈ as, a.1 ∈ plainAttributes ∧ a.1 ≠ "class") (hd : (as.map Prod.fst).Nodup) :
    SafeAttributes callout name as where
  plain a ha := (hplain a ha).1
  distinct := hd
  classed a ha hclass := absurd hclass (hplain a ha).2

theorem safeAttributes_class {name value : String}
    (h : name = callout ∧ IsKindName value ∨ name = "code" ∧ IsLanguageClass value) :
    SafeAttributes callout name [("class", value)] where
  plain := by simp [plainAttributes]
  distinct := by simp
  classed a ha _ := List.mem_singleton.1 ha ▸ h

theorem allSafe_element {name : String} {as : List Attribute} {inside : List Token}
    (hn : SafeName callout ns name) (ha : SafeAttributes callout name as)
    (hi : AllSafe callout ns inside) : AllSafe callout ns (element name as inside) := by
  intro t ht
  rcases List.mem_append.1 ht with ht | ht
  · rcases List.mem_cons.1 ht with rfl | ht
    · exact .openTag hn ha
    · exact hi t ht
  · rw [List.mem_singleton.1 ht]
    exact .closeTag hn

/-- A callout is written with the name asked for and its kind as class. -/
theorem blockTokens_callout (callout kind : String) (cs : List Block) :
    blockTokens (.callout kind cs (mergeData callout kind .none))
      = element callout [("class", kind)] (onLines (shownTokens cs)) := rfl

/-- A block that carries nothing has the attributes of its element. -/
theorem blockElement_none (natural : String) {own : List Attribute}
    (h : (own.map Prod.fst).Nodup) (inside : List Token) :
    blockElement natural own .none inside = element natural own inside := by
  rw [blockElement, blockAttributes_eq h]
  rfl

theorem safeAttributes_attributeOf {name own : String} (value : Option String)
    (h : own ∈ plainAttributes ∧ own ≠ "class") :
    SafeAttributes callout name (attributeOf own value) := by
  cases value with
  | none => exact safeAttributes_nil name
  | some value =>
    exact safeAttributes_unclassed (List.forall_mem_singleton.2 h)
      (nodup_attributeOf own value)

theorem safeAttributes_code {language details : Option String}
    (h : TidyInfo language details) :
    SafeAttributes callout "code" (attributeOf "class" (language.map ("language-" ++ ·))) := by
  cases language with
  | none => exact safeAttributes_nil "code"
  | some word => exact safeAttributes_class (.inr ⟨rfl, word, rfl, h.word word rfl⟩)

theorem allSafe_codeContent (value : String) :
    AllSafe callout ns (if value.isEmpty then [] else [.text value, .newline]) := by
  split
  · exact List.forall_mem_nil _
  · exact List.forall_mem_cons.2 ⟨.text value, List.forall_mem_singleton.2 (.text _)⟩

/-! ## 5. Trees -/

mutual

theorem safe_inlineTokens : ∀ i : Inline, AllSafe callout ns (inlineTokens i)
  | .text value => fun t ht => List.mem_singleton.1 ht ▸ .text value
  | .emphasis cs | .strong cs | .delete cs =>
      allSafe_element (.plain (by decide)) (safeAttributes_nil _) (safe_inlinesTokens cs)
  | .code value =>
      allSafe_element (.plain (by decide)) (safeAttributes_nil _)
        fun t ht => List.mem_singleton.1 ht ▸ .text value
  | .lineBreak => by
      intro t ht
      rcases List.mem_cons.1 ht with rfl | ht
      · exact .openTag (.plain (by decide)) (safeAttributes_nil _)
      · rw [List.mem_singleton.1 ht]
        exact .text _
  | .link url title cs => by
      refine allSafe_element (.plain (by decide)) (safeAttributes_unclassed ?_ ?_)
        (safe_inlinesTokens cs)
      · cases title <;> simp [attributeOf, plainAttributes]
      · cases title <;> simp [attributeOf]
  | .image url title alt => by
      intro t ht
      rw [List.mem_singleton.1 ht]
      refine .openTag (.plain (by decide)) (safeAttributes_unclassed ?_ ?_)
      · cases title <;> simp [attributeOf, plainAttributes]
      · cases title <;> simp [attributeOf]
  | .html _ => fun _ ht => nomatch ht

theorem safe_inlinesTokens : ∀ is : List Inline, AllSafe callout ns (inlinesTokens is)
  | [] => fun _ ht => nomatch ht
  | i :: is => List.forall_mem_append.2 ⟨safe_inlineTokens i, safe_inlinesTokens is⟩

end

mutual

theorem safe_blockTokens : ∀ b : Block, (∀ b' ∈ b.walk, Harmless callout ns b') →
    AllSafe callout ns (blockTokens b)
  | .paragraph cs d, h => by
      cases h _ List.mem_cons_self
      exact allSafe_element (.plain (by decide)) (safeAttributes_nil _) (safe_inlinesTokens cs)
  | .heading depth cs d, h => by
      cases h _ List.mem_cons_self with
      | heading hlevel =>
        exact allSafe_element (.heading hlevel) (safeAttributes_nil _) (safe_inlinesTokens cs)
  | .quote cs d, h => by
      obtain ⟨hquote, hcs⟩ := List.forall_mem_cons.1 h
      cases hquote
      exact allSafe_element (.plain (by decide)) (safeAttributes_nil _)
        (allSafe_onLines (safe_shownTokens cs hcs))
  | .callout kind cs d, h => by
      obtain ⟨hquote, hcs⟩ := List.forall_mem_cons.1 h
      cases hquote with
      | callout hkind =>
        rw [blockTokens_callout]
        exact allSafe_element .callout (safeAttributes_class (.inl ⟨rfl, hkind⟩))
          (allSafe_onLines (safe_shownTokens cs hcs))
  | .list ordered start spread items d, h => by
      obtain ⟨hlist, hinside⟩ := List.forall_mem_cons.1 h
      cases hlist with
      | list _ _ _ hdata =>
        have hname : (if ordered then "ol" else "ul") ∈ plainElements := by
          cases ordered <;> decide
        rw [blockTokens, blockElement_none _ (nodup_attributeOf ..)]
        exact allSafe_element (.plain hname) (safeAttributes_attributeOf _ (by decide))
          (allSafe_onLines (safe_itemsTokens spread items hdata hinside))
  | .code language details value d, h => by
      cases h _ List.mem_cons_self with
      | code hinfo =>
        rw [blockTokens, blockElement_none _ (nodup_attributeOf ..)]
        exact allSafe_element (.plain (by decide)) (safeAttributes_nil _)
          (allSafe_element (.plain (by decide)) (safeAttributes_code hinfo)
            (allSafe_codeContent value))
  | .rule d, h => by
      cases h _ List.mem_cons_self
      intro t ht
      rw [List.mem_singleton.1 ht]
      exact .openTag (.plain (by decide)) (safeAttributes_nil _)
  | .html value d, _ => fun _ ht => nomatch ht

theorem safe_shownTokens : ∀ bs : List Block, (∀ b ∈ walkAll bs, Harmless callout ns b) →
    ∀ l ∈ shownTokens bs, AllSafe callout ns l
  | [], _, _, hl => nomatch hl
  | b :: bs, h, l, hl => by
      obtain ⟨hb, hbs⟩ := List.forall_mem_append.1 h
      rw [shownTokens] at hl
      split at hl
      · exact safe_shownTokens bs hbs l hl
      · rcases List.mem_cons.1 hl with rfl | hl
        · exact safe_blockTokens b hb
        · exact safe_shownTokens bs hbs l hl

theorem safe_itemsTokens (spread : Bool) : ∀ is : List Item, (∀ i ∈ is, i.data = .none) →
    (∀ b ∈ walkItems is, Harmless callout ns b) →
      ∀ l ∈ itemsTokens spread is, AllSafe callout ns l
  | [], _, _, _, hl => nomatch hl
  | .mk itemSpread cs d :: is, hdata, h, l, hl => by
      obtain ⟨hd, hrest⟩ := List.forall_mem_cons.1 hdata
      obtain ⟨hcs, his⟩ := List.forall_mem_append.1 h
      obtain rfl : d = .none := hd
      rcases List.mem_cons.1 hl with rfl | hl
      · exact allSafe_element (.plain (by decide)) (safeAttributes_nil _)
          (allSafe_itemLayout (safe_childrenTokens (spread || itemSpread) cs hcs))
      · exact safe_itemsTokens spread is hrest his l hl

theorem safe_childrenTokens (loose : Bool) : ∀ bs : List Block,
    (∀ b ∈ walkAll bs, Harmless callout ns b) →
      ∀ c ∈ childrenTokens loose bs, AllSafe callout ns c.2
  | [], _, _, hc => nomatch hc
  | b :: bs, h, c, hc => by
      obtain ⟨hb, hbs⟩ := List.forall_mem_append.1 h
      have hself := safe_blockTokens b hb
      have hrest := safe_childrenTokens loose bs hbs
      cases b with
      | html value d => exact hrest c hc
      | paragraph is d =>
        rcases List.mem_cons.1 hc with rfl | hc
        · cases loose with
          | true => exact hself
          | false => exact safe_inlinesTokens is
        · exact hrest c hc
      | _ =>
        rcases List.mem_cons.1 hc with rfl | hc
        · exact hself
        · exact hrest c hc

end

/-! ## 6. Documents -/

/-- **The HTML of any parse tree is safe.** Read, converted with an element name
that is a name, and written without raw HTML, it lexes to safe tokens. -/
theorem lex_safe (hcallout : isName callout = true) (cs : List Node) :
    ∃ parsed ts, toRoot? (.mk .document cs) = some parsed
      ∧ lex (ofRoot false (convertRoot callout parsed.value).value).toList = some ts
      ∧ ∀ t ∈ ts, SafeToken callout cs t := by
  have hharmless : ∀ b ∈ (convertRoot callout (rootOf cs).value).value.walk,
      Harmless callout cs b := fun b => harmless_convertRoot
  have hnames : ∀ d ∈ (convertRoot callout (rootOf cs).value).value.carried, NamesOf d := by
    intro d hd
    obtain ⟨b, hb, hown⟩ := exists_of_mem_carriedAll _ d hd
    exact namesOf_ownData hcallout (hharmless b hb) d hown
  refine ⟨rootOf cs, _, rfl, lex_render (says_joinLines (says_lines _ hnames)), ?_⟩
  intro t ht
  rcases mem_joinTexts ht with ht | ⟨value, rfl⟩
  · rcases mem_sideBySide ht with rfl | ⟨l, hl, ht⟩
    · exact .text _
    · exact safe_shownTokens _ hharmless l hl t ht
  · exact .text value

/-- Nodes whose texts try to get out of their places, with raw HTML between. -/
def hostileNodes : List Node :=
  [.mk (.heading 7) [.leaf (.text "</h7><script>")],
    .mk (.codeBlock "rs\"><i> onload=\"x" "</code>\n") [],
    .mk .blockQuote [.mk .paragraph [.leaf (.text "[!NOTE_1]"), .leaf .softBreak,
      .mk (.link "\"><b>" "\" onclick=\"") [.leaf (.code "<!--")], .leaf (.htmlInline "<u>")]],
    .leaf (.htmlBlock "<hr>"), .mk (.list true 3 true) [.leaf (.text "x"), .mk .table []]]

theorem lex_safe_hostile :
    isName "note-1" = true
      ∧ ∃ parsed ts, toRoot? (.mk .document hostileNodes) = some parsed
          ∧ lex (ofRoot false (convertRoot "note-1" parsed.value).value).toList = some ts
          ∧ ∀ t ∈ ts, SafeToken "note-1" hostileNodes t :=
  ⟨by decide, lex_safe (by decide) hostileNodes⟩

end Marginalia.Markdown
