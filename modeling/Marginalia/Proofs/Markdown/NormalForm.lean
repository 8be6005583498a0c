/-
Marginalia.Proofs.Markdown.NormalForm — the form of the documents that are
read.

`normal_document`: whatever the parse tree of a document is like, no two
texts stand side by side in the document, no title is the empty text, lists
and code follow their conventions, there is no callout, and nothing carries
data. A conversion keeps all of this, but for the callouts it makes, and only
these carry data.

## How the proof goes

`Makes` says of each kind of node what block it becomes, without the way
there. Every block of a document that was read is made by a node of the parse
tree (`exists_makes`), and so what is to be shown of all blocks is shown of
the seven kinds of `Makes`. Below a paragraph or a heading the same is done
with inlines, where texts are joined at every depth. For conversion it
suffices that each block afterwards was kept or trimmed, or is a quote or
callout (`exists_of_mem_walk_convertRoot`).
-/
import Mathlib.Data.List.TakeWhile
import Marginalia.Markdown.ToTree
import Marginalia.Proofs.Callout.Frame

namespace Marginalia

/-! ## 1. Sequences of inlines -/

/-- The title of a link or an image. -/
def Inline.title? : Inline → Option String
  | .link _ title _ | .image _ title _ => title
  | _ => none

mutual

/-- The sequences of inlines inside an inline, at every depth. -/
def Inline.sequences : Inline → List (List Inline)
  | .emphasis cs | .strong cs | .delete cs | .link _ _ cs => cs :: sequencesInside cs
  | .text _ | .code _ | .lineBreak | .image .. | .html _ => []

/-- The sequences inside inlines. -/
def sequencesInside : List Inline → List (List Inline)
  | [] => []
  | i :: is => i.sequences ++ sequencesInside is

end

theorem mem_sequencesInside {s : List Inline} {is : List Inline} :
    s ∈ sequencesInside is ↔ ∃ i ∈ is, s ∈ i.sequences := by
  induction is with
  | nil => simp [sequencesInside]
  | cons i is ih => simp [sequencesInside, ih]

namespace Markdown

/-- In the sequence no two texts stand side by side, and no title is empty. -/
structure TidySequence (is : List Inline) : Prop where
  merged : isMerged is = true
  titled : ∀ i ∈ is, i.title? ≠ some ""

/-- The sequence and all sequences inside it are tidy. -/
def TidyInlines (is : List Inline) : Prop := ∀ s ∈ is :: sequencesInside is, TidySequence s

/-! ## 2. Blocks -/

/-- The info of code: its language is a word, and there are no details without a
language, and none that are empty or start or end with a blank. -/
structure TidyInfo (language details : Option String) : Prop where
  word : ∀ w ∈ language, w ≠ "" ∧ ∀ c ∈ w.toList, Text.isBlank c = false
  trimmed : ∀ t ∈ details, t ≠ "" ∧ (∀ c ∈ t.toList.head?, Text.isBlank c = false)
    ∧ ∀ c ∈ t.toList.getLast?, Text.isBlank c = false
  needsLanguage : details.isSome → language.isSome

end Markdown

open Markdown

/-- The block follows the conventions of its kind. A list that is ordered, and
no other, has a start, and its items are set apart as it is and carry nothing. -/
def Block.Tidy : Block → Prop
  | .paragraph cs _ | .heading _ cs _ => TidyInlines cs
  | .list ordered start spread items _ =>
    start.isSome = ordered ∧ ∀ i ∈ items, i.spread = spread ∧ i.data.isEmpty = true
  | .code language details _ _ => TidyInfo language details
  | .quote .. | .callout .. | .rule _ | .html .. => True

/-- The form of a document as it is read. -/
structure Root.Normal (r : Root) : Prop where
  tidy : ∀ b ∈ r.walk, b.Tidy
  noCallout : ∀ b ∈ r.walk, b.isCallout = false
  noData : ∀ b ∈ r.walk, b.data.isEmpty = true

/-- The same form, but for callouts and what they carry. -/
structure Root.NormalButCallouts (r : Root) : Prop where
  tidy : ∀ b ∈ r.walk, b.Tidy
  noData : ∀ b ∈ r.walk, b.isCallout = false → b.data.isEmpty = true

namespace Markdown

/-! ## 3. What inlines are read -/

theorem mem_nonEmpty {s t : String} : t ∈ nonEmpty s ↔ t = s ∧ s ≠ "" := by
  unfold nonEmpty
  cases hs : s.isEmpty with
  | true => simp [String.isEmpty_iff.1 hs]
  | false =>
    have hne : s ≠ "" := by
      rintro rfl
      cases hs
    simp [hne, eq_comm]

/-- The inline has a title that is not empty, if one, and tidy sequences inside. -/
def TidyInline (i : Inline) : Prop := i.title? ≠ some "" ∧ ∀ s ∈ i.sequences, TidySequence s

/-- Joining texts brings no inlines but texts. -/
theorem mem_consInline {i j : Inline} {is : List Inline} (h : j ∈ consInline i is) :
    j ∈ i :: is ∨ ∃ value, j = .text value := by
  unfold consInline at h
  split at h
  · rcases List.mem_cons.1 h with rfl | h
    · exact .inr ⟨_, rfl⟩
    · exact .inl (by simp [h])
  · exact .inl h

theorem mem_mergeTexts {j : Inline} {is : List Inline} (h : j ∈ mergeTexts is) :
    j ∈ is ∨ ∃ value, j = .text value := by
  induction is with
  | nil => cases h
  | cons i is ih =>
    rcases mem_consInline h with h | h
    · rcases List.mem_cons.1 h with rfl | h
      · exact .inl List.mem_cons_self
      · exact (ih h).imp_left (List.mem_cons_of_mem _)
    · exact .inr h

theorem tidyInline_text (value : String) : TidyInline (.text value) :=
  ⟨by simp [Inline.title?], by simp [Inline.sequences]⟩

/-- Tidy inlines with their texts joined are tidy together. -/
theorem tidyInlines_mergeTexts {is : List Inline} (h : ∀ i ∈ is, TidyInline i) :
    TidyInlines (mergeTexts is) := by
  have hmerged : ∀ i ∈ mergeTexts is, TidyInline i := by
    intro i hi
    rcases mem_mergeTexts hi with hi | ⟨value, rfl⟩
    · exact h i hi
    · exact tidyInline_text value
  intro s hs
  rcases List.mem_cons.1 hs with rfl | hs
  · exact ⟨isMerged_mergeTexts is, fun i hi => (hmerged i hi).1⟩
  · obtain ⟨i, hi, hs⟩ := mem_sequencesInside.1 hs
    exact (hmerged i hi).2 s hs

mutual

theorem tidy_inlinesOf : ∀ n : Node, ∀ i ∈ (inlinesOf n).value, TidyInline i
  | .mk kind cs => by
      have hcs : TidyInlines (mergeTexts (inlinesOfAll cs).value) :=
        tidyInlines_mergeTexts (tidy_inlinesOfAll cs)
      have htitle : ∀ title : String, nonEmpty title ≠ some "" := by
        intro title h
        have := mem_nonEmpty.1 h
        exact this.2 this.1.symm
      intro i hi
      cases kind with
      | text | softBreak | lineBreak | code | htmlInline =>
        obtain rfl := List.mem_singleton.1 hi
        exact ⟨by simp [Inline.title?], by simp [Inline.sequences]⟩
      | emph | strong | strikethrough =>
        obtain rfl := List.mem_singleton.1 hi
        exact ⟨by simp [Inline.title?], hcs⟩
      | link url title =>
        obtain rfl := List.mem_singleton.1 hi
        exact ⟨htitle title, hcs⟩
      | image url title =>
        obtain rfl := List.mem_singleton.1 hi
        exact ⟨htitle title, by simp [Inline.sequences]⟩
      | escaped => exact tidy_inlinesOfAll cs i hi
      | _ => cases hi

theorem tidy_inlinesOfAll : ∀ ns : List Node, ∀ i ∈ (inlinesOfAll ns).value, TidyInline i
  | [], _, hi => nomatch hi
  | n :: ns, i, hi => by
      rcases List.mem_append.1 hi with hi | hi
      · exact tidy_inlinesOf n i hi
      · exact tidy_inlinesOfAll ns i hi

end

theorem tidyInlines_toInlines (ns : List Node) : TidyInlines (toInlines ns).value :=
  tidyInlines_mergeTexts (tidy_inlinesOfAll ns)

/-! ## 4. What the info of code is read as -/

/-- Without a first word the info is blank, and then there is no rest. -/
theorem takeWhile_trim_ne_nil {s : List Char}
    (h : Text.trim ((Text.trim s).dropWhile (!Text.isBlank ·)) ≠ []) :
    (Text.trim s).takeWhile (!Text.isBlank ·) ≠ [] := by
  cases hs : Text.trim s with
  | nil =>
    rw [hs] at h
    exact absurd rfl h
  | cons c r =>
    have hc : Text.isBlank c = false := Text.not_isBlank_head?_trim s c (by rw [hs]; rfl)
    simp [hc]

theorem splitInfo_fst (info : String) :
    (splitInfo info).1
      = nonEmpty (String.ofList ((Text.trim info.toList).takeWhile (!Text.isBlank ·))) := by
  simp only [splitInfo]

theorem splitInfo_snd (info : String) :
    (splitInfo info).2
      = nonEmpty (String.ofList
          (Text.trim ((Text.trim info.toList).dropWhile (!Text.isBlank ·)))) := by
  simp only [splitInfo]

theorem tidyInfo_splitInfo (info : String) :
    TidyInfo (splitInfo info).1 (splitInfo info).2 where
  word := by
    intro w hw
    rw [splitInfo_fst, Option.mem_def] at hw
    obtain ⟨rfl, hne⟩ := mem_nonEmpty.1 hw
    refine ⟨hne, fun c hc => ?_⟩
    rw [String.toList_ofList] at hc
    simpa using List.mem_takeWhile_imp hc
  trimmed := by
    intro t ht
    rw [splitInfo_snd, Option.mem_def] at ht
    obtain ⟨rfl, hne⟩ := mem_nonEmpty.1 ht
    rw [String.toList_ofList]
    exact ⟨hne, Text.not_isBlank_head?_trim _, Text.not_isBlank_getLast?_trim _⟩
  needsLanguage := by
    intro hdetails
    obtain ⟨t, ht⟩ := Option.isSome_iff_exists.1 hdetails
    rw [splitInfo_snd] at ht
    have hrest := (mem_nonEmpty.1 ht).2
    have hword := takeWhile_trim_ne_nil fun h => hrest (by rw [h, String.ofList_nil])
    rw [splitInfo_fst]
    refine Option.isSome_iff_exists.2 ⟨_, mem_nonEmpty.2 ⟨rfl, fun h => hword ?_⟩⟩
    have hnil := congrArg String.toList h
    rwa [String.toList_ofList, String.toList_empty] at hnil

/-! ## 5. What blocks are read -/

mutual

/-- A node and all nodes below it. -/
def Node.within : Node → List Node
  | .mk kind cs => .mk kind cs :: withinAll cs

/-- Nodes and all nodes below them. -/
def withinAll : List Node → List Node
  | [] => []
  | n :: ns => n.within ++ withinAll ns

end

/-- The block that a node becomes, apart from the blocks inside it. -/
inductive Makes : Node → Block → Prop where
  | paragraph (cs : List Node) :
      Makes (.mk .paragraph cs) (.paragraph (toInlines cs).value .none)
  | heading (level : UInt8) (cs : List Node) :
      Makes (.mk (.heading level) cs) (.heading level (toInlines cs).value .none)
  | code (info literal : String) (cs : List Node) :
      Makes (.mk (.codeBlock info literal) cs)
        (.code (splitInfo info).1 (splitInfo info).2 (dropFinalNewline literal) .none)
  | quote (cs : List Node) (bs : List Block) : Makes (.mk .blockQuote cs) (.quote bs .none)
  | list (ordered : Bool) (start : UInt64) (tight : Bool) (cs : List Node) {items : List Item}
      (h : ∀ i ∈ items, i.spread = !tight ∧ i.data = .none) :
      Makes (.mk (.list ordered start tight) cs)
        (.list ordered (if ordered then some start else none) (!tight) items .none)
  | rule (cs : List Node) : Makes (.mk .thematicBreak cs) (.rule .none)
  | html (literal : String) (cs : List Node) :
      Makes (.mk (.htmlBlock literal) cs) (.html (dropFinalNewline literal) .none)

theorem spread_itemsOf (spread : Bool) : ∀ ns : List Node,
    ∀ i ∈ (itemsOf spread ns).value, i.spread = spread ∧ i.data = .none
  | [], _, hi => nomatch hi
  | .mk kind cs :: ns, i, hi => by
      rcases List.mem_cons.1 hi with rfl | hi
      · exact ⟨rfl, rfl⟩
      · exact spread_itemsOf spread ns i hi

mutual

theorem exists_makes_blockOf : ∀ n : Node, ∀ b ∈ walkAll (blockOf n).value.toList,
    ∃ n' ∈ n.within, Makes n' b
  | .mk kind cs => by
      intro b hb
      cases kind with
      | paragraph =>
        obtain rfl := List.mem_singleton.1 hb
        exact ⟨_, List.mem_cons_self, .paragraph cs⟩
      | heading level =>
        obtain rfl := List.mem_singleton.1 hb
        exact ⟨_, List.mem_cons_self, .heading level cs⟩
      | codeBlock info literal =>
        rw [blockOf_codeBlock] at hb
        obtain rfl := List.mem_singleton.1 hb
        exact ⟨_, List.mem_cons_self, .code info literal cs⟩
      | thematicBreak =>
        obtain rfl := List.mem_singleton.1 hb
        exact ⟨_, List.mem_cons_self, .rule cs⟩
      | htmlBlock literal =>
        obtain rfl := List.mem_singleton.1 hb
        exact ⟨_, List.mem_cons_self, .html literal cs⟩
      | blockQuote =>
        rw [blockOf_blockQuote, Option.toList_some, walkAll, walkAll, List.append_nil] at hb
        rcases List.mem_cons.1 hb with rfl | hb
        · exact ⟨_, List.mem_cons_self, .quote cs _⟩
        · obtain ⟨n, hn, hmakes⟩ := exists_makes_blocksOf cs b hb
          exact ⟨n, List.mem_cons_of_mem _ hn, hmakes⟩
      | list ordered start tight =>
        rw [blockOf_list, Option.toList_some, walkAll, walkAll, List.append_nil] at hb
        rcases List.mem_cons.1 hb with rfl | hb
        · exact ⟨_, List.mem_cons_self, .list ordered start tight cs (spread_itemsOf _ cs)⟩
        · obtain ⟨n, hn, hmakes⟩ := exists_makes_itemsOf (!tight) cs b hb
          exact ⟨n, List.mem_cons_of_mem _ hn, hmakes⟩
      | _ => cases hb

theorem exists_makes_blocksOf : ∀ ns : List Node, ∀ b ∈ walkAll (blocksOf ns).value,
    ∃ n ∈ withinAll ns, Makes n b
  | [], _, hb => nomatch hb
  | n :: ns, b, hb => by
      rw [blocksOf_cons, walkAll_append] at hb
      rcases List.mem_append.1 hb with hb | hb
      · obtain ⟨n', hn', hmakes⟩ := exists_makes_blockOf n b hb
        exact ⟨n', List.mem_append_left _ hn', hmakes⟩
      · obtain ⟨n', hn', hmakes⟩ := exists_makes_blocksOf ns b hb
        exact ⟨n', List.mem_append_right _ hn', hmakes⟩

theorem exists_makes_itemsOf (spread : Bool) : ∀ ns : List Node,
    ∀ b ∈ walkItems (itemsOf spread ns).value, ∃ n ∈ withinAll ns, Makes n b
  | [], _, hb => nomatch hb
  | .mk kind cs :: ns, b, hb => by
      rw [itemsOf_cons, walkItems, walkItem] at hb
      rcases List.mem_append.1 hb with hb | hb
      · obtain ⟨n, hn, hmakes⟩ := exists_makes_blocksOf cs b hb
        exact ⟨n, List.mem_append_left _ (List.mem_cons_of_mem _ hn), hmakes⟩
      · obtain ⟨n, hn, hmakes⟩ := exists_makes_itemsOf spread ns b hb
        exact ⟨n, List.mem_append_right _ hn, hmakes⟩

end

/-- Every block of a document that was read is made by a node of its parse tree. -/
theorem exists_makes {cs : List Node} {b : Block} (h : b ∈ (rootOf cs).value.walk) :
    ∃ n ∈ withinAll cs, Makes n b :=
  exists_makes_blocksOf cs b h

theorem tidy_of_makes {n : Node} {b : Block} (h : Makes n b) : b.Tidy := by
  cases h with
  | paragraph cs | heading level cs => exact tidyInlines_toInlines cs
  | code info => exact tidyInfo_splitInfo info
  | list ordered start tight cs h =>
    refine ⟨by cases ordered <;> rfl, fun i hi => ⟨(h i hi).1, ?_⟩⟩
    rw [(h i hi).2, Data.isEmpty_none]
  | quote | rule | html => trivial

theorem bare_of_makes {n : Node} {b : Block} (h : Makes n b) :
    b.isCallout = false ∧ b.data = .none := by
  cases h <;> exact ⟨rfl, rfl⟩

theorem normal_rootOf (cs : List Node) : (rootOf cs).value.Normal where
  tidy b hb := by
    obtain ⟨n, -, hmakes⟩ := exists_makes hb
    exact tidy_of_makes hmakes
  noCallout b hb := by
    obtain ⟨n, -, hmakes⟩ := exists_makes hb
    exact (bare_of_makes hmakes).1
  noData b hb := by
    obtain ⟨n, -, hmakes⟩ := exists_makes hb
    rw [(bare_of_makes hmakes).2, Data.isEmpty_none]

end Markdown

/-! ## 6. What conversion keeps -/

namespace Callout

theorem isMerged_cons_text (value body : String) (is : List Inline) :
    isMerged (.text value :: is) = isMerged (.text body :: is) := by
  cases is with
  | nil => rfl
  | cons i is => cases i <;> rfl

theorem isMerged_of_cons {i : Inline} {is : List Inline} (h : isMerged (i :: is) = true) :
    isMerged is = true := by
  cases i with
  | text value =>
    cases is with
    | nil => rfl
    | cons j is => cases j <;> first | exact h | cases h
  | _ => exact h

/-- A paragraph stays tidy when a marker is cut out of it. -/
theorem tidy_of_trimmed {b b' : Block} (h : Trimmed b b') (hb : b.Tidy) : b'.Tidy := by
  cases h with
  | body value body is d =>
    obtain ⟨hfirst, hinside⟩ := List.forall_mem_cons.1 hb
    refine List.forall_mem_cons.2 ⟨⟨?_, ?_⟩, hinside⟩
    · rw [isMerged_cons_text body value]
      exact hfirst.merged
    · exact List.forall_mem_cons.2 ⟨by simp [Inline.title?],
        (List.forall_mem_cons.1 hfirst.titled).2⟩
  | bare value is d =>
    obtain ⟨hfirst, hinside⟩ := List.forall_mem_cons.1 hb
    exact List.forall_mem_cons.2 ⟨⟨isMerged_of_cons hfirst.merged,
      (List.forall_mem_cons.1 hfirst.titled).2⟩, hinside⟩

theorem tidy_of_kept {b b' : Block} (h : Kept b b') (hb : b.Tidy) : b'.Tidy := by
  cases h with
  | leaf => exact hb
  | list ordered start spread d h =>
    obtain ⟨hstart, hitems⟩ := hb
    refine ⟨hstart, fun i hi => ?_⟩
    have hshell : itemShell i ∈ List.map itemShell _ := h ▸ List.mem_map_of_mem hi
    obtain ⟨j, hj, hji⟩ := List.mem_map.1 hshell
    obtain ⟨hspread, hdata⟩ := Prod.mk.inj hji
    exact hspread ▸ hdata ▸ hitems j hj

theorem tidy_of_becomes {element : String} {b b' : Block} (h : Becomes element b b') :
    b'.Tidy := by
  cases h <;> trivial

/-- Conversion keeps every block tidy, and gives data only to callouts. -/
theorem normalButCallouts_convertRoot (element : String) {r : Root} (h : r.NormalButCallouts) :
    (convertRoot element r).value.NormalButCallouts where
  tidy b' hb' := by
    obtain ⟨b, hb, hbecomes | hkept | htrimmed⟩ := exists_of_mem_walk_convertRoot element hb'
    · exact tidy_of_becomes hbecomes
    · exact tidy_of_kept hkept (h.tidy b hb)
    · exact tidy_of_trimmed htrimmed (h.tidy b hb)
  noData b' hb' hcallout := by
    obtain ⟨b, hb, hbecomes | hkept | htrimmed⟩ := exists_of_mem_walk_convertRoot element hb'
    · cases hbecomes with
      | @unmarked cs d => simpa [Block.data] using h.noData (.quote cs d) hb rfl
      | callout => cases hcallout
      | marked => cases hcallout
    · cases hkept with
      | leaf => exact h.noData b' hb hcallout
      | @list ordered start spread is is' d =>
        simpa [Block.data] using h.noData (.list ordered start spread is d) hb rfl
    · cases htrimmed <;> simpa [Block.data] using h.noData _ hb rfl

end Callout

namespace Markdown

/-- **The form of documents.** A parse tree that starts at a document makes a
document in normal form, and converting a document in normal form leaves it
so, but for the callouts that it makes and what they carry. -/
theorem normal_document :
    (∀ cs : List Node, ∃ parsed, toRoot? (.mk .document cs) = some parsed
      ∧ parsed.value.Normal)
      ∧ ∀ (element : String) (r : Root), r.Normal →
          (Callout.convertRoot element r).value.NormalButCallouts := by
  refine ⟨fun cs => ⟨rootOf cs, rfl, normal_rootOf cs⟩, fun element r h => ?_⟩
  exact Callout.normalButCallouts_convertRoot element ⟨h.tidy, fun b hb _ => h.noData b hb⟩

/-- Nodes that stand where they should not, with texts cut at every turn, empty
titles, loose ends in the info of code, and a marked quote. -/
def raggedNodes : List Node :=
  [.mk .paragraph [.leaf (.text ""), .mk .escaped [.leaf .softBreak, .leaf .table],
      .mk (.link "/" "") [.leaf (.text "a"), .leaf .footnoteReference, .leaf (.text "b")]],
    .mk (.codeBlock "  c  d e " "\n") [.leaf (.text "x")],
    .mk (.list true 1 false) [.mk .blockQuote [.leaf .paragraph], .leaf (.text "y")],
    .mk .blockQuote
      [.mk .paragraph [.leaf (.text "[!a"), .leaf (.text "] "), .leaf .lineBreak]]]

theorem normal_document_ragged :
    ∃ parsed, toRoot? (.mk .document raggedNodes) = some parsed ∧ parsed.value.Normal
      ∧ (Callout.convertRoot "div" parsed.value).value.NormalButCallouts := by
  obtain ⟨parsed, hparsed, hnormal⟩ := normal_document.1 raggedNodes
  exact ⟨parsed, hparsed, hnormal, normal_document.2 "div" parsed.value hnormal⟩

end Markdown

end Marginalia
