/-
Marginalia.Proofs.Markdown.Context — reading nodes where they stand.

Whether a node has a counterpart in a document depends on what is expected
where it stands: below a document blocks are, below a list items, below a
paragraph inlines. Below an image nothing is converted, and only the literal
text counts. `Context.enter` says in one table which nodes are kept in which
context, and what is expected below them.

With contexts the four functions that read nodes (`blocksOf`, `itemsOf`,
`toInlines`, `plainTexts`) obey the same laws. What nodes come to is settled
node by node, a node that is kept by what the nodes below it come to, and a
node that is dropped comes to nothing (`SameReading.append`,
`SameReading.below`, `SameReading.dropped`). The log is put together in the
same way (`notes_append`, `notes_kept`, `notes_dropped`). Statements about
reading are then inductions on the nodes (`nodes_induction`) that need not
look into the functions again.
-/
import Marginalia.Markdown.ToTree

namespace Marginalia.Markdown

/-! ## 1. Contexts -/

/-- Is the node front matter? -/
def Kind.isFrontMatter : Kind → Bool
  | .frontMatter _ => true
  | _ => false

/-- What is expected where a node stands. -/
inductive Context where
  /-- Blocks: below a document, a quote, or a child of a list. -/
  | blocks
  /-- Items: below a list. -/
  | items
  /-- Inlines: below a paragraph, a heading, or an inline that holds inlines. -/
  | inlines
  /-- Literal text at most: below an image, below what holds nothing, and below
  what is dropped. -/
  | literal
  deriving DecidableEq, Repr

namespace Context

/-- What is expected below a node that is kept, and nothing for a node that is
dropped. -/
def enter : Context → Kind → Option Context
  | .blocks, .paragraph | .blocks, .heading _ => some .inlines
  | .blocks, .blockQuote => some .blocks
  | .blocks, .list .. => some .items
  | .blocks, .codeBlock .. | .blocks, .htmlBlock _ | .blocks, .thematicBreak => some .literal
  | .blocks, _ => none
  | .items, _ => some .blocks
  | .inlines, .emph | .inlines, .strong | .inlines, .strikethrough | .inlines, .link ..
  | .inlines, .escaped => some .inlines
  | .inlines, .text _ | .inlines, .softBreak | .inlines, .lineBreak | .inlines, .code _
  | .inlines, .htmlInline _ | .inlines, .image .. => some .literal
  | .inlines, _ => none
  | .literal, _ => some .literal

/-- What is expected below a node, kept or dropped. -/
def below (c : Context) (kind : Kind) : Context := (c.enter kind).getD .literal

theorem below_of_enter {c c' : Context} {kind : Kind} (h : c.enter kind = some c') :
    c.below kind = c' := by
  rw [below, h, Option.getD_some]

/-- What the log notes for a node that is dropped. -/
def dropped : Context → Dropped
  | .inlines => .inline
  | _ => .block

/-- Does the log note that a node of some kind is dropped? Front matter is passed
over where it may stand, among blocks. -/
def mentions (c : Context) (kind : Kind) : Bool := !(c == .blocks && kind.isFrontMatter)

end Context

/-- What holds of no nodes, and of a node in front of others whenever it holds of
the nodes below it and of the others, holds of all nodes. -/
@[elab_as_elim]
theorem nodes_induction {P : List Node → Prop} (nil : P [])
    (cons : ∀ kind inside ns, P inside → P ns → P (.mk kind inside :: ns)) : ∀ ns, P ns
  | [] => nil
  | .mk kind inside :: ns =>
    cons kind inside ns (nodes_induction nil cons inside) (nodes_induction nil cons ns)

/-! ## 2. What nodes come to -/

/-- In the context the nodes come to the same. Inlines are compared with their texts
joined: what is below an escaped node is joined with what is beside it, so that
more than this cannot be asked of them one by one. -/
def SameReading : Context → List Node → List Node → Prop
  | .blocks, ms, ns => (blocksOf ms).value = (blocksOf ns).value
  | .items, ms, ns => ∀ spread, (itemsOf spread ms).value = (itemsOf spread ns).value
  | .inlines, ms, ns => (toInlines ms).value = (toInlines ns).value
  | .literal, ms, ns => plainTexts ms = plainTexts ns

theorem blocksOf_append (ms ns : List Node) :
    blocksOf (ms ++ ns)
      = ⟨(blocksOf ms).value ++ (blocksOf ns).value,
        (blocksOf ms).log ++ (blocksOf ns).log⟩ := by
  induction ms with
  | nil => rfl
  | cons m ms ih =>
    rw [List.cons_append, blocksOf, ih]
    simp [blocksOf, bind, pure]

theorem itemsOf_append (spread : Bool) (ms ns : List Node) :
    itemsOf spread (ms ++ ns)
      = ⟨(itemsOf spread ms).value ++ (itemsOf spread ns).value,
          (itemsOf spread ms).log ++ (itemsOf spread ns).log⟩ := by
  induction ms with
  | nil => rfl
  | cons m ms ih =>
    rw [List.cons_append, itemsOf, ih]
    simp [itemsOf, bind, pure]

theorem inlinesOfAll_append (ms ns : List Node) :
    inlinesOfAll (ms ++ ns)
      = ⟨(inlinesOfAll ms).value ++ (inlinesOfAll ns).value,
          (inlinesOfAll ms).log ++ (inlinesOfAll ns).log⟩ := by
  induction ms with
  | nil => rfl
  | cons m ms ih =>
    rw [List.cons_append, inlinesOfAll, ih]
    simp [inlinesOfAll, bind, pure]

theorem plainTexts_append (ms ns : List Node) :
    plainTexts (ms ++ ns) = plainTexts ms ++ plainTexts ns := by
  induction ms with
  | nil => simp [plainTexts]
  | cons m ms ih => rw [List.cons_append, plainTexts, plainTexts, ih, String.append_assoc]

theorem value_toInlines (ns : List Node) :
    (toInlines ns).value = mergeTexts (inlinesOfAll ns).value := rfl

namespace SameReading

variable {c : Context} {ls ms ns ms' ns' : List Node}

theorem refl (c : Context) (ns : List Node) : SameReading c ns ns := by
  cases c with
  | items => exact fun _ => rfl
  | _ => rfl

theorem symm (h : SameReading c ms ns) : SameReading c ns ms := by
  cases c with
  | items => exact fun spread => (h spread).symm
  | _ => exact Eq.symm h

/-- Side by side, nodes come to what they come to by themselves; texts at the seam
are joined. -/
theorem append (h : SameReading c ms ns) (h' : SameReading c ms' ns') :
    SameReading c (ms ++ ms') (ns ++ ns') := by
  cases c with
  | blocks =>
    change (blocksOf _).value = (blocksOf _).value
    rw [blocksOf_append, blocksOf_append, h, h']
  | items =>
    intro spread
    rw [itemsOf_append, itemsOf_append, h spread, h' spread]
  | inlines =>
    change mergeTexts (inlinesOfAll _).value = mergeTexts (inlinesOfAll _).value
    rw [inlinesOfAll_append, inlinesOfAll_append]
    exact mergeTexts_append_congr h h'
  | literal =>
    change plainTexts _ = plainTexts _
    rw [plainTexts_append, plainTexts_append, h, h']

/-- A node comes to the same when what is below it comes to the same in the context
that it opens. -/
theorem below (kind : Kind) (h : SameReading (c.below kind) ms ns) :
    SameReading c [.mk kind ms] [.mk kind ns] := by
  cases c with
  | blocks =>
    change (blockOf (.mk kind ms)).value.toList ++ []
      = (blockOf (.mk kind ns)).value.toList ++ []
    cases kind with
    | paragraph =>
      have hinlines : (toInlines ms).value = (toInlines ns).value := h
      rw [blockOf_paragraph, blockOf_paragraph, hinlines]
    | heading level =>
      have hinlines : (toInlines ms).value = (toInlines ns).value := h
      rw [blockOf_heading, blockOf_heading, hinlines]
    | blockQuote =>
      have hblocks : (blocksOf ms).value = (blocksOf ns).value := h
      rw [blockOf_blockQuote, blockOf_blockQuote, hblocks]
    | list ordered start tight =>
      have hitems : (itemsOf (!tight) ms).value = (itemsOf (!tight) ns).value := h (!tight)
      rw [blockOf_list, blockOf_list, hitems]
    | _ => rfl
  | items =>
    intro spread
    have hblocks : (blocksOf ms).value = (blocksOf ns).value := h
    rw [itemsOf_cons, itemsOf_cons, hblocks]
  | inlines =>
    change mergeTexts ((inlinesOf (.mk kind ms)).value ++ [])
      = mergeTexts ((inlinesOf (.mk kind ns)).value ++ [])
    rw [List.append_nil, List.append_nil]
    cases kind with
    | emph | strong | strikethrough | link =>
      have hinlines : mergeTexts (inlinesOfAll ms).value
          = mergeTexts (inlinesOfAll ns).value := h
      simp only [inlinesOf, Traced.value_bind, Traced.value_pure, hinlines]
    | escaped => exact h
    | image =>
      have htexts : plainTexts ms = plainTexts ns := h
      simp only [inlinesOf, htexts]
    | _ => rfl
  | literal =>
    have htexts : plainTexts ms = plainTexts ns := h
    change plainText (.mk kind ms) ++ "" = plainText (.mk kind ns) ++ ""
    cases kind <;> simp only [plainText, htexts]

/-- A node that is dropped comes to nothing. -/
theorem dropped {kind : Kind} (h : c.enter kind = none) (inside : List Node) :
    SameReading c [.mk kind inside] [] := by
  cases c with
  | blocks =>
    cases kind <;> first | rfl | cases h
  | inlines =>
    cases kind <;> first | rfl | cases h
  | items => cases h
  | literal => cases h

end SameReading

/-! ## 3. What the log notes -/

/-- What is noted when nodes are read in the context. -/
def notes : Context → List Node → List Dropped
  | .blocks, ns => (blocksOf ns).log
  | .items, ns => (itemsOf false ns).log
  | .inlines, ns => (toInlines ns).log
  | .literal, _ => []

theorem log_itemsOf (spread : Bool) (ns : List Node) :
    (itemsOf spread ns).log = notes .items ns := by
  change _ = (itemsOf false ns).log
  induction ns with
  | nil => rfl
  | cons n ns ih =>
    obtain ⟨kind, inside⟩ := n
    simp [itemsOf, itemOf, ih]

/-- What is noted of nodes is noted of one after the other. -/
theorem notes_append (c : Context) (ms ns : List Node) :
    notes c (ms ++ ns) = notes c ms ++ notes c ns := by
  cases c with
  | blocks => simp [notes, blocksOf_append]
  | items => simp [notes, itemsOf_append]
  | inlines => simp [notes, toInlines, inlinesOfAll_append]
  | literal => rfl

theorem notes_block (n : Node) : notes .blocks [n] = (blockOf n).log := List.append_nil _

theorem notes_inline (n : Node) : notes .inlines [n] = (inlinesOf n).log := by
  change ((inlinesOf n).log ++ []) ++ [] = _
  rw [List.append_nil, List.append_nil]

/-- Of a node that is kept, what is noted is noted below it. -/
theorem notes_kept {c c' : Context} {kind : Kind} (h : c.enter kind = some c')
    (inside : List Node) : notes c [.mk kind inside] = notes c' inside := by
  cases c with
  | blocks =>
    rw [notes_block]
    cases kind with
    | paragraph | heading | blockQuote =>
      cases h
      exact List.append_nil _
    | list ordered start tight =>
      cases h
      rw [← log_itemsOf (!tight)]
      exact List.append_nil _
    | codeBlock | htmlBlock | thematicBreak =>
      cases h
      rfl
    | _ => cases h
  | items =>
    cases h
    change ((blocksOf inside).log ++ []) ++ [] = (blocksOf inside).log
    rw [List.append_nil, List.append_nil]
  | inlines =>
    rw [notes_inline]
    cases kind with
    | emph | strong | strikethrough | link =>
      cases h
      rfl
    | escaped =>
      cases h
      exact (List.append_nil _).symm
    | text | softBreak | lineBreak | code | htmlInline | image =>
      cases h
      rfl
    | _ => cases h
  | literal =>
    cases h
    rfl

/-- A node that is dropped is noted by itself, whatever is below it. -/
theorem notes_dropped {c : Context} {kind : Kind} (h : c.enter kind = none)
    (inside : List Node) :
    notes c [.mk kind inside] = if c.mentions kind then [c.dropped] else [] := by
  cases c with
  | blocks => cases kind <;> first | rfl | cases h
  | inlines => cases kind <;> first | rfl | cases h
  | items => cases h
  | literal => cases h

theorem log_rootOf (cs : List Node) : (rootOf cs).log = notes .blocks cs := by
  simp [rootOf, notes]

end Marginalia.Markdown
