/-
Marginalia.Proofs.Markdown.Pruning — nodes that are dropped.

A node that has no counterpart in a document where it stands is dropped with
everything below it. `prune` takes these nodes out of a parse tree, and
`removed` lists them.

`pruned_document`: a parse tree and what is left of it after pruning make the
same document. The pruned tree makes it without a note in the log; the whole
tree is noted for each node that was taken out, in order, but for front
matter among blocks. So what is in the dropped nodes has no part in the
document.

Front matter below a paragraph is dropped like any other node there, and the
log says so (`strayFrontMatter_is_noted`).
-/
import Marginalia.Proofs.Markdown.Context

namespace Marginalia.Markdown

/-! ## 1. Pruning -/

mutual

/-- A node without what is dropped below it, or nothing if it is dropped itself. -/
def Node.prune (c : Context) : Node → Option Node
  | .mk kind inside =>
    match c.enter kind with
    | some c' => some (.mk kind (pruneAll c' inside))
    | none => none

/-- The nodes without those that are dropped where they stand, at every depth. -/
def pruneAll (c : Context) : List Node → List Node
  | [] => []
  | n :: ns => (n.prune c).toList ++ pruneAll c ns

end

/-- A node that is dropped, with what was expected in its place. -/
structure Removal where
  /-- What was expected. -/
  context : Context
  /-- The node, with everything below it. -/
  node : Node

mutual

/-- What is dropped of a node: the node itself, or what is dropped below it. -/
def Node.removed (c : Context) : Node → List Removal
  | .mk kind inside =>
    match c.enter kind with
    | some c' => removedAll c' inside
    | none => [⟨c, .mk kind inside⟩]

/-- The nodes that are dropped where they stand, in document order. What is below
them goes with them and is not listed. -/
def removedAll (c : Context) : List Node → List Removal
  | [] => []
  | n :: ns => n.removed c ++ removedAll c ns

end

namespace Removal

/-- What the log notes. -/
def note (r : Removal) : Dropped := r.context.dropped

/-- Does the log mention the node? -/
def isMentioned (r : Removal) : Bool := r.context.mentions r.node.kind

end Removal

variable {c c' : Context} {kind : Kind}

theorem pruneAll_cons_kept (h : c.enter kind = some c') (inside ns : List Node) :
    pruneAll c (.mk kind inside :: ns) = .mk kind (pruneAll c' inside) :: pruneAll c ns := by
  simp only [pruneAll, Node.prune, h, Option.toList_some, List.singleton_append]

theorem pruneAll_cons_dropped (h : c.enter kind = none) (inside ns : List Node) :
    pruneAll c (.mk kind inside :: ns) = pruneAll c ns := by
  simp only [pruneAll, Node.prune, h, Option.toList_none, List.nil_append]

theorem removedAll_cons_kept (h : c.enter kind = some c') (inside ns : List Node) :
    removedAll c (.mk kind inside :: ns) = removedAll c' inside ++ removedAll c ns := by
  simp only [removedAll, Node.removed, h]

theorem removedAll_cons_dropped (h : c.enter kind = none) (inside ns : List Node) :
    removedAll c (.mk kind inside :: ns) = ⟨c, .mk kind inside⟩ :: removedAll c ns := by
  simp only [removedAll, Node.removed, h, List.singleton_append]

/-! ## 2. What pruning keeps and what it leaves out -/

/-- Pruned, nodes come to the same. -/
theorem sameReading_pruneAll (ns : List Node) : ∀ c, SameReading c (pruneAll c ns) ns := by
  induction ns using nodes_induction with
  | nil => exact fun c => .refl c []
  | cons kind inside ns ihinside ih =>
    intro c
    cases henter : c.enter kind with
    | some c' =>
      have hinside : SameReading (c.below kind) (pruneAll c' inside) inside := by
        rw [Context.below_of_enter henter]
        exact ihinside c'
      rw [pruneAll_cons_kept henter]
      exact (hinside.below kind).append (ih c)
    | none =>
      have hdropped : SameReading c [] [.mk kind inside] :=
        (SameReading.dropped henter inside).symm
      rw [pruneAll_cons_dropped henter]
      exact hdropped.append (ih c)

/-- The log notes the nodes that are dropped, one by one. -/
theorem notes_eq_removedAll (ns : List Node) : ∀ c,
    notes c ns = ((removedAll c ns).filter Removal.isMentioned).map Removal.note := by
  induction ns using nodes_induction with
  | nil =>
    intro c
    cases c <;> rfl
  | cons kind inside ns ihinside ih =>
    intro c
    have hsplit : notes c (.mk kind inside :: ns) = notes c [.mk kind inside] ++ notes c ns :=
      notes_append c [.mk kind inside] ns
    cases henter : c.enter kind with
    | some c' =>
      rw [hsplit, notes_kept henter, removedAll_cons_kept henter, List.filter_append,
        List.map_append, ihinside c', ih c]
    | none =>
      rw [hsplit, notes_dropped henter, removedAll_cons_dropped henter, List.filter_cons, ih c]
      cases hmentions : c.mentions kind with
      | true => simp [Removal.isMentioned, Removal.note, Node.kind, hmentions]
      | false => simp [Removal.isMentioned, Node.kind, hmentions]

/-- Pruning takes out all that is dropped. -/
theorem removedAll_pruneAll (ns : List Node) : ∀ c, removedAll c (pruneAll c ns) = [] := by
  induction ns using nodes_induction with
  | nil => exact fun _ => rfl
  | cons kind inside ns ihinside ih =>
    intro c
    cases henter : c.enter kind with
    | some c' =>
      rw [pruneAll_cons_kept henter, removedAll_cons_kept henter, ihinside c', ih c]; rfl
    | none => rw [pruneAll_cons_dropped henter, ih c]

/-! ## 3. Documents -/

theorem value_rootOf_pruneAll (cs : List Node) :
    (rootOf (pruneAll .blocks cs)).value = (rootOf cs).value :=
  congrArg Root.mk (sameReading_pruneAll cs .blocks)

/-- **Dropped nodes do not matter.** A parse tree and its pruned form make the
same document, the pruned form without a note. The log notes each node that
pruning takes out, in order, but for front matter among blocks. Parse trees
that differ in what pruning takes out only make the same document. -/
theorem pruned_document (cs : List Node) :
    ∃ whole pruned : Traced Dropped Root,
      toRoot? (.mk .document cs) = some whole
        ∧ toRoot? (.mk .document (pruneAll .blocks cs)) = some pruned
        ∧ pruned.value = whole.value
        ∧ pruned.log = []
        ∧ whole.log = ((removedAll .blocks cs).filter Removal.isMentioned).map Removal.note
        ∧ ∀ (cs' : List Node) (other : Traced Dropped Root),
            pruneAll .blocks cs' = pruneAll .blocks cs →
              toRoot? (.mk .document cs') = some other → other.value = whole.value := by
  refine ⟨rootOf cs, rootOf (pruneAll .blocks cs), rfl, rfl, value_rootOf_pruneAll cs,
    ?_, ?_, ?_⟩
  · rw [log_rootOf, notes_eq_removedAll, removedAll_pruneAll]
    rfl
  · rw [log_rootOf, notes_eq_removedAll]
  · intro cs' other hprune hother
    obtain rfl := Option.some.inj hother
    rw [← value_rootOf_pruneAll cs', hprune, value_rootOf_pruneAll cs]

/-- Nodes with something odd in them wherever it is dropped: in front matter, in a
table, in a superscript between texts, and in a footnote below a table that is
an item. What is below an image is not dropped. -/
def strewn (odd : List Node) : List Node :=
  [.mk (.frontMatter "---") odd,
    .mk .paragraph [.leaf (.text "a"), .mk .superscript odd, .leaf (.text "b"),
      .mk (.image "/" "") [.mk .superscript [.leaf (.text "c")]]],
    .mk .table odd,
    .mk (.list true 1 false) [.mk .table [.mk .blockQuote [], .mk .footnoteDefinition odd]]]

theorem pruned_document_strewn :
    ∃ whole other : Traced Dropped Root,
      toRoot? (.mk .document (strewn [])) = some whole
        ∧ toRoot? (.mk .document (strewn [.mk .paragraph [.leaf .underline]])) = some other
        ∧ other.value = whole.value
        ∧ other.log = [.inline, .block, .block] := by
  obtain ⟨whole, -, hwhole, -, -, -, -, hcontent⟩ := pruned_document (strewn [])
  obtain ⟨other, -, hother, -, -, -, hlog, -⟩ :=
    pruned_document (strewn [.mk .paragraph [.leaf .underline]])
  have hprune : pruneAll .blocks (strewn [.mk .paragraph [.leaf .underline]])
      = pruneAll .blocks (strewn []) := rfl
  refine ⟨whole, other, hwhole, hother, hcontent _ other hprune hother, ?_⟩
  rw [hlog]
  decide

/-- Front matter below a paragraph is dropped, and not in silence. -/
theorem strayFrontMatter_is_noted :
    ∃ parsed : Traced Dropped Root,
      toRoot? (.mk .document [.mk .paragraph [.leaf (.frontMatter "---")]]) = some parsed
        ∧ parsed.log
          ≠ ((removedAll .blocks [.mk .paragraph [.leaf (.frontMatter "---")]]).filter
              fun r => !r.node.kind.isFrontMatter).map Removal.note := by
  refine ⟨_, rfl, ?_⟩
  decide

end Marginalia.Markdown
