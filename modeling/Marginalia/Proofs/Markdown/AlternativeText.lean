/-
Marginalia.Proofs.Markdown.AlternativeText — the text of an image and the
text of the inlines that it would hold.

What stands below an image becomes its alternative text: the texts, code and
line breaks of all nodes below it, one behind the other. What stands below a
link becomes inlines, and these have a text as well, `flattenAll`.

`plainTexts_eq_flattenAll`: the two are the same text for nodes that all become
inlines, as long as nothing hides below a leaf. An image among the nodes is
read as literal text on both sides, once as a part of the whole and once for
its own alternative text.
-/
import Marginalia.Proofs.Markdown.Context
import Marginalia.Proofs.Markdown.NormalForm

namespace Marginalia

/-! ## 1. The text of inlines -/

mutual

/-- The text of an inline. Raw HTML has none. -/
def Inline.flatten : Inline → String
  | .text value | .code value => value
  | .lineBreak => "\n"
  | .image _ _ alt => alt
  | .html _ => ""
  | .emphasis cs | .strong cs | .delete cs | .link _ _ cs => flattenAll cs

/-- The texts of inlines, one behind the other. -/
def flattenAll : List Inline → String
  | [] => ""
  | i :: is => i.flatten ++ flattenAll is

end

theorem flattenAll_append (is js : List Inline) :
    flattenAll (is ++ js) = flattenAll is ++ flattenAll js := by
  induction is with
  | nil => rw [List.nil_append, flattenAll, String.empty_append]
  | cons i is ih => rw [List.cons_append, flattenAll, flattenAll, ih, String.append_assoc]

theorem flattenAll_singleton (i : Inline) : flattenAll [i] = i.flatten := by
  rw [flattenAll, flattenAll, String.append_empty]

namespace Markdown

theorem flattenAll_consInline (i : Inline) (is : List Inline) :
    flattenAll (consInline i is) = i.flatten ++ flattenAll is := by
  unfold consInline
  split
  · simp only [flattenAll, Inline.flatten, String.append_assoc]
  · rw [flattenAll]

/-- Joining texts leaves the text as it is. -/
theorem flattenAll_mergeTexts (is : List Inline) :
    flattenAll (mergeTexts is) = flattenAll is := by
  induction is with
  | nil => rfl
  | cons i is ih => rw [mergeTexts, flattenAll_consInline, ih, flattenAll]

/-! ## 2. The text of nodes -/

namespace Node

/-- The literal text of the node itself. -/
def ownText : Node → String
  | .mk (.text s) _ | .mk (.code s) _ => s
  | .mk .softBreak _ | .mk .lineBreak _ => "\n"
  | .mk _ _ => ""

/-- Does the node become an inline, with nothing below it unless it may hold
something? -/
def isSoundInline : Node → Bool
  | .mk .emph _ | .mk .strong _ | .mk .strikethrough _ | .mk (.link ..) _ | .mk (.image ..) _
  | .mk .escaped _ => true
  | .mk (.text _) inside | .mk .softBreak inside | .mk .lineBreak inside
  | .mk (.code _) inside | .mk (.htmlInline _) inside => inside.isEmpty
  | .mk _ _ => false

end Node

theorem plainText_mk (kind : Kind) (inside : List Node) :
    plainText (.mk kind inside) = (Node.mk kind inside).ownText ++ plainTexts inside := by
  cases kind <;> simp only [plainText, Node.ownText, String.empty_append]

theorem withinAll_cons (kind : Kind) (inside ns : List Node) :
    withinAll (.mk kind inside :: ns)
      = .mk kind inside :: (withinAll inside ++ withinAll ns) := by
  rw [withinAll, Node.within, List.cons_append]

/-- The literal text of nodes is that of all nodes below, in order. -/
theorem plainTexts_eq_join (ns : List Node) :
    plainTexts ns = String.join ((withinAll ns).map Node.ownText) := by
  induction ns using nodes_induction with
  | nil => rfl
  | cons kind inside ns ihinside ih =>
    rw [withinAll_cons, List.map_cons, String.join_cons, List.map_append, String.join_append,
      ← ihinside, ← ih, plainTexts, plainText_mk, String.append_assoc]

/-! ## 3. Both texts -/

/-- One node: if the two texts agree below it, they agree for it. -/
theorem plainText_eq_flattenAll {kind : Kind} {inside : List Node}
    (h : (Node.mk kind inside).isSoundInline = true)
    (hinside : plainTexts inside = flattenAll (inlinesOfAll inside).value) :
    plainText (.mk kind inside) = flattenAll (inlinesOf (.mk kind inside)).value := by
  cases kind with
  | emph | strong | strikethrough | link =>
    simp only [plainText, inlinesOf, Traced.value_bind, Traced.value_pure,
      flattenAll_singleton, Inline.flatten, flattenAll_mergeTexts]
    exact hinside
  | image =>
    simp only [plainText, inlinesOf, Traced.value_pure, flattenAll_singleton, Inline.flatten]
  | escaped => exact hinside
  | text | softBreak | lineBreak | code | htmlInline =>
    have hnone : inside = [] := List.isEmpty_iff.1 h
    rw [hnone]
    simp only [plainText, plainTexts, inlinesOf, Traced.value_pure, flattenAll_singleton,
      Inline.flatten, String.append_empty]
  | _ => cases h

theorem plainTexts_eq_flattenAll_inlinesOfAll (ns : List Node) :
    (∀ n ∈ withinAll ns, n.isSoundInline = true) →
      plainTexts ns = flattenAll (inlinesOfAll ns).value := by
  induction ns using nodes_induction with
  | nil => exact fun _ => rfl
  | cons kind inside ns ihinside ih =>
    intro h
    rw [withinAll_cons] at h
    obtain ⟨hnode, hrest⟩ := List.forall_mem_cons.1 h
    obtain ⟨hbelow, hbehind⟩ := List.forall_mem_append.1 hrest
    have hone : plainText (.mk kind inside) = flattenAll (inlinesOf (.mk kind inside)).value :=
      plainText_eq_flattenAll hnode (ihinside hbelow)
    have hvalue : (inlinesOfAll (.mk kind inside :: ns)).value
        = (inlinesOf (.mk kind inside)).value ++ (inlinesOfAll ns).value := rfl
    rw [hvalue, flattenAll_append, plainTexts, hone, ih hbehind]

/-- **The alternative text is the text of the inlines.** For nodes that become
inlines, with nothing below a leaf, the literal text that an image takes from
them is the text of the inlines that they become elsewhere. -/
theorem plainTexts_eq_flattenAll {cs : List Node}
    (h : ∀ n ∈ withinAll cs, n.isSoundInline = true) :
    plainTexts cs = String.join ((withinAll cs).map Node.ownText)
      ∧ plainTexts cs = flattenAll (toInlines cs).value := by
  refine ⟨plainTexts_eq_join cs, ?_⟩
  rw [value_toInlines, flattenAll_mergeTexts]
  exact plainTexts_eq_flattenAll_inlinesOfAll cs h

/-- An image below a link, a break below emphasis, and raw HTML, which has no text. -/
def nestedNodes : List Node :=
  [.mk .emph [.leaf (.text "a"), .leaf .softBreak, .mk .escaped [.leaf (.text "*")]],
    .mk (.link "/" "") [.leaf (.code "b"),
      .mk (.image "/" "") [.mk .strong [.leaf (.text "c")], .leaf .lineBreak]],
    .leaf (.htmlInline "<br>")]

theorem plainTexts_eq_flattenAll_nested :
    (∀ n ∈ withinAll nestedNodes, n.isSoundInline = true)
      ∧ plainTexts nestedNodes = "a\n*bc\n"
      ∧ flattenAll (toInlines nestedNodes).value = "a\n*bc\n" := by
  have hsound : ∀ n ∈ withinAll nestedNodes, n.isSoundInline = true :=
    List.all_eq_true.1 (by decide)
  have htext : plainTexts nestedNodes = "a\n*bc\n" := by decide
  obtain ⟨-, hflat⟩ := plainTexts_eq_flattenAll hsound
  exact ⟨hsound, htext, by rw [← hflat, htext]⟩

end Markdown

end Marginalia
