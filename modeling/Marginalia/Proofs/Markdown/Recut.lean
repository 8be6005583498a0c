/-
Marginalia.Proofs.Markdown.Recut — running text cut another way.

A parser cuts running text where it looked for something: a text may come in
many nodes or in one, a line break inside it as a node of its own or as a line
feed, and an escaped character with a node around it or without. `Recut` is one
change of this kind, anywhere below a paragraph, a heading or an inline, below
an image as well, and anywhere below what is dropped.

`recut_document`: parse trees that changes of this kind lead from one to the
other, in either direction and in any number, make the same document with the
same log.

## How the proof goes

One change leaves what the nodes come to as it is, and what is noted of them
(`sameReading_of_recut`, `notes_of_recut`): by induction on where it stands. At
the place itself there are three cases, each in the two contexts of running
text. Where the parts become inlines they become one text again, joined with
what is beside them; below an image their texts are put one behind the other.
-/
import Mathlib.Logic.Relation
import Marginalia.Proofs.Markdown.Context

namespace Marginalia.Markdown

/-! ## 1. Changes -/

/-- Is running text expected, as inlines or as literal text? -/
def Context.isRunning : Context → Bool
  | .inlines | .literal => true
  | .blocks | .items => false

theorem Context.isRunning_iff {c : Context} :
    c.isRunning = true ↔ c = .inlines ∨ c = .literal := by
  cases c <;> simp [Context.isRunning]

/-- Texts that stand side by side, each a node. -/
def textNodes (parts : List String) : List Node := parts.map fun part => .leaf (.text part)

/-- Running text is cut another way in one place. -/
inductive Recut : Context → List Node → List Node → Prop where
  /-- A text is cut into one or more texts, some of them empty perhaps. -/
  | text {c : Context} (hc : c.isRunning = true) (parts : List String) (hparts : parts ≠ []) :
      Recut c [.leaf (.text (String.join parts))] (textNodes parts)
  /-- A soft line break becomes a text. -/
  | softBreak {c : Context} (hc : c.isRunning = true) :
      Recut c [.leaf .softBreak] [.leaf (.text "\n")]
  /-- What is escaped stands by itself. -/
  | escaped {c : Context} (hc : c.isRunning = true) (inside : List Node) :
      Recut c [.mk .escaped inside] inside
  /-- The place is among other nodes. -/
  | beside {c : Context} {ms ns : List Node} (before after : List Node) (h : Recut c ms ns) :
      Recut c (before ++ ms ++ after) (before ++ ns ++ after)
  /-- The place is below a node. -/
  | inside {c : Context} {ms ns : List Node} (kind : Kind) (h : Recut (c.below kind) ms ns) :
      Recut c [.mk kind ms] [.mk kind ns]

/-! ## 2. The parts of a text -/

theorem inlinesOfAll_textNodes (parts : List String) :
    (inlinesOfAll (textNodes parts)).value = parts.map .text := by
  induction parts with
  | nil => rfl
  | cons part parts ih => exact congrArg (.text part :: ·) ih

theorem plainTexts_textNodes (parts : List String) :
    plainTexts (textNodes parts) = String.join parts := by
  induction parts with
  | nil => rfl
  | cons part parts ih =>
    have hcons : plainTexts (textNodes (part :: parts))
        = part ++ "" ++ plainTexts (textNodes parts) := rfl
    rw [hcons, ih, String.append_empty, String.join_cons]

theorem notes_textNodes {c : Context} (hc : c.isRunning = true) (parts : List String) :
    notes c (textNodes parts) = [] := by
  induction parts with
  | nil => cases c <;> rfl
  | cons part parts ih =>
    have hsplit := notes_append c [.leaf (.text part)] (textNodes parts)
    have hpart : notes c [.leaf (.text part)] = [] := by
      obtain rfl | rfl := Context.isRunning_iff.1 hc <;> rfl
    rw [ih, hpart] at hsplit
    exact hsplit

/-- The parts of a text come to the text. -/
theorem sameReading_textNodes {c : Context} (hc : c.isRunning = true) (parts : List String)
    (hparts : parts ≠ []) :
    SameReading c [.leaf (.text (String.join parts))] (textNodes parts) := by
  obtain rfl | rfl := Context.isRunning_iff.1 hc
  · change mergeTexts [.text (String.join parts)]
      = mergeTexts (inlinesOfAll (textNodes parts)).value
    rw [inlinesOfAll_textNodes]
    cases parts with
    | nil => exact absurd rfl hparts
    | cons part parts =>
      rw [mergeTexts_texts]
      rfl
  · change String.join parts ++ "" ++ "" = plainTexts (textNodes parts)
    rw [plainTexts_textNodes, String.append_empty, String.append_empty]

/-- What is escaped comes to what it comes to without the escape. -/
theorem sameReading_escaped {c : Context} (hc : c.isRunning = true) (inside : List Node) :
    SameReading c [.mk .escaped inside] inside := by
  obtain rfl | rfl := Context.isRunning_iff.1 hc
  · change mergeTexts ((inlinesOfAll inside).value ++ [])
      = mergeTexts (inlinesOfAll inside).value
    rw [List.append_nil]
  · change plainTexts inside ++ "" = plainTexts inside
    rw [String.append_empty]

/-! ## 3. One change, and any number of them -/

variable {c : Context} {ms ns : List Node}

theorem sameReading_of_recut (h : Recut c ms ns) : SameReading c ms ns := by
  induction h with
  | text hc parts hparts => exact sameReading_textNodes hc parts hparts
  | softBreak hc => obtain rfl | rfl := Context.isRunning_iff.1 hc <;> rfl
  | escaped hc inside => exact sameReading_escaped hc inside
  | beside before after _ ih =>
    exact ((SameReading.refl _ before).append ih).append (.refl _ after)
  | inside kind _ ih => exact ih.below kind

theorem notes_of_recut (h : Recut c ms ns) : notes c ms = notes c ns := by
  induction h with
  | @text c hc parts hparts =>
    have hwhole : notes c (textNodes [String.join parts]) = [] := notes_textNodes hc _
    rw [notes_textNodes hc parts]
    exact hwhole
  | softBreak hc => obtain rfl | rfl := Context.isRunning_iff.1 hc <;> rfl
  | escaped hc inside =>
    obtain rfl | rfl := Context.isRunning_iff.1 hc
    · exact notes_kept rfl inside
    · rfl
  | beside before after _ ih => rw [notes_append, notes_append, notes_append, notes_append, ih]
  | @inside c ms ns kind _ ih =>
    cases henter : c.enter kind with
    | some c' =>
      rw [Context.below_of_enter henter] at ih
      rw [notes_kept henter, notes_kept henter, ih]
    | none => rw [notes_dropped henter, notes_dropped henter]

theorem rootOf_of_recut (h : Recut .blocks ms ns) : rootOf ms = rootOf ns := by
  have hvalue : (rootOf ms).value = (rootOf ns).value :=
    congrArg Root.mk (sameReading_of_recut h)
  have hlog : (rootOf ms).log = (rootOf ns).log := by
    rw [log_rootOf, log_rootOf, notes_of_recut h]
  exact congrArg₂ Traced.mk hvalue hlog

/-- **Where running text is cut does not matter.** Parse trees that differ in it
make the same document, and the log is the same. -/
theorem recut_document (h : Relation.EqvGen (Recut .blocks) ms ns) :
    ∃ parsed : Traced Dropped Root,
      toRoot? (.mk .document ms) = some parsed ∧ toRoot? (.mk .document ns) = some parsed := by
  have hroot : rootOf ms = rootOf ns := by
    induction h with
    | rel ms ns h => exact rootOf_of_recut h
    | refl ns => rfl
    | symm ms ns _ ih => exact ih.symm
    | trans ls ms ns _ _ ih ih' => exact ih.trans ih'
  exact ⟨rootOf ns, congrArg some hroot, rfl⟩

/-- A quote with a word, a soft line break below emphasis, and an image. -/
def quoted (word line alt : List Node) : List Node :=
  [.mk .blockQuote [.mk .paragraph (word ++ [.mk .emph line, .mk (.image "/" "") alt])]]

/-- The word is cut into three, an escape around the line break is taken off and the
break made a text, and the text of the image is put together again. -/
theorem recut_document_quoted :
    Relation.EqvGen (Recut .blocks)
        (quoted [.leaf (.text "ab")] [.mk .escaped [.leaf .softBreak]]
          (textNodes ["c", "", "d"]))
        (quoted (textNodes ["a", "", "b"]) [.leaf (.text "\n")] [.leaf (.text "cd")])
      ∧ ∃ parsed : Traced Dropped Root,
          toRoot? (.mk .document (quoted [.leaf (.text "ab")] [.mk .escaped [.leaf .softBreak]]
              (textNodes ["c", "", "d"]))) = some parsed
            ∧ toRoot? (.mk .document (quoted (textNodes ["a", "", "b"]) [.leaf (.text "\n")]
              [.leaf (.text "cd")])) = some parsed := by
  have hword : ∀ line alt, Recut .blocks (quoted [.leaf (.text "ab")] line alt)
      (quoted (textNodes ["a", "", "b"]) line alt) := by
    intro line alt
    have htext : Recut .inlines [.leaf (.text "ab")] (textNodes ["a", "", "b"]) :=
      .text rfl ["a", "", "b"] (by simp)
    exact .inside .blockQuote (.inside .paragraph (.beside [] _ htext))
  have hline : ∀ word line line' alt, Recut .inlines line line' →
      Recut .blocks (quoted word line alt) (quoted word line' alt) := by
    intro word line line' alt h
    have hemph : Recut .inlines [.mk .emph line] [.mk .emph line'] := .inside .emph h
    have hbeside := hemph.beside word [.mk (.image "/" "") alt]
    rw [List.append_assoc, List.append_assoc] at hbeside
    exact .inside .blockQuote (.inside .paragraph hbeside)
  have halt : ∀ word line, Recut .blocks (quoted word line [.leaf (.text "cd")])
      (quoted word line (textNodes ["c", "", "d"])) := by
    intro word line
    have htext : Recut .literal [.leaf (.text "cd")] (textNodes ["c", "", "d"]) :=
      .text rfl ["c", "", "d"] (by simp)
    have himage : Recut .inlines [.mk (.image "/" "") [.leaf (.text "cd")]]
        [.mk (.image "/" "") (textNodes ["c", "", "d"])] := .inside (.image "/" "") htext
    have hbeside := himage.beside (word ++ [.mk .emph line]) []
    rw [List.append_nil, List.append_nil, List.append_assoc, List.append_assoc] at hbeside
    exact .inside .blockQuote (.inside .paragraph hbeside)
  have h : Relation.EqvGen (Recut .blocks)
      (quoted [.leaf (.text "ab")] [.mk .escaped [.leaf .softBreak]]
        (textNodes ["c", "", "d"]))
      (quoted (textNodes ["a", "", "b"]) [.leaf (.text "\n")] [.leaf (.text "cd")]) :=
    .trans _ _ _ (.rel _ _ (hword _ _))
      (.trans _ _ _ (.rel _ _ (hline _ _ _ _ (.escaped rfl [.leaf .softBreak])))
        (.trans _ _ _ (.rel _ _ (hline _ _ _ _ (.softBreak rfl)))
          (.symm _ _ (.rel _ _ (halt _ _)))))
  exact ⟨h, recut_document h⟩

end Marginalia.Markdown
