/-
Marginalia.Proofs.Callout.Splice — one quote by itself.

`ofQuote_eq_iff`: what a quote becomes when it is converted by itself, without
the blocks inside it. If its first child is a paragraph that starts with a text,
and the text with a marker, it becomes a callout of the marker's kind. The
marker goes, and the blanks behind it; what is left of the text stays, and if
nothing is left of it the text goes, and the paragraph if it held nothing else.
All the other inlines and blocks stay. Any other quote stays as it is.

`Rewritten` says this case by case, in terms of the text alone. What is cut with
the marker is the longest run of blanks behind it (`LeadingBlanks`), and a text
has one such run only, so the cases exclude each other.
-/
import Marginalia.Proofs.Callout.Structure

namespace Marginalia

/-! ## 1. Leading blanks -/

/-- A text is blanks and a body that does not start with one. -/
structure LeadingBlanks (s blanks body : List Char) : Prop where
  /-- Nothing else is in the text. -/
  parts : s = blanks ++ body
  /-- The blanks are blank. -/
  blank : ∀ c ∈ blanks, Text.isBlank c = true
  /-- There are no more of them. -/
  longest : ∀ c ∈ body.head?, Text.isBlank c = false

namespace LeadingBlanks

variable {s blanks body : List Char}

/-- Every text has leading blanks, perhaps none. -/
theorem trimStart (s : List Char) :
    LeadingBlanks s (s.takeWhile Text.isBlank) (Text.trimStart s) where
  parts := (Text.takeWhile_append_trimStart s).symm
  blank := List.all_eq_true.1 List.all_takeWhile
  longest := Text.not_isBlank_head?_trimStart s

/-- The body is what the text is without its leading blanks. -/
theorem trimStart_eq (h : LeadingBlanks s blanks body) : Text.trimStart s = body := by
  rw [h.parts, Text.trimStart, List.dropWhile_append_of_pos h.blank]
  cases body with
  | nil => rfl
  | cons c rest =>
    have hc : Text.isBlank c = false := h.longest c rfl
    rw [List.dropWhile_cons_of_neg (by simp [hc])]

end LeadingBlanks

namespace Callout

/-! ## 2. What a quote becomes -/

/-- What a quote that carries `d` becomes by itself, by its children. The kind of a
callout is the marker's word in lower case. -/
inductive Rewritten (element : String) (d : Data) : List Block → Block → Prop where
  /-- The text behind a marker and blanks takes the place of the whole. -/
  | body {m : Marker} (hm : m.WellFormed) {blanks body : List Char}
      (h : LeadingBlanks m.remainder blanks body) (hbody : body ≠ []) (is : List Inline)
      (pd : Data) (bs : List Block) :
      Rewritten element d (.paragraph (.text (String.ofList m.chars) :: is) pd :: bs)
        (.callout (String.ofList (m.kind.map Char.toLower))
          (.paragraph (.text (String.ofList body) :: is) pd :: bs)
          (mergeData element (String.ofList (m.kind.map Char.toLower)) d))
  /-- Nothing is behind the marker, and the paragraph goes on with other inlines. -/
  | bare {m : Marker} (hm : m.WellFormed) {blanks : List Char}
      (h : LeadingBlanks m.remainder blanks []) {is : List Inline} (his : is ≠ []) (pd : Data)
      (bs : List Block) :
      Rewritten element d (.paragraph (.text (String.ofList m.chars) :: is) pd :: bs)
        (.callout (String.ofList (m.kind.map Char.toLower)) (.paragraph is pd :: bs)
          (mergeData element (String.ofList (m.kind.map Char.toLower)) d))
  /-- Nothing is behind the marker, and nothing else is in the paragraph. -/
  | gone {m : Marker} (hm : m.WellFormed) {blanks : List Char}
      (h : LeadingBlanks m.remainder blanks []) (pd : Data) (bs : List Block) :
      Rewritten element d (.paragraph [.text (String.ofList m.chars)] pd :: bs)
        (.callout (String.ofList (m.kind.map Char.toLower)) bs
          (mergeData element (String.ofList (m.kind.map Char.toLower)) d))
  /-- The quote does not start with a marker. -/
  | unmarked {cs : List Block}
      (h : ∀ m : Marker, m.WellFormed → ∀ is pd bs,
        cs ≠ .paragraph (.text (String.ofList m.chars) :: is) pd :: bs) :
      Rewritten element d cs (.quote cs d)

variable (element : String) (d : Data)

theorem rewritten_ofQuote (cs : List Block) :
    Rewritten element d cs (ofQuote element cs d) := by
  cases hm : leadingMarker? cs with
  | none =>
    rw [ofQuote_of_not_leadingMarker element hm]
    refine .unmarked fun m hwf is pd bs hcs => ?_
    rw [leadingMarker?_eq_some_iff.2 ⟨hwf, is, pd, bs, hcs⟩] at hm
    cases hm
  | some m =>
    rw [ofQuote_of_leadingMarker element hm]
    obtain ⟨hwf, is, pd, bs, rfl⟩ := leadingMarker?_eq_some_iff.1 hm
    have hblanks : LeadingBlanks m.remainder _ m.body := .trimStart m.remainder
    cases hbody : m.body with
    | cons c body =>
      rw [hbody] at hblanks
      exact .body hwf hblanks (List.cons_ne_nil c body) is pd bs
    | nil =>
      rw [hbody] at hblanks
      cases is with
      | nil => exact .gone hwf hblanks pd bs
      | cons i is => exact .bare hwf hblanks (List.cons_ne_nil i is) pd bs

theorem ofQuote_of_rewritten {cs : List Block} {b : Block} (h : Rewritten element d cs b) :
    ofQuote element cs d = b := by
  cases h with
  | @body m hwf blanks body h hbody is pd bs =>
    have hm := leadingMarker?_eq_some_iff.2 ⟨hwf, is, pd, bs, rfl⟩
    rw [ofQuote_of_leadingMarker element hm, Marker.body, h.trimStart_eq]
    cases body with
    | nil => exact absurd rfl hbody
    | cons c rest => rfl
  | @bare m hwf blanks h is his pd bs =>
    have hm := leadingMarker?_eq_some_iff.2 ⟨hwf, is, pd, bs, rfl⟩
    rw [ofQuote_of_leadingMarker element hm, Marker.body, h.trimStart_eq]
    cases is with
    | nil => exact absurd rfl his
    | cons i is => rfl
  | @gone m hwf blanks h pd bs =>
    have hm := leadingMarker?_eq_some_iff.2 ⟨hwf, [], pd, bs, rfl⟩
    rw [ofQuote_of_leadingMarker element hm, Marker.body, h.trimStart_eq]
    rfl
  | unmarked h =>
    refine ofQuote_of_not_leadingMarker element ?_ d
    cases hm : leadingMarker? cs with
    | none => rfl
    | some m =>
      obtain ⟨hwf, is, pd, bs, hcs⟩ := leadingMarker?_eq_some_iff.1 hm
      exact absurd hcs (h m hwf is pd bs)

/-- **One quote by itself.** What a quote becomes is what is said of it case by
case, and nothing else. -/
theorem ofQuote_eq_iff (cs : List Block) (b : Block) :
    ofQuote element cs d = b ↔ Rewritten element d cs b := by
  constructor
  · rintro rfl
    exact rewritten_ofQuote element d cs
  · exact ofQuote_of_rewritten element d

/-- An ideographic space is blank: nothing is left of the paragraph. -/
example : ofQuote "aside" [.paragraph [.text "[!Tip]\u3000\n"] .none, .rule .none] .none
    = .callout "tip" [.rule .none] (mergeData "aside" "tip" .none) := by rfl

end Callout

end Marginalia
