/-
Marginalia.Callout.Marker — the marker that makes a quote a callout.

A marker is `[!` followed by a word and `]` at the very start of a text;
what comes behind it is the remainder. A word is one or more ASCII letters,
digits and underscores.

Main statements: `parse?_eq_some_iff` (reading a marker is undoing its
writing, so a text has at most one marker).
-/
import Marginalia.Text.Blank

namespace Marginalia.Callout

/-- The characters of a marker's word. -/
def isWordChar (c : Char) : Bool := c.isAlphanum || c == '_'

/-- A marker and what comes behind it. -/
structure Marker where
  /-- The word, as it is written. -/
  kind : List Char
  /-- The rest of the text. -/
  remainder : List Char
  deriving DecidableEq, Repr

namespace Marker

/-- The text of a marker with its remainder. -/
def chars (m : Marker) : List Char := '[' :: '!' :: m.kind ++ ']' :: m.remainder

/-- A marker has a word, and it is made of word characters. -/
def WellFormed (m : Marker) : Prop := m.kind ≠ [] ∧ ∀ c ∈ m.kind, isWordChar c = true

/-- Reads the marker at the start of a text. -/
def parse? : List Char → Option Marker
  | '[' :: '!' :: s =>
    match s.takeWhile isWordChar, s.dropWhile isWordChar with
    | c :: word, ']' :: rest => some ⟨c :: word, rest⟩
    | _, _ => none
  | _ => none

/-- The word in lower case, the name of the callout's kind. -/
def kindName (m : Marker) : String := String.ofList (m.kind.map Char.toLower)

/-- The remainder without the blanks that part it from the marker. -/
def body (m : Marker) : List Char := Text.trimStart m.remainder

/-- Nothing is left of a marker's remainder when it is blank. -/
theorem body_eq_nil_iff (m : Marker) : m.body = [] ↔ m.remainder.all Text.isBlank := by
  rw [body, Text.trimStart_eq_nil_iff, List.all_eq_true]

theorem wellFormed_of_parse? {s : List Char} {m : Marker} (h : parse? s = some m) :
    m.WellFormed := by
  unfold parse? at h
  split at h
  · rename_i s
    split at h
    · rename_i c word rest hw _
      obtain rfl := Option.some.inj h
      refine ⟨by simp, fun x hx => ?_⟩
      have : x ∈ s.takeWhile isWordChar := by rw [hw]; exact hx
      exact List.all_eq_true.1 (List.all_takeWhile (l := s) (p := isWordChar)) x this
    · simp at h
  · simp at h

theorem chars_of_parse? {s : List Char} {m : Marker} (h : parse? s = some m) :
    s = m.chars := by
  unfold parse? at h
  split at h
  · rename_i s
    split at h
    · rename_i c word rest hw hr
      obtain rfl := Option.some.inj h
      have := List.takeWhile_append_dropWhile (p := isWordChar) (l := s)
      rw [hw, hr] at this
      simp [chars, ← this]
    · simp at h
  · simp at h

theorem parse?_chars {m : Marker} (h : m.WellFormed) : parse? m.chars = some m := by
  obtain ⟨kind, rest⟩ := m
  obtain ⟨hne, hall⟩ := h
  have hb : isWordChar ']' = false := by decide
  have ht : (kind ++ ']' :: rest).takeWhile isWordChar = kind := by
    rw [List.takeWhile_append_of_pos hall]
    simp [hb]
  have hd : (kind ++ ']' :: rest).dropWhile isWordChar = ']' :: rest := by
    rw [List.dropWhile_append_of_pos hall]
    simp [hb]
  cases kind with
  | nil => simp at hne
  | cons c word =>
    simp only [chars, List.cons_append] at ht hd ⊢
    simp only [parse?, ht, hd]

/-- Reading a marker undoes writing one, and nothing else reads as one. -/
theorem parse?_eq_some_iff {s : List Char} {m : Marker} :
    parse? s = some m ↔ m.WellFormed ∧ s = m.chars :=
  ⟨fun h => ⟨wellFormed_of_parse? h, chars_of_parse? h⟩,
    fun ⟨h, e⟩ => e ▸ parse?_chars h⟩

end Marker

end Marginalia.Callout
