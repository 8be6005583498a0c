/-
Marginalia.Text.Blank — blank characters, and cutting them from the ends
of a text.

A character is blank when it has the Unicode property White_Space. Two
narrower classes are kept apart from it: the plain blanks, which markdown's
own structure is written in, and the ASCII blanks, which are those of HTML.

Main statements: `takeWhile_append_trimStart` (cutting loses nothing but the
leading run), `not_isBlank_head?_trim`, `not_isBlank_getLast?_trim` (and leaves no
blank at an end).
-/

namespace Marginalia.Text

/-! ## 1. The classes -/

/-- The 25 characters with the property White_Space. -/
def isBlank (c : Char) : Bool :=
  let n := c.toNat
  (9 ≤ n && n ≤ 13) || n == 0x20 || n == 0x85 || n == 0xA0 || n == 0x1680
    || (0x2000 ≤ n && n ≤ 0x200A) || n == 0x2028 || n == 0x2029 || n == 0x202F
    || n == 0x205F || n == 0x3000

/-- The ASCII blanks: tab, line feed, line tabulation, form feed, carriage
return and space. -/
def isAsciiBlank (c : Char) : Bool :=
  (9 ≤ c.toNat && c.toNat ≤ 13) || c == ' '

/-- The plain blanks: tab, line feed, carriage return and space. -/
def isPlainBlank (c : Char) : Bool := c == ' ' || c == '\t' || c == '\n' || c == '\r'

/-- A space or a tab, the blanks inside a line. -/
def isSpaceOrTab (c : Char) : Bool := c == ' ' || c == '\t'

/-! ## 2. Cutting the ends -/

/-- The list without its longest end whose members all pass the test. -/
def dropEndWhile {α : Type} (p : α → Bool) (s : List α) : List α :=
  (s.reverse.dropWhile p).reverse

/-- The text without its leading blanks. -/
def trimStart (s : List Char) : List Char := s.dropWhile isBlank

/-- The text without its trailing blanks. -/
def trimEnd (s : List Char) : List Char := dropEndWhile isBlank s

/-- The text without its leading and trailing blanks. -/
def trim (s : List Char) : List Char := trimEnd (trimStart s)

/-- The text without its leading and trailing plain blanks. -/
def trimPlain (s : List Char) : List Char :=
  dropEndWhile isPlainBlank (s.dropWhile isPlainBlank)

/-- Cutting the front loses the leading run of blanks and nothing else. -/
theorem takeWhile_append_trimStart (s : List Char) :
    s.takeWhile isBlank ++ trimStart s = s := List.takeWhile_append_dropWhile

theorem trimStart_eq_nil_iff (s : List Char) :
    trimStart s = [] ↔ ∀ c ∈ s, isBlank c = true := by
  induction s with
  | nil => simp [trimStart]
  | cons c s ih => by_cases h : isBlank c = true <;> simp_all [trimStart]

/-- The end is cut no further than to a member that does not pass the test. -/
theorem dropEndWhile_cons_of_neg {α : Type} {p : α → Bool} {a : α} (h : p a = false)
    (s : List α) : dropEndWhile p (a :: s) = a :: dropEndWhile p s := by
  rw [dropEndWhile, dropEndWhile, List.reverse_cons, List.dropWhile_append]
  split
  · next hs => simp [h, List.isEmpty_iff.1 hs]
  · simp

theorem not_isBlank_head?_trimStart (s : List Char) :
    ∀ c ∈ (trimStart s).head?, isBlank c = false := by
  intro c hc
  have h := List.head?_dropWhile_not isBlank s
  rw [trimStart, Option.mem_def] at hc
  rwa [hc] at h

/-- What is trimmed does not start with a blank. -/
theorem not_isBlank_head?_trim (s : List Char) : ∀ c ∈ (trim s).head?, isBlank c = false := by
  have h := not_isBlank_head?_trimStart s
  rw [trim, trimEnd]
  cases hs : trimStart s with
  | nil => simp [dropEndWhile]
  | cons a r =>
    rw [hs] at h
    have ha : isBlank a = false := h a rfl
    rw [dropEndWhile_cons_of_neg ha]
    simpa using ha

/-- What is trimmed does not end in a blank. -/
theorem not_isBlank_getLast?_trim (s : List Char) :
    ∀ c ∈ (trim s).getLast?, isBlank c = false := by
  intro c hc
  have h := List.head?_dropWhile_not isBlank (trimStart s).reverse
  rw [trim, trimEnd, dropEndWhile, List.getLast?_reverse, Option.mem_def] at hc
  rwa [hc] at h

/-- A text without a final line feed, if it ends in one; only one is cut. -/
def dropFinalNewline (s : List Char) : List Char :=
  match s.reverse with
  | '\n' :: r => r.reverse
  | _ => s

theorem dropFinalNewline_append (s : List Char) : dropFinalNewline (s ++ ['\n']) = s := by
  simp [dropFinalNewline]

end Marginalia.Text
