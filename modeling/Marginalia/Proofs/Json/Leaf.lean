/-
Marginalia.Proofs.Json.Leaf — strings and whole numbers read back.

A string is read from its escapes one character at a time
(`readString_escapeChar`), and passing over it stops where reading it does.
A whole number is read from its digits, provided that nothing behind it
could be taken for more of the number (`Ends`) and that it fits 64 bits.

Main statements: `readText_escape`, `readNumber_toDigits`.
-/
import Mathlib.Algebra.Group.Int.Defs
import Mathlib.Algebra.Group.Nat.Defs
import Marginalia.Json.Draft

namespace Marginalia.Json

open Text (hexValue?)

/-! ## 1. Results -/

section

variable {ε α β : Type}

theorem bind_eq_ok_iff {a : Except ε α} {f : α → Except ε β} {v : β} :
    a >>= f = .ok v ↔ ∃ x, a = .ok x ∧ f x = .ok v := by
  cases a <;> simp [bind, Except.bind]

theorem map_eq_ok_iff {a : Except ε α} {f : α → β} {v : β} :
    a.map f = .ok v ↔ ∃ x, a = .ok x ∧ f x = v := by
  cases a <;> simp [Except.map]

end

/-! ## 2. Strings -/

theorem hexValue?_lowerHex : ∀ n < 16, hexValue? (lowerHex n) = some n := by decide

/-- The four digits of a control character's escape. -/
theorem readHex_control {n : Nat} (h : n < 32) (r : List Char) :
    readHex ('0' :: '0' :: lowerHex (n / 16) :: lowerHex (n % 16) :: r) = .ok (n, r) := by
  have hzero : hexValue? '0' = some 0 := by decide
  have hhigh : hexValue? (lowerHex (n / 16)) = some (n / 16) := hexValue?_lowerHex _ (by omega)
  have hlow : hexValue? (lowerHex (n % 16)) = some (n % 16) := hexValue?_lowerHex _ (by omega)
  have hn : 4096 * 0 + 256 * 0 + 16 * (n / 16) + n % 16 = n := by omega
  simp only [readHex, hzero, hhigh, hlow, hn]

theorem readUnicode_control {c : Char} (h : c.toNat < 32) (r : List Char) :
    readUnicode ('0' :: '0' :: lowerHex (c.toNat / 16) :: lowerHex (c.toNat % 16) :: r)
      = .ok (c, r) := by
  have hhigh : isHighSurrogate c.toNat = false := by simp [isHighSurrogate]; omega
  have hlow : isLowSurrogate c.toNat = false := by simp [isLowSurrogate]; omega
  simp [readUnicode, readHex_control h, hhigh, hlow, bind, Except.bind, Char.ofNat_toNat]

/-- The three ways to write a character: as itself, by a letter behind a
backslash, or by its number. -/
theorem escapeChar_cases (c : Char) :
    (escapeChar c = [c] ∧ c ≠ '"' ∧ c ≠ '\\' ∧ ¬ c.toNat < 32)
      ∨ (∃ l, escapeChar c = ['\\', l] ∧ l ≠ 'u' ∧ escapeLetter? l = some c)
      ∨ (escapeChar c
            = ['\\', 'u', '0', '0', lowerHex (c.toNat / 16), lowerHex (c.toNat % 16)]
          ∧ c.toNat < 32) := by
  unfold escapeChar
  split
  · exact .inr (.inl ⟨'"', rfl, by decide, by subst c; rfl⟩)
  split
  · exact .inr (.inl ⟨'\\', rfl, by decide, by subst c; rfl⟩)
  split
  · exact .inr (.inl ⟨'n', rfl, by decide, by subst c; rfl⟩)
  split
  · exact .inr (.inl ⟨'r', rfl, by decide, by subst c; rfl⟩)
  split
  · exact .inr (.inl ⟨'t', rfl, by decide, by subst c; rfl⟩)
  split
  · rename_i h
    exact .inr (.inl ⟨'b', rfl, by decide, by rw [← Char.ofNat_toNat c, h]; rfl⟩)
  split
  · rename_i h
    exact .inr (.inl ⟨'f', rfl, by decide, by rw [← Char.ofNat_toNat c, h]; rfl⟩)
  split
  · exact .inr (.inr ⟨rfl, by assumption⟩)
  · exact .inl ⟨rfl, by assumption, by assumption, by assumption⟩

/-- One character, escaped, is read as itself. -/
theorem readString_escapeChar (fuel : Nat) (c : Char) (r : List Char) :
    readString (fuel + 1) (escapeChar c ++ r) = (readString fuel r).map (c :: ·) := by
  rcases escapeChar_cases c with ⟨he, hq, hb, hc⟩ | ⟨l, he, hu, hl⟩ | ⟨he, hc⟩
  · simp [he, readString, hb, hc]
  · simp [he, readString, hl]
  · simp [he, readString, readUnicode_control hc]

/-- Passing over a string takes as long as reading it. -/
theorem skipString_escapeChar (fuel : Nat) (c : Char) (r : List Char) :
    skipString (fuel + 1) (escapeChar c ++ r) = skipString fuel r := by
  rcases escapeChar_cases c with ⟨he, hq, hb, hc⟩ | ⟨l, he, hu, hl⟩ | ⟨he, hc⟩
  · simp [he, skipString, hb, hc]
  · simp [he, skipString, hl]
  · simp [he, skipString, readHex_control hc]

theorem readString_escape (r : List Char) : ∀ (s : List Char) (fuel : Nat), s.length < fuel →
    readString fuel (escape s ++ '"' :: r) = .ok s
  | _, 0, h => absurd h (by omega)
  | [], fuel + 1, _ => rfl
  | c :: s, fuel + 1, h => by
      have ih := readString_escape r s fuel (by simpa using h)
      rw [escape, List.flatMap_cons, ← escape, List.append_assoc, readString_escapeChar, ih]
      rfl

theorem skipString_escape (r : List Char) : ∀ (s : List Char) (fuel : Nat), s.length < fuel →
    skipString fuel (escape s ++ '"' :: r) = .ok r
  | _, 0, h => absurd h (by omega)
  | [], fuel + 1, _ => rfl
  | c :: s, fuel + 1, h => by
      have ih := skipString_escape r s fuel (by simpa using h)
      rw [escape, List.flatMap_cons, ← escape, List.append_assoc, skipString_escapeChar, ih]

theorem length_le_escape : ∀ s : List Char, s.length ≤ (escape s).length
  | [] => Nat.le_refl _
  | c :: s => by
      have ih := length_le_escape s
      have hc : 1 ≤ (escapeChar c).length := by
        rcases escapeChar_cases c with ⟨he, _⟩ | ⟨l, he, _⟩ | ⟨he, _⟩ <;> simp [he]
      simp only [escape, List.flatMap_cons, List.length_append, List.length_cons] at *
      omega

/-- A string behind its opening quote. -/
theorem readText_escape (s : String) (r : List Char) :
    readText (escape s.toList ++ '"' :: r) = (.ok s, some r) := by
  have hlen : s.toList.length < (escape s.toList ++ '"' :: r).length + 1 := by
    have := length_le_escape s.toList
    simp only [List.length_append, List.length_cons]
    omega
  simp only [readText, readString_escape r s.toList _ hlen,
    skipString_escape r s.toList _ hlen, Except.map, String.ofList_toList]
  rfl

/-! ## 3. Whole numbers -/

/-- Nothing behind digits could be taken for one more. -/
def Past (r : List Char) : Prop := ∀ c ∈ r.head?, c.isDigit = false

/-- Nothing behind a number could be taken for more of it. -/
def Ends (r : List Char) : Prop :=
  ∀ c ∈ r.head?, c.isDigit = false ∧ c ≠ '.' ∧ c ≠ 'e' ∧ c ≠ 'E'

theorem Ends.past {r : List Char} (h : Ends r) : Past r := fun c hc => (h c hc).1

/-- The whole numbers that texts hold: 64 bits, signed or unsigned. -/
def FitsWord (n : Int) : Prop := -2 ^ 63 ≤ n ∧ n < 2 ^ 64

/-- The values of digits. -/
def digitValues (cs : List Char) : List Nat := cs.map fun c => c.toNat - 48

theorem readDigits_append {ds r : List Char} (hd : ∀ c ∈ ds, c.isDigit = true) (hr : Past r) :
    readDigits (ds ++ r) = (digitValues ds, r) := by
  have htake : r.takeWhile Char.isDigit = [] := by
    cases r with
    | nil => rfl
    | cons c r => simp [hr c (by simp)]
  have hdrop : r.dropWhile Char.isDigit = r := by
    cases r with
    | nil => rfl
    | cons c r => simp [hr c (by simp)]
  simp [readDigits, digitValues, List.takeWhile_append_of_pos hd,
    List.dropWhile_append_of_pos hd, htake, hdrop]

theorem digitsValue_toDigits (n : Nat) :
    digitsValue 0 (digitValues (Nat.toDigits 10 n)) = n := by
  rw [digitsValue, digitValues, List.foldl_map]
  exact Nat.ofDigitChars_ten_toDigits

theorem isDigit_of_mem_toDigits {n : Nat} : ∀ c ∈ Nat.toDigits 10 n, c.isDigit = true :=
  fun _ => Nat.isDigit_of_mem_toDigits (by decide) (by decide)

/-- The digits of a positive number do not start with a zero. -/
theorem toDigits_pos {n : Nat} (hn : 0 < n) :
    ∃ d ds, digitValues (Nat.toDigits 10 n) = (d + 1) :: ds := by
  induction n using Nat.strongRecOn with
  | ind n ih =>
    rcases Nat.lt_or_ge n 10 with h | h
    · refine ⟨n - 1, [], ?_⟩
      rw [Nat.toDigits_of_lt_base h, digitValues, List.map_singleton,
        Nat.toNat_digitChar_sub_48_of_lt_ten h]
      congr 1
      omega
    · obtain ⟨d, ds, hd⟩ := ih (n / 10) (by omega) (by omega)
      rw [digitValues] at hd
      rw [Nat.toDigits_of_base_le (by decide) h, digitValues, List.map_append, hd]
      exact ⟨_, _, rfl⟩

theorem readWhole_toDigits (n : Nat) {r : List Char} (hr : Ends r) :
    readWhole (Nat.toDigits 10 n ++ r) = .ok (digitValues (Nat.toDigits 10 n), r) := by
  rw [readWhole, readDigits_append isDigit_of_mem_toDigits hr.past]
  rcases Nat.eq_zero_or_pos n with rfl | hn
  · rfl
  · obtain ⟨d, ds, hd⟩ := toDigits_pos hn
    rw [hd]
    cases ds <;> rfl

theorem readFraction?_of_ends {r : List Char} (hr : Ends r) :
    readFraction? r = .ok (none, r) := by
  unfold readFraction?
  split
  · exact absurd rfl (hr '.' (by simp)).2.1
  · rfl

theorem readExponent?_of_ends {r : List Char} (hr : Ends r) :
    readExponent? r = .ok (none, r) := by
  unfold readExponent?
  split
  · exact absurd rfl (hr 'e' (by simp)).2.2.1
  · exact absurd rfl (hr 'E' (by simp)).2.2.2
  · rfl

theorem readNumber_toDigits (negative : Bool) (n : Nat) {r : List Char} (hr : Ends r)
    {m : Number}
    (hm : Number.ofText? ⟨negative, digitValues (Nat.toDigits 10 n), none, none⟩ = some m) :
    readNumber negative (Nat.toDigits 10 n ++ r) = (.ok (.number m), some r) := by
  simp only [readNumber, readWhole_toDigits n hr, readFraction?_of_ends hr,
    readExponent?_of_ends hr, bind, Except.bind, pure, Except.pure, hm]

theorem ofText?_toDigits {n : Nat} (h : n < 2 ^ 64) :
    Number.ofText? ⟨false, digitValues (Nat.toDigits 10 n), none, none⟩
      = some (.integer n) := by
  have hv := digitsValue_toDigits n
  rw [ofText?_natural (by rw [hv, maxSignificand, UInt64.size]; omega), hv]

theorem ofText?_negative {n : Nat} (hn : 0 < n) (h : n ≤ 2 ^ 63) :
    Number.ofText? ⟨true, digitValues (Nat.toDigits 10 n), none, none⟩
      = some (.integer (-(n : Int))) := by
  have hv := digitsValue_toDigits n
  have hw : absorbWhole 0 (digitValues (Nat.toDigits 10 n)) = (n, 0) := by
    rw [absorbWhole_exact (by rw [hv, maxSignificand, UInt64.size]; omega), hv]
  have hz : (n == 0 || decide (Nat.pow 2 63 < n)) = false := by simp; omega
  simp only [Number.ofText?, hw, hz]
  rfl

end Marginalia.Json
