/-
Marginalia.Proofs.Callout.MarkerGrammar — the grammar of markers, and how a text
is scanned for one.

`parse?_grammar`: a text is read as a marker with a remainder exactly when it is
`[!`, a word, `]` and the remainder, put together; a text is put together so in
one way at most; and where there is no way, nothing is read. A word is one or
more ASCII letters, ASCII digits and underscores, said here by code points, so
that a letter outside of ASCII ends a word as a bracket does.

A marker can also be looked for in the UTF-8 encoding of a text, by counting the
bytes of the word and cutting behind them (`scanBytes?`). That finds the same
marker: an ASCII character is one byte, and no other character has a byte below
128 (`le_of_mem_utf8EncodeChar`). Hence ASCII bytes are read back as characters
one by one (`utf8_eq_cons_iff`), and no cut is ever made inside of a character.
-/
import Marginalia.Callout.Marker

namespace Marginalia.Callout.Marker

/-! ## 1. The grammar -/

/-- The codes of ASCII digits, capital letters, the underscore and small letters. -/
def IsWordCode (n : Nat) : Prop :=
  (0x30 ≤ n ∧ n ≤ 0x39) ∨ (0x41 ≤ n ∧ n ≤ 0x5A) ∨ n = 0x5F ∨ (0x61 ≤ n ∧ n ≤ 0x7A)

instance (n : Nat) : Decidable (IsWordCode n) := inferInstanceAs (Decidable (_ ∨ _))

theorem IsWordCode.lt {n : Nat} (h : IsWordCode n) : n < 128 := by
  unfold IsWordCode at h
  omega

/-- The text is a marker with the word `word`, and `rest` is behind it. -/
structure Marked (text word rest : String) : Prop where
  /-- These are its parts. -/
  parts : text = "[!" ++ word ++ "]" ++ rest
  /-- The word is not empty. -/
  nonempty : word ≠ ""
  /-- The word is made of ASCII letters, digits and underscores. -/
  ascii : ∀ c ∈ word.toList, IsWordCode c.toNat

theorem isWordChar_iff (c : Char) : isWordChar c = true ↔ IsWordCode c.toNat := by
  have hunderscore : c = '_' ↔ c.toNat = 0x5F := by
    rw [← Char.toNat_inj]
    rfl
  have hchar : ∀ a : Char, a.val.toNat = a.toNat := fun _ => rfl
  have hA : 'A'.toNat = 0x41 := rfl
  have hZ : 'Z'.toNat = 0x5A := rfl
  have ha : 'a'.toNat = 0x61 := rfl
  have hz : 'z'.toNat = 0x7A := rfl
  have h0 : '0'.toNat = 0x30 := rfl
  have h9 : '9'.toNat = 0x39 := rfl
  have halpha : c.isAlpha = (c.isUpper || c.isLower) := rfl
  have hupper : c.isUpper = decide (c.val ≥ 'A'.val ∧ c.val ≤ 'Z'.val) := rfl
  have hlower : c.isLower = (decide (c.val ≥ 'a'.val) && decide (c.val ≤ 'z'.val)) := rfl
  simp only [isWordChar, Char.isAlphanum, halpha, hupper, hlower, Char.isDigit,
    Bool.or_eq_true, Bool.and_eq_true, decide_eq_true_eq, beq_iff_eq, ge_iff_le,
    UInt32.le_iff_toNat_le, IsWordCode, hunderscore, hchar, hA, hZ, ha, hz, h0, h9]
  omega

theorem marked_iff {text word rest : String} :
    Marked text word rest
      ↔ WellFormed ⟨word.toList, rest.toList⟩
        ∧ text.toList = chars ⟨word.toList, rest.toList⟩ := by
  have hparts : text = "[!" ++ word ++ "]" ++ rest
      ↔ text.toList = chars ⟨word.toList, rest.toList⟩ := by
    rw [← String.toList_inj]
    simp [chars]
  have hword : word.toList ≠ [] ↔ word ≠ "" := by simp
  constructor
  · intro h
    exact ⟨⟨hword.2 h.nonempty, fun c hc => (isWordChar_iff c).2 (h.ascii c hc)⟩,
      hparts.1 h.parts⟩
  · rintro ⟨⟨hne, hall⟩, htext⟩
    exact ⟨hparts.2 htext, hword.1 hne, fun c hc => (isWordChar_iff c).1 (hall c hc)⟩

theorem parse?_eq_some_iff_marked {text word rest : String} :
    parse? text.toList = some ⟨word.toList, rest.toList⟩ ↔ Marked text word rest :=
  parse?_eq_some_iff.trans marked_iff.symm

/-- A text is put together as a marker in one way at most. -/
theorem Marked.unique {text word rest word' rest' : String} (h : Marked text word rest)
    (h' : Marked text word' rest') : word = word' ∧ rest = rest' := by
  have hsame := (parse?_eq_some_iff_marked.2 h).symm.trans (parse?_eq_some_iff_marked.2 h')
  obtain ⟨hword, hrest⟩ := Marker.mk.inj (Option.some.inj hsame)
  exact ⟨String.toList_inj.1 hword, String.toList_inj.1 hrest⟩

theorem parse?_eq_none_iff_marked {text : String} :
    parse? text.toList = none ↔ ∀ word rest, ¬ Marked text word rest := by
  constructor
  · intro hnone word rest h
    rw [parse?_eq_some_iff_marked.2 h] at hnone
    cases hnone
  · intro h
    cases hparse : parse? text.toList with
    | none => rfl
    | some m =>
      have hm : m = ⟨(String.ofList m.kind).toList,
        (String.ofList m.remainder).toList⟩ := by simp
      rw [hm] at hparse
      exact absurd (parse?_eq_some_iff_marked.1 hparse) (h _ _)

/-! ## 2. Bytes -/

/-- The UTF-8 encoding of a text. -/
def utf8 (s : List Char) : List UInt8 := s.flatMap String.utf8EncodeChar

theorem utf8_cons (c : Char) (s : List Char) :
    utf8 (c :: s) = String.utf8EncodeChar c ++ utf8 s :=
  rfl

theorem utf8_append (s t : List Char) : utf8 (s ++ t) = utf8 s ++ utf8 t := by simp [utf8]

theorem utf8_toList (text : String) : text.toUTF8.data.toList = utf8 text.toList := by
  rw [String.toUTF8, ← String.utf8Encode_toList, List.utf8Encode,
    List.toList_data_toByteArray, utf8]

theorem toNat_ofNat_of_ascii {c : Char} (h : c.toNat < 128) :
    (UInt8.ofNat c.toNat).toNat = c.toNat := by
  rw [UInt8.toNat_ofNat']
  omega

/-- An ASCII character is one byte, its code. -/
theorem utf8EncodeChar_of_ascii {c : Char} (h : c.toNat < 128) :
    String.utf8EncodeChar c = [UInt8.ofNat c.toNat] :=
  if_pos (Nat.le_of_lt_succ h)

/-- No other character has a byte that is the code of one. -/
theorem le_of_mem_utf8EncodeChar {c : Char} (h : 128 ≤ c.toNat) :
    ∀ b ∈ String.utf8EncodeChar c, 128 ≤ b.toNat := by
  intro b hb
  have hcode : c.val.toNat = c.toNat := rfl
  simp only [String.utf8EncodeChar, hcode] at hb
  -- One case for each number of bytes; the first is that of ASCII.
  split at hb
  · omega
  · split at hb
    · simp only [List.mem_cons, List.not_mem_nil, or_false] at hb
      rcases hb with rfl | rfl <;> simp only [UInt8.toNat_ofNat'] <;> omega
    · split at hb
      · simp only [List.mem_cons, List.not_mem_nil, or_false] at hb
        rcases hb with rfl | rfl | rfl <;> simp only [UInt8.toNat_ofNat'] <;> omega
      · simp only [List.mem_cons, List.not_mem_nil, or_false] at hb
        rcases hb with rfl | rfl | rfl | rfl <;> simp only [UInt8.toNat_ofNat'] <;> omega

/-- An ASCII byte in front stands for its character. -/
theorem utf8_eq_cons_iff {a : Char} (ha : a.toNat < 128) {s : List Char} {bytes : List UInt8} :
    utf8 s = UInt8.ofNat a.toNat :: bytes ↔ ∃ t, s = a :: t ∧ utf8 t = bytes := by
  constructor
  · intro h
    cases s with
    | nil => cases h
    | cons c t =>
      rw [utf8_cons] at h
      by_cases hc : c.toNat < 128
      · rw [utf8EncodeChar_of_ascii hc] at h
        obtain ⟨hbyte, hrest⟩ := List.cons.inj h
        have hca : c.toNat = a.toNat := by
          rw [← toNat_ofNat_of_ascii hc, hbyte, toNat_ofNat_of_ascii ha]
        exact ⟨t, by rw [Char.toNat_inj.1 hca], hrest⟩
      · cases hbytes : String.utf8EncodeChar c with
        | nil => exact absurd hbytes String.utf8EncodeChar_ne_nil
        | cons b bs =>
          rw [hbytes] at h
          obtain ⟨hbyte, -⟩ := List.cons.inj h
          have hb : 128 ≤ b.toNat :=
            le_of_mem_utf8EncodeChar (Nat.le_of_not_lt hc) b (hbytes ▸ List.mem_cons_self)
          rw [hbyte, toNat_ofNat_of_ascii ha] at hb
          omega
  · rintro ⟨t, rfl, rfl⟩
    rw [utf8_cons, utf8EncodeChar_of_ascii ha]
    rfl

/-- A byte below 128 is the code of an ASCII character. -/
theorem exists_ascii {b : UInt8} (hb : b.toNat < 128) :
    ∃ a : Char, a.toNat < 128 ∧ UInt8.ofNat a.toNat = b := by
  have hvalid : b.toNat.isValidChar := .inl (by omega)
  have hcode : (Char.ofNat b.toNat).toNat = b.toNat := by
    rw [Char.ofNat, dif_pos hvalid]
    exact UInt32.toNat_ofNatLT
  exact ⟨Char.ofNat b.toNat, by rwa [hcode], by rw [hcode, UInt8.ofNat_toNat]⟩

/-- ASCII bytes in front stand for their characters, one by one. -/
theorem exists_of_utf8_eq_append {s : List Char} {word bytes : List UInt8}
    (hword : ∀ b ∈ word, b.toNat < 128) (h : utf8 s = word ++ bytes) :
    ∃ t u, s = t ++ u ∧ utf8 t = word ∧ utf8 u = bytes
      ∧ ∀ c ∈ t, UInt8.ofNat c.toNat ∈ word ∧ c.toNat < 128 := by
  induction word generalizing s with
  | nil => exact ⟨[], s, rfl, rfl, h, nofun⟩
  | cons b word ih =>
    obtain ⟨a, ha, rfl⟩ := exists_ascii (hword b List.mem_cons_self)
    obtain ⟨s, rfl, hs⟩ := (utf8_eq_cons_iff ha).1 h
    obtain ⟨t, u, rfl, ht, hu, hall⟩ := ih (fun b hb => hword b (List.mem_cons_of_mem _ hb)) hs
    refine ⟨a :: t, u, rfl, ?_, hu, ?_⟩
    · rw [utf8_cons, utf8EncodeChar_of_ascii ha, ht]
      rfl
    · intro c hc
      rcases List.mem_cons.1 hc with rfl | hc
      · exact ⟨List.mem_cons_self, ha⟩
      · exact ⟨List.mem_cons_of_mem _ (hall c hc).1, (hall c hc).2⟩

/-! ## 3. Scanning bytes -/

/-- Is the byte the code of a character of a word? -/
def isWordByte (b : UInt8) : Bool := decide (IsWordCode b.toNat)

theorem isWordByte_ofNat {c : Char} (hc : c.toNat < 128) :
    isWordByte (UInt8.ofNat c.toNat) = true ↔ isWordChar c = true := by
  rw [isWordByte, toNat_ofNat_of_ascii hc, decide_eq_true_eq, isWordChar_iff]

/-- Looks for a marker at the start of bytes: counts the bytes of the word and
cuts behind them. -/
def scanBytes? : List UInt8 → Option (List UInt8 × List UInt8)
  | 0x5B :: 0x21 :: bytes =>
    let n := (bytes.takeWhile isWordByte).length
    match bytes.drop n with
    | 0x5D :: rest => if n = 0 then none else some (bytes.take n, rest)
    | _ => none
  | _ => none

/-- What is found in bytes is given by what they are put together of. -/
theorem scanBytes?_eq_some_iff {bytes word rest : List UInt8} :
    scanBytes? bytes = some (word, rest)
      ↔ bytes = 0x5B :: 0x21 :: (word ++ 0x5D :: rest)
        ∧ word ≠ [] ∧ ∀ b ∈ word, isWordByte b = true := by
  constructor
  · intro h
    unfold scanBytes? at h
    split at h
    · rename_i bytes
      have htake : bytes.takeWhile isWordByte
          = bytes.take (bytes.takeWhile isWordByte).length :=
        List.prefix_iff_eq_take.1 (List.takeWhile_prefix isWordByte)
      dsimp only at h
      split at h
      · rename_i found hdrop
        split at h
        · cases h
        · rename_i hne
          obtain ⟨rfl, rfl⟩ := Prod.mk.inj (Option.some.inj h)
          rw [← hdrop, List.take_append_drop, ← htake]
          exact ⟨rfl, fun hnil => hne (List.length_eq_zero_iff.2 hnil),
            List.all_eq_true.1 List.all_takeWhile⟩
      · cases h
    · cases h
  · rintro ⟨rfl, hne, hall⟩
    have htake : (word ++ 0x5D :: rest).takeWhile isWordByte = word := by
      rw [List.takeWhile_append_of_pos hall, List.takeWhile_cons_of_neg (by decide),
        List.append_nil]
    have hlength : word.length ≠ 0 := fun h => hne (List.length_eq_zero_iff.1 h)
    simp only [scanBytes?, htake, List.drop_left, List.take_left, if_neg hlength]

/-- Counting bytes finds the marker that counting characters finds. -/
theorem scanBytes?_utf8 (s : List Char) :
    scanBytes? (utf8 s) = (parse? s).map fun m => (utf8 m.kind, utf8 m.remainder) := by
  refine Option.ext fun found => ?_
  obtain ⟨word, rest⟩ := found
  rw [scanBytes?_eq_some_iff, Option.map_eq_some_iff]
  constructor
  · rintro ⟨hbytes, hne, hall⟩
    obtain ⟨s, rfl, hs⟩ := (utf8_eq_cons_iff (a := '[') (by decide)).1 hbytes
    obtain ⟨s', rfl, hs'⟩ := (utf8_eq_cons_iff (a := '!') (by decide)).1 hs
    obtain ⟨kind, close, rfl, hkind, hclose, hchars⟩ :=
      exists_of_utf8_eq_append (fun b hb => (of_decide_eq_true (hall b hb)).lt) hs'
    obtain ⟨remainder, rfl, hremainder⟩ := (utf8_eq_cons_iff (a := ']') (by decide)).1 hclose
    have hwf : WellFormed ⟨kind, remainder⟩ := by
      refine ⟨?_, fun c hc => (isWordByte_ofNat (hchars c hc).2).1 (hall _ (hchars c hc).1)⟩
      rintro rfl
      exact hne hkind.symm
    have hparse : parse? (chars ⟨kind, remainder⟩) = some ⟨kind, remainder⟩ := parse?_chars hwf
    exact ⟨⟨kind, remainder⟩, hparse, by rw [hkind, hremainder]⟩
  · rintro ⟨m, hparse, hfound⟩
    obtain ⟨⟨hne, hall⟩, rfl⟩ := parse?_eq_some_iff.1 hparse
    obtain ⟨rfl, rfl⟩ := Prod.mk.inj hfound
    refine ⟨?_, ?_, fun b hb => ?_⟩
    · simp only [chars, List.cons_append, utf8_cons, utf8_append]
      rfl
    · intro hnil
      cases hkind : m.kind with
      | nil => exact hne hkind
      | cons c kind =>
        rw [hkind, utf8_cons] at hnil
        exact String.utf8EncodeChar_ne_nil (List.append_eq_nil_iff.1 hnil).1
    · obtain ⟨c, hc, hb⟩ := List.mem_flatMap.1 hb
      have hascii : c.toNat < 128 := ((isWordChar_iff c).1 (hall c hc)).lt
      rw [utf8EncodeChar_of_ascii hascii, List.mem_singleton] at hb
      rw [hb]
      exact (isWordByte_ofNat hascii).2 (hall c hc)

/-! ## 4. The marker of a text -/

/-- **The grammar of markers.** A marker and its remainder are read from a text
exactly when the text is put together of them, which it is in one way at most;
nothing is read exactly when it is put together in no way; and scanning the bytes
of the text finds the bytes of what is read. -/
theorem parse?_grammar (text : String) :
    (∀ word rest : String,
        parse? text.toList = some ⟨word.toList, rest.toList⟩ ↔ Marked text word rest)
      ∧ (∀ word rest word' rest' : String, Marked text word rest → Marked text word' rest' →
          word = word' ∧ rest = rest')
      ∧ (parse? text.toList = none ↔ ∀ word rest, ¬ Marked text word rest)
      ∧ scanBytes? text.toUTF8.data.toList
        = (parse? text.toList).map fun m => (utf8 m.kind, utf8 m.remainder) := by
  refine ⟨fun word rest => parse?_eq_some_iff_marked,
    fun word rest word' rest' => Marked.unique,
    parse?_eq_none_iff_marked, ?_⟩
  rw [utf8_toList]
  exact scanBytes?_utf8 text.toList

/-- A remainder may hold brackets, line feeds and any letters; a word may not hold
a letter outside of ASCII. -/
theorem parse?_grammar_letters :
    Marked "[!Note_1]
[!b] é]" "Note_1" "
[!b] é]"
      ∧ (∀ word rest, Marked "[!Note_1]
[!b] é]" word rest → word = "Note_1")
      ∧ ∀ word rest, ¬ Marked "[!né] x" word rest := by
  obtain ⟨hsome, hunique, -, -⟩ := parse?_grammar "[!Note_1]
[!b] é]"
  have hmarked : Marked "[!Note_1]
[!b] é]" "Note_1" "
[!b] é]" :=
    (hsome "Note_1" "
[!b] é]").1 (by decide)
  refine ⟨hmarked, fun word rest h => (hunique _ _ _ _ h hmarked).1, ?_⟩
  exact (parse?_grammar "[!né] x").2.2.1.1 (by decide)

end Marginalia.Callout.Marker
