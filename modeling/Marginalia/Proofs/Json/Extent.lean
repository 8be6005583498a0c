/-
Marginalia.Proofs.Json.Extent — how far a leaf of a text reaches.

A leaf is read from the characters it takes and nothing behind them:
`readText_split`, `readNumber_split` and `readLiteral_split` say that a text
from which a leaf was read starts with characters that give the same leaf
whatever else follows. Behind a number something must follow that could not be
taken for more of it (`Ends`); a string and a literal end by themselves.

## How the proof goes

A string is passed over and read by two functions, and an escape may take two
steps of the one and one of the other. `StringBody` lists the characters of a
string as they are passed over; reading them is then an induction on their
number, which may use up two escapes at once.

A number is read in three stages. Each looks at one character behind what it
takes, and what the next stage takes starts with a character that ends it
(`Past`, `Ends`).
-/
import Marginalia.Proofs.Json.Reading

namespace Marginalia.Json

/-- A leaf that breaks off, for whoever reads it and whoever passes over it. -/
def Leaf.Broken {α : Type} (l : Leaf α) : Prop :=
  (∃ f, l.read = .error f) ∧ ∃ f, l.skip = some f

theorem Leaf.Broken.read_ne {α : Type} {l : Leaf α} (h : l.Broken) (a : α) :
    l.read ≠ .ok a := by
  obtain ⟨⟨f, hf⟩, _⟩ := h
  rw [hf]
  exact nofun

theorem Leaf.Broken.skip_ne {α : Type} {l : Leaf α} (h : l.Broken) : l.skip ≠ none := by
  obtain ⟨_, f, hf⟩ := h
  rw [hf]
  exact Option.some_ne_none f

/-! ## 1. Escapes -/

theorem readHex_split {s : List Char} {n : Nat} {r : List Char} (h : readHex s = .ok (n, r)) :
    ∃ a b c d, s = a :: b :: c :: d :: r
      ∧ ∀ t, readHex (a :: b :: c :: d :: t) = .ok (n, t) := by
  unfold readHex at h
  split at h
  · rename_i a b c d r'
    split at h
    · rename_i ha hb hc hd
      simp only [Except.ok.injEq, Prod.mk.injEq] at h
      obtain ⟨rfl, rfl⟩ := h
      exact ⟨a, b, c, d, rfl, fun t => by simp only [readHex, ha, hb, hc, hd]⟩
    · cases h
  · split at h <;> cases h

/-! ## 2. Strings -/

/-- The characters of a string behind its opening quote, as it is passed over. -/
inductive StringBody : List Char → Prop where
  | close : StringBody ['"']
  | unicode {a b c d : Char} {n : Nat} {body : List Char}
      (hhex : ∀ t, readHex (a :: b :: c :: d :: t) = .ok (n, t)) (hbody : StringBody body) :
      StringBody ('\\' :: 'u' :: a :: b :: c :: d :: body)
  | letter {c : Char} {body : List Char} (hu : c ≠ 'u') (hc : (escapeLetter? c).isSome)
      (hbody : StringBody body) : StringBody ('\\' :: c :: body)
  | plain {c : Char} {body : List Char} (hquote : c ≠ '"') (hslash : c ≠ '\\')
      (hc : ¬ c.toNat < 32) (hbody : StringBody body) : StringBody (c :: body)

theorem ne_backslash {c : Char} {r : List Char} (hend : c = '\\' → r = [] → False)
    (hescape : ∀ x xs, c = '\\' → r = x :: xs → False) : c ≠ '\\' := by
  intro hc
  cases r with
  | nil => exact hend hc rfl
  | cons x xs => exact hescape x xs hc rfl

theorem skipString_split : ∀ (fuel : Nat) {s rest : List Char}, skipString fuel s = .ok rest →
    ∃ body, StringBody body ∧ s = body ++ rest := by
  intro fuel s
  fun_induction skipString fuel s with
  | case3 fuel r =>
    intro rest h
    exact ⟨['"'], .close, by rw [Except.ok.inj h]; rfl⟩
  | case6 fuel r n r' hhex ih =>
    intro rest h
    obtain ⟨body, hbody, rfl⟩ := ih h
    obtain ⟨a, b, c, d, rfl, hall⟩ := readHex_split hhex
    exact ⟨_, .unicode hall hbody, rfl⟩
  | case7 fuel c r hu hc ih =>
    intro rest h
    obtain ⟨body, hbody, rfl⟩ := ih h
    exact ⟨_, .letter hu hc hbody, rfl⟩
  | case10 fuel c r hquote hend _ hescape hc ih =>
    intro rest h
    obtain ⟨body, hbody, rfl⟩ := ih h
    exact ⟨_, .plain hquote (ne_backslash hend hescape) hc hbody, rfl⟩
  | _ => intro rest h; cases h

theorem skipString_body {body : List Char} (h : StringBody body) (t : List Char) :
    ∀ fuel, body.length ≤ fuel → skipString fuel (body ++ t) = .ok t := by
  induction h with
  | close =>
    rintro (_ | fuel) hf
    · simp at hf
    · rfl
  | @unicode a b c d n body hhex _ ih =>
    rintro (_ | fuel) hf
    · simp at hf
    · simp only [List.length_cons] at hf
      simp only [List.cons_append, skipString, hhex, ih fuel (by omega)]
  | letter hu hc _ ih =>
    rintro (_ | fuel) hf
    · simp at hf
    · simp only [List.length_cons] at hf
      simp [skipString, hc, ih fuel (by omega)]
  | plain hquote hslash hc _ ih =>
    rintro (_ | fuel) hf
    · simp at hf
    · simp only [List.length_cons] at hf
      simp [skipString, hslash, hc, ih fuel (by omega)]

/-- A character by its number, which may take the escape that follows as well. -/
theorem readUnicode_body {a b c d : Char} {n : Nat} {body : List Char}
    (hhex : ∀ t, readHex (a :: b :: c :: d :: t) = .ok (n, t)) (h : StringBody body) :
    (∃ f, ∀ t, readUnicode (a :: b :: c :: d :: (body ++ t)) = .error f)
      ∨ ∃ ch body', StringBody body' ∧ body'.length ≤ body.length
        ∧ ∀ t, readUnicode (a :: b :: c :: d :: (body ++ t)) = .ok (ch, body' ++ t) := by
  by_cases hlow : isLowSurrogate n = true
  · exact .inl ⟨.loneSurrogate, fun t => by simp [readUnicode, hhex, hlow, bind, Except.bind]⟩
  by_cases hhigh : isHighSurrogate n = true
  · cases h with
    | @unicode _ _ _ _ m body' hhex' hbody =>
      by_cases hpair : isLowSurrogate m = true
      · refine .inr ⟨Char.ofNat (0x10000 + 1024 * (n - 0xD800) + (m - 0xDC00)), body', hbody,
          by simp only [List.length_cons]; omega, fun t => ?_⟩
        simp [readUnicode, hhex, hhex', hlow, hhigh, hpair, bind, Except.bind]
      · refine .inl ⟨.loneSurrogate, fun t => ?_⟩
        simp [readUnicode, hhex, hhex', hlow, hhigh, hpair, bind, Except.bind]
    | close =>
      refine .inl ⟨.endOfEscape, fun t => ?_⟩
      simp [readUnicode, hhex, hlow, hhigh, bind, Except.bind]
    | letter hu =>
      refine .inl ⟨.endOfEscape, fun t => ?_⟩
      simp [readUnicode, hhex, hlow, hhigh, bind, Except.bind, hu]
    | plain _ hslash =>
      refine .inl ⟨.endOfEscape, fun t => ?_⟩
      simp [readUnicode, hhex, hlow, hhigh, bind, Except.bind, hslash]
  · refine .inr ⟨Char.ofNat n, body, h, Nat.le_refl _, fun t => ?_⟩
    simp [readUnicode, hhex, hlow, hhigh, bind, Except.bind]

/-- What is read of a string depends on its characters alone. -/
theorem readString_body : ∀ (n : Nat) {body : List Char}, body.length ≤ n → StringBody body →
    ∃ text, ∀ t fuel, body.length ≤ fuel → readString fuel (body ++ t) = text := by
  intro n
  induction n with
  | zero =>
    intro body hn h
    cases h <;> simp at hn
  | succ n ih =>
    intro body hn h
    cases h with
    | close =>
      refine ⟨.ok [], fun t fuel hf => ?_⟩
      obtain _ | fuel := fuel
      · simp at hf
      · rfl
    | @unicode a b c d m body hhex hbody =>
      simp only [List.length_cons] at hn
      rcases readUnicode_body hhex hbody with ⟨f, hall⟩ | ⟨ch, body', hbody', hlen, hall⟩
      · refine ⟨.error f, fun t fuel hf => ?_⟩
        obtain _ | fuel := fuel
        · simp at hf
        · simp [readString, hall]
      · obtain ⟨text, htext⟩ := ih (by omega) hbody'
        refine ⟨text.map (ch :: ·), fun t fuel hf => ?_⟩
        obtain _ | fuel := fuel
        · simp at hf
        · simp only [List.length_cons] at hf
          simp [readString, hall, htext t fuel (by omega)]
    | @letter c body hu hc hbody =>
      simp only [List.length_cons] at hn
      obtain ⟨text, htext⟩ := ih (by omega) hbody
      obtain ⟨x, hx⟩ := Option.isSome_iff_exists.1 hc
      refine ⟨text.map (x :: ·), fun t fuel hf => ?_⟩
      obtain _ | fuel := fuel
      · simp at hf
      · simp only [List.length_cons] at hf
        simp [readString, hx, htext t fuel (by omega)]
    | @plain c body hquote hslash hc hbody =>
      simp only [List.length_cons] at hn
      obtain ⟨text, htext⟩ := ih (by omega) hbody
      refine ⟨text.map (c :: ·), fun t fuel hf => ?_⟩
      obtain _ | fuel := fuel
      · simp at hf
      · simp only [List.length_cons] at hf
        simp [readString, hslash, hc, htext t fuel (by omega)]

/-- A string that was read starts a text that gives it whatever follows. -/
theorem readText_split {s rest : List Char} {leaf : Leaf String}
    (h : readText s = (leaf, some rest)) :
    ∃ body, s = body ++ rest ∧ ∀ t, readText (body ++ t) = (leaf, some t) := by
  unfold readText at h
  split at h
  · rename_i rest' hskip
    simp only [Prod.mk.injEq, Option.some.injEq] at h
    obtain ⟨rfl, rfl⟩ := h
    obtain ⟨body, hbody, rfl⟩ := skipString_split _ hskip
    obtain ⟨text, htext⟩ := readString_body _ (Nat.le_refl _) hbody
    refine ⟨body, rfl, fun t => ?_⟩
    have hlen : ∀ t : List Char, body.length ≤ (body ++ t).length + 1 := fun t => by
      rw [List.length_append]
      omega
    simp only [readText, skipString_body hbody t _ (hlen t), htext _ _ (hlen _)]
  · simp at h

/-- What a character by its number takes is passed over. -/
theorem readUnicode_split {s r : List Char} {ch : Char} (h : readUnicode s = .ok (ch, r)) :
    ∃ taken, s = taken ++ r
      ∧ ∀ body, StringBody body → StringBody ('\\' :: 'u' :: (taken ++ body)) := by
  unfold readUnicode at h
  cases hhex : readHex s with
  | error => simp [hhex, bind, Except.bind] at h
  | ok first =>
    obtain ⟨n, r₁⟩ := first
    obtain ⟨a, b, c, d, rfl, hall⟩ := readHex_split hhex
    simp only [hhex, bind, Except.bind] at h
    split at h
    · cases h
    split at h
    · simp only [Except.ok.injEq, Prod.mk.injEq] at h
      obtain ⟨_, rfl⟩ := h
      exact ⟨[a, b, c, d], rfl, fun body hbody => .unicode hall hbody⟩
    split at h
    · cases h
    · cases h
    · rename_i r₂
      cases hhex' : readHex r₂ with
      | error => simp [hhex'] at h
      | ok second =>
        obtain ⟨m, r₃⟩ := second
        obtain ⟨a', b', c', d', rfl, hall'⟩ := readHex_split hhex'
        simp only [hhex'] at h
        split at h
        · simp only [Except.ok.injEq, Prod.mk.injEq] at h
          obtain ⟨_, rfl⟩ := h
          exact ⟨[a, b, c, d, '\\', 'u', a', b', c', d'], rfl, fun body hbody =>
            .unicode hall (.unicode hall' hbody)⟩
        · cases h
    · cases h

/-- A string that can be read can be passed over. -/
theorem readString_split : ∀ (fuel : Nat) {s text : List Char}, readString fuel s = .ok text →
    ∃ body rest, StringBody body ∧ s = body ++ rest := by
  intro fuel s
  fun_induction readString fuel s with
  | case3 => exact fun _ => ⟨['"'], _, .close, rfl⟩
  | case6 fuel r c r' hunicode ih =>
    intro text h
    obtain ⟨_, h, _⟩ := map_eq_ok_iff.1 h
    obtain ⟨body, rest, hbody, rfl⟩ := ih h
    obtain ⟨taken, rfl, htaken⟩ := readUnicode_split hunicode
    exact ⟨_, rest, htaken body hbody, by simp⟩
  | case7 fuel c r hu x hx ih =>
    intro text h
    obtain ⟨_, h, _⟩ := map_eq_ok_iff.1 h
    obtain ⟨body, rest, hbody, rfl⟩ := ih h
    exact ⟨_, rest, .letter hu (by rw [hx]; rfl) hbody, rfl⟩
  | case10 fuel c r hquote hend _ hescape hc ih =>
    intro text h
    obtain ⟨_, h, _⟩ := map_eq_ok_iff.1 h
    obtain ⟨body, rest, hbody, rfl⟩ := ih h
    exact ⟨_, rest, .plain hquote (ne_backslash hend hescape) hc hbody, rfl⟩
  | _ => intro text h; cases h

/-- A string that breaks off can neither be read nor passed over. -/
theorem readText_broken {s : List Char} {leaf : Leaf String} (h : readText s = (leaf, none)) :
    leaf.Broken := by
  unfold readText at h
  split at h
  · cases h
  · rename_i f hskip
    obtain rfl := (Prod.mk.inj h).1
    refine ⟨?_, f, rfl⟩
    cases hread : readString (s.length + 1) s with
    | error f => exact ⟨f, rfl⟩
    | ok text =>
      obtain ⟨body, rest, hbody, rfl⟩ := readString_split _ hread
      rw [skipString_body hbody rest _ (by rw [List.length_append]; omega)] at hskip
      cases hskip

/-! ## 3. Numbers -/

/-- Nothing behind a fraction could be taken for more of it; an exponent may
follow. -/
def Short (r : List Char) : Prop := ∀ c ∈ r.head?, c.isDigit = false ∧ c ≠ '.'

theorem Ends.short {r : List Char} (h : Ends r) : Short r :=
  fun c hc => ⟨(h c hc).1, (h c hc).2.1⟩

theorem Short.past {r : List Char} (h : Short r) : Past r := fun c hc => (h c hc).1

theorem readDigits_split {s rest : List Char} {ds : List Nat} (h : readDigits s = (ds, rest)) :
    ∃ cs, s = cs ++ rest ∧ (∀ c ∈ cs, c.isDigit = true)
      ∧ ∀ t, Past t → readDigits (cs ++ t) = (ds, t) := by
  unfold readDigits at h
  obtain ⟨rfl, rfl⟩ := Prod.mk.inj h
  have hdigits : ∀ c ∈ s.takeWhile Char.isDigit, c.isDigit = true :=
    List.all_eq_true.1 List.all_takeWhile
  exact ⟨s.takeWhile Char.isDigit, List.takeWhile_append_dropWhile.symm, hdigits,
    fun t ht => readDigits_append hdigits ht⟩

theorem ne_nil_of_matched {α β : Type} {ds : List α} {r : List β}
    (hend : ds = [] → r = [] → False) (hsome : ∀ c cs, ds = [] → r = c :: cs → False) :
    ∃ d ds', ds = d :: ds' := by
  cases ds with
  | cons d ds' => exact ⟨d, ds', rfl⟩
  | nil =>
    cases r with
    | nil => exact (hend rfl rfl).elim
    | cons c cs => exact (hsome c cs rfl rfl).elim

theorem readWhole_split {s rest : List Char} {ds : List Nat}
    (h : readWhole s = .ok (ds, rest)) :
    ∃ cs, s = cs ++ rest ∧ ∀ t, Past t → readWhole (cs ++ t) = .ok (ds, t) := by
  unfold readWhole at h
  split at h
  case h_4 hend hsome hzero hread =>
    obtain ⟨rfl, rfl⟩ := Prod.mk.inj (Except.ok.inj h)
    obtain ⟨cs, rfl, _, hall⟩ := readDigits_split hread
    obtain ⟨d, ds', rfl⟩ := ne_nil_of_matched hend hsome
    refine ⟨cs, rfl, fun t ht => ?_⟩
    rw [readWhole, hall t ht]
    cases d with
    | succ d => rfl
    | zero =>
      cases ds' with
      | nil => rfl
      | cons d' ds' => exact (hzero d' ds' rfl).elim
  all_goals cases h

theorem readFraction?_of_short {r : List Char} (hr : Short r) :
    readFraction? r = .ok (none, r) := by
  unfold readFraction?
  split
  · exact absurd rfl (hr '.' (by simp)).2
  · rfl

theorem readFraction?_split {s rest : List Char} {f : Option (List Nat)}
    (h : readFraction? s = .ok (f, rest)) : ∃ cs, s = cs ++ rest
      ∧ ∀ t, Short t → readFraction? (cs ++ t) = .ok (f, t) ∧ Past (cs ++ t) := by
  unfold readFraction? at h
  split at h
  · split at h
    case h_3 hend hsome hread =>
      obtain ⟨rfl, rfl⟩ := Prod.mk.inj (Except.ok.inj h)
      obtain ⟨cs, rfl, _, hall⟩ := readDigits_split hread
      obtain ⟨d, ds', rfl⟩ := ne_nil_of_matched hend hsome
      refine ⟨'.' :: cs, rfl, fun t ht => ⟨?_, fun c hc => ?_⟩⟩
      · simp only [List.cons_append, readFraction?, hall t ht.past]
      · obtain rfl : '.' = c := by simpa using hc
        rfl
    all_goals cases h
  · obtain ⟨rfl, rfl⟩ := Prod.mk.inj (Except.ok.inj h)
    exact ⟨[], rfl, fun t ht => ⟨readFraction?_of_short ht, ht.past⟩⟩

/-- The sign of an exponent, and what follows it. -/
def readSign (s : List Char) : Bool × List Char :=
  match s with
  | '+' :: r => (false, r)
  | '-' :: r => (true, r)
  | r => (false, r)

theorem readExponent_eq (s : List Char) : readExponent s
    = match readDigits (readSign s).2 with
      | ([], []) => .error ⟨.endsInValue, .badNumber⟩
      | ([], _ :: _) => .error (.plain .badNumber)
      | (ds, r) =>
        .ok (if (readSign s).1 then -(digitsValue 0 ds : Int) else digitsValue 0 ds, r) :=
  rfl

theorem readSign_split (s : List Char) : ∃ sign, s = sign ++ (readSign s).2
    ∧ ∀ c t, c.isDigit = true → readSign (sign ++ c :: t) = ((readSign s).1, c :: t) := by
  unfold readSign
  split
  · exact ⟨['+'], rfl, fun c t _ => rfl⟩
  · exact ⟨['-'], rfl, fun c t _ => rfl⟩
  · refine ⟨[], rfl, fun c t hc => ?_⟩
    rw [List.nil_append]
    split
    · rename_i heq
      obtain ⟨rfl, _⟩ := List.cons.inj heq
      exact absurd hc (by decide)
    · rename_i heq
      obtain ⟨rfl, _⟩ := List.cons.inj heq
      exact absurd hc (by decide)
    · rfl

theorem readExponent_split {s rest : List Char} {e : Int}
    (h : readExponent s = .ok (e, rest)) :
    ∃ cs, s = cs ++ rest ∧ ∀ t, Past t → readExponent (cs ++ t) = .ok (e, t) := by
  rw [readExponent_eq] at h
  obtain ⟨sign, hs, hsign⟩ := readSign_split s
  split at h
  case h_3 hend hsome hread =>
    obtain ⟨rfl, rfl⟩ := Prod.mk.inj (Except.ok.inj h)
    obtain ⟨cs, hcs, hdigits, hall⟩ := readDigits_split hread
    obtain ⟨d, ds, rfl⟩ := ne_nil_of_matched hend hsome
    cases cs with
    | nil => cases hall [] (by simp [Past])
    | cons c cs =>
      refine ⟨sign ++ c :: cs, by rw [List.append_assoc, ← hcs, ← hs], fun t ht => ?_⟩
      have hc := hdigits c List.mem_cons_self
      rw [readExponent_eq, List.append_assoc, List.cons_append, hsign c _ hc]
      simp only [← List.cons_append, hall t ht]
  all_goals cases h

theorem readExponent?_split {s rest : List Char} {e : Option Int}
    (h : readExponent? s = .ok (e, rest)) : ∃ cs, s = cs ++ rest
      ∧ ∀ t, Ends t → readExponent? (cs ++ t) = .ok (e, t) ∧ Short (cs ++ t) := by
  have hletter : ∀ {c : Char} {r : List Char}, c = 'e' ∨ c = 'E' →
      (readExponent r).map (fun p => (some p.1, p.2)) = .ok (e, rest) →
        ∃ cs, c :: r = cs ++ rest
        ∧ ∀ t, Ends t → readExponent? (cs ++ t) = .ok (e, t) ∧ Short (cs ++ t) := by
    intro c r hc h
    cases hread : readExponent r with
    | error => simp [hread, Except.map] at h
    | ok p =>
      obtain ⟨x, r'⟩ := p
      rw [hread] at h
      obtain ⟨rfl, rfl⟩ := Prod.mk.inj (Except.ok.inj h)
      obtain ⟨cs, rfl, hall⟩ := readExponent_split hread
      refine ⟨c :: cs, rfl, fun t ht => ⟨?_, fun x hx => ?_⟩⟩
      · rcases hc with rfl | rfl <;> simp [readExponent?, hall t ht.past, Except.map]
      · obtain rfl : c = x := by simpa using hx
        rcases hc with rfl | rfl <;> decide
  unfold readExponent? at h
  split at h
  · exact hletter (.inl rfl) h
  · exact hletter (.inr rfl) h
  · obtain ⟨rfl, rfl⟩ := Prod.mk.inj (Except.ok.inj h)
    exact ⟨[], rfl, fun t ht => ⟨readExponent?_of_ends ht, ht.short⟩⟩

/-- The leaf of a number from its parts. -/
def numberLeaf (t : NumberText) : Leaf Scalar :=
  match Number.ofText? t with
  | some n => .ok (.number n)
  | none => ⟨.error .numberOutOfRange, none⟩

theorem readNumber_of_parts {negative : Bool} {s s₁ s₂ rest : List Char} {whole : List Nat}
    {fraction : Option (List Nat)} {exponent : Option Int}
    (hwhole : readWhole s = .ok (whole, s₁))
    (hfraction : readFraction? s₁ = .ok (fraction, s₂))
    (hexponent : readExponent? s₂ = .ok (exponent, rest)) :
    readNumber negative s = (numberLeaf ⟨negative, whole, fraction, exponent⟩, some rest) := by
  simp only [readNumber, numberLeaf, hwhole, hfraction, hexponent, bind, Except.bind, pure,
    Except.pure]
  cases Number.ofText? ⟨negative, whole, fraction, exponent⟩ <;> rfl

/-- A number that was read starts a text that gives it whatever follows that
could not be taken for more of it. -/
theorem readNumber_split {negative : Bool} {s rest : List Char} {leaf : Leaf Scalar}
    (h : readNumber negative s = (leaf, some rest)) :
    ∃ cs, s = cs ++ rest ∧ ∀ t, Ends t → readNumber negative (cs ++ t) = (leaf, some t) := by
  have hread := h
  unfold readNumber at hread
  dsimp only at hread
  split at hread
  · cases hread
  rename_i htext
  obtain ⟨⟨whole, s₁⟩, hwhole, htext⟩ := bind_eq_ok_iff.1 htext
  obtain ⟨⟨fraction, s₂⟩, hfraction, htext⟩ := bind_eq_ok_iff.1 htext
  obtain ⟨⟨exponent, s₃⟩, hexponent, _⟩ := bind_eq_ok_iff.1 htext
  rw [readNumber_of_parts hwhole hfraction hexponent] at h
  obtain ⟨rfl, hrest⟩ := Prod.mk.inj h
  obtain rfl := Option.some.inj hrest
  obtain ⟨ws, rfl, hws⟩ := readWhole_split hwhole
  obtain ⟨fs, rfl, hfs⟩ := readFraction?_split hfraction
  obtain ⟨es, rfl, hes⟩ := readExponent?_split hexponent
  refine ⟨ws ++ (fs ++ es), by simp only [List.append_assoc], fun t ht => ?_⟩
  obtain ⟨hexponent, hshort⟩ := hes t ht
  obtain ⟨hfraction, hpast⟩ := hfs _ hshort
  rw [List.append_assoc, List.append_assoc]
  exact readNumber_of_parts (hws _ hpast) hfraction hexponent

/-- A number that breaks off can neither be read nor passed over. -/
theorem readNumber_broken {negative : Bool} {s : List Char} {leaf : Leaf Scalar}
    (h : readNumber negative s = (leaf, none)) : leaf.Broken := by
  unfold readNumber at h
  dsimp only at h
  split at h
  · obtain rfl := (Prod.mk.inj h).1
    exact ⟨⟨_, rfl⟩, _, rfl⟩
  · split at h <;> cases h

/-! ## 4. Literals -/

theorem readWord_split : ∀ {word s rest : List Char}, readWord word s = .ok rest →
    s = word ++ rest ∧ ∀ t, readWord word (word ++ t) = .ok t
  | [], _, _, h => ⟨Except.ok.inj h, fun _ => rfl⟩
  | w :: ws, [], _, h => by cases h
  | w :: ws, c :: s, rest, h => by
      rw [readWord] at h
      split at h
      · rename_i heq
        obtain rfl := beq_iff_eq.1 heq
        obtain ⟨rfl, hall⟩ := readWord_split h
        exact ⟨rfl, fun t => by simp [readWord, hall t]⟩
      · cases h

/-- A literal that was read starts a text that gives it whatever follows. -/
theorem readLiteral_split {value : Scalar} {word s rest : List Char} {d : Draft}
    (h : readLiteral value word s = (d, some rest)) :
    s = word ++ rest ∧ d = .scalar (.ok value)
      ∧ ∀ t, readLiteral value word (word ++ t) = (d, some t) := by
  unfold readLiteral at h
  split at h
  · rename_i hword
    obtain ⟨rfl, hrest⟩ := Prod.mk.inj h
    obtain rfl := Option.some.inj hrest
    obtain ⟨hs, hall⟩ := readWord_split hword
    exact ⟨hs, rfl, fun t => by rw [readLiteral, hall t]⟩
  · cases h

end Marginalia.Json
