/-
Marginalia.Proofs.Json.Spelling — which texts are read as which drafts.

`Spells` is the grammar of JSON texts, written against drafts: leaves, and
arrays and objects of what is spelled, with blanks where they may stand.

* A text that spells a draft is read as the draft (`ofText_of_spelled`).
* A text that is read to its end spells its draft (`spelled_of_ofText`). One
  that is not has a draft that is broken off at its last leaf or bracket
  (`Broken`).

## How the proof goes

Both directions are inductions on the fuel, one theorem each for values, items
and members, as the reader has one function each. That a leaf is read alike in
every text is what `Extent` is about; the condition there on what follows holds
since behind a value comes a blank, a comma, a closing bracket or nothing.
-/
import Marginalia.Proofs.Json.Extent

namespace Marginalia.Json

/-! ## 1. The grammar -/

mutual

/-- The characters spell the draft, without blanks around them. -/
inductive Spells : List Char → Draft → Prop where
  | scalar {c : Char} {cs : List Char} {leaf : Leaf Scalar} (hc : isBlank c = false)
      (hread : readValue 1 (c :: cs) = (.scalar leaf, some [])) :
      Spells (c :: cs) (.scalar leaf)
  | emptyArr {b : List Char} (hb : Blanks b) : Spells ('[' :: (b ++ [']'])) (.arr [] none)
  | arr {b cs : List Char} {items : List Draft} (hb : Blanks b)
      (hitems : SpellsItems cs items) :
      Spells ('[' :: (b ++ (cs ++ [']']))) (.arr items none)
  | emptyObj {b : List Char} (hb : Blanks b) :
      Spells ('\x7b' :: (b ++ ['\x7d'])) (.obj [] none)
  | obj {b cs : List Char} {ms : List (Leaf String × Draft)} (hb : Blanks b)
      (hms : SpellsMembers cs ms) :
      Spells ('\x7b' :: (b ++ '"' :: (cs ++ ['\x7d']))) (.obj ms none)

/-- The characters spell the items, without blanks in front. -/
inductive SpellsItems : List Char → List Draft → Prop where
  | one {cs b : List Char} {d : Draft} (hd : Spells cs d) (hb : Blanks b) :
      SpellsItems (cs ++ b) [d]
  | more {cs b b' cs' : List Char} {d : Draft} {ds : List Draft} (hd : Spells cs d)
      (hb : Blanks b) (hb' : Blanks b') (hds : SpellsItems cs' ds) :
      SpellsItems (cs ++ (b ++ ',' :: (b' ++ cs'))) (d :: ds)

/-- The characters spell the members, behind the opening quote of the first. -/
inductive SpellsMembers : List Char → List (Leaf String × Draft) → Prop where
  | one {cs b : List Char} {m : Leaf String × Draft} (hm : SpellsMember cs m) (hb : Blanks b) :
      SpellsMembers (cs ++ b) [m]
  | more {cs b b' cs' : List Char} {m : Leaf String × Draft} {ms : List (Leaf String × Draft)}
      (hm : SpellsMember cs m) (hb : Blanks b) (hb' : Blanks b') (hms : SpellsMembers cs' ms) :
      SpellsMembers (cs ++ (b ++ ',' :: (b' ++ '"' :: cs'))) (m :: ms)

/-- The characters spell the member, behind its opening quote. -/
inductive SpellsMember : List Char → Leaf String × Draft → Prop where
  | mk {ks b b' cs : List Char} {key : Leaf String} {d : Draft}
      (hkey : readText ks = (key, some [])) (hb : Blanks b) (hb' : Blanks b')
      (hd : Spells cs d) :
      SpellsMember (ks ++ (b ++ ':' :: (b' ++ cs))) (key, d)

end

/-- The text spells the draft, with blanks around it. -/
def Spelled (text : String) (d : Draft) : Prop :=
  ∃ b cs b', Blanks b ∧ Blanks b' ∧ Spells cs d ∧ text.toList = b ++ (cs ++ b')

/-! ## 2. Blanks -/

theorem skipBlanks_blanks {b : List Char} (hb : Blanks b) (s : List Char) :
    skipBlanks (b ++ s) = skipBlanks s :=
  List.dropWhile_append_of_pos hb

theorem Blanks.append {b b' : List Char} (hb : Blanks b) (hb' : Blanks b') :
    Blanks (b ++ b') :=
  List.forall_mem_append.2 ⟨hb, hb'⟩

theorem readValue_blanks {b : List Char} (hb : Blanks b) (fuel : Nat) (s : List Char) :
    readValue fuel (b ++ s) = readValue fuel s := by
  cases fuel with
  | zero => simp [readValue]
  | succ fuel => rw [readValue, readValue, skipBlanks_blanks hb]

/-- The blanks in front of a text. -/
theorem skipBlanks_split {s t : List Char} (h : skipBlanks s = t) :
    ∃ b, Blanks b ∧ s = b ++ t := by
  subst h
  exact ⟨s.takeWhile isBlank, List.all_eq_true.1 List.all_takeWhile,
    List.takeWhile_append_dropWhile.symm⟩

theorem skipBlanks_head {s r : List Char} {c : Char} (h : skipBlanks s = c :: r) :
    isBlank c = false := by
  have hhead := List.head?_dropWhile_not isBlank s
  rw [← skipBlanks, h] at hhead
  simpa using hhead

/-! ## 3. Leaves -/

/-- A digit starts a number. -/
theorem readValue_digit {c : Char} (hc : c.isDigit = true) (fuel : Nat) (s : List Char) :
    readValue (fuel + 1) (c :: s)
      = (.scalar (readNumber false (c :: s)).1, (readNumber false (c :: s)).2) := by
  obtain ⟨hblank, hn, ht, hf, hminus, hquote, harr, hobj, _⟩ := digit_ne hc
  rw [readValue, skipBlanks_cons hblank]
  split <;> simp_all

/-- A leaf that was read starts a text that gives it whatever follows. -/
theorem readValue_split {fuel : Nat} {c : Char} {s rest : List Char} {leaf : Leaf Scalar}
    (hc : isBlank c = false) (h : readValue (fuel + 1) (c :: s) = (.scalar leaf, some rest)) :
    ∃ cs, c :: s = c :: cs ++ rest
      ∧ ∀ fuel t, Ends t → readValue (fuel + 1) (c :: cs ++ t) = (.scalar leaf, some t) := by
  rw [readValue, skipBlanks_cons hc] at h
  split at h
  -- Null and the truth values.
  case h_2 heq | h_3 heq | h_4 heq =>
    obtain ⟨rfl, rfl⟩ := List.cons.inj heq
    obtain ⟨rfl, _, hall⟩ := readLiteral_split h
    refine ⟨_, rfl, fun fuel t _ => ?_⟩
    rw [List.cons_append, readValue, skipBlanks_cons hc]
    exact hall t
  -- A number with a sign. One without is the last case, under its first digit.
  case h_5 heq =>
    obtain ⟨rfl, rfl⟩ := List.cons.inj heq
    obtain ⟨hleaf, hrest⟩ := Prod.mk.inj h
    obtain ⟨cs, rfl, hall⟩ := readNumber_split (Prod.ext (Draft.scalar.inj hleaf) hrest)
    refine ⟨cs, rfl, fun fuel t ht => ?_⟩
    rw [List.cons_append, readValue, skipBlanks_cons hc]
    simp [hall t ht]
  case h_6 heq =>
    obtain ⟨rfl, rfl⟩ := List.cons.inj heq
    cases htext : readText s with
    | mk l r =>
      rw [htext] at h
      obtain ⟨hleaf, rfl⟩ := Prod.mk.inj h
      obtain rfl := Draft.scalar.inj hleaf
      obtain ⟨body, rfl, hall⟩ := readText_split htext
      refine ⟨body, rfl, fun fuel t _ => ?_⟩
      rw [List.cons_append, readValue, skipBlanks_cons hc]
      simp only [hall t]
  -- Brackets start no leaf.
  case h_7 | h_8 => split at h <;> cases h
  case h_9 heq =>
    obtain ⟨rfl, rfl⟩ := List.cons.inj heq
    split at h
    · rename_i hdigit
      obtain ⟨hleaf, hrest⟩ := Prod.mk.inj h
      obtain ⟨cs, hcs, hall⟩ := readNumber_split (Prod.ext (Draft.scalar.inj hleaf) hrest)
      cases cs with
      | nil => cases hall [] (by simp [Ends])
      | cons x cs =>
        obtain ⟨rfl, rfl⟩ := List.cons.inj hcs
        refine ⟨cs, rfl, fun fuel t ht => ?_⟩
        rw [List.cons_append, readValue_digit hdigit, ← List.cons_append, hall t ht]
    · cases h
  case h_1 => cases h

/-- A leaf is spelled alike whatever follows. -/
theorem readValue_token {c : Char} {cs : List Char} {leaf : Leaf Scalar}
    (hc : isBlank c = false) (h : readValue 1 (c :: cs) = (.scalar leaf, some []))
    (fuel : Nat) {t : List Char} (ht : Ends t) :
    readValue (fuel + 1) (c :: cs ++ t) = (.scalar leaf, some t) := by
  obtain ⟨cs', hcs, hall⟩ := readValue_split hc h
  rw [List.append_nil] at hcs
  obtain rfl := (List.cons.inj hcs).2
  exact hall fuel t ht

/-! ## 4. What spells a draft is read as it -/

/-- What spells a draft starts with a character that is no blank and closes no
array. -/
theorem spells_head {cs : List Char} {d : Draft} (h : Spells cs d) :
    ∃ c r, cs = c :: r ∧ isBlank c = false ∧ c ≠ ']' := by
  cases h with
  | @scalar c cs leaf hc hread =>
    refine ⟨c, cs, rfl, hc, ?_⟩
    rintro rfl
    cases hread
  | emptyArr | arr | emptyObj | obj => exact ⟨_, _, rfl, by decide, by decide⟩

theorem spellsItems_head {cs : List Char} {ds : List Draft} (h : SpellsItems cs ds) :
    ∃ c r, cs = c :: r ∧ isBlank c = false ∧ c ≠ ']' := by
  cases h with
  | one hd | more hd =>
    obtain ⟨c, r, rfl, hc⟩ := spells_head hd
    exact ⟨c, _, rfl, hc⟩

/-! What a reader does once it has met the character it looks for. -/

section

variable {fuel : Nat} {b b' s rest : List Char} {c : Char}

theorem readValue_arr (hb : Blanks b) (hc : isBlank c = false) (hclose : c ≠ ']') :
    readValue (fuel + 1) ('[' :: (b ++ c :: s))
      = (.arr (readItems fuel (c :: s)).1 (readItems fuel (c :: s)).2.1,
        (readItems fuel (c :: s)).2.2) := by
  simp [readValue, skipBlanks_cons (show isBlank '[' = false by decide),
    skipBlanks_append hb hc, hclose]

theorem readValue_obj (hb : Blanks b) :
    readValue (fuel + 1) ('\x7b' :: (b ++ '"' :: s))
      = (.obj (readMembers fuel s).1 (readMembers fuel s).2.1, (readMembers fuel s).2.2) := by
  simp [readValue, skipBlanks_cons (show isBlank '\x7b' = false by decide),
    skipBlanks_append hb (show isBlank '"' = false by decide)]

theorem readItems_close {d : Draft} (hb : Blanks b)
    (h : readValue fuel s = (d, some (b ++ ']' :: rest))) :
    readItems (fuel + 1) s = ([d], none, some rest) := by
  simp [readItems, h, skipBlanks_append hb (show isBlank ']' = false by decide)]

theorem readItems_comma {d : Draft} {s' : List Char} (hb : Blanks b) (hb' : Blanks b')
    (hc : isBlank c = false) (hclose : c ≠ ']')
    (h : readValue fuel s = (d, some (b ++ ',' :: (b' ++ c :: s')))) :
    readItems (fuel + 1) s
      = (d :: (readItems fuel (c :: s')).1, (readItems fuel (c :: s')).2) := by
  simp [readItems, h, skipBlanks_append hb (show isBlank ',' = false by decide),
    skipBlanks_append hb' hc, hclose]

theorem readMembers_close {key : Leaf String} {d : Draft} {s₁ s₂ : List Char} (hb : Blanks b)
    (hb' : Blanks b') (hkey : readText s = (key, some (b ++ ':' :: s₁)))
    (h : readValue fuel s₁ = (d, some (b' ++ '\x7d' :: s₂))) :
    readMembers (fuel + 1) s = ([(key, d)], none, some s₂) := by
  simp [readMembers, hkey, h, skipBlanks_append hb (show isBlank ':' = false by decide),
    skipBlanks_append hb' (show isBlank '\x7d' = false by decide)]

theorem readMembers_comma {key : Leaf String} {d : Draft} {s₁ s₂ b₂ : List Char}
    (hb : Blanks b) (hb' : Blanks b') (hb₂ : Blanks b₂)
    (hkey : readText s = (key, some (b ++ ':' :: s₁)))
    (h : readValue fuel s₁ = (d, some (b' ++ ',' :: (b₂ ++ '"' :: s₂)))) :
    readMembers (fuel + 1) s
      = ((key, d) :: (readMembers fuel s₂).1, (readMembers fuel s₂).2) := by
  simp [readMembers, hkey, h, skipBlanks_append hb (show isBlank ':' = false by decide),
    skipBlanks_append hb' (show isBlank ',' = false by decide),
    skipBlanks_append hb₂ (show isBlank '"' = false by decide)]

end

/-- A key is read alike whatever follows. -/
theorem readText_token {ks : List Char} {key : Leaf String} (h : readText ks = (key, some []))
    (t : List Char) : readText (ks ++ t) = (key, some t) := by
  obtain ⟨body, hbody, hall⟩ := readText_split h
  rw [List.append_nil] at hbody
  exact hbody ▸ hall t

theorem ends_behind {b : List Char} (hb : Blanks b) (c : Char)
    (hc : c.isDigit = false ∧ c ≠ '.' ∧ c ≠ 'e' ∧ c ≠ 'E') (r : List Char) :
    Ends (b ++ c :: r) :=
  ends_blanks hb (ends_cons hc r)

mutual

theorem readValue_of_spells : ∀ (fuel : Nat) {cs : List Char} {d : Draft} {rest : List Char},
    Spells cs d → Ends rest → 2 * cs.length ≤ fuel →
      readValue fuel (cs ++ rest) = (d, some rest)
  | 0, cs, d, rest, h, _, hf => by
      obtain ⟨c, r, rfl, _⟩ := spells_head h
      simp at hf
  | fuel + 1, cs, d, rest, h, hrest, hf => by
      cases h with
      | scalar hc hread => exact readValue_token hc hread fuel hrest
      | emptyArr hb =>
        simp [readValue, skipBlanks_cons (show isBlank '[' = false by decide),
          skipBlanks_append hb (show isBlank ']' = false by decide)]
      | emptyObj hb =>
        simp [readValue, skipBlanks_cons (show isBlank '\x7b' = false by decide),
          skipBlanks_append hb (show isBlank '\x7d' = false by decide)]
      | @arr b cs items hb hitems =>
        simp only [List.length_cons, List.length_append] at hf
        have hread := readItems_of_spells fuel rest hitems (by omega)
        obtain ⟨c, r, rfl, hblank, hclose⟩ := spellsItems_head hitems
        simp only [List.cons_append, List.append_assoc, List.nil_append] at hread ⊢
        rw [readValue_arr hb hblank hclose, hread]
      | @obj b cs ms hb hms =>
        simp only [List.length_cons, List.length_append] at hf
        have hread := readMembers_of_spells fuel rest hms (by omega)
        simp only [List.cons_append, List.append_assoc, List.nil_append]
        rw [readValue_obj hb, hread]

theorem readItems_of_spells : ∀ (fuel : Nat) {cs : List Char} {ds : List Draft}
    (rest : List Char), SpellsItems cs ds → 2 * cs.length < fuel →
      readItems fuel (cs ++ ']' :: rest) = (ds, none, some rest)
  | 0, _, _, _, _, hf => absurd hf (by omega)
  | fuel + 1, _, _, rest, h, hf => by
      cases h with
      | @one cs b d hd hb =>
        simp only [List.length_append] at hf
        have hread := readValue_of_spells fuel hd
          (ends_behind hb ']' (by decide) rest) (by omega)
        rw [List.append_assoc]
        exact readItems_close hb hread
      | @more cs b b' cs' d ds hd hb hb' hds =>
        simp only [List.length_append, List.length_cons] at hf
        have hrest := readItems_of_spells fuel rest hds (by omega)
        obtain ⟨c, r, rfl, hblank, hclose⟩ := spellsItems_head hds
        have hread := readValue_of_spells fuel hd
          (ends_behind hb ',' (by decide) (b' ++ c :: (r ++ ']' :: rest))) (by omega)
        simp only [List.cons_append, List.append_assoc] at hrest ⊢
        rw [readItems_comma hb hb' hblank hclose hread, hrest]

theorem readMembers_of_spells : ∀ (fuel : Nat) {cs : List Char}
    {ms : List (Leaf String × Draft)} (rest : List Char),
    SpellsMembers cs ms → 2 * cs.length < fuel →
      readMembers fuel (cs ++ '\x7d' :: rest) = (ms, none, some rest)
  | 0, _, _, _, _, hf => absurd hf (by omega)
  | fuel + 1, _, _, rest, h, hf => by
      cases h with
      | @one _ b' m hm hb' =>
        obtain ⟨hkey, hb, hgap, hd⟩ := hm
        simp only [List.length_append, List.length_cons] at hf
        have hread := readValue_of_spells fuel hd (ends_behind hb' '\x7d' (by decide) rest)
          (by omega)
        simp only [List.cons_append, List.append_assoc]
        exact readMembers_close hb hb' (readText_token hkey _)
          ((readValue_blanks hgap fuel _).trans hread)
      | @more _ b' b₂ cs' m ms hm hb' hb₂ hms =>
        obtain ⟨hkey, hb, hgap, hd⟩ := hm
        simp only [List.length_append, List.length_cons] at hf
        have hrest := readMembers_of_spells fuel rest hms (by omega)
        have hread := readValue_of_spells fuel hd
          (ends_behind hb' ',' (by decide) (b₂ ++ '"' :: (cs' ++ '\x7d' :: rest))) (by omega)
        simp only [List.cons_append, List.append_assoc]
        rw [readMembers_comma hb hb' hb₂ (readText_token hkey _)
          ((readValue_blanks hgap fuel _).trans hread), hrest]

end

/-- **A text that spells a draft is read as the draft.** -/
theorem ofText_of_spelled {text : String} {d : Draft} (h : Spelled text d) :
    Draft.ofText text = ⟨d, false⟩ := by
  obtain ⟨b, cs, b', hb, hb', hspells, htext⟩ := h
  have hends : Ends b' := List.append_nil b' ▸ ends_blanks hb' (by simp [Ends])
  have hread := readValue_of_spells (2 * text.toList.length + 2) hspells hends
    (by rw [htext]; simp only [List.length_append]; omega)
  have hnothing : skipBlanks (b' ++ []) = [] := skipBlanks_blanks hb' []
  rw [List.append_nil] at hnothing
  have hvalue := (readValue_blanks hb _ _).trans hread
  rw [← htext] at hvalue
  simp only [Draft.ofText, hvalue, hnothing]
  rfl

/-! ## 5. What a reader comes to

One case for each way in which a reader goes on or breaks off.
-/

/-- What reading a value comes to. -/
inductive ValueRead (fuel : Nat) (s : List Char) : Draft × Option (List Char) → Prop where
  | leafBreaks {leaf : Leaf Scalar} (h : leaf.Broken) : ValueRead fuel s (.scalar leaf, none)
  | leaf {b cs rest : List Char} {leaf : Leaf Scalar} (hb : Blanks b)
      (hleaf : Spells cs (.scalar leaf)) (hs : s = b ++ (cs ++ rest)) :
      ValueRead fuel s (.scalar leaf, some rest)
  | arrBreaks {f : Break} : ValueRead fuel s (.arr [] (some f), none)
  | emptyArr {b b' rest : List Char} (hb : Blanks b) (hb' : Blanks b')
      (hs : s = b ++ '[' :: (b' ++ ']' :: rest)) : ValueRead fuel s (.arr [] none, some rest)
  | arr {b b' r tail items stop} (hb : Blanks b) (hb' : Blanks b')
      (hs : s = b ++ '[' :: (b' ++ r)) (hitems : readItems fuel r = (items, stop, tail)) :
      ValueRead fuel s (.arr items stop, tail)
  | objBreaks {f : Break} : ValueRead fuel s (.obj [] (some f), none)
  | emptyObj {b b' rest : List Char} (hb : Blanks b) (hb' : Blanks b')
      (hs : s = b ++ '\x7b' :: (b' ++ '\x7d' :: rest)) :
      ValueRead fuel s (.obj [] none, some rest)
  | obj {b b' r tail ms stop} (hb : Blanks b) (hb' : Blanks b')
      (hs : s = b ++ '\x7b' :: (b' ++ '"' :: r))
      (hms : readMembers fuel r = (ms, stop, tail)) :
      ValueRead fuel s (.obj ms stop, tail)

/-- What reading items comes to. -/
inductive ItemsRead (fuel : Nat) (s : List Char) :
    List Draft × Option Break × Option (List Char) → Prop where
  | itemBreaks {d : Draft} (hd : readValue fuel s = (d, none)) :
      ItemsRead fuel s ([d], none, none)
  | breaks {d : Draft} {f : Break} : ItemsRead fuel s ([d], some f, none)
  | close {d : Draft} {b rest : List Char} (hb : Blanks b)
      (hd : readValue fuel s = (d, some (b ++ ']' :: rest))) :
      ItemsRead fuel s ([d], none, some rest)
  | comma {d : Draft} {b b' r tail ds stop} (hb : Blanks b) (hb' : Blanks b')
      (hd : readValue fuel s = (d, some (b ++ ',' :: (b' ++ r))))
      (hds : readItems fuel r = (ds, stop, tail)) : ItemsRead fuel s (d :: ds, stop, tail)

/-- What reading members comes to. -/
inductive MembersRead (fuel : Nat) (s : List Char) :
    List (Leaf String × Draft) × Option Break × Option (List Char) → Prop where
  | keyBreaks {key : Leaf String} {d : Draft} (h : key.Broken) :
      MembersRead fuel s ([(key, d)], none, none)
  | colonMissing {key : Leaf String} {f : Fault} :
      MembersRead fuel s ([(key, .broken f)], none, none)
  | valueBreaks {key : Leaf String} {d : Draft} {r : List Char}
      (hd : readValue fuel r = (d, none)) : MembersRead fuel s ([(key, d)], none, none)
  | breaks {m : Leaf String × Draft} {f : Break} : MembersRead fuel s ([m], some f, none)
  | close {ks b r b' rest : List Char} {key : Leaf String} {d : Draft} (hb : Blanks b)
      (hb' : Blanks b') (hkey : readText ks = (key, some [])) (hs : s = ks ++ (b ++ ':' :: r))
      (hd : readValue fuel r = (d, some (b' ++ '\x7d' :: rest))) :
      MembersRead fuel s ([(key, d)], none, some rest)
  | comma {ks b r b' b₂ r' : List Char} {key : Leaf String} {d : Draft} {tail ms stop}
      (hb : Blanks b) (hb' : Blanks b') (hb₂ : Blanks b₂) (hkey : readText ks = (key, some []))
      (hs : s = ks ++ (b ++ ':' :: r))
      (hd : readValue fuel r = (d, some (b' ++ ',' :: (b₂ ++ '"' :: r'))))
      (hms : readMembers fuel r' = (ms, stop, tail)) :
      MembersRead fuel s ((key, d) :: ms, stop, tail)

theorem itemsRead (fuel : Nat) (s : List Char) :
    ItemsRead fuel s (readItems (fuel + 1) s) := by
  rw [readItems]
  split
  · rename_i hd
    exact .itemBreaks hd
  rename_i d r hd
  split
  · exact .breaks
  · rename_i hr
    obtain ⟨b, hb, rfl⟩ := skipBlanks_split hr
    exact .close hb hd
  · rename_i r' hr
    obtain ⟨b, hb, rfl⟩ := skipBlanks_split hr
    split
    · exact .breaks
    · exact .breaks
    · obtain ⟨b', hb', hr'⟩ := skipBlanks_split (s := r') rfl
      rw [hr'] at hd
      exact .comma hb hb' hd rfl
  · exact .breaks

theorem membersRead (fuel : Nat) (s : List Char) :
    MembersRead fuel s (readMembers (fuel + 1) s) := by
  rw [readMembers]
  split
  · rename_i hkey
    exact .keyBreaks (readText_broken hkey)
  rename_i key r hkey
  obtain ⟨ks, rfl, hks⟩ := readText_split hkey
  have hkey' : readText ks = (key, some []) := by simpa using hks []
  split
  · rename_i r' hr
    obtain ⟨b, hb, rfl⟩ := skipBlanks_split hr
    split
    · rename_i hd
      exact .valueBreaks hd
    rename_i d r₂ hd
    split
    · exact .breaks
    · rename_i hr₂
      obtain ⟨b', hb', rfl⟩ := skipBlanks_split hr₂
      exact .close hb hb' hkey' rfl hd
    · rename_i r₃ hr₂
      obtain ⟨b', hb', rfl⟩ := skipBlanks_split hr₂
      split
      · exact .breaks
      · rename_i r₄ hr₃
        obtain ⟨b₂, hb₂, rfl⟩ := skipBlanks_split hr₃
        exact .comma hb hb' hb₂ hkey' rfl hd rfl
      · exact .breaks
      · exact .breaks
    · exact .breaks
  · exact .colonMissing
  · exact .colonMissing

/-- Only a bracket starts an array or object. -/
theorem readLiteral_leaf (value : Scalar) (word s : List Char) :
    (∃ f, readLiteral value word s = (.broken f, none))
      ∨ ∃ rest, readLiteral value word s = (.scalar (.ok value), some rest) := by
  unfold readLiteral
  split
  · exact .inr ⟨_, rfl⟩
  · exact .inl ⟨_, rfl⟩

theorem broken_leaf (f : Fault) : (Leaf.broken (.plain f) : Leaf Scalar).Broken :=
  ⟨⟨f, rfl⟩, f, rfl⟩

theorem readValue_leafBreaks {fuel : Nat} {s : List Char} {leaf : Leaf Scalar}
    (h : readValue (fuel + 1) s = (.scalar leaf, none)) : leaf.Broken := by
  rw [readValue] at h
  split at h
  case h_1 =>
    cases h
    exact broken_leaf _
  case h_2 r _ | h_3 r _ | h_4 r _ =>
    rcases readLiteral_leaf _ _ r with ⟨f, hliteral⟩ | ⟨rest, hliteral⟩ <;> rw [hliteral] at h
    · cases h
      exact broken_leaf _
    · cases h
  case h_5 r _ =>
    rcases hnumber : readNumber true r with ⟨l, tail⟩
    rw [hnumber] at h
    cases h
    exact readNumber_broken hnumber
  case h_6 r _ =>
    rcases htext : readText r with ⟨l, tail⟩
    rw [htext] at h
    cases h
    obtain ⟨⟨f, hread⟩, hskip⟩ := readText_broken htext
    exact ⟨⟨f, by rw [Leaf.map, hread]; rfl⟩, hskip⟩
  case h_7 | h_8 => split at h <;> cases h
  case h_9 c r _ _ _ _ _ _ _ _ =>
    split at h
    · rcases hnumber : readNumber false (c :: r) with ⟨l, tail⟩
      rw [hnumber] at h
      cases h
      exact readNumber_broken hnumber
    · cases h
      exact broken_leaf _

theorem valueRead_leaf {fuel : Nat} {s : List Char} {leaf : Leaf Scalar}
    {tail : Option (List Char)} (h : readValue (fuel + 1) s = (.scalar leaf, tail)) :
    ValueRead fuel s (.scalar leaf, tail) := by
  cases tail with
  | none => exact .leafBreaks (readValue_leafBreaks h)
  | some rest =>
    rcases hs : skipBlanks s with _ | ⟨c, r⟩
    · rw [readValue, hs] at h
      cases h
    · obtain ⟨b, hb, rfl⟩ := skipBlanks_split hs
      have hc := skipBlanks_head hs
      rw [readValue_blanks hb] at h
      obtain ⟨cs, hcs, hall⟩ := readValue_split hc h
      exact .leaf hb (.scalar hc (by simpa using hall 0 [] (by simp [Ends]))) (by rw [hcs])

theorem valueRead (fuel : Nat) (s : List Char) :
    ValueRead fuel s (readValue (fuel + 1) s) := by
  rcases h : readValue (fuel + 1) s with ⟨leaf | ⟨items, stop⟩ | ⟨ms, stop⟩, tail⟩
  · exact valueRead_leaf h
  all_goals
    rw [readValue] at h
    split at h
    case h_2 r _ | h_3 r _ | h_4 r _ =>
      rcases readLiteral_leaf _ _ r with ⟨f, hliteral⟩ | ⟨rest, hliteral⟩ <;>
        rw [hliteral] at h <;>
        cases h
    case h_1 | h_5 | h_6 => cases h
    case h_9 => split at h <;> cases h
  · case h_7 r hs =>
      obtain ⟨b, hb, rfl⟩ := skipBlanks_split hs
      split at h
      · cases h
        exact .arrBreaks
      · rename_i hr
        obtain ⟨b', hb', rfl⟩ := skipBlanks_split hr
        cases h
        exact .emptyArr hb hb' rfl
      · obtain ⟨b', hb', hr⟩ := skipBlanks_split (s := r) rfl
        cases h
        exact .arr hb hb' (congrArg (fun t => b ++ '[' :: t) hr) rfl
  · case h_8 => split at h <;> cases h
  · case h_7 => split at h <;> cases h
  · case h_8 r hs =>
      obtain ⟨b, hb, rfl⟩ := skipBlanks_split hs
      split at h
      · cases h
        exact .objBreaks
      · rename_i hr
        obtain ⟨b', hb', rfl⟩ := skipBlanks_split hr
        cases h
        exact .emptyObj hb hb' rfl
      · rename_i r' hr
        obtain ⟨b', hb', rfl⟩ := skipBlanks_split hr
        cases h
        exact .obj hb hb' rfl rfl
      · cases h
        exact .objBreaks

/-! ## 6. What was read to its end spells what it was read as -/

mutual

theorem spells_of_readValue : ∀ (fuel : Nat) {s rest : List Char} {d : Draft},
    readValue fuel s = (d, some rest) →
      ∃ b cs, Blanks b ∧ Spells cs d ∧ s = b ++ (cs ++ rest)
  | 0, _, _, _, h => by cases h
  | fuel + 1, s, rest, d, h => by
      have hread := valueRead fuel s
      rw [h] at hread
      cases hread with
      | leaf hb hleaf hs => exact ⟨_, _, hb, hleaf, hs⟩
      | emptyArr hb hb' hs => exact ⟨_, _, hb, .emptyArr hb', by simp [hs]⟩
      | emptyObj hb hb' hs => exact ⟨_, _, hb, .emptyObj hb', by simp [hs]⟩
      | arr hb hb' hs hitems =>
        obtain ⟨rfl, b₂, cs, hb₂, hspells, rfl⟩ := spells_of_readItems fuel hitems
        exact ⟨_, _, hb, .arr (hb'.append hb₂) hspells, by simp [hs]⟩
      | obj hb hb' hs hms =>
        obtain ⟨rfl, cs, hspells, rfl⟩ := spells_of_readMembers fuel hms
        exact ⟨_, _, hb, .obj hb' hspells, by simp [hs]⟩

theorem spells_of_readItems : ∀ (fuel : Nat) {s rest : List Char} {ds : List Draft}
    {stop : Option Break}, readItems fuel s = (ds, stop, some rest) → stop = none
      ∧ ∃ b cs, Blanks b ∧ SpellsItems cs ds ∧ s = b ++ (cs ++ ']' :: rest)
  | 0, _, _, _, _, h => by cases h
  | fuel + 1, s, rest, ds, stop, h => by
      have hread := itemsRead fuel s
      rw [h] at hread
      cases hread with
      | close hb hd =>
        obtain ⟨b', cs, hb', hspells, rfl⟩ := spells_of_readValue fuel hd
        exact ⟨rfl, b', _, hb', .one hspells hb, by simp⟩
      | comma hb hb' hd hds =>
        obtain ⟨b₂, cs, hb₂, hspells, rfl⟩ := spells_of_readValue fuel hd
        obtain ⟨rfl, b₃, cs', hb₃, hrest, rfl⟩ := spells_of_readItems fuel hds
        exact ⟨rfl, b₂, _, hb₂, .more hspells hb (hb'.append hb₃) hrest, by simp⟩

theorem spells_of_readMembers : ∀ (fuel : Nat) {s rest : List Char}
    {ms : List (Leaf String × Draft)} {stop : Option Break},
      readMembers fuel s = (ms, stop, some rest) → stop = none
        ∧ ∃ cs, SpellsMembers cs ms ∧ s = cs ++ '\x7d' :: rest
  | 0, _, _, _, _, h => by cases h
  | fuel + 1, s, rest, ms, stop, h => by
      have hread := membersRead fuel s
      rw [h] at hread
      cases hread with
      | close hb hb' hkey hs hd =>
        obtain ⟨b₂, cs, hb₂, hspells, rfl⟩ := spells_of_readValue fuel hd
        exact ⟨rfl, _, .one (.mk hkey hb hb₂ hspells) hb', by simp [hs]⟩
      | comma hb hb' hb₂ hkey hs hd hms =>
        obtain ⟨b₃, cs, hb₃, hspells, rfl⟩ := spells_of_readValue fuel hd
        obtain ⟨rfl, cs', hrest, rfl⟩ := spells_of_readMembers fuel hms
        exact ⟨rfl, _, .more (.mk hkey hb hb₃ hspells) hb' hb₂ hrest, by simp [hs]⟩

end

/-! ## 7. What was not read to its end -/

/-- Somewhere the draft breaks off, for every reader. -/
inductive Broken : Draft → Prop where
  | leaf {leaf : Leaf Scalar} (h : leaf.Broken) : Broken (.scalar leaf)
  | arr {items : List Draft} {f : Break} : Broken (.arr items (some f))
  | item {items : List Draft} {d : Draft} {stop : Option Break} (hmem : d ∈ items)
      (h : Broken d) :
      Broken (.arr items stop)
  | obj {ms : List (Leaf String × Draft)} {f : Break} : Broken (.obj ms (some f))
  | key {ms : List (Leaf String × Draft)} {m : Leaf String × Draft} {stop : Option Break}
      (hmem : m ∈ ms) (h : m.1.Broken) : Broken (.obj ms stop)
  | value {ms : List (Leaf String × Draft)} {m : Leaf String × Draft} {stop : Option Break}
      (hmem : m ∈ ms) (h : Broken m.2) : Broken (.obj ms stop)

theorem Broken.arr_cons {items : List Draft} {stop : Option Break}
    (h : Broken (.arr items stop)) (d : Draft) : Broken (.arr (d :: items) stop) := by
  cases h with
  | arr => exact .arr
  | item hmem h => exact .item (List.mem_cons_of_mem _ hmem) h

theorem Broken.obj_cons {ms : List (Leaf String × Draft)} {stop : Option Break}
    (h : Broken (.obj ms stop)) (m : Leaf String × Draft) : Broken (.obj (m :: ms) stop) := by
  cases h with
  | obj => exact .obj
  | key hmem h => exact .key (List.mem_cons_of_mem _ hmem) h
  | value hmem h => exact .value (List.mem_cons_of_mem _ hmem) h

theorem broken_broken (f : Fault) : Broken (.broken f) := .leaf (broken_leaf f)

mutual

theorem broken_of_readValue : ∀ (fuel : Nat) {s : List Char} {d : Draft},
    readValue fuel s = (d, none) → Broken d
  | 0, _, _, h => by
      cases h
      exact broken_broken _
  | fuel + 1, s, d, h => by
      have hread := valueRead fuel s
      rw [h] at hread
      cases hread with
      | leafBreaks hleaf => exact .leaf hleaf
      | arrBreaks => exact .arr
      | objBreaks => exact .obj
      | arr _ _ _ hitems => exact broken_of_readItems fuel hitems
      | obj _ _ _ hms => exact broken_of_readMembers fuel hms

theorem broken_of_readItems : ∀ (fuel : Nat) {s : List Char} {ds : List Draft}
    {stop : Option Break}, readItems fuel s = (ds, stop, none) → Broken (.arr ds stop)
  | 0, _, _, _, h => by
      cases h
      exact .arr
  | fuel + 1, s, ds, stop, h => by
      have hread := itemsRead fuel s
      rw [h] at hread
      cases hread with
      | itemBreaks hd => exact .item List.mem_cons_self (broken_of_readValue fuel hd)
      | breaks => exact .arr
      | comma _ _ _ hds => exact (broken_of_readItems fuel hds).arr_cons _

theorem broken_of_readMembers : ∀ (fuel : Nat) {s : List Char}
    {ms : List (Leaf String × Draft)} {stop : Option Break},
      readMembers fuel s = (ms, stop, none) → Broken (.obj ms stop)
  | 0, _, _, _, h => by
      cases h
      exact .obj
  | fuel + 1, s, ms, stop, h => by
      have hread := membersRead fuel s
      rw [h] at hread
      cases hread with
      | keyBreaks hkey => exact .key List.mem_cons_self hkey
      | colonMissing => exact .value List.mem_cons_self (broken_broken _)
      | valueBreaks hd => exact .value List.mem_cons_self (broken_of_readValue fuel hd)
      | breaks => exact .obj
      | comma _ _ _ _ _ _ hms => exact (broken_of_readMembers fuel hms).obj_cons _

end

/-- **A text that is read without a break spells its draft.** -/
theorem spelled_of_ofText {text : String} (h : (Draft.ofText text).trailing = false)
    (hbroken : ¬ Broken (Draft.ofText text).value) :
    Spelled text (Draft.ofText text).value := by
  unfold Draft.ofText at h hbroken ⊢
  dsimp only at h hbroken ⊢
  split at h
  · rename_i d rest hread
    obtain ⟨b, cs, hb, hspells, hs⟩ := spells_of_readValue _ hread
    obtain ⟨b', hb', hrest⟩ := skipBlanks_split (s := rest) rfl
    have hnothing : skipBlanks rest = [] := by simpa using h
    rw [hnothing, List.append_nil] at hrest
    exact ⟨b, cs, rest, hb, hrest ▸ hb', hspells, hs⟩
  · rename_i d hread
    rw [hread] at hbroken
    exact absurd (broken_of_readValue _ hread) hbroken

/-! ## 8. Drafts that are spelled -/

/-- Some characters spell the draft. -/
def Spellable (d : Draft) : Prop := ∃ cs, Spells cs d

/-- Some characters spell the key and its value. -/
def SpellableMember (m : Leaf String × Draft) : Prop := ∃ cs, SpellsMember cs m

theorem blanks_nil : Blanks [] := fun _ h => absurd h List.not_mem_nil

theorem spellable_of_mem_items : ∀ {ds : List Draft} {cs : List Char}, SpellsItems cs ds →
    ∀ d ∈ ds, Spellable d
  | _, _, .one hd _ => List.forall_mem_singleton.2 ⟨_, hd⟩
  | _, _, .more hd _ _ hds => List.forall_mem_cons.2 ⟨⟨_, hd⟩, spellable_of_mem_items hds⟩

theorem spellable_of_mem_members : ∀ {ms : List (Leaf String × Draft)} {cs : List Char},
    SpellsMembers cs ms → ∀ m ∈ ms, SpellableMember m
  | _, _, .one hm _ => List.forall_mem_singleton.2 ⟨_, hm⟩
  | _, _, .more hm _ _ hms => List.forall_mem_cons.2 ⟨⟨_, hm⟩, spellable_of_mem_members hms⟩

theorem exists_spellsItems : ∀ (ds : List Draft) (d : Draft), Spellable d →
    (∀ x ∈ ds, Spellable x) → ∃ cs, SpellsItems cs (d :: ds)
  | [], _, ⟨_, hd⟩, _ => ⟨_, .one hd blanks_nil⟩
  | x :: xs, _, ⟨_, hd⟩, h => by
      obtain ⟨hx, hxs⟩ := List.forall_mem_cons.1 h
      obtain ⟨_, hrest⟩ := exists_spellsItems xs x hx hxs
      exact ⟨_, .more hd blanks_nil blanks_nil hrest⟩

theorem exists_spellsMembers : ∀ (ms : List (Leaf String × Draft)) (m : Leaf String × Draft),
    SpellableMember m → (∀ x ∈ ms, SpellableMember x) → ∃ cs, SpellsMembers cs (m :: ms)
  | [], _, ⟨_, hm⟩, _ => ⟨_, .one hm blanks_nil⟩
  | x :: xs, _, ⟨_, hm⟩, h => by
      obtain ⟨hx, hxs⟩ := List.forall_mem_cons.1 h
      obtain ⟨_, hrest⟩ := exists_spellsMembers xs x hx hxs
      exact ⟨_, .more hm blanks_nil blanks_nil hrest⟩

theorem spellable_arr {items : List Draft} {stop : Option Break} :
    Spellable (.arr items stop) ↔ stop = none ∧ ∀ d ∈ items, Spellable d := by
  constructor
  · rintro ⟨cs, h⟩
    cases h with
    | emptyArr => exact ⟨rfl, fun _ h => absurd h List.not_mem_nil⟩
    | arr _ hitems => exact ⟨rfl, spellable_of_mem_items hitems⟩
  · rintro ⟨rfl, h⟩
    cases items with
    | nil => exact ⟨_, .emptyArr blanks_nil⟩
    | cons d ds =>
      obtain ⟨hd, hds⟩ := List.forall_mem_cons.1 h
      obtain ⟨_, hitems⟩ := exists_spellsItems ds d hd hds
      exact ⟨_, .arr blanks_nil hitems⟩

theorem spellable_obj {ms : List (Leaf String × Draft)} {stop : Option Break} :
    Spellable (.obj ms stop) ↔ stop = none ∧ ∀ m ∈ ms, SpellableMember m := by
  constructor
  · rintro ⟨cs, h⟩
    cases h with
    | emptyObj => exact ⟨rfl, fun _ h => absurd h List.not_mem_nil⟩
    | obj _ hms => exact ⟨rfl, spellable_of_mem_members hms⟩
  · rintro ⟨rfl, h⟩
    cases ms with
    | nil => exact ⟨_, .emptyObj blanks_nil⟩
    | cons m ms =>
      obtain ⟨hm, hms⟩ := List.forall_mem_cons.1 h
      obtain ⟨_, hmembers⟩ := exists_spellsMembers ms m hm hms
      exact ⟨_, .obj blanks_nil hmembers⟩

theorem SpellableMember.replace {key : Leaf String} {d d' : Draft}
    (h : SpellableMember (key, d)) (hd : Spellable d → Spellable d') :
    SpellableMember (key, d') := by
  obtain ⟨_, ⟨hkey, hb, hb', hspells⟩⟩ := h
  obtain ⟨_, hspells'⟩ := hd ⟨_, hspells⟩
  exact ⟨_, .mk hkey hb hb' hspells'⟩

theorem exists_spelled {d : Draft} (h : Spellable d) : ∃ text, Spelled text d := by
  obtain ⟨cs, hspells⟩ := h
  exact ⟨String.ofList cs, [], cs, [], blanks_nil, blanks_nil, hspells, by simp⟩

end Marginalia.Json
