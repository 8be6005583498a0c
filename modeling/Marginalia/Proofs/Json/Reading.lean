/-
Marginalia.Proofs.Json.Reading — the text of a value is read as the value.

`ofText_compact` and `ofText_pretty`: reading either text of a value whose
numbers are whole and fit 64 bits gives the draft of the value, without a
fault anywhere and with nothing behind it. A line feed behind the text makes
no difference (`ofText_prettyLine`). Floating point numbers are left
out: their texts are another matter.

## How the proof goes

`Readable` says of a value that its text, laid out at any depth and behind
any blanks, is read as its draft and nothing more of what follows is
touched. The condition on what follows is `Ends`: a number must not run on.
Items and members are folded along their lists, given that each value is
readable (`readItems_of_readable`, `readMembers_of_readable`), and the
induction on values only puts that together.

Fuel is bounded by twice the length of the text: a level of nesting takes
two calls and at least one character.
-/
import Marginalia.Proofs.Json.Layout
import Marginalia.Proofs.Json.Leaf

namespace Marginalia.Json

/-! ## 1. Values and their drafts -/

mutual

/-- The draft of a value: it holds the value and no fault. -/
def Draft.ofJson : Json → Draft
  | .null => .scalar (.ok .null)
  | .bool b => .scalar (.ok (.bool b))
  | .number n => .scalar (.ok (.number n))
  | .text s => .scalar (.ok (.text s))
  | .arr items => .arr (Draft.ofItems items) none
  | .obj ms => .obj (Draft.ofMembers ms) none

/-- The drafts of items. -/
def Draft.ofItems : List Json → List Draft
  | [] => []
  | j :: js => Draft.ofJson j :: Draft.ofItems js

/-- The drafts of members. -/
def Draft.ofMembers : List (String × Json) → List (Leaf String × Draft)
  | [] => []
  | (key, value) :: ms => (.ok key, Draft.ofJson value) :: Draft.ofMembers ms

end

mutual

/-- Every number in the value is whole and fits 64 bits. -/
def Exact : Json → Prop
  | .number (.integer n) => FitsWord n
  | .number (.float _) => False
  | .arr items => ExactItems items
  | .obj ms => ExactMembers ms
  | .null | .bool _ | .text _ => True

/-- Every number in the items is whole and fits 64 bits. -/
def ExactItems : List Json → Prop
  | [] => True
  | j :: js => Exact j ∧ ExactItems js

/-- Every number in the members is whole and fits 64 bits. -/
def ExactMembers : List (String × Json) → Prop
  | [] => True
  | (_, j) :: ms => Exact j ∧ ExactMembers ms

end

mutual

/-- Whether the numbers of a value are whole and fit can be checked. -/
def decideExact : ∀ j : Json, Decidable (Exact j)
  | .number (.integer _) => inferInstanceAs (Decidable (_ ∧ _))
  | .number (.float _) => .isFalse id
  | .arr js => decideExactItems js
  | .obj ms => decideExactMembers ms
  | .null | .bool _ | .text _ => .isTrue trivial

/-- Whether the numbers of items are whole and fit can be checked. -/
def decideExactItems : ∀ js : List Json, Decidable (ExactItems js)
  | [] => .isTrue trivial
  | j :: js => @instDecidableAnd _ _ (decideExact j) (decideExactItems js)

/-- Whether the numbers of members are whole and fit can be checked. -/
def decideExactMembers : ∀ ms : List (String × Json), Decidable (ExactMembers ms)
  | [] => .isTrue trivial
  | (_, j) :: ms => @instDecidableAnd _ _ (decideExact j) (decideExactMembers ms)

end

instance : DecidablePred Exact := decideExact

theorem exactMembers_iff {ms : List (String × Json)} :
    ExactMembers ms ↔ ∀ e ∈ ms, Exact e.2 := by
  induction ms with
  | nil => simp [ExactMembers]
  | cons e ms ih =>
    obtain ⟨_, _⟩ := e
    rw [ExactMembers, ih, List.forall_mem_cons]

theorem ofMembers_append : ∀ ms ns : List (String × Json),
    Draft.ofMembers (ms ++ ns) = Draft.ofMembers ms ++ Draft.ofMembers ns
  | [], _ => rfl
  | _ :: ms, ns => congrArg (_ :: ·) (ofMembers_append ms ns)

/-! ## 2. Blanks -/

/-- All the characters are blanks. -/
def Blanks (s : List Char) : Prop := ∀ c ∈ s, isBlank c = true

theorem skipBlanks_append {blanks : List Char} (hb : Blanks blanks) {c : Char}
    (hc : isBlank c = false) (r : List Char) : skipBlanks (blanks ++ c :: r) = c :: r := by
  rw [skipBlanks, List.dropWhile_append_of_pos hb]
  simp [hc]

theorem skipBlanks_cons {c : Char} (hc : isBlank c = false) (r : List Char) :
    skipBlanks (c :: r) = c :: r :=
  skipBlanks_append (fun _ h => absurd h List.not_mem_nil) hc r

theorem ends_blanks {blanks r : List Char} (hb : Blanks blanks) (hr : Ends r) :
    Ends (blanks ++ r) := by
  cases blanks with
  | nil => exact hr
  | cons c blanks =>
    have hc := hb c (by simp)
    simp only [isBlank, Bool.or_eq_true, beq_iff_eq] at hc
    intro x hx
    obtain rfl : c = x := by simpa using hx
    rcases hc with ((rfl | rfl) | rfl) | rfl <;> decide

theorem ends_cons {c : Char} (hc : c.isDigit = false ∧ c ≠ '.' ∧ c ≠ 'e' ∧ c ≠ 'E')
    (r : List Char) : Ends (c :: r) := by
  intro x hx
  obtain rfl : c = x := by simpa using hx
  exact hc

/-! ## 3. Numbers -/

/-- The digits of a number start with a digit. -/
theorem toDigits_cons (n : Nat) :
    ∃ c ds, Nat.toDigits 10 n = c :: ds ∧ c.isDigit = true := by
  obtain ⟨c, ds, h⟩ := List.exists_cons_of_ne_nil (Nat.toDigits_ne_nil (n := n) (b := 10))
  exact ⟨c, ds, h, isDigit_of_mem_toDigits c (h ▸ List.mem_cons_self)⟩

/-- A digit is none of the other characters that values start with. -/
theorem digit_ne {c : Char} (hc : c.isDigit = true) :
    isBlank c = false ∧ c ≠ 'n' ∧ c ≠ 't' ∧ c ≠ 'f' ∧ c ≠ '-' ∧ c ≠ '"' ∧ c ≠ '[' ∧ c ≠ '\x7b'
      ∧ c ≠ ']' := by
  refine ⟨?_, ?_, ?_, ?_, ?_, ?_, ?_, ?_, ?_⟩
  · rw [Bool.eq_false_iff]
    intro hb
    simp only [isBlank, Bool.or_eq_true, beq_iff_eq] at hb
    rcases hb with ((rfl | rfl) | rfl) | rfl <;> exact absurd hc (by decide)
  all_goals
    rintro rfl
    exact absurd hc (by decide)

theorem readValue_digits (fuel n : Nat) {blanks r : List Char} (hb : Blanks blanks) :
    readValue (fuel + 1) (blanks ++ (Nat.toDigits 10 n ++ r))
      = (let (l, r) := readNumber false (Nat.toDigits 10 n ++ r); (.scalar l, r)) := by
  obtain ⟨c, ds, h, hc⟩ := toDigits_cons n
  rw [h, List.cons_append, readValue, skipBlanks_append hb (digit_ne hc).1]
  split <;> rename_i heq <;> simp only [List.cons.injEq, reduceCtorEq] at heq
  all_goals obtain ⟨rfl, rfl⟩ := heq
  all_goals first | exact absurd hc (by decide) | simp only [hc, if_true]

/-- A whole number is read from its text. -/
theorem readValue_integer (fuel : Nat) {n : Int} (hn : FitsWord n) {blanks r : List Char}
    (hb : Blanks blanks) (hr : Ends r) :
    readValue (fuel + 1) (blanks ++ (integerText n ++ r))
      = (.scalar (.ok (.number (.integer n))), some r) := by
  unfold FitsWord at hn
  rw [integerText]
  split
  · rename_i hneg
    have hm : Number.ofText? ⟨true, digitValues (Nat.toDigits 10 n.natAbs), none, none⟩
        = some (.integer n) := by
      rw [ofText?_negative (by omega) (by omega)]
      congr 2
      omega
    rw [List.cons_append, readValue, skipBlanks_append hb (by decide)]
    simp [readNumber_toDigits true _ hr hm]
  · have hm : Number.ofText? ⟨false, digitValues (Nat.toDigits 10 n.natAbs), none, none⟩
        = some (.integer n) := by
      rw [ofText?_toDigits (by omega)]
      congr 2
      omega
    rw [readValue_digits fuel _ hb, readNumber_toDigits false _ hr hm]

/-! ## 4. What is to be proved of a value -/

variable (L : Layout)

/-- Every value starts with a character that is no blank and closes no array. -/
theorem laidOut_head (depth : Nat) {j : Json} (hj : Exact j) :
    ∃ c r, laidOut L depth j = c :: r ∧ isBlank c = false ∧ c ≠ ']' := by
  cases j with
  | null | text => exact ⟨_, _, rfl, by decide, by decide⟩
  | bool b => cases b <;> exact ⟨_, _, rfl, by decide, by decide⟩
  | number n =>
    cases n with
    | float => exact hj.elim
    | integer n =>
      obtain ⟨c, ds, h, hc⟩ := toDigits_cons n.natAbs
      simp only [laidOut, Number.text, integerText]
      split
      · exact ⟨_, _, rfl, by decide, by decide⟩
      · exact ⟨c, ds, h, (digit_ne hc).1, (digit_ne hc).2.2.2.2.2.2.2.2⟩
  | arr items => cases items <;> exact ⟨_, _, rfl, by decide, by decide⟩
  | obj ms => rcases ms with _ | ⟨⟨_, _⟩, _⟩ <;> exact ⟨_, _, rfl, by decide, by decide⟩

/-- The text of the value, at any depth and behind any blanks, is read as the
value's draft, and what comes behind it is left. -/
def Readable (j : Json) : Prop :=
  ∀ (depth fuel : Nat) (blanks rest : List Char), Blanks blanks → Ends rest →
    2 * (laidOut L depth j).length ≤ fuel →
      readValue fuel (blanks ++ (laidOut L depth j ++ rest)) = (Draft.ofJson j, some rest)

/-- The end of an array or object ends a number before it. -/
theorem ends_close (depth : Nat) {c : Char} (hc : c = ']' ∨ c = '\x7d') (rest : List Char) :
    Ends (L.line depth ++ c :: rest) := by
  refine ends_blanks (L.line_blank depth) ?_
  rcases hc with rfl | rfl <;> exact ends_cons (by decide) rest

/-! ## 5. Items -/

theorem ends_laidOutItems (depth : Nat) (js : List Json) {rest : List Char} (hr : Ends rest) :
    Ends (laidOutItems L depth js ++ rest) := by
  cases js with
  | nil => exact hr
  | cons j js => exact ends_cons (by decide) _

theorem readItems_of_readable (depth : Nat) (rest : List Char) : ∀ (js : List Json) (j : Json),
    Readable L j → (∀ x ∈ js, Exact x ∧ Readable L x) → ∀ (fuel d : Nat),
      2 * ((laidOut L depth j).length + (laidOutItems L depth js).length) < fuel →
        readItems fuel (laidOut L depth j
            ++ (laidOutItems L depth js ++ (L.line d ++ ']' :: rest)))
          = (Draft.ofJson j :: Draft.ofItems js, none, some rest)
  | _, _, _, _, 0, _, hf => absurd hf (by omega)
  | js, j, hj, hjs, fuel + 1, d, hf => by
      have hends : Ends (laidOutItems L depth js ++ (L.line d ++ ']' :: rest)) :=
        ends_laidOutItems L depth js (ends_close L d (.inl rfl) rest)
      have hvalue := hj depth fuel [] _ (by simp [Blanks]) hends (by omega)
      rw [List.nil_append] at hvalue
      rw [readItems, hvalue]
      cases js with
      | nil =>
        simp [laidOutItems, Draft.ofItems, skipBlanks_append (L.line_blank d)
          (show isBlank ']' = false by decide)]
      | cons x xs =>
        obtain ⟨hx, hxs⟩ := List.forall_mem_cons.1 hjs
        obtain ⟨c, r, hc, hblank, hclose⟩ := laidOut_head L depth hx.1
        have hfuel : 2 * ((laidOut L depth x).length
            + (laidOutItems L depth xs).length) < fuel := by
          simp only [laidOutItems, List.length_append, List.length_cons] at hf
          omega
        have ih := readItems_of_readable depth rest xs x hx.2 hxs fuel d hfuel
        rw [hc, List.cons_append] at ih
        simp [laidOutItems, Draft.ofItems, hc,
          skipBlanks_cons (show isBlank ',' = false by decide),
          skipBlanks_append (L.line_blank depth) hblank, hclose, ih]

/-! ## 6. Members -/

theorem ends_laidOutMembers (depth : Nat) (ms : List (String × Json)) {rest : List Char}
    (hr : Ends rest) : Ends (laidOutMembers L depth ms ++ rest) := by
  cases ms with
  | nil => exact hr
  | cons m ms => exact ends_cons (by decide) _

theorem readMembers_of_readable (depth : Nat) (rest : List Char) :
    ∀ (ms : List (String × Json)) (key : String) (j : Json), Readable L j →
      (∀ e ∈ ms, Readable L e.2) → ∀ (fuel d : Nat),
        2 * ((quoted key).length + (laidOut L depth j).length
          + (laidOutMembers L depth ms).length) < fuel →
        readMembers fuel (escape key.toList ++ '"' :: ':' :: (L.gap ++ (laidOut L depth j
            ++ (laidOutMembers L depth ms ++ (L.line d ++ '\x7d' :: rest)))))
          = ((.ok key, Draft.ofJson j) :: Draft.ofMembers ms, none, some rest)
  | _, _, _, _, _, 0, _, hf => absurd hf (by omega)
  | ms, key, j, hj, hms, fuel + 1, d, hf => by
      have hends : Ends (laidOutMembers L depth ms ++ (L.line d ++ '\x7d' :: rest)) :=
        ends_laidOutMembers L depth ms (ends_close L d (.inr rfl) rest)
      have hvalue := hj depth fuel L.gap _ L.gap_blank hends (by omega)
      rw [readMembers, readText_escape]
      simp only [skipBlanks_cons (show isBlank ':' = false by decide), hvalue]
      cases ms with
      | nil =>
        simp [laidOutMembers, Draft.ofMembers, skipBlanks_append (L.line_blank d)
          (show isBlank '\x7d' = false by decide), Leaf.ok]
      | cons e ms =>
        obtain ⟨k, x⟩ := e
        obtain ⟨hx, hxs⟩ := List.forall_mem_cons.1 hms
        have hfuel : 2 * ((quoted k).length + (laidOut L depth x).length
            + (laidOutMembers L depth ms).length) < fuel := by
          simp only [laidOutMembers, List.length_append, List.length_cons] at hf
          omega
        have ih := readMembers_of_readable depth rest ms k x hx hxs fuel d hfuel
        simp [laidOutMembers, Draft.ofMembers, quoted,
          skipBlanks_cons (show isBlank ',' = false by decide),
          skipBlanks_append (L.line_blank depth) (show isBlank '"' = false by decide), ih,
            Leaf.ok]

/-! ## 7. Every value is readable -/

/-- A value takes one unit of fuel at least. -/
theorem readable_of_succ {j : Json} (hj : Exact j)
    (h : ∀ (depth fuel : Nat) (blanks rest : List Char), Blanks blanks → Ends rest →
      2 * (laidOut L depth j).length ≤ fuel + 1 →
        readValue (fuel + 1) (blanks ++ (laidOut L depth j ++ rest))
          = (Draft.ofJson j, some rest)) : Readable L j
  | depth, fuel + 1, blanks, rest, hb, hr, hf => h depth fuel blanks rest hb hr hf
  | depth, 0, _, _, _, _, hf => by
      obtain ⟨c, r, hc, _⟩ := laidOut_head L depth hj
      simp [hc] at hf

theorem readable_null : Readable L .null := by
  refine readable_of_succ L trivial fun depth fuel blanks rest hb _ _ => ?_
  rw [laidOut, List.cons_append, readValue, skipBlanks_append hb (by decide)]
  rfl

theorem readable_bool : ∀ b : Bool, Readable L (.bool b)
  | true => by
      refine readable_of_succ L trivial fun depth fuel blanks rest hb _ _ => ?_
      rw [laidOut, List.cons_append, readValue, skipBlanks_append hb (by decide)]
      rfl
  | false => by
      refine readable_of_succ L trivial fun depth fuel blanks rest hb _ _ => ?_
      rw [laidOut, List.cons_append, readValue, skipBlanks_append hb (by decide)]
      rfl

theorem readable_integer {n : Int} (hn : FitsWord n) : Readable L (.number (.integer n)) :=
  readable_of_succ L hn fun _ fuel _ _ hb hr _ => readValue_integer fuel hn hb hr

theorem readable_text (s : String) : Readable L (.text s) := by
  refine readable_of_succ L trivial fun depth fuel blanks rest hb _ _ => ?_
  rw [laidOut, quoted, List.cons_append, List.cons_append, readValue,
    skipBlanks_append hb (by decide)]
  simp only [List.append_assoc, List.singleton_append, readText_escape]
  rfl

theorem readable_arr : ∀ (js : List Json), (∀ x ∈ js, Exact x ∧ Readable L x) →
    Exact (.arr js) → Readable L (.arr js)
  | [], _, h => by
      refine readable_of_succ L h fun depth fuel blanks rest hb _ _ => ?_
      rw [laidOut, List.cons_append, readValue, skipBlanks_append hb (by decide)]
      rfl
  | j :: js, hjs, h => by
      refine readable_of_succ L h fun depth fuel blanks rest hb _ hf => ?_
      obtain ⟨⟨hexact, hj⟩, hjs⟩ := List.forall_mem_cons.1 hjs
      obtain ⟨c, r, hc, hblank, hclose⟩ := laidOut_head L (depth + 1) hexact
      have hfuel : 2 * ((laidOut L (depth + 1) j).length
          + (laidOutItems L (depth + 1) js).length) < fuel := by
        simp only [laidOut, List.length_cons, List.length_append] at hf
        omega
      have hitems := readItems_of_readable L (depth + 1) rest js j hj hjs fuel depth hfuel
      rw [hc, List.cons_append] at hitems
      rw [laidOut, List.cons_append, readValue, skipBlanks_append hb (by decide)]
      simp [hc, skipBlanks_append (L.line_blank (depth + 1)) hblank, hclose, hitems,
        Draft.ofJson, Draft.ofItems]

theorem readable_obj : ∀ (ms : List (String × Json)), (∀ e ∈ ms, Readable L e.2) →
    Exact (.obj ms) → Readable L (.obj ms)
  | [], _, h => by
      refine readable_of_succ L h fun depth fuel blanks rest hb _ _ => ?_
      rw [laidOut, List.cons_append, readValue, skipBlanks_append hb (by decide)]
      rfl
  | (key, j) :: ms, hms, h => by
      refine readable_of_succ L h fun depth fuel blanks rest hb _ hf => ?_
      obtain ⟨hj, hms⟩ := List.forall_mem_cons.1 hms
      have hfuel : 2 * ((quoted key).length + (laidOut L (depth + 1) j).length
          + (laidOutMembers L (depth + 1) ms).length) < fuel := by
        simp only [laidOut, List.length_cons, List.length_append] at hf
        omega
      have hmembers :=
        readMembers_of_readable L (depth + 1) rest ms key j hj hms fuel depth hfuel
      rw [laidOut, List.cons_append, readValue, skipBlanks_append hb (by decide)]
      simp [quoted, skipBlanks_append (L.line_blank (depth + 1))
        (show isBlank '"' = false by decide), hmembers, Draft.ofJson, Draft.ofMembers]

mutual

theorem readable : ∀ {j : Json}, Exact j → Readable L j
  | .null, _ => readable_null L
  | .bool b, _ => readable_bool L b
  | .number (.integer _), h => readable_integer L h
  | .number (.float _), h => h.elim
  | .text s, _ => readable_text L s
  | .arr js, h => readable_arr L js (readable_items h) h
  | .obj ms, h => readable_obj L ms (readable_members h) h

theorem readable_items : ∀ {js : List Json}, ExactItems js → ∀ x ∈ js, Exact x ∧ Readable L x
  | [], _ => by simp
  | _ :: _, h => List.forall_mem_cons.2 ⟨⟨h.1, readable h.1⟩, readable_items h.2⟩

theorem readable_members : ∀ {ms : List (String × Json)}, ExactMembers ms →
    ∀ e ∈ ms, Readable L e.2
  | [], _ => by simp
  | (_, _) :: _, h => List.forall_mem_cons.2 ⟨readable h.1, readable_members h.2⟩

end

/-! ## 8. Whole texts -/

/-- The text of a value is read as the draft of the value, also with blanks
behind it. -/
theorem ofText_laidOut {j : Json} (h : Exact j) {blanks : List Char} (hb : Blanks blanks) :
    Draft.ofText (String.ofList (laidOut L 0 j ++ blanks)) = ⟨Draft.ofJson j, false⟩ := by
  have hends : Ends blanks := List.append_nil blanks ▸ ends_blanks hb (by simp [Ends])
  have hread := readable L h 0 (2 * (laidOut L 0 j ++ blanks).length + 2) [] blanks
    (by simp [Blanks]) hends (by rw [List.length_append]; omega)
  have hnothing : skipBlanks (blanks ++ []) = [] := List.dropWhile_append_of_pos hb
  rw [List.append_nil] at hnothing
  rw [List.nil_append] at hread
  simp only [Draft.ofText, String.toList_ofList, hread, hnothing]
  rfl

/-- The text without blanks is read as the draft of the value. -/
theorem ofText_compact {j : Json} (h : Exact j) :
    Draft.ofText j.compact = ⟨Draft.ofJson j, false⟩ := by
  have hread := ofText_laidOut .compact h (show Blanks [] by simp [Blanks])
  rwa [List.append_nil, ← compactChars_eq] at hread

/-- The indented text is read as the draft of the value. -/
theorem ofText_pretty {j : Json} (h : Exact j) :
    Draft.ofText j.pretty = ⟨Draft.ofJson j, false⟩ := by
  have hread := ofText_laidOut .pretty h (show Blanks [] by simp [Blanks])
  rwa [List.append_nil, ← prettyChars_eq] at hread

/-- The indented text with a line feed behind it is read as the draft of the
value. -/
theorem ofText_prettyLine {j : Json} (h : Exact j) :
    Draft.ofText (j.pretty ++ "\n") = ⟨Draft.ofJson j, false⟩ := by
  have hread := ofText_laidOut .pretty h (show Blanks ['\n'] by simp [Blanks, isBlank])
  rwa [String.ofList_append, ← prettyChars_eq] at hread

/-! ## 9. The values of drafts -/

mutual

/-- The draft of a value stands for the value, as far as its nesting is allowed. -/
theorem toJson_ofJson {depth : Nat} : ∀ {j : Json}, depth + j.nesting ≤ depthLimit →
    (Draft.ofJson j).toJson depth = .ok j
  | .null, _ | .bool _, _ | .number _, _ | .text _, _ => rfl
  | .arr js, h => by
      rw [nesting] at h
      have hdepth : ¬ depthLimit ≤ depth := by omega
      have hitems : Draft.itemsToJson (depth + 1) (Draft.ofItems js) = .ok js :=
        toJson_ofItems (by omega)
      simp [Draft.ofJson, Draft.toJson, hdepth, hitems, breakRead, bind, Except.bind, pure,
        Except.pure]
  | .obj ms, h => by
      rw [nesting] at h
      have hdepth : ¬ depthLimit ≤ depth := by omega
      have hmembers : Draft.membersToJson (depth + 1) (Draft.ofMembers ms) = .ok ms :=
        toJson_ofMembers (by omega)
      simp [Draft.ofJson, Draft.toJson, hdepth, hmembers, breakRead, bind, Except.bind, pure,
        Except.pure]

theorem toJson_ofItems {depth : Nat} :
    ∀ {js : List Json}, depth + nestingItems js ≤ depthLimit →
    Draft.itemsToJson depth (Draft.ofItems js) = .ok js
  | [], _ => rfl
  | j :: js, h => by
      rw [nestingItems] at h
      have hj : (Draft.ofJson j).toJson depth = .ok j := toJson_ofJson (by omega)
      have hjs : Draft.itemsToJson depth (Draft.ofItems js) = .ok js :=
        toJson_ofItems (by omega)
      simp [Draft.ofItems, Draft.itemsToJson, hj, hjs, bind, Except.bind, pure, Except.pure]

theorem toJson_ofMembers {depth : Nat} : ∀ {ms : List (String × Json)},
    depth + nestingMembers ms ≤ depthLimit →
      Draft.membersToJson depth (Draft.ofMembers ms) = .ok ms
  | [], _ => rfl
  | (key, j) :: ms, h => by
      rw [nestingMembers] at h
      have hj : (Draft.ofJson j).toJson depth = .ok j := toJson_ofJson (by omega)
      have hms : Draft.membersToJson depth (Draft.ofMembers ms) = .ok ms :=
        toJson_ofMembers (by omega)
      simp [Draft.ofMembers, Draft.membersToJson, Draft.memberToJson, Leaf.ok, hj, hms, bind,
        Except.bind, pure, Except.pure]

end

end Marginalia.Json
