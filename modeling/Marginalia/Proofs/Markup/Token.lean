/-
Marginalia.Proofs.Markup.Token — HTML as its reader sees it.

A reader sees a less-than sign as the start of a tag, `<name attr="value">`
or `</name>`, and everything else as text. A value ends at the next double
quote. The three escapes are decoded once, in texts and in values.

`lex` is a machine that takes one character at a time and knows nothing of
trees, pieces or escaping. `Reads` says what a stretch of characters does
to it whatever comes behind; it composes (`Reads.append`), so that what is
written in pieces is read in pieces. A text does not end where a piece
does: the machine keeps the run of text it is in, and gives it out when a
tag begins or the HTML ends.

Main statements: `decode_escapeText`, `decode_escapeAttribute`,
`reads_text`, `reads_openTag`, `reads_closeTag`.
-/
import Marginalia.Markup.Piece

namespace Marginalia.Markup

/-! ## 1. Tokens -/

/-- What HTML consists of for its reader; values and texts are decoded. -/
inductive Token where
  | openTag (name : String) (attributes : List Attribute)
  | closeTag (name : String)
  | text (value : String)
  deriving DecidableEq, Repr

/-- The characters of names: ASCII letters, digits and the hyphen. -/
def isNameChar (c : Char) : Bool := c.isAlphanum || c == '-'

/-- A name is one or more such characters. -/
def isName (s : String) : Bool := !s.toList.isEmpty && s.toList.all isNameChar

/-- A text with its escapes decoded, once. -/
def decode : List Char → List Char
  | '&' :: 'a' :: 'm' :: 'p' :: ';' :: r => '&' :: decode r
  | '&' :: 'l' :: 't' :: ';' :: r => '<' :: decode r
  | '&' :: 'q' :: 'u' :: 'o' :: 't' :: ';' :: r => '"' :: decode r
  | c :: r => c :: decode r
  | [] => []

/-- A run of text as a token; a run without characters is none. -/
def textToken : List Char → List Token
  | [] => []
  | run => [.text (String.ofList (decode run))]

/-! ## 2. The machine -/

/-- Where the reader is: in text, or somewhere in a tag. -/
inductive State where
  /-- In text, with the run read so far. -/
  | text (run : List Char)
  /-- Behind a less-than sign. -/
  | tag
  /-- In the name of a closing tag. -/
  | closing (name : List Char)
  /-- In the name of an opening tag. -/
  | opening (name : List Char)
  /-- In the name of an attribute. -/
  | attributeName (element : List Char) (before : List Attribute) (name : List Char)
  /-- Behind the equals sign of an attribute. -/
  | equals (element : List Char) (before : List Attribute) (name : List Char)
  /-- In the value of an attribute. -/
  | value (element : List Char) (before : List Attribute) (name : List Char) (run : List Char)
  /-- Behind the value of an attribute. -/
  | behind (element : List Char) (attributes : List Attribute)
  deriving DecidableEq, Repr

/-- Takes one character: the state behind it and the tokens it completes, or
nothing if it may not stand there. -/
def State.step : State → Char → Option (State × List Token)
  | .text run, c =>
    if c = '<' then some (.tag, textToken run) else some (.text (run ++ [c]), [])
  | .tag, c =>
    if c = '/' then some (.closing [], [])
    else if isNameChar c then some (.opening [c], []) else none
  | .closing name, c =>
    if c = '>' then
      if name = [] then none else some (.text [], [.closeTag (String.ofList name)])
    else if isNameChar c then some (.closing (name ++ [c]), []) else none
  | .opening name, c =>
    if c = '>' then some (.text [], [.openTag (String.ofList name) []])
    else if c = ' ' then some (.attributeName name [] [], [])
    else if isNameChar c then some (.opening (name ++ [c]), []) else none
  | .attributeName element before name, c =>
    if c = '=' then if name = [] then none else some (.equals element before name, [])
    else if isNameChar c then some (.attributeName element before (name ++ [c]), []) else none
  | .equals element before name, c =>
    if c = '"' then some (.value element before name [], []) else none
  | .value element before name run, c =>
    if c = '"' then
      some (.behind element (before ++ [(String.ofList name, String.ofList (decode run))]), [])
    else some (.value element before name (run ++ [c]), [])
  | .behind element attributes, c =>
    if c = '>' then some (.text [], [.openTag (String.ofList element) attributes])
    else if c = ' ' then some (.attributeName element attributes [], [])
    else none

/-- The tokens of HTML from a state on. It may end in text only. -/
def lexFrom : State → List Char → Option (List Token)
  | .text run, [] => some (textToken run)
  | _, [] => none
  | s, c :: cs =>
    match s.step c with
    | none => none
    | some (s', out) => (lexFrom s' cs).map (out ++ ·)

/-- The tokens of HTML, or nothing if it is none. -/
def lex (html : List Char) : Option (List Token) := lexFrom (.text []) html

/-! ## 3. Decoding undoes escaping -/

theorem decode_cons {c : Char} (h : c ≠ '&') (s : List Char) :
    decode (c :: s) = c :: decode s := by
  rw [decode.eq_def]
  split <;> simp_all

/-- Decoding undoes every escaping that it undoes character by character. -/
theorem decode_flatMap {f : Char → List Char}
    (hf : ∀ c r, decode (f c ++ r) = c :: decode r) : ∀ s : List Char, decode (s.flatMap f) = s
  | [] => rfl
  | c :: s => by rw [List.flatMap_cons, hf, decode_flatMap hf s]

theorem decode_escapeText (s : List Char) : decode (escapeText s) = s := by
  refine decode_flatMap (fun c r => ?_) s
  unfold escapeTextChar
  split
  · subst c; simp [decode]
  · split
    · subst c; simp [decode]
    · exact decode_cons (by assumption) r

theorem decode_escapeAttribute (s : List Char) : decode (escapeAttribute s) = s := by
  refine decode_flatMap (fun c r => ?_) s
  unfold escapeAttributeChar
  split
  · subst c; simp [decode]
  · split
    · subst c; simp [decode]
    · exact decode_cons (by assumption) r

/-- No character of an escaped text starts a tag. -/
theorem lt_not_mem_escapeText (s : List Char) : '<' ∉ escapeText s := by
  intro h
  obtain ⟨c, _, hx⟩ := List.mem_flatMap.1 h
  unfold escapeTextChar at hx
  split at hx
  · exact absurd hx (by decide)
  · split at hx
    · exact absurd hx (by decide)
    · exact absurd (List.mem_singleton.1 hx).symm (by assumption)

/-- No character of an escaped value ends it. -/
theorem quote_not_mem_escapeAttribute (s : List Char) : '"' ∉ escapeAttribute s := by
  intro h
  obtain ⟨c, _, hx⟩ := List.mem_flatMap.1 h
  unfold escapeAttributeChar at hx
  split at hx
  · exact absurd hx (by decide)
  · split at hx
    · exact absurd hx (by decide)
    · exact absurd (List.mem_singleton.1 hx).symm (by assumption)

/-! ## 4. What a stretch does to the machine -/

/-- In state `s` the characters lead to state `s'` and give out the tokens,
whatever comes behind them. -/
def Reads (s : State) (cs : List Char) (s' : State) (out : List Token) : Prop :=
  ∀ rest, lexFrom s (cs ++ rest) = (lexFrom s' rest).map (out ++ ·)

theorem Reads.nil (s : State) : Reads s [] s [] := by
  intro rest
  cases h : lexFrom s rest <;> simp [h]

theorem Reads.append {s s' s'' : State} {cs cs' : List Char} {out out' : List Token}
    (h : Reads s cs s' out) (h' : Reads s' cs' s'' out') :
    Reads s (cs ++ cs') s'' (out ++ out') := by
  intro rest
  rw [List.append_assoc, h, h', Option.map_map]
  congr 1
  funext ts
  simp

theorem Reads.char {s s' : State} {c : Char} {out : List Token}
    (h : s.step c = some (s', out)) :
    Reads s [c] s' out := by
  intro rest
  cases s <;> simp [lexFrom, h]

/-- One character and then more. -/
theorem Reads.cons {s s' s'' : State} {c : Char} {cs : List Char} {out out' : List Token}
    (h : s.step c = some (s', out)) (h' : Reads s' cs s'' out') :
    Reads s (c :: cs) s'' (out ++ out') :=
  (Reads.char h).append h'

/-- Characters that a kind of state takes up one by one. -/
theorem reads_run {f : List Char → State} {p : Char → Prop}
    (hf : ∀ run c, p c → (f run).step c = some (f (run ++ [c]), [])) :
    ∀ (cs run : List Char), (∀ c ∈ cs, p c) → Reads (f run) cs (f (run ++ cs)) []
  | [], run, _ => by simpa using Reads.nil (f run)
  | c :: cs, run, h => by
      obtain ⟨hc, hcs⟩ := List.forall_mem_cons.1 h
      simpa using Reads.cons (hf run c hc) (reads_run hf cs (run ++ [c]) hcs)

/-! ## 5. Texts and tags -/

theorem isName_iff {s : String} :
    isName s = true ↔ s.toList ≠ [] ∧ ∀ c ∈ s.toList, isNameChar c = true := by
  simp [isName]

/-- An escaped text lengthens the run. -/
theorem reads_text (run s : List Char) :
    Reads (.text run) (escapeText s) (.text (run ++ escapeText s)) [] := by
  refine reads_run (f := .text) (p := (· ≠ '<')) (fun run c hc => ?_) _ run fun c hc => ?_
  · simp [State.step, hc]
  · rintro rfl
    exact lt_not_mem_escapeText s hc

theorem nameChar_ne {c : Char} (h : isNameChar c = true) :
    c ≠ '>' ∧ c ≠ ' ' ∧ c ≠ '=' ∧ c ≠ '/' := by
  refine ⟨?_, ?_, ?_, ?_⟩ <;> (rintro rfl; revert h; decide)

/-- A closing tag ends the run and gives itself. -/
theorem reads_closeTag (run : List Char) {name : String} (hn : isName name = true) :
    Reads (.text run) (Piece.closeTag name).chars (.text [])
      (textToken run ++ [.closeTag name]) := by
  obtain ⟨hne, hall⟩ := isName_iff.1 hn
  have hopen : Reads (.text run) ['<', '/'] (.closing []) (textToken run) := by
    have hlt : (State.text run).step '<' = some (.tag, textToken run) := rfl
    have hslash : State.tag.step '/' = some (.closing [], []) := rfl
    simpa using Reads.cons hlt (Reads.char hslash)
  have hname : Reads (.closing []) name.toList (.closing name.toList) [] := by
    refine reads_run (f := .closing) (fun run c hc => ?_) name.toList [] hall
    simp [State.step, (nameChar_ne hc).1, hc]
  have hend : Reads (.closing name.toList) ['>'] (.text []) [.closeTag name] :=
    Reads.char (by simp [State.step, hne])
  simpa [Piece.chars] using hopen.append (hname.append hend)

/-- An attribute behind a blank is taken up. -/
theorem reads_attribute (element : List Char) {a : Attribute} (ha : isName a.1 = true)
    (before : List Attribute) {s : State}
    (hs : s.step ' ' = some (.attributeName element before [], [])) :
    Reads s (attributeChars a) (.behind element (before ++ [a])) [] := by
  obtain ⟨hne, hall⟩ := isName_iff.1 ha
  have hname : Reads (.attributeName element before []) a.1.toList
      (.attributeName element before a.1.toList) [] := by
    refine reads_run (f := .attributeName element before) (fun run c hc => ?_)
      a.1.toList [] hall
    simp [State.step, (nameChar_ne hc).2.2.1, hc]
  have hequals : Reads (.attributeName element before a.1.toList) ['=', '"']
      (.value element before a.1.toList []) [] := by
    have h1 : (State.attributeName element before a.1.toList).step '='
        = some (.equals element before a.1.toList, []) := by simp [State.step, hne]
    have h2 : (State.equals element before a.1.toList).step '"'
        = some (.value element before a.1.toList [], []) := rfl
    exact Reads.cons h1 (Reads.char h2)
  have hvalue : Reads (.value element before a.1.toList []) (escapeAttribute a.2.toList)
      (.value element before a.1.toList (escapeAttribute a.2.toList)) [] := by
    refine reads_run (f := .value element before a.1.toList) (p := (· ≠ '"'))
      (fun run c hc => by simp [State.step, hc]) (escapeAttribute a.2.toList) [] fun c hc => ?_
    rintro rfl
    exact quote_not_mem_escapeAttribute _ hc
  have hend : Reads (.value element before a.1.toList (escapeAttribute a.2.toList)) ['"']
      (.behind element (before ++ [a])) [] :=
    Reads.char (by simp [State.step, decode_escapeAttribute])
  simpa [attributeChars] using
    Reads.cons hs (hname.append (hequals.append (hvalue.append hend)))

theorem reads_attributes (element : List Char) : ∀ (as : List Attribute),
    (∀ a ∈ as, isName a.1 = true) → ∀ before : List Attribute,
      Reads (.behind element before) (as.flatMap attributeChars)
        (.behind element (before ++ as)) []
  | [], _, before => by simpa using Reads.nil (.behind element before)
  | a :: as, h, before => by
      obtain ⟨ha, has⟩ := List.forall_mem_cons.1 h
      have hfirst := reads_attribute element ha before (s := .behind element before) rfl
      simpa using hfirst.append (reads_attributes element as has (before ++ [a]))

/-- An opening tag ends the run and gives itself, with the values decoded. -/
theorem reads_openTag (run : List Char) {name : String} {as : List Attribute}
    (hn : isName name = true) (has : ∀ a ∈ as, isName a.1 = true) :
    Reads (.text run) (Piece.openTag name as).chars (.text [])
      (textToken run ++ [.openTag name as]) := by
  obtain ⟨hne, hall⟩ := isName_iff.1 hn
  obtain ⟨c, cs, hcs⟩ := List.exists_cons_of_ne_nil hne
  rw [hcs, List.forall_mem_cons] at hall
  have hname : Reads (.text run) ('<' :: name.toList) (.opening name.toList)
      (textToken run) := by
    have hlt : (State.text run).step '<' = some (.tag, textToken run) := rfl
    have hfirst : State.tag.step c = some (.opening [c], []) := by
      simp [State.step, (nameChar_ne hall.1).2.2.2, hall.1]
    have hrest : Reads (.opening [c]) cs (.opening (c :: cs)) [] := by
      refine reads_run (f := .opening) (fun run c hc => ?_) cs [c] hall.2
      simp [State.step, (nameChar_ne hc).1, (nameChar_ne hc).2.1, hc]
    rw [hcs]
    simpa using Reads.cons hlt (Reads.cons hfirst hrest)
  cases as with
  | nil =>
    have hend : (State.opening name.toList).step '>'
        = some (.text [], [.openTag name []]) := by
      simp [State.step]
    simpa [Piece.chars] using hname.append (Reads.char hend)
  | cons a as =>
    obtain ⟨ha, has⟩ := List.forall_mem_cons.1 has
    have hfirst := reads_attribute name.toList ha [] (s := .opening name.toList) rfl
    have hmore := reads_attributes name.toList as has [a]
    have hend : (State.behind name.toList (a :: as)).step '>'
        = some (.text [], [.openTag name (a :: as)]) := by simp [State.step]
    simpa [Piece.chars] using hname.append (hfirst.append (hmore.append (Reads.char hend)))

end Marginalia.Markup
