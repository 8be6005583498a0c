/-
Marginalia.Proofs.Markup.Balance — when the tags of HTML balance.

A reader of tags goes through HTML from left to right, skips what stands
between tags, and in a tag what stands between double quotes. It keeps a
stack of the elements that are open: an opening tag goes on it, unless its
element is one that is never closed, and a closing tag has to name the
element on top. The tags balance when it gets through with nothing open.

`balanced_iff`: take a document without raw HTML, in which element names are
not those of elements that are never closed, and no name holds a character
that tags are read by. Its tags balance just when no rule carries an element
name. A rule is the one block whose element is not closed, and under another
name it stays open.

## How the proof goes

`Nests n` is the grammar of pieces that nest but for `n` opening tags that
nothing closes. Along the tree, a block is written as pieces that nest but
for its renamed rules (`nests_blockPieces`). Along the grammar, pieces that
nest leave the stack as it was (`openAfter_of_nests`), and where `n` tags
are left open there are `n` opening tags more than closing ones
(`count_of_nests`), which no stack makes up for (`length_openAfter`).
-/
import Marginalia.Proofs.Markup.Faithful
import Marginalia.Proofs.Markup.RawHtml

namespace Marginalia.Markup

/-! ## 1. Tags -/

/-- A tag, without its attributes. -/
inductive Tag where
  | opening (name : String)
  | closing (name : String)
  deriving DecidableEq, Repr

/-- A tag by what stands between the less-than sign and the end of its name. -/
def Tag.ofChars : List Char → Tag
  | '/' :: name => .closing (String.ofList name)
  | name => .opening (String.ofList name)

/-- Where a reader of tags is. -/
inductive Spot where
  /-- Between tags. -/
  | outside
  /-- In the name of a tag, with what was read of it. -/
  | name (seen : List Char)
  /-- Behind the name of a tag. -/
  | inside (tag : Tag)
  /-- Between double quotes in a tag. -/
  | quoted (tag : Tag)

/-- The tags from a spot on, if no tag is left unfinished. -/
def tagsFrom : Spot → List Char → Option (List Tag)
  | .outside, [] => some []
  | .outside, c :: cs => if c = '<' then tagsFrom (.name []) cs else tagsFrom .outside cs
  | .name seen, c :: cs =>
    if c = '>' then (tagsFrom .outside cs).map (Tag.ofChars seen :: ·)
    else if c = ' ' then tagsFrom (.inside (.ofChars seen)) cs
    else tagsFrom (.name (seen ++ [c])) cs
  | .inside tag, c :: cs =>
    if c = '>' then (tagsFrom .outside cs).map (tag :: ·)
    else if c = '"' then tagsFrom (.quoted tag) cs
    else tagsFrom (.inside tag) cs
  | .quoted tag, c :: cs =>
    if c = '"' then tagsFrom (.inside tag) cs else tagsFrom (.quoted tag) cs
  | _, [] => none

/-- The tags of HTML, if no tag is left unfinished. -/
def tags (html : List Char) : Option (List Tag) := tagsFrom .outside html

/-- The elements that are never closed. -/
def isVoid (name : String) : Bool := name == "hr" || name == "br" || name == "img"

/-- The elements that are open behind tags, the innermost first, when some are
open before them; nothing if a tag closes what is not open or not innermost. -/
def openAfter : List String → List Tag → Option (List String)
  | stack, [] => some stack
  | stack, .opening name :: ts => openAfter (if isVoid name then stack else name :: stack) ts
  | [], .closing _ :: _ => none
  | top :: stack, .closing name :: ts => if name = top then openAfter stack ts else none

/-- Every tag that opens an element to be closed is closed, in order, and no
other tag closes. -/
def Balanced (ts : List Tag) : Prop := openAfter [] ts = some []

instance (ts : List Tag) : Decidable (Balanced ts) :=
  inferInstanceAs (Decidable (openAfter [] ts = some []))

/-! ## 2. Names that tags can be read by -/

/-- The characters that tags are read by. -/
def isTagMark (c : Char) : Bool :=
  c == '<' || c == '>' || c == '/' || c == ' ' || c == '=' || c == '"'

/-- Has the name none of the characters that tags are read by? -/
def isPlain (s : String) : Bool := s.toList.all fun c => !isTagMark c

/-- The element name that a block carries is plain and one of an element that
is closed, and the names of its properties are plain. -/
def PlainNames (d : Data) : Prop :=
  (∀ n ∈ d.elementName, isPlain n = true ∧ isVoid n = false)
    ∧ ∀ p ∈ d.properties.entries, isPlain p.1 = true

instance (d : Data) : Decidable (PlainNames d) := inferInstanceAs (Decidable (_ ∧ _))

theorem isPlain_iff {s : String} :
    isPlain s = true
      ↔ ∀ c ∈ s.toList, c ≠ '<' ∧ c ≠ '>' ∧ c ≠ '/' ∧ c ≠ ' ' ∧ c ≠ '=' ∧ c ≠ '"' := by
  simp [isPlain, isTagMark, and_assoc]

/-- Letters, digits and hyphens are plain. -/
theorem isPlain_of_isName {s : String} (h : isName s = true) : isPlain s = true := by
  rw [isPlain_iff]
  intro c hc
  have hname := (isName_iff.1 h).2 c hc
  refine ⟨?_, ?_, ?_, ?_, ?_, ?_⟩ <;> (rintro rfl; revert hname; decide)

/-- The names of attributes are plain. -/
abbrev PlainAttributes (as : List Attribute) : Prop := ∀ a ∈ as, isPlain a.1 = true

theorem plain_of_names {as : List Attribute} (h : ∀ a ∈ as, isName a.1 = true) :
    PlainAttributes as := fun a ha => isPlain_of_isName (h a ha)

theorem plain_mergeAttributes {own : List Attribute} (ho : ∀ a ∈ own, isName a.1 = true)
    {d : Data} (hd : PlainNames d) :
    PlainAttributes (mergeAttributes own d.properties.entries) := by
  refine forall_mergeAttributes (P := fun n => isPlain n = true) (plain_of_names ho)
    fun p hp => ?_
  unfold attributeName
  split
  · decide
  · split
    · decide
    · exact hd.2 p hp

/-! ## 3. Reading what pieces are written as -/

-- One character on, from each spot.
section
variable (c : Char) (cs : List Char)

theorem tagsFrom_outside_cons :
    tagsFrom .outside (c :: cs)
      = if c = '<' then tagsFrom (.name []) cs else tagsFrom .outside cs := rfl

theorem tagsFrom_name_cons (seen : List Char) :
    tagsFrom (.name seen) (c :: cs)
      = if c = '>' then (tagsFrom .outside cs).map (Tag.ofChars seen :: ·)
        else if c = ' ' then tagsFrom (.inside (.ofChars seen)) cs
        else tagsFrom (.name (seen ++ [c])) cs := rfl

theorem tagsFrom_inside_cons (tag : Tag) :
    tagsFrom (.inside tag) (c :: cs)
      = if c = '>' then (tagsFrom .outside cs).map (tag :: ·)
        else if c = '"' then tagsFrom (.quoted tag) cs
        else tagsFrom (.inside tag) cs := rfl

theorem tagsFrom_quoted_cons (tag : Tag) :
    tagsFrom (.quoted tag) (c :: cs)
      = if c = '"' then tagsFrom (.inside tag) cs else tagsFrom (.quoted tag) cs := rfl

end

theorem tagsFrom_outside {s : List Char} (h : '<' ∉ s) (rest : List Char) :
    tagsFrom .outside (s ++ rest) = tagsFrom .outside rest := by
  induction s with
  | nil => rfl
  | cons c s ih =>
    obtain ⟨hc, hs⟩ := List.ne_and_not_mem_of_not_mem_cons h
    rw [List.cons_append, tagsFrom_outside_cons, if_neg hc.symm, ih hs]

theorem tagsFrom_name {s : List Char} (h : ∀ c ∈ s, c ≠ '>' ∧ c ≠ ' ')
    (seen rest : List Char) :
    tagsFrom (.name seen) (s ++ rest) = tagsFrom (.name (seen ++ s)) rest := by
  induction s generalizing seen with
  | nil => simp
  | cons c s ih =>
    obtain ⟨hc, hs⟩ := List.forall_mem_cons.1 h
    rw [List.cons_append, tagsFrom_name_cons, if_neg hc.1, if_neg hc.2, ih hs]
    simp

theorem tagsFrom_inside {s : List Char} (h : ∀ c ∈ s, c ≠ '>' ∧ c ≠ '"') (tag : Tag)
    (rest : List Char) : tagsFrom (.inside tag) (s ++ rest) = tagsFrom (.inside tag) rest := by
  induction s with
  | nil => rfl
  | cons c s ih =>
    obtain ⟨hc, hs⟩ := List.forall_mem_cons.1 h
    rw [List.cons_append, tagsFrom_inside_cons, if_neg hc.1, if_neg hc.2, ih hs]

theorem tagsFrom_quoted {s : List Char} (h : '"' ∉ s) (tag : Tag) (rest : List Char) :
    tagsFrom (.quoted tag) (s ++ '"' :: rest) = tagsFrom (.inside tag) rest := by
  induction s with
  | nil => rw [List.nil_append, tagsFrom_quoted_cons, if_pos rfl]
  | cons c s ih =>
    obtain ⟨hc, hs⟩ := List.ne_and_not_mem_of_not_mem_cons h
    rw [List.cons_append, tagsFrom_quoted_cons, if_neg hc.symm, ih hs]

/-- An attribute is passed over. -/
theorem tagsFrom_attribute {a : Attribute} (ha : isPlain a.1 = true) (tag : Tag)
    (rest : List Char) :
    tagsFrom (.inside tag) (attributeChars a ++ rest) = tagsFrom (.inside tag) rest := by
  have hname : ∀ c ∈ ' ' :: a.1.toList ++ ['='], c ≠ '>' ∧ c ≠ '"' := by
    intro c hc
    rw [List.cons_append, List.mem_cons, List.mem_append, List.mem_singleton] at hc
    rcases hc with rfl | hc | rfl
    · decide
    · have hplain := isPlain_iff.1 ha c hc
      exact ⟨hplain.2.1, hplain.2.2.2.2.2⟩
    · decide
  have hchars : attributeChars a ++ rest
      = (' ' :: a.1.toList ++ ['='])
        ++ '"' :: (escapeAttribute a.2.toList ++ '"' :: rest) := by
    simp [attributeChars]
  rw [hchars, tagsFrom_inside hname, tagsFrom_inside_cons, if_neg (by decide), if_pos rfl,
    tagsFrom_quoted (quote_not_mem_escapeAttribute _)]

theorem tagsFrom_attributes {as : List Attribute} (h : PlainAttributes as) (tag : Tag)
    (rest : List Char) :
    tagsFrom (.inside tag) (as.flatMap attributeChars ++ rest)
      = tagsFrom (.inside tag) rest := by
  induction as with
  | nil => rfl
  | cons a as ih =>
    obtain ⟨ha, has⟩ := List.forall_mem_cons.1 h
    rw [List.flatMap_cons, List.append_assoc, tagsFrom_attribute ha, ih has]

/-- A tag ends its name at its first attribute or where it ends itself. -/
theorem tagsFrom_endOfName {as : List Attribute} (h : PlainAttributes as)
    (seen rest : List Char) :
    tagsFrom (.name seen) (as.flatMap attributeChars ++ '>' :: rest)
      = (tagsFrom .outside rest).map (Tag.ofChars seen :: ·) := by
  cases as with
  | nil => rw [List.flatMap_nil, List.nil_append, tagsFrom_name_cons, if_pos rfl]
  | cons a as =>
    -- from the blank on it does not matter that the name was just read
    have hblank : ∀ s, tagsFrom (.name seen) (' ' :: s)
        = tagsFrom (.inside (.ofChars seen)) (' ' :: s) := by
      intro s
      rw [tagsFrom_name_cons, if_neg (by decide), if_pos rfl, tagsFrom_inside_cons,
        if_neg (by decide), if_neg (by decide)]
    have hfirst : ∃ s, (a :: as).flatMap attributeChars ++ '>' :: rest = ' ' :: s :=
      ⟨_, by simp only [List.flatMap_cons, attributeChars, List.cons_append]; rfl⟩
    obtain ⟨s, hs⟩ := hfirst
    rw [hs, hblank, ← hs, tagsFrom_attributes h, tagsFrom_inside_cons, if_pos rfl]

/-- The tag that a piece is. -/
def Piece.tags : Piece → List Tag
  | .openTag name _ => [.opening name]
  | .closeTag name => [.closing name]
  | .text _ | .raw _ => []

/-- The piece is no raw HTML, and its names are plain. -/
inductive Legible : Piece → Prop where
  | openTag {name : String} {as : List Attribute} (hn : isPlain name = true)
      (ha : PlainAttributes as) : Legible (.openTag name as)
  | closeTag {name : String} (hn : isPlain name = true) : Legible (.closeTag name)
  | text (value : String) : Legible (.text value)

theorem ofChars_plain {name : String} (hn : isPlain name = true) :
    Tag.ofChars name.toList = .opening name := by
  unfold Tag.ofChars
  split
  · next s hs =>
    have hslash : '/' ∈ name.toList := by rw [hs]; exact List.mem_cons_self
    exact absurd rfl (isPlain_iff.1 hn _ hslash).2.2.1
  · simp

theorem tagsFrom_piece {p : Piece} (h : Legible p) (rest : List Char) :
    tagsFrom .outside (p.chars ++ rest) = (tagsFrom .outside rest).map (p.tags ++ ·) := by
  have hrun : ∀ {name : String}, isPlain name = true → ∀ c ∈ name.toList, c ≠ '>' ∧ c ≠ ' ' :=
    fun hn c hc => ⟨(isPlain_iff.1 hn c hc).2.1, (isPlain_iff.1 hn c hc).2.2.2.1⟩
  cases h with
  | @openTag name as hn ha =>
    have hchars : (Piece.openTag name as).chars ++ rest
        = '<' :: (name.toList ++ (as.flatMap attributeChars ++ '>' :: rest)) := by
      simp [Piece.chars]
    rw [hchars, tagsFrom_outside_cons, if_pos rfl, tagsFrom_name (hrun hn),
      tagsFrom_endOfName ha, List.nil_append, ofChars_plain hn]
    rfl
  | @closeTag name hn =>
    have hchars : (Piece.closeTag name).chars ++ rest
        = '<' :: ('/' :: name.toList ++ (([] : List Attribute).flatMap attributeChars
            ++ '>' :: rest)) := by
      simp [Piece.chars]
    have hslash : ∀ c ∈ '/' :: name.toList, c ≠ '>' ∧ c ≠ ' ' :=
      List.forall_mem_cons.2 ⟨by decide, hrun hn⟩
    rw [hchars, tagsFrom_outside_cons, if_pos rfl, tagsFrom_name hslash,
      tagsFrom_endOfName (by simp)]
    simp [Tag.ofChars, Piece.tags]
  | text value =>
    rw [Piece.chars, tagsFrom_outside (lt_not_mem_escapeText _)]
    simp [Piece.tags]

theorem tags_render {ps : List Piece} (h : ∀ p ∈ ps, Legible p) :
    tags (render ps).toList = some (ps.flatMap Piece.tags) := by
  rw [render, String.toList_ofList, tags]
  induction ps with
  | nil => rfl
  | cons p ps ih =>
    obtain ⟨hp, hps⟩ := List.forall_mem_cons.1 h
    rw [renderChars, List.flatMap_cons, ← renderChars, tagsFrom_piece hp, ih hps]
    rfl

/-! ## 4. Pieces that nest -/

/-- The pieces nest, but for `n` opening tags that nothing closes. -/
inductive Nests : Nat → List Piece → Prop where
  | nil : Nests 0 []
  | text (value : String) {n : Nat} {ps : List Piece} (h : Nests n ps) :
      Nests n (.text value :: ps)
  /-- An element that is never closed. -/
  | void {name : String} {as : List Attribute} {n : Nat} {ps : List Piece}
      (hn : isPlain name = true) (ha : PlainAttributes as) (hv : isVoid name = true)
      (h : Nests n ps) : Nests n (.openTag name as :: ps)
  /-- An element that is left open. -/
  | left {name : String} {as : List Attribute} {n : Nat} {ps : List Piece}
      (hn : isPlain name = true) (ha : PlainAttributes as) (hv : isVoid name = false)
      (h : Nests n ps) : Nests (n + 1) (.openTag name as :: ps)
  /-- An element that is closed. -/
  | element {name : String} {as : List Attribute} {m n : Nat} {inside ps : List Piece}
      (hn : isPlain name = true) (ha : PlainAttributes as) (hv : isVoid name = false)
      (hi : Nests m inside) (h : Nests n ps) :
      Nests (m + n) (.openTag name as :: inside ++ .closeTag name :: ps)

theorem Nests.append {m n : Nat} {ps qs : List Piece} (hp : Nests m ps) (hq : Nests n qs) :
    Nests (m + n) (ps ++ qs) := by
  induction hp with
  | nil => simpa using hq
  | text value _ ih => exact .text value ih
  | void hn ha hv _ ih => exact .void hn ha hv ih
  | left hn ha hv _ ih => exact Nat.succ_add .. ▸ .left hn ha hv ih
  | element hn ha hv hi _ _ ih =>
    rw [Nat.add_assoc, List.append_assoc]
    exact .element hn ha hv hi ih

/-- One element around pieces that nest. -/
theorem Nests.wrap {name : String} {as : List Attribute} {n : Nat} {inside : List Piece}
    (hn : isPlain name = true) (hv : isVoid name = false) (ha : PlainAttributes as)
    (hi : Nests n inside) : Nests n (.openTag name as :: inside ++ [.closeTag name]) :=
  .element hn ha hv hi .nil

theorem legible_of_nests {n : Nat} {ps : List Piece} (h : Nests n ps) :
    ∀ p ∈ ps, Legible p := by
  induction h with
  | nil => simp
  | text value _ ih => exact List.forall_mem_cons.2 ⟨.text value, ih⟩
  | void hn ha _ _ ih | left hn ha _ _ ih => exact List.forall_mem_cons.2 ⟨.openTag hn ha, ih⟩
  | element hn ha _ _ _ ihi ih =>
    exact List.forall_mem_append.2 ⟨List.forall_mem_cons.2 ⟨.openTag hn ha, ihi⟩,
      List.forall_mem_cons.2 ⟨.closeTag hn, ih⟩⟩

/-- Pieces that nest leave open what was open. -/
theorem openAfter_of_nests {n : Nat} {ps : List Piece} (h : Nests n ps) (h0 : n = 0) :
    ∀ (stack : List String) (ts : List Tag),
      openAfter stack (ps.flatMap Piece.tags ++ ts) = openAfter stack ts := by
  induction h with
  | nil => intro stack ts; rfl
  | text value _ ih => exact ih h0
  | void hn ha hv _ ih =>
    intro stack ts
    rw [List.flatMap_cons, Piece.tags, List.singleton_append, List.cons_append, openAfter,
      if_pos hv, ih h0]
  | left => omega
  | @element name as m n inside ps hn ha hv hi h ihi ih =>
    intro stack ts
    have htags : (.openTag name as :: inside ++ .closeTag name :: ps).flatMap Piece.tags ++ ts
        = .opening name :: (inside.flatMap Piece.tags
            ++ .closing name :: (ps.flatMap Piece.tags ++ ts)) := by
      simp [Piece.tags]
    have hm : m = 0 := by omega
    have hn : n = 0 := by omega
    calc openAfter stack
          ((.openTag name as :: inside ++ .closeTag name :: ps).flatMap Piece.tags
            ++ ts)
        = openAfter (name :: stack) (inside.flatMap Piece.tags
            ++ .closing name :: (ps.flatMap Piece.tags ++ ts)) := by
          rw [htags, openAfter, if_neg (by simp [hv])]
      _ = openAfter (name :: stack) (.closing name :: (ps.flatMap Piece.tags ++ ts)) :=
          ihi hm (name :: stack) _
      _ = openAfter stack (ps.flatMap Piece.tags ++ ts) := by rw [openAfter, if_pos rfl]
      _ = openAfter stack ts := ih hn stack ts

/-- Does the tag open an element that is to be closed? -/
def Tag.opens : Tag → Bool
  | .opening name => !isVoid name
  | .closing _ => false

/-- Does the tag close an element? -/
def Tag.closes : Tag → Bool
  | .opening _ => false
  | .closing _ => true

/-- What tags leave open is what they open more than they close. -/
theorem length_openAfter : ∀ {ts : List Tag} {stack rest : List String},
    openAfter stack ts = some rest →
      rest.length + ts.countP Tag.closes = stack.length + ts.countP Tag.opens
  | [], stack, rest, h => by
      obtain rfl : stack = rest := Option.some.inj h
      rfl
  | .opening name :: ts, stack, rest, h => by
      rw [openAfter] at h
      have ih := length_openAfter h
      cases hv : isVoid name <;> simp [hv, Tag.opens, Tag.closes] at ih ⊢ <;> omega
  | .closing name :: ts, [], rest, h => by cases h
  | .closing name :: ts, top :: stack, rest, h => by
      rw [openAfter] at h
      split at h
      · have ih := length_openAfter h
        simp [List.countP_cons, Tag.opens, Tag.closes]
        omega
      · cases h

/-- What nests but for `n` opening tags opens `n` elements more than it
closes. -/
theorem count_of_nests {n : Nat} {ps : List Piece} (h : Nests n ps) :
    (ps.flatMap Piece.tags).countP Tag.opens
      = (ps.flatMap Piece.tags).countP Tag.closes + n := by
  induction h with
  | nil => rfl
  | text value _ ih => exact ih
  | void hn ha hv _ ih => simpa [Piece.tags, Tag.opens, Tag.closes, hv] using ih
  | left hn ha hv _ ih =>
    simp [Piece.tags, Tag.opens, Tag.closes, hv, ih]
    omega
  | element hn ha hv _ _ ihi ih =>
    simp [List.countP_cons, Piece.tags, Tag.opens, Tag.closes, hv, ihi, ih]
    omega

theorem balanced_of_nests {n : Nat} {ps : List Piece} (h : Nests n ps) :
    Balanced (ps.flatMap Piece.tags) ↔ n = 0 := by
  constructor
  · intro hb
    have hlength := length_openAfter hb
    have hcount := count_of_nests h
    simp only [List.length_nil] at hlength
    omega
  · intro h0
    have hopen := openAfter_of_nests h h0 [] []
    rwa [List.append_nil] at hopen

/-! ## 5. Layout -/

/-- Lines that nest each by itself, but for `n` opening tags in all. -/
inductive LinesNest : Nat → List (List Piece) → Prop where
  | nil : LinesNest 0 []
  | cons {m n : Nat} {l : List Piece} {ls : List (List Piece)} (hl : Nests m l)
      (h : LinesNest n ls) : LinesNest (m + n) (l :: ls)

theorem nests_newline : Nests 0 [.newline] := .text "\n" .nil

/-- The line end at an end of an item. -/
theorem nests_edge (bare : Bool) : Nests 0 (if bare then [] else [.newline]) := by
  cases bare
  · exact nests_newline
  · exact .nil

theorem nests_onLines {n : Nat} {ls : List (List Piece)} (h : LinesNest n ls) :
    Nests n (ls.flatMap (· ++ [.newline])) := by
  induction h with
  | nil => exact .nil
  | cons hl _ ih => exact (hl.append nests_newline).append ih

theorem nests_joinLines {n : Nat} {ls : List (List Piece)} (h : LinesNest n ls) :
    Nests n (joinLines ls) := by
  induction h with
  | nil => exact .nil
  | cons hl hls ih =>
    cases hls with
    | nil => exact hl
    | cons hl' hls' =>
      rw [joinLines]
      · exact hl.append (.text "\n" ih)
      · simp

theorem nests_childPieces : ∀ {cs : List Child} {n : Nat},
    LinesNest n (cs.map Child.pieces) → ∀ first : Bool, Nests n (childPieces first cs)
  | [], _, .nil, _ => .nil
  | [c], _, h, first => by
      cases h with
      | cons hl hnil =>
        cases hnil
        have h := ((nests_edge (first && c.unwrapped)).append hl).append
          (nests_edge c.unwrapped)
        simpa [childPieces] using h
  | c :: c' :: cs, _, .cons hl hls, first => by
      rw [childPieces]
      · have h := ((nests_edge (first && c.unwrapped)).append hl).append
          (nests_childPieces hls false)
        simpa using h
      · simp

/-! ## 6. Trees -/

mutual

theorem nests_inlinePieces : ∀ i : Inline, Nests 0 (inlinePieces false i)
  | .text value => .text value .nil
  | .emphasis cs | .strong cs | .delete cs =>
      .wrap (by decide) (by decide) (by simp) (nests_inlinesPieces cs)
  | .code value => .wrap (by decide) (by decide) (by simp) (.text value .nil)
  | .lineBreak => .void (by decide) (by simp) (by decide) nests_newline
  | .link url title cs =>
      .wrap (by decide) (by decide)
        (plain_of_names (names_cons (by decide) (names_titleAttribute title)))
        (nests_inlinesPieces cs)
  | .image url title alt =>
      .void (by decide)
        (plain_of_names (names_cons (by decide)
          (names_cons (by decide) (names_titleAttribute title)))) (by decide) .nil
  | .html _ => .nil

theorem nests_inlinesPieces : ∀ is : List Inline, Nests 0 (inlinesPieces false is)
  | [] => .nil
  | i :: is => (nests_inlinePieces i).append (nests_inlinesPieces is)

end

/-- The element of a block: it is closed if the natural one is. -/
theorem plain_elementName {d : Data} (hd : PlainNames d) {natural : String}
    (hn : isPlain natural = true) (hv : isVoid natural = false) :
    isPlain (elementName d natural) = true ∧ isVoid (elementName d natural) = false := by
  unfold elementName
  cases he : d.elementName with
  | none => exact ⟨hn, hv⟩
  | some n => exact hd.1 n he

theorem nests_blockElement {d : Data} (hd : PlainNames d) {natural : String}
    (hn : isPlain natural = true) (hv : isVoid natural = false) {own : List Attribute}
    (ho : ∀ a ∈ own, isName a.1 = true) {n : Nat} {ps : List Piece} (h : Nests n ps) :
    Nests n (openTag (elementName d natural) own d :: ps
      ++ [.closeTag (elementName d natural)]) :=
  .wrap (plain_elementName hd hn hv).1 (plain_elementName hd hn hv).2
    (plain_mergeAttributes ho hd) h

theorem nests_container {d : Data} (hd : PlainNames d) {natural : String}
    (hn : isPlain natural = true) (hv : isVoid natural = false) {own : List Attribute}
    (ho : ∀ a ∈ own, isName a.1 = true) {n : Nat} {ls : List (List Piece)}
    (h : LinesNest n ls) :
    Nests n (container (elementName d natural) own d ls) :=
  nests_blockElement hd hn hv ho (.text "\n" (nests_onLines h))

theorem isVoid_headingName (depth : UInt8) : isVoid (headingName depth) = false := by
  have hchars : (headingName depth).toList = 'h' :: Nat.toDigits 10 depth.toNat := by
    simp [headingName]
  have hr : 'r' ∉ Nat.toDigits 10 depth.toNat := fun h =>
    absurd (Nat.isDigit_of_mem_toDigits (by decide) (by decide) h) (by decide)
  simp only [isVoid, Bool.or_eq_false_iff, beq_eq_false_iff_ne]
  refine ⟨⟨?_, ?_⟩, ?_⟩ <;> (intro hname; rw [hname] at hchars)
  · have hdigits : ['r'] = Nat.toDigits 10 depth.toNat := List.tail_eq_of_cons_eq hchars
    exact hr (hdigits ▸ List.mem_singleton_self 'r')
  · exact absurd (List.head_eq_of_cons_eq hchars) (by decide)
  · exact absurd (List.head_eq_of_cons_eq hchars) (by decide)

/-- Is the block a rule that carries an element name? -/
def isRenamedRule : Block → Bool
  | .rule d => d.elementName.isSome
  | _ => false

/-- The number of renamed rules among blocks. -/
def renamedRules (bs : List Block) : Nat := bs.countP isRenamedRule

mutual

theorem nests_blockPieces : ∀ b : Block, (∀ d ∈ b.carried, PlainNames d) →
    Nests (renamedRules b.walk) (blockPieces false b)
  | .paragraph cs d, h =>
      nests_blockElement (h d (by simp [Block.carried])) (by decide) (by decide) (by simp)
        (nests_inlinesPieces cs)
  | .heading depth cs d, h =>
      nests_blockElement (h d (by simp [Block.carried]))
        (isPlain_of_isName (isName_headingName depth)) (isVoid_headingName depth) (by simp)
        (nests_inlinesPieces cs)
  | .quote cs d, h => by
      obtain ⟨hd, hcs⟩ := List.forall_mem_cons.1 h
      exact nests_container hd (by decide) (by decide) (by simp) (nests_lines cs hcs)
  | .callout kind cs d, h => by
      obtain ⟨hd, hcs⟩ := List.forall_mem_cons.1 h
      exact nests_container hd (by decide) (by decide) (names_calloutAttributes kind d)
        (nests_lines cs hcs)
  | .list ordered start spread items d, h => by
      obtain ⟨hd, his⟩ := List.forall_mem_cons.1 h
      have hn : isPlain (if ordered then "ol" else "ul") = true := by cases ordered <;> decide
      have hv : isVoid (if ordered then "ol" else "ul") = false := by cases ordered <;> decide
      exact nests_container hd hn hv (names_listAttributes ordered start)
        (nests_itemLines spread items his)
  | .code language details value d, h => by
      have hd : PlainNames d := h d (by simp [Block.carried])
      have htext : Nests 0 (if value.isEmpty then [] else [.text value, .newline]) := by
        split
        · exact .nil
        · exact .text value nests_newline
      have hcode := nests_blockElement hd (by decide : isPlain "code" = true) (by decide)
        (names_codeAttributes language) htext
      have hpre : PlainAttributes [] := by simp
      have hall := Nests.wrap (by decide : isPlain "pre" = true) (by decide) hpre hcode
      simpa [blockPieces, renamedRules, Block.walk, isRenamedRule] using hall
  | .rule d, h => by
      have hd : PlainNames d := h d (by simp [Block.carried])
      have ha : PlainAttributes (mergeAttributes [] d.properties.entries) :=
        plain_mergeAttributes (by simp) hd
      cases he : d.elementName with
      | none =>
        have hname : elementName d "hr" = "hr" := by simp [elementName, he]
        have hcount : renamedRules (Block.rule d).walk = 0 := by
          simp [renamedRules, Block.walk, isRenamedRule, he]
        rw [hcount, blockPieces, openTag, hname]
        exact .void (by decide) ha (by decide) .nil
      | some name =>
        obtain ⟨hn, hv⟩ := hd.1 name he
        have hname : elementName d "hr" = name := by simp [elementName, he]
        have hcount : renamedRules (Block.rule d).walk = 1 := by
          simp [renamedRules, Block.walk, isRenamedRule, he]
        rw [hcount, blockPieces, openTag, hname]
        exact .left hn ha hv .nil
  | .html .., _ => .nil

theorem nests_lines : ∀ bs : List Block, (∀ d ∈ carriedAll bs, PlainNames d) →
    LinesNest (renamedRules (walkAll bs)) (lines false bs)
  | [], _ => .nil
  | b :: bs, h => by
      obtain ⟨hb, hbs⟩ := List.forall_mem_append.1 h
      have hb := nests_blockPieces b hb
      have hbs := nests_lines bs hbs
      cases b with
      | html value d => exact hbs
      | _ => rw [walkAll, renamedRules, List.countP_append]; exact .cons hb hbs

theorem nests_itemLines (spread : Bool) : ∀ is : List Item,
    (∀ d ∈ carriedItems is, PlainNames d) →
      LinesNest (renamedRules (walkItems is)) (itemLines false spread is)
  | [], _ => .nil
  | .mk itemSpread cs d :: is, h => by
      obtain ⟨hd, h⟩ := List.forall_mem_cons.1 h
      obtain ⟨hcs, his⟩ := List.forall_mem_append.1 h
      have hitem := nests_blockElement hd (by decide : isPlain "li" = true) (by decide)
        (by simp : ∀ a ∈ ([] : List Attribute), isName a.1 = true)
        (nests_childPieces (nests_itemChildren (spread || itemSpread) cs hcs) true)
      rw [walkItems, walkItem, renamedRules, List.countP_append]
      exact .cons hitem (nests_itemLines spread is his)

theorem nests_itemChildren (loose : Bool) : ∀ bs : List Block,
    (∀ d ∈ carriedAll bs, PlainNames d) →
      LinesNest (renamedRules (walkAll bs)) ((itemChildren false loose bs).map Child.pieces)
  | [], _ => .nil
  | b :: bs, h => by
      obtain ⟨hb, hbs⟩ := List.forall_mem_append.1 h
      have hb := nests_blockPieces b hb
      have hbs := nests_itemChildren loose bs hbs
      cases b with
      | html value d => exact hbs
      | paragraph is d =>
        rw [walkAll, renamedRules, List.countP_append]
        cases loose with
        | true => exact .cons hb hbs
        | false => exact .cons (nests_inlinesPieces is) hbs
      | _ => rw [walkAll, renamedRules, List.countP_append]; exact .cons hb hbs

end

/-! ## 7. Documents -/

/-- **When tags balance.** In a document without raw HTML whose element names
are plain and of elements that are closed, and whose property names are
plain, the tags balance just when no rule carries an element name. -/
theorem balanced_iff (raw : Bool) (r : Root) (hhtml : r.withoutHtml = r)
    (hnames : ∀ d ∈ r.carried, PlainNames d) :
    ∃ ts, tags (ofRoot raw r).toList = some ts
      ∧ (Balanced ts ↔ ∀ d, .rule d ∈ r.walk → d.elementName = none) := by
  have hnests : Nests (renamedRules r.walk) (blocksPieces false r.children) :=
    nests_joinLines (nests_lines r.children hnames)
  have hraw : ofRoot raw r = render (blocksPieces false r.children) := by
    have h := ofRoot_raw_withoutHtml raw r
    rwa [hhtml] at h
  refine ⟨(blocksPieces false r.children).flatMap Piece.tags, ?_, ?_⟩
  · rw [hraw]
    exact tags_render (legible_of_nests hnests)
  · rw [balanced_of_nests hnests, renamedRules, List.countP_eq_zero]
    constructor
    · intro h d hd
      simpa [isRenamedRule] using h _ hd
    · intro h b hb
      cases b with
      | rule d => simp [isRenamedRule, h d hb]
      | _ => simp [isRenamedRule]

/-- A document of blocks within blocks, some of them under other names. -/
def layered : Root :=
  ⟨[.callout "tip" [.list false none false [.mk false
        [.paragraph [.emphasis [.link "#" none [.text "a<b"]], .lineBreak] .none,
          .quote [.heading 2 [.image "i.png" none ">"] .none]
            { elementName := some "section" }]
        { elementName := some "x-item" }] .none]
      { properties := .ofList [("className", "\"></p>"), ("data-1", "<")] },
    .code (some "rust") none "1 < 2" { elementName := some "samp" },
    .rule { properties := .ofList [("id", "end")] }]⟩

/-- No rule of it has another name, and its tags balance. -/
theorem balanced_layered :
    layered.withoutHtml = layered ∧ (∀ d ∈ layered.carried, PlainNames d)
      ∧ ∃ ts, tags (ofRoot true layered).toList = some ts ∧ Balanced ts := by
  have hnames : ∀ d ∈ layered.carried, PlainNames d := by decide
  obtain ⟨ts, hts, hb⟩ := balanced_iff true layered rfl hnames
  refine ⟨rfl, hnames, ts, hts, hb.2 fun d hd => ?_⟩
  have hrules : ∀ b ∈ layered.walk, isRenamedRule b = false := by decide
  simpa [isRenamedRule] using hrules _ hd

/-- A document of one rule under another name. -/
def renamedRule : Root := ⟨[.rule { elementName := some "div" }]⟩

/-- Its one tag is never closed. -/
theorem not_balanced_renamedRule :
    renamedRule.withoutHtml = renamedRule ∧ (∀ d ∈ renamedRule.carried, PlainNames d)
      ∧ tags (ofRoot false renamedRule).toList = some [.opening "div"]
      ∧ ¬ Balanced [.opening "div"] :=
  ⟨rfl, by decide, by decide, by decide⟩

end Marginalia.Markup
