/-
Marginalia.Proofs.Markup.MergedAttributes — which attributes an opening tag has.

The properties of a block are set over the attributes of its element one by
one, in place or behind the others, and several properties may be written as
one attribute: `className` and `class` both are. `Merged` says what comes of
it without saying how: which names there are and in what order, and which of
the values that could stand under a name does.

`openTag_merged`: the attributes of an opening tag are merged in this sense,
they are the only ones that are, and they are written in order with their
values escaped.

## How the proof goes

Two equations carry it. The names are the element's own followed by the first
occurrence of each further one (`map_fst_mergeAttributes`), and looking a name
up finds the last property that is written as it, or else the element's own
attribute (`lookup_mergeAttributes`). Both are inductions along the
properties, with any attributes as set so far. A list of attributes without
repeated names is given by its names and what they look up to
(`eq_of_map_fst_eq`), and so there is one such list only.
-/
import Marginalia.Proofs.Markup.Attributes

namespace Marginalia.Markup

/-! ## 1. What merging gives -/

/-- The attributes that properties are written as, in order. -/
def writtenNames (ps : List (String × String)) : List String :=
  ps.map fun p => attributeName p.1

/-- An attribute that comes of the last of the properties written as it. -/
def FromLast (ps : List (String × String)) (a : Attribute) : Prop :=
  ∃ before p after, ps = before ++ p :: after ∧ a = (attributeName p.1, p.2)
    ∧ ∀ q ∈ after, attributeName q.1 ≠ a.1

/-- The attributes `as` are the attributes `own` of an element with the
properties `ps` of its block merged over them. -/
structure Merged (own : List Attribute) (ps : List (String × String)) (as : List Attribute) :
    Prop where
  /-- No name appears twice. -/
  distinct : (as.map Prod.fst).Nodup
  /-- The names are the element's own and what the properties are written as. -/
  names : ∀ n, n ∈ as.map Prod.fst ↔ n ∈ own.map Prod.fst ∨ n ∈ writtenNames ps
  /-- A value is that of the last property written as the attribute, or the
  element's own where there is no such property. -/
  values : ∀ a ∈ as, FromLast ps a ∨ a.1 ∉ writtenNames ps ∧ a ∈ own
  /-- The element's own attributes come first. Behind them each further name
  stands where it first appears. -/
  order : as.map Prod.fst
    = own.map Prod.fst ++ ((writtenNames ps).filter (· ∉ own.map Prod.fst)).eraseDups

/-! ## 2. Names -/

theorem map_fst_mergeAttributes (ps : List (String × String)) (own : List Attribute) :
    (mergeAttributes own ps).map Prod.fst
      = own.map Prod.fst ++ ((writtenNames ps).filter (· ∉ own.map Prod.fst)).eraseDups := by
  induction ps generalizing own with
  | nil => simp [mergeAttributes, writtenNames]
  | cons p ps ih =>
    have hstep : mergeAttributes own (p :: ps)
        = mergeAttributes (setAttribute (attributeName p.1) p.2 own) ps := rfl
    have hnames : writtenNames (p :: ps) = attributeName p.1 :: writtenNames ps := rfl
    rw [hstep, ih, map_fst_setAttribute, hnames]
    by_cases hp : attributeName p.1 ∈ own.map Prod.fst
    · rw [if_pos hp, List.filter_cons_of_neg (by simpa using hp)]
    · have hrest : (writtenNames ps).filter (· ∉ own.map Prod.fst ++ [attributeName p.1])
          = ((writtenNames ps).filter (· ∉ own.map Prod.fst)).filter
              (fun n => !(n == attributeName p.1)) := by
        rw [List.filter_filter]
        refine List.filter_congr fun n _ => ?_
        simp only [List.mem_append, List.mem_singleton]
        by_cases hn : n = attributeName p.1 <;> simp [hn]
      rw [if_neg hp, List.filter_cons_of_pos (by simpa using hp), List.eraseDups_cons, hrest,
        List.append_assoc]
      rfl

/-! ## 3. Values -/

theorem lookup_cons_eq (n : String) (a : Attribute) (as : List Attribute) :
    (a :: as).lookup n = if n = a.1 then some a.2 else as.lookup n := by
  by_cases hn : n = a.1
  · rw [List.lookup_cons, beq_iff_eq.2 hn, if_pos hn]
  · rw [List.lookup_cons, beq_false_of_ne hn, if_neg hn]

theorem lookup_setAttribute (name value n : String) (as : List Attribute) :
    (setAttribute name value as).lookup n = if n = name then some value else as.lookup n := by
  induction as with
  | nil => rw [setAttribute, lookup_cons_eq]
  | cons a as ih =>
    unfold setAttribute
    split
    · next ha =>
      rw [lookup_cons_eq, lookup_cons_eq, ha]
      split <;> rfl
    · next ha =>
      rw [lookup_cons_eq, lookup_cons_eq, ih]
      by_cases hn : n = a.1
      · rw [if_pos hn, if_pos hn, if_neg fun h => ha (hn.symm.trans h)]
      · rw [if_neg hn, if_neg hn]

/-- The value of the last property that is written as an attribute. -/
def lastValue? (n : String) (ps : List (String × String)) : Option String :=
  (ps.reverse.find? fun p => attributeName p.1 = n).map Prod.snd

theorem lastValue?_cons (n : String) (p : String × String) (ps : List (String × String)) :
    lastValue? n (p :: ps)
      = (lastValue? n ps).or (if attributeName p.1 = n then some p.2 else none) := by
  by_cases hp : attributeName p.1 = n <;>
    cases hps : ps.reverse.find? (fun p => attributeName p.1 = n) <;>
    simp [lastValue?, hp, hps]

theorem lookup_mergeAttributes (n : String) (ps : List (String × String))
    (own : List Attribute) :
    (mergeAttributes own ps).lookup n = (lastValue? n ps).or (own.lookup n) := by
  induction ps generalizing own with
  | nil => rfl
  | cons p ps ih =>
    have hstep : mergeAttributes own (p :: ps)
        = mergeAttributes (setAttribute (attributeName p.1) p.2 own) ps := rfl
    rw [hstep, ih, lookup_setAttribute, lastValue?_cons, Option.or_assoc]
    by_cases hn : attributeName p.1 = n
    · simp [hn]
    · simp [hn, Ne.symm hn]

theorem fromLast_iff {ps : List (String × String)} {a : Attribute} :
    FromLast ps a ↔ lastValue? a.1 ps = some a.2 := by
  constructor
  · rintro ⟨before, p, after, rfl, rfl, hafter⟩
    have hnone : after.reverse.find? (fun q => attributeName q.1 = attributeName p.1)
        = none := by
      simpa using hafter
    simp [lastValue?, hnone]
  · intro h
    obtain ⟨p, hp, hvalue⟩ := Option.map_eq_some_iff.1 h
    obtain ⟨hname, after, before, hps, hafter⟩ := List.find?_eq_some_iff_append.1 hp
    rw [List.reverse_eq_iff] at hps
    have hname : attributeName p.1 = a.1 := by simpa using hname
    refine ⟨before.reverse, p, after.reverse, by simpa using hps, ?_, fun q hq => ?_⟩
    · rw [hname, hvalue]
    · simpa using hafter q (List.mem_reverse.1 hq)

theorem lastValue?_eq_none {n : String} {ps : List (String × String)} :
    lastValue? n ps = none ↔ n ∉ writtenNames ps := by
  simp [lastValue?, writtenNames]

theorem mem_iff_lookup {as : List Attribute} (h : (as.map Prod.fst).Nodup) {a : Attribute} :
    a ∈ as ↔ as.lookup a.1 = some a.2 := by
  induction as with
  | nil => simp
  | cons b as ih =>
    obtain ⟨hb, has⟩ := List.nodup_cons.1 h
    rw [lookup_cons_eq, List.mem_cons]
    by_cases hn : a.1 = b.1
    · have hout : a ∉ as := fun hmem => hb (hn ▸ List.mem_map_of_mem hmem)
      simp [hn, hout, Prod.ext_iff, eq_comm]
    · have hne : a ≠ b := fun hab => hn (hab ▸ rfl)
      simp [hn, hne, ih has]

/-! ## 4. There is one list of merged attributes -/

/-- Attributes are given by their names in order and by what these look up to. -/
theorem eq_of_map_fst_eq {as bs : List Attribute} (hnames : as.map Prod.fst = bs.map Prod.fst)
    (hvalues : ∀ a ∈ as, ∀ b ∈ bs, a.1 = b.1 → a.2 = b.2) : as = bs := by
  induction as generalizing bs with
  | nil => exact (List.map_eq_nil_iff.1 hnames.symm).symm
  | cons a as ih =>
    cases bs with
    | nil => cases hnames
    | cons b bs =>
      obtain ⟨hname, hnames⟩ := List.cons.inj hnames
      have hab : a = b :=
        Prod.ext hname (hvalues a List.mem_cons_self b List.mem_cons_self hname)
      have hrest : as = bs := ih hnames fun a ha b hb =>
        hvalues a (List.mem_cons_of_mem _ ha) b (List.mem_cons_of_mem _ hb)
      rw [hab, hrest]

variable {own : List Attribute} {ps : List (String × String)}

theorem merged_mergeAttributes (h : (own.map Prod.fst).Nodup) :
    Merged own ps (mergeAttributes own ps) where
  distinct := nodup_mergeAttributes h ps
  names n := by
    rw [map_fst_mergeAttributes]
    by_cases hn : n ∈ own.map Prod.fst <;> simp [List.mem_eraseDups, hn]
  values a ha := by
    have hlookup := (mem_iff_lookup (nodup_mergeAttributes h ps)).1 ha
    rw [lookup_mergeAttributes] at hlookup
    cases hlast : lastValue? a.1 ps with
    | some v =>
      rw [hlast] at hlookup
      exact .inl (fromLast_iff.2 (hlast.trans hlookup))
    | none =>
      rw [hlast] at hlookup
      exact .inr ⟨lastValue?_eq_none.1 hlast, (mem_iff_lookup h).2 hlookup⟩
  order := map_fst_mergeAttributes ps own

theorem Merged.lookup_eq (h : (own.map Prod.fst).Nodup) {as : List Attribute}
    (hm : Merged own ps as) {a : Attribute} (ha : a ∈ as) :
    (lastValue? a.1 ps).or (own.lookup a.1) = some a.2 := by
  rcases hm.values a ha with hlast | ⟨hout, hown⟩
  · rw [fromLast_iff.1 hlast]
    rfl
  · rw [lastValue?_eq_none.2 hout, (mem_iff_lookup h).1 hown]
    rfl

theorem merged_iff (h : (own.map Prod.fst).Nodup) {as : List Attribute} :
    Merged own ps as ↔ as = mergeAttributes own ps := by
  refine ⟨fun hm => ?_, fun heq => heq ▸ merged_mergeAttributes h⟩
  have hm' : Merged own ps (mergeAttributes own ps) := merged_mergeAttributes h
  refine eq_of_map_fst_eq (hm.order.trans hm'.order.symm) fun a ha b hb hab => ?_
  have hvalue : some a.2 = some b.2 := by
    rw [← hm.lookup_eq h ha, ← hm'.lookup_eq h hb, hab]
  exact Option.some.inj hvalue

/-- **The attributes of an opening tag.** They are the element's own with the
properties of the block merged over them, no other attributes are, and each is
written behind a blank with its value escaped between quotes. -/
theorem openTag_merged (name : String) (h : (own.map Prod.fst).Nodup) (d : Data) :
    ∃ as, (∀ as', Merged own d.properties.entries as' ↔ as' = as)
      ∧ openTag name own d = .openTag name as
      ∧ (openTag name own d).chars
          = '<' :: name.toList
            ++ as.flatMap (fun a =>
                ' ' :: a.1.toList ++ '=' :: '"' :: escapeAttribute a.2.toList ++ ['"'])
            ++ ['>'] :=
  ⟨mergeAttributes own d.properties.entries, fun _ => merged_iff h, rfl, rfl⟩

/-- A list that starts at three and has a class, in a block with four
properties that are written as two attributes and one more. -/
theorem openTag_merged_collisions :
    ([("start", "3"), ("class", "own")].map Prod.fst).Nodup
      ∧ (openTag "ol" [("start", "3"), ("class", "own")]
          { properties := .ofList [("htmlFor", "a"), ("className", "b"), ("id", "c"),
            ("for", "d"), ("class", "\"&")] }).chars
        = "<ol start=\"3\" class=\"&quot;&amp;\" for=\"d\" id=\"c\">".toList := by
  have hown : ([("start", "3"), ("class", "own")].map Prod.fst).Nodup := by decide
  obtain ⟨as, hmerged, htag, hchars⟩ := openTag_merged "ol" hown
    { properties := .ofList [("htmlFor", "a"), ("className", "b"), ("id", "c"), ("for", "d"),
      ("class", "\"&")] }
  have has : as = [("start", "3"), ("class", "\"&"), ("for", "d"), ("id", "c")] :=
    (Piece.openTag.inj htag).2.symm.trans (by decide)
  refine ⟨hown, ?_⟩
  rw [hchars, has]
  decide

end Marginalia.Markup
