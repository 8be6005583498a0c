/-
Marginalia.Proofs.Tree.RoundTrip — trees come back from their texts.

`ofText_toJson`: a document, a block, an inline or data that is written as JSON,
without blanks or indented, is read back as it was: with the same kinds, with
what was absent absent and what was empty empty, and with its maps in the same
order. Two conditions are on what is written. Values in a bag hold no floating
point numbers and their objects are ordered (`Data.Storable`), and arrays and
objects do not stand deeper inside one another than readers go.

The text of a value is read as the value's draft if its numbers are exact, and
a tree writes no other numbers than depths, starts and those in its bags
(`Block.exact_toJson`).
-/
import Marginalia.Proofs.Tree.ReadBack

namespace Marginalia

open Json (Draft)

/-! ## 1. The numbers of trees -/

open Json (Exact ExactItems ExactMembers)

theorem exactMembers_append {ms ns : List (String × Json)} :
    ExactMembers (ms ++ ns) ↔ ExactMembers ms ∧ ExactMembers ns := by
  simp only [Json.exactMembers_iff, List.forall_mem_append]

theorem exact_optionalText (name : String) : ∀ value : Option String,
    ExactMembers (optionalText name value)
  | none => trivial
  | some _ => ⟨trivial, trivial⟩

theorem exact_natJson {n : Nat} (h : n < 2 ^ 64) : Exact (natJson n) := by
  constructor <;> omega

theorem Data.exact_toJson {d : Data} (hd : d.Storable) : Exact d.toJson := by
  refine exactMembers_append.2 ⟨exactMembers_append.2 ⟨exact_optionalText _ _, ?_⟩, ?_⟩
  · split
    · trivial
    · refine ⟨Json.exactMembers_iff.2 fun e he => ?_, trivial⟩
      obtain ⟨x, _, rfl⟩ := List.mem_map.1 he
      trivial
  · split
    · trivial
    · exact ⟨Json.exactMembers_iff.2 fun e he => (hd e he).1, trivial⟩

theorem Data.exact_member {d : Data} (hd : d.Storable) : ExactMembers d.member := by
  unfold Data.member
  split
  · trivial
  · exact ⟨d.exact_toJson hd, trivial⟩

mutual

theorem Inline.exact_toJson : ∀ i : Inline, Exact i.toJson
  | .text _ | .code _ | .lineBreak | .html _ => by simp [Inline.toJson, Exact, ExactMembers]
  | .emphasis cs | .strong cs | .delete cs => by
      simp [Inline.toJson, Exact, ExactMembers, exact_inlinesToJson cs]
  | .link _ title cs => by
      simp [Inline.toJson, Exact, ExactMembers, exactMembers_append, exact_optionalText,
        exact_inlinesToJson cs]
  | .image _ title _ => by
      simp [Inline.toJson, Exact, ExactMembers, exactMembers_append, exact_optionalText]

theorem exact_inlinesToJson : ∀ is : List Inline, ExactItems (inlinesToJson is)
  | [] => trivial
  | i :: is => ⟨i.exact_toJson, exact_inlinesToJson is⟩

end

mutual

theorem Block.exact_toJson : ∀ b : Block, (∀ d ∈ b.carried, d.Storable) → Exact b.toJson
  | .paragraph cs d, hd => by
      have hdata := d.exact_member (hd d (by simp [Block.carried]))
      simp [Block.toJson, Exact, ExactMembers, exact_inlinesToJson cs, hdata]
  | .heading depth cs d, hd => by
      have hdata := d.exact_member (hd d (by simp [Block.carried]))
      have hdepth : Exact (natJson depth.toNat) :=
        exact_natJson (by have := depth.toNat_lt; omega)
      simp [Block.toJson, Exact, ExactMembers, exact_inlinesToJson cs, hdata, hdepth]
  | .quote cs d, hd | .callout _ cs d, hd => by
      obtain ⟨hown, hcs⟩ := List.forall_mem_cons.1 hd
      simp [Block.toJson, Exact, ExactMembers, exact_blocksToJson cs hcs, d.exact_member hown]
  | .list ordered start spread is d, hd => by
      obtain ⟨hown, his⟩ := List.forall_mem_cons.1 hd
      cases start with
      | none =>
        simp [Block.toJson, Exact, ExactMembers, exact_itemsToJson is his, d.exact_member hown]
      | some n =>
        have hstart : Exact (natJson n.toNat) := exact_natJson n.toNat_lt
        simp [Block.toJson, Exact, ExactMembers, exact_itemsToJson is his, d.exact_member hown,
          hstart]
  | .code language details value d, hd => by
      have hdata := d.exact_member (hd d (by simp [Block.carried]))
      simp [Block.toJson, Exact, ExactMembers, exactMembers_append, exact_optionalText, hdata]
  | .rule d, hd | .html _ d, hd => by
      have hdata := d.exact_member (hd d (by simp [Block.carried]))
      simp [Block.toJson, Exact, ExactMembers, hdata]

theorem exact_blocksToJson : ∀ bs : List Block, (∀ d ∈ carriedAll bs, d.Storable) →
    ExactItems (blocksToJson bs)
  | [], _ => trivial
  | b :: bs, hd => by
      obtain ⟨hb, hbs⟩ := List.forall_mem_append.1 hd
      exact ⟨b.exact_toJson hb, exact_blocksToJson bs hbs⟩

theorem exact_itemsToJson : ∀ is : List Item, (∀ d ∈ carriedItems is, d.Storable) →
    ExactItems (itemsToJson is)
  | [], _ => trivial
  | .mk spread cs d :: is, hd => by
      obtain ⟨hitem, his⟩ := List.forall_mem_append.1 hd
      obtain ⟨hown, hcs⟩ := List.forall_mem_cons.1 hitem
      have hitem : Exact (Item.mk spread cs d).toJson := by
        simp [Item.toJson, Exact, ExactMembers, exact_blocksToJson cs hcs, d.exact_member hown]
      exact ⟨hitem, exact_itemsToJson is his⟩

end

theorem Root.exact_toJson (r : Root) (hd : ∀ d ∈ r.carried, d.Storable) : Exact r.toJson :=
  ⟨exact_blocksToJson r.children hd, trivial⟩

/-! ## 2. Whole texts -/

/-- What is read from the draft of a value is read from both of its texts. -/
theorem Tree.Read.ofText_of_read {α : Type} {read : Mode → Draft → Result α} {j : Json} {a : α}
    (hj : Exact j) (hread : read (.direct 0) (.ofJson j) = .ok a) :
    ofText read j.compact = .ok a ∧ ofText read j.pretty = .ok a := by
  rw [ofText, ofText, Json.ofText_compact hj, Json.ofText_pretty hj]
  rw [hread]
  exact ⟨rfl, rfl⟩

/-- A document is read back from its indented text also where a line feed stands
behind that. -/
theorem Root.ofText_prettyLine {r : Root} (hd : ∀ d ∈ r.carried, d.Storable)
    (h : r.toJson.nesting ≤ Json.depthLimit) :
    Root.ofText (r.toJson.pretty ++ "\n") = .ok r := by
  have hfits : (Tree.Read.Mode.direct 0).Fits r.toJson.nesting := by
    simpa [Tree.Read.Mode.Fits, Tree.Read.Mode.depth] using h
  rw [Root.ofText, Tree.Read.ofText, Json.ofText_prettyLine (r.exact_toJson hd)]
  rw [Tree.Read.readRoot_toJson r hd hfits]
  rfl

/-- Documents, blocks, inlines and data are read back, from the compact and from
the indented text of their value, as they were written. -/
theorem Tree.ofText_toJson :
    (∀ r : Root, (∀ d ∈ r.carried, d.Storable) → r.toJson.nesting ≤ Json.depthLimit →
      Root.ofText r.toJson.compact = .ok r ∧ Root.ofText r.toJson.pretty = .ok r)
    ∧ (∀ b : Block, (∀ d ∈ b.carried, d.Storable) → b.toJson.nesting ≤ Json.depthLimit →
      Block.ofText b.toJson.compact = .ok b ∧ Block.ofText b.toJson.pretty = .ok b)
    ∧ (∀ i : Inline, i.toJson.nesting ≤ Json.depthLimit →
      Tree.Read.ofText Tree.Read.readInline i.toJson.compact = .ok i
        ∧ Tree.Read.ofText Tree.Read.readInline i.toJson.pretty = .ok i)
    ∧ (∀ d : Data, d.Storable → d.toJson.nesting ≤ Json.depthLimit →
      Data.ofText d.toJson.compact = .ok d ∧ Data.ofText d.toJson.pretty = .ok d) := by
  have hfits {n : Nat} (h : n ≤ Json.depthLimit) : (Tree.Read.Mode.direct 0).Fits n := by
    simpa [Tree.Read.Mode.Fits, Tree.Read.Mode.depth] using h
  refine ⟨fun r hd h => ?_, fun b hd h => ?_, fun i h => ?_, fun d hd h => ?_⟩
  · exact Tree.Read.ofText_of_read (r.exact_toJson hd)
      (Tree.Read.readRoot_toJson r hd (hfits h))
  · exact Tree.Read.ofText_of_read (b.exact_toJson hd)
      (Tree.Read.readBlock_toJson b hd (hfits h))
  · exact Tree.Read.ofText_of_read i.exact_toJson (Tree.Read.readInline_toJson i (hfits h))
  · exact Tree.Read.ofText_of_read (d.exact_toJson hd) (Tree.Read.readData_toJson hd (hfits h))

/-- Data with every kind of value in its bag, and maps that are not in the
order of their keys. -/
def laden : Data where
  elementName := some ""
  properties := .ofList [("id", "\"\\"), ("className", "\n")]
  extra := .ofList [("z", .arr [.null, .number (.integer (-7)), .obj []]),
    ("a", .obj [("", .bool true), ("b", .text "é")])]

/-- A document with a number out of a byte's range, an empty title and blocks in blocks. -/
def manifold : Root where
  children :=
    [.callout "note" [.list true (some 300) false
        [.mk true [.code none (some "") "x\ty" laden, .rule .none] laden] .none] laden,
      .heading 6 [.link "u" (some "") [.emphasis [.text "a"]], .image "u" none ""] .none]

/-- All of it comes back, and so do its parts. -/
theorem Tree.ofText_toJson_manifold :
    (∀ d ∈ manifold.carried, d.Storable) ∧ manifold.toJson.nesting ≤ Json.depthLimit
      ∧ Root.ofText manifold.toJson.compact = .ok manifold
      ∧ Root.ofText manifold.toJson.pretty = .ok manifold
      ∧ Block.ofText (Block.rule laden).toJson.pretty = .ok (.rule laden)
      ∧ Tree.Read.ofText Tree.Read.readInline (Inline.text "\"").toJson.compact
        = .ok (.text "\"")
      ∧ Data.ofText laden.toJson.pretty = .ok laden := by
  obtain ⟨hroot, hblock, hinline, hdata⟩ := Tree.ofText_toJson
  have hd : ∀ d ∈ manifold.carried, d.Storable := by decide
  have hfits : manifold.toJson.nesting ≤ Json.depthLimit := by decide
  have hread := hroot manifold hd hfits
  exact ⟨hd, hfits, hread.1, hread.2, (hblock _ (by decide) (by decide)).2,
    (hinline _ (by decide)).1, (hdata laden (by decide) (by decide)).2⟩

end Marginalia
