/-
Marginalia.Proofs.Tree.ReadBack — a tree is read from the value it is written as.

`readInline_toJson`, `readBlock_toJson` and `readRoot_toJson`: the draft of the
value of a tree is read as the tree, in whichever mode the nesting leaves room
for.

## How the proof goes

An inline or block is read twice: the whole object is checked while its kind
is looked for (`kindOf_ofJson`), and then its members are read as the fields
of that kind. The second reading is in the mode `checked` whatever the first
was, so the theorems are about every mode and the induction only needs that
the parts fit (`fits_member`).

For each kind a lemma says which slots its members fill
(`fillInline_link`, `fillBlock_heading` and so on), given that its children are
read. `readInline_of_fill` and `readBlock_of_fill` carry the rest: the member
`type` is no field of any record, and `data` comes last and may be missing.
The induction is on the tree, with one case a constructor.
-/
import Marginalia.Proofs.Tree.Carried
import Marginalia.Proofs.Tree.DataReadBack

namespace Marginalia

open Json (Draft Leaf nestingItems nestingMembers)

namespace Tree.Read

/-! ## 1. Kinds -/

/-- None of the members names a kind. -/
def Typeless (ms : List (String × Json)) : Prop := ∀ e ∈ ms, e.1 ≠ "type"

@[simp] theorem typeless_nil : Typeless [] := fun _ h => absurd h List.not_mem_nil

@[simp] theorem typeless_cons {key : String} {j : Json} {ms : List (String × Json)} :
    Typeless ((key, j) :: ms) ↔ key ≠ "type" ∧ Typeless ms :=
  List.forall_mem_cons

@[simp] theorem typeless_append {ms ns : List (String × Json)} :
    Typeless (ms ++ ns) ↔ Typeless ms ∧ Typeless ns :=
  List.forall_mem_append

@[simp] theorem typeless_optionalText {name : String} (h : name ≠ "type")
    (value : Option String) :
    Typeless (optionalText name value) := by
  cases value <;> simp [optionalText, h]

@[simp] theorem typeless_member (d : Data) : Typeless d.member := by
  unfold Data.member
  split <;> simp

theorem kindOfMembers_some {m : Mode} (names : List String) (kind : String) :
    ∀ {ms : List (String × Json)}, Typeless ms → m.Fits (nestingMembers ms) →
      kindOfMembers m names (some kind) (Draft.ofMembers ms) = .ok (some kind)
  | [], _, _ => rfl
  | (key, j) :: ms, h, hfits => by
      obtain ⟨hkey, hms⟩ := List.forall_mem_cons.1 h
      obtain ⟨hj, hrest⟩ := fits_max.1 hfits
      have hne : key ≠ "type" := hkey
      have ih := kindOfMembers_some names kind hms hrest
      simp [Draft.ofMembers, kindOfMembers, hne, check_ofJson hj, ih]

/-- The kind of an object whose first member names it. -/
theorem kindOf_ofJson {m : Mode} {names : List String} {kind : String} (what : String)
    (hkind : kind ∈ names) {ms : List (String × Json)} (hms : Typeless ms)
    (hfits : m.Fits (Json.obj (("type", .text kind) :: ms)).nesting) :
    kindOf m what names (.ofJson (.obj (("type", .text kind) :: ms))) = .ok kind := by
  have hrest := (fits_max.1 (fits_inside hfits)).2
  have hmembers := kindOfMembers_some names kind hms hrest
  simp [Draft.ofJson, Draft.ofMembers, kindOf, enter_of_fits hfits, kindOfMembers, readKind,
    readScalar, hkind, hmembers]

/-- A member fits once checked when the object did before. -/
theorem fits_member {m : Mode} (key : String) {j : Json} {ms : List (String × Json)}
    (hfits : m.Fits (Json.obj ms).nesting) (hmem : (key, j) ∈ ms) :
    Mode.checked.Fits j.nesting := by
  have hinside := fits_checked (fits_inside hfits)
  clear hfits
  induction ms with
  | nil => exact absurd hmem List.not_mem_nil
  | cons e ms ih =>
    obtain ⟨hj, hrest⟩ := fits_max.1 hinside
    rcases List.mem_cons.1 hmem with rfl | hmem
    · exact hj
    · exact ih hmem hrest

theorem fits_members {m : Mode} {ms : List (String × Json)}
    (hfits : m.Fits (Json.obj ms).nesting) : ∀ (ns : List (String × Json)), ns ⊆ ms →
      Mode.checked.Fits (nestingMembers ns)
  | [], _ => by simp [Mode.Fits, Mode.depth, nestingMembers]
  | (key, _) :: ns, hsub => by
      obtain ⟨hmem, hns⟩ := List.cons_subset.1 hsub
      exact fits_max.2 ⟨fits_member key hfits hmem, fits_members hfits ns hns⟩

/-! ## 2. Inlines -/

/-- No record of an inline has a field for the kind. -/
theorem type_not_mem_inlineRecord :
    ∀ kind ∈ inlineNames, "type" ∉ (inlineRecord kind).fields := by
  decide

/-- An inline is what its members make, once its first member names its kind. -/
theorem readInline_of_fill {m : Mode} {kind : String} (hkind : kind ∈ inlineNames)
    {ms : List (String × Json)} (hms : Typeless ms)
    (hfits : m.Fits (Json.obj (("type", .text kind) :: ms)).nesting) {s : InlineSlots}
    (hfill : fillInline (inlineRecord kind) {} (Draft.ofMembers ms) = .ok s) {i : Inline}
    (hbuild : s.build .byName kind = .ok i) :
    readInline m (.ofJson (.obj (("type", .text kind) :: ms))) = .ok i := by
  have hkindOf := kindOf_ofJson "Inline" hkind hms hfits
  have hfields := type_not_mem_inlineRecord kind hkind
  rw [Draft.ofJson] at hkindOf ⊢
  rw [readInline, hkindOf]
  simp [Draft.ofMembers, fillInline, fillInlineMember, hfields, hfill, hbuild]

/-- A sequence of inlines is read when its items are. -/
theorem readInlines_of_items {m : Mode} {js : List Json} {is : List Inline}
    (hfits : m.Fits (Json.arr js).nesting)
    (hitems : m.inside.Fits (nestingItems js) →
      readInlineItems m.inside (Draft.ofItems js) = .ok is) :
    readInlines m (.ofJson (.arr js)) = .ok is := by
  simp [Draft.ofJson, readInlines, enter_of_fits hfits, hitems (fits_inside hfits)]

/-- The children of an inline, as its last member. -/
theorem fillInline_children {r : Record} (hr : "children" ∈ r.fields) {s : InlineSlots}
    (hs : s.children = none) {js : List Json} {is : List Inline}
    (hread : readInlines .checked (.ofJson (.arr js)) = .ok is) :
    fillInline r s (Draft.ofMembers [("children", .arr js)])
      = .ok { s with children := some is } := by
  simp [Draft.ofMembers, fillInline, fillInlineMember, InlineSlots.put, hr, hs, hread]

theorem fillInline_link (url : String) : ∀ (title : Option String) {js : List Json}
    {is : List Inline}, readInlines .checked (.ofJson (.arr js)) = .ok is →
      fillInline (inlineRecord "link") {} (Draft.ofMembers
          (("url", .text url) :: optionalText "title" title ++ [("children", .arr js)]))
        = .ok { url := some url, title := title.map some, children := some is }
  | none, _, _, hread =>
      fillInline_children (r := inlineRecord "link") (s := { url := some url }) (by decide) rfl
        hread
  | some title, _, _, hread =>
      fillInline_children (r := inlineRecord "link")
        (s := { url := some url, title := some (some title) }) (by decide) rfl hread

mutual

/-- An inline is read back from its value. -/
theorem readInline_toJson {m : Mode} : ∀ (i : Inline), m.Fits i.toJson.nesting →
    readInline m (.ofJson i.toJson) = .ok i
  | .text _, h => readInline_of_fill (by decide) (by simp) h rfl rfl
  | .emphasis cs, h =>
      have hchildren := readInlines_of_items (fits_member "children" h (by simp))
        (readInlineItems_toJson cs)
      readInline_of_fill (by decide) (by simp) h
        (fillInline_children (by decide) rfl hchildren) rfl
  | .strong cs, h =>
      have hchildren := readInlines_of_items (fits_member "children" h (by simp))
        (readInlineItems_toJson cs)
      readInline_of_fill (by decide) (by simp) h
        (fillInline_children (by decide) rfl hchildren) rfl
  | .delete cs, h =>
      have hchildren := readInlines_of_items (fits_member "children" h (by simp))
        (readInlineItems_toJson cs)
      readInline_of_fill (by decide) (by simp) h
        (fillInline_children (by decide) rfl hchildren) rfl
  | .code _, h => readInline_of_fill (by decide) (by simp) h rfl rfl
  | .lineBreak, h => readInline_of_fill (by decide) (by simp) h rfl rfl
  | .link url title cs, h => by
      have hchildren := readInlines_of_items (fits_member "children" h (by simp))
        (readInlineItems_toJson cs)
      refine readInline_of_fill (by decide) (by simp) h
        (fillInline_link url title hchildren) ?_
      cases title <;> rfl
  | .image _ none _, h => readInline_of_fill (by decide) (by simp) h rfl rfl
  | .image _ (some _) _, h => readInline_of_fill (by decide) (by simp) h rfl rfl
  | .html _, h => readInline_of_fill (by decide) (by simp) h rfl rfl

theorem readInlineItems_toJson {m : Mode} : ∀ (is : List Inline),
    m.Fits (nestingItems (inlinesToJson is)) →
      readInlineItems m (Draft.ofItems (inlinesToJson is)) = .ok is
  | [], _ => rfl
  | i :: is, h => by
      obtain ⟨hi, his⟩ := fits_max.1 h
      simp [inlinesToJson, Draft.ofItems, readInlineItems, readInline_toJson i hi,
        readInlineItems_toJson is his]

end

/-- A sequence of inlines is read back from its values. -/
theorem readInlines_toJson {m : Mode} (is : List Inline)
    (hfits : m.Fits (Json.arr (inlinesToJson is)).nesting) :
    readInlines m (.ofJson (.arr (inlinesToJson is))) = .ok is :=
  readInlines_of_items hfits (readInlineItems_toJson is)

/-! ## 3. The fields of blocks -/

theorem readNat_natJson (expected : String) {n bound : Nat} (h : n < bound) :
    readNat expected bound (.ofJson (natJson n)) = .ok n := by
  have hbound : (n : Int) < bound := Int.ofNat_lt.2 h
  simp [natJson, Draft.ofJson, readNat, readScalar, hbound]

theorem readByte_natJson (n : UInt8) : readByte (.ofJson (natJson n.toNat)) = .ok n := by
  rw [readByte, readNat_natJson _ n.toNat_lt, Except.map, Nat.toUInt8_eq, UInt8.ofNat_toNat]

theorem readOptionalCount_natJson (n : UInt64) :
    readOptionalCount (.ofJson (natJson n.toNat)) = .ok (some n) := by
  have hread : readOptionalCount (.ofJson (natJson n.toNat))
      = (readNat "usize" (2 ^ 64) (.ofJson (natJson n.toNat))).map fun n =>
        some n.toUInt64 := rfl
  rw [hread, readNat_natJson _ n.toNat_lt, Except.map, Nat.toUInt64_eq, UInt64.ofNat_toNat]

/-- Every record of a block has a field for its data. -/
theorem data_mem_blockRecord : ∀ kind ∈ blockNames, "data" ∈ (blockRecord kind).fields := by
  decide

/-- Reading members goes on once the first is read. -/
theorem fillBlock_field {m : Mode} {r : Record} {s s' : BlockSlots} {key : String} {j : Json}
    (hput : s.put m r key (.ofJson j) (fun _ => readBlocks m (.ofJson j))
      (fun _ => readItems m (.ofJson j)) = .ok s') (ms : List (String × Json)) :
    fillBlock m r s (Draft.ofMembers ((key, j) :: ms))
      = fillBlock m r s' (Draft.ofMembers ms) := by
  simp [Draft.ofMembers, fillBlock, fillBlockMember, hput]

-- each field below is one case of `put`
attribute [local simp] BlockSlots.put

/-- The data of a block, as its last member. -/
theorem fillBlock_data {m : Mode} {r : Record} (hr : "data" ∈ r.fields) {s : BlockSlots}
    (hs : s.data = none) {d : Data} (hd : d.Storable)
    (hfits : m.Fits (nestingMembers d.member)) :
    fillBlock m r s (Draft.ofMembers d.member)
      = .ok { s with data := if d.isEmpty then none else some d } := by
  unfold Data.member at *
  cases hempty : d.isEmpty with
  | true =>
    obtain ⟨⟩ := s
    obtain rfl := hs
    rfl
  | false =>
    rw [hempty] at hfits
    have hread := readData_toJson hd (fits_max.1 hfits).1
    rw [if_neg (by simp), fillBlock_field]
    · rfl
    · simp [hr, hs, hread]

theorem data_eq_none {d : Data} (h : d.isEmpty = true) : d = .none := by
  obtain ⟨name, properties, extra⟩ := d
  simp only [Data.isEmpty, Bool.and_eq_true, Option.isNone_iff_eq_none] at h
  obtain ⟨⟨rfl, hproperties⟩, hextra⟩ := h
  rw [OrderedMap.eq_empty hproperties, OrderedMap.eq_empty hextra]
  rfl

/-- Data that was left out is the data of a block that carries nothing. -/
theorem getData_of_left_out (s : BlockSlots) (d : Data) :
    BlockSlots.getData { s with data := if d.isEmpty then none else some d } = d := by
  unfold BlockSlots.getData
  cases h : d.isEmpty with
  | true => exact (data_eq_none h).symm
  | false => rfl

theorem build_data (s : BlockSlots) (d : Data) (how : Missing) (kind : String) :
    BlockSlots.build { s with data := if d.isEmpty then none else some d } how kind
      = BlockSlots.build { s with data := some d } how kind := by
  unfold BlockSlots.build
  rw [getData_of_left_out]
  rfl

theorem buildItem_data (spread : Bool) (cs : List Block) (d : Data) :
    BlockSlots.buildItem
        { spread := some spread, blocks := some cs,
          data := if d.isEmpty then none else some d }
        .byName
      = .ok (.mk spread cs d) := by
  rw [BlockSlots.buildItem, getData_of_left_out { spread := some spread, blocks := some cs }]
  rfl

/-- A block is what its members make, once its first member names its kind and
its last ones are its data. -/
theorem readBlock_of_fill {m : Mode} {kind : String} (hkind : kind ∈ blockNames)
    (ms : List (String × Json)) (hms : Typeless ms) {d : Data} (hd : d.Storable)
    (hfits : m.Fits (Json.obj (("type", .text kind) :: ms ++ d.member)).nesting)
    {s : BlockSlots} (hfill : ∀ ns,
      fillBlock .checked (blockRecord kind) {} (Draft.ofMembers (ms ++ ns))
        = fillBlock .checked (blockRecord kind) s (Draft.ofMembers ns))
    (hs : s.data = none) {b : Block}
    (hbuild : BlockSlots.build { s with data := some d } .byName kind = .ok b) :
    readBlock m (.ofJson (.obj (("type", .text kind) :: ms ++ d.member))) = .ok b := by
  have htypeless : Typeless (ms ++ d.member) := typeless_append.2 ⟨hms, typeless_member d⟩
  have hkindOf := kindOf_ofJson "Block" hkind htypeless hfits
  have hdata := fits_members hfits d.member (List.subset_append_right _ _)
  have hfield := data_mem_blockRecord kind hkind
  rw [List.cons_append, Draft.ofJson] at *
  rw [readBlock, hkindOf]
  simp [Draft.ofMembers, fillBlock, fillBlockMember, Mode.pass, hfill,
    fillBlock_data hfield hs hd hdata, build_data, hbuild]

theorem fillBlock_inlines {m : Mode} {r : Record} (hr : "children" ∈ r.fields)
    (hkind : r.childKind = .inlines) {s : BlockSlots} (hs : s.inlines = none) {js : List Json}
    {is : List Inline} (hread : readInlines m (.ofJson (.arr js)) = .ok is)
    (ms : List (String × Json)) :
    fillBlock m r s (Draft.ofMembers (("children", .arr js) :: ms))
      = fillBlock m r { s with inlines := some is } (Draft.ofMembers ms) :=
  fillBlock_field (by simp [hr, hkind, hs, hread]) ms

theorem fillBlock_blocks {m : Mode} {r : Record} (hr : "children" ∈ r.fields)
    (hkind : r.childKind = .blocks) {s : BlockSlots} (hs : s.blocks = none) {js : List Json}
    {bs : List Block} (hread : readBlocks m (.ofJson (.arr js)) = .ok bs)
    (ms : List (String × Json)) :
    fillBlock m r s (Draft.ofMembers (("children", .arr js) :: ms))
      = fillBlock m r { s with blocks := some bs } (Draft.ofMembers ms) :=
  fillBlock_field (by simp [hr, hkind, hs, hread]) ms

theorem fillBlock_items {m : Mode} {r : Record} (hr : "children" ∈ r.fields)
    (hkind : r.childKind = .items) {s : BlockSlots} (hs : s.items = none) {js : List Json}
    {is : List Item} (hread : readItems m (.ofJson (.arr js)) = .ok is)
    (ms : List (String × Json)) :
    fillBlock m r s (Draft.ofMembers (("children", .arr js) :: ms))
      = fillBlock m r { s with items := some is } (Draft.ofMembers ms) :=
  fillBlock_field (by simp [hr, hkind, hs, hread]) ms

theorem fillBlock_depth {m : Mode} {j : Json} {n : UInt8}
    (hread : readByte (.ofJson j) = .ok n) (ms : List (String × Json)) :
    fillBlock m (blockRecord "heading") {} (Draft.ofMembers (("depth", j) :: ms))
      = fillBlock m (blockRecord "heading") { depth := some n } (Draft.ofMembers ms) :=
  fillBlock_field (by simp [blockRecord, hread]) ms

theorem fillBlock_heading {m : Mode} (depth : UInt8) {js : List Json} {is : List Inline}
    (hread : readInlines m (.ofJson (.arr js)) = .ok is) (ms : List (String × Json)) :
    fillBlock m (blockRecord "heading") {}
        (Draft.ofMembers (("depth", natJson depth.toNat) :: ("children", .arr js) :: ms))
      = fillBlock m (blockRecord "heading") { depth := some depth, inlines := some is }
          (Draft.ofMembers ms) := by
  rw [fillBlock_depth (readByte_natJson depth), fillBlock_inlines (by decide) rfl rfl hread]

theorem fillBlock_callout {m : Mode} (kind : String) {js : List Json} {bs : List Block}
    (hread : readBlocks m (.ofJson (.arr js)) = .ok bs) (ms : List (String × Json)) :
    fillBlock m (blockRecord "callout") {}
        (Draft.ofMembers (("calloutType", .text kind) :: ("children", .arr js) :: ms))
      = fillBlock m (blockRecord "callout") { calloutType := some kind, blocks := some bs }
          (Draft.ofMembers ms) := by
  rw [fillBlock_field rfl, fillBlock_blocks (by decide) rfl rfl hread]

theorem fillBlock_start {m : Mode} (ordered : Bool) {j : Json} {start : Option UInt64}
    (hread : readOptionalCount (.ofJson j) = .ok start) (ms : List (String × Json)) :
    fillBlock m (blockRecord "list") { ordered := some ordered }
        (Draft.ofMembers (("start", j) :: ms))
      = fillBlock m (blockRecord "list") { ordered := some ordered, start := some start }
          (Draft.ofMembers ms) :=
  fillBlock_field (by simp [blockRecord, hread]) ms

theorem fillBlock_value {m : Mode} {r : Record} (hr : "value" ∈ r.fields) {s : BlockSlots}
    (hs : s.value = none) (value : String) (ms : List (String × Json)) :
    fillBlock m r s (Draft.ofMembers (("value", .text value) :: ms))
      = fillBlock m r { s with value := some value } (Draft.ofMembers ms) :=
  fillBlock_field (by simp [hr, hs, Draft.ofJson, readText, readScalar]) ms

theorem fillBlock_language {m : Mode} (language : Option String) (ms : List (String × Json)) :
    fillBlock m (blockRecord "code") {} (Draft.ofMembers (optionalText "lang" language ++ ms))
      = fillBlock m (blockRecord "code") { language := language.map some }
          (Draft.ofMembers ms) := by
  cases language with
  | none => rfl
  | some language =>
    refine fillBlock_field ?_ ms
    simp [blockRecord, Draft.ofJson, readOptionalText, readScalar]

theorem fillBlock_details {m : Mode} (language : Option (Option String))
    (details : Option String) (ms : List (String × Json)) :
    fillBlock m (blockRecord "code") { language }
        (Draft.ofMembers (optionalText "meta" details ++ ms))
      = fillBlock m (blockRecord "code") { language, details := details.map some }
          (Draft.ofMembers ms) := by
  cases details with
  | none => rfl
  | some details =>
    refine fillBlock_field ?_ ms
    simp [blockRecord, Draft.ofJson, readOptionalText, readScalar]

theorem fillBlock_code {m : Mode} (language details : Option String) (value : String)
    (ms : List (String × Json)) :
    fillBlock m (blockRecord "code") {} (Draft.ofMembers (optionalText "lang" language
        ++ optionalText "meta" details ++ [("value", .text value)] ++ ms))
      = fillBlock m (blockRecord "code")
          { language := language.map some, details := details.map some, value := some value }
          (Draft.ofMembers ms) := by
  rw [List.append_assoc, List.append_assoc, fillBlock_language, fillBlock_details,
    List.singleton_append, fillBlock_value (by decide) rfl]

/-- The member of a list for the number of its first item. -/
def startMember : Option UInt64 → List (String × Json)
  | none => []
  | some n => [("start", natJson n.toNat)]

theorem fillBlock_list {m : Mode} (ordered : Bool) (start : Option UInt64) (spread : Bool)
    {js : List Json} {is : List Item} (hread : readItems m (.ofJson (.arr js)) = .ok is)
    (ms : List (String × Json)) :
    fillBlock m (blockRecord "list") {} (Draft.ofMembers (("ordered", .bool ordered)
        :: startMember start ++ [("spread", .bool spread), ("children", .arr js)] ++ ms))
      = fillBlock m (blockRecord "list")
          { ordered := some ordered, start := start.map some, spread := some spread,
            items := some is } (Draft.ofMembers ms) := by
  have hspread (start : Option (Option UInt64)) :
      fillBlock m (blockRecord "list") { ordered := some ordered, start }
          (Draft.ofMembers (("spread", .bool spread) :: ("children", .arr js) :: ms))
        = fillBlock m (blockRecord "list")
            { ordered := some ordered, start, spread := some spread, items := some is }
            (Draft.ofMembers ms) :=
    (fillBlock_field rfl _).trans (fillBlock_items (by decide) rfl rfl hread ms)
  cases start with
  | none => exact (fillBlock_field rfl _).trans (hspread none)
  | some n =>
    exact ((fillBlock_field rfl _).trans
      (fillBlock_start ordered (readOptionalCount_natJson n) _)).trans
        (hspread (some (some n)))

/-! ## 4. Blocks -/

theorem readBlocks_of_items {m : Mode} {js : List Json} {bs : List Block}
    (hfits : m.Fits (Json.arr js).nesting)
    (hitems : m.inside.Fits (nestingItems js) →
      readBlockItems m.inside (Draft.ofItems js) = .ok bs) :
    readBlocks m (.ofJson (.arr js)) = .ok bs := by
  simp [Draft.ofJson, readBlocks, enter_of_fits hfits, hitems (fits_inside hfits)]

theorem readItems_of_items {m : Mode} {js : List Json} {is : List Item}
    (hfits : m.Fits (Json.arr js).nesting)
    (hitems : m.inside.Fits (nestingItems js) →
      readItemItems m.inside (Draft.ofItems js) = .ok is) :
    readItems m (.ofJson (.arr js)) = .ok is := by
  simp [Draft.ofJson, readItems, enter_of_fits hfits, hitems (fits_inside hfits)]

/-- The children and the data of an item. -/
theorem readItem_of_children {m : Mode} {spread : Bool} {js : List Json} {cs : List Block}
    {d : Data} (hd : d.Storable)
    (hfits : m.Fits (Json.obj (("spread", .bool spread) :: ("children", .arr js)
      :: d.member)).nesting)
    (hread : m.inside.Fits (Json.arr js).nesting →
      readBlocks m.inside (.ofJson (.arr js)) = .ok cs) :
    readItem m (.ofJson (.obj (("spread", .bool spread) :: ("children", .arr js) :: d.member)))
      = .ok (.mk spread cs d) := by
  have hinside := (fits_max.1 (fits_inside hfits)).2
  obtain ⟨hchildren, hdata⟩ := fits_max.1 hinside
  have hspread : fillBlock m.inside itemRecord {}
        (Draft.ofMembers (("spread", .bool spread) :: ("children", .arr js) :: d.member))
      = fillBlock m.inside itemRecord { spread := some spread }
          (Draft.ofMembers (("children", .arr js) :: d.member)) := fillBlock_field rfl _
  have hfill : fillBlock m.inside itemRecord { spread := some spread }
        (Draft.ofMembers (("children", .arr js) :: d.member)) = _ :=
    (fillBlock_blocks (by decide) rfl rfl (hread hchildren) _).trans
      (fillBlock_data (by decide) rfl hd hdata)
  simp [Draft.ofJson, readItem, enter_of_fits hfits, hspread, hfill, buildItem_data]

mutual

/-- A block is read back from its value. -/
theorem readBlock_toJson {m : Mode} : ∀ (b : Block), (∀ d ∈ b.carried, d.Storable) →
    m.Fits b.toJson.nesting → readBlock m (.ofJson b.toJson) = .ok b
  | .paragraph cs d, hd, h => by
      have hchildren := readInlines_toJson cs (fits_member "children" h (by simp))
      exact readBlock_of_fill (by decide) [("children", .arr (inlinesToJson cs))] (by simp)
        (hd d (by simp [Block.carried])) h
        (fillBlock_inlines (by decide) rfl rfl hchildren) rfl rfl
  | .heading depth cs d, hd, h => by
      have hchildren := readInlines_toJson cs (fits_member "children" h (by simp))
      exact readBlock_of_fill (by decide)
        [("depth", natJson depth.toNat), ("children", .arr (inlinesToJson cs))] (by simp)
        (hd d (by simp [Block.carried])) h (fillBlock_heading depth hchildren) rfl rfl
  | .quote cs d, hd, h => by
      obtain ⟨hown, hcs⟩ := List.forall_mem_cons.1 hd
      have hchildren := readBlocks_of_items (fits_member "children" h (by simp))
        (readBlockItems_toJson cs hcs)
      exact readBlock_of_fill (by decide) [("children", .arr (blocksToJson cs))] (by simp)
        hown h (fillBlock_blocks (by decide) rfl rfl hchildren) rfl rfl
  | .callout kind cs d, hd, h => by
      obtain ⟨hown, hcs⟩ := List.forall_mem_cons.1 hd
      have hchildren := readBlocks_of_items (fits_member "children" h (by simp))
        (readBlockItems_toJson cs hcs)
      exact readBlock_of_fill (by decide)
        [("calloutType", .text kind), ("children", .arr (blocksToJson cs))] (by simp) hown h
        (fillBlock_callout kind hchildren) rfl rfl
  | .list ordered start spread is d, hd, h => by
      obtain ⟨hown, his⟩ := List.forall_mem_cons.1 hd
      have hchildren := readItems_of_items (fits_member "children" h (by simp))
        (readItemItems_toJson is his)
      have hmembers : (Block.list ordered start spread is d).toJson
          = .obj (("type", .text "list") :: (("ordered", .bool ordered) :: startMember start
              ++ [("spread", .bool spread), ("children", .arr (itemsToJson is))])
                ++ d.member) := by
        cases start <;> rfl
      rw [hmembers] at h ⊢
      refine readBlock_of_fill (by decide) _ ?_ hown h
        (fillBlock_list ordered start spread hchildren) rfl ?_
      · cases start <;> simp [startMember]
      · cases start <;> rfl
  | .code language details value d, hd, h => by
      have hmembers : (Block.code language details value d).toJson
          = .obj (("type", .text "code") :: (optionalText "lang" language
              ++ optionalText "meta" details ++ [("value", .text value)]) ++ d.member) := by
        simp [Block.toJson]
      rw [hmembers] at h ⊢
      refine readBlock_of_fill (by decide) _ (by simp) (hd d (by simp [Block.carried])) h
        (fillBlock_code language details value) rfl ?_
      cases language <;> cases details <;> rfl
  | .rule d, hd, h =>
      readBlock_of_fill (by decide) [] (by simp) (hd d (by simp [Block.carried])) h
        (fun _ => rfl)
        rfl rfl
  | .html value d, hd, h =>
      readBlock_of_fill (by decide) [("value", .text value)] (by simp)
        (hd d (by simp [Block.carried])) h (fillBlock_value (by decide) rfl value) rfl rfl

theorem readBlockItems_toJson {m : Mode} : ∀ (bs : List Block),
    (∀ d ∈ carriedAll bs, d.Storable) → m.Fits (nestingItems (blocksToJson bs)) →
      readBlockItems m (Draft.ofItems (blocksToJson bs)) = .ok bs
  | [], _, _ => rfl
  | b :: bs, hd, h => by
      obtain ⟨hb, hbs⟩ := List.forall_mem_append.1 hd
      obtain ⟨hfits, hrest⟩ := fits_max.1 h
      simp [blocksToJson, Draft.ofItems, readBlockItems, readBlock_toJson b hb hfits,
        readBlockItems_toJson bs hbs hrest]

theorem readItemItems_toJson {m : Mode} : ∀ (is : List Item),
    (∀ d ∈ carriedItems is, d.Storable) → m.Fits (nestingItems (itemsToJson is)) →
      readItemItems m (Draft.ofItems (itemsToJson is)) = .ok is
  | [], _, _ => rfl
  | .mk spread cs d :: is, hd, h => by
      obtain ⟨hitem, hrest⟩ := List.forall_mem_append.1 hd
      obtain ⟨hd, hcs⟩ := List.forall_mem_cons.1 hitem
      obtain ⟨hfits, hfitsRest⟩ := fits_max.1 h
      have hread := readItem_of_children hd hfits fun hfits =>
        readBlocks_of_items hfits (readBlockItems_toJson cs hcs)
      simp [itemsToJson, Item.toJson, Draft.ofItems, readItemItems, hread,
        readItemItems_toJson is hrest hfitsRest]

end

/-- A document is read back from its value. -/
theorem readRoot_toJson {m : Mode} (r : Root) (hd : ∀ d ∈ r.carried, d.Storable)
    (hfits : m.Fits r.toJson.nesting) : readRoot m (.ofJson r.toJson) = .ok r := by
  have hchildren := readBlocks_of_items (fits_max.1 (fits_inside hfits)).1
    (readBlockItems_toJson r.children hd)
  have hfill : fillBlock m.inside rootRecord {}
        (Draft.ofMembers [("children", .arr (blocksToJson r.children))])
      = .ok { blocks := some r.children } :=
    fillBlock_blocks (by decide) rfl rfl hchildren []
  rw [Root.toJson, Draft.ofJson, readRoot, readRecord, enter_of_fits hfits, ok_bind, hfill]
  rfl

end Tree.Read

end Marginalia
