/-
Marginalia.Proofs.Tree.DataReadBack — what a block carries, written and read.

`readData_toJson`: the draft of the value of some data is read as the data,
in whichever mode the nesting leaves room for. The maps come back with their
entries in the same order; the values in the bag must be ordered and exact
(`Data.Storable`), because a reader sorts their objects and because the texts
of floating point numbers are another matter.

## How the proof goes

A mode counts the arrays and objects around a value. `Mode.Fits` says that a
number of further ones stays within the limit; then entering an array or
object succeeds, and checking a value finds no fault. A map is rebuilt entry
by entry: the entries read so far are a prefix of the map
(`readTexts_entries`, `readValues_entries`), and no key is in it already
since no key of a map occurs twice. Reading members takes a list of members
apart where it was put together (`fill_append`).
-/
import Marginalia.Proofs.Json.Reading
import Marginalia.Proofs.Json.Sorted
import Marginalia.Tree.Read
import Marginalia.Tree.ToJson

namespace Marginalia

open Json (Draft Leaf nestingItems nestingMembers)

/-! ## 1. Data that texts hold -/

/-- The values in the bag hold no floating point number, and their objects are
maps kept in the order of their keys, as those of every value that was read are
(`Json.ordered_sorted`). -/
def Data.Storable (d : Data) : Prop := ∀ e ∈ d.extra.entries, Json.Exact e.2 ∧ Json.Ordered e.2

instance : DecidablePred Data.Storable := fun d =>
  inferInstanceAs (Decidable (∀ e ∈ d.extra.entries, _))

namespace OrderedMap

variable {α : Type}

/-- The next entry of a map is new to the entries before it. -/
theorem entries_insert_next {m acc : OrderedMap α} {key : String} {value : α}
    {es : List (String × α)} (h : m.entries = acc.entries ++ (key, value) :: es) :
    m.entries = (acc.insert key value).entries ++ es := by
  have hnew : key ∉ acc.keys := by
    have hnodup := m.nodup_keys
    rw [h, List.map_append, List.nodup_append] at hnodup
    exact fun hmem => hnodup.2.2 key hmem key List.mem_cons_self rfl
  rw [entries_insert_of_not_mem acc hnew, h, List.append_assoc]
  rfl

theorem eq_empty {m : OrderedMap α} (h : m.isEmpty = true) : m = .empty :=
  ext (List.isEmpty_iff.1 h)

end OrderedMap

namespace Tree.Read

/-! ## 2. Results -/

section

variable {α β : Type}

@[simp] theorem ok_bind (a : α) (f : α → Result β) : (Except.ok a : Result α) >>= f = f a :=
  rfl

@[simp] theorem pure_eq_ok (a : α) : (pure a : Result α) = .ok a := rfl

@[simp] theorem ofFault_ok (a : α) : ofFault (.ok a) = .ok a := rfl

@[simp] theorem finish_none : finish none = .ok () := rfl

@[simp] theorem read_leaf_ok (a : α) : (Leaf.ok a).read = .ok a := rfl

@[simp] theorem once_none (field : String) (a : α) :
    once field none (.ok a) = .ok (some a) := rfl

end

/-! ## 3. Room for nesting -/

/-- How many arrays and objects around a value count. -/
def Mode.depth : Mode → Nat
  | .direct depth => depth
  | .checked => 0

/-- That many further arrays and objects inside one another are allowed. -/
def Mode.Fits (m : Mode) (n : Nat) : Prop := m.depth + n ≤ Json.depthLimit

/-- The mode inside an array or object that is allowed. -/
def Mode.inside : Mode → Mode
  | .direct depth => .direct (depth + 1)
  | .checked => .checked

theorem enter_of_fits : ∀ {m : Mode} {n : Nat}, m.Fits (n + 1) → m.enter = .ok m.inside
  | .checked, _, _ => rfl
  | .direct depth, n, h => by
      have hdepth : ¬ Json.depthLimit ≤ depth := by
        simp only [Mode.Fits, Mode.depth] at h
        omega
      rw [Mode.enter, if_neg hdepth]
      rfl

theorem fits_inside : ∀ {m : Mode} {n : Nat}, m.Fits (n + 1) → m.inside.Fits n
  | .checked, _, h | .direct _, _, h => by
      simp only [Mode.Fits, Mode.inside, Mode.depth] at *
      omega

theorem fits_checked {m : Mode} {n : Nat} (h : m.Fits n) : Mode.checked.Fits n := by
  simp only [Mode.Fits, Mode.depth] at *
  omega

theorem fits_max {m : Mode} {a b : Nat} : m.Fits (max a b) ↔ m.Fits a ∧ m.Fits b := by
  simp only [Mode.Fits]
  omega

theorem check_ofJson : ∀ {m : Mode} {j : Json}, m.Fits j.nesting → m.check (.ofJson j) = .ok ()
  | .checked, _, _ => rfl
  | .direct depth, j, h => by
      have hjson : (Draft.ofJson j).toJson depth = .ok j := Json.toJson_ofJson h
      rw [Mode.check, hjson]
      rfl

/-! ## 4. Maps -/

theorem readTexts_entries (m : OrderedMap String) : ∀ (es : List (String × String))
    (acc : OrderedMap String), m.entries = acc.entries ++ es →
      readTexts acc (Draft.ofMembers (es.map fun e => (e.1, .text e.2))) = .ok m
  | [], acc, h => by
      rw [OrderedMap.ext (h.trans (List.append_nil _))]
      rfl
  | (key, value) :: es, acc, h => by
      have ih := readTexts_entries m es (acc.insert key value)
        (OrderedMap.entries_insert_next h)
      simpa [Draft.ofMembers, Draft.ofJson, readTexts, readText, readScalar] using ih

theorem readValues_cons {mode : Mode} {value : Json} (ho : value.Ordered)
    (hfits : mode.Fits value.nesting) (acc : OrderedMap Json) (key : String)
    (rest : List (Leaf String × Draft)) :
    readValues mode acc ((.ok key, .ofJson value) :: rest)
      = readValues mode (acc.insert key value) rest := by
  have hjson : (Draft.ofJson value).toJson mode.depth = .ok value := Json.toJson_ofJson hfits
  cases mode <;>
    simp only [Mode.depth] at hjson <;>
    simp [readValues, hjson, Json.sorted_of_ordered ho]

theorem readValues_entries (mode : Mode) (m : OrderedMap Json) : ∀ (es : List (String × Json))
    (acc : OrderedMap Json), (∀ e ∈ es, Json.Ordered e.2) → mode.Fits (nestingMembers es) →
      m.entries = acc.entries ++ es → readValues mode acc (Draft.ofMembers es) = .ok m
  | [], acc, _, _, h => by
      rw [OrderedMap.ext (h.trans (List.append_nil _))]
      rfl
  | (key, value) :: es, acc, ho, hfits, h => by
      obtain ⟨hvalue, hes⟩ := List.forall_mem_cons.1 ho
      obtain ⟨hroom, hrest⟩ := fits_max.1 hfits
      rw [Draft.ofMembers, readValues_cons hvalue hroom]
      exact readValues_entries mode m es _ hes hrest (OrderedMap.entries_insert_next h)

/-- A map of texts is read back with its order. -/
theorem readProperties_ofJson {mode : Mode} {m : OrderedMap String}
    (hfits : mode.Fits (Json.obj (m.entries.map fun e => (e.1, .text e.2))).nesting) :
    readProperties mode (.ofJson (.obj (m.entries.map fun e => (e.1, .text e.2))))
      = .ok m := by
  have hentries := readTexts_entries m m.entries .empty rfl
  simp [Draft.ofJson, readProperties, enter_of_fits hfits, hentries]

/-- A map of values is read back with its order. -/
theorem readExtra_ofJson {mode : Mode} {m : OrderedMap Json}
    (ho : ∀ e ∈ m.entries, Json.Ordered e.2) (hfits : mode.Fits (Json.obj m.entries).nesting) :
    readExtra mode (.ofJson (.obj m.entries)) = .ok m := by
  have hentries := readValues_entries mode.inside m m.entries .empty ho (fits_inside hfits) rfl
  simp [Draft.ofJson, readExtra, enter_of_fits hfits, hentries]

/-! ## 5. The fields of data -/

theorem DataSlots.fill_append (m : Mode) :
    ∀ (ms ns : List (Leaf String × Draft)) (s : DataSlots),
      s.fill m (ms ++ ns) = s.fill m ms >>= fun s => s.fill m ns
  | [], _, _ => rfl
  | (key, value) :: ms, ns, s => by
      rw [List.cons_append, DataSlots.fill, DataSlots.fill]
      cases ofFault key.read with
      | error e => rfl
      | ok key =>
        rw [ok_bind, ok_bind]
        cases s.put m key value with
        | error e => rfl
        | ok s => exact DataSlots.fill_append m ms ns s

theorem fill_elementName (m : Mode) (name : Option String) :
    ({} : DataSlots).fill m (Draft.ofMembers (optionalText "hName" name))
      = .ok { name := name.map some } := by
  cases name <;> rfl

theorem fill_properties {m : Mode} {p : OrderedMap String} (name : Option (Option String))
    (hfits : m.Fits (nestingMembers (if p.isEmpty then []
      else [("hProperties", .obj (p.entries.map fun e => (e.1, .text e.2)))]))) :
    ({ name } : DataSlots).fill m (Draft.ofMembers (if p.isEmpty then []
        else [("hProperties", .obj (p.entries.map fun e => (e.1, .text e.2)))]))
      = .ok { name, properties := if p.isEmpty then none else some p } := by
  cases hp : p.isEmpty with
  | true => rfl
  | false =>
    rw [hp] at hfits
    have hread := readProperties_ofJson (fits_max.1 hfits).1
    simp [Draft.ofMembers, DataSlots.fill, DataSlots.put, hread]

theorem fill_extra {m : Mode} {e : OrderedMap Json} (ho : ∀ x ∈ e.entries, Json.Ordered x.2)
    (name : Option (Option String)) (properties : Option (OrderedMap String))
    (hfits : m.Fits (nestingMembers (if e.isEmpty then [] else [("extra", .obj e.entries)]))) :
    ({ name, properties } : DataSlots).fill m
        (Draft.ofMembers (if e.isEmpty then [] else [("extra", .obj e.entries)]))
      = .ok { name, properties, extra := if e.isEmpty then none else some e } := by
  cases he : e.isEmpty with
  | true => rfl
  | false =>
    rw [he] at hfits
    have hread := readExtra_ofJson ho (fits_max.1 hfits).1
    simp [Draft.ofMembers, DataSlots.fill, DataSlots.put, hread]

theorem build_slots (d : Data) :
    DataSlots.build ⟨d.elementName.map some,
      if d.properties.isEmpty then none else some d.properties,
      if d.extra.isEmpty then none else some d.extra⟩ = d := by
  obtain ⟨name, properties, extra⟩ := d
  have hname : (name.map some).getD none = name := by cases name <;> rfl
  have hproperties : (if properties.isEmpty then none else some properties).getD .empty
      = properties := by
    split
    · exact (OrderedMap.eq_empty (by assumption)).symm
    · rfl
  have hextra : (if extra.isEmpty then none else some extra).getD .empty = extra := by
    split
    · exact (OrderedMap.eq_empty (by assumption)).symm
    · rfl
  rw [DataSlots.build, hname, hproperties, hextra]

/-- Data is read back from its value. -/
theorem readData_toJson {m : Mode} {d : Data} (hd : d.Storable)
    (hfits : m.Fits d.toJson.nesting) :
    readData m (.ofJson d.toJson) = .ok d := by
  have hinside := fits_inside hfits
  rw [Json.nestingMembers_append, Json.nestingMembers_append, fits_max, fits_max] at hinside
  obtain ⟨⟨-, hproperties⟩, hextra⟩ := hinside
  rw [Data.toJson, Draft.ofJson, readData, enter_of_fits hfits, Json.ofMembers_append,
    Json.ofMembers_append]
  simp [DataSlots.fill_append, fill_elementName, fill_properties _ hproperties,
    fill_extra (fun e he => (hd e he).2) _ _ hextra, build_slots]

end Tree.Read

end Marginalia
