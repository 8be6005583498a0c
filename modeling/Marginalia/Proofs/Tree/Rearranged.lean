/-
Marginalia.Proofs.Tree.Rearranged — documents whose members were moved or
dropped.

`Rearranged`: any number of changes, anywhere in the tree. The members of an
object change places, or one of unknown name goes. Which names are known and
what is read behind each depends on the kind of the object, so an edit is made
to a part of the tree in some `Role`, and its `Shape` says the rest. What is no
part of the tree, such as the properties of an element, is not edited inside.
`Edit.keeps`: what is read of an edited part is what was read before.

## How the proof goes

By induction on the edit. Whatever reads members by a shape cannot tell the
members of an edited object from those before (`Yields`); by `Members` that
holds of the three edits of an object, since the readers fill slots, pass over
unknown names and read a known member in its role (`ReadsBy`). A part that names
its kind is read twice, once for the kind and once for the rest, and the second
reading has the shape only because the first has found the kind
(`findSome?_of_foldlM`). The first also looks for faults where the tree is not
read, so an edit must not bring any (`Sound`).

Records may be written as arrays too, with the fields by their places. Their
items cannot change places, but there may be edits inside them.
-/
import Mathlib.Logic.Relation
import Marginalia.Proofs.Tree.Members

namespace Marginalia

open Json (Draft Leaf bind_eq_ok_iff)

namespace Tree.Read

/-! ## 1. What the parts of a text are read as -/

/-- What a part of a text is read as. -/
inductive Role where
  | root
  | blocks
  | block
  | items
  | item
  | inlines
  | inline
  | data
  /-- No part of the tree with parts of its own. -/
  | other
  deriving DecidableEq

/-- The values that parts of a text are read as. -/
abbrev Role.Value : Role → Type
  | .root => Root
  | .blocks => List Block
  | .block => Block
  | .items => List Item
  | .item => Item
  | .inlines => List Inline
  | .inline => Inline
  | .data => Data
  | .other => Unit

/-- Reads a part of a text. -/
def Role.read : (role : Role) → Mode → Draft → Result role.Value
  | .root => readRoot
  | .blocks => readBlocks
  | .block => readBlock
  | .items => readItems
  | .item => readItem
  | .inlines => readInlines
  | .inline => readInline
  | .data => readData
  | .other => Mode.pass

/-- What the members of an object, or the items of an array in its place, are
read as. -/
structure Shape where
  /-- The record whose fields they are. -/
  record : Record
  /-- Does one of them name the kind? -/
  tagged : Bool
  /-- What the children are read as. -/
  children : Role

/-- The names that are known. In an array they are named by their places. -/
def Shape.names (s : Shape) : List String :=
  if s.tagged then "type" :: s.record.fields else s.record.fields

/-- What a member of some name is read as. -/
def Shape.role (s : Shape) (name : String) : Role :=
  if s.record.fields.contains name then
    match name with
    | "children" => s.children
    | "data" => .data
    | _ => .other
  else .other

/-- What the children of a record are read as. -/
def Record.childrenRole (r : Record) : Role :=
  match r.childKind with
  | .inlines => .inlines
  | .blocks => .blocks
  | .items => .items

/-- The type names of a part that names its kind. -/
def Role.kindNames : Role → List String
  | .block => blockNames
  | .inline => inlineNames
  | _ => []

/-- The shape of a part of some kind, if it has members. -/
def Role.shape? : Role → Option String → Option Shape
  | .root, _ => some ⟨rootRecord, false, .blocks⟩
  | .item, _ => some ⟨itemRecord, false, .blocks⟩
  | .data, _ => some ⟨dataRecord, false, .other⟩
  | .block, some kind => some ⟨blockRecord kind, true, (blockRecord kind).childrenRole⟩
  | .inline, some kind => some ⟨inlineRecord kind, true, .inlines⟩
  | _, _ => none

/-- The kind that a member names. -/
def kindNamed? (names : List String) : Leaf String × Draft → Option String
  | (⟨.ok "type", _⟩, value) => (readKind .checked names value).toOption
  | _ => none

/-- The shape of an object with the members. -/
def Role.shapeOf? (role : Role) (ms : List (Leaf String × Draft)) : Option Shape :=
  role.shape? (ms.findSome? (kindNamed? role.kindNames))

/-- What the item at a place of an array is read as. -/
def Role.itemRole (role : Role) (items : List Draft) (place : Nat) : Role :=
  match role with
  | .blocks => .block
  | .items => .item
  | .inlines => .inline
  | role =>
    match role.shapeOf? (byPlace ["type"] items) with
    | some shape => (shape.names[place]?).elim .other shape.role
    | none => .other

/-! ## 2. Edits -/

/-- A single change to a part of a text: the members of an object change places,
one of unknown name goes, or something inside a member or an item changes. -/
inductive Edit : Role → Draft → Draft → Prop where
  | permute {role shape ms ms' stop} (hshape : role.shapeOf? ms = some shape)
      (hperm : ms.Perm ms') : Edit role (.obj ms stop) (.obj ms' stop)
  | drop {role shape pre key name value post stop}
      (hshape : role.shapeOf? (pre ++ (key, value) :: post) = some shape)
      (hname : key.read = .ok name) (hunknown : name ∉ shape.names) :
      Edit role (.obj (pre ++ (key, value) :: post) stop) (.obj (pre ++ post) stop)
  | member {role shape pre key name value value' post stop}
      (hshape : role.shapeOf? (pre ++ (key, value) :: post) = some shape)
      (hname : key.read = .ok name) (hvalue : Edit (shape.role name) value value') :
      Edit role (.obj (pre ++ (key, value) :: post) stop)
        (.obj (pre ++ (key, value') :: post) stop)
  | item {role pre d d' post stop}
      (hitem : Edit (role.itemRole (pre ++ d :: post) pre.length) d d') :
      Edit role (.arr (pre ++ d :: post) stop) (.arr (pre ++ d' :: post) stop)

/-- Any number of changes to a document. -/
def Rearranged : Draft → Draft → Prop := Relation.ReflTransGen (Edit .root)

/-! ## 3. Faults -/

/-- Reading the value at a depth meets no fault. -/
def Sound (depth : Nat) (d : Draft) : Prop := ∃ j, d.toJson depth = .ok j

theorem breakRead_eq_ok_iff {stop : Option Json.Break} :
    Json.breakRead stop = .ok () ↔ stop = none := by
  cases stop <;> simp [Json.breakRead]

theorem itemsToJson_eq_ok_iff {depth : Nat} {ds : List Draft} :
    (∃ js, Draft.itemsToJson depth ds = .ok js) ↔ ∀ d ∈ ds, Sound depth d := by
  induction ds with
  | nil => simp [Draft.itemsToJson]
  | cons d ds ih =>
    rw [List.forall_mem_cons, ← ih, Draft.itemsToJson, Sound]
    cases d.toJson depth <;> cases Draft.itemsToJson depth ds <;>
      simp [bind, Except.bind, pure, Except.pure]

theorem membersToJson_eq_ok_iff {depth : Nat} {ms : List (Leaf String × Draft)} :
    (∃ js, Draft.membersToJson depth ms = .ok js)
      ↔ ∀ e ∈ ms, (∃ key, e.1.read = .ok key) ∧ Sound depth e.2 := by
  induction ms with
  | nil => simp [Draft.membersToJson]
  | cons e ms ih =>
    obtain ⟨key, d⟩ := e
    rw [List.forall_mem_cons, ← ih, Draft.membersToJson, Draft.memberToJson, Sound]
    cases key.read <;> cases d.toJson depth <;> cases Draft.membersToJson depth ms <;>
      simp [bind, Except.bind, pure, Except.pure]

theorem sound_arr {depth : Nat} {items : List Draft} {stop : Option Json.Break} :
    Sound depth (.arr items stop)
      ↔ depth < Json.depthLimit ∧ (∀ d ∈ items, Sound (depth + 1) d) ∧ stop = none := by
  rw [← itemsToJson_eq_ok_iff, ← breakRead_eq_ok_iff, Sound, Draft.toJson]
  split
  · simp; omega
  · cases Draft.itemsToJson (depth + 1) items <;> cases Json.breakRead stop <;>
      simp [bind, Except.bind, pure, Except.pure]; omega

theorem sound_obj {depth : Nat} {ms : List (Leaf String × Draft)} {stop : Option Json.Break} :
    Sound depth (.obj ms stop) ↔ depth < Json.depthLimit
      ∧ (∀ e ∈ ms, (∃ key, e.1.read = .ok key) ∧ Sound (depth + 1) e.2) ∧ stop = none := by
  rw [← membersToJson_eq_ok_iff, ← breakRead_eq_ok_iff, Sound, Draft.toJson]
  split
  · simp; omega
  · cases Draft.membersToJson (depth + 1) ms <;> cases Json.breakRead stop <;>
      simp [bind, Except.bind, pure, Except.pure]; omega

theorem check_eq_ok {m : Mode} {d : Draft} :
    m.check d = .ok () ↔ ∀ depth, m = .direct depth → Sound depth d := by
  cases m with
  | checked => simp [Mode.check]
  | direct depth =>
    simp only [Mode.check, Sound, Mode.direct.injEq, forall_eq']
    cases d.toJson depth <;> simp [ofFault, fault, Except.map]

/-! ## 4. What an edit keeps -/

/-- An edit keeps what is read, and meets no new fault. Only parts of the tree
are edited. -/
structure Keeps (role : Role) (d d' : Draft) : Prop where
  known : role ≠ .other
  sound : ∀ depth, Sound depth d → Sound depth d'
  leads : ∀ m, Leads (role.read m d) (role.read m d')

theorem Keeps.check {role : Role} {d d' : Draft} (h : Keeps role d d') (m : Mode) :
    Leads (m.check d) (m.check d') := by
  rintro ⟨⟩ hd
  exact check_eq_ok.2 fun depth hm => h.sound depth (check_eq_ok.1 hd depth hm)

theorem Leads.once {α : Type} (field : String) (slot : Option α) {a b : Result α}
    (hab : Leads a b) : Leads (once field slot a) (once field slot b) := by
  unfold Read.once
  split
  · exact Leads.refl _
  · exact hab.map some

/-- A step reads members by their shape: into slots, past unknown names, and
each member as what its name says. -/
structure ReadsBy {σ : Type} [Slots σ] (shape : Shape)
    (step : σ → Leaf String × Draft → Result σ) : Prop where
  fills : Fills step
  passes : ∀ {key name}, key.read = .ok name → name ∉ shape.names → ∀ d s s',
    step s (key, d) = .ok s' → s' = s
  follows : ∀ {key name}, key.read = .ok name → ∀ {d d'}, Keeps (shape.role name) d d' → ∀ s,
    Leads (step s (key, d)) (step s (key, d'))

/-- Whatever reads members by their shape gets from the second what it gets from
the first. -/
def Yields (shape : Shape) (ms ms' : List (Leaf String × Draft)) : Prop :=
  ∀ {σ : Type} [Slots σ] {step : σ → Leaf String × Draft → Result σ}, ReadsBy shape step →
    ∀ s, Leads (ms.foldlM step s) (ms'.foldlM step s)

section

variable {shape : Shape} {key : Leaf String} {name : String}

theorem yields_permute {ms ms' : List (Leaf String × Draft)} (h : ms.Perm ms') :
    Yields shape ms ms' :=
  fun hstep => foldlM_perm hstep.fills h

theorem yields_drop (hname : key.read = .ok name) (hunknown : name ∉ shape.names) (d : Draft)
    (pre post : List (Leaf String × Draft)) :
    Yields shape (pre ++ (key, d) :: post) (pre ++ post) :=
  fun hstep => foldlM_erase (hstep.passes hname hunknown d) pre post

theorem yields_member (hname : key.read = .ok name) {d d' : Draft}
    (h : Keeps (shape.role name) d d') (pre post : List (Leaf String × Draft)) :
    Yields shape (pre ++ (key, d) :: post) (pre ++ (key, d') :: post) :=
  fun hstep => foldlM_replace (hstep.follows hname h) pre post

end

/-! ## 5. The readers follow the shapes -/

theorem ofFault_bind_ok {α β : Type} {a : Except Json.Fault α} {x : α} (h : a = .ok x)
    (f : α → Result β) : ofFault a >>= f = f x := by
  rw [h]
  rfl

theorem not_mem_fields {shape : Shape} {name : String} (h : name ∉ shape.names) :
    name ∉ shape.record.fields := by
  unfold Shape.names at h
  split at h
  · exact fun hmem => h (List.mem_cons_of_mem _ hmem)
  · exact h

theorem role_of_not_mem {shape : Shape} {name : String} (h : name ∉ shape.record.fields) :
    shape.role name = .other := by
  unfold Shape.role
  rw [if_neg (by simpa using h)]

/-- Only members of known names are parts of the tree. -/
theorem Keeps.mem_fields {shape : Shape} {name : String} {d d' : Draft}
    (h : Keeps (shape.role name) d d') : name ∈ shape.record.fields := by
  by_contra hne
  exact h.known (role_of_not_mem hne)

/-- Filling a slot reads a value in the role that its name says. -/
theorem put_block_leads (m : Mode) {r : Record} {tagged : Bool} {name : String} {d d' : Draft}
    (h : Keeps (Shape.role ⟨r, tagged, r.childrenRole⟩ name) d d') (s : BlockSlots) :
    Leads (s.put m r name d (fun _ => readBlocks m d) (fun _ => readItems m d))
      (s.put m r name d' (fun _ => readBlocks m d') (fun _ => readItems m d')) := by
  have hmem : r.fields.contains name = true := by simpa using h.mem_fields
  unfold Shape.role Record.childrenRole at h
  unfold BlockSlots.put
  rw [if_pos hmem] at h
  rw [if_pos hmem, if_pos hmem]
  split
  case h_1 =>
    split <;> rename_i hkind <;> rw [hkind] at h <;> exact ((h.leads m).once _ _).bind_left _
  case h_10 => exact ((h.leads m).once _ _).bind_left _
  case h_11 => exact absurd (by split <;> trivial) h.known
  all_goals exact absurd rfl h.known

theorem readsBy_block (m : Mode) (r : Record) (tagged : Bool) :
    ReadsBy ⟨r, tagged, r.childrenRole⟩ (fillBlockMember m r) where
  fills := fills_block m r
  passes := by
    intro key name hname hunknown d s s' h
    have hnot : ¬ r.fields.contains name = true := by simpa using not_mem_fields hunknown
    rw [fillBlockMember, ofFault_bind_ok hname] at h
    unfold BlockSlots.put at h
    rw [if_neg hnot] at h
    obtain ⟨_, _, h⟩ := bind_eq_ok_iff.1 h
    exact (Except.ok.inj h).symm
  follows := by
    intro key name hname d d' hk s
    simp only [fillBlockMember, ofFault_bind_ok hname]
    exact put_block_leads m hk s

theorem put_inline_leads {r : Record} {tagged : Bool} {name : String} {d d' : Draft}
    (h : Keeps (Shape.role ⟨r, tagged, .inlines⟩ name) d d') (hdata : "data" ∉ r.fields)
    (s : InlineSlots) :
    Leads (s.put name d fun _ => readInlines .checked d)
      (s.put name d' fun _ => readInlines .checked d') := by
  have hmem := h.mem_fields
  unfold Shape.role at h
  unfold InlineSlots.put
  rw [if_pos (by simpa using hmem)] at h
  split
  case h_2 => exact ((h.leads .checked).once _ _).bind_left _
  case h_6 =>
    split at h
    · trivial
    · exact absurd hmem hdata
    · exact absurd rfl h.known
  all_goals exact absurd rfl h.known

theorem readsBy_inline (r : Record) (tagged : Bool) (hdata : "data" ∉ r.fields) :
    ReadsBy ⟨r, tagged, .inlines⟩ (fillInlineMember r) where
  fills := fills_inline r
  passes := by
    intro key name hname hunknown d s s' h
    have hnot : ¬ r.fields.contains name = true := by simpa using not_mem_fields hunknown
    rw [fillInlineMember, ofFault_bind_ok hname, if_neg hnot] at h
    exact (Except.ok.inj h).symm
  follows := by
    intro key name hname d d' hk s
    simp only [fillInlineMember, ofFault_bind_ok hname]
    split
    · exact put_inline_leads hk hdata s
    · exact Leads.refl _

/-- What a block carries has no parts of the tree. -/
theorem role_data (name : String) : Shape.role ⟨dataRecord, false, .other⟩ name = .other := by
  unfold Shape.role
  split
  · rename_i hmem
    split
    · rfl
    · exact absurd hmem (by decide)
    · rfl
  · rfl

theorem readsBy_data (m : Mode) : ReadsBy ⟨dataRecord, false, .other⟩ (fillDataMember m) where
  fills := fills_data m
  passes := by
    intro key name hname hunknown d s s' h
    rw [fillDataMember, ofFault_bind_ok hname] at h
    unfold DataSlots.put at h
    split at h
    case h_4 =>
      obtain ⟨_, _, h⟩ := bind_eq_ok_iff.1 h
      exact (Except.ok.inj h).symm
    all_goals exact absurd (by decide) hunknown
  follows := by
    intro key name hname d d' hk s
    exact absurd (role_data name) hk.known

/-- Looking for the kind reads the members by any shape that is tagged. -/
theorem readsBy_kind (m : Mode) (names : List String) {r : Record} (htype : "type" ∉ r.fields)
    (children : Role) : ReadsBy ⟨r, true, children⟩ (kindOfMember m names) where
  fills := fills_kind m names
  passes := by
    intro key name hname hunknown d s s' h
    have hne : ¬ (name == "type") = true := by
      rw [beq_iff_eq]
      rintro rfl
      exact hunknown List.mem_cons_self
    rw [kindOfMember, ofFault_bind_ok hname, if_neg hne] at h
    obtain ⟨_, _, h⟩ := bind_eq_ok_iff.1 h
    exact (Except.ok.inj h).symm
  follows := by
    intro key name hname d d' hk s
    -- The member that names the kind is not edited inside.
    have hne : ¬ (name == "type") = true := by
      rw [beq_iff_eq]
      rintro rfl
      exact htype hk.mem_fields
    simp only [kindOfMember, ofFault_bind_ok hname, if_neg hne]
    exact (hk.check m).bind_left _

/-! ## 6. Kinds -/

theorem readScalar_leads {α : Type} (expected : String) {read read' : Json.Scalar → Option α}
    (h : ∀ s a, read s = some a → read' s = some a) (d : Draft) :
    Leads (readScalar expected read d) (readScalar expected read' d) := by
  cases d with
  | scalar leaf =>
    refine Leads.bind_right _ fun s _ v hv => ?_
    cases hread : read s with
    | none => simp [hread, mismatch] at hv
    | some a => simpa [hread, h s a hread] using hv
  | arr | obj => exact Leads.refl _

/-- A kind found before the text was checked is the kind found after. -/
theorem readKind_leads (m : Mode) (names : List String) (d : Draft) :
    Leads (readKind m names d) (readKind .checked names d) := by
  refine (readScalar_leads _ (fun s a h => ?_) d).bind_left _
  cases m with
  | checked => exact h
  | direct depth =>
    split at h
    · exact h
    · simp at h
    · simp at h

theorem ofFault_eq_ok_iff {α : Type} {a : Except Json.Fault α} {v : α} :
    ofFault a = .ok v ↔ a = .ok v := by
  cases a <;> simp [ofFault, fault]

theorem kindNamed?_type {names : List String} {key : Leaf String} (h : key.read = .ok "type")
    (d : Draft) : kindNamed? names (key, d) = (readKind .checked names d).toOption := by
  obtain ⟨_, _⟩ := key
  obtain rfl := h
  rfl

theorem kindNamed?_of_ne {names : List String} {key : Leaf String} {name : String}
    (h : key.read = .ok name) (hne : name ≠ "type") (d : Draft) :
    kindNamed? names (key, d) = none := by
  obtain ⟨_, _⟩ := key
  obtain rfl := h
  unfold kindNamed?
  split
  · rename_i heq
    simp only [Prod.mk.injEq, Leaf.mk.injEq, Except.ok.injEq] at heq
    exact absurd heq.1.1 hne
  · rfl

/-- The kind of an object is the one that a member names. -/
theorem findSome?_of_foldlM {m : Mode} {names : List String} {kind : String} :
    ∀ {ms : List (Leaf String × Draft)} {found : Option String},
      ms.foldlM (kindOfMember m names) found = .ok (some kind) →
        found.or (ms.findSome? (kindNamed? names)) = some kind
  | [], found, h => by
      rw [List.foldlM_nil, pure_eq_ok] at h
      simpa using h
  | (key, d) :: ms, found, h => by
      rw [List.foldlM_cons] at h
      obtain ⟨found', hfound, h⟩ := bind_eq_ok_iff.1 h
      have ih := findSome?_of_foldlM h
      unfold kindOfMember at hfound
      obtain ⟨name, hname, hfound⟩ := bind_eq_ok_iff.1 hfound
      rw [ofFault_eq_ok_iff] at hname
      rw [List.findSome?_cons]
      split at hfound
      · rename_i htype
        obtain rfl := beq_iff_eq.1 htype
        obtain ⟨rfl, hfound⟩ := duplicate_eq_ok_iff.1 hfound
        obtain ⟨k, hk, hfound⟩ := bind_eq_ok_iff.1 hfound
        obtain rfl := Except.ok.inj hfound
        rw [kindNamed?_type hname, readKind_leads m names d k hk]
        simpa [Except.toOption] using ih
      · rename_i hne
        obtain ⟨_, _, hfound⟩ := bind_eq_ok_iff.1 hfound
        obtain rfl := Except.ok.inj hfound
        rw [kindNamed?_of_ne hname (by simpa using hne)]
        exact ih

/-- The kind that a member names gives the members their shape. -/
theorem kind_of_shapeOf? {role : Role} {ms : List (Leaf String × Draft)} {shape : Shape}
    (hrole : role.kindNames ≠ []) (h : role.shapeOf? ms = some shape) : ∃ kind,
      ms.findSome? (kindNamed? role.kindNames) = some kind
        ∧ role.shape? (some kind) = some shape := by
  unfold Role.shapeOf? at h
  cases hkind : ms.findSome? (kindNamed? role.kindNames) with
  | some kind =>
    rw [hkind] at h
    exact ⟨kind, rfl, h⟩
  | none =>
    rw [hkind] at h
    cases role with
    | block | inline => cases h
    | _ => exact absurd rfl hrole

/-- What has members is a part of the tree. -/
theorem ne_other_of_shapeOf? {role : Role} {ms : List (Leaf String × Draft)} {shape : Shape}
    (h : role.shapeOf? ms = some shape) : role ≠ .other := by
  rintro rfl
  cases h

/-! ## 7. Objects -/

theorem type_not_mem_blockRecord (kind : String) : "type" ∉ (blockRecord kind).fields := by
  unfold blockRecord
  split <;> decide

theorem not_mem_inlineRecord (kind : String) :
    "type" ∉ (inlineRecord kind).fields ∧ "data" ∉ (inlineRecord kind).fields := by
  unfold inlineRecord
  split <;> decide

section

variable {ms ms' : List (Leaf String × Draft)} {stop : Option Json.Break}

theorem kindOf_obj {m : Mode} {what : String} {names : List String} {kind : String}
    (h : kindOf m what names (.obj ms stop) = .ok kind) :
    ms.findSome? (kindNamed? names) = some kind := by
  unfold kindOf at h
  obtain ⟨m', _, h⟩ := bind_eq_ok_iff.1 h
  obtain ⟨found, hfound, h⟩ := bind_eq_ok_iff.1 h
  obtain ⟨_, _, h⟩ := bind_eq_ok_iff.1 h
  rw [kindOfMembers_eq_foldlM] at hfound
  cases found with
  | none => simp [mismatch] at h
  | some k =>
    obtain rfl := Except.ok.inj h
    exact findSome?_of_foldlM hfound

theorem kindOf_obj_leads (m : Mode) (what : String) (names : List String) {r : Record}
    (htype : "type" ∉ r.fields) {children : Role} (h : Yields ⟨r, true, children⟩ ms ms') :
    Leads (kindOf m what names (.obj ms stop)) (kindOf m what names (.obj ms' stop)) := by
  unfold kindOf
  refine Leads.bind_right _ fun m' _ => ?_
  simp only [kindOfMembers_eq_foldlM]
  exact (h (readsBy_kind m' names htype children) none).bind_left _

/-- What is read of an object is read of one whose members yield the same. -/
theorem read_obj_leads {role : Role} {shape : Shape} (hshape : role.shapeOf? ms = some shape)
    (h : Yields shape ms ms') (m : Mode) :
    Leads (role.read m (.obj ms stop)) (role.read m (.obj ms' stop)) := by
  cases role with
  | root =>
    obtain rfl := Option.some.inj hshape
    refine Leads.bind_right _ fun m' _ => ?_
    simp only [fillBlock_eq_foldlM]
    exact (h (readsBy_block m' rootRecord false) _).bind_left _
  | item =>
    obtain rfl := Option.some.inj hshape
    simp only [Role.read, readItem]
    refine Leads.bind_right _ fun m' _ => ?_
    simp only [fillBlock_eq_foldlM]
    exact (h (readsBy_block m' itemRecord false) _).bind_left _
  | data =>
    obtain rfl := Option.some.inj hshape
    refine Leads.bind_right _ fun m' _ => ?_
    simp only [fillData_eq_foldlM]
    exact (h (readsBy_data m') _).bind_left _
  | block =>
    obtain ⟨kind, hkind, hshape⟩ := kind_of_shapeOf? (by decide) hshape
    obtain rfl := Option.some.inj hshape
    simp only [Role.read, readBlock]
    -- The kind that was found is the one that gives the members their shape.
    refine (kindOf_obj_leads m _ _ (type_not_mem_blockRecord kind) h).bind
      fun found hfound => ?_
    obtain rfl := Option.some.inj ((kindOf_obj hfound).symm.trans hkind)
    simp only [fillBlock_eq_foldlM]
    exact (h (readsBy_block .checked _ true) _).bind_left _
  | inline =>
    obtain ⟨kind, hkind, hshape⟩ := kind_of_shapeOf? (by decide) hshape
    obtain rfl := Option.some.inj hshape
    obtain ⟨htype, hdata⟩ := not_mem_inlineRecord kind
    simp only [Role.read, readInline]
    refine (kindOf_obj_leads m _ _ htype h).bind fun found hfound => ?_
    obtain rfl := Option.some.inj ((kindOf_obj hfound).symm.trans hkind)
    simp only [fillInline_eq_foldlM]
    exact (h (readsBy_inline _ true hdata) _).bind_left _
  | blocks | items | inlines | other =>
    exact absurd hshape (by simp [Role.shapeOf?, Role.shape?])

end

/-! ## 8. Arrays -/

/-- Which member the item at a place is. -/
theorem byPlace_split {name : String} (d : Draft) (post : List Draft) :
    ∀ {fields : List String} {pre : List Draft}, fields[pre.length]? = some name →
      byPlace fields (pre ++ d :: post) = byPlace fields pre
        ++ (Leaf.ok name, d) :: byPlace (fields.drop (pre.length + 1)) post
  | [], _, h => by simp at h
  | field :: fields, [], h => by
      obtain rfl : field = name := by simpa using h
      rfl
  | field :: fields, _ :: pre, h => by
      have ih := byPlace_split d post (show fields[pre.length]? = some name by simpa using h)
      simpa [byPlace] using ih

theorem yields_item {shape : Shape} {fields : List String} {pre post : List Draft}
    {d d' : Draft} (h : Keeps (fields[pre.length]?.elim .other shape.role) d d') :
    Yields shape (byPlace fields (pre ++ d :: post)) (byPlace fields (pre ++ d' :: post)) := by
  cases hname : fields[pre.length]? with
  | none => exact absurd (by rw [hname]; rfl) h.known
  | some name =>
    rw [hname] at h
    rw [byPlace_split d post hname, byPlace_split d' post hname]
    exact yields_member rfl h _ _

section

variable {pre post : List Draft} {d d' : Draft} {stop : Option Json.Break}

theorem kindOf_arr {m : Mode} {what : String} {names : List String} {items : List Draft}
    {kind : String} (h : kindOf m what names (.arr items stop) = .ok kind) :
    (byPlace ["type"] items).findSome? (kindNamed? names) = some kind := by
  unfold kindOf at h
  obtain ⟨m', _, h⟩ := bind_eq_ok_iff.1 h
  cases items with
  | nil =>
    obtain ⟨_, _, h⟩ := bind_eq_ok_iff.1 h
    simp [mismatch] at h
  | cons item rest =>
    obtain ⟨k, hk, h⟩ := bind_eq_ok_iff.1 h
    obtain ⟨_, _, h⟩ := bind_eq_ok_iff.1 h
    obtain ⟨_, _, h⟩ := bind_eq_ok_iff.1 h
    obtain rfl := Except.ok.inj h
    have hnamed := @kindNamed?_type names (.ok "type") rfl item
    rw [readKind_leads m' names item k hk] at hnamed
    simp [byPlace, hnamed, Except.toOption]

theorem kindOf_arr_leads (m : Mode) (what : String) (names : List String) {shape : Shape}
    (htagged : shape.tagged = true) (htype : "type" ∉ shape.record.fields)
    (h : Keeps (shape.names[pre.length]?.elim .other shape.role) d d') :
    Leads (kindOf m what names (.arr (pre ++ d :: post) stop))
      (kindOf m what names (.arr (pre ++ d' :: post) stop)) := by
  unfold kindOf
  refine Leads.bind_right _ fun m' _ => ?_
  cases pre with
  | nil =>
    -- The first item names the kind, and is no part of the tree.
    rw [Shape.names, if_pos htagged] at h
    exact absurd (role_of_not_mem htype) h.known
  | cons item pre =>
    exact Leads.bind_right _ fun _ _ => (checkAll_replace (h.check m') post pre).bind_left _

/-- What the item at a place of a record is read as. -/
theorem itemRole_of_shape {role : Role} {shape : Shape} {items : List Draft}
    (hshape : role.shapeOf? (byPlace ["type"] items) = some shape) (place : Nat) :
    role.itemRole items place = shape.names[place]?.elim .other shape.role := by
  cases role with
  | blocks | items | inlines | other =>
    exact absurd hshape (by simp [Role.shapeOf?, Role.shape?])
  | _ => simp [Role.itemRole, hshape]

/-- A part that names its kind has a shape when its items are edited. -/
theorem exists_shape {role : Role} {items : List Draft} {place : Nat} {d d' : Draft}
    (h : Keeps (role.itemRole items place) d d') (hrole : role.kindNames ≠ []) :
    ∃ shape, role.shapeOf? (byPlace ["type"] items) = some shape := by
  cases hshape : role.shapeOf? (byPlace ["type"] items) with
  | some shape => exact ⟨shape, rfl⟩
  | none =>
    have hother : role.itemRole items place = .other := by
      cases role with
      | block | inline => simp [Role.itemRole, hshape]
      | _ => exact absurd rfl hrole
    exact absurd hother h.known

theorem fillInlineFrom_eq_foldlM (r : Record) : ∀ {fields : List String},
    (∀ field ∈ fields, field ∈ "type" :: r.fields) → ∀ (s : InlineSlots) (items : List Draft),
      fillInlineFrom fields s items = (byPlace fields items).foldlM (fillInlineMember r) s
  | [], _, _, [] | [], _, _, _ :: _ | _ :: _, _, _, [] => by rw [fillInlineFrom]; rfl
  | field :: fields, h, s, item :: items => by
      obtain ⟨hfield, hfields⟩ := List.forall_mem_cons.1 h
      rw [fillInlineFrom, byPlace, List.map_cons, List.zip_cons_cons, List.foldlM_cons,
        fillInlineMember]
      have hput : (if r.fields.contains field then
            s.put field item fun _ => readInlines .checked item else pure s)
          = s.put field item fun _ => readInlines .checked item := by
        split
        · rfl
        · rename_i hnot
          rcases List.mem_cons.1 hfield with rfl | hmem
          · rfl
          · exact absurd (by simpa using hmem) hnot
      rw [read_leaf_ok, ofFault_ok, ok_bind, hput]
      exact bind_congr fun t => fillInlineFrom_eq_foldlM r hfields t items

/-- What is read of an array is read of one with an item that is read alike. -/
theorem read_arr_leads {role : Role}
    (h : Keeps (role.itemRole (pre ++ d :: post) pre.length) d d') (m : Mode) :
    Leads (role.read m (.arr (pre ++ d :: post) stop))
      (role.read m (.arr (pre ++ d' :: post) stop)) := by
  cases role with
  | blocks =>
    simp only [Role.read, readBlocks, readBlockItems_eq_mapM]
    exact Leads.bind_right _ fun m' _ => (mapM_replace (h.leads m') pre post).bind_left _
  | items =>
    simp only [Role.read, readItems, readItemItems_eq_mapM]
    exact Leads.bind_right _ fun m' _ => (mapM_replace (h.leads m') pre post).bind_left _
  | inlines =>
    simp only [Role.read, readInlines, readInlineItems_eq_mapM]
    exact Leads.bind_right _ fun m' _ => (mapM_replace (h.leads m') pre post).bind_left _
  | root =>
    rw [itemRole_of_shape rfl] at h
    refine Leads.bind_right _ fun m' _ => ?_
    simp only [fillBlockFrom_eq_foldlM, List.length_append, List.length_cons]
    exact (yields_item h (readsBy_block m' rootRecord false) _).bind_left _
  | item =>
    rw [itemRole_of_shape rfl] at h
    simp only [Role.read, readItem]
    refine Leads.bind_right _ fun m' _ => ?_
    simp only [fillBlockFrom_eq_foldlM, List.length_append, List.length_cons]
    exact (yields_item h (readsBy_block m' itemRecord false) _).bind_left _
  | data =>
    rw [itemRole_of_shape rfl] at h
    refine Leads.bind_right _ fun m' _ => ?_
    simp only [fillDataFrom_eq_foldlM, List.length_append, List.length_cons]
    exact (yields_item h (readsBy_data m') _).bind_left _
  | block =>
    obtain ⟨shape, hshape⟩ := exists_shape h (by decide)
    obtain ⟨kind, hkind, hkindShape⟩ := kind_of_shapeOf? (by decide) hshape
    obtain rfl := Option.some.inj hkindShape
    rw [itemRole_of_shape hshape] at h
    simp only [Role.read, readBlock]
    refine (kindOf_arr_leads m _ _ rfl (type_not_mem_blockRecord kind) h).bind
      fun found hfound => ?_
    obtain rfl := Option.some.inj ((kindOf_arr hfound).symm.trans hkind)
    simp only [fillBlockFrom_eq_foldlM, List.length_append, List.length_cons]
    exact (yields_item h (readsBy_block .checked _ true) _).bind_left _
  | inline =>
    obtain ⟨shape, hshape⟩ := exists_shape h (by decide)
    obtain ⟨kind, hkind, hkindShape⟩ := kind_of_shapeOf? (by decide) hshape
    obtain rfl := Option.some.inj hkindShape
    obtain ⟨htype, hdata⟩ := not_mem_inlineRecord kind
    rw [itemRole_of_shape hshape] at h
    simp only [Role.read, readInline]
    refine (kindOf_arr_leads m _ _ rfl htype h).bind fun found hfound => ?_
    obtain rfl := Option.some.inj ((kindOf_arr hfound).symm.trans hkind)
    simp only [fillInlineFrom_eq_foldlM (inlineRecord found) (fun _ h => h),
      List.length_append, List.length_cons]
    exact (yields_item h (readsBy_inline _ true hdata) _).bind_left _
  | other => exact absurd rfl h.known

end

/-! ## 9. Edits -/

/-- An object keeps what is read if its members do. -/
theorem keeps_obj {role : Role} {shape : Shape} {ms ms' : List (Leaf String × Draft)}
    {stop : Option Json.Break} (hshape : role.shapeOf? ms = some shape)
    (hyields : Yields shape ms ms')
    (hsound : ∀ depth, (∀ e ∈ ms, (∃ key, e.1.read = .ok key) ∧ Sound depth e.2) →
      ∀ e ∈ ms', (∃ key, e.1.read = .ok key) ∧ Sound depth e.2) :
    Keeps role (.obj ms stop) (.obj ms' stop) where
  known := ne_other_of_shapeOf? hshape
  sound depth h := by
    obtain ⟨hdepth, hms, hstop⟩ := sound_obj.1 h
    exact sound_obj.2 ⟨hdepth, hsound (depth + 1) hms, hstop⟩
  leads := read_obj_leads hshape hyields

/-- **An edit keeps what is read.** -/
theorem Edit.keeps {role : Role} {d d' : Draft} (h : Edit role d d') : Keeps role d d' := by
  induction h with
  | permute hshape hperm =>
    refine keeps_obj hshape (yields_permute hperm) fun depth hms e he => ?_
    exact hms e (hperm.mem_iff.2 he)
  | drop hshape hname hunknown =>
    refine keeps_obj hshape (yields_drop hname hunknown _ _ _) fun depth hms => ?_
    simp only [List.forall_mem_append, List.forall_mem_cons] at hms ⊢
    exact ⟨hms.1, hms.2.2⟩
  | member hshape hname hvalue ih =>
    refine keeps_obj hshape (yields_member hname ih _ _) fun depth hms => ?_
    simp only [List.forall_mem_append, List.forall_mem_cons] at hms ⊢
    obtain ⟨hpre, ⟨hkey, hsound⟩, hpost⟩ := hms
    exact ⟨hpre, ⟨hkey, ih.sound depth hsound⟩, hpost⟩
  | item hitem ih =>
    refine ⟨?_, fun depth h => ?_, read_arr_leads ih⟩
    · rintro rfl
      exact absurd rfl ih.known
    · obtain ⟨hdepth, hitems, hstop⟩ := sound_arr.1 h
      refine sound_arr.2 ⟨hdepth, ?_, hstop⟩
      simp only [List.forall_mem_append, List.forall_mem_cons] at hitems ⊢
      obtain ⟨hpre, hsound, hpost⟩ := hitems
      exact ⟨hpre, ih.sound _ hsound, hpost⟩

/-- **What is read of a document is read of every document it is rearranged
into.** -/
theorem Rearranged.leads {d d' : Draft} (h : Rearranged d d') (m : Mode) :
    Leads (readRoot m d) (readRoot m d') := by
  induction h with
  | refl => exact Leads.refl _
  | tail _ hedit ih => exact ih.trans (hedit.keeps.leads m)

end Tree.Read

end Marginalia
