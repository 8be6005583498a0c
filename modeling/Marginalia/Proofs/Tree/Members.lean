/-
Marginalia.Proofs.Tree.Members — members are read in any order.

A record is read from the members of an object one after the other, each into a
slot that must still be empty. `foldlM_perm`: whatever the members give in one
order they give in every other. Beside it stand the two other changes that
leave a result alone: a member that fills no slot may go (`foldlM_erase`), and
one may be replaced by another that does the same (`foldlM_replace`).

## How the proof goes

Records of slots can be joined when no slot is filled in both; joining is
partial, and what is joined last may as well be joined before (`Slots.exchange`).
A step fills slots (`Puts`) when it gives what it would give on its own, joined
to what is there. So two neighbours may change places, and by them all members.

The readers of the records are such folds: `fillBlock_eq_foldlM` and its like
say so of objects, `fillBlockFrom_eq_foldlM` of arrays, whose items are members
named by their places.
-/
import Mathlib.Logic.Equiv.Defs
import Marginalia.Proofs.Tree.DataReadBack

namespace Marginalia

open Json (Draft Leaf bind_eq_ok_iff map_eq_ok_iff)

namespace Tree.Read

/-! ## 1. Results that carry over -/

section

variable {α β : Type}

/-- Whatever the first result gives, the second gives too. -/
def Leads (a b : Result α) : Prop := ∀ v, a = .ok v → b = .ok v

theorem Leads.refl (a : Result α) : Leads a a := fun _ h => h

theorem Leads.trans {a b c : Result α} (hab : Leads a b) (hbc : Leads b c) : Leads a c :=
  fun v h => hbc v (hab v h)

theorem Leads.bind {a b : Result α} {f g : α → Result β} (hab : Leads a b)
    (hfg : ∀ x, a = .ok x → Leads (f x) (g x)) : Leads (a >>= f) (b >>= g) := by
  intro v h
  obtain ⟨x, hx, hv⟩ := bind_eq_ok_iff.1 h
  exact bind_eq_ok_iff.2 ⟨x, hab x hx, hfg x hx v hv⟩

theorem Leads.bind_right (a : Result α) {f g : α → Result β}
    (hfg : ∀ x, a = .ok x → Leads (f x) (g x)) : Leads (a >>= f) (a >>= g) :=
  (Leads.refl a).bind hfg

theorem Leads.bind_left {a b : Result α} (hab : Leads a b) (f : α → Result β) :
    Leads (a >>= f) (b >>= f) :=
  hab.bind fun x _ => Leads.refl (f x)

theorem Leads.map {a b : Result α} (f : α → β) (hab : Leads a b) :
    Leads (a.map f) (b.map f) := by
  intro v h
  obtain ⟨x, hx, hv⟩ := map_eq_ok_iff.1 h
  exact map_eq_ok_iff.2 ⟨x, hab x hx, hv⟩

end

/-! ## 2. Slots -/

/-- Records of slots, which can be joined when no slot is filled in both. -/
class Slots (σ : Type) where
  /-- No slot is filled. -/
  empty : σ
  /-- No slot is filled in both. -/
  Apart : σ → σ → Prop
  /-- The slots filled in either. -/
  join : σ → σ → σ
  apart_empty : ∀ s : σ, Apart s empty
  join_empty : ∀ s : σ, join s empty = s
  /-- What is joined last may as well be joined before. -/
  exchange : ∀ {s t u : σ}, Apart s t → Apart (join s t) u →
    Apart s u ∧ Apart (join s u) t ∧ join (join s t) u = join (join s u) t

instance {α : Type} : Slots (Option α) where
  empty := none
  Apart a b := a = none ∨ b = none
  join := Option.or
  apart_empty _ := .inr rfl
  join_empty _ := Option.or_none
  exchange {s t u} h h' := by cases s <;> cases t <;> cases u <;> simp_all

instance {α β : Type} [Slots α] [Slots β] : Slots (α × β) where
  empty := (Slots.empty, Slots.empty)
  Apart s t := Slots.Apart s.1 t.1 ∧ Slots.Apart s.2 t.2
  join s t := (Slots.join s.1 t.1, Slots.join s.2 t.2)
  apart_empty s := ⟨Slots.apart_empty s.1, Slots.apart_empty s.2⟩
  join_empty s := Prod.ext (Slots.join_empty s.1) (Slots.join_empty s.2)
  exchange h h' := by
    obtain ⟨hleft, hleft', eleft⟩ := Slots.exchange h.1 h'.1
    obtain ⟨hright, hright', eright⟩ := Slots.exchange h.2 h'.2
    exact ⟨⟨hleft, hright⟩, ⟨hleft', hright'⟩, Prod.ext eleft eright⟩

/-- A record is as good as the tuple of its slots. -/
@[reducible] def Slots.ofEquiv {σ τ : Type} [Slots τ] (e : σ ≃ τ) : Slots σ where
  empty := e.symm Slots.empty
  Apart s t := Slots.Apart (e s) (e t)
  join s t := e.symm (Slots.join (e s) (e t))
  apart_empty s := by
    rw [Equiv.apply_symm_apply]
    exact Slots.apart_empty (e s)
  join_empty s := by rw [Equiv.apply_symm_apply, Slots.join_empty, Equiv.symm_apply_apply]
  exchange {s t u} h h' := by
    simp only [Equiv.apply_symm_apply] at h' ⊢
    obtain ⟨hu, ht, hjoin⟩ := Slots.exchange h h'
    exact ⟨hu, ht, congrArg e.symm hjoin⟩

/-- The slots of an inline. -/
def InlineSlots.tuple : InlineSlots ≃ Option String × Option (List Inline) × Option String
    × Option (Option String) × Option String where
  toFun s := (s.value, s.children, s.url, s.title, s.alt)
  invFun := fun (value, children, url, title, alt) => ⟨value, children, url, title, alt⟩
  left_inv _ := rfl
  right_inv _ := rfl

instance : Slots InlineSlots := .ofEquiv InlineSlots.tuple

/-- The slots of what a block carries. -/
def DataSlots.tuple : DataSlots ≃ Option (Option String) × Option (OrderedMap String)
    × Option (OrderedMap Json) where
  toFun s := (s.name, s.properties, s.extra)
  invFun := fun (name, properties, extra) => ⟨name, properties, extra⟩
  left_inv _ := rfl
  right_inv _ := rfl

instance : Slots DataSlots := .ofEquiv DataSlots.tuple

/-- The slots of a block. -/
def BlockSlots.tuple : BlockSlots ≃ Option (List Inline) × Option (List Block)
    × Option (List Item) × Option UInt8 × Option String × Option Bool × Option (Option UInt64)
    × Option Bool × Option (Option String) × Option (Option String) × Option String
    × Option Data where
  toFun s := (s.inlines, s.blocks, s.items, s.depth, s.calloutType, s.ordered, s.start,
    s.spread, s.language, s.details, s.value, s.data)
  invFun := fun (inlines, blocks, items, depth, calloutType, ordered, start, spread,
    language, details, value, data) =>
    ⟨inlines, blocks, items, depth, calloutType, ordered, start, spread, language, details,
      value, data⟩
  left_inv _ := rfl
  right_inv _ := rfl

instance : Slots BlockSlots := .ofEquiv BlockSlots.tuple

/-! ## 3. Steps that fill slots -/

section

variable {σ ε : Type} [Slots σ]

/-- What is put into slots does not depend on the slots filled before, which must
be others. -/
def Puts (put : σ → Result σ) : Prop :=
  ∀ s s', put s = .ok s' ↔ ∃ t, put Slots.empty = .ok t ∧ Slots.Apart s t ∧ Slots.join s t = s'

/-- A condition that has nothing to do with the slots. -/
theorem puts_pass {α : Type} (a : Result α) : Puts fun s : σ => a >>= fun _ => .ok s := by
  intro s s'
  simp only [bind_eq_ok_iff, Except.ok.injEq]
  constructor
  · rintro ⟨x, hx, rfl⟩
    exact ⟨Slots.empty, ⟨x, hx, rfl⟩, Slots.apart_empty s, Slots.join_empty s⟩
  · rintro ⟨t, ⟨x, hx, rfl⟩, _, rfl⟩
    exact ⟨x, hx, (Slots.join_empty s).symm⟩

theorem Puts.after {α : Type} (a : Result α) {put : α → σ → Result σ} (h : ∀ x, Puts (put x)) :
    Puts fun s => a >>= fun x => put x s := by
  intro s s'
  cases a with
  | error => simp [bind, Except.bind]
  | ok x => exact h x s s'

/-- A step over members that fills slots. -/
def Fills (step : σ → ε → Result σ) : Prop := ∀ e, Puts fun s => step s e

variable {step : σ → ε → Result σ}

/-- Two neighbours may change places. -/
theorem Fills.exchange (h : Fills step) (a b : ε) (s : σ) :
    Leads (step s a >>= (step · b)) (step s b >>= (step · a)) := by
  intro v hv
  obtain ⟨u, hu, hv⟩ := bind_eq_ok_iff.1 hv
  obtain ⟨ta, ha, happart, rfl⟩ := (h a s u).1 hu
  obtain ⟨tb, hb, hbpart, rfl⟩ := (h b _ v).1 hv
  obtain ⟨hsb, hba, hjoin⟩ := Slots.exchange happart hbpart
  exact bind_eq_ok_iff.2
    ⟨Slots.join s tb, (h b s _).2 ⟨tb, hb, hsb, rfl⟩, (h a _ _).2 ⟨ta, ha, hba, hjoin.symm⟩⟩

/-- **Members are read in any order.** -/
theorem foldlM_perm (h : Fills step) {es es' : List ε} (hperm : es.Perm es') (s : σ) :
    Leads (es.foldlM step s) (es'.foldlM step s) := by
  induction hperm generalizing s with
  | nil => exact Leads.refl _
  | cons e _ ih =>
    simp only [List.foldlM_cons]
    exact Leads.bind_right _ fun t _ => ih t
  | swap a b es =>
    simp only [List.foldlM_cons, ← bind_assoc]
    exact (h.exchange b a s).bind_left _
  | trans _ _ ih ih' => exact (ih s).trans (ih' s)

omit [Slots σ]

/-- A member that does nothing may go. -/
theorem foldlM_erase {e : ε} (h : ∀ s s', step s e = .ok s' → s' = s) (pre post : List ε)
    (s : σ) :
    Leads ((pre ++ e :: post).foldlM step s) ((pre ++ post).foldlM step s) := by
  simp only [List.foldlM_append, List.foldlM_cons]
  refine Leads.bind_right _ fun t _ v hv => ?_
  obtain ⟨t', ht', hv⟩ := bind_eq_ok_iff.1 hv
  rwa [h t t' ht'] at hv

/-- A member may be replaced by one that does the same. -/
theorem foldlM_replace {e e' : ε} (h : ∀ s, Leads (step s e) (step s e')) (pre post : List ε)
    (s : σ) :
    Leads ((pre ++ e :: post).foldlM step s) ((pre ++ e' :: post).foldlM step s) := by
  simp only [List.foldlM_append, List.foldlM_cons]
  exact Leads.bind_right _ fun t _ => (h t).bind_left _

end

/-! ## 4. The readers of records -/

section

variable {σ α : Type} [Slots σ]

theorem duplicate_eq_ok_iff {β : Type} {field : String} {slot : Option α} {a : Result β}
    {b : β} :
    (if slot.isSome then mismatch (.duplicateField field) else a) = .ok b
      ↔ slot = none ∧ a = .ok b := by
  cases slot <;> simp [mismatch]

theorem once_bind {β : Type} (field : String) (slot : Option α) (read : Result α)
    (f : Option α → Result β) :
    once field slot read >>= f
      = if slot.isSome then mismatch (.duplicateField field)
        else read >>= fun a => f (some a) := by
  cases slot
  · cases read <;> rfl
  · rfl

/-- A slot is filled that must be empty. -/
theorem puts_new (get : σ → Option α) (set : σ → α → σ) (field : String) (read : Result α)
    (hempty : get Slots.empty = none)
    (hset : ∀ s a, (Slots.Apart s (set Slots.empty a) ↔ get s = none)
      ∧ (get s = none → Slots.join s (set Slots.empty a) = set s a)) :
    Puts fun s => if (get s).isSome then mismatch (.duplicateField field)
      else read >>= fun a => pure (set s a) := by
  intro s s'
  simp only [duplicate_eq_ok_iff, bind_eq_ok_iff, pure_eq_ok, Except.ok.injEq, hempty,
    true_and]
  constructor
  · rintro ⟨hnone, a, hread, rfl⟩
    exact ⟨_, ⟨a, hread, rfl⟩, (hset s a).1.2 hnone, (hset s a).2 hnone⟩
  · rintro ⟨_, ⟨a, hread, rfl⟩, hapart, rfl⟩
    have hnone := (hset s a).1.1 hapart
    exact ⟨hnone, a, hread, ((hset s a).2 hnone).symm⟩

theorem puts_once (get : σ → Option α) (set : σ → Option α → σ) (field : String)
    (read : Result α) (hempty : get Slots.empty = none)
    (hset : ∀ s a, (Slots.Apart s (set Slots.empty (some a)) ↔ get s = none)
      ∧ (get s = none → Slots.join s (set Slots.empty (some a)) = set s (some a))) :
    Puts fun s => once field (get s) read >>= fun slot => pure (set s slot) := by
  simp only [once_bind]
  exact puts_new get (fun s a => set s (some a)) field read hempty hset

end

/-- Reads a member of an object as a field of what a block carries. -/
def fillDataMember (m : Mode) (s : DataSlots) (e : Leaf String × Draft) :
    Result DataSlots := do
  let key ← ofFault e.1.read
  s.put m key e.2

/-- Reads a member of an object as far as its kind is concerned. -/
def kindOfMember (m : Mode) (names : List String) (kind : Option String)
    (e : Leaf String × Draft) : Result (Option String) := do
  let key ← ofFault e.1.read
  if key == "type" then
    if kind.isSome then mismatch (.duplicateField "type")
    else
      let k ← readKind m names e.2
      return some k
  else
    m.check e.2
    return kind

theorem puts_block (m : Mode) (r : Record) (field : String) (d : Draft)
    (blocks : Unit → Result (List Block)) (items : Unit → Result (List Item)) :
    Puts fun s : BlockSlots => s.put m r field d blocks items := by
  unfold BlockSlots.put
  split
  · split
    · split <;> refine puts_once _ _ _ _ rfl fun s a => ?_ <;>
        simp +contextual [Slots.Apart, Slots.join, Slots.empty, BlockSlots.tuple]
    case h_11 => exact puts_pass (pure ())
    all_goals
      refine puts_once _ _ _ _ rfl fun s a => ?_
      simp +contextual [Slots.Apart, Slots.join, Slots.empty, BlockSlots.tuple]
  · exact puts_pass (m.pass d)

theorem puts_inline (field : String) (d : Draft) (children : Unit → Result (List Inline)) :
    Puts fun s : InlineSlots => s.put field d children := by
  unfold InlineSlots.put
  split
  case h_6 => exact puts_pass (pure ())
  all_goals
    refine puts_once _ _ _ _ rfl fun s a => ?_
    simp +contextual [Slots.Apart, Slots.join, Slots.empty, InlineSlots.tuple]

theorem puts_data (m : Mode) (field : String) (d : Draft) :
    Puts fun s : DataSlots => s.put m field d := by
  unfold DataSlots.put
  split
  case h_4 => exact puts_pass (m.pass d)
  all_goals
    refine puts_new _ _ _ _ rfl fun s a => ?_
    simp +contextual [Slots.Apart, Slots.join, Slots.empty, DataSlots.tuple]

theorem fills_block (m : Mode) (r : Record) : Fills (fillBlockMember m r) := by
  rintro ⟨key, value⟩
  simp only [fillBlockMember]
  exact Puts.after _ fun key => puts_block m r key value _ _

theorem fills_inline (r : Record) : Fills (fillInlineMember r) := by
  rintro ⟨key, value⟩
  simp only [fillInlineMember]
  refine Puts.after _ fun key => ?_
  split
  · exact puts_inline key value _
  · exact puts_pass (pure ())

theorem fills_data (m : Mode) : Fills (fillDataMember m) :=
  fun e => Puts.after _ fun key => puts_data m key e.2

theorem fills_kind (m : Mode) (names : List String) : Fills (kindOfMember m names) := by
  rintro ⟨key, value⟩
  refine Puts.after _ fun key => ?_
  split
  · refine puts_new id (fun _ k => some k) _ _ rfl fun kind k => ?_
    simp +contextual [Slots.Apart, Slots.join]
  · exact puts_pass (m.check value)

/-! ## 5. The readers as folds -/

theorem fillBlock_eq_foldlM (m : Mode) (r : Record) : ∀ (s : BlockSlots)
    (ms : List (Leaf String × Draft)), fillBlock m r s ms = ms.foldlM (fillBlockMember m r) s
  | _, [] => by rw [fillBlock]; rfl
  | _, e :: ms => by
      rw [fillBlock, List.foldlM_cons]
      exact bind_congr fun t => fillBlock_eq_foldlM m r t ms

theorem fillInline_eq_foldlM (r : Record) : ∀ (s : InlineSlots)
    (ms : List (Leaf String × Draft)), fillInline r s ms = ms.foldlM (fillInlineMember r) s
  | _, [] => by rw [fillInline]; rfl
  | _, e :: ms => by
      rw [fillInline, List.foldlM_cons]
      exact bind_congr fun t => fillInline_eq_foldlM r t ms

theorem fillData_eq_foldlM (m : Mode) : ∀ (s : DataSlots) (ms : List (Leaf String × Draft)),
    s.fill m ms = ms.foldlM (fillDataMember m) s
  | _, [] => rfl
  | s, (key, value) :: ms => by
      rw [DataSlots.fill, List.foldlM_cons, fillDataMember, bind_assoc]
      exact bind_congr fun key => bind_congr fun t => fillData_eq_foldlM m t ms

theorem kindOfMembers_eq_foldlM (m : Mode) (names : List String) :
    ∀ (kind : Option String) (ms : List (Leaf String × Draft)),
      kindOfMembers m names kind ms = ms.foldlM (kindOfMember m names) kind
  | _, [] => rfl
  | kind, (key, value) :: ms => by
      have ih := fun kind => kindOfMembers_eq_foldlM m names kind ms
      rw [kindOfMembers, List.foldlM_cons, kindOfMember, bind_assoc]
      refine bind_congr fun key => ?_
      simp only [ih]
      split
      · split
        · rfl
        · cases readKind m names value <;> rfl
      · cases m.check value <;> rfl

/-- The items of an array as members named by their places. -/
def byPlace (fields : List String) (items : List Draft) : List (Leaf String × Draft) :=
  (fields.map Leaf.ok).zip items

theorem fillBlockFrom_eq_foldlM (m : Mode) (r : Record) : ∀ (fields : List String)
    (s : BlockSlots) (items : List Draft),
      fillBlockFrom m r fields s items = (byPlace fields items).foldlM (fillBlockMember m r) s
  | [], _, [] | [], _, _ :: _ | _ :: _, _, [] => by rw [fillBlockFrom]; rfl
  | field :: fields, s, item :: items => by
      rw [fillBlockFrom, byPlace, List.map_cons, List.zip_cons_cons, List.foldlM_cons,
        fillBlockMember]
      exact bind_congr fun t => fillBlockFrom_eq_foldlM m r fields t items

theorem fillDataFrom_eq_foldlM (m : Mode) : ∀ (fields : List String) (s : DataSlots)
    (items : List Draft), s.fillFrom m fields items
      = (byPlace fields items).foldlM (fillDataMember m) s
  | [], _, [] | [], _, _ :: _ | _ :: _, _, [] => rfl
  | field :: fields, s, item :: items => by
      rw [DataSlots.fillFrom, byPlace, List.map_cons, List.zip_cons_cons, List.foldlM_cons]
      exact bind_congr fun t => fillDataFrom_eq_foldlM m fields t items

/-! ## 6. Sequences -/

/-- An item may be replaced by one that is read alike. -/
theorem mapM_replace {α β : Type} {f : α → Result β} {a a' : α} (h : Leads (f a) (f a'))
    (pre post : List α) : Leads ((pre ++ a :: post).mapM f) ((pre ++ a' :: post).mapM f) := by
  simp only [List.mapM_append, List.mapM_cons]
  exact Leads.bind_right _ fun _ _ => (h.bind_left _).bind_left _

theorem readInlineItems_eq_mapM (m : Mode) : ∀ ds : List Draft,
    readInlineItems m ds = ds.mapM (readInline m)
  | [] => by rw [readInlineItems]; rfl
  | d :: ds => by rw [readInlineItems, List.mapM_cons, readInlineItems_eq_mapM m ds]

theorem readBlockItems_eq_mapM (m : Mode) : ∀ ds : List Draft,
    readBlockItems m ds = ds.mapM (readBlock m)
  | [] => by rw [readBlockItems]; rfl
  | d :: ds => by rw [readBlockItems, List.mapM_cons, readBlockItems_eq_mapM m ds]

theorem readItemItems_eq_mapM (m : Mode) : ∀ ds : List Draft,
    readItemItems m ds = ds.mapM (readItem m)
  | [] => by rw [readItemItems]; rfl
  | d :: ds => by rw [readItemItems, List.mapM_cons, readItemItems_eq_mapM m ds]

theorem checkAll_replace {m : Mode} {d d' : Draft} (h : Leads (m.check d) (m.check d'))
    (post : List Draft) : ∀ pre : List Draft,
      Leads (m.checkAll (pre ++ d :: post)) (m.checkAll (pre ++ d' :: post))
  | [] => h.bind_left _
  | _ :: pre => Leads.bind_right _ fun _ _ => checkAll_replace h post pre

end Tree.Read

end Marginalia
