/-
Marginalia.Proofs.Tree.MemberOrder — texts with their members in another order.

`Root.ofText_rearranged`: a text that is read as a document spells a draft, and
every text that spells the draft with members moved, or with members of unknown
names dropped, is read as the same document. There is such a text for each of
these drafts.

## How the proof goes

Blanks, escapes and the ways to write a number are a matter of the text, so it
is drafts that are edited, and texts are compared by what they spell.

* An edit makes no draft that could not be spelled (`Edit.spellable`).
* The readers of the tree look at every leaf or pass over it, and would have met
  the place where a text breaks off (`not_broken_of_readRoot`). So a text that is
  read as a document spells its draft.
* Reading a text that spells a draft is reading the draft
  (`Root.ofText_of_spelled`), and what is read of a draft is read of an edited
  one as well (`Rearranged.leads`).
-/
import Marginalia.Proofs.Json.Spelling
import Marginalia.Proofs.Tree.Rearranged

namespace Marginalia

open Json (Draft Leaf Broken Spellable SpellableMember Spelled bind_eq_ok_iff map_eq_ok_iff)

namespace Tree.Read

/-! ## 1. Edited drafts are spelled -/

theorem Edit.spellable {role : Role} {d d' : Draft} (h : Edit role d d') :
    Spellable d → Spellable d' := by
  induction h with
  | permute _ hperm =>
    simp only [Json.spellable_obj]
    exact fun ⟨hstop, hms⟩ => ⟨hstop, fun m hm => hms m (hperm.mem_iff.2 hm)⟩
  | drop =>
    simp only [Json.spellable_obj, List.forall_mem_append, List.forall_mem_cons]
    exact fun ⟨hstop, hpre, _, hpost⟩ => ⟨hstop, hpre, hpost⟩
  | member _ _ _ ih =>
    simp only [Json.spellable_obj, List.forall_mem_append, List.forall_mem_cons]
    exact fun ⟨hstop, hpre, hm, hpost⟩ => ⟨hstop, hpre, hm.replace ih, hpost⟩
  | item _ ih =>
    simp only [Json.spellable_arr, List.forall_mem_append, List.forall_mem_cons]
    exact fun ⟨hstop, hpre, hd, hpost⟩ => ⟨hstop, hpre, ih hd, hpost⟩

theorem Rearranged.spellable {d d' : Draft} (h : Rearranged d d') (hd : Spellable d) :
    Spellable d' := by
  induction h with
  | refl => exact hd
  | tail _ hedit ih => exact hedit.spellable ih

/-! ## 2. What is read does not break off -/

/-- A draft without faults does not break off. -/
theorem not_broken_of_sound {d : Draft} (h : Broken d) : ∀ depth, ¬ Sound depth d := by
  induction h with
  | leaf h =>
    rintro depth ⟨j, hj⟩
    obtain ⟨s, hs, _⟩ := map_eq_ok_iff.1 hj
    exact h.read_ne s hs
  | arr => exact fun depth hsound => nomatch (sound_arr.1 hsound).2.2
  | obj => exact fun depth hsound => nomatch (sound_obj.1 hsound).2.2
  | item hmem _ ih => exact fun depth hsound => ih _ ((sound_arr.1 hsound).2.1 _ hmem)
  | key hmem h =>
    intro depth hsound
    obtain ⟨⟨key, hkey⟩, _⟩ := (sound_obj.1 hsound).2.1 _ hmem
    exact h.read_ne key hkey
  | value hmem _ ih => exact fun depth hsound => ih _ ((sound_obj.1 hsound).2.1 _ hmem).2

theorem itemsSkipFault?_eq_none {ds : List Draft} :
    Draft.itemsSkipFault? ds = none ↔ ∀ d ∈ ds, d.skipFault? = none := by
  induction ds with
  | nil => simp [Draft.itemsSkipFault?]
  | cons d ds ih => simp [Draft.itemsSkipFault?, ih]

theorem membersSkipFault?_eq_none {ms : List (Leaf String × Draft)} :
    Draft.membersSkipFault? ms = none ↔ ∀ m ∈ ms, m.1.skip = none ∧ m.2.skipFault? = none := by
  induction ms with
  | nil => simp [Draft.membersSkipFault?]
  | cons m ms ih =>
    obtain ⟨key, d⟩ := m
    simp [Draft.membersSkipFault?, Draft.memberSkipFault?, ih]

/-- Who passes over a draft meets the place where it breaks off. -/
theorem skipFault?_of_broken {d : Draft} (h : Broken d) : d.skipFault? ≠ none := by
  induction h with
  | leaf h => exact h.skip_ne
  | arr | obj => simp [Draft.skipFault?]
  | item hmem _ ih =>
    rw [Draft.skipFault?, ne_eq, Option.or_eq_none_iff, itemsSkipFault?_eq_none]
    exact fun h => ih (h.1 _ hmem)
  | key hmem h =>
    rw [Draft.skipFault?, ne_eq, Option.or_eq_none_iff, membersSkipFault?_eq_none]
    exact fun hall => h.skip_ne (hall.1 _ hmem).1
  | value hmem _ ih =>
    rw [Draft.skipFault?, ne_eq, Option.or_eq_none_iff, membersSkipFault?_eq_none]
    exact fun hall => ih (hall.1 _ hmem).2

section

variable {depth : Nat} {d : Draft} {ms : List (Leaf String × Draft)} {items : List Draft}
  {stop : Option Json.Break}

theorem finish_eq_ok_iff : finish stop = .ok () ↔ stop = none := by
  rw [finish, ofFault_eq_ok_iff, breakRead_eq_ok_iff]

theorem not_broken_of_check (h : (Mode.direct depth).check d = .ok ()) : ¬ Broken d :=
  fun hbroken => not_broken_of_sound hbroken depth (check_eq_ok.1 h depth rfl)

theorem not_broken_of_pass (h : (Mode.direct depth).pass d = .ok ()) : ¬ Broken d := by
  intro hbroken
  cases hskip : d.skipFault? with
  | none => exact skipFault?_of_broken hbroken hskip
  | some f =>
    unfold Mode.pass at h
    rw [hskip] at h
    cases h

theorem exists_leaf_of_readScalar {α : Type} {expected : String}
    {read : Json.Scalar → Option α} {a : α} (h : readScalar expected read d = .ok a) :
    ∃ leaf s, d = .scalar leaf ∧ leaf.read = .ok s := by
  cases d with
  | scalar leaf =>
    obtain ⟨s, hs, _⟩ := bind_eq_ok_iff.1 h
    exact ⟨leaf, s, rfl, ofFault_eq_ok_iff.1 hs⟩
  | arr | obj => cases h

theorem not_broken_of_readKind {m : Mode} {names : List String} {kind : String}
    (h : readKind m names d = .ok kind) : ¬ Broken d := by
  obtain ⟨_, hs, _⟩ := bind_eq_ok_iff.1 h
  obtain ⟨leaf, s, rfl, hread⟩ := exists_leaf_of_readScalar hs
  rintro ⟨hleaf⟩
  exact hleaf.read_ne s hread

/-- Whatever reads all members to its liking was given each of them. -/
theorem exists_step_of_foldlM {σ ε : Type} {step : σ → ε → Result σ} :
    ∀ {es : List ε} {s v : σ}, es.foldlM step s = .ok v → ∀ e ∈ es, ∃ t t', step t e = .ok t'
  | [], _, _, _ => by simp
  | e :: es, s, v, h => by
      rw [List.foldlM_cons] at h
      obtain ⟨t, ht, h⟩ := bind_eq_ok_iff.1 h
      exact List.forall_mem_cons.2 ⟨⟨s, t, ht⟩, exists_step_of_foldlM h⟩

/-- Whatever reads all items was given each of them. -/
theorem exists_of_mapM {α β : Type} {f : α → Result β} : ∀ {as : List α} {bs : List β},
    as.mapM f = .ok bs → ∀ a ∈ as, ∃ b, f a = .ok b
  | [], _, _ => by simp
  | a :: as, bs, h => by
      rw [List.mapM_cons] at h
      obtain ⟨b, hb, h⟩ := bind_eq_ok_iff.1 h
      obtain ⟨bs', hbs, _⟩ := bind_eq_ok_iff.1 h
      exact List.forall_mem_cons.2 ⟨⟨b, hb⟩, exists_of_mapM hbs⟩

theorem not_broken_obj (hstop : stop = none)
    (h : ∀ m ∈ ms, (∃ key, m.1.read = .ok key) ∧ ¬ Broken m.2) : ¬ Broken (.obj ms stop) := by
  subst hstop
  intro hbroken
  cases hbroken with
  | key hmem hbroken =>
    obtain ⟨key, hkey⟩ := (h _ hmem).1
    exact hbroken.read_ne key hkey
  | value hmem hvalue => exact (h _ hmem).2 hvalue

theorem not_broken_arr (hstop : stop = none) (h : ∀ d ∈ items, ¬ Broken d) :
    ¬ Broken (.arr items stop) := by
  subst hstop
  intro hbroken
  cases hbroken with
  | item hmem hd => exact h _ hmem hd

theorem enter_direct {m : Mode} (h : (Mode.direct depth).enter = .ok m) :
    m = .direct (depth + 1) := by
  rw [Mode.enter] at h
  split at h
  · cases h
  · exact (Except.ok.inj h).symm

theorem check_of_checkAll {m : Mode} : ∀ {ds : List Draft}, m.checkAll ds = .ok () →
    ∀ d ∈ ds, m.check d = .ok ()
  | [], _ => by simp
  | d :: ds, h => by
      obtain ⟨_, hd, hds⟩ := bind_eq_ok_iff.1 h
      exact List.forall_mem_cons.2 ⟨hd, check_of_checkAll hds⟩

/-- The kind is looked for in the whole draft, so that nothing is left to show of
what is read once it is known. -/
theorem not_broken_of_kindOf {what : String} {names : List String} {kind : String}
    (h : kindOf (.direct depth) what names d = .ok kind) : ¬ Broken d := by
  unfold kindOf at h
  split at h
  · obtain ⟨m, hm, h⟩ := bind_eq_ok_iff.1 h
    obtain rfl := enter_direct hm
    obtain ⟨found, hfound, h⟩ := bind_eq_ok_iff.1 h
    obtain ⟨_, hstop, _⟩ := bind_eq_ok_iff.1 h
    rw [kindOfMembers_eq_foldlM] at hfound
    refine not_broken_obj (finish_eq_ok_iff.1 hstop) fun e he => ?_
    obtain ⟨t, t', hstep⟩ := exists_step_of_foldlM hfound e he
    obtain ⟨key, hkey, hstep⟩ := bind_eq_ok_iff.1 hstep
    refine ⟨⟨key, ofFault_eq_ok_iff.1 hkey⟩, ?_⟩
    split at hstep
    · obtain ⟨_, hstep⟩ := duplicate_eq_ok_iff.1 hstep
      obtain ⟨k, hk, _⟩ := bind_eq_ok_iff.1 hstep
      exact not_broken_of_readKind hk
    · obtain ⟨_, hcheck, _⟩ := bind_eq_ok_iff.1 hstep
      exact not_broken_of_check hcheck
  · obtain ⟨m, hm, h⟩ := bind_eq_ok_iff.1 h
    obtain rfl := enter_direct hm
    split at h
    · obtain ⟨_, _, h⟩ := bind_eq_ok_iff.1 h
      cases h
    · obtain ⟨k, hk, h⟩ := bind_eq_ok_iff.1 h
      obtain ⟨_, hrest, h⟩ := bind_eq_ok_iff.1 h
      obtain ⟨_, hstop, _⟩ := bind_eq_ok_iff.1 h
      exact not_broken_arr (finish_eq_ok_iff.1 hstop) (List.forall_mem_cons.2
        ⟨not_broken_of_readKind hk, fun d hd =>
          not_broken_of_check (check_of_checkAll hrest d hd)⟩)
  · cases d with
    | scalar leaf =>
      obtain ⟨_, _, h⟩ := bind_eq_ok_iff.1 h
      cases h
    | arr | obj => cases h

theorem not_broken_of_readBlock {b : Block} (h : readBlock (.direct depth) d = .ok b) :
    ¬ Broken d := by
  cases d with
  | obj ms stop =>
    rw [readBlock] at h
    obtain ⟨kind, hkind, _⟩ := bind_eq_ok_iff.1 h
    exact not_broken_of_kindOf hkind
  | arr items stop =>
    rw [readBlock] at h
    obtain ⟨kind, hkind, _⟩ := bind_eq_ok_iff.1 h
    exact not_broken_of_kindOf hkind
  | scalar leaf =>
    rw [readBlock] at h
    obtain ⟨_, _, h⟩ := bind_eq_ok_iff.1 h
    cases h

theorem not_broken_of_readBlocks {bs : List Block}
    (h : readBlocks (.direct depth) d = .ok bs) :
    ¬ Broken d := by
  cases d with
  | arr items stop =>
    rw [readBlocks] at h
    obtain ⟨m, hm, h⟩ := bind_eq_ok_iff.1 h
    obtain rfl := enter_direct hm
    obtain ⟨bs', hitems, h⟩ := bind_eq_ok_iff.1 h
    obtain ⟨_, hstop, _⟩ := bind_eq_ok_iff.1 h
    rw [readBlockItems_eq_mapM] at hitems
    refine not_broken_arr (finish_eq_ok_iff.1 hstop) fun d hd => ?_
    obtain ⟨b, hb⟩ := exists_of_mapM hitems d hd
    exact not_broken_of_readBlock hb
  | obj | scalar =>
    rw [readBlocks] at h
    obtain ⟨_, _, h⟩ := bind_eq_ok_iff.1 h
    cases h

/-- The only member of a document that is not passed over holds its blocks. -/
theorem not_broken_of_rootMember {s s' : BlockSlots} {e : Leaf String × Draft}
    (h : fillBlockMember (.direct depth) rootRecord s e = .ok s') :
    (∃ key, e.1.read = .ok key) ∧ ¬ Broken e.2 := by
  obtain ⟨key, d⟩ := e
  rw [fillBlockMember] at h
  obtain ⟨name, hname, h⟩ := bind_eq_ok_iff.1 h
  refine ⟨⟨name, ofFault_eq_ok_iff.1 hname⟩, ?_⟩
  unfold BlockSlots.put at h
  split at h
  · rename_i hmem
    obtain rfl : name = "children" := by simpa [rootRecord] using hmem
    have hput : once "children" s.blocks (readBlocks (.direct depth) d)
        >>= (fun slot => pure { s with blocks := slot }) = .ok s' := h
    obtain ⟨slot, honce, _⟩ := bind_eq_ok_iff.1 hput
    obtain ⟨bs, hbs, _⟩ := map_eq_ok_iff.1 (duplicate_eq_ok_iff.1 honce).2
    exact not_broken_of_readBlocks hbs
  · obtain ⟨_, hpass, _⟩ := bind_eq_ok_iff.1 h
    exact not_broken_of_pass hpass

/-- Directly from a text, an array that holds a record must end behind its
fields. -/
theorem of_finishFields_direct {fields count : Nat}
    (h : finishFields (.direct depth) fields count stop = .ok ()) :
    count ≤ fields ∧ stop = none := by
  unfold finishFields at h
  split at h
  · exact ⟨by omega, finish_eq_ok_iff.1 h⟩
  · cases stop with
    | none =>
      dsimp only at h
      split at h
      · cases h
      · exact ⟨by omega, rfl⟩
    | some b =>
      dsimp only at h
      split at h
      · cases h
      · split at h <;> cases h

theorem not_broken_of_readRoot {r : Root} (h : readRoot (.direct depth) d = .ok r) :
    ¬ Broken d := by
  cases d with
  | obj ms stop =>
    obtain ⟨m, hm, h⟩ := bind_eq_ok_iff.1 h
    obtain rfl := enter_direct hm
    obtain ⟨s, hfill, h⟩ := bind_eq_ok_iff.1 h
    obtain ⟨_, hstop, _⟩ := bind_eq_ok_iff.1 h
    rw [fillBlock_eq_foldlM] at hfill
    refine not_broken_obj (finish_eq_ok_iff.1 hstop) fun e he => ?_
    obtain ⟨t, t', hstep⟩ := exists_step_of_foldlM hfill e he
    exact not_broken_of_rootMember hstep
  | arr items stop =>
    obtain ⟨m, hm, h⟩ := bind_eq_ok_iff.1 h
    obtain rfl := enter_direct hm
    obtain ⟨s, hfill, h⟩ := bind_eq_ok_iff.1 h
    obtain ⟨_, hfinish, _⟩ := bind_eq_ok_iff.1 h
    obtain ⟨hcount, hstop⟩ := of_finishFields_direct hfinish
    rw [fillBlockFrom_eq_foldlM] at hfill
    refine not_broken_arr hstop fun d hd => ?_
    -- There is one field, and so there is one item.
    obtain ⟨x, rfl⟩ : ∃ x, items = [x] := by
      cases items with
      | nil => exact absurd hd List.not_mem_nil
      | cons x xs =>
        have hnil : xs = [] := by simpa [rootRecord] using hcount
        exact ⟨x, by rw [hnil]⟩
    obtain rfl := List.mem_singleton.1 hd
    obtain ⟨t, t', hstep⟩ := exists_step_of_foldlM hfill (.ok "children", d) List.mem_cons_self
    exact (not_broken_of_rootMember hstep).2
  | scalar leaf =>
    obtain ⟨_, _, h⟩ := bind_eq_ok_iff.1 h
    cases h

end

end Tree.Read

/-! ## 3. Texts -/

/-- Reading a text that spells a draft is reading the draft. -/
theorem Root.ofText_of_spelled {text : String} {d : Draft} (h : Spelled text d) :
    Root.ofText text = Tree.Read.readRoot (.direct 0) d := by
  rw [Root.ofText, Tree.Read.ofText, Json.ofText_of_spelled h]
  cases Tree.Read.readRoot (.direct 0) d <;> rfl

/-- The indented text of a value spells its draft. -/
theorem spelled_pretty {j : Json} (h : j.Exact) (hdepth : j.nesting ≤ Json.depthLimit) :
    Spelled j.pretty (.ofJson j) := by
  have hbroken : ¬ Broken (.ofJson j) := fun hbroken =>
    Tree.Read.not_broken_of_sound hbroken 0 ⟨j, Json.toJson_ofJson (by omega)⟩
  have htext := Json.ofText_pretty h
  have hspelled : Spelled j.pretty (Draft.ofText j.pretty).value :=
    Json.spelled_of_ofText (by rw [htext]) (by rwa [htext])
  rwa [htext] at hspelled

/-- A text that is read as a document spells a draft that is. -/
theorem Root.exists_spelled {text : String} {r : Root} (h : Root.ofText text = .ok r) :
    ∃ d, Spelled text d ∧ Tree.Read.readRoot (.direct 0) d = .ok r := by
  obtain ⟨r', hread, hend⟩ := bind_eq_ok_iff.1 h
  split at hend
  · cases hend
  · rename_i htrailing
    obtain rfl := Except.ok.inj hend
    have hbroken := Tree.Read.not_broken_of_readRoot hread
    exact ⟨_, Json.spelled_of_ofText (by simpa using htrailing) hbroken, hread⟩

/-- **Members are read in any order, and unknown ones are passed over.** -/
theorem Root.ofText_rearranged {text : String} {r : Root} (h : Root.ofText text = .ok r) :
    ∃ d, Spelled text d ∧ ∀ d', Tree.Read.Rearranged d d' →
      (∃ text', Spelled text' d') ∧ ∀ text', Spelled text' d' → Root.ofText text' = .ok r := by
  obtain ⟨d, hspelled, hread⟩ := Root.exists_spelled h
  refine ⟨d, hspelled, fun d' hd => ⟨?_, fun text' htext => ?_⟩⟩
  · obtain ⟨_, cs, _, _, _, hspells, _⟩ := hspelled
    exact Json.exists_spelled (hd.spellable ⟨cs, hspells⟩)
  · rw [Root.ofText_of_spelled htext]
    exact hd.leads _ r hread

/-- A document that names the kind of its paragraph last, and has a member that
nothing reads. -/
def scattered : Json :=
  .obj [("x", .obj [("type", .null)]),
    ("children", .arr [.obj [("data", .obj [("hName", .text "p")]), ("children", .arr []),
      ("type", .text "paragraph")]])]

/-- The same document with the kind first. -/
def tidied : Json :=
  .obj [("children", .arr [.obj [("type", .text "paragraph"), ("children", .arr []),
    ("data", .obj [("hName", .text "p")])]])]

open Tree.Read in
theorem rearranged_scattered : Rearranged (.ofJson scattered) (.ofJson tidied) := by
  refine .head (@Edit.drop .root ⟨rootRecord, false, .blocks⟩ [] (.ok "x") "x" _ _ none rfl rfl
    (by decide)) (.single ?_)
  refine @Edit.member .root ⟨rootRecord, false, .blocks⟩ [] (.ok "children") "children"
    _ _ [] none
    rfl rfl (@Edit.item .blocks [] _ _ [] none ?_)
  exact @Edit.permute .block _ _ _ none rfl (List.reverse_perm _).symm

/-- The two documents are the same paragraph. -/
theorem Root.ofText_rearranged_scattered :
    Root.ofText scattered.compact = .ok ⟨[.paragraph [] { elementName := some "p" }]⟩
      ∧ Tree.Read.Rearranged (.ofJson scattered) (.ofJson tidied)
      ∧ Root.ofText tidied.pretty = .ok ⟨[.paragraph [] { elementName := some "p" }]⟩ := by
  have hread : Root.ofText scattered.compact
      = .ok ⟨[.paragraph [] { elementName := some "p" }]⟩ := by
    rw [Root.ofText, Tree.Read.ofText, Json.ofText_compact (by decide)]
    rfl
  obtain ⟨d, hspelled, hall⟩ := Root.ofText_rearranged hread
  obtain rfl : d = .ofJson scattered := by
    have hd := (Json.ofText_of_spelled hspelled).symm.trans (Json.ofText_compact (by decide))
    exact congrArg Json.Draft.Whole.value hd
  exact ⟨hread, rearranged_scattered,
    (hall _ rearranged_scattered).2 _ (spelled_pretty (by decide) (by decide))⟩

end Marginalia
