/-
Marginalia.Proofs.Settings.Keys — which keys the settings may have.

A key that nobody knows is a misspelt one, and settings that pass it over leave a choice
at its default that the user meant to make. This module says of every text that is
accepted which keys it has, and that the settings are as their values say.

`KeysFollowed`: the top level has the keys `reader`, `html` and `callout` only, and the
sections `html` and `callout` have the keys of their fields only. Every field that is
written is followed.

The section `reader` is the exception: a key that is not `gfm` means nothing there
(`ofYaml_passes_misspelt`).

Main statement: `ofYaml_keys`.

## How the proof goes

Settings are read from events by their numbers, and an alias sends the reader elsewhere in
the document. What a number stands for is a node of the document (`Node.At`), and what an
alias stands for is a node as well (`Node.StandsFor`). With that, reading a value ends
right behind it, even where it was read at another place, and the keys and values of a
mapping are read one pair after the other (`readFields_pairs`).

What a field is for is said once, with the choices it sets (`FieldSpec`). A field does not
change what other fields set, and no field is read twice, so what it has set is still there
in the end.
-/
import Marginalia.Proofs.Json.Leaf
import Marginalia.Proofs.Yaml.Node
import Marginalia.Settings.OfYaml

namespace Marginalia.Settings

open Yaml (Event Mark Document Node)
open Json (bind_eq_ok_iff map_eq_ok_iff)

variable {d : Document} {root v : Node} {n : Nat} {e : Event} {mark : Mark}

/-! ## 1. Nodes that are passed over -/

theorem exists_eventAt (h : (d.events.map Prod.fst)[n]? = some e) :
    ∃ mark, eventAt d n = .ok (e, mark) := by
  rw [List.getElem?_map, Option.map_eq_some_iff] at h
  obtain ⟨⟨_, mark⟩, h, rfl⟩ := h
  exact ⟨mark, by simp only [eventAt, h]⟩

theorem getElem?_of_eventAt (h : eventAt d n = .ok (e, mark)) :
    (d.events.map Prod.fst)[n]? = some e := by
  unfold eventAt at h
  split at h
  · next he =>
    obtain rfl := Except.ok.inj h
    simp [he]
  · cases h

/-- Passing over the events `es` within a collection leads right behind them, and leaves
as many collections open as before. -/
def Passes (d : Document) (es : List Event) : Prop :=
  ∀ n fuel depth, d.Runs n es →
    skipFrom d (fuel + es.length) (depth + 1) n = skipFrom d fuel (depth + 1) (n + es.length)

theorem Passes.append {es es' : List Event} (h : Passes d es) (h' : Passes d es') :
    Passes d (es ++ es') := by
  intro n fuel depth hr
  obtain ⟨hr, hr'⟩ := Yaml.runs_append.mp hr
  rw [List.length_append, Nat.add_comm es.length, ← Nat.add_assoc, h _ _ _ hr, h' _ _ _ hr']
  congr 1
  omega

theorem skipFrom_open {fuel depth : Nat} (he : (d.events.map Prod.fst)[n]? = some e)
    (hopen : e = .sequenceStart ∨ e = .mappingStart) :
    skipFrom d (fuel + 1) depth n = skipFrom d fuel (depth + 1) (n + 1) := by
  obtain ⟨mark, hm⟩ := exists_eventAt he
  obtain rfl | rfl := hopen <;> simp [skipFrom, hm, bind, Except.bind]

theorem skipFrom_close {fuel depth : Nat} (he : (d.events.map Prod.fst)[n]? = some e)
    (hclose : e = .sequenceEnd ∨ e = .mappingEnd) :
    skipFrom d (fuel + 1) (depth + 1) n
      = if depth = 0 then .ok (n + 1) else skipFrom d fuel depth (n + 1) := by
  obtain ⟨mark, hm⟩ := exists_eventAt he
  obtain rfl | rfl := hclose <;> simp [skipFrom, hm, bind, Except.bind, pure, Except.pure]

theorem skipFrom_leaf {fuel depth : Nat} (he : (d.events.map Prod.fst)[n]? = some e)
    (hleaf : (∃ number, e = .alias number) ∨ ∃ tag style text, e = .scalar tag style text) :
    skipFrom d (fuel + 1) depth n
      = if depth = 0 then .ok (n + 1) else skipFrom d fuel depth (n + 1) := by
  obtain ⟨mark, hm⟩ := exists_eventAt he
  obtain ⟨_, rfl⟩ | ⟨_, _, _, rfl⟩ := hleaf <;>
    simp [skipFrom, hm, bind, Except.bind, pure, Except.pure]

/-- Passing over a collection that starts at depth `depth`. -/
theorem skipFrom_collection {es : List Event} {first last : Event} {fuel depth : Nat}
    (hopen : first = .sequenceStart ∨ first = .mappingStart)
    (hclose : last = .sequenceEnd ∨ last = .mappingEnd) (h : Passes d es)
    (hr : d.Runs n (first :: (es ++ [last]))) :
    skipFrom d (fuel + (es.length + 2)) depth n
      = if depth = 0 then .ok (n + (es.length + 2))
        else skipFrom d fuel depth (n + (es.length + 2)) := by
  obtain ⟨hfirst, hr⟩ := Yaml.runs_cons.mp hr
  obtain ⟨hes, hlast⟩ := Yaml.runs_append.mp hr
  have hlast := (Yaml.runs_cons.mp hlast).1
  calc skipFrom d (fuel + (es.length + 2)) depth n
      = skipFrom d (fuel + 1 + es.length) (depth + 1) (n + 1) := by
        rw [← skipFrom_open hfirst hopen]
        congr 1
        omega
    _ = skipFrom d (fuel + 1) (depth + 1) (n + 1 + es.length) := h _ _ _ hes
    _ = _ := by
        rw [skipFrom_close hlast hclose,
          show n + 1 + es.length + 1 = n + (es.length + 2) by omega]

theorem passes_nil : Passes d [] := fun _ _ _ _ => rfl

/-- Passing over the node `v` ends right behind it, where it is not within a collection. -/
def PassesNode (d : Document) (v : Node) : Prop :=
  ∀ n fuel depth, v.At d n →
    skipFrom d (fuel + v.events.length) depth n
      = if depth = 0 then .ok (n + v.events.length)
        else skipFrom d fuel depth (n + v.events.length)

theorem PassesNode.passes (h : PassesNode d v) : Passes d v.events :=
  fun n fuel depth hv => (h n fuel (depth + 1) hv).trans (if_neg (Nat.succ_ne_zero _))

mutual

theorem passes_node : ∀ v : Node, PassesNode d v
  | .alias _ => fun _ _ _ hv => skipFrom_leaf (Yaml.runs_cons.mp hv).1 (.inl ⟨_, rfl⟩)
  | .scalar .. => fun _ _ _ hv => skipFrom_leaf (Yaml.runs_cons.mp hv).1 (.inr ⟨_, _, _, rfl⟩)
  | .sequence vs => by
    intro n fuel depth hv
    rw [Node.At, Node.events] at hv
    simpa [Node.events] using
      skipFrom_collection (.inl rfl) (.inl rfl) (passes_entryEvents vs) hv
  | .mapping ps => by
    intro n fuel depth hv
    rw [Node.At, Node.events] at hv
    simpa [Node.events] using
      skipFrom_collection (.inr rfl) (.inr rfl) (passes_pairEvents ps) hv

theorem passes_entryEvents : ∀ vs : List Node, Passes d (Node.entryEvents vs)
  | [] => passes_nil
  | v :: vs => (passes_node v).passes.append (passes_entryEvents vs)

theorem passes_pairEvents : ∀ ps : List (Node × Node), Passes d (Node.pairEvents ps)
  | [] => passes_nil
  | (k, v) :: ps =>
    (passes_node k).passes.append ((passes_node v).passes.append (passes_pairEvents ps))

end

theorem skipNode_eq (hv : v.At d n) : skipNode d n = .ok (n + v.events.length) := by
  have hlen := Yaml.Document.Runs.length_le hv
  have h := passes_node v n (d.events.length + 1 - v.events.length) 0 hv
  rwa [Nat.sub_add_cancel (by omega), if_pos rfl] at h

/-! ## 2. Nodes that are read -/

/-- The key `k` is a scalar with the text `name`. -/
def Spells (d : Document) (k : Node) (name : String) : Prop :=
  ∃ tag style, k.StandsFor d (.scalar tag style name.toList)

/-- The value `v` is a scalar that says `b`. -/
def Says (d : Document) (v : Node) (b : Bool) : Prop :=
  ∃ tag style text,
    v.StandsFor d (.scalar tag style text) ∧ Yaml.mayBeBool tag style
      ∧ Yaml.boolOf? text = some b

/-- The value `v` is a section whose keys and values are all as `entry` says: a mapping, or
nothing at all in its place. -/
structure IsSection (d : Document) (v : Node) (entry : Node → Node → Prop) : Prop where
  shape : (∃ tag, v.StandsFor d (.scalar tag .plain [])) ∨ ∃ ps, v.StandsFor d (.mapping ps)
  entries : ∀ ps, v.StandsFor d (.mapping ps) → ∀ k w, (k, w) ∈ ps → entry k w

/-- To read the node `v` at `n` is to look at the node at `m`, which starts with `e`. -/
structure Finds (d : Document) (v : Node) (n m : Nat) (e : Event) : Prop where
  event : (d.events.map Prod.fst)[m]? = some e
  at_of_standsFor : ∀ u, v.StandsFor d u → u.At d m
  exists_standsFor : e ≠ .sequenceEnd → e ≠ .mappingEnd → ∃ u, v.StandsFor d u
  place : (∀ number, e ≠ .alias number) →
    (m = n ∧ ∀ u, v.StandsFor d u → u = v) ∨ (m ≠ n ∧ v.events.length = 1)

theorem Finds.head? {m : Nat} {u : Node} (h : Finds d v n m e) (hu : v.StandsFor d u) :
    u.events.head? = some e := by
  rw [← Yaml.getElem?_of_at (h.at_of_standsFor u hu), h.event]

theorem Finds.scalar {m : Nat} {tag : Option (List Char)} {style : Yaml.Style}
    {text : List Char} (h : Finds d v n m (.scalar tag style text)) :
    v.StandsFor d (.scalar tag style text) ∧ v.events.length = 1 := by
  obtain ⟨u, hu⟩ := h.exists_standsFor (by simp) (by simp)
  rw [Yaml.eq_scalar_of_head? (h.head? hu)] at hu
  exact ⟨hu, Yaml.length_events_of_standsFor_scalar hu⟩

theorem nodeAt_finds {body : Nat} (hd : d.Holds root) (hv : v.At d n)
    (h : nodeAt d n = .ok (e, mark, body)) : ∃ m, body = m + 1 ∧ Finds d v n m e := by
  obtain ⟨⟨e₀, mark₀⟩, h₀, h⟩ := bind_eq_ok_iff.mp h
  have he₀ : v.events.head? = some e₀ := by
    rw [← Yaml.getElem?_of_at hv, getElem?_of_eventAt h₀]
  by_cases halias : ∃ number, v = .alias number
  · obtain ⟨number, rfl⟩ := halias
    obtain rfl : Event.alias number = e₀ := by simpa [Node.events] using he₀
    dsimp only at h
    split at h
    · next m hm =>
      obtain ⟨⟨e₁, mark₁⟩, h₁, h⟩ := bind_eq_ok_iff.mp h
      obtain ⟨⟩ := Except.ok.inj h
      have he := getElem?_of_eventAt h₁
      refine ⟨m, rfl, he, ?_, ?_, ?_⟩
      · rintro u ⟨m', hm', hu⟩
        obtain rfl : m = m' := by simpa [hm] using hm'
        exact hu
      · intro hs hp
        obtain ⟨u, hu⟩ := hd.exists_at he hs hp
        exact ⟨u, m, hm, hu⟩
      · intro hne
        -- An alias does not stand for itself, since it is an alias that stands at `n`.
        refine .inr ⟨?_, rfl⟩
        rintro rfl
        rw [Yaml.getElem?_of_at hv, he₀] at he
        exact hne number (Option.some.inj he).symm
    · cases h
  · have hv' : ∀ number, v ≠ .alias number := fun number hn => halias ⟨number, hn⟩
    dsimp only at h
    split at h
    · exact (hv' _ (Yaml.eq_alias_of_head? he₀)).elim
    · obtain ⟨⟩ := Except.ok.inj h
      refine ⟨n, rfl, getElem?_of_eventAt h₀, ?_, ?_, ?_⟩
      · rintro u hu
        rwa [(Yaml.standsFor_iff hv').mp hu]
      · exact fun _ _ => ⟨v, (Yaml.standsFor_iff hv').mpr rfl⟩
      · exact fun _ => .inl ⟨rfl, fun u => (Yaml.standsFor_iff hv').mp⟩

/-- A text that is read is that of a scalar. -/
theorem readText_ok {expected : String} {path : FieldPath} {text : List Char} {next : Nat}
    (hd : d.Holds root) (hv : v.At d n)
    (h : readText d expected path n = .ok ((text, mark), next)) :
    next = n + v.events.length ∧ ∃ tag style, v.StandsFor d (.scalar tag style text) := by
  obtain ⟨⟨e, mark', body⟩, hn, h⟩ := bind_eq_ok_iff.mp h
  obtain ⟨m, -, hf⟩ := nodeAt_finds hd hv hn
  dsimp only at h
  split at h
  · next tag style _ =>
    obtain ⟨⟩ := Except.ok.inj h
    obtain ⟨hu, hone⟩ := hf.scalar
    exact ⟨by rw [hone], tag, style, hu⟩
  · cases h

/-- A truth value that is read is said by a scalar. -/
theorem readBool_ok {path : FieldPath} {b : Bool} {next : Nat} (hd : d.Holds root)
    (hv : v.At d n) (h : readBool d path n = .ok (b, next)) :
    next = n + v.events.length ∧ Says d v b := by
  obtain ⟨⟨e, mark', body⟩, hn, h⟩ := bind_eq_ok_iff.mp h
  obtain ⟨m, -, hf⟩ := nodeAt_finds hd hv hn
  dsimp only at h
  split at h
  · next b' hb =>
    obtain ⟨⟩ := Except.ok.inj h
    split at hb
    · next tag style text =>
      obtain ⟨hu, hone⟩ := hf.scalar
      obtain ⟨hmay, hb⟩ := Option.ite_none_right_eq_some.mp hb
      exact ⟨by rw [hone], tag, style, text, hu, hmay, hb⟩
    · cases hb
  · cases h

/-! ## 3. Fields and what they set -/

/-- One of the things that settings choose. -/
inductive Choice where
  | gfm
  | rawHtml
  | callouts
  | element
  deriving DecidableEq

/-- Do two settings choose alike in one thing? -/
def Choice.Same : Choice → Settings → Settings → Prop
  | .gfm, s, t => s.gfm = t.gfm
  | .rawHtml, s, t => s.rawHtml = t.rawHtml
  | .callouts, s, t => s.callouts = t.callouts
  | .element, s, t => s.element = t.element

theorem Choice.Same.refl (c : Choice) (s : Settings) : c.Same s s := by
  cases c <;> rfl

theorem Choice.Same.trans {c : Choice} {s t u : Settings} (h : c.Same s t) (h' : c.Same t u) :
    c.Same s u := by
  cases c <;> exact Eq.trans h h'

/-- A field together with what it is for: the choices it sets, and what settings have to be
like for them to follow its value. -/
structure FieldSpec (d : Document) where
  field : Field
  sets : List Choice
  Follows : Node → Settings → Prop
  /-- Reading the value uses it up, changes nothing else, and whatever is chosen alike
  afterwards follows it. -/
  sound : ∀ {path : FieldPath} {n : Nat} {v : Node} {s s' : Settings} {next : Nat}, v.At d n →
    field.read path n s = .ok (s', next) →
      next = n + v.events.length ∧ (∀ c, c ∉ sets → c.Same s s') ∧
        ∀ t, (∀ c ∈ sets, c.Same s' t) → Follows v t

/-- Different fields set different things. -/
def Apart (specs : List (FieldSpec d)) : Prop :=
  ∀ f ∈ specs, ∀ g ∈ specs, f.field.name ≠ g.field.name → ∀ c ∈ f.sets, c ∉ g.sets

/-- What is said of a key and its value in a mapping of fields: the key is that of a field
whose value the settings follow, or it is unknown, where that is no error. -/
def Entry (specs : List (FieldSpec d)) (closed : Bool) (t : Settings) (k v : Node) : Prop :=
  (∃ f ∈ specs, Spells d k f.field.name ∧ f.Follows v t) ∨
    closed = false ∧ ∃ name, Spells d k name ∧ ∀ f ∈ specs, f.field.name ≠ name

theorem Entry.of_closed {specs : List (FieldSpec d)} {t : Settings} {k v : Node}
    (h : Entry specs true t k v) : ∃ f ∈ specs, Spells d k f.field.name ∧ f.Follows v t :=
  h.resolve_right fun h => Bool.noConfusion h.1

/-- What reading fields can do where a key comes next: read the field with that name, which
was not seen before, or pass over the value of an unknown key. -/
theorem readFields_key {fields : List Field} {closed : Bool} {path : FieldPath} {start : Mark}
    {k : Node} {fuel : Nat} {seen : List String} {s s' : Settings} {next : Nat}
    (hd : d.Holds root) (hk : k.At d n)
    (h : readFields d fields closed path start (fuel + 1) seen s n = .ok (s', next)) :
    ∃ name, Spells d k name ∧
      ((∃ f ∈ fields, f.name = name ∧ f.name ∉ seen ∧ ∃ path' s₁ n₁,
          f.read path' (n + k.events.length) s = .ok (s₁, n₁) ∧
          readFields d fields closed path start fuel (f.name :: seen) s₁ n₁ = .ok (s', next)) ∨
        closed = false ∧ (∀ f ∈ fields, f.name ≠ name) ∧ ∃ n₁,
          skipNode d (n + k.events.length) = .ok n₁ ∧
          readFields d fields closed path start fuel seen s n₁ = .ok (s', next)) := by
  rw [readFields] at h
  obtain ⟨⟨e, mark⟩, he, h⟩ := bind_eq_ok_iff.mp h
  have hhead : k.events.head? = some e := by
    rw [← Yaml.getElem?_of_at hk, getElem?_of_eventAt he]
  dsimp only at h
  split at h
  · cases k <;> simp [Node.events] at hhead
  · cases k <;> simp [Node.events] at hhead
  obtain ⟨⟨⟨key, mark'⟩, next'⟩, ht, h⟩ := bind_eq_ok_iff.mp h
  obtain ⟨rfl, tag, style, hkey⟩ := readText_ok hd hk ht
  refine ⟨String.ofList key, ⟨tag, style, by simpa using hkey⟩, ?_⟩
  dsimp only at h
  split at h
  · next f hfind =>
    have hname : f.name.toList = key := by simpa using List.find?_some hfind
    split at h
    · cases h
    · next hseen =>
      obtain ⟨⟨s₁, n₁⟩, hread, h⟩ := bind_eq_ok_iff.mp h
      refine .inl ⟨f, List.mem_of_find?_eq_some hfind, by simp [← hname],
        by simpa using hseen, ?_⟩
      exact ⟨_, s₁, n₁, hread, h⟩
  · next hfind =>
    split at h
    · cases h
    · next hclosed =>
      obtain ⟨n₁, hskip, h⟩ := bind_eq_ok_iff.mp h
      refine .inr ⟨by simpa using hclosed, ?_, n₁, hskip, h⟩
      rintro f hf hname
      have := List.find?_eq_none.mp hfind f hf
      simp [hname] at this

/-- Reading the fields of a mapping uses up all of its keys and values, changes only what
fields set that were not seen before, and whatever is chosen alike afterwards follows
every value. -/
theorem readFields_pairs {specs : List (FieldSpec d)} (hd : d.Holds root)
    (hapart : Apart specs) {closed : Bool} {path : FieldPath} {start : Mark}
    {ps : List (Node × Node)} {fuel : Nat} {seen : List String} {s s' : Settings} {next : Nat}
    (hr : d.Runs n (Node.pairEvents ps ++ [.mappingEnd])) (hfuel : ps.length < fuel)
    (h : readFields d (specs.map FieldSpec.field) closed path start fuel seen s n
      = .ok (s', next)) :
    next = n + (Node.pairEvents ps).length + 1 ∧
      (∀ c, (∀ f ∈ specs, f.field.name ∉ seen → c ∉ f.sets) → c.Same s s') ∧
      ∀ t, (∀ f ∈ specs, ∀ c ∈ f.sets, c.Same s' t) →
        ∀ k v, (k, v) ∈ ps → Entry specs closed t k v := by
  induction ps generalizing fuel seen s n with
  | nil =>
    obtain ⟨fuel, rfl⟩ := Nat.exists_eq_add_one.mpr hfuel
    obtain ⟨mark, hm⟩ := exists_eventAt (Yaml.runs_cons.mp hr).1
    simp only [readFields, hm] at h
    obtain ⟨⟩ := Except.ok.inj h
    exact ⟨rfl, fun c _ => .refl c _, by simp⟩
  | cons p ps ih =>
    obtain ⟨k, v⟩ := p
    obtain ⟨fuel, rfl⟩ := Nat.exists_eq_add_one.mpr (Nat.zero_lt_of_lt hfuel)
    have hfuel : ps.length < fuel := by simpa using hfuel
    rw [Node.pairEvents, List.append_assoc, List.append_assoc] at hr
    obtain ⟨hk, hr⟩ := Yaml.runs_append.mp hr
    obtain ⟨hv, hr⟩ := Yaml.runs_append.mp hr
    obtain ⟨name, hname, hread | hskipped⟩ := readFields_key hd hk h
    · obtain ⟨_, hfield, rfl, hseen, path', s₁, n₁, hread, h⟩ := hread
      obtain ⟨f, hf, rfl⟩ := List.mem_map.mp hfield
      obtain ⟨rfl, hothers, hfollows⟩ := f.sound hv hread
      obtain ⟨hnext, hsame, hps⟩ := ih hr hfuel h
      refine ⟨by rw [hnext]; simp [Node.pairEvents]; omega, ?_, ?_⟩
      · intro c hc
        -- What `f` does not set and no later field sets either.
        refine (hothers c (hc f hf hseen)).trans (hsame c fun g hg hgseen => ?_)
        exact hc g hg fun hg' => hgseen (List.mem_cons_of_mem _ hg')
      · intro t ht k' v' hmem
        obtain ⟨rfl, rfl⟩ | hmem := by simpa using hmem
        · -- What `f` has set lasts: later fields have other names, and set other things.
          refine .inl ⟨f, hf, hname, hfollows t fun c hc => ?_⟩
          refine (hsame c fun g hg hgseen => ?_).trans (ht f hf c hc)
          exact hapart f hf g hg (fun hfg => hgseen (hfg ▸ List.mem_cons_self)) c hc
        · exact hps t ht k' v' hmem
    · obtain ⟨hclosed, hunknown, n₁, hskip, h⟩ := hskipped
      rw [skipNode_eq hv] at hskip
      obtain rfl := Except.ok.inj hskip
      obtain ⟨hnext, hsame, hps⟩ := ih hr hfuel h
      refine ⟨by rw [hnext]; simp [Node.pairEvents]; omega, hsame, ?_⟩
      intro t ht k' v' hmem
      obtain ⟨rfl, rfl⟩ | hmem := by simpa using hmem
      · refine .inr ⟨hclosed, name, hname, fun f hf => ?_⟩
        exact hunknown _ (List.mem_map_of_mem hf)
      · exact hps t ht k' v' hmem

/-! ## 4. Sections -/

/-- A section is read like a field that sets all that its fields set. -/
theorem readSection_sound {specs : List (FieldSpec d)} (hd : d.Holds root)
    (hapart : Apart specs) {expected : String} {closed : Bool} {path : FieldPath}
    {s s' : Settings} {next : Nat}
    (hv : v.At d n)
    (h : readSection d expected (specs.map FieldSpec.field) closed path n s = .ok (s', next)) :
    next = n + v.events.length ∧ (∀ c, c ∉ specs.flatMap FieldSpec.sets → c.Same s s') ∧
      ∀ t, (∀ c ∈ specs.flatMap FieldSpec.sets, c.Same s' t) →
        IsSection d v (Entry specs closed t) := by
  obtain ⟨⟨e, mark, body⟩, hn, h⟩ := bind_eq_ok_iff.mp h
  obtain ⟨m, rfl, hf⟩ := nodeAt_finds hd hv hn
  dsimp only at h
  split at h
  · obtain ⟨⟨s₁, behind⟩, hread, h⟩ := bind_eq_ok_iff.mp h
    obtain ⟨⟩ := Except.ok.inj h
    obtain ⟨u, hu⟩ := hf.exists_standsFor (by simp) (by simp)
    obtain ⟨ps, rfl⟩ := Yaml.exists_eq_mapping_of_head? (hf.head? hu)
    have hread' {ps : List (Node × Node)} (hu : v.StandsFor d (.mapping ps)) := by
      have hr := hf.at_of_standsFor _ hu
      rw [Node.At, Node.events, Yaml.runs_cons] at hr
      have hlen := hr.2.length_le
      rw [List.length_append, List.length_singleton] at hlen
      have := Yaml.length_le_length_pairEvents ps
      exact readFields_pairs hd hapart hr.2 (by omega) hread
    obtain ⟨hbehind, hsame, -⟩ := hread' hu
    refine ⟨?_, ?_, ?_⟩
    · -- Behind the mapping if it stands here, and behind the alias if it stands elsewhere.
      obtain ⟨rfl, hown⟩ | ⟨hne, hone⟩ := hf.place (by simp)
      · obtain rfl := hown _ hu
        simp [hbehind, Node.events]
        omega
      · rw [if_neg (by omega), hone]
    · intro c hc
      exact hsame c fun f hf _ hcf => hc (List.mem_flatMap.mpr ⟨f, hf, hcf⟩)
    · intro t ht
      refine ⟨.inr ⟨ps, hu⟩, fun ps hu => (hread' hu).2.2 t fun f hf c hc => ?_⟩
      exact ht c (List.mem_flatMap.mpr ⟨f, hf, hc⟩)
  · obtain ⟨u, hu⟩ := hf.exists_standsFor (by simp) (by simp)
    have := hf.head? hu
    cases u <;> simp [Node.events] at this
  · next tag =>
    obtain ⟨⟩ := Except.ok.inj h
    obtain ⟨hu, hone⟩ := hf.scalar
    refine ⟨by rw [hone], fun c _ => .refl c _, fun t _ => ?_⟩
    refine ⟨.inl ⟨tag, hu⟩, fun ps hps => ?_⟩
    simpa [Node.events] using hf.head? hps
  · cases h

/-! ## 5. The fields there are -/

namespace FieldSpec

/-- A field that holds a truth value. -/
def ofBool (hd : d.Holds root) (name : String) (c : Choice) (get : Settings → Bool)
    (set : Bool → Settings → Settings) (hget : ∀ b s t, c.Same (set b s) t → get t = b)
    (hset : ∀ b s c', c' ≠ c → c'.Same s (set b s)) : FieldSpec d where
  field := boolField d name set
  sets := [c]
  Follows v t := Says d v (get t)
  sound := by
    intro path n v s s' next hv h
    obtain ⟨⟨b, next'⟩, hread, h⟩ := map_eq_ok_iff.mp h
    obtain ⟨⟩ := h
    obtain ⟨rfl, hsays⟩ := readBool_ok hd hv hread
    refine ⟨rfl, fun c' hc => hset b s c' (by simpa using hc), fun t ht => ?_⟩
    rwa [hget b s t (ht c (List.mem_singleton_self c))]

/-- A field that holds a section. -/
def ofSection (hd : d.Holds root) (name expected : String) (specs : List (FieldSpec d))
    (closed : Bool) (hapart : Apart specs) : FieldSpec d where
  field := sectionField d name expected (specs.map FieldSpec.field) closed
  sets := specs.flatMap FieldSpec.sets
  Follows v t := IsSection d v (Entry specs closed t)
  sound := readSection_sound hd hapart

def gfm (hd : d.Holds root) : FieldSpec d :=
  ofBool hd "gfm" .gfm Settings.gfm (fun b s => { s with gfm := b })
    (fun _ _ _ h => h.symm) (fun _ _ c hc => by cases c <;> first | rfl | exact (hc rfl).elim)

def rawHtml (hd : d.Holds root) : FieldSpec d :=
  ofBool hd "allow-dangerous-html" .rawHtml Settings.rawHtml
    (fun b s => { s with rawHtml := b })
    (fun _ _ _ h => h.symm) (fun _ _ c hc => by cases c <;> first | rfl | exact (hc rfl).elim)

def callouts (hd : d.Holds root) : FieldSpec d :=
  ofBool hd "enabled" .callouts Settings.callouts (fun b s => { s with callouts := b })
    (fun _ _ _ h => h.symm) (fun _ _ c hc => by cases c <;> first | rfl | exact (hc rfl).elim)

def element (hd : d.Holds root) : FieldSpec d where
  field := textField d "element" fun t s => { s with element := t }
  sets := [.element]
  Follows v t := Spells d v t.element
  sound := by
    intro path n v s s' next hv h
    obtain ⟨⟨⟨text, mark⟩, next'⟩, hread, h⟩ := map_eq_ok_iff.mp h
    obtain ⟨⟩ := h
    obtain ⟨rfl, tag, style, hu⟩ := readText_ok hd hv hread
    refine ⟨rfl, fun c hc => ?_, fun t ht => ⟨tag, style, ?_⟩⟩
    · cases c <;> first | rfl | simp at hc
    · have h : String.ofList text = t.element := ht .element (List.mem_singleton_self _)
      rwa [← h, String.toList_ofList]

def reader (hd : d.Holds root) : FieldSpec d :=
  ofSection hd "reader" "struct ReaderOptions" [gfm hd] false (by simp [Apart])

def html (hd : d.Holds root) : FieldSpec d :=
  ofSection hd "html" "struct HtmlOptions" [rawHtml hd] true (by simp [Apart])

def callout (hd : d.Holds root) : FieldSpec d :=
  ofSection hd "callout" "struct CalloutOptions" [callouts hd, element hd] true
    (by simp [Apart, callouts, element, ofBool])

theorem apart_sections (hd : d.Holds root) : Apart [reader hd, html hd, callout hd] := by
  simp [Apart, reader, html, callout, gfm, rawHtml, callouts, element, ofBool, ofSection]

end FieldSpec

theorem sections_eq (hd : d.Holds root) :
    sections d
      = [FieldSpec.reader hd, FieldSpec.html hd, FieldSpec.callout hd].map FieldSpec.field :=
  rfl

/-! ## 6. Accepted texts -/

/-- Every key of the node `root` is that of a section, every key of a section is that of one
of its fields, and the settings `s` are as the fields say. Only the section of the reader
may have other keys as well. -/
def KeysFollowed (d : Document) (root : Node) (s : Settings) : Prop :=
  IsSection d root fun k v =>
    (Spells d k "reader" ∧ IsSection d v fun k v =>
      (∃ name, Spells d k name) ∧ (Spells d k "gfm" → Says d v s.gfm)) ∨
    (Spells d k "html" ∧ IsSection d v fun k v =>
      Spells d k "allow-dangerous-html" ∧ Says d v s.rawHtml) ∨
    (Spells d k "callout" ∧ IsSection d v fun k v =>
      (Spells d k "enabled" ∧ Says d v s.callouts) ∨
      (Spells d k "element" ∧ Spells d v s.element))

theorem IsSection.mono {entry entry' : Node → Node → Prop} (h : IsSection d v entry)
    (hmono : ∀ k w, entry k w → entry' k w) : IsSection d v entry' where
  shape := h.shape
  entries ps hps k w hkw := hmono k w (h.entries ps hps k w hkw)

theorem spells_scalar {tag : Option (List Char)} {style : Yaml.Style} {text : List Char}
    {name : String} : Spells d (.scalar tag style text) name ↔ text = name.toList := by
  simp [Spells, Node.StandsFor, eq_comm]

/-- A key spells one name only. -/
theorem Spells.unique {k : Node} {name name' : String} (h : Spells d k name)
    (h' : Spells d k name') : name = name' := by
  obtain ⟨tag, style, h⟩ := h
  obtain ⟨tag', style', h'⟩ := h'
  by_cases halias : ∃ number, k = .alias number
  · obtain ⟨number, rfl⟩ := halias
    obtain ⟨m, hm, h⟩ := h
    obtain ⟨m', hm', h'⟩ := h'
    obtain rfl : m = m' := Option.some.inj (hm.symm.trans hm')
    have htext := (Yaml.getElem?_of_at h).symm.trans (Yaml.getElem?_of_at h')
    simp only [Node.events, List.head?_cons, Option.some.injEq, Event.scalar.injEq] at htext
    exact String.toList_inj.mp htext.2.2
  · have hk : ∀ number, k ≠ .alias number := fun number hn => halias ⟨number, hn⟩
    have htext := ((Yaml.standsFor_iff hk).mp h).trans ((Yaml.standsFor_iff hk).mp h').symm
    simp only [Node.scalar.injEq] at htext
    exact String.toList_inj.mp htext.2.2

theorem keysFollowed_of_entry {s : Settings} (hd : d.Holds root)
    (h : IsSection d root
      (Entry [FieldSpec.reader hd, FieldSpec.html hd, FieldSpec.callout hd] true s)) :
    KeysFollowed d root s := by
  refine h.mono fun k v hkv => ?_
  obtain ⟨f, hf, hk, hv⟩ := hkv.of_closed
  have hf : f = .reader hd ∨ f = .html hd ∨ f = .callout hd := by simpa using hf
  obtain rfl | rfl | rfl := hf
  · refine .inl ⟨hk, hv.mono fun k v hkv => ?_⟩
    obtain ⟨f, hf, hk, hv⟩ | ⟨-, name, hname, hne⟩ := hkv
    · obtain rfl := List.mem_singleton.mp hf
      exact ⟨⟨_, hk⟩, fun _ => hv⟩
    · refine ⟨⟨name, hname⟩, fun hgfm => ?_⟩
      exact (hne (.gfm hd) List.mem_cons_self (hgfm.unique hname)).elim
  · refine .inr (.inl ⟨hk, hv.mono fun k v hkv => ?_⟩)
    obtain ⟨f, hf, hk, hv⟩ := hkv.of_closed
    obtain rfl := List.mem_singleton.mp hf
    exact ⟨hk, hv⟩
  · refine .inr (.inr ⟨hk, hv.mono fun k v hkv => ?_⟩)
    obtain ⟨f, hf, hk, hv⟩ := hkv.of_closed
    have hf : f = .callouts hd ∨ f = .element hd := by simpa using hf
    obtain rfl | rfl := hf
    · exact .inl ⟨hk, hv⟩
    · exact .inr ⟨hk, hv⟩

theorem eq_ok_of_toOption {ε α : Type} {r : Except ε α} {a : α} (h : r.toOption = some a) :
    r = .ok a := by
  cases r <;> simp_all [Except.toOption]

/-- **The keys of an accepted text are known, and the settings follow their values**, but
for keys of the reader's section: a text is accepted if it is blank, if it has no document,
or if its document has keys like that. -/
theorem ofYaml_keys {text : String} {s : Settings} (h : ofYaml text = .ok s) :
    (Text.trim text.toList = [] ∧ s = {}) ∨
    ((Document.ofText text.toList).events.map Prod.fst = [.void] ∧ s = {}) ∨
    ∃ root, (Document.ofText text.toList).Holds root ∧
      KeysFollowed (Document.ofText text.toList) root s := by
  unfold ofYaml at h
  split at h
  · next hblank => exact .inl ⟨by simpa using hblank, (Except.ok.inj h).symm⟩
  obtain ⟨⟨s', next⟩, hread, h⟩ := bind_eq_ok_iff.mp h
  obtain ⟨hfault, rfl⟩ : (Document.ofText text.toList).fault = none ∧ s' = s := by
    dsimp only at h
    split at h
    · cases h
    · next hfault =>
      split at h
      · exact ⟨hfault, Except.ok.inj h⟩
      · cases h
  obtain hvoid | ⟨root, hd⟩ := Yaml.ofText_holds hfault
  · obtain ⟨mark, he⟩ := exists_eventAt (n := 0) (by rw [hvoid]; rfl)
    simp only [readSection, nodeAt, he] at hread
    obtain ⟨⟩ := Except.ok.inj hread
    exact .inr (.inl ⟨hvoid, rfl⟩)
  · have hroot : root.At (Document.ofText text.toList) 0 := ⟨[], by simpa using hd.symm⟩
    rw [sections_eq hd] at hread
    obtain ⟨-, -, hfollows⟩ := readSection_sound hd (FieldSpec.apart_sections hd) hroot hread
    refine .inr (.inr ⟨root, hd, keysFollowed_of_entry hd (hfollows _ fun c _ => ?_)⟩)
    exact .refl c _

/-- A section that is written as an alias of another one, with a key that is not its own. -/
theorem ofYaml_keys_aliased :
    ofYaml "html: &h {allow-dangerous-html: true}\nreader: *h\n" = .ok { rawHtml := true } ∧
      ∃ root,
        (Document.ofText "html: &h {allow-dangerous-html: true}\nreader: *h\n".toList).Holds
          root ∧
        KeysFollowed
          (Document.ofText "html: &h {allow-dangerous-html: true}\nreader: *h\n".toList)
          root { rawHtml := true } := by
  have h : (ofYaml "html: &h {allow-dangerous-html: true}\nreader: *h\n").toOption
      = some { rawHtml := true } := by decide +kernel
  have h := eq_ok_of_toOption h
  have hne : ({ rawHtml := true } : Settings) ≠ {} := by decide
  obtain ⟨-, hs⟩ | ⟨-, hs⟩ | hkeys := ofYaml_keys h
  · exact absurd hs hne
  · exact absurd hs hne
  · exact ⟨h, hkeys⟩

/-- That every key of every section is that of one of its fields is not so: a misspelt key of
the reader's section is passed over. -/
theorem ofYaml_passes_misspelt :
    ¬ ∀ (text : String) (s : Settings) (ps : List (Node × Node)), ofYaml text = .ok s →
      let d := Document.ofText text.toList
      d.Holds (.mapping ps) → ∀ k v, (k, v) ∈ ps →
        (Spells d k "reader" ∧ ∀ qs, v.StandsFor d (.mapping qs) →
          ∀ k' w, (k', w) ∈ qs → Spells d k' "gfm") ∨
        (Spells d k "html" ∧ ∀ qs, v.StandsFor d (.mapping qs) →
          ∀ k' w, (k', w) ∈ qs → Spells d k' "allow-dangerous-html") ∨
        (Spells d k "callout" ∧ ∀ qs, v.StandsFor d (.mapping qs) →
          ∀ k' w, (k', w) ∈ qs → Spells d k' "enabled" ∨ Spells d k' "element") := by
  intro h
  let scalar (name : String) : Node := .scalar none .plain name.toList
  have hread : (ofYaml "reader:\n  gmf: true\n").toOption = some {} := by decide +kernel
  have hd : (Document.ofText "reader:\n  gmf: true\n".toList).events.map Prod.fst
      = (Node.mapping
        [(scalar "reader", .mapping [(scalar "gmf", scalar "true")])]).events := by
    decide +kernel
  obtain ⟨-, hkeys⟩ | ⟨hhtml, -⟩ | ⟨hcallout, -⟩ :=
    h _ _ _ (eq_ok_of_toOption hread) hd _ _ List.mem_cons_self
  · exact absurd (spells_scalar.mp (hkeys _ rfl _ _ List.mem_cons_self)) (by decide)
  · exact absurd (spells_scalar.mp hhtml) (by decide)
  · exact absurd (spells_scalar.mp hcallout) (by decide)

end Marginalia.Settings
