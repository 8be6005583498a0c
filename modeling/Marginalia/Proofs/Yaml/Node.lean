/-
Marginalia.Proofs.Yaml.Node — the events of a document are those of one node.

A document is read as a flat sequence of events. Nothing in its type says that what
is opened is closed, or that a mapping has a value for each key. This module proves
that a document which does not break off is well nested: its events are those of
going through a tree (`Node`), or the single event that there is no document.

Main statement: `ofText_holds`.

## How the proof goes

Reading is a program that changes a state, so what it does is said of the state it
ends in (`Ensures`): which events were noted, and that some tokens were used up
(`Adds`). There is one such statement for each function that reads nodes or parts of
nodes (`ReadsNodes`), all proved at once by induction on the steps left.

That the steps suffice is part of it: a function that runs out of steps stops without
a fault, and what it left open would stay open. Three steps for each token left are
enough, since between two tokens at most three functions call each other.
-/
import Marginalia.Yaml.Event

namespace Marginalia.Yaml

/-! ## 1. Nodes -/

/-- A node of a document. -/
inductive Node where
  | alias (number : Nat)
  | scalar (tag : Option (List Char)) (style : Style) (text : List Char)
  | sequence (entries : List Node)
  | mapping (pairs : List (Node × Node))

namespace Node

mutual

/-- The events of going through a node. -/
def events : Node → List Event
  | .alias number => [.alias number]
  | .scalar tag style text => [.scalar tag style text]
  | .sequence entries => .sequenceStart :: (entryEvents entries ++ [.sequenceEnd])
  | .mapping pairs => .mappingStart :: (pairEvents pairs ++ [.mappingEnd])

/-- The events of going through the entries of a sequence. -/
def entryEvents : List Node → List Event
  | [] => []
  | entry :: entries => entry.events ++ entryEvents entries

/-- The events of going through the keys and values of a mapping. -/
def pairEvents : List (Node × Node) → List Event
  | [] => []
  | (key, value) :: pairs => key.events ++ (value.events ++ pairEvents pairs)

end

end Node

/-- The node of the document is `root`. -/
def Document.Holds (d : Document) (root : Node) : Prop := d.events.map Prod.fst = root.events

namespace Parsing

/-! ## 2. What a step ensures -/

section

variable {α β : Type} {m : Parsing α} {f : α → Parsing β} {s : Parse} {P : α → Parse → Prop}
  {Q : β → Parse → Prop}

/-- Started from `s`, the step ends in a result and a state with `P`, unless it fails. -/
def Ensures (m : Parsing α) (s : Parse) (P : α → Parse → Prop) : Prop :=
  ∀ a s', m.run s = (.ok a, s') → P a s'

theorem run_bind :
    (m >>= f).run s = match m.run s with
      | (.ok a, s') => (f a).run s'
      | (.error e, s') => (.error e, s') := by
  simp only [bind, ExceptT.bind, ExceptT.run, ExceptT.mk, StateT.bind]
  rcases m s with ⟨_ | _, _⟩ <;> rfl

theorem Ensures.bind (hm : Ensures m s P) (hf : ∀ a s', P a s' → Ensures (f a) s' Q) :
    Ensures (m >>= f) s Q := by
  intro b s'' h
  rw [run_bind] at h
  rcases hr : m.run s with ⟨_ | a, s'⟩
  · rw [hr] at h
    cases h
  · rw [hr] at h
    exact hf a s' (hm a s' hr) b s'' h

theorem Ensures.mono {P' : α → Parse → Prop} (hm : Ensures m s P)
    (hP : ∀ a s', P a s' → P' a s') :
    Ensures m s P' :=
  fun a s' h => hP a s' (hm a s' h)

theorem ensures_pure {a : α} (h : P a s) : Ensures (pure a) s P := by
  rintro _ _ ⟨⟩
  exact h

theorem ensures_throw {e : Fault} : Ensures (throw e) s P := by
  rintro _ _ ⟨⟩

theorem ensures_failAt {t : Located} {p : Problem} {reading : Option (Activity × Mark)} :
    Ensures (failAt t p reading) s P :=
  ensures_throw

theorem ensures_failAt_bind {t : Located} {p : Problem} {reading : Option (Activity × Mark)} :
    Ensures (failAt t p reading >>= f) s Q := by
  refine Ensures.bind (P := fun _ _ => False) ensures_failAt ?_
  rintro _ _ ⟨⟩

/-- A step that fails on a condition need only be followed where it does not hold. -/
theorem ensures_check {c : Prop} [Decidable c] {t : Located} {p : Problem}
    {reading : Option (Activity × Mark)} {f : Unit → Parsing α} (h : Ensures m s P) :
    Ensures (if c then failAt t p reading >>= f else m) s P := by
  split
  · exact ensures_failAt_bind
  · exact h

theorem ensures_get_bind {f : Parse → Parsing β} (h : Ensures (f s) s Q) :
    Ensures (get >>= f) s Q :=
  h

theorem ensures_modify {g : Parse → Parse} : Ensures (modify g) s fun _ s' => s' = g s := by
  rintro _ _ ⟨⟩
  rfl

/-- A token that is looked at is there. -/
theorem ensures_peek_bind {f : Located → Parsing β}
    (h : ∀ t ts, s.tokens = t :: ts → Ensures (f t) s Q) : Ensures (peek >>= f) s Q := by
  refine Ensures.bind (P := fun t s' => s' = s ∧ ∃ ts, s.tokens = t :: ts) ?_ ?_
  · refine ensures_get_bind ?_
    cases s.tokens with
    | nil => exact ensures_throw
    | cons t ts => exact ensures_pure ⟨rfl, ts, rfl⟩
  · rintro t _ ⟨rfl, ts, ht⟩
    exact h t ts ht

end

/-! ## 3. Events noted and tokens used up -/

/-- On the way from `s` to `s'` the events `es` were noted and at least `k` tokens used up. -/
structure Adds (s : Parse) (es : List Event) (k : Nat) (s' : Parse) : Prop where
  events : s'.events.map Prod.fst = es.reverse ++ s.events.map Prod.fst
  tokens : s'.tokens.length + k ≤ s.tokens.length

section

variable {s s' s'' : Parse} {es es' : List Event} {k k' : Nat} {t : Located}
  {ts : List Located}

theorem Adds.refl (s : Parse) : Adds s [] 0 s := ⟨rfl, Nat.le_refl _⟩

theorem Adds.trans (h : Adds s es k s') (h' : Adds s' es' k' s'') :
    Adds s (es ++ es') (k + k') s'' where
  events := by simp [h'.events, h.events]
  tokens := by have := h.tokens; have := h'.tokens; omega

theorem Adds.weaken (h : Adds s es k s') (hk : k' ≤ k) : Adds s es k' s' where
  events := h.events
  tokens := by have := h.tokens; omega

theorem ensures_skip (h : s.tokens = t :: ts) : Ensures skip s fun _ s' => Adds s [] 1 s' := by
  refine ensures_modify.mono ?_
  rintro _ _ rfl
  exact ⟨rfl, by simp [h]⟩

theorem ensures_skipAny : Ensures skip s fun _ s' => Adds s [] 0 s' := by
  refine ensures_modify.mono ?_
  rintro _ _ rfl
  exact ⟨rfl, by simp⟩

theorem ensures_emit {e : Event} {mark : Mark} :
    Ensures (emit e mark) s fun _ s' => Adds s [e] 0 s' ∧ s'.tokens = s.tokens := by
  refine ensures_modify.mono ?_
  rintro _ _ rfl
  exact ⟨⟨rfl, Nat.le_refl _⟩, rfl⟩

theorem ensures_emitEmpty {mark : Mark} :
    Ensures (emitEmpty mark) s fun _ s' => ∃ v : Node, Adds s v.events 0 s' :=
  ensures_emit.mono fun _ _ h => ⟨.scalar none .plain [], h.1⟩

theorem ensures_noteAnchor {anchor : Option (List Char)} :
    Ensures (noteAnchor anchor) s fun _ s' => Adds s [] 0 s' ∧ s'.tokens = s.tokens := by
  cases anchor with
  | none => exact ensures_pure ⟨.refl s, rfl⟩
  | some name =>
    refine ensures_modify.mono ?_
    rintro _ _ rfl
    exact ⟨⟨rfl, Nat.le_refl _⟩, rfl⟩

/-- Starting a node: its anchor and its first event are noted. -/
theorem ensures_start {α : Type} {anchor : Option (List Char)} {e : Event} {mark : Mark}
    {m : Parsing α} {P : α → Parse → Prop}
    (h : ∀ s', Adds s [e] 0 s' → s'.tokens = s.tokens → Ensures m s' P) :
    Ensures (do noteAnchor anchor; emit e mark; m) s P := by
  refine ensures_noteAnchor.bind ?_
  rintro _ s₁ ⟨h₁, ht₁⟩
  refine ensures_emit.bind ?_
  rintro _ s₂ ⟨h₂, ht₂⟩
  exact h s₂ (h₁.trans h₂) (ht₂.trans ht₁)

/-- Starting a collection that begins with a token. -/
theorem ensures_open {α : Type} {anchor : Option (List Char)} {e : Event} {mark : Mark}
    {m : Parsing α} {P : α → Parse → Prop} (ht : s.tokens = t :: ts)
    (h : ∀ s', Adds s [e] 1 s' → Ensures m s' P) :
    Ensures (do noteAnchor anchor; emit e mark; skip; m) s P :=
  ensures_start fun _ h₁ ht₁ =>
    (ensures_skip (ht₁.trans ht)).bind fun _ s₂ h₂ => h s₂ (h₁.trans h₂)

/-- Ending a collection. -/
theorem ensures_end {e : Event} {mark : Mark} (ht : s.tokens = t :: ts) :
    Ensures (do emit e mark; skip) s fun _ s' => Adds s [e] 0 s' := by
  refine ensures_emit.bind ?_
  rintro _ s₁ ⟨h₁, ht₁⟩
  exact (ensures_skip (ht₁.trans ht)).mono fun _ _ h₂ => (h₁.trans h₂).weaken (Nat.zero_le _)

/-! ## 4. Properties -/

theorem ensures_anchor? :
    Ensures anchor? s fun anchor s' => Adds s [] (if anchor.isSome then 1 else 0) s' := by
  refine ensures_peek_bind fun t ts ht => ?_
  split
  · exact (ensures_skip ht).bind fun _ _ h => ensures_pure h
  · exact ensures_pure (.refl s)

theorem ensures_tag? :
    Ensures tag? s fun tag s' => Adds s [] (if tag.isSome then 1 else 0) s' := by
  refine ensures_peek_bind fun t ts ht => ?_
  split
  · exact (ensures_skip ht).bind fun _ _ h => ensures_pure h
  · exact ensures_pure (.refl s)

/-- What stands before a node are tokens of its own. -/
theorem ensures_properties :
    Ensures properties s fun p s' =>
      Adds s [] (if p.anchor.isSome || p.tag.isSome then 1 else 0) s' := by
  refine ensures_peek_bind fun t ts ht => ?_
  refine ensures_anchor?.bind fun anchor s₁ h₁ => ?_
  cases anchor with
  | some name =>
    refine ensures_tag?.bind fun tag s₂ h₂ => ensures_pure ?_
    exact (h₁.trans h₂).weaken (by simp)
  | none =>
    refine ensures_tag?.bind fun tag s₂ h₂ => ?_
    cases tag with
    | none => exact ensures_pure (h₁.trans h₂)
    | some tag =>
      refine ensures_anchor?.bind fun anchor s₃ h₃ => ensures_pure ?_
      exact ((h₁.trans h₂).trans h₃).weaken (by simp)

/-- Only a tag that is written has a full form. -/
theorem ensures_fullTag {p : Properties} :
    Ensures (fullTag p) s fun tag s' => s' = s ∧ (tag.isSome → p.tag.isSome) := by
  unfold fullTag
  split
  · exact ensures_pure (by simp)
  · next h => exact ensures_pure (by simp [h])
  · next h =>
    refine ensures_get_bind ?_
    split
    · exact ensures_pure (by simp [h])
    · exact ensures_throw

end

/-! ## 5. Nodes and parts of nodes -/

/-- What each function that reads nodes ensures, given `n` steps: it notes the events of
a node or of the rest of one. The steps it needs grow with the tokens left; a function
that uses up a token before it calls another needs fewer. -/
structure ReadsNodes (n : Nat) : Prop where
  node : ∀ {s : Parse} {block indentless : Bool}, 3 * s.tokens.length + 2 ≤ n →
    Ensures (node n block indentless) s fun _ s' => ∃ v : Node, Adds s v.events 1 s'
  blockEntries : ∀ {s : Parse} {start : Mark}, 3 * s.tokens.length + 1 ≤ n →
    Ensures (blockEntries n start) s fun _ s' =>
      ∃ vs, Adds s (Node.entryEvents vs ++ [.sequenceEnd]) 0 s'
  indentlessEntries : ∀ {s : Parse}, 3 * s.tokens.length + 1 ≤ n →
    Ensures (indentlessEntries n) s fun _ s' =>
      ∃ vs, Adds s (Node.entryEvents vs ++ [.sequenceEnd])
        (if s.tokens.head?.map (·.token) = some .blockEntry then 1 else 0) s'
  blockPairs : ∀ {s : Parse} {start : Mark}, 3 * s.tokens.length + 1 ≤ n →
    Ensures (blockPairs n start) s fun _ s' =>
      ∃ ps, Adds s (Node.pairEvents ps ++ [.mappingEnd]) 0 s'
  flowEntries : ∀ {s : Parse} {isFirst : Bool} {start : Mark}, 3 * s.tokens.length + 3 ≤ n →
    Ensures (flowEntries n isFirst start) s fun _ s' =>
      ∃ vs, Adds s (Node.entryEvents vs ++ [.sequenceEnd]) 0 s'
  flowPairInSequence : ∀ {s : Parse}, 3 * s.tokens.length + 3 ≤ n →
    Ensures (flowPairInSequence n) s fun _ s' =>
      ∃ p, Adds s (Node.pairEvents [p] ++ [.mappingEnd]) 0 s'
  flowPairs : ∀ {s : Parse} {isFirst : Bool} {start : Mark}, 3 * s.tokens.length + 3 ≤ n →
    Ensures (flowPairs n isFirst start) s fun _ s' =>
      ∃ ps, Adds s (Node.pairEvents ps ++ [.mappingEnd]) 0 s'

section

variable {n : Nat} {s : Parse} {start : Mark}

/-- A step goes on with `after` behind a node, or behind an empty scalar in place of one. -/
inductive OrEmpty (n : Nat) (after : Unit → Parsing Unit) : Parsing Unit → Prop
  | node {block indentless : Bool} :
      OrEmpty n after (Parsing.node n block indentless >>= after)
  | empty {mark : Mark} : OrEmpty n after (emitEmpty mark >>= after)

/-- Either way there is a node to go on behind. -/
theorem ReadsNodes.orEmpty {m : Parsing Unit} {P : Unit → Parse → Prop} (ih : ReadsNodes n)
    (after : Unit → Parsing Unit) (hm : OrEmpty n after m)
    (hn : 3 * s.tokens.length + 2 ≤ n)
    (rest : ∀ s', (∃ v : Node, Adds s v.events 0 s') → Ensures (after ()) s' P) :
    Ensures m s P := by
  cases hm with
  | node =>
    exact (ih.node hn).bind fun _ s' ⟨v, h⟩ => rest s' ⟨v, h.weaken (Nat.zero_le _)⟩
  | empty => exact ensures_emitEmpty.bind fun _ s' h => rest s' h

theorem ReadsNodes.blockEntries_succ (ih : ReadsNodes n)
    (hn : 3 * s.tokens.length + 1 ≤ n + 1) :
    Ensures (Parsing.blockEntries (n + 1) start) s fun _ s' =>
      ∃ vs, Adds s (Node.entryEvents vs ++ [.sequenceEnd]) 0 s' := by
  unfold Parsing.blockEntries
  refine ensures_peek_bind fun t ts ht => ?_
  split
  · refine (ensures_skip ht).bind fun _ s₁ h₁ => ensures_peek_bind fun _ _ _ => ?_
    have hs₁ := h₁.tokens
    extract_lets after
    refine ih.orEmpty after (by split <;> constructor) (by omega) ?_
    rintro s₂ ⟨v, h₂⟩
    have hs₂ := h₂.tokens
    refine (ih.blockEntries (by omega)).mono fun _ s₃ ⟨vs, h₃⟩ => ⟨v :: vs, ?_⟩
    simpa [Node.entryEvents] using ((h₁.trans h₂).trans h₃).weaken (Nat.zero_le _)
  · exact (ensures_end ht).mono fun _ _ h => ⟨[], h⟩
  · exact ensures_failAt

theorem ReadsNodes.indentlessEntries_succ (ih : ReadsNodes n)
    (hn : 3 * s.tokens.length + 1 ≤ n + 1) :
    Ensures (Parsing.indentlessEntries (n + 1)) s fun _ s' =>
      ∃ vs, Adds s (Node.entryEvents vs ++ [.sequenceEnd])
        (if s.tokens.head?.map (·.token) = some .blockEntry then 1 else 0) s' := by
  unfold Parsing.indentlessEntries
  refine ensures_peek_bind fun t ts ht => ?_
  split
  · next hentry =>
    rw [ht, List.head?_cons, Option.map_some, hentry, if_pos rfl]
    refine (ensures_skip ht).bind fun _ s₁ h₁ => ensures_peek_bind fun _ _ _ => ?_
    have hs₁ := h₁.tokens
    extract_lets _ after
    refine ih.orEmpty after (by split <;> constructor) (by omega) ?_
    rintro s₂ ⟨v, h₂⟩
    have hs₂ := h₂.tokens
    refine (ih.indentlessEntries (by omega)).mono fun _ s₃ ⟨vs, h₃⟩ => ⟨v :: vs, ?_⟩
    simpa [Node.entryEvents] using ((h₁.trans h₂).trans h₃).weaken (Nat.le_add_right 1 _)
  · next hother =>
    simp only [ht, List.head?_cons, Option.map_some, Option.some.injEq, if_neg hother]
    exact ensures_emit.mono fun _ _ h => ⟨[], h.1⟩

theorem ReadsNodes.blockPairs_succ (ih : ReadsNodes n) (hn : 3 * s.tokens.length + 1 ≤ n + 1) :
    Ensures (Parsing.blockPairs (n + 1) start) s fun _ s' =>
      ∃ ps, Adds s (Node.pairEvents ps ++ [.mappingEnd]) 0 s' := by
  unfold Parsing.blockPairs
  refine ensures_peek_bind fun t ts ht => ?_
  split
  · refine (ensures_skip ht).bind fun _ s₁ h₁ => ensures_peek_bind fun _ _ _ => ?_
    have hs₁ := h₁.tokens
    extract_lets after afterKey
    refine ih.orEmpty afterKey (by split <;> constructor) (by omega) ?_
    rintro s₂ ⟨k, h₂⟩
    have hs₂ := h₂.tokens
    have rest : ∀ s₃, (∃ v : Node, Adds s₂ v.events 0 s₃) → Ensures (after ()) s₃ fun _ s' =>
        ∃ ps, Adds s (Node.pairEvents ps ++ [.mappingEnd]) 0 s' := by
      rintro s₃ ⟨v, h₃⟩
      have hs₃ := h₃.tokens
      refine (ih.blockPairs (by omega)).mono fun _ s₄ ⟨ps, h₄⟩ => ⟨(k, v) :: ps, ?_⟩
      simpa [Node.pairEvents] using
        (((h₁.trans h₂).trans h₃).trans h₄).weaken (Nat.zero_le _)
    refine ensures_peek_bind fun t ts ht => ?_
    split
    · refine (ensures_skip ht).bind fun _ s₃ h₃ => ensures_peek_bind fun _ _ _ => ?_
      have hs₃ := h₃.tokens
      refine ih.orEmpty after (by split <;> constructor) (by omega) ?_
      exact fun s₄ ⟨v, h₄⟩ => rest s₄ ⟨v, (h₃.trans h₄).weaken (Nat.zero_le _)⟩
    · exact ih.orEmpty after .empty (by omega) rest
  · exact (ensures_end ht).mono fun _ _ h => ⟨[], h⟩
  · exact ensures_failAt

theorem ReadsNodes.flowEntries_succ {isFirst : Bool} (ih : ReadsNodes n)
    (hn : 3 * s.tokens.length + 3 ≤ n + 1) :
    Ensures (Parsing.flowEntries (n + 1) isFirst start) s fun _ s' =>
      ∃ vs, Adds s (Node.entryEvents vs ++ [.sequenceEnd]) 0 s' := by
  unfold Parsing.flowEntries
  refine ensures_peek_bind fun t ts ht => ?_
  split
  · exact (ensures_end ht).mono fun _ _ h => ⟨[], h⟩
  extract_lets afterComma
  -- The first entry has no comma before it; what follows is the same with and without one.
  have restComma {s₁} (h₁ : Adds s [] 0 s₁) : Ensures (afterComma ()) s₁ fun _ s' =>
      ∃ vs, Adds s (Node.entryEvents vs ++ [.sequenceEnd]) 0 s' := by
    have hs₁ := h₁.tokens
    have rest {s₂} (h₂ : ∃ v : Node, Adds s₁ v.events 1 s₂) :
        Ensures (Parsing.flowEntries n false start) s₂ fun _ s' =>
          ∃ vs, Adds s (Node.entryEvents vs ++ [.sequenceEnd]) 0 s' := by
      obtain ⟨v, h₂⟩ := h₂
      have hs₂ := h₂.tokens
      refine (ih.flowEntries (by omega)).mono fun _ s₃ ⟨vs, h₃⟩ => ⟨v :: vs, ?_⟩
      simpa [Node.entryEvents] using ((h₁.trans h₂).trans h₃).weaken (Nat.zero_le _)
    refine ensures_peek_bind fun t ts ht => ?_
    split
    · refine ensures_emit.bind fun _ s₂ ⟨h₂, ht₂⟩ => ?_
      refine (ensures_skip (ht₂.trans ht)).bind fun _ s₃ h₃ => ?_
      have hs₂ := h₂.tokens
      have hs₃ := h₃.tokens
      refine (ih.flowPairInSequence (by omega)).bind fun _ s₄ ⟨p, h₄⟩ =>
        rest ⟨.mapping [p], ?_⟩
      simpa [Node.events] using (h₂.trans h₃).trans h₄
    · exact (ensures_end ht).mono fun _ _ h => ⟨[], h₁.trans h⟩
    · exact (ih.node (by omega)).bind fun _ _ h => rest h
  split
  · split
    · exact (ensures_skip ht).bind fun _ _ h => restComma (h.weaken (Nat.zero_le _))
    · exact ensures_failAt_bind
  · exact restComma (.refl s)

theorem ReadsNodes.flowPairInSequence_succ (ih : ReadsNodes n)
    (hn : 3 * s.tokens.length + 3 ≤ n + 1) :
    Ensures (Parsing.flowPairInSequence (n + 1)) s fun _ s' =>
      ∃ p, Adds s (Node.pairEvents [p] ++ [.mappingEnd]) 0 s' := by
  unfold Parsing.flowPairInSequence
  refine ensures_peek_bind fun t ts ht => ?_
  extract_lets after afterKey
  have restKey : ∀ s₁, (∃ k : Node, Adds s k.events 0 s₁) →
      Ensures (afterKey ()) s₁ fun _ s' =>
      ∃ p, Adds s (Node.pairEvents [p] ++ [.mappingEnd]) 0 s' := by
    rintro s₁ ⟨k, h₁⟩
    have hs₁ := h₁.tokens
    have rest : ∀ s₂, (∃ v : Node, Adds s₁ v.events 0 s₂) → Ensures (after ()) s₂ fun _ s' =>
        ∃ p, Adds s (Node.pairEvents [p] ++ [.mappingEnd]) 0 s' := by
      rintro s₂ ⟨v, h₂⟩
      refine ensures_peek_bind fun _ _ _ => ensures_emit.mono fun _ s₃ h₃ => ⟨(k, v), ?_⟩
      simpa [Node.pairEvents] using (h₁.trans h₂).trans h₃.1
    refine ensures_peek_bind fun t ts ht => ?_
    split
    · refine (ensures_skip ht).bind fun _ s₂ h₂ => ensures_peek_bind fun _ _ _ => ?_
      have hs₂ := h₂.tokens
      refine ih.orEmpty after (by split <;> constructor) (by omega) ?_
      exact fun s₃ ⟨v, h₃⟩ => rest s₃ ⟨v, (h₂.trans h₃).weaken (Nat.zero_le _)⟩
    · exact ih.orEmpty after .empty (by omega) rest
  -- A mark that ends the key is used up, unlike in the other collections.
  have absent : Ensures (do skip; let r ← emitEmpty t.last; afterKey r) s fun _ s' =>
      ∃ p, Adds s (Node.pairEvents [p] ++ [.mappingEnd]) 0 s' :=
    (ensures_skip ht).bind fun _ _ h₁ => ensures_emitEmpty.bind fun _ s₂ ⟨k, h₂⟩ =>
      restKey s₂ ⟨k, (h₁.trans h₂).weaken (Nat.zero_le _)⟩
  split
  · exact absent
  · exact absent
  · exact absent
  · exact ih.orEmpty afterKey .node (by omega) restKey

theorem ReadsNodes.flowPairs_succ {isFirst : Bool} (ih : ReadsNodes n)
    (hn : 3 * s.tokens.length + 3 ≤ n + 1) :
    Ensures (Parsing.flowPairs (n + 1) isFirst start) s fun _ s' =>
      ∃ ps, Adds s (Node.pairEvents ps ++ [.mappingEnd]) 0 s' := by
  unfold Parsing.flowPairs
  refine ensures_peek_bind fun t ts ht => ?_
  split
  · exact (ensures_end ht).mono fun _ _ h => ⟨[], h⟩
  extract_lets after afterKey afterComma
  have restComma {s₁} (h₁ : Adds s [] 0 s₁) : Ensures (afterComma ()) s₁ fun _ s' =>
      ∃ ps, Adds s (Node.pairEvents ps ++ [.mappingEnd]) 0 s' := by
    have hs₁ := h₁.tokens
    have rest {s₂} {p : Node × Node} (h₂ : Adds s₁ (Node.pairEvents [p]) 1 s₂) :
        Ensures (Parsing.flowPairs n false start) s₂ fun _ s' =>
          ∃ ps, Adds s (Node.pairEvents ps ++ [.mappingEnd]) 0 s' := by
      have hs₂ := h₂.tokens
      refine (ih.flowPairs (by omega)).mono fun _ s₃ ⟨ps, h₃⟩ => ⟨p :: ps, ?_⟩
      simpa [Node.pairEvents] using ((h₁.trans h₂).trans h₃).weaken (Nat.zero_le _)
    refine ensures_peek_bind fun t ts ht => ?_
    split
    · refine (ensures_skip ht).bind fun _ s₂ h₂ => ensures_peek_bind fun _ _ _ => ?_
      have hs₂ := h₂.tokens
      refine ih.orEmpty afterKey (by split <;> constructor) (by omega) ?_
      rintro s₃ ⟨k, h₃⟩
      have hs₃ := h₃.tokens
      have restValue : ∀ s₄, (∃ v : Node, Adds s₃ v.events 0 s₄) →
          Ensures (after ()) s₄ fun _ s' =>
          ∃ ps, Adds s (Node.pairEvents ps ++ [.mappingEnd]) 0 s' := by
        rintro s₄ ⟨v, h₄⟩
        have h := (h₂.trans h₃).trans h₄
        exact rest (p := (k, v)) (by simpa [Node.pairEvents] using h)
      refine ensures_peek_bind fun t ts ht => ?_
      split
      · refine (ensures_skip ht).bind fun _ s₄ h₄ => ensures_peek_bind fun _ _ _ => ?_
        have hs₄ := h₄.tokens
        refine ih.orEmpty after (by split <;> constructor) (by omega) ?_
        exact fun s₅ ⟨v, h₅⟩ => restValue s₅ ⟨v, (h₄.trans h₅).weaken (Nat.zero_le _)⟩
      · exact ih.orEmpty after .empty (by omega) restValue
    · exact (ensures_end ht).mono fun _ _ h => ⟨[], h₁.trans h⟩
    · refine (ih.node (by omega)).bind fun _ s₂ ⟨k, h₂⟩ => ?_
      refine ensures_peek_bind fun _ _ _ => ensures_emitEmpty.bind fun _ s₃ ⟨v, h₃⟩ => ?_
      exact rest (p := (k, v)) (by simpa [Node.pairEvents] using h₂.trans h₃)
  split
  · split
    · exact (ensures_skip ht).bind fun _ _ h => restComma (h.weaken (Nat.zero_le _))
    · exact ensures_failAt_bind
  · exact restComma (.refl s)

theorem ReadsNodes.node_succ {block indentless : Bool} (ih : ReadsNodes n)
    (hn : 3 * s.tokens.length + 2 ≤ n + 1) :
    Ensures (Parsing.node (n + 1) block indentless) s fun _ s' =>
      ∃ v : Node, Adds s v.events 1 s' := by
  unfold Parsing.node
  refine ensures_peek_bind fun t ts ht => ?_
  split
  · refine (ensures_skip ht).bind fun _ s₁ h₁ => ensures_get_bind ?_
    split
    · next number _ => exact ensures_emit.mono fun _ _ h₂ => ⟨.alias number, h₁.trans h₂.1⟩
    · exact ensures_throw
  refine ensures_properties.bind fun p s₁ h₁ => ?_
  have hs₁ := h₁.tokens
  refine ensures_peek_bind fun t ts ht => ensures_fullTag.bind ?_
  rintro tag s₂ ⟨hs₂, htag⟩
  subst s₂
  have sequence {s₂ s₃ : Parse} {vs : List Node} (h₂ : Adds s₁ [.sequenceStart] 1 s₂)
      (h₃ : Adds s₂ (Node.entryEvents vs ++ [.sequenceEnd]) 0 s₃) :
      ∃ v : Node, Adds s v.events 1 s₃ :=
    ⟨.sequence vs, by simpa [Node.events] using ((h₁.trans h₂).trans h₃).weaken (by omega)⟩
  have mapping {s₂ s₃ : Parse} {ps : List (Node × Node)} (h₂ : Adds s₁ [.mappingStart] 1 s₂)
      (h₃ : Adds s₂ (Node.pairEvents ps ++ [.mappingEnd]) 0 s₃) :
      ∃ v : Node, Adds s v.events 1 s₃ :=
    ⟨.mapping ps, by simpa [Node.events] using ((h₁.trans h₂).trans h₃).weaken (by omega)⟩
  split
  · next style text _ =>
    refine (ensures_skip ht).bind fun _ s₂ h₂ => ensures_noteAnchor.bind fun _ s₃ h₃ => ?_
    refine ensures_emit.mono fun _ s₄ h₄ => ⟨.scalar (scalarTag tag) style text, ?_⟩
    exact (((h₁.trans h₂).trans h₃.1).trans h₄.1).weaken (by omega)
  · refine ensures_open ht fun s₂ h₂ => ?_
    have hs₂ := h₂.tokens
    exact (ih.flowEntries (by omega)).mono fun _ _ ⟨_, h₃⟩ => sequence h₂ h₃
  · refine ensures_open ht fun s₂ h₂ => ?_
    have hs₂ := h₂.tokens
    exact (ih.flowPairs (by omega)).mono fun _ _ ⟨_, h₃⟩ => mapping h₂ h₃
  · split
    · next hentry =>
      -- The first entry is read with its mark, which the entries use up.
      rw [Bool.and_eq_true, beq_iff_eq] at hentry
      refine ensures_start fun s₂ h₂ ht₂ => ?_
      refine (ih.indentlessEntries (by rw [ht₂]; omega)).mono fun _ s₃ ⟨vs, h₃⟩ => ?_
      rw [ht₂, ht, List.head?_cons, Option.map_some, hentry.2, if_pos rfl] at h₃
      exact ⟨.sequence vs, ((h₁.trans h₂).trans h₃).weaken (by omega)⟩
    split
    · refine ensures_open ht fun s₂ h₂ => ?_
      have hs₂ := h₂.tokens
      exact (ih.blockEntries (by omega)).mono fun _ _ ⟨_, h₃⟩ => sequence h₂ h₃
    split
    · refine ensures_open ht fun s₂ h₂ => ?_
      have hs₂ := h₂.tokens
      exact (ih.blockPairs (by omega)).mono fun _ _ ⟨_, h₃⟩ => mapping h₂ h₃
    split
    · -- Properties that stand alone are those of an empty scalar, and were used up.
      next hp =>
      have hwritten : (p.anchor.isSome || p.tag.isSome) = true := by
        rw [Bool.or_eq_true] at hp ⊢
        exact hp.imp_right htag
      rw [hwritten, if_pos rfl] at h₁
      refine ensures_noteAnchor.bind fun _ s₂ h₂ => ensures_emit.mono fun _ s₃ h₃ => ?_
      exact ⟨.scalar tag .plain [], (h₁.trans h₂.1).trans h₃.1⟩
    · exact ensures_failAt

end

theorem readsNodes (n : Nat) : ReadsNodes n := by
  induction n with
  | zero => constructor <;> (intros; omega)
  | succ n ih =>
    exact
      { node := ih.node_succ
        blockEntries := ih.blockEntries_succ
        indentlessEntries := ih.indentlessEntries_succ
        blockPairs := ih.blockPairs_succ
        flowEntries := ih.flowEntries_succ
        flowPairInSequence := ih.flowPairInSequence_succ
        flowPairs := ih.flowPairs_succ }

/-! ## 6. Documents -/

/-- Directives are no events. -/
theorem ensures_directives {versioned : Bool} {n : Nat} {s : Parse} :
    Ensures (directives versioned n) s fun _ s' => Adds s [] 0 s' := by
  induction n generalizing versioned s with
  | zero => exact ensures_pure (.refl s)
  | succ n ih =>
    unfold directives
    refine ensures_peek_bind fun t ts ht => ?_
    split
    · refine ensures_check (ensures_check ?_)
      exact ensures_skipAny.bind fun _ _ h₁ => ih.mono fun _ _ h₂ => h₁.trans h₂
    · refine ensures_get_bind (ensures_check (ensures_modify.bind ?_))
      intro _ s₁ hs₁
      have h₁ : Adds s [] 0 s₁ := by
        subst hs₁
        exact ⟨rfl, Nat.le_refl _⟩
      refine ensures_skipAny.bind fun _ _ h₂ => ih.mono fun _ _ h₃ => ?_
      exact (h₁.trans h₂).trans h₃
    · exact ensures_pure (.refl s)

/-- A document is a node, unless there is none. -/
theorem ensures_document {n : Nat} {s : Parse} (hn : 3 * s.tokens.length + 2 ≤ n) :
    Ensures (document n) s fun _ s' =>
      ∃ es, Adds s es 0 s' ∧ (es = [.void] ∨ ∃ v : Node, es = v.events) := by
  unfold document
  refine ensures_skipAny.bind fun _ s₁ h₁ => ensures_peek_bind fun t ts ht => ?_
  have hs₁ := h₁.tokens
  extract_lets addCommon
  have common {s : Parse} : Ensures addCommon s fun _ s' => Adds s [] 0 s' := by
    refine ensures_modify.mono ?_
    rintro _ _ rfl
    exact ⟨rfl, Nat.le_refl _⟩
  let close : Unit → Parsing Unit := fun _ => do if (← peek).token == .documentEnd then skip
  have closed {s₂ : Parse} {v : Node} (h₂ : Adds s v.events 0 s₂) : Ensures (close ()) s₂
      fun _ s' => ∃ es, Adds s es 0 s' ∧ (es = [.void] ∨ ∃ v : Node, es = v.events) := by
    refine ensures_peek_bind fun t ts ht => ?_
    split
    · refine ensures_skipAny.mono fun _ _ h₃ => ⟨v.events, ?_, .inr ⟨v, rfl⟩⟩
      simpa using h₂.trans h₃
    · exact ensures_pure ⟨v.events, h₂, .inr ⟨v, rfl⟩⟩
  split
  case h_1 =>
    exact ensures_emit.mono fun _ s₂ h₂ => ⟨[.void], h₁.trans h₂.1, .inl rfl⟩
  case h_2 | h_3 | h_4 =>
    refine ensures_directives.bind fun _ s₂ h₂ => common.bind fun _ s₃ h₃ => ?_
    refine ensures_peek_bind fun t ts ht =>
      ensures_check (ensures_skipAny.bind fun _ s₄ h₄ => ?_)
    refine ensures_peek_bind fun t ts ht => ?_
    have h := ((h₁.trans h₂).trans h₃).trans h₄
    have hs := h.tokens
    refine (readsNodes n).orEmpty close (by split <;> constructor) (by omega) ?_
    exact fun s₅ ⟨v, h₅⟩ => closed (h.trans h₅)
  case h_5 =>
    refine common.bind fun _ s₂ h₂ => ?_
    have hs₂ := h₂.tokens
    refine ((readsNodes n).node (by omega)).bind fun _ s₃ ⟨v, h₃⟩ => ?_
    exact closed (((h₁.trans h₂).trans h₃).weaken (Nat.zero_le _))

end Parsing

/-- **A document that does not break off is one node, unless there is none.** -/
theorem ofText_holds {text : List Char} (h : (Document.ofText text).fault = none) :
    (Document.ofText text).events.map Prod.fst = [.void] ∨
      ∃ root, (Document.ofText text).Holds root := by
  rcases ht : tokens text with ⟨ts, fault⟩
  let start : Parse := { tokens := ts, fault := fault.getD (.problem .unexpectedEnd {} none) }
  rcases hr : (Parsing.document (4 * ts.length + 10)).run start with ⟨f | _, s⟩
  · simp [Document.ofText, ht, start, hr] at h
  have hn : 3 * start.tokens.length + 2 ≤ 4 * ts.length + 10 := by
    show 3 * ts.length + 2 ≤ _
    omega
  obtain ⟨es, hs, hes⟩ := Parsing.ensures_document hn () s hr
  have hevents : (Document.ofText text).events.map Prod.fst = es := by
    simp only [start] at hr
    simp [Document.ofText, ht, hr, hs.events, start]
  rw [hevents]
  exact hes.imp_right fun ⟨root, hroot⟩ => ⟨root, hevents.trans hroot⟩

/-! ## 7. Nodes within a document -/

/-- The events `es` are those of the document from number `n` on. -/
def Document.Runs (d : Document) (n : Nat) (es : List Event) : Prop :=
  es <+: (d.events.map Prod.fst).drop n

/-- The node `v` starts at the event with number `n`. -/
def Node.At (d : Document) (n : Nat) (v : Node) : Prop := d.Runs n v.events

/-- The node that `v` is read as: an alias as the node at its anchor, any other as it is. -/
def Node.StandsFor (d : Document) (v u : Node) : Prop :=
  match v with
  | .alias number => ∃ n, d.anchors.lookup number = some n ∧ u.At d n
  | _ => u = v

section

variable {d : Document} {n : Nat} {e : Event} {es es' : List Event} {v : Node}

theorem runs_append :
    d.Runs n (es ++ es') ↔ d.Runs n es ∧ d.Runs (n + es.length) es' := by
  simp only [Document.Runs, ← List.drop_drop]
  constructor
  · rintro ⟨rest, h⟩
    rw [← h, List.append_assoc]
    exact ⟨List.prefix_append .., by simp⟩
  · rintro ⟨⟨rest, h⟩, ⟨rest', h'⟩⟩
    rw [← h, List.drop_left] at h'
    exact ⟨rest', by rw [List.append_assoc, h', h]⟩

theorem runs_cons :
    d.Runs n (e :: es) ↔ (d.events.map Prod.fst)[n]? = some e ∧ d.Runs (n + 1) es := by
  rw [← List.singleton_append, runs_append, List.length_singleton]
  refine and_congr_left fun _ => ?_
  rw [Document.Runs, ← List.head?_drop]
  cases (d.events.map Prod.fst).drop n <;> simp [eq_comm]

theorem Document.Runs.length_le (h : d.Runs n es) : es.length ≤ d.events.length := by
  have := List.IsPrefix.length_le h
  rw [List.length_drop, List.length_map] at this
  omega

theorem getElem?_of_at (hv : v.At d n) : (d.events.map Prod.fst)[n]? = v.events.head? := by
  cases v <;> exact (runs_cons.mp hv).1

theorem eq_scalar_of_head? {tag : Option (List Char)} {style : Style} {text : List Char}
    (h : v.events.head? = some (.scalar tag style text)) : v = .scalar tag style text := by
  cases v <;> simp_all [Node.events]

theorem exists_eq_mapping_of_head? (h : v.events.head? = some .mappingStart) :
    ∃ ps, v = .mapping ps := by
  cases v <;> simp_all [Node.events]

theorem length_events_of_standsFor_scalar {tag : Option (List Char)} {style : Style}
    {text : List Char} (h : v.StandsFor d (.scalar tag style text)) : v.events.length = 1 := by
  cases v <;> simp_all [Node.StandsFor, Node.events]

theorem standsFor_iff {u : Node} (hv : ∀ number, v ≠ .alias number) :
    v.StandsFor d u ↔ u = v := by
  cases v <;> simp_all [Node.StandsFor]

theorem eq_alias_of_head? {number : Nat} (h : v.events.head? = some (.alias number)) :
    v = .alias number := by
  cases v <;> simp_all [Node.events]

/-- A mapping has fewer keys than events. -/
theorem length_le_length_pairEvents (ps : List (Node × Node)) :
    ps.length ≤ (Node.pairEvents ps).length := by
  induction ps with
  | nil => exact Nat.le_refl _
  | cons p ps ih =>
    have : 0 < p.1.events.length := by cases p.1 <;> simp [Node.events]
    simp only [Node.pairEvents, List.length_cons, List.length_append]
    omega

/-- Each event but the ends of collections starts a node. -/
def Nested (es : List Event) : Prop :=
  ∀ i e, es[i]? = some e → e ≠ .sequenceEnd → e ≠ .mappingEnd →
    ∃ v : Node, v.events <+: es.drop i

theorem Nested.append (h : Nested es) (h' : Nested es') : Nested (es ++ es') := by
  intro i e he hs hm
  by_cases hi : i < es.length
  · rw [List.getElem?_append_left hi] at he
    obtain ⟨v, hv⟩ := h i e he hs hm
    refine ⟨v, hv.trans ?_⟩
    rw [List.drop_append_of_le_length (Nat.le_of_lt hi)]
    exact List.prefix_append ..
  · rw [List.getElem?_append_right (by omega)] at he
    obtain ⟨v, hv⟩ := h' _ e he hs hm
    refine ⟨v, ?_⟩
    rwa [List.drop_append, List.drop_of_length_le (by omega), List.nil_append]

theorem nested_nil : Nested [] := by
  intro i e he
  simp at he

/-- A collection starts itself. -/
theorem Nested.collection {last : Event} (hlast : last = .sequenceEnd ∨ last = .mappingEnd)
    (hv : v.events = e :: (es ++ [last])) (h : Nested es) : Nested v.events := by
  have hend : Nested [last] := by
    intro i e he hs hm
    rw [List.mem_singleton.mp (List.mem_of_getElem? he)] at hs hm
    exact (hlast.elim hs hm).elim
  intro i e' he hs hm
  cases i with
  | zero => exact ⟨v, List.prefix_rfl⟩
  | succ i =>
    rw [hv, List.getElem?_cons_succ] at he
    rw [hv]
    exact (h.append hend) i e' he hs hm

mutual

theorem Node.nested_events : ∀ v : Node, Nested v.events
  | .alias number => by
    intro i e he _ _
    cases i with
    | zero => exact ⟨.alias number, List.prefix_rfl⟩
    | succ i => simp [Node.events] at he
  | .scalar tag style text => by
    intro i e he _ _
    cases i with
    | zero => exact ⟨.scalar tag style text, List.prefix_rfl⟩
    | succ i => simp [Node.events] at he
  | .sequence entries =>
    .collection (.inl rfl) (by rw [Node.events]) (nested_entryEvents entries)
  | .mapping pairs =>
    .collection (.inr rfl) (by rw [Node.events]) (nested_pairEvents pairs)

theorem Node.nested_entryEvents : ∀ vs : List Node, Nested (entryEvents vs)
  | [] => nested_nil
  | v :: vs => (nested_events v).append (nested_entryEvents vs)

theorem Node.nested_pairEvents : ∀ ps : List (Node × Node), Nested (pairEvents ps)
  | [] => nested_nil
  | (k, v) :: ps =>
    (nested_events k).append ((nested_events v).append (nested_pairEvents ps))

end

/-- Wherever an event does not end a collection, a node starts. -/
theorem Document.Holds.exists_at {root : Node} (h : d.Holds root)
    (he : (d.events.map Prod.fst)[n]? = some e) (hs : e ≠ .sequenceEnd)
    (hm : e ≠ .mappingEnd) :
    ∃ v : Node, v.At d n := by
  rw [h] at he
  obtain ⟨v, hv⟩ := root.nested_events n e he hs hm
  refine ⟨v, ?_⟩
  rwa [Node.At, Document.Runs, h]

end

end Marginalia.Yaml
