/-
Marginalia.Proofs.Markup.Attributes — the properties of a block over the
attributes of its element.

What setting one attribute does to the others, and from it what becomes of
an attribute when the properties of a block are merged over it: it stays
unless a property is written as it (`mem_mergeAttributes_of_ne`), and of the
properties written as it the last one counts (`mem_mergeAttributes`). No
other names appear (`forall_mergeAttributes`), and none appears twice
(`nodup_mergeAttributes`).
-/
import Marginalia.Markup.OfTree

namespace Marginalia.Markup

/-! ## 1. Names -/

/-- What holds of the names of attributes holds of them after one is set, if
it holds of that one. -/
theorem forall_setAttribute {P : String → Prop} {name : String} (hn : P name)
    (value : String) :
    ∀ {as : List Attribute}, (∀ a ∈ as, P a.1) → ∀ a ∈ setAttribute name value as, P a.1
  | [], _ => by simpa [setAttribute] using hn
  | a :: as, h => by
      obtain ⟨ha, has⟩ := List.forall_mem_cons.1 h
      unfold setAttribute
      split
      · exact List.forall_mem_cons.2 ⟨hn, has⟩
      · exact List.forall_mem_cons.2 ⟨ha, forall_setAttribute hn value has⟩

/-- What holds of an element's own attributes and of what its properties are
written as holds of them merged. -/
theorem forall_mergeAttributes {P : String → Prop} {own : List Attribute}
    (ho : ∀ a ∈ own, P a.1) {ps : List (String × String)}
    (h : ∀ p ∈ ps, P (attributeName p.1)) :
    ∀ a ∈ mergeAttributes own ps, P a.1 := by
  induction ps generalizing own with
  | nil => exact ho
  | cons p ps ih =>
    obtain ⟨hp, hps⟩ := List.forall_mem_cons.1 h
    exact ih (forall_setAttribute hp p.2 ho) hps

/-- Setting an attribute leaves the names as they are, or puts a new one behind
them. -/
theorem map_fst_setAttribute (name value : String) (as : List Attribute) :
    (setAttribute name value as).map Prod.fst
      = if name ∈ as.map Prod.fst then as.map Prod.fst else as.map Prod.fst ++ [name] := by
  induction as with
  | nil => rfl
  | cons a as ih =>
    unfold setAttribute
    by_cases ha : a.1 = name
    · simp [ha]
    · have hname : name ∈ (a :: as).map Prod.fst ↔ name ∈ as.map Prod.fst := by
        rw [List.map_cons, List.mem_cons, or_iff_right (Ne.symm ha)]
      rw [if_neg ha, List.map_cons, ih]
      simp only [hname]
      split <;> rfl

theorem nodup_setAttribute (name value : String) {as : List Attribute}
    (h : (as.map Prod.fst).Nodup) : ((setAttribute name value as).map Prod.fst).Nodup := by
  rw [map_fst_setAttribute]
  split
  · exact h
  · next hname =>
    refine List.nodup_append.2 ⟨h, by simp, ?_⟩
    rintro x hx y hy rfl
    exact hname (List.mem_singleton.1 hy ▸ hx)

/-- No name appears twice when properties are merged over attributes. -/
theorem nodup_mergeAttributes {own : List Attribute} (h : (own.map Prod.fst).Nodup)
    (ps : List (String × String)) : ((mergeAttributes own ps).map Prod.fst).Nodup := by
  induction ps generalizing own with
  | nil => exact h
  | cons p ps ih => exact ih (nodup_setAttribute _ _ h)

/-- Where no name appears twice, an attribute is the only one of its name. -/
theorem filter_fst_eq {as : List Attribute} (h : (as.map Prod.fst).Nodup) {a : Attribute}
    (ha : a ∈ as) : as.filter (·.1 = a.1) = [a] := by
  induction as with
  | nil => cases ha
  | cons b as ih =>
    obtain ⟨hb, has⟩ := List.nodup_cons.1 h
    rcases List.mem_cons.1 ha with rfl | ha
    · have hrest : as.filter (·.1 = a.1) = [] := by
        rw [List.filter_eq_nil_iff]
        intro c hc
        rw [decide_eq_true_eq]
        intro hname
        exact hb (hname ▸ List.mem_map_of_mem hc)
      rw [List.filter_cons_of_pos (by simp), hrest]
    · have hne : b.1 ≠ a.1 := by
        intro hname
        exact hb (hname ▸ List.mem_map_of_mem ha)
      rw [List.filter_cons_of_neg (by simpa using hne), ih has ha]

/-! ## 2. Values -/

theorem mem_setAttribute_self (name value : String) : ∀ as : List Attribute,
    (name, value) ∈ setAttribute name value as
  | [] => by simp [setAttribute]
  | a :: as => by
      unfold setAttribute
      split
      · exact List.mem_cons_self
      · exact List.mem_cons_of_mem _ (mem_setAttribute_self name value as)

theorem mem_setAttribute_of_ne {name : String} (value : String) {a : Attribute}
    (hne : a.1 ≠ name) : ∀ {as : List Attribute}, a ∈ as → a ∈ setAttribute name value as
  | b :: as, h => by
      unfold setAttribute
      rcases List.mem_cons.1 h with rfl | h
      · rw [if_neg hne]
        exact List.mem_cons_self
      · split
        · exact List.mem_cons_of_mem _ h
        · exact List.mem_cons_of_mem _ (mem_setAttribute_of_ne value hne h)

/-- An attribute stays when no property is written as it. -/
theorem mem_mergeAttributes_of_ne {a : Attribute} {own : List Attribute} (h : a ∈ own)
    {ps : List (String × String)} (hps : ∀ p ∈ ps, attributeName p.1 ≠ a.1) :
    a ∈ mergeAttributes own ps := by
  induction ps generalizing own with
  | nil => exact h
  | cons p ps ih =>
    obtain ⟨hp, hps⟩ := List.forall_mem_cons.1 hps
    exact ih (mem_setAttribute_of_ne p.2 hp.symm h) hps

/-- A property that no later one replaces becomes an attribute. -/
theorem mem_mergeAttributes (own : List Attribute) (before : List (String × String))
    {p : String × String} {after : List (String × String)}
    (h : ∀ q ∈ after, attributeName q.1 ≠ attributeName p.1) :
    (attributeName p.1, p.2) ∈ mergeAttributes own (before ++ p :: after) := by
  rw [mergeAttributes, List.foldl_append, List.foldl_cons]
  exact mem_mergeAttributes_of_ne (mem_setAttribute_self _ _ _) h

end Marginalia.Markup
