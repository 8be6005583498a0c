/-
Marginalia.Proofs.Callout.FirstPass — one conversion settles a tree.

`convertRoot_twice`: converting a converted document changes nothing and
notes nothing, whatever the two element names are, and no quote left in it
is marked.

The two halves are the usual ones of a normal form: a tree without marked
quotes is left as it is (`convertAll_of_settled`), and a conversion leaves
no marked quote behind (`settled_convertAll`). The second needs that
nothing a conversion does can mark a quote: what a quote starts with is
what it started with before its children were visited
(`leadingMarker?_convertAll`), and children whose first was cut out belong
to a callout, which is not looked at again.
-/
import Marginalia.Proofs.Callout.Correspondence

namespace Marginalia.Callout

/-- No quote among the blocks is marked. -/
def Settled (bs : List Block) : Prop := ∀ b ∈ bs, marker? b = none

theorem settled_append {bs cs : List Block} :
    Settled (bs ++ cs) ↔ Settled bs ∧ Settled cs := by
  simp [Settled, or_imp, forall_and]

theorem settled_cons {b : Block} {bs : List Block} :
    Settled (b :: bs) ↔ marker? b = none ∧ Settled bs := by
  simp [Settled]

theorem settled_iff_filterMap {bs : List Block} : Settled bs ↔ bs.filterMap marker? = [] := by
  simp [Settled]

variable (element : String)

/-! ## 1. Without marked quotes nothing happens -/

mutual

theorem convertWithin_of_settled : ∀ b : Block, Settled b.walk →
    convertWithin element b = ⟨b, []⟩
  | .quote cs d, h => by
      obtain ⟨hb, hcs⟩ := settled_cons.1 h
      rw [marker?_quote] at hb
      rw [convertWithin_unmarked element hb, convertAll_of_settled cs hcs]
  | .callout kind cs d, h => by
      rw [convertWithin_callout, convertAll_of_settled cs (settled_cons.1 h).2]
  | .list o s sp is d, h => by
      rw [convertWithin_list, convertItems_of_settled is (settled_cons.1 h).2]
  | .paragraph .., _ | .heading .., _ | .code .., _ | .rule .., _ | .html .., _ =>
      convertWithin_leaf element rfl

theorem convertAll_of_settled : ∀ bs : List Block, Settled (walkAll bs) →
    convertAll element bs = ⟨bs, []⟩
  | [], _ => convertAll_nil element
  | b :: bs, h => by
      obtain ⟨hb, hbs⟩ := settled_append.1 h
      rw [convertAll_cons, convertWithin_of_settled b hb, convertAll_of_settled bs hbs]
      rfl

theorem convertItems_of_settled : ∀ is : List Item, Settled (walkItems is) →
    convertItems element is = ⟨is, []⟩
  | [], _ => convertItems_nil element
  | .mk sp cs d :: is, h => by
      obtain ⟨hcs, his⟩ := settled_append.1 h
      rw [convertItems_cons, convertAll_of_settled cs hcs, convertItems_of_settled is his]
      rfl

end

/-! ## 2. No marked quote is left behind -/

theorem settled_walkAll_splice {body : List Char} {bs : List Block} :
    Settled (walkAll (splice body bs)) ↔ Settled (walkAll bs) := by
  rw [settled_iff_filterMap, filterMap_walkAll_splice (fun _ _ => rfl), settled_iff_filterMap]

mutual

theorem settled_convertWithin : ∀ b : Block, Settled (convertWithin element b).value.walk
  | .quote cs d => by
      have ih := settled_convertAll cs
      cases hm : leadingMarker? cs with
      | none =>
        -- the quote stays, and starts with what it started with
        rw [convertWithin_unmarked element hm]
        refine settled_cons.2 ⟨?_, ih⟩
        rw [marker?_quote, leadingMarker?_convertAll, hm]
      | some m =>
        rw [convertWithin_marked element hm]
        exact settled_cons.2 ⟨rfl, settled_walkAll_splice.2 ih⟩
  | .callout kind cs d => by
      rw [convertWithin_callout]
      exact settled_cons.2 ⟨rfl, settled_convertAll cs⟩
  | .list o s sp is d => by
      rw [convertWithin_list]
      exact settled_cons.2 ⟨rfl, settled_convertItems is⟩
  | .paragraph .. | .heading .. | .code .. | .rule .. | .html .. => by
      rw [convertWithin_leaf element rfl]
      exact settled_cons.2 ⟨rfl, by simp [Settled]⟩

theorem settled_convertAll : ∀ bs : List Block, Settled (walkAll (convertAll element bs).value)
  | [] => by simp [walkAll, Settled]
  | b :: bs => by
      rw [convertAll_cons]
      exact settled_append.2 ⟨settled_convertWithin b, settled_convertAll bs⟩

theorem settled_convertItems : ∀ is : List Item,
    Settled (walkItems (convertItems element is).value)
  | [] => by simp [walkItems, Settled]
  | .mk sp cs d :: is => by
      rw [convertItems_cons]
      exact settled_append.2 ⟨settled_convertAll cs, settled_convertItems is⟩

end

/-- **The first pass wins.** No quote of a converted document is marked, and
converting it once more, with any element name, gives it back and notes
nothing. -/
theorem convertRoot_twice (first second : String) (r : Root) :
    convertRoot second (convertRoot first r).value = ⟨(convertRoot first r).value, []⟩
      ∧ ∀ b ∈ (convertRoot first r).value.walk, marker? b = none := by
  have h : Settled (convertRoot first r).value.walk := settled_convertAll first r.children
  refine ⟨?_, h⟩
  have := convertAll_of_settled second (convertRoot first r).value.children h
  rw [convertRoot, this]
  rfl

end Marginalia.Callout
