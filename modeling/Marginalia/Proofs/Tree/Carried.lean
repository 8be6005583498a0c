/-
Marginalia.Proofs.Tree.Carried — everything that a tree carries.

What the blocks and the items of a tree carry for their writers, in
document order. A condition on the data of a whole tree is a condition on
the members of this list; walking a tree would miss the items, which are
no blocks. Where a condition is known of each block of a walk and of the
items that it holds, it is known of all that the tree carries
(`exists_of_mem_carried`).
-/
import Marginalia.Tree.Walk

namespace Marginalia

mutual

/-- What a block and the blocks and items inside it carry. -/
def Block.carried : Block → List Data
  | .quote cs d | .callout _ cs d => d :: carriedAll cs
  | .list _ _ _ is d => d :: carriedItems is
  | .paragraph _ d | .heading _ _ d | .code _ _ _ d | .rule d | .html _ d => [d]

/-- What blocks and all inside them carry. -/
def carriedAll : List Block → List Data
  | [] => []
  | b :: bs => b.carried ++ carriedAll bs

/-- What items and all inside them carry. -/
def carriedItems : List Item → List Data
  | [] => []
  | .mk _ cs d :: is => d :: carriedAll cs ++ carriedItems is

end

/-- What the blocks and items of a document carry. -/
def Root.carried (r : Root) : List Data := carriedAll r.children

/-- What a block and its items carry, without the blocks inside them. -/
def Block.ownData : Block → List Data
  | .list _ _ _ is d => d :: is.map Item.data
  | .paragraph _ d | .heading _ _ d | .quote _ d | .callout _ _ d | .code _ _ _ d | .rule d
  | .html _ d => [d]

mutual

theorem exists_of_mem_carried : ∀ b : Block, ∀ d ∈ b.carried, ∃ b' ∈ b.walk, d ∈ b'.ownData
  | .quote cs d | .callout _ cs d => by
      intro d' hd'
      rcases List.mem_cons.1 hd' with rfl | hd'
      · exact ⟨_, List.mem_cons_self, List.mem_cons_self⟩
      · obtain ⟨b, hb, hown⟩ := exists_of_mem_carriedAll cs d' hd'
        exact ⟨b, List.mem_cons_of_mem _ hb, hown⟩
  | .list _ _ _ is d => by
      intro d' hd'
      rcases List.mem_cons.1 hd' with rfl | hd'
      · exact ⟨_, List.mem_cons_self, List.mem_cons_self⟩
      · rcases exists_of_mem_carriedItems is d' hd' with hitem | ⟨b, hb, hown⟩
        · exact ⟨_, List.mem_cons_self, List.mem_cons_of_mem _ hitem⟩
        · exact ⟨b, List.mem_cons_of_mem _ hb, hown⟩
  | .paragraph .. | .heading .. | .code .. | .rule .. | .html .. =>
      fun _ hd' => ⟨_, List.mem_cons_self, hd'⟩

theorem exists_of_mem_carriedAll : ∀ bs : List Block, ∀ d ∈ carriedAll bs,
    ∃ b ∈ walkAll bs, d ∈ b.ownData
  | [], _, hd => nomatch hd
  | b :: bs, d, hd => by
      rcases List.mem_append.1 hd with hd | hd
      · obtain ⟨b', hb', hown⟩ := exists_of_mem_carried b d hd
        exact ⟨b', List.mem_append_left _ hb', hown⟩
      · obtain ⟨b', hb', hown⟩ := exists_of_mem_carriedAll bs d hd
        exact ⟨b', List.mem_append_right _ hb', hown⟩

theorem exists_of_mem_carriedItems : ∀ is : List Item, ∀ d ∈ carriedItems is,
    d ∈ is.map Item.data ∨ ∃ b ∈ walkItems is, d ∈ b.ownData
  | [], _, hd => nomatch hd
  | .mk _ cs own :: is, d, hd => by
      rcases List.mem_cons.1 hd with rfl | hd
      · exact .inl List.mem_cons_self
      · rcases List.mem_append.1 hd with hd | hd
        · obtain ⟨b, hb, hown⟩ := exists_of_mem_carriedAll cs d hd
          exact .inr ⟨b, List.mem_append_left _ hb, hown⟩
        · rcases exists_of_mem_carriedItems is d hd with hitem | ⟨b, hb, hown⟩
          · exact .inl (List.mem_cons_of_mem _ hitem)
          · exact .inr ⟨b, List.mem_append_right _ hb, hown⟩

end

end Marginalia
