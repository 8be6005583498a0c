/-
Marginalia.Proofs.Json.Sorted — sorting the objects of a value.

A value is `Ordered` when the keys of every object in it increase strictly,
which is how a map that is kept in the order of its keys is written. Sorting
gives such a value (`ordered_sorted`) and leaves it alone
(`sorted_of_ordered`), so what a reader has sorted is sorted once and for all.
-/
import Mathlib.Data.String.Basic
import Marginalia.Json.Value

namespace Marginalia.Json

/-! ## 1. Ordered values -/

/-- The keys of the members increase strictly. -/
def KeysIncrease (ms : List (String × Json)) : Prop := (ms.map Prod.fst).Pairwise (· < ·)

mutual

/-- The keys of every object in the value increase strictly. -/
def Ordered : Json → Prop
  | .arr js => OrderedItems js
  | .obj ms => KeysIncrease ms ∧ OrderedMembers ms
  | _ => True

/-- Every item is ordered. -/
def OrderedItems : List Json → Prop
  | [] => True
  | j :: js => j.Ordered ∧ OrderedItems js

/-- Every member's value is ordered. -/
def OrderedMembers : List (String × Json) → Prop
  | [] => True
  | (_, j) :: ms => j.Ordered ∧ OrderedMembers ms

end

mutual

/-- Whether a value is ordered can be checked. -/
def decideOrdered : ∀ j : Json, Decidable j.Ordered
  | .arr js => decideOrderedItems js
  | .obj ms =>
    @instDecidableAnd _ _ (inferInstanceAs (Decidable (List.Pairwise _ _)))
      (decideOrderedMembers ms)
  | .null | .bool _ | .number _ | .text _ => .isTrue trivial

/-- Whether items are ordered can be checked. -/
def decideOrderedItems : ∀ js : List Json, Decidable (OrderedItems js)
  | [] => .isTrue trivial
  | j :: js => @instDecidableAnd _ _ (decideOrdered j) (decideOrderedItems js)

/-- Whether the values of members are ordered can be checked. -/
def decideOrderedMembers : ∀ ms : List (String × Json), Decidable (OrderedMembers ms)
  | [] => .isTrue trivial
  | (_, j) :: ms => @instDecidableAnd _ _ (decideOrdered j) (decideOrderedMembers ms)

end

instance : DecidablePred Ordered := decideOrdered

/-! ## 2. One member put into sorted ones -/

/-- A key above all the others goes to the end. -/
theorem insertSorted_above {key : String} (value : Json) : ∀ {ms : List (String × Json)},
    (∀ e ∈ ms, e.1 < key) → insertSorted key value ms = ms ++ [(key, value)]
  | [], _ => rfl
  | (k, v) :: ms, h => by
      obtain ⟨hk, hms⟩ := List.forall_mem_cons.1 h
      have hne : key ≠ k := fun h => String.lt_irrefl k (h ▸ hk)
      rw [insertSorted, if_neg (String.lt_asymm hk), if_neg hne, insertSorted_above value hms]
      rfl

theorem mem_insertSorted {key : String} {value : Json} {e : String × Json} :
    ∀ {ms : List (String × Json)}, e ∈ insertSorted key value ms → e = (key, value) ∨ e ∈ ms
  | [], h => .inl (List.mem_singleton.1 h)
  | (k, v) :: ms, h => by
      rw [insertSorted] at h
      split at h
      · exact List.mem_cons.1 h
      split at h
      · exact (List.mem_cons.1 h).imp_right (List.mem_cons_of_mem _)
      · rcases List.mem_cons.1 h with rfl | h
        · exact .inr List.mem_cons_self
        · exact (mem_insertSorted h).imp_right (List.mem_cons_of_mem _)

theorem keysIncrease_cons {key : String} {value : Json} {ms : List (String × Json)} :
    KeysIncrease ((key, value) :: ms) ↔ (∀ e ∈ ms, key < e.1) ∧ KeysIncrease ms := by
  simp [KeysIncrease]

theorem keysIncrease_insertSorted (key : String) (value : Json) :
    ∀ {ms : List (String × Json)}, KeysIncrease ms → KeysIncrease (insertSorted key value ms)
  | [], _ => by simp [insertSorted, KeysIncrease]
  | (k, v) :: ms, h => by
      obtain ⟨hk, hms⟩ := keysIncrease_cons.1 h
      rw [insertSorted]
      split
      · rename_i hlt
        refine keysIncrease_cons.2 ⟨?_, h⟩
        exact List.forall_mem_cons.2 ⟨hlt, fun e he => String.lt_trans hlt (hk e he)⟩
      split
      · rename_i heq
        exact keysIncrease_cons.2 ⟨fun e he => heq ▸ hk e he, hms⟩
      · rename_i hlt hne
        refine keysIncrease_cons.2 ⟨fun e he => ?_, keysIncrease_insertSorted key value hms⟩
        rcases mem_insertSorted he with rfl | he
        · exact lt_of_le_of_ne (not_lt.1 hlt) (Ne.symm hne)
        · exact hk e he

theorem orderedMembers_insertSorted (key : String) {value : Json} (hv : value.Ordered) :
    ∀ {ms : List (String × Json)}, OrderedMembers ms →
      OrderedMembers (insertSorted key value ms)
  | [], _ => ⟨hv, trivial⟩
  | (k, v) :: ms, h => by
      rw [insertSorted]
      split
      · exact ⟨hv, h⟩
      split
      · exact ⟨hv, h.2⟩
      · exact ⟨h.1, orderedMembers_insertSorted key hv h.2⟩

/-! ## 3. Sorting -/

mutual

/-- A sorted value is ordered. -/
theorem ordered_sorted : ∀ j : Json, j.sorted.Ordered
  | .null | .bool _ | .number _ | .text _ => trivial
  | .arr js => orderedItems_sortedItems js
  | .obj ms => ordered_sortedMembers ms List.Pairwise.nil trivial

theorem orderedItems_sortedItems : ∀ js : List Json, OrderedItems (sortedItems js)
  | [] => trivial
  | j :: js => ⟨ordered_sorted j, orderedItems_sortedItems js⟩

theorem ordered_sortedMembers : ∀ (ms : List (String × Json)) {acc : List (String × Json)},
    KeysIncrease acc → OrderedMembers acc → (Json.obj (sortedMembers acc ms)).Ordered
  | [], _, hk, hm => ⟨hk, hm⟩
  | (key, j) :: ms, _, hk, hm =>
      ordered_sortedMembers ms (keysIncrease_insertSorted key _ hk)
        (orderedMembers_insertSorted key (ordered_sorted j) hm)

end

mutual

/-- Sorting leaves an ordered value alone. -/
theorem sorted_of_ordered : ∀ {j : Json}, j.Ordered → j.sorted = j
  | .null, _ | .bool _, _ | .number _, _ | .text _, _ => rfl
  | .arr _, h => congrArg Json.arr (sortedItems_of_ordered h)
  | .obj _, h => congrArg Json.obj (sortedMembers_of_ordered h.1 h.2)

theorem sortedItems_of_ordered : ∀ {js : List Json}, OrderedItems js → sortedItems js = js
  | [], _ => rfl
  | _ :: _, h => by
      rw [sortedItems, sorted_of_ordered h.1, sortedItems_of_ordered h.2]

theorem sortedMembers_of_ordered : ∀ {ms acc : List (String × Json)},
    KeysIncrease (acc ++ ms) → OrderedMembers ms → sortedMembers acc ms = acc ++ ms
  | [], acc, _, _ => (List.append_nil acc).symm
  | (key, j) :: ms, acc, hk, hm => by
      have hbelow : ∀ e ∈ acc, e.1 < key := by
        intro e he
        rw [KeysIncrease, List.map_append, List.pairwise_append] at hk
        exact hk.2.2 e.1 (List.mem_map_of_mem he) key List.mem_cons_self
      rw [sortedMembers, insertMember, sorted_of_ordered hm.1, insertSorted_above j hbelow,
        sortedMembers_of_ordered (by simpa using hk) hm.2]
      simp

end

end Marginalia.Json
