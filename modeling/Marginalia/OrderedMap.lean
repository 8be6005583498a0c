/-
Marginalia.OrderedMap — finite maps from texts, in order of arrival.

An entry's place is the place of its last insertion: inserting a key that
is already there takes the old entry out and puts the new one at the end.
No key occurs twice, and the type carries the proof.

Main statements: `lookup_filter_ne` (taking a key's entries out leaves the
other keys alone), `get?_insert_self`, `get?_insert_of_ne` (insertion changes
one key), `keys_insert` (where the keys stand after it).
-/

namespace Marginalia

/-! ## 1. Entries under keys -/

section Entries

variable {κ α : Type} [BEq κ]

theorem lookup_snoc (es : List (κ × α)) (key k : κ) (v : α) :
    (es ++ [(k, v)]).lookup key = (es.lookup key).or (if key == k then some v else none) := by
  induction es with
  | nil => cases h : key == k <;> simp [List.lookup_cons, h]
  | cons e es ih =>
    obtain ⟨k', v'⟩ := e
    cases h : key == k' <;> simp [List.lookup_cons, h, ih]

variable [LawfulBEq κ]

/-- Taking the entries of one key out changes no other key. -/
theorem lookup_filter_ne (es : List (κ × α)) {key other : κ} (h : other ≠ key) :
    (es.filter (·.1 != key)).lookup other = es.lookup other := by
  induction es with
  | nil => rfl
  | cons e es ih =>
    obtain ⟨k, v⟩ := e
    by_cases hk : k = key
    · subst hk
      have : (other == k) = false := by simpa using h
      simp [List.lookup_cons, this, ih]
    · by_cases ho : other = k <;> simp [hk, List.lookup_cons, ho, ih]

theorem lookup_filter_self (es : List (κ × α)) (key : κ) :
    (es.filter (·.1 != key)).lookup key = none := by
  induction es with
  | nil => rfl
  | cons e es ih =>
    obtain ⟨k, v⟩ := e
    by_cases hk : k = key
    · subst hk; simpa using ih
    · have : (key == k) = false := by simpa using Ne.symm hk
      simp [hk, List.lookup_cons, this, ih]

end Entries

/-! ## 2. The type -/

/-- A map from texts in order of arrival. -/
structure OrderedMap (α : Type) where
  /-- The entries, oldest first. -/
  entries : List (String × α)
  /-- No key occurs twice. -/
  nodup_keys : (entries.map Prod.fst).Nodup := by simp

namespace OrderedMap

variable {α : Type}

@[ext] theorem ext {m n : OrderedMap α} (h : m.entries = n.entries) : m = n := by
  cases m; cases n; simp_all

/-- The map without entries. -/
def empty : OrderedMap α := { entries := [] }

instance : Inhabited (OrderedMap α) := ⟨empty⟩

/-- Does the map have no entry? -/
def isEmpty (m : OrderedMap α) : Bool := m.entries.isEmpty

/-- The keys in order of arrival. -/
def keys (m : OrderedMap α) : List String := m.entries.map Prod.fst

/-- The value under a key. -/
def get? (m : OrderedMap α) (key : String) : Option α := m.entries.lookup key

/-- The map without the entry of a key. -/
def erase (m : OrderedMap α) (key : String) : OrderedMap α where
  entries := m.entries.filter (·.1 != key)
  nodup_keys := m.nodup_keys.sublist (List.filter_sublist.map _)

/-- The map with one entry put at the end, in place of any older one of its
key. -/
def insert (m : OrderedMap α) (key : String) (value : α) : OrderedMap α where
  entries := (m.erase key).entries ++ [(key, value)]
  nodup_keys := by
    rw [List.map_append, List.nodup_append]
    refine ⟨(m.erase key).nodup_keys, by simp, ?_⟩
    simp only [erase, List.mem_map, List.mem_filter, bne_iff_ne, List.map_cons, List.map_nil,
      List.mem_singleton]
    rintro _ ⟨e, ⟨_, he⟩, rfl⟩ _ rfl
    exact he

/-- The map that arises from inserting the pairs one after the other. -/
def ofList (pairs : List (String × α)) : OrderedMap α :=
  pairs.foldl (fun m e => m.insert e.1 e.2) empty

/-! ## 3. Insertion -/

@[simp] theorem entries_empty : (empty : OrderedMap α).entries = [] := rfl

@[simp] theorem entries_insert (m : OrderedMap α) (key : String) (value : α) :
    (m.insert key value).entries = m.entries.filter (·.1 != key) ++ [(key, value)] := rfl

theorem keys_insert (m : OrderedMap α) (key : String) (value : α) :
    (m.insert key value).keys = m.keys.filter (· != key) ++ [key] := by
  simp [keys, List.filter_map, Function.comp_def]

/-- A new key goes to the end and moves nothing. -/
theorem entries_insert_of_not_mem (m : OrderedMap α) {key : String} (h : key ∉ m.keys)
    (value : α) : (m.insert key value).entries = m.entries ++ [(key, value)] := by
  rw [entries_insert, List.filter_eq_self.2]
  intro e he
  simp only [bne_iff_ne]
  rintro rfl
  exact h (List.mem_map.2 ⟨e, he, rfl⟩)

@[simp] theorem get?_insert_self (m : OrderedMap α) (key : String) (value : α) :
    (m.insert key value).get? key = some value := by
  simp [get?, lookup_snoc, lookup_filter_self]

theorem get?_insert_of_ne (m : OrderedMap α) {key other : String} (h : other ≠ key)
    (value : α) : (m.insert key value).get? other = m.get? other := by
  have : (other == key) = false := by simpa using h
  simp [get?, lookup_snoc, lookup_filter_ne _ h, this]

end OrderedMap

end Marginalia
