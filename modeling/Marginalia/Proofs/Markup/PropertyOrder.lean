/-
Marginalia.Proofs.Markup.PropertyOrder — where properties stand after calls that
set them.

`setAll_properties`: after any calls, the properties that no call has set come
first, in the order they had, and behind them those that were set, in the order
of their last calls. No key is there twice. The value under a key is that of the
last call for it, or the one it had before. The attributes of a block are
written in this order.

So setting a property that is there already moves it behind all others: it does
not keep the place at which it was inserted first (`setAll_moves_key`). The order
of first insertions (`firstOrder`) is kept through all of the calls exactly when
each of them sets a property that is new or that stands last (`OnlyLast`).

All is shown of maps and of one insertion after the other; setting a property is
inserting it.
-/
import Mathlib.Data.List.Dedup
import Marginalia.Proofs.Markup.MergedAttributes

namespace Marginalia

/-! ## 1. Insertions one after the other -/

namespace OrderedMap

variable {α : Type}

/-- The map after insertions, one after the other. -/
def insertAll (m : OrderedMap α) (es : List (String × α)) : OrderedMap α :=
  es.foldl (fun m e => m.insert e.1 e.2) m

/-- Keys that are not inserted come first, and the others in the order of their
last insertions. -/
theorem keys_insertAll (m : OrderedMap α) (es : List (String × α)) :
    (m.insertAll es).keys
      = m.keys.filter (· ∉ es.map Prod.fst) ++ (es.map Prod.fst).dedup := by
  induction es generalizing m with
  | nil => simp [insertAll]
  | cons e es ih =>
    obtain ⟨name, value⟩ := e
    have hstep : m.insertAll ((name, value) :: es) = (m.insert name value).insertAll es := rfl
    have hfilter : m.keys.filter (· ∉ name :: es.map Prod.fst)
        = (m.keys.filter (· != name)).filter (· ∉ es.map Prod.fst) := by
      rw [List.filter_filter]
      refine List.filter_congr fun key _ => ?_
      simp [bne, Bool.and_comm]
    rw [hstep, ih, keys_insert, List.filter_append, List.map_cons, ← hfilter,
      List.append_assoc]
    by_cases hname : name ∈ es.map Prod.fst
    · rw [List.dedup_cons_of_mem hname, List.filter_cons_of_neg (by simpa using hname)]
      rfl
    · rw [List.dedup_cons_of_notMem hname, List.filter_cons_of_pos (by simpa using hname)]
      rfl

/-- The value under a key is the one inserted last. -/
theorem get?_insertAll (m : OrderedMap α) (es : List (String × α)) (key : String) :
    (m.insertAll es).get? key = (es.reverse.lookup key).or (m.get? key) := by
  induction es generalizing m with
  | nil => rfl
  | cons e es ih =>
    obtain ⟨name, value⟩ := e
    have hstep : m.insertAll ((name, value) :: es) = (m.insert name value).insertAll es := rfl
    rw [hstep, ih, List.reverse_cons, List.lookup_append, Option.or_assoc]
    by_cases hkey : key = name
    · simp [hkey]
    · have hbeq : (key == name) = false := by simpa using hkey
      simp [get?_insert_of_ne m hkey, List.lookup_cons, hbeq]

end OrderedMap

/-! ## 2. The order of first insertions -/

/-- The keys with one more: a new one goes to the end, and one that is there stays
where it is. -/
def addKey (keys : List String) (name : String) : List String :=
  if name ∈ keys then keys else keys ++ [name]

/-- The keys in the order in which they were inserted first. -/
def firstOrder (keys names : List String) : List String := names.foldl addKey keys

/-- Each name, at its turn, is new or stands last. -/
def OnlyLast (keys : List String) : List String → Prop
  | [] => True
  | name :: names =>
    (name ∉ keys ∨ keys.getLast? = some name) ∧ OnlyLast (addKey keys name) names

/-- One insertion keeps the order exactly when its key is new or stands last. -/
theorem keys_insert_eq_addKey_iff (m : OrderedMap String) (name value : String) :
    (m.insert name value).keys = addKey m.keys name
      ↔ name ∉ m.keys ∨ m.keys.getLast? = some name := by
  rw [OrderedMap.keys_insert, addKey]
  by_cases hname : name ∈ m.keys
  · rw [if_pos hname]
    constructor
    · intro h
      rw [← h, List.getLast?_concat]
      exact .inr rfl
    · rintro (hnew | hlast)
      · exact absurd hname hnew
      · obtain ⟨before, hkeys⟩ := List.getLast?_eq_some_iff.1 hlast
        have hnodup : (before ++ [name]).Nodup := hkeys ▸ m.nodup_keys
        have hout : name ∉ before := fun hin =>
          (List.nodup_append.1 hnodup).2.2 name hin name (List.mem_singleton.2 rfl) rfl
        have hbefore : before.filter (· != name) = before := by
          refine List.filter_eq_self.2 fun key hkey => ?_
          rw [bne_iff_ne]
          rintro rfl
          exact hout hkey
        rw [hkeys, List.filter_append, hbefore]
        simp
  · have hall : m.keys.filter (· != name) = m.keys := by
      refine List.filter_eq_self.2 fun key hkey => ?_
      rw [bne_iff_ne]
      rintro rfl
      exact hname hkey
    rw [if_neg hname, hall]
    exact iff_of_true rfl (.inl hname)

/-- The order of first insertions is kept at all times exactly when only new and
last keys are inserted. -/
theorem keeps_firstOrder_iff (m : OrderedMap String) (calls : List (String × String)) :
    (∀ n, (m.insertAll (calls.take n)).keys = firstOrder m.keys ((calls.map Prod.fst).take n))
      ↔ OnlyLast m.keys (calls.map Prod.fst) := by
  induction calls generalizing m with
  | nil => simp [OrderedMap.insertAll, firstOrder, OnlyLast]
  | cons call calls ih =>
    have hfirst := keys_insert_eq_addKey_iff m call.1 call.2
    have hrest := ih (m.insert call.1 call.2)
    rw [List.map_cons, OnlyLast, ← hfirst]
    constructor
    · intro h
      have hkeys : (m.insert call.1 call.2).keys = addKey m.keys call.1 := h 1
      rw [hkeys] at hrest
      exact ⟨hkeys, hrest.1 fun n => h (n + 1)⟩
    · rintro ⟨hkeys, hlast⟩ n
      rw [hkeys] at hrest
      cases n with
      | zero => rfl
      | succ n => exact hrest.2 hlast n

namespace Data

/-! ## 3. Calls -/

/-- The data after calls that set properties, one after the other. -/
def setAll (d : Data) (calls : List (String × String)) : Data :=
  calls.foldl (fun d call => d.setProperty call.1 call.2) d

theorem setAll_eq (d : Data) (calls : List (String × String)) :
    d.setAll calls = { d with properties := d.properties.insertAll calls } := by
  induction calls generalizing d with
  | nil => rfl
  | cons call calls ih =>
    have hstep : d.setAll (call :: calls) = (d.setProperty call.1 call.2).setAll calls := rfl
    rw [hstep, ih]
    rfl

/-- **The order of properties.** After calls that set properties, those that no
call has set stand first, as they stood, and the others behind them, by their last
calls. No key is there twice; each has the value of the last call for it, or else
the one it had; and nothing but properties is changed. The attributes of a tag are
those of its element and behind them the properties in this order. The order of
first insertions is kept at all times exactly when each call sets a property that
is new or stands last. -/
theorem setAll_properties (d : Data) (calls : List (String × String)) :
    let names := calls.map Prod.fst
    let after := d.setAll calls
    after.properties.keys = d.properties.keys.filter (· ∉ names) ++ names.dedup
      ∧ after.properties.keys.Nodup
      ∧ (∀ name, after.properties.get? name
          = (calls.reverse.lookup name).or (d.properties.get? name))
      ∧ (after.elementName = d.elementName ∧ after.extra = d.extra)
      ∧ (∀ (tag : String) (own : List Markup.Attribute), ∃ as : List Markup.Attribute,
          Markup.openTag tag own after = .openTag tag as
            ∧ as.map Prod.fst
              = own.map Prod.fst
                ++ ((after.properties.keys.map Markup.attributeName).filter
                    (· ∉ own.map Prod.fst)).eraseDups)
      ∧ ((∀ n, (d.setAll (calls.take n)).properties.keys
            = firstOrder d.properties.keys (names.take n))
          ↔ OnlyLast d.properties.keys names) := by
  intro names after
  have hproperties : ∀ calls : List (String × String),
      (d.setAll calls).properties = d.properties.insertAll calls := by
    intro calls
    rw [setAll_eq]
  have hafter : after.properties = d.properties.insertAll calls := hproperties calls
  refine ⟨?_, after.properties.nodup_keys, fun name => ?_, ?_, fun tag own => ⟨_, rfl, ?_⟩, ?_⟩
  · rw [hafter, OrderedMap.keys_insertAll]
  · rw [hafter, OrderedMap.get?_insertAll]
  · simp only [after, setAll_eq, and_self]
  · rw [Markup.map_fst_mergeAttributes, Markup.writtenNames, OrderedMap.keys, List.map_map]
    rfl
  · simp only [hproperties]
    exact keeps_firstOrder_iff d.properties calls

/-- A property that is set again moves behind the others, and so does its attribute. -/
theorem setAll_moves_key :
    let calls := [("id", "intro"), ("className", "note"), ("id", "outro")]
    firstOrder [] (calls.map Prod.fst) = ["id", "className"]
      ∧ (none.setAll calls).properties.keys = ["className", "id"]
      ∧ (Markup.openTag "p" [] (none.setAll calls)).chars
        = "<p class=\"note\" id=\"outro\">".toList
      ∧ ¬ ∀ (d : Data) (calls : List (String × String)),
          (d.setAll calls).properties.keys
            = firstOrder d.properties.keys (calls.map Prod.fst) := by
  intro calls
  have hfirst : firstOrder [] (calls.map Prod.fst) = ["id", "className"] := by decide
  have hkeys : (none.setAll calls).properties.keys = ["className", "id"] := by decide
  refine ⟨hfirst, hkeys, by decide, fun hall => ?_⟩
  have hsame : ["className", "id"] = ["id", "className"] :=
    hkeys.symm.trans ((hall none calls).trans hfirst)
  revert hsame
  decide

end Data

end Marginalia
