/-
Marginalia.Proofs.Json.Layout — the compact and the indented text as two
layouts of one text.

The two texts of a value differ in blanks only. A `Layout` says which blanks
stand before an item, a member or a closing bracket, and behind a colon;
`laidOut` is the text with a layout. Whatever is proved of reading a text
with any layout is proved of both (`compactChars_eq`, `prettyChars_eq`).

Beside it stands `nesting`, the number of arrays and objects inside one
another, which readers bound.
-/
import Marginalia.Json.Draft

namespace Marginalia.Json

/-! ## 1. Layouts -/

/-- Where the blanks of a text stand. -/
structure Layout where
  /-- The blanks before an item, a member or a closing bracket at a depth. -/
  line : Nat → List Char
  /-- The blanks behind a colon. -/
  gap : List Char
  /-- They are blanks. -/
  line_blank : ∀ depth, ∀ c ∈ line depth, isBlank c = true
  /-- They are blanks. -/
  gap_blank : ∀ c ∈ gap, isBlank c = true

/-- No blanks at all. -/
def Layout.compact : Layout where
  line _ := []
  gap := []
  line_blank := by simp
  gap_blank := by simp

/-- An item or a member a line, with an indent. -/
def Layout.pretty : Layout where
  line := newline
  gap := [' ']
  line_blank depth c hc := by
    rcases List.mem_cons.1 hc with rfl | hc
    · decide
    · rw [List.eq_of_mem_replicate hc]
      decide
  gap_blank c hc := by
    rw [List.mem_singleton.1 hc]
    decide

/-! ## 2. Texts -/

variable (L : Layout)

mutual

/-- The text of a value at a depth. -/
def laidOut (depth : Nat) : Json → List Char
  | .null => ['n', 'u', 'l', 'l']
  | .bool true => ['t', 'r', 'u', 'e']
  | .bool false => ['f', 'a', 'l', 's', 'e']
  | .number n => n.text
  | .text s => quoted s
  | .arr [] => ['[', ']']
  | .arr (item :: items) =>
    '[' :: (L.line (depth + 1) ++ laidOut (depth + 1) item ++ laidOutItems (depth + 1) items
      ++ L.line depth ++ [']'])
  | .obj [] => ['\x7b', '\x7d']
  | .obj ((key, value) :: ms) =>
    '\x7b' :: (L.line (depth + 1) ++ quoted key ++ ':' :: L.gap ++ laidOut (depth + 1) value
      ++ laidOutMembers (depth + 1) ms ++ L.line depth ++ ['\x7d'])

/-- The items after the first, each behind a comma. -/
def laidOutItems (depth : Nat) : List Json → List Char
  | [] => []
  | item :: items => ',' :: L.line depth ++ laidOut depth item ++ laidOutItems depth items

/-- The members after the first, each behind a comma. -/
def laidOutMembers (depth : Nat) : List (String × Json) → List Char
  | [] => []
  | (key, value) :: ms =>
    ',' :: L.line depth ++ quoted key ++ ':' :: L.gap ++ laidOut depth value
      ++ laidOutMembers depth ms

end

mutual

theorem compactChars_eq (depth : Nat) : ∀ j : Json, j.compactChars = laidOut .compact depth j
  | .null | .bool true | .bool false | .number _ | .text _ | .arr [] | .obj [] => rfl
  | .arr (item :: items) => by
      simp [compactChars, laidOut, Layout.compact, compactChars_eq (depth + 1) item,
        compactItems_eq (depth + 1) items]
  | .obj ((key, value) :: ms) => by
      simp [compactChars, compactMember, laidOut, Layout.compact,
        compactChars_eq (depth + 1) value, compactMembers_eq (depth + 1) ms]

theorem compactItems_eq (depth : Nat) : ∀ items : List Json,
    compactItems items = laidOutItems .compact depth items
  | [] => rfl
  | item :: items => by
      simp [compactItems, laidOutItems, Layout.compact, compactChars_eq depth item,
        compactItems_eq depth items]

theorem compactMembers_eq (depth : Nat) : ∀ ms : List (String × Json),
    compactMembers ms = laidOutMembers .compact depth ms
  | [] => rfl
  | (key, value) :: ms => by
      simp [compactMembers, compactMember, laidOutMembers, Layout.compact,
        compactChars_eq depth value, compactMembers_eq depth ms]

end

mutual

theorem prettyChars_eq (depth : Nat) :
    ∀ j : Json, j.prettyChars depth = laidOut .pretty depth j
  | .null | .bool true | .bool false | .number _ | .text _ | .arr [] | .obj [] => rfl
  | .arr (item :: items) => by
      simp [prettyChars, laidOut, Layout.pretty, prettyChars_eq (depth + 1) item,
        prettyItems_eq (depth + 1) items]
  | .obj ((key, value) :: ms) => by
      simp [prettyChars, prettyMember, laidOut, Layout.pretty,
        prettyChars_eq (depth + 1) value, prettyMembers_eq (depth + 1) ms]

theorem prettyItems_eq (depth : Nat) : ∀ items : List Json,
    prettyItems depth items = laidOutItems .pretty depth items
  | [] => rfl
  | item :: items => by
      simp [prettyItems, laidOutItems, Layout.pretty, prettyChars_eq depth item,
        prettyItems_eq depth items]

theorem prettyMembers_eq (depth : Nat) : ∀ ms : List (String × Json),
    prettyMembers depth ms = laidOutMembers .pretty depth ms
  | [] => rfl
  | (key, value) :: ms => by
      simp [prettyMembers, prettyMember, laidOutMembers, Layout.pretty,
        prettyChars_eq depth value, prettyMembers_eq depth ms]

end

/-! ## 3. Nesting -/

mutual

/-- The number of arrays and objects inside one another. -/
def nesting : Json → Nat
  | .arr items => nestingItems items + 1
  | .obj ms => nestingMembers ms + 1
  | _ => 0

/-- The deepest nesting among items. -/
def nestingItems : List Json → Nat
  | [] => 0
  | j :: js => max j.nesting (nestingItems js)

/-- The deepest nesting among the values of members. -/
def nestingMembers : List (String × Json) → Nat
  | [] => 0
  | (_, j) :: ms => max j.nesting (nestingMembers ms)

end

theorem nestingMembers_append : ∀ ms ns : List (String × Json),
    nestingMembers (ms ++ ns) = max (nestingMembers ms) (nestingMembers ns)
  | [], _ => by simp [nestingMembers]
  | (_, j) :: ms, ns => by
      rw [List.cons_append, nestingMembers, nestingMembers, nestingMembers_append ms ns,
        Nat.max_assoc]

end Marginalia.Json
