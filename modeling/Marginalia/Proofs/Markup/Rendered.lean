/-
Marginalia.Proofs.Markup.Rendered — HTML, put together from its parts.

Pieces are written one behind the other, and so an element with lines is
written as its opening tag, its lines, each with a line end behind it, and
its closing tag (`render_container`). The lines of a sequence of blocks are
those of its parts (`lines_append`), and a block that is shown is written as
its pieces when it stands alone (`ofBlocks_singleton`).
-/
import Marginalia.Markup.OfTree

namespace Marginalia.Markup

/-! ## 1. Escapes -/

/-- A value without the characters to escape is written as it stands. -/
theorem escapeAttribute_eq_self {s : List Char} (h : ∀ c ∈ s, c ≠ '&' ∧ c ≠ '"') :
    escapeAttribute s = s := by
  induction s with
  | nil => rfl
  | cons c s ih =>
    obtain ⟨hc, hs⟩ := List.forall_mem_cons.1 h
    rw [escapeAttribute, List.flatMap_cons, ← escapeAttribute, ih hs, escapeAttributeChar,
      if_neg hc.1, if_neg hc.2, List.singleton_append]

/-! ## 2. Elements -/

theorem render_newline : render [.newline] = "\n" := rfl

theorem render_closeTag (name : String) : render [.closeTag name] = "</" ++ name ++ ">" := by
  rw [← String.toList_inj]
  simp [render, renderChars, Piece.chars]

theorem render_onLines (ls : List (List Piece)) :
    render (ls.flatMap (· ++ [.newline]))
      = String.join (ls.map fun l => render l ++ "\n") := by
  induction ls with
  | nil => rfl
  | cons l ls ih =>
    rw [List.flatMap_cons, render_append, render_append, render_newline, ih, List.map_cons,
      String.join_cons]

theorem render_container (name : String) (own : List Attribute) (d : Data)
    (ls : List (List Piece)) :
    render (container name own d ls)
      = render [openTag name own d] ++ "\n" ++ String.join (ls.map fun l => render l ++ "\n")
          ++ "</" ++ name ++ ">" := by
  have hpieces : container name own d ls
      = [openTag name own d] ++ [.newline] ++ ls.flatMap (· ++ [.newline])
        ++ [.closeTag name] := by
    simp [container]
  rw [hpieces, render_append, render_append, render_append, render_newline, render_onLines,
    render_closeTag]
  simp only [String.append_assoc]

/-! ## 3. Blocks -/

theorem ofBlocks_singleton (raw : Bool) {b : Block} (hs : isShown raw b = true) :
    ofBlocks raw [b] = render (blockPieces raw b) := by
  rw [ofBlocks, blocksPieces, lines, if_pos hs, lines, joinLines]

theorem lines_append (raw : Bool) (bs cs : List Block) :
    lines raw (bs ++ cs) = lines raw bs ++ lines raw cs := by
  induction bs with
  | nil => rfl
  | cons b bs ih => cases hs : isShown raw b <;> simp [lines, hs, ih]

end Marginalia.Markup
