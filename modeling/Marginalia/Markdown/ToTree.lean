/-
Marginalia.Markdown.ToTree — documents from parse trees.

A node becomes a block or an inline according to where it stands: below
the document, a quote or an item of a list, nodes become blocks; below a
paragraph or an inline, inlines. A node that has no counterpart there is
dropped with everything below it, and the log says so; front matter is
dropped silently. Every child of a list becomes an item, whatever it is.

Adjacent texts become one text, with a soft line break as a line feed and
an escaped character as itself.

Main statements: `isMerged_mergeTexts` (no two texts stay side by side),
`mergeTexts_append_congr` (a sequence may be joined in parts).
-/
import Marginalia.Markdown.Node
import Marginalia.Text.Blank
import Marginalia.Traced
import Marginalia.Tree.Basic

namespace Marginalia.Markdown

/-! ## 1. Texts -/

/-- Puts an inline before others, joining it to the first when both are
texts. -/
def consInline : Inline → List Inline → List Inline
  | .text s, .text t :: rest => .text (s ++ t) :: rest
  | i, rest => i :: rest

/-- The inlines with adjacent texts joined. -/
def mergeTexts : List Inline → List Inline
  | [] => []
  | i :: is => consInline i (mergeTexts is)

/-- Do no two texts stand side by side? -/
def isMerged : List Inline → Bool
  | .text _ :: .text _ :: _ => false
  | _ :: rest => isMerged rest
  | [] => true

private theorem isMerged_consInline (i : Inline) (is : List Inline) (h : isMerged is = true) :
    isMerged (consInline i is) = true := by
  unfold consInline
  split
  · next s t rest =>
    cases rest with
    | nil => rfl
    | cons j rest => cases j <;> simp_all [isMerged]
  · next hne =>
    cases is with
    | nil => cases i <;> rfl
    | cons j rest =>
      cases i <;> cases j <;> simp_all [isMerged]

/-- No two texts stay side by side. -/
theorem isMerged_mergeTexts (is : List Inline) : isMerged (mergeTexts is) = true := by
  induction is with
  | nil => rfl
  | cons i is ih => exact isMerged_consInline i _ ih

/-- Two texts are put before others one by one, or joined first. -/
theorem consInline_text_text (s t : String) (is : List Inline) :
    consInline (.text s) (consInline (.text t) is) = consInline (.text (s ++ t)) is := by
  cases is with
  | nil => rfl
  | cons i is => cases i <;> simp [consInline, String.append_assoc]

theorem mergeTexts_consInline_append (i : Inline) (is js : List Inline) :
    mergeTexts (consInline i is ++ js) = consInline i (mergeTexts (is ++ js)) := by
  unfold consInline
  split
  · next s t rest =>
    change consInline (.text (s ++ t)) (mergeTexts (rest ++ js))
      = consInline (.text s) (consInline (.text t) (mergeTexts (rest ++ js)))
    rw [consInline_text_text]
  · rfl

theorem mergeTexts_mergeTexts_append (is js : List Inline) :
    mergeTexts (mergeTexts is ++ js) = mergeTexts (is ++ js) := by
  induction is with
  | nil => rfl
  | cons i is ih =>
    rw [mergeTexts, mergeTexts_consInline_append, ih, List.cons_append, mergeTexts]

theorem mergeTexts_append_of_eq {js js' : List Inline} (h : mergeTexts js = mergeTexts js')
    (is : List Inline) : mergeTexts (is ++ js) = mergeTexts (is ++ js') := by
  induction is with
  | nil => exact h
  | cons i is ih => rw [List.cons_append, mergeTexts, ih, List.cons_append, mergeTexts]

/-- Joining texts on both sides of a seam first changes nothing. -/
theorem mergeTexts_append_congr {is is' js js' : List Inline}
    (h : mergeTexts is = mergeTexts is') (h' : mergeTexts js = mergeTexts js') :
    mergeTexts (is ++ js) = mergeTexts (is' ++ js') := by
  rw [← mergeTexts_mergeTexts_append, h, mergeTexts_mergeTexts_append,
    mergeTexts_append_of_eq h']

/-- Texts side by side become one. -/
theorem mergeTexts_texts (part : String) (parts : List String) :
    mergeTexts ((part :: parts).map .text) = [.text (String.join (part :: parts))] := by
  induction parts generalizing part with
  | nil => simp [mergeTexts, consInline]
  | cons next parts ih =>
    rw [List.map_cons, mergeTexts, ih next, consInline, ← String.join_cons]

/-- A text, or nothing for an empty one. -/
def nonEmpty (s : String) : Option String := if s.isEmpty then none else some s

/-- A text without its final line feed, if it has one. -/
def dropFinalNewline (s : String) : String := String.ofList (Text.dropFinalNewline s.toList)

/-! ## 2. Alternative texts -/

mutual

/-- The literal text of a node and everything below it. -/
def plainText : Node → String
  | .mk (.text s) cs => s ++ plainTexts cs
  | .mk (.code s) cs => s ++ plainTexts cs
  | .mk .softBreak cs => "\n" ++ plainTexts cs
  | .mk .lineBreak cs => "\n" ++ plainTexts cs
  | .mk _ cs => plainTexts cs

/-- The literal text of nodes and everything below them. -/
def plainTexts : List Node → String
  | [] => ""
  | n :: ns => plainText n ++ plainTexts ns

end

/-! ## 3. Inlines -/

/-- What the log notes: a node was dropped where blocks, or where inlines
are expected. -/
inductive Dropped where
  | block
  | inline
  deriving DecidableEq, Repr

/-- The line of the log for a dropped node. -/
def Dropped.message : Dropped → String
  | .block => "WARN Dropping unsupported block node"
  | .inline => "WARN Dropping unsupported inline node"

mutual

/-- The inlines that a node becomes, before texts are joined. -/
def inlinesOf : Node → Traced Dropped (List Inline)
  | .mk (.text s) _ => return [.text s]
  | .mk .softBreak _ => return [.text "\n"]
  | .mk .lineBreak _ => return [.lineBreak]
  | .mk (.code s) _ => return [.code s]
  | .mk .emph cs => do return [.emphasis (mergeTexts (← inlinesOfAll cs))]
  | .mk .strong cs => do return [.strong (mergeTexts (← inlinesOfAll cs))]
  | .mk .strikethrough cs => do return [.delete (mergeTexts (← inlinesOfAll cs))]
  | .mk (.link url title) cs => do
    return [.link url (nonEmpty title) (mergeTexts (← inlinesOfAll cs))]
  | .mk (.image url title) cs => return [.image url (nonEmpty title) (plainTexts cs)]
  | .mk (.htmlInline s) _ => return [.html s]
  | .mk .escaped cs => inlinesOfAll cs
  | .mk _ _ => do
    Traced.note .inline
    return []

/-- The inlines that nodes become, before texts are joined. -/
def inlinesOfAll : List Node → Traced Dropped (List Inline)
  | [] => return []
  | n :: ns => do
    let is ← inlinesOf n
    let js ← inlinesOfAll ns
    return is ++ js

end

/-- The inlines that nodes become. -/
def toInlines (ns : List Node) : Traced Dropped (List Inline) := do
  return mergeTexts (← inlinesOfAll ns)

/-! ## 4. Blocks -/

/-- The first word of the info text of code, and the rest of it. -/
def splitInfo (info : String) : Option String × Option String :=
  let s := Text.trim info.toList
  let word := s.takeWhile (!Text.isBlank ·)
  let rest := Text.trim (s.dropWhile (!Text.isBlank ·))
  (nonEmpty (String.ofList word), nonEmpty (String.ofList rest))

mutual

/-- The block that a node becomes, if it becomes one. -/
def blockOf : Node → Traced Dropped (Option Block)
  | .mk .paragraph cs => do return some (.paragraph (← toInlines cs) .none)
  | .mk (.heading level) cs => do return some (.heading level (← toInlines cs) .none)
  | .mk (.codeBlock info literal) _ =>
    let (language, details) := splitInfo info
    return some (.code language details (dropFinalNewline literal) .none)
  | .mk .blockQuote cs => do return some (.quote (← blocksOf cs) .none)
  | .mk (.list ordered start tight) cs => do
    return some (.list ordered (if ordered then some start else none) (!tight)
      (← itemsOf (!tight) cs) .none)
  | .mk .thematicBreak _ => return some (.rule .none)
  | .mk (.htmlBlock literal) _ => return some (.html (dropFinalNewline literal) .none)
  | .mk (.frontMatter _) _ => return none
  | .mk _ _ => do
    Traced.note .block
    return none

/-- The blocks that nodes become. -/
def blocksOf : List Node → Traced Dropped (List Block)
  | [] => return []
  | n :: ns => do
    let b ← blockOf n
    let bs ← blocksOf ns
    return b.toList ++ bs

/-- The items that the children of a list become. -/
def itemsOf (spread : Bool) : List Node → Traced Dropped (List Item)
  | [] => return []
  | n :: ns => do
    let i ← itemOf spread n
    let is ← itemsOf spread ns
    return i :: is

/-- The item that a child of a list becomes. -/
def itemOf (spread : Bool) : Node → Traced Dropped Item
  | .mk _ cs => do return .mk spread (← blocksOf cs) .none

end

@[simp] theorem blocksOf_nil : (blocksOf []).value = [] := rfl

@[simp] theorem blocksOf_cons (n : Node) (ns : List Node) :
    (blocksOf (n :: ns)).value = (blockOf n).value.toList ++ (blocksOf ns).value := rfl

@[simp] theorem blockOf_paragraph (ns : List Node) :
    (blockOf (.mk .paragraph ns)).value = some (.paragraph (toInlines ns).value .none) := rfl

@[simp] theorem blockOf_blockQuote (ns : List Node) :
    (blockOf (.mk .blockQuote ns)).value = some (.quote (blocksOf ns).value .none) := rfl

@[simp] theorem blockOf_thematicBreak (ns : List Node) :
    (blockOf (.mk .thematicBreak ns)).value = some (.rule .none) := rfl

@[simp] theorem blockOf_htmlBlock (literal : String) (ns : List Node) :
    (blockOf (.mk (.htmlBlock literal) ns)).value
      = some (.html (dropFinalNewline literal) .none) := rfl

theorem blockOf_heading (level : UInt8) (ns : List Node) :
    (blockOf (.mk (.heading level) ns)).value
      = some (.heading level (toInlines ns).value .none) := rfl

theorem blockOf_codeBlock (info literal : String) (cs : List Node) :
    (blockOf (.mk (.codeBlock info literal) cs)).value
      = some (.code (splitInfo info).1 (splitInfo info).2
        (dropFinalNewline literal) .none) := by
  -- Without `delta` the match on the split info stands in the way of `rfl`.
  delta blockOf
  rfl

theorem blockOf_list (ordered : Bool) (start : UInt64) (tight : Bool) (cs : List Node) :
    (blockOf (.mk (.list ordered start tight) cs)).value
      = some (.list ordered (if ordered then some start else none) (!tight)
          (itemsOf (!tight) cs).value .none) := rfl

@[simp] theorem blockOf_table (ns : List Node) : (blockOf (.mk .table ns)).value = none := rfl

theorem itemsOf_cons (spread : Bool) (kind : Kind) (cs ns : List Node) :
    (itemsOf spread (.mk kind cs :: ns)).value
      = .mk spread (blocksOf cs).value .none :: (itemsOf spread ns).value := rfl

/-! ## 5. Documents -/

/-- The words for a parse tree that does not start at a document. -/
def notADocument : String := "Expected Document node at root"

/-- The document with the blocks that nodes become. -/
def rootOf (cs : List Node) : Traced Dropped Root := do return ⟨← blocksOf cs⟩

@[simp] theorem value_rootOf (cs : List Node) :
    (rootOf cs).value = ⟨(blocksOf cs).value⟩ := rfl

/-- The document of a parse tree that starts at one. -/
def toRoot? : Node → Option (Traced Dropped Root)
  | .mk .document cs => some (rootOf cs)
  | _ => none

end Marginalia.Markdown
