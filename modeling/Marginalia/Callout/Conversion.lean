/-
Marginalia.Callout.Conversion — quotes with a marker become callouts.

A quote is marked when its first child is a paragraph whose first inline is
a text that starts with a marker. It becomes a callout of the marker's
kind: the marker and the blanks behind it are cut from the text, a text
left empty is taken out, and so is a paragraph left empty. The callout
carries the quote's data with the element name and the class set.

`convertAll` goes through a tree from the top: a quote is converted first,
and then the blocks inside the result are visited, so that a nested quote
is judged by its own first paragraph. It ends because cutting a marker
never makes a block larger (`weight_convert`). Each conversion is noted in
the log by the callout's kind.

Main statements: `weightAll_splice`, `weight_convert`.
-/
import Marginalia.Callout.Marker
import Marginalia.Traced
import Marginalia.Tree.Walk

namespace Marginalia.Callout

/-! ## 1. One quote -/

/-- The element callouts are written as unless told otherwise. -/
def defaultElement : String := "aside"

/-- The text that the first paragraph of a sequence starts with. -/
def leadingText? : List Block → Option String
  | .paragraph (.text s :: _) _ :: _ => some s
  | _ => none

/-- The marker that a sequence of blocks starts with. -/
def leadingMarker? (children : List Block) : Option Marker :=
  (leadingText? children).bind fun s => Marker.parse? s.toList

/-- The blocks with their first text replaced by the body behind its marker.
An empty body leaves no text, and no paragraph if it held nothing else. -/
def splice (body : List Char) : List Block → List Block
  | .paragraph (_ :: inlines) d :: rest =>
    match body, inlines with
    | [], [] => rest
    | [], inlines => .paragraph inlines d :: rest
    | body, inlines => .paragraph (.text (String.ofList body) :: inlines) d :: rest
  | blocks => blocks

/-- What a callout of some kind carries. -/
def mergeData (element kind : String) (d : Data) : Data :=
  (d.setElementName (some element)).setProperty Data.classProperty kind

/-- A quote as a callout, if it is marked; otherwise the quote itself. The
kind of a callout is noted. -/
def convertQuote (element : String) (children : List Block) (d : Data) : Traced String Block :=
  match leadingMarker? children with
  | some m => do
    Traced.note m.kindName
    return .callout m.kindName (splice m.body children) (mergeData element m.kindName d)
  | none => return .quote children d

/-- A quote as a callout, if it is marked; nested blocks are not visited. -/
def ofQuote (element : String) (children : List Block) (d : Data) : Block :=
  (convertQuote element children d).value

/-- A block, converted if it is a marked quote. -/
def convert (element : String) : Block → Traced String Block
  | .quote children d => convertQuote element children d
  | b => return b

/-! ## 2. Weight -/

mutual

/-- The number of blocks and items that a block consists of. -/
def weight : Block → Nat
  | .quote cs _ => weightAll cs + 1
  | .callout _ cs _ => weightAll cs + 1
  | .list _ _ _ is _ => weightItems is + 1
  | .paragraph .. | .heading .. | .code .. | .rule .. | .html .. => 1

/-- The number of blocks and items in a sequence of blocks. -/
def weightAll : List Block → Nat
  | [] => 0
  | b :: bs => weight b + weightAll bs + 1

/-- The number of blocks and items in a sequence of items. -/
def weightItems : List Item → Nat
  | [] => 0
  | i :: is => weightItem i + weightItems is + 1

/-- The number of blocks and items that an item consists of. -/
def weightItem : Item → Nat
  | .mk _ cs _ => weightAll cs + 1

end

/-- Cutting a marker makes a sequence no heavier. -/
theorem weightAll_splice (body : List Char) (bs : List Block) :
    weightAll (splice body bs) ≤ weightAll bs := by
  unfold splice
  split
  · split
    · simp [weightAll]
      omega
    · simp [weightAll, weight]
    · simp [weightAll, weight]
  · exact Nat.le_refl _

/-- Converting a block makes it no heavier. -/
theorem weight_convert (element : String) (b : Block) :
    weight (convert element b).value ≤ weight b := by
  cases b with
  | quote cs d =>
    simp only [convert, convertQuote]
    split
    · simpa [weight] using weightAll_splice _ cs
    · exact Nat.le_refl _
  | _ => exact Nat.le_refl _

/-! ## 3. Whole trees -/

mutual

/-- Converts a block and everything inside it: the block is converted, then
the blocks inside the result are visited. -/
def convertWithin (element : String) (b : Block) : Traced String Block :=
  match _h : (convert element b).value with
  | .quote children d => do
    Traced.notes (convert element b).log
    return .quote (← convertAll element children) d
  | .callout kind children d => do
    Traced.notes (convert element b).log
    return .callout kind (← convertAll element children) d
  | .list ordered start spread items d => do
    Traced.notes (convert element b).log
    return .list ordered start spread (← convertItems element items) d
  | _ => convert element b
termination_by weight b
decreasing_by
  all_goals
    have := weight_convert element b
    rw [_h] at this
    simp only [weight] at this
    omega

/-- Converts the blocks of a sequence and everything inside them. -/
def convertAll (element : String) (blocks : List Block) : Traced String (List Block) :=
  match blocks with
  | [] => return []
  | b :: bs => do
    let b ← convertWithin element b
    let bs ← convertAll element bs
    return b :: bs
termination_by weightAll blocks
decreasing_by all_goals simp only [weightAll]; omega

/-- Converts everything inside the items of a sequence. -/
def convertItems (element : String) (items : List Item) : Traced String (List Item) :=
  match items with
  | [] => return []
  | .mk spread children d :: rest => do
    let children ← convertAll element children
    let rest ← convertItems element rest
    return .mk spread children d :: rest
termination_by weightItems items
decreasing_by all_goals simp only [weightItems, weightItem]; omega

end

/-- Converts the quotes of a document, at every depth. -/
def convertRoot (element : String) (r : Root) : Traced String Root := do
  return ⟨← convertAll element r.children⟩

/-- The words of the log for a conversion. -/
def noteMessage (kind : String) : String :=
  "TRACE Converted block quote to callout callout_type=" ++ kind

end Marginalia.Callout
