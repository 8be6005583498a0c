/-
Marginalia.Markdown.Outliner — reading the lines of a text into an outline.

While lines are read the blocks that may still grow are open. Each open
block but the document is the last child of another open block, so they
form a spine. A line first goes down the spine as far as the open blocks
continue on it; the others are left hanging. Then it may open new blocks,
and what remains of it is text. Hanging blocks are closed when the line
opens a block or has text of its own, and stay open when the text lazily
continues a paragraph at the tip.
-/
import Marginalia.Markdown.Cursor
import Marginalia.Markdown.Definition
import Marginalia.Markdown.LineStart

namespace Marginalia.Markdown

/-! ## 1. Lines -/

/-- The lines of a text, each with one line feed at its end. Lines end at line
feeds, carriage returns and pairs of these; NUL is replaced by U+FFFD. -/
def linesOf : List Char → List (List Char)
  | [] => []
  | '\r' :: '\n' :: cs => ['\n'] :: linesOf cs
  | c :: cs =>
    if c == '\n' || c == '\r' then ['\n'] :: linesOf cs
    else
      let c := if c.toNat = 0 then '\uFFFD' else c
      match linesOf cs with
      | [] => [[c, '\n']]
      | line :: lines => (c :: line) :: lines

/-! ## 2. Open blocks -/

/-- A block that may still grow. Lines and children stand newest first. -/
structure OpenBlock where
  shape : Shape
  /-- The number of the line that opened the block. -/
  firstLine : Nat
  lines : List (List Char) := []
  blankAfter : Bool := false
  children : List Outline := []

namespace OpenBlock

/-- The text of the block so far. -/
def text (b : OpenBlock) : List Char := b.lines.reverse.flatten

/-- Is the first line of a text blank? -/
def startsBlank (s : List Char) : Bool :=
  match s.dropWhile Text.isSpaceOrTab with
  | [] => true
  | c :: _ => c == '\n'

/-- The block as it stands. -/
def toOutline (b : OpenBlock) (tight : Bool) : Outline :=
  .mk b.shape b.lines.reverse b.blankAfter tight b.children.reverse

/-- The closed block. A paragraph gives up its leading definitions, and goes
with them if nothing else is left. -/
def close (b : OpenBlock) (tight : Bool) (d : Definitions) : Definitions × Option Outline :=
  if b.shape = .paragraph then
    let (d, rest) := takeDefinitions d b.text
    (d, if startsBlank rest then none else some ({ b with lines := [rest] }.toOutline tight))
  else (d, some (b.toOutline tight))

end OpenBlock

/-- The open blocks on the way to the tip. -/
structure Spine where
  tip : OpenBlock
  /-- The blocks around the tip, from the inside out. -/
  outer : List OpenBlock

namespace Spine

/-- The spine with one more block at its tip. -/
def push (s : Spine) (b : OpenBlock) : Spine := ⟨b, s.tip :: s.outer⟩

/-- The spine with more blocks, from the outside in. -/
def pushAll (s : Spine) (bs : List OpenBlock) : Spine := bs.foldl push s

/-- The tip as an item of its parent, and the parent as tip. The block around
all others stays. -/
def closeTip (s : Spine) (tight : Bool) (d : Definitions) : Spine × Definitions :=
  match s.outer with
  | [] => (s, d)
  | parent :: outer =>
    let (d, closed) := s.tip.close tight d
    (⟨{ parent with children := closed.toList ++ parent.children }, outer⟩, d)

/-- Is the list at the tip tight by the blocks it has? -/
def tipIsTight (s : Spine) : Bool := Outline.itemsTight s.tip.children.reverse

/-- The spine with its tip closed, and the `n` blocks around it. -/
def closeTips : Nat → Spine → Definitions → Spine × Definitions
  | 0, s, d => (s, d)
  | n + 1, s, d =>
    let (s, d) := s.closeTip s.tipIsTight d
    closeTips n s d

end Spine

/-! ## 3. A line on its way -/

/-- How a line stands to an open block. -/
inductive Continues where
  /-- The block goes on, with the rest of the line. -/
  | yes (place : Cursor)
  | no
  /-- The line is the last one of the block. -/
  | closing

/-- The place behind up to `n` spaces and tabs, counted by columns. -/
def Cursor.dedent (n : Nat) (c : Cursor) : Cursor := c.skipBlankColumns n

/-- Does the block go on with the line? -/
def OpenBlock.continues (b : OpenBlock) (hasChild : Bool) (c : Cursor) : Continues :=
  match b.shape with
  | .document | .list _ | .rule => .yes c
  | .quote =>
    if c.indent ≤ 3 && c.content.head? == some '>' then
      .yes ((c.toContent.skip 1).skipBlankColumns 1)
    else .no
  | .item offset width =>
    if c.indent ≥ offset + width then .yes (c.skipColumns (offset + width))
    else if c.isBlank && hasChild then .yes c.toContent
    else .no
  | .indentedCode =>
    if c.indent ≥ 4 then .yes (c.skipColumns 4)
    else if c.isBlank then .yes c.toContent
    else .no
  | .fencedCode fence length offset =>
    if c.indent ≤ 3 && LineStart.closesFence fence length c.content then .closing
    else .yes (c.dedent offset)
  | .html start => if start.endsBeforeBlank && c.isBlank then .no else .yes c
  | .paragraph => if c.isBlank then .no else .yes c
  | .heading _ => .no

/-- A line on its way: where it is in the spine and in itself. -/
structure Passage where
  spine : Spine
  /-- The open blocks below the spine that the line does not continue, from
  the outside in. -/
  hanging : List OpenBlock := []
  place : Cursor
  definitions : Definitions
  /-- The number of the line. -/
  number : Nat
  /-- Is the line done with? -/
  finished : Bool := false

namespace Passage

/-- Goes down the open blocks as far as they continue. -/
def descend (p : Passage) : List OpenBlock → Passage
  | [] => p
  | b :: bs => match b.continues (!b.children.isEmpty || !bs.isEmpty) p.place with
    | .yes place => descend { p with spine := p.spine.push b, place } bs
    | .no => { p with hanging := b :: bs }
    | .closing =>
      let (spine, definitions) := (p.spine.push b).closeTip true p.definitions
      { p with spine, definitions, finished := true }

/-- Closes the hanging blocks. -/
def settle (p : Passage) : Passage :=
  let (spine, definitions) :=
    Spine.closeTips p.hanging.length (p.spine.pushAll p.hanging) p.definitions
  { p with spine, definitions, hanging := [] }

/-- The hanging blocks as they stand, as one outline. -/
def hangingOutline : List OpenBlock → List Outline
  | [] => []
  | b :: bs => [{ b with children := hangingOutline bs ++ b.children }.toOutline true]

/-- Closes the hanging blocks and, if a block of the shape cannot stand in the
tip, the tip. Whether a list is tight is seen before its hanging blocks are
closed. -/
def makeRoom (p : Passage) (shape : Shape) : Passage :=
  if p.spine.tip.shape.holds shape then p.settle
  else
    let tight := Outline.itemsTight (p.spine.tip.children.reverse ++ hangingOutline p.hanging)
    let q := p.settle
    let (spine, definitions) := q.spine.closeTip tight q.definitions
    { q with spine, definitions }

/-- Opens a block and goes on from a place. -/
def opened (p : Passage) (shape : Shape) (place : Cursor) : Passage :=
  let p := p.makeRoom shape
  { p with spine := p.spine.push { shape, firstLine := p.number }, place }

/-- The innermost open block. -/
def innermost (p : Passage) : OpenBlock := p.hanging.getLast?.getD p.spine.tip

/-! ## 4. Opening blocks -/

/-- The most blocks that one line opens before it opens no more lists. -/
def maxListDepth : Nat := 100

/-- Opens an item, and a list around it unless the tip is one it belongs to. -/
def openItem (p : Passage) (marker : Marker) (length : Nat) : Passage :=
  let behind := p.place.toContent.skip length
  let content := behind.skipBlankColumns 6
  let blanks := content.column - behind.column
  let (width, place) :=
    if 1 ≤ blanks && blanks ≤ 4 && !content.atEnd then (length + blanks, content)
    else (length + 1, if blanks > 0 then behind.skipColumns 1 else behind)
  let item := Shape.item p.place.indent width
  match p.spine.tip.shape with
  | .list other =>
    if other.sameKind marker then p.opened item place
    else (p.opened (.list marker) place).opened item place
  | _ => (p.opened (.list marker) place).opened item place

/-- Makes the paragraph at the tip a heading, if more than definitions is left
of it; without that it stays a paragraph and the line is text of it. -/
def underlined (p : Passage) (level : Nat) : Passage :=
  let (definitions, rest) := takeDefinitions p.definitions p.spine.tip.text
  if OpenBlock.startsBlank rest then
    { p with definitions, spine.tip.lines := [rest] }
  else
    { p with
      definitions
      spine.tip.lines := [rest]
      spine.tip.shape := .heading level
      place := p.place.skip (p.place.rest.length - 1) }

/-- Opens the block that starts at the content of the line, if one does. -/
def openNext? (p : Passage) (depth : Nat) (mayBeLazy : Bool) : Option Passage :=
  let c := p.place
  let s := c.content
  let inParagraph := p.spine.tip.shape == .paragraph
  if c.indent ≥ 4 then
    if mayBeLazy || c.isBlank then none else some (p.opened .indentedCode (c.skipColumns 4))
  else if s.head? == some '>' then
    some (p.opened .quote ((c.toContent.skip 1).skipBlankColumns 1))
  else if let some (level, length) := LineStart.heading? s then
    some (p.opened (.heading level) (c.toContent.skip length))
  else if let some (fence, length) := LineStart.fence? s then
    some (p.opened (.fencedCode fence length (c.rest.length - s.length))
      (c.toContent.skip length))
  else if let some start := Tag.blockStart? (!inParagraph) s then
    some (p.opened (.html start) c)
  else if let some level := if inParagraph then LineStart.underline? s else none then
    some (p.underlined level)
  else if LineStart.isRule s then
    some (p.opened .rule (c.skip (c.rest.length - 1)))
  else if let some (marker, length) := LineStart.marker? inParagraph s then
    if depth < maxListDepth then some (p.openItem marker length) else none
  else none

/-- Opens blocks, at most `n`, until one takes the rest of the line. -/
def openAll (n depth : Nat) (mayBeLazy : Bool) (p : Passage) : Passage :=
  match n with
  | 0 => p
  | n + 1 =>
    if p.spine.tip.shape.isVerbatim then p
    else match p.openNext? depth mayBeLazy with
      | none => p
      | some q => if q.spine.tip.shape.takesText then q else openAll n (depth + 1) false q

/-! ## 5. Text -/

/-- Notes where blank lines are. -/
def markBlank (p : Passage) : Passage :=
  let blank := p.place.isBlank
  let tip := p.spine.tip
  let after := blank && match tip.shape with
    | .quote | .heading _ | .rule | .fencedCode .. => false
    | .item .. => !tip.children.isEmpty || !p.hanging.isEmpty || tip.firstLine != p.number
    | _ => true
  let children := match p.hanging, tip.children with
    | [], o :: os => if blank then o.withBlankAfter :: os else o :: os
    | _, os => os
  let hanging := match p.hanging with
    | b :: bs => { b with blankAfter := b.blankAfter || blank } :: bs
    | [] => []
  { p with
    hanging
    spine :=
      { tip := { tip with blankAfter := after, children }
        outer := p.spine.outer.map fun b => { b with blankAfter := false } } }

/-- Adds a line to the tip. -/
def addLine (p : Passage) (line : List Char) : Passage :=
  { p with spine.tip.lines := line :: p.spine.tip.lines }

/-- Gives the rest of the line to the block it belongs to. -/
def addText (p : Passage) : Passage :=
  let p := p.markBlank
  let c := p.place
  if !p.hanging.isEmpty && !c.isBlank && p.innermost.shape == .paragraph then
    { p with spine := p.spine.pushAll p.hanging, hanging := [] }.addLine c.text
  else
    let p := p.settle
    match p.spine.tip.shape with
    | .indentedCode | .fencedCode .. => p.addLine c.text
    | .html start =>
      let p := p.addLine c.text
      if start.endsOn c.content then
        let (spine, definitions) := p.spine.closeTip true p.definitions
        { p with spine, definitions }
      else p
    | .heading _ => if c.isBlank then p else p.addLine (LineStart.headingText c.content)
    | .paragraph => if c.isBlank then p else p.addLine c.content
    | _ => if c.isBlank then p else (p.opened .paragraph c).addLine c.content

end Passage

/-! ## 6. All lines -/

/-- What has been read of a text: the spine, the definitions, and the number
of lines. -/
structure Outliner where
  spine : Spine := ⟨{ shape := .document, firstLine := 0 }, []⟩
  definitions : Definitions := {}
  count : Nat := 0

namespace Outliner

/-- Reads one more line. -/
def readLine (o : Outliner) (line : List Char) : Outliner :=
  let all := (o.spine.tip :: o.spine.outer).reverse
  let document := all.headD o.spine.tip
  let start : Passage :=
    { spine := ⟨document, []⟩, place := ⟨line, 0, false⟩, definitions := o.definitions
      number := o.count + 1 }
  let p := start.descend all.tail
  let p :=
    if p.finished then p
    else (p.openAll (line.length + 1) 1 (p.innermost.shape == .paragraph)).addText
  ⟨p.spine, p.definitions, p.number⟩

/-- The blocks read, all closed, and the definitions. -/
def finish (o : Outliner) : List Outline × Definitions :=
  let (spine, definitions) := o.spine.closeTips o.spine.outer.length o.definitions
  (spine.tip.children.reverse, definitions)

end Outliner

/-- The outline of a text, and the definitions in it. A byte order mark in
front is skipped. -/
def outline (text : List Char) : List Outline × Definitions :=
  let text := match text with
    | '\uFEFF' :: rest => rest
    | _ => text
  ((linesOf text).foldl Outliner.readLine {}).finish

end Marginalia.Markdown
