/-
Marginalia.Markdown.Emphasis — emphasis from runs of delimiters.

Running text is first read into pieces: finished nodes, and runs of
asterisks, underscores or tildes that may open or close emphasis. Going
from left to right, a run that may close looks back for the nearest run of
its character that may open; both give one or two of their characters to
the emphasis between them. A run that may both open and close matches only
if the lengths of the two runs do not sum to a multiple of three, or both
are such multiples. What is not used is text.
-/
import Marginalia.Markdown.Node
import Marginalia.Text.Category
import Marginalia.Text.Blank

namespace Marginalia.Markdown

/-! ## 1. Pieces -/

/-- A run of delimiters. -/
structure DelimiterRun where
  char : Char
  /-- The length it was written with. -/
  length : Nat
  /-- How many of its characters are not used yet. -/
  left : Nat
  canOpen : Bool
  canClose : Bool
  deriving Repr

/-- A piece of running text. -/
inductive Piece where
  | node (n : Node)
  | run (r : DelimiterRun)
  deriving Repr

/-- A text as a node. -/
def textNode (s : List Char) : Node := .leaf (.text (String.ofList s))

namespace DelimiterRun

/-- The run that stands between two characters; `none` at the ends of the
text, which count as blank. -/
def between (char : Char) (length : Nat) (before after : Option Char) : DelimiterRun :=
  let isBlank (c : Option Char) : Bool := c.all Text.isBlank
  let isMark (c : Option Char) : Bool := c.any Text.isMark
  let leftFlanking := !isBlank after && (!isMark after || isBlank before || isMark before)
  let rightFlanking := !isBlank before && (!isMark before || isBlank after || isMark after)
  let (canOpen, canClose) :=
    if char == '_' then
      (leftFlanking && (!rightFlanking || isMark before),
        rightFlanking && (!leftFlanking || isMark after))
    else (leftFlanking, rightFlanking)
  { char, length, left := length, canOpen, canClose }

/-- Does a run that may open match one that may close? -/
def opens (r closer : DelimiterRun) : Bool :=
  r.canOpen && r.char == closer.char &&
    (!(closer.canOpen || r.canClose) || (r.length + closer.length) % 3 != 0
      || (r.length % 3 == 0 && closer.length % 3 == 0))

/-- What is left of the run as text. -/
def toNode (r : DelimiterRun) : Node := textNode (List.replicate r.left r.char)

end DelimiterRun

namespace Piece

/-- The piece as a node: a run is text. -/
def toNode : Piece → Node
  | .node n => n
  | .run r => r.toNode

end Piece

/-! ## 2. Matching -/

/-- The pieces read so far, newest first, cut at the nearest run that opens a
match: what is behind it in reading order, the run, and what is before it. -/
def cutAtOpener? (closer : DelimiterRun) :
    List Piece → List Node → Option (List Node × DelimiterRun × List Piece)
  | [], _ => none
  | .run r :: before, inner =>
    if r.opens closer then some (inner, r, before)
    else cutAtOpener? closer before (r.toNode :: inner)
  | .node n :: before, inner => cutAtOpener? closer before (n :: inner)

/-- What became of a run that may close. -/
structure Closing where
  /-- The pieces up to the run, newest first. -/
  pieces : List Piece
  /-- Does all matching stop here? -/
  stopped : Bool := false

/-- The pieces with nothing left of a run. -/
def consRun (r : DelimiterRun) (pieces : List Piece) : List Piece :=
  if r.left = 0 then pieces else .run r :: pieces

/-- Matches a run that may close against the pieces before it, up to `n`
times. Tildes match only if both runs are used up; where they would not be,
no more matches are made. -/
def closeRun : Nat → DelimiterRun → List Piece → Closing
  | 0, _, before => { pieces := before }
  | n + 1, r, before =>
    match cutAtOpener? r before [] with
    | none =>
      { pieces := (if r.canOpen then .run r else .node r.toNode) :: before }
    | some (inner, opener, rest) =>
      let used := if r.left ≥ 2 && opener.left ≥ 2 then 2 else 1
      let openerLeft := opener.left - used
      let closerLeft := r.left - used
      if r.char == '~' && (openerLeft != 0 || closerLeft != 0) then
        { pieces := .run r :: before, stopped := true }
      else
        let kind : Kind :=
          if r.char == '~' then .strikethrough else if used = 1 then .emph else .strong
        let pieces := .node (.mk kind inner) :: consRun { opener with left := openerLeft } rest
        if closerLeft = 0 then { pieces }
        else closeRun n { r with left := closerLeft } pieces

/-- The nodes that pieces become, `before` newest first and already matched. -/
def resolveFrom (before : List Piece) : List Piece → List Node
  | [] => before.reverse.map Piece.toNode
  | .node n :: rest => resolveFrom (.node n :: before) rest
  | .run r :: rest =>
    if r.canClose then
      let c := closeRun r.left r before
      if c.stopped then c.pieces.reverse.map Piece.toNode ++ rest.map Piece.toNode
      else resolveFrom c.pieces rest
    else resolveFrom (.run r :: before) rest

/-- The nodes that pieces become when all runs are matched. -/
def resolve (pieces : List Piece) : List Node := resolveFrom [] pieces

end Marginalia.Markdown
