/-
Marginalia.Markdown.Running — reading running text.

Running text is read from left to right into pieces. Brackets are kept on a
stack with the pieces before them: a closing bracket that has a target makes
its pieces a link or an image, and one that has none leaves both brackets as
text. Runs of delimiters are matched where a link closes and at the end.
-/
import Marginalia.Markdown.BareLink
import Marginalia.Markdown.CodeSpan
import Marginalia.Markdown.Definition
import Marginalia.Markdown.Tag

namespace Marginalia.Markdown

/-! ## 1. What is known while reading -/

/-- A bracket that is open. -/
structure Bracket where
  image : Bool
  /-- The text from behind the bracket on. -/
  source : List Char
  /-- The pieces before it, newest first, up to the next bracket around it. -/
  pieces : List Piece
  /-- Was another bracket opened behind it? -/
  hasInner : Bool := false

/-- A place in running text, with what was read before it. -/
structure Running where
  /-- The text read, newest character first. -/
  before : List Char := []
  rest : List Char
  /-- The pieces since the innermost open bracket, newest first. -/
  pieces : List Piece := []
  /-- The open brackets, innermost first. -/
  brackets : List Bracket := []
  /-- Did a link close since the last bracket opened? No bracket around it
  makes another link. -/
  linkClosed : Bool := false
  /-- Was the last bracket an opening one? -/
  inBrackets : Bool := false
  /-- The kinds of markup that have no end from here on. -/
  unended : Tag.Unended := {}
  /-- What is known of the runs of backquotes. -/
  backquotes : Backquotes := {}
  /-- How many more bytes targets of references may take. -/
  budget : Nat

namespace Running

/-- The place `n` characters on. -/
def advance (n : Nat) (r : Running) : Running :=
  { r with before := (r.rest.take n).reverse ++ r.before, rest := r.rest.drop n }

/-- One more piece. -/
def push (p : Piece) (r : Running) : Running := { r with pieces := p :: r.pieces }

/-- One more node. -/
def pushNode (n : Node) (r : Running) : Running := r.push (.node n)

/-- One more text. -/
def pushText (s : List Char) (r : Running) : Running := r.pushNode (textNode s)

/-- The next `n` characters as text. -/
def takeText (n : Nat) (r : Running) : Running := (r.pushText (r.rest.take n)).advance n

/-- Was a hard line break the last thing read? -/
def atLineBreak (r : Running) : Bool :=
  match r.pieces with
  | .node n :: _ => n.kind == .lineBreak
  | _ => false

/-! ## 2. Text and line ends -/

/-- The characters at which text is cut. -/
def isSpecial (gfm : Bool) (c : Char) : Bool :=
  "\n*_\"\x60'\\&<[]!".toList.contains c || (gfm && (c == ':' || c == 'w' || c == '~'))

/-- Reads text up to the next special character. Blanks go before a line end
and behind a hard line break. -/
def readText (gfm : Bool) (r : Running) : Running :=
  let s := r.rest.takeWhile (!isSpecial gfm ·)
  let next := r.advance s.length
  let s := if next.rest.head? == some '\n' then Text.dropEndWhile Text.isPlainBlank s else s
  let s := if r.atLineBreak then s.dropWhile Text.isPlainBlank else s
  if s.isEmpty then next else next.pushText s

/-- Reads a line end, which is a hard break behind two spaces, and the blanks
behind it. -/
def readLineEnd (r : Running) : Running :=
  let kind : Kind := match r.before with
    | ' ' :: ' ' :: _ => .lineBreak
    | _ => .softBreak
  let next := r.advance 1
  (next.pushNode (.leaf kind)).advance (next.rest.takeWhile Text.isSpaceOrTab).length

/-- Reads a backslash, and the punctuation or line end that it escapes. -/
def readBackslash (r : Running) : Running :=
  match r.rest.drop 1 with
  | '\n' :: _ => (r.pushNode (.leaf .lineBreak)).advance 2
  | c :: _ => if Text.isAsciiPunct c then (r.pushText [c]).advance 2 else r.takeText 1
  | [] => r.takeText 1

/-- Reads a character reference. -/
def readReference (r : Running) : Running :=
  match readEntity? (r.rest.drop 1) with
  | some (chars, n) => (r.pushText chars).advance (n + 1)
  | none => r.takeText 1

/-! ## 3. Code -/

/-- Reads code, or a run of backquotes as text. -/
def readCode (r : Running) : Running :=
  let n := (r.rest.takeWhile (· == '\x60')).length
  let start := r.before.length + n
  if n > maxBackquotes || !r.backquotes.mayBeAhead n start then r.takeText n
  else match r.backquotes.closingEnd? n 0 start (r.rest.drop n) with
    | (some stop, backquotes) =>
      let code := codeText ((r.rest.drop n).take (stop - start - n))
      ({ r with backquotes }.pushNode (.leaf (.code (String.ofList code)))).advance
        (stop - r.before.length)
    | (none, backquotes) => { r with backquotes }.takeText n

/-! ## 4. Angle brackets -/

/-- Reads an address between angle brackets, or raw HTML. -/
def readAngle (r : Running) : Running :=
  let s := r.rest.drop 1
  let shown (n : Nat) := decodeEntities (s.take (n - 1))
  match Tag.absolute.lengthOf? s with
  | some n => (r.pushNode (BareLink.link [] (shown n))).advance (n + 1)
  | none => match Tag.mail.lengthOf? s with
    | some n => (r.pushNode (BareLink.link "mailto:".toList (shown n))).advance (n + 1)
    | none =>
      let (length?, unended) := Tag.markupLength? r.unended s
      let r := { r with unended }
      match length? with
      | some n =>
        (r.pushNode (.leaf (.htmlInline (String.ofList (r.rest.take (n + 1)))))).advance
          (n + 1)
      | none => r.takeText 1

/-! ## 5. Square brackets -/

/-- Opens a bracket that is written with `n` characters. -/
def openBracket (image : Bool) (n : Nat) (r : Running) : Running :=
  let outer := match r.brackets with
    | b :: bs => { b with hasInner := true } :: bs
    | [] => []
  let next := r.advance n
  { next with
    pieces := []
    brackets := { image, source := next.rest, pieces := r.pieces } :: outer
    linkClosed := r.linkClosed && image
    inBrackets := true }

/-- An opening bracket as text. -/
def bracketText (image : Bool) : Piece :=
  .node (textNode (if image then ['!', '['] else ['[']))

/-- The target in round brackets behind a closing bracket, and what follows. -/
def inlineTarget? (s : List Char) : Option (Target × List Char) :=
  let skip (s : List Char) := s.dropWhile Text.isAsciiBlank
  match s with
  | '(' :: r =>
    (readDestination? (skip r)).bind fun (url, afterUrl) =>
      let beforeTitle := skip afterUrl
      let title? := if beforeTitle.length = afterUrl.length then none
        else readTitle? beforeTitle
      let (title, afterTitle) := title?.getD ([], beforeTitle)
      match skip afterTitle with
      | ')' :: rest => some (⟨addressOf url, titleOf title⟩, rest)
      | _ => none
  | _ => none

/-- The label that refers to a definition, from a closing bracket on, and what
follows: the one behind the bracket or, where there is none, the text between
the brackets if it has no brackets itself. -/
def referenceLabel? (b : Bracket) (atClose : List Char) : Option (List Char × List Char) :=
  let inner := b.source.take (b.source.length - atClose.length)
  match readLabel? (atClose.drop 1) with
  | some (label, rest) =>
    if label.isEmpty && !b.hasInner then some (inner, rest) else some (label, rest)
  | none => if b.hasInner then none else some (inner, atClose.drop 1)

/-- The target of the reference that a closing bracket makes, what follows,
and what is left of the budget. -/
def referenceTarget? (d : Definitions) (b : Bracket) (r : Running) :
    Option (Target × List Char × Nat) :=
  (referenceLabel? b r.rest).bind fun (label, rest) =>
    (d.lookup? (normalizeLabel label)).bind fun target =>
      if target.size ≤ r.budget then some (target, rest, r.budget - target.size) else none

/-- Closes the innermost bracket. -/
def closeBracket (d : Definitions) (r : Running) : Running :=
  let r := { r with inBrackets := false }
  match r.brackets with
  | [] => r.takeText 1
  | b :: outer =>
    let asText := { r with
      pieces := r.pieces ++ bracketText b.image :: b.pieces
      brackets := outer }.takeText 1
    if !b.image && r.linkClosed then asText
    else
      let target? := match inlineTarget? (r.rest.drop 1) with
        | some (target, rest) => some (target, rest, r.budget)
        | none => referenceTarget? d b r
      match target? with
      | none => asText
      | some (target, rest, budget) =>
        let url := String.ofList target.url
        let title := String.ofList target.title
        let node : Node :=
          .mk (if b.image then .image url title else .link url title)
            (resolve r.pieces.reverse)
        { r.advance (r.rest.length - rest.length) with
          pieces := .node node :: b.pieces
          brackets := outer
          linkClosed := r.linkClosed || !b.image
          budget }

/-! ## 6. Delimiters and bare links -/

/-- Reads a run of delimiters; tildes are seen through where they are
delimiters too. -/
def readRun (gfm : Bool) (c : Char) (r : Running) : Running :=
  let n := (r.rest.takeWhile (· == c)).length
  let visible (s : List Char) := (if gfm then s.dropWhile (· == '~') else s).head?
  (r.push (.run (.between c n (visible r.before) (visible (r.rest.drop n))))).advance n

/-- The pieces without the last `n` characters of their text. -/
def dropText : Nat → List Piece → List Piece
  | n, .node (.mk (.text s) cs) :: ps =>
    if n < s.length then
      .node (.mk (.text (String.ofList (s.toList.take (s.length - n)))) cs) :: ps
    else dropText (n - s.length) ps
  | _, ps => ps

/-- Reads a colon, and the bare link that it is part of. -/
def readColon (r : Running) : Running :=
  match if r.inBrackets then none else BareLink.atColon? r.before r.rest with
  | some (back, n) =>
    let address := (r.before.take back).reverse ++ r.rest.take n
    { r with pieces := .node (BareLink.link [] address) :: dropText back r.pieces }.advance n
  | none => r.takeText 1

/-- Reads a `w`, and the bare link that it starts. -/
def readW (r : Running) : Running :=
  match if r.inBrackets then none else BareLink.atWww? r.before r.rest with
  | some n => (r.pushNode (BareLink.link "http://".toList (r.rest.take n))).advance n
  | none => r.takeText 1

/-! ## 7. All of it -/

/-- Reads on by at least one character. -/
def step (gfm : Bool) (d : Definitions) (r : Running) : Running :=
  match r.rest with
  | [] => r
  | '\n' :: _ => r.readLineEnd
  | '\x60' :: _ => r.readCode
  | '\\' :: _ => r.readBackslash
  | '&' :: _ => r.readReference
  | '<' :: _ => r.readAngle
  | '*' :: _ => r.readRun gfm '*'
  | '_' :: _ => r.readRun gfm '_'
  | '"' :: _ | '\'' :: _ => r.takeText 1
  | '[' :: _ => r.openBracket false 1
  | ']' :: _ => r.closeBracket d
  | '!' :: '[' :: '^' :: _ => r.takeText 1
  | '!' :: '[' :: _ => r.openBracket true 2
  | '!' :: _ => r.takeText 1
  | c :: _ =>
    if gfm && c == '~' then r.readRun gfm '~'
    else if gfm && c == ':' then r.readColon
    else if gfm && c == 'w' then r.readW
    else r.readText gfm

/-- Reads on until the text ends, in up to `n` steps. -/
def readAll (gfm : Bool) (d : Definitions) : Nat → Running → Running
  | 0, r => r
  | n + 1, r => if r.rest.isEmpty then r else readAll gfm d n (r.step gfm d)

/-- All pieces, newest first; open brackets are text. -/
def allPieces (r : Running) : List Piece :=
  r.brackets.foldl (fun ps b => ps ++ bracketText b.image :: b.pieces) r.pieces

end Running

/-- Puts a node before others, joining it to the first when both are texts. -/
def consNode : Node → List Node → List Node
  | .mk (.text s) cs, .mk (.text t) _ :: rest => .mk (.text (s ++ t)) cs :: rest
  | n, rest => n :: rest

mutual

/-- The node with texts that stand side by side joined, at every depth. -/
def joinTexts : Node → Node
  | .mk kind cs => .mk kind (joinTextsAll cs)

/-- The nodes with texts that stand side by side joined, at every depth. -/
def joinTextsAll : List Node → List Node
  | [] => []
  | n :: ns => consNode (joinTexts n) (joinTextsAll ns)

end

/-- The nodes that running text becomes, and what is left of the budget. -/
def runningNodes (gfm : Bool) (d : Definitions) (budget : Nat) (text : List Char) :
    List Node × Nat :=
  let text := Text.dropEndWhile Text.isPlainBlank text
  let r := Running.readAll gfm d text.length { rest := text, budget }
  let nodes := joinTextsAll (resolve r.allPieces.reverse)
  (if gfm then BareLink.linkMailsAll nodes else nodes, r.budget)

end Marginalia.Markdown
