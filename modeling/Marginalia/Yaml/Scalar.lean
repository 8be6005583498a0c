/-
Marginalia.Yaml.Scalar — reading the scalars of YAML texts.

A scalar is written plainly, between quotes, or as an indented block. Line
ends inside plain and quoted scalars are folded; in a block they are kept or
folded as its header says.
-/
import Marginalia.Yaml.Place
import Marginalia.Yaml.Token
import Marginalia.Text.Ranges

namespace Marginalia.Yaml.Scalar

/-! ## 1. Plain scalars -/

/-- The characters that end a plain scalar inside brackets and braces. -/
def isFlowIndicator (c : Char) : Bool := ",[]\x7b\x7d".toList.contains c

/-- The longest part of a plain scalar without gaps, and its length; nothing
where a colon stands before an indicator inside brackets. -/
def plainPart (flow : Bool) : List Char → Except Nat (List Char)
  | [] => .ok []
  | c :: cs =>
    if isBlank c || isBreak c then .ok []
    else if c == ':' && flow && cs.head?.any (fun d => isFlowIndicator d || d == '?') then
      .error 0
    else if (c == ':' && isGap cs.head?) || (flow && isFlowIndicator c) then .ok []
    else match plainPart flow cs with
      | .ok part => .ok (c :: part)
      | .error n => .error (n + 1)

/-- A scalar that was read. -/
structure Reading where
  text : List Char
  /-- Where it ends. -/
  last : Mark
  /-- The place to go on from. -/
  next : Place
  /-- Did line ends follow that are not part of it? -/
  brokeLine : Bool := false

/-- Reads the rest of a plain scalar, at most `n` parts of it, behind a gap. -/
def plainFrom (flow : Bool) (margin : Int) (start : Mark) :
    Nat → Reading → Gap → Except Fault Reading
  | 0, r, _ => .ok r
  | n + 1, r, gap =>
    let p := r.next
    let ended : Except Fault Reading := .ok { r with brokeLine := !gap.breaks.isEmpty }
    if p.atDocument || p.at? '#' then ended
    else match plainPart flow p.rest with
      | .error k => .error ((p.skip k).fault .unexpectedColon (some (.plainScalar, start)))
      | .ok [] => ended
      | .ok part =>
        let behind := p.skip part.length
        let r : Reading :=
          { text := r.text ++ gap.folded ++ part, last := behind.mark, next := behind }
        match Gap.read margin behind with
        | .error m => .error (.problem .tabInIndentation m (some (.plainScalar, start)))
        | .ok (gap, next) =>
          let r := { r with next }
          if gap.blanks.isEmpty && gap.breaks.isEmpty then .ok r
          else if !flow && (next.mark.column : Int) < margin then
            .ok { r with brokeLine := !gap.breaks.isEmpty }
          else plainFrom flow margin start n r gap

/-- Reads a plain scalar; in a block, lines left of the margin end it. -/
def plain (flow : Bool) (margin : Int) (p : Place) : Except Fault Reading :=
  plainFrom flow margin p.mark (p.rest.length + 1) { text := [], last := p.mark, next := p } {}

/-! ## 2. Quoted scalars -/

/-- The character that a letter behind a backslash stands for. -/
def escaped? (c : Char) : Option Char :=
  [('0', '\x00'), ('a', '\x07'), ('b', '\x08'), ('t', '\t'), ('\t', '\t'), ('n', '\n'),
    ('v', '\x0b'), ('f', '\x0c'), ('r', '\r'), ('e', '\x1b'), (' ', ' '), ('"', '"'),
    ('/', '/'), ('\\', '\\'), ('N', '\u0085'), ('_', '\u00a0'), ('L', '\u2028'),
    ('P', '\u2029')].lookup c

/-- How many hexadecimal digits follow a letter behind a backslash. -/
def escapeLength? (c : Char) : Option Nat := [('x', 2), ('u', 4), ('U', 8)].lookup c

/-- Reads an escape: the character, and the place behind it. -/
def readEscape (start : Mark) (p : Place) : Except Fault (Char × Place) :=
  let fault (problem : Problem) (p : Place) : Except Fault (Char × Place) :=
    .error (p.fault problem (some (.escape, start)))
  match p.peek 1 with
  | none => fault .unknownEscape p
  | some c => match escaped? c with
    | some d => .ok (d, p.skip 2)
    | none => match escapeLength? c with
      | none => fault .unknownEscape p
      | some n =>
        let behind := p.skip 2
        let digits := behind.rest.take n
        if digits.length < n || digits.any fun d => (Text.hexValue? d).isNone then
          fault .noHexDigit behind
        else
          let code := Text.hexNumber digits
          if code.isValidChar then .ok (Char.ofNat code, behind.skip n)
          else fault .badEscapeCode behind

/-- Reads the rest of a quoted scalar, in at most `n` steps; `text` is what
was read, newest first. -/
def quotedFrom (single : Bool) (start : Mark) : Nat → List Char → Place → Except Fault Reading
  | 0, text, p => .ok { text := text.reverse, last := p.mark, next := p }
  | n + 1, text, p =>
    let quote := if single then '\'' else '"'
    let reading : Option (Activity × Mark) := some (.quotedScalar, start)
    if p.atDocument then .error (p.fault .unexpectedDocument reading)
    else match p.rest with
      | [] => .error (p.fault .unexpectedEnd reading)
      | c :: _ =>
        if isGap (some c) then
          match Gap.read (-1) p with
          | .ok (gap, next) => quotedFrom single start n (gap.folded.reverse ++ text) next
          | .error m => .error (.problem .unexpectedEnd m reading)
        else if c == quote then
          if single && p.peek 1 == some '\'' then
            quotedFrom single start n ('\'' :: text) (p.skip 2)
          else .ok { text := text.reverse, last := (p.skip 1).mark, next := p.skip 1 }
        else if !single && c == '\\' then
          match (p.skip 1).skipBreak? with
          | some (_, next) =>
            let (breaks, next) := Gap.readEscaped next next.rest.length
            quotedFrom single start n (breaks.reverse ++ text) next
          | none => match readEscape start p with
            | .ok (d, next) => quotedFrom single start n (d :: text) next
            | .error f => .error f
        else quotedFrom single start n (c :: text) (p.skip 1)

/-- Reads a quoted scalar from its opening quote on. -/
def quoted (single : Bool) (p : Place) : Except Fault Reading :=
  quotedFrom single p.mark (p.rest.length + 1) [] (p.skip 1)

/-! ## 3. Blocks -/

/-- What becomes of the line ends at the end of a block. -/
inductive Chomp where
  /-- One is kept. -/
  | clip
  /-- None is kept. -/
  | strip
  /-- All are kept. -/
  | keep
  deriving DecidableEq, Repr

/-- The indicator of what becomes of the line ends. -/
def chomp? (p : Place) : Option Chomp :=
  if p.at? '+' then some .keep else if p.at? '-' then some .strip else none

/-- Reads the header of a block: how it is chomped, its indentation if that is
given, and the place behind the line of the header. -/
def blockHeader (start : Mark) (p : Place) : Except Fault (Chomp × Nat × Place) := do
  let digit (p : Place) : Except Fault (Nat × Place) :=
    match p.peek 0 with
    | some c =>
      if c == '0' then .error (p.fault .indentationZero (some (.blockScalar, start)))
      else if c.isDigit then .ok (c.toNat - 48, p.skip 1)
      else .ok (0, p)
    | none => .ok (0, p)
  let (chomp, increment, p) ← match chomp? p with
    | some chomp => do
      let (increment, p) ← digit (p.skip 1)
      .ok (chomp, increment, p)
    | none => do
      let (increment, p) ← digit p
      if increment = 0 then .ok (Chomp.clip, 0, p)
      else match chomp? p with
        | some chomp => .ok (chomp, increment, p.skip 1)
        | none => .ok (.clip, increment, p)
  let p := (p.skipWhile isBlank).skipComment
  if p.atEnd then return (chomp, increment, p)
  match p.skipBreak? with
  | some (_, next) => return (chomp, increment, next)
  | none => .error (p.fault .noLineEnd (some (.blockScalar, start)))

/-- What stands between two lines of a block. -/
structure Between where
  /-- The widest indentation seen. -/
  widest : Nat := 0
  /-- The line ends, newest first. -/
  breaks : List Char := []
  /-- Where the last line ended. -/
  last : Mark
  next : Place

/-- Reads indentation and empty lines, at most `n` of them; an indentation of
zero is not known yet. -/
def between (start : Mark) (indent : Nat) : Nat → Between → Except Fault Between
  | 0, b => .ok b
  | n + 1, b =>
    let blanks := (b.next.rest.takeWhile (· == ' ')).length
    let room := if indent = 0 then blanks else min blanks (indent - b.next.mark.column)
    let p := b.next.skip room
    let b := { b with widest := max b.widest p.mark.column, next := p }
    if (indent = 0 || p.mark.column < indent) && p.at? '\t' then
      .error (p.fault .tabForIndentation (some (.blockScalar, start)))
    else match p.skipBreak? with
      | some (c, next) =>
        between start indent n { b with breaks := c :: b.breaks, last := next.mark, next }
      | none => .ok b

/-- A block while its lines are read. -/
structure Block where
  /-- The text, newest first. -/
  text : List Char := []
  /-- The line end behind the last line, if there is one. -/
  lineEnd : List Char := []
  /-- The line ends behind that one. -/
  more : List Char := []
  /-- Did the last line start with a blank? -/
  afterBlank : Bool := false
  last : Mark
  next : Place

/-- Reads the lines of a block, at most `n` of them. -/
def blockLines (literal : Bool) (start : Mark) (indent : Nat) :
    Nat → Block → Except Fault Block
  | 0, b => .ok b
  | n + 1, b =>
    let p := b.next
    if p.mark.column != indent || p.atEnd then .ok b
    else
      let blank := p.rest.head?.any isBlank
      let gap :=
        if !literal && b.lineEnd == ['\n'] && !b.afterBlank && !blank then
          if b.more.isEmpty then [' '] else b.more
        else b.lineEnd ++ b.more
      let (line, behind) := p.takeWhile (!isBreak ·)
      let (lineEnd, next) := match behind.skipBreak? with
        | some (c, next) => ([c], next)
        | none => ([], behind)
      match between start indent (next.rest.length + 1) { last := next.mark, next } with
      | .error f => .error f
      | .ok g =>
        blockLines literal start indent n
          { text := line.reverse ++ gap.reverse ++ b.text, lineEnd, more := g.breaks.reverse
            afterBlank := blank, last := g.last, next := g.next }

/-- Reads a block from its indicator on; `parent` is the indentation around
it. -/
def block (literal : Bool) (parent : Int) (p : Place) : Except Fault Reading := do
  let start := p.mark
  let (chomp, increment, p) ← blockHeader start (p.skip 1)
  let given := if increment = 0 then 0 else (max parent 0).toNat + increment
  let g ← between start given (p.rest.length + 1) { last := p.mark, next := p }
  let indent := if given = 0 then max g.widest (max (parent + 1) 1).toNat else given
  let b ← blockLines literal start indent (g.next.rest.length + 1)
    { more := g.breaks.reverse, last := g.last, next := g.next }
  let final := match chomp with
    | .strip => []
    | .clip => b.lineEnd
    | .keep => b.lineEnd ++ b.more
  return { text := b.text.reverse ++ final, last := b.last, next := b.next }

end Marginalia.Yaml.Scalar
