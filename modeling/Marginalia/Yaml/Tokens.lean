/-
Marginalia.Yaml.Tokens — cutting a YAML text into tokens.

Outside brackets and braces, indentation opens and closes blocks. A scalar,
an alias or a collection in brackets may turn out to be a key when a colon
follows it on its line, within 1024 bytes; then the tokens for the key,
and for the mapping it may start, are put in front of it. So a token is
settled only when it can no longer turn out to be a key, and where the text
breaks off, only the settled tokens count.
-/
import Marginalia.Yaml.Property
import Marginalia.Yaml.Scalar

namespace Marginalia.Yaml

/-- A token that may turn out to be the start of a key. -/
structure Candidate where
  /-- Must it turn out to be one? -/
  required : Bool
  /-- The number of the token. -/
  number : Nat
  mark : Mark

/-- The state of cutting a text. -/
structure Lexer where
  place : Place
  /-- The tokens, newest first. -/
  tokens : List Located := []
  /-- The candidate outside brackets, or inside the innermost ones. -/
  candidate : Option Candidate := none
  /-- The candidates around the brackets, from the inside out. -/
  outer : List (Option Candidate) := []
  /-- The indentation of the innermost block, which is less than zero outside
  all blocks. -/
  indent : Int := -1
  /-- The indentations around it, from the inside out. -/
  indents : List Int := []
  /-- May a key start here? -/
  keyAllowed : Bool := true

namespace Lexer

/-! ## 1. Tokens -/

/-- Is the place inside brackets or braces? -/
def inFlow (l : Lexer) : Bool := !l.outer.isEmpty

/-- One more token. -/
def push (l : Lexer) (token : Token) (first last : Mark) : Lexer :=
  { l with tokens := ⟨token, first, last⟩ :: l.tokens }

/-- A token of `n` characters. -/
def take (l : Lexer) (token : Token) (n : Nat) : Lexer :=
  let next := l.place.skip n
  { l with place := next, tokens := ⟨token, l.place.mark, next.mark⟩ :: l.tokens }

/-- A token put in front of the one with a number. -/
def insert (l : Lexer) (number : Nat) (token : Token) (mark : Mark) : Lexer :=
  let behind := l.tokens.length - number
  { l with tokens := l.tokens.take behind ++ ⟨token, mark, mark⟩ :: l.tokens.drop behind }

/-! ## 2. Candidates for keys -/

/-- The fault that a required key was none. -/
def noColon (l : Lexer) (c : Candidate) : Fault :=
  l.place.fault .noColon (some (.simpleKey, c.mark))

/-- Gives up the innermost candidate. -/
def dropCandidate (l : Lexer) : Except Fault Lexer :=
  match l.candidate with
  | some c => if c.required then .error (l.noColon c) else .ok { l with candidate := none }
  | none => .ok l

/-- Makes the next token a candidate, if a key may start here. -/
def addCandidate (l : Lexer) : Except Fault Lexer :=
  if l.keyAllowed then do
    let required := !l.inFlow && l.indent == l.place.mark.column
    let l ← l.dropCandidate
    return { l with candidate := some ⟨required, l.tokens.length, l.place.mark⟩ }
  else .ok l

/-- The longest key, in bytes. -/
def maxKeyLength : Nat := 1024

/-- Is the candidate on another line, or too far back? -/
def isStale (l : Lexer) (c : Candidate) : Bool :=
  c.mark.line < l.place.mark.line || c.mark.index + maxKeyLength < l.place.mark.index

/-- Gives up the candidates that are stale, from the outside in. -/
def dropStale (l : Lexer) : Except Fault Lexer := do
  let check (c : Option Candidate) : Except Fault (Option Candidate) :=
    match c with
    | some c =>
      if l.isStale c then
        if c.required then .error (l.noColon c) else .ok none
      else .ok (some c)
    | none => .ok none
  let outer ← l.outer.reverse.mapM check
  let candidate ← check l.candidate
  return { l with outer := outer.reverse, candidate }

/-- May the token with a number still turn out to be a key? -/
def mayBeKey (l : Lexer) (number : Nat) : Bool :=
  (l.candidate :: l.outer).any fun c => c.any (·.number == number)

/-! ## 3. Indentation -/

/-- Opens a block at a column, if it is indented; the token for it is put in
front of the one with a number. -/
def openBlock (l : Lexer) (token : Token) (number : Nat) (mark : Mark) : Lexer :=
  if !l.inFlow && l.indent < mark.column then
    { l.insert number token mark with indent := mark.column, indents := l.indent :: l.indents }
  else l

/-- Closes blocks until one is left whose indentation is not above a column. -/
def closeBlocks (column : Int) : Nat → Lexer → Lexer
  | 0, l => l
  | n + 1, l =>
    if !l.inFlow && l.indent > column then
      let l := l.push .blockEnd l.place.mark l.place.mark
      closeBlocks column n
        { l with indent := l.indents.headD (-1), indents := l.indents.drop 1 }
    else l

/-- Closes the blocks that are indented more than a column. -/
def unindent (l : Lexer) (column : Int) : Lexer := closeBlocks column (l.indents.length + 1) l

/-! ## 4. One token -/

/-- The end of the text: all blocks are closed, on a line of their own. -/
def takeEnd (l : Lexer) : Except Fault Lexer := do
  let m := l.place.mark
  let mark := if m.column = 0 then m else { m with line := m.line + 1, column := 0 }
  let l := { l with place := { l.place with mark } }.unindent (-1)
  let l ← l.dropCandidate
  return { l.push .streamEnd mark mark with keyAllowed := false }

/-- A directive. -/
def takeDirective (l : Lexer) : Except Fault Lexer := do
  let l ← (l.unindent (-1)).dropCandidate
  let (token, last, next) ← Property.directive l.place
  return { l.push token l.place.mark last with place := next, keyAllowed := false }

/-- A line that starts or ends a document. -/
def takeDocument (l : Lexer) (token : Token) : Except Fault Lexer := do
  let l ← (l.unindent (-1)).dropCandidate
  return { l.take token 3 with keyAllowed := false }

/-- An opening bracket or brace. -/
def takeOpening (l : Lexer) (token : Token) : Except Fault Lexer := do
  let l ← l.addCandidate
  return { l.take token 1 with
    candidate := none, outer := l.candidate :: l.outer, keyAllowed := true }

/-- A closing bracket or brace. -/
def takeClosing (l : Lexer) (token : Token) : Except Fault Lexer := do
  let l ← l.dropCandidate
  let l := match l.outer with
    | c :: outer => { l with candidate := c, outer }
    | [] => l
  return { l.take token 1 with keyAllowed := false }

/-- A comma between brackets. -/
def takeComma (l : Lexer) : Except Fault Lexer := do
  let l ← l.dropCandidate
  return { l.take .flowEntry 1 with keyAllowed := true }

/-- An indicator that may open a block. -/
def takeIndicator (l : Lexer) (token blockToken : Token) (problem : Problem)
    (keyAllowed : Bool) :
    Except Fault Lexer := do
  if !l.inFlow && !l.keyAllowed then .error (l.place.fault problem none)
  let l ← (l.openBlock blockToken l.tokens.length l.place.mark).dropCandidate
  return { l.take token 1 with keyAllowed }

/-- A colon behind a key. -/
def takeColon (l : Lexer) : Except Fault Lexer := do
  match l.candidate with
  | some c =>
    let l := l.insert c.number .key c.mark
    let l := l.openBlock .blockMappingStart c.number c.mark
    return { l.take .value 1 with candidate := none, keyAllowed := false }
  | none =>
    if !l.inFlow && !l.keyAllowed then .error (l.place.fault .valueNotAllowed none)
    let l := l.openBlock .blockMappingStart l.tokens.length l.place.mark
    return { l.take .value 1 with keyAllowed := !l.inFlow }

/-- An anchor or an alias. -/
def takeName (l : Lexer) (activity : Activity) (token : List Char → Token) :
    Except Fault Lexer := do
  let l ← l.addCandidate
  let (name, next) ← Property.name activity l.place
  return { l.push (token name) l.place.mark next.mark with place := next, keyAllowed := false }

/-- A tag. -/
def takeTag (l : Lexer) : Except Fault Lexer := do
  let l ← l.addCandidate
  let ((handle, rest), next) ← Property.tag l.inFlow l.place
  return { l.push (.tag handle rest) l.place.mark next.mark with
    place := next, keyAllowed := false }

/-- A scalar that was read. -/
def pushScalar (l : Lexer) (style : Style) (r : Scalar.Reading) (keyAllowed : Bool) : Lexer :=
  { l.push (.scalar style r.text) l.place.mark r.last with place := r.next, keyAllowed }

/-- A scalar written as a block. -/
def takeBlock (l : Lexer) (literal : Bool) : Except Fault Lexer := do
  let l ← l.dropCandidate
  let r ← Scalar.block literal l.indent l.place
  return l.pushScalar (if literal then .literal else .folded) r true

/-- A quoted scalar. -/
def takeQuoted (l : Lexer) (single : Bool) : Except Fault Lexer := do
  let l ← l.addCandidate
  let r ← Scalar.quoted single l.place
  return l.pushScalar (if single then .singleQuoted else .doubleQuoted) r false

/-- A plain scalar. -/
def takePlain (l : Lexer) : Except Fault Lexer := do
  let l ← l.addCandidate
  let r ← Scalar.plain l.inFlow (l.indent + 1) l.place
  return l.pushScalar .plain r r.brokeLine

/-- Skips blanks, comments and line ends, and a byte order mark at the very
start of the text, which takes a column. Tabs are no blanks where a key may
start, except inside brackets. -/
def skipGap (inFlow : Bool) : Nat → Bool → Place → Bool × Place
  | 0, keyAllowed, p => (keyAllowed, p)
  | n + 1, keyAllowed, p =>
    let p := if p.mark.index = 0 && p.at? '\uFEFF' then p.skip 1 else p
    let p := p.skipWhile fun c => c == ' ' || (c == '\t' && (inFlow || !keyAllowed))
    let p := p.skipComment
    match p.skipBreak? with
    | some (_, next) => skipGap inFlow n (keyAllowed || !inFlow) next
    | none => (keyAllowed, p)

/-- Can a plain scalar start here? -/
def startsPlain (l : Lexer) : Bool :=
  match l.place.rest with
  | [] => false
  | c :: cs =>
    !("-?:,[]\x7b\x7d#&*!|>'\"%@\x60".toList.contains c || isBlank c || isBreak c)
      || (c == '-' && !cs.head?.any isBlank)
      || (!l.inFlow && (c == '?' || c == ':') && !isGap cs.head?)

/-- The next token, with the tokens for the blocks that end before it. -/
def next (l : Lexer) : Except Fault Lexer := do
  let (keyAllowed, place) := skipGap l.inFlow (l.place.rest.length + 1) l.keyAllowed l.place
  let l ← { l with keyAllowed, place }.dropStale
  let l := l.unindent l.place.mark.column
  let p := l.place
  let gapBehind := isGap (p.peek 1)
  match p.rest with
  | [] => l.takeEnd
  | c :: _ =>
    if p.mark.column = 0 && c == '%' then l.takeDirective
    else if p.atIndicator '-' then l.takeDocument .documentStart
    else if p.atIndicator '.' then l.takeDocument .documentEnd
    else if c == '[' then l.takeOpening .flowSequenceStart
    else if c == '\x7b' then l.takeOpening .flowMappingStart
    else if c == ']' then l.takeClosing .flowSequenceEnd
    else if c == '\x7d' then l.takeClosing .flowMappingEnd
    else if c == ',' then l.takeComma
    else if c == '-' && gapBehind then
      l.takeIndicator .blockEntry .blockSequenceStart .entryNotAllowed true
    else if c == '?' && (l.inFlow || gapBehind) then
      l.takeIndicator .key .blockMappingStart .keyNotAllowed (!l.inFlow)
    else if c == ':' && (l.inFlow || gapBehind) then l.takeColon
    else if c == '*' then l.takeName .aliasName .alias
    else if c == '&' then l.takeName .anchor .anchor
    else if c == '!' then l.takeTag
    else if c == '|' && !l.inFlow then l.takeBlock true
    else if c == '>' && !l.inFlow then l.takeBlock false
    else if c == '\'' then l.takeQuoted true
    else if c == '"' then l.takeQuoted false
    else if l.startsPlain then l.takePlain
    else .error (p.fault .noToken (some (.nextToken, p.mark)))

/-! ## 5. All tokens -/

/-- The settled tokens, and the fault at which the text breaks off, within `n`
steps; so far `settled` tokens are settled. A step settles a token or cuts
off the next one. -/
def run : Nat → Nat → Lexer → List Located × Option Fault
  | 0, settled, l => (l.tokens.reverse.take settled, none)
  | n + 1, settled, l =>
    let stop (f : Fault) : List Located × Option Fault :=
      (l.tokens.reverse.take settled, some f)
    if settled = l.tokens.length then
      if (l.tokens.head?.map Located.token) == some .streamEnd then (l.tokens.reverse, none)
      else match l.next with
        | .error f => stop f
        | .ok l => run n settled l
    else match l.dropStale with
      | .error f => stop f
      | .ok l =>
        if l.mayBeKey settled then match l.next with
          | .error f => stop f
          | .ok l => run n settled l
        else run n (settled + 1) l

end Lexer

/-- The tokens of a text, and the fault at which it breaks off, if it does.
Characters that are not allowed are seen before anything else. -/
def tokens (text : List Char) : List Located × Option Fault :=
  let allowed := text.takeWhile isAllowed
  if allowed.length < text.length then
    ([], some (.control (byteCount allowed)))
  else
    let start : Lexer := { place := ⟨text, {}⟩ }
    (start.push .streamStart {} {}).run (6 * text.length + 10) 0

end Marginalia.Yaml
