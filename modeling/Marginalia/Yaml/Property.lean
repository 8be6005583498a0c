/-
Marginalia.Yaml.Property — reading anchors, aliases, tags and directives.
-/
import Marginalia.Yaml.Place
import Marginalia.Yaml.Token
import Marginalia.Text.Ranges

namespace Marginalia.Yaml.Property

/-! ## 1. Anchors and aliases -/

/-- Reads the name of an anchor, or of an alias, behind its indicator. -/
def name (activity : Activity) (p : Place) : Except Fault (List Char × Place) :=
  let (name, next) := (p.skip 1).takeWhile isNameChar
  let ends := isGap (next.peek 0) || next.rest.head?.any fun c =>
    "?:,]\x7d%@\x60".toList.contains c
  if name.isEmpty || !ends then .error (next.fault .noAnchorName (some (activity, p.mark)))
  else .ok (name, next)

/-! ## 2. Tags -/

/-- Reads the octets behind percent signs that write one character. -/
def escapedChar (reading : Activity × Mark) (p : Place) : Except Fault (Char × Place) :=
  let octet (p : Place) : Except Fault (Nat × Place) :=
    match p.rest.take 3 with
    | ['%', a, b] => match Text.hexValue? a, Text.hexValue? b with
      | some m, some n => .ok (16 * m + n, p)
      | _, _ => .error (p.fault .noTagOctet (some reading))
    | _ => .error (p.fault .noTagOctet (some reading))
  let rec trailing : Nat → Nat → Place → Except Fault (Nat × Place)
    | 0, code, p => .ok (code, p)
    | n + 1, code, p => do
      let (o, p) ← octet p
      if 0x80 ≤ o && o < 0xC0 then trailing n (64 * code + o % 64) (p.skip 3)
      else .error (p.fault .badTrailingOctet (some reading))
  do
    let (o, p) ← octet p
    let (count, code) ←
      if o < 0x80 then .ok (0, o)
      else if 0xC0 ≤ o && o < 0xE0 then .ok (1, o % 32)
      else if 0xE0 ≤ o && o < 0xF0 then .ok (2, o % 16)
      else if 0xF0 ≤ o && o < 0xF8 then .ok (3, o % 8)
      else .error (p.fault .badLeadingOctet (some reading))
    let (code, next) ← trailing count code (p.skip 3)
    -- a character that has a shorter writing is not taken for it
    let c :=
      if count = 0 || (0x80 ≤ code && code.isValidChar) then Char.ofNat code else '\uFFFD'
    return (c, next)

/-- A character of a tag. -/
def isTagChar (verbatim : Bool) (c : Char) : Bool :=
  isNameChar c || ";/?:@&=+$.%!~*'()".toList.contains c
    || (verbatim && ",[]".toList.contains c)

/-- Reads the characters of a tag, at most `n`; `text` is what was read, newest
first. -/
def tagChars (verbatim : Bool) (reading : Activity × Mark) :
    Nat → List Char → Place → Except Fault (List Char × Place)
  | 0, text, p => .ok (text.reverse, p)
  | n + 1, text, p =>
    match p.rest with
    | [] => .ok (text.reverse, p)
    | c :: _ =>
      if c == '%' then do
        let (d, next) ← escapedChar reading p
        tagChars verbatim reading n (d :: text) next
      else if isTagChar verbatim c then tagChars verbatim reading n (c :: text) (p.skip 1)
      else .ok (text.reverse, p)

/-- Reads the text of a tag behind a start that was read before; together they
are not empty. -/
def tagText (verbatim inDirective : Bool) (before : List Char) (start : Mark) (p : Place) :
    Except Fault (List Char × Place) := do
  let reading : Activity × Mark := (if inDirective then .tagDirectiveText else .tagText, start)
  let (text, next) ← tagChars verbatim reading p.rest.length [] p
  if before.isEmpty && text.isEmpty then .error (next.fault .noTagText (some reading))
  else return (before.drop 1 ++ text, next)

/-- Reads the handle of a tag: an exclamation mark, and perhaps a name and
another one. -/
def handle (inDirective : Bool) (start : Mark) (p : Place) :
    Except Fault (List Char × Place) :=
  if !p.at? '!' then
    .error (p.fault .noTagStart (some (if inDirective then .tagHandle else .tag, start)))
  else
    let (name, next) := (p.skip 1).takeWhile isNameChar
    if next.at? '!' then .ok ('!' :: name ++ ['!'], next.skip 1)
    else if inDirective && !name.isEmpty then
      .error (next.fault .noTagStart (some (.tagHandleName, start)))
    else .ok ('!' :: name, next)

/-- Reads a tag: its handle and the rest. -/
def tag (flow : Bool) (p : Place) : Except Fault ((List Char × List Char) × Place) := do
  let start := p.mark
  let (tag, next) ←
    if p.peek 1 == some '<' then do
      let (text, next) ← tagText true false [] start (p.skip 2)
      if next.at? '>' then .ok (([], text), next.skip 1)
      else .error (next.fault .noTagEnd (some (.tag, start)))
    else do
      let (head, next) ← handle false start p
      if head.length > 1 && head.getLast? == some '!' then
        let (text, next) ← tagText false false [] start next
        .ok ((head, text), next)
      else
        let (text, next) ← tagText false false head start next
        .ok (if text.isEmpty then ([], ['!']) else (['!'], text), next)
  if isGap (next.peek 0) || (flow && next.at? ',') then return (tag, next)
  else .error (next.fault .noTagBlank (some (.tag, start)))

/-! ## 3. Directives -/

/-- Reads a part of the number of a version. -/
def versionPart (start : Mark) (p : Place) : Except Fault (Nat × Place) :=
  let reading : Option (Activity × Mark) := some (.versionDirective, start)
  let digits := p.rest.takeWhile Char.isDigit
  if digits.length > 9 then .error ((p.skip 9).fault .longVersion reading)
  else if digits.isEmpty then .error (p.fault .noVersion reading)
  else .ok (digits.foldl (fun n c => 10 * n + (c.toNat - 48)) 0, p.skip digits.length)

/-- Reads what stands behind the name of a directive. -/
def directiveValue (name : List Char) (start : Mark) (p : Place) :
    Except Fault (Token × Place) :=
  if name = "YAML".toList then do
    let (major, p) ← versionPart start (p.skipWhile isBlank)
    if !p.at? '.' then .error (p.fault .noVersionPart (some (.versionDirective, start)))
    let (minor, p) ← versionPart start (p.skip 1)
    return (.versionDirective major minor, p)
  else if name = "TAG".toList then do
    let reading : Option (Activity × Mark) := some (.tagDirective, start)
    let (head, p) ← handle true start (p.skipWhile isBlank)
    if !p.rest.head?.any isBlank then .error (p.fault .noBlank reading)
    let (text, p) ← tagText true true [] start (p.skipWhile isBlank)
    if !isGap (p.peek 0) then .error (p.fault .noTagBlank reading)
    return (.tagDirective head text, p)
  else .error (p.fault .unknownDirective (some (.directive, start)))

/-- Reads a directive and its line. -/
def directive (p : Place) : Except Fault (Token × Mark × Place) := do
  let reading : Option (Activity × Mark) := some (.directive, p.mark)
  let (name, next) := (p.skip 1).takeWhile isNameChar
  if name.isEmpty then .error (next.fault .noDirectiveName reading)
  if !isGap (next.peek 0) then .error (next.fault .badDirectiveName reading)
  let (token, next) ← directiveValue name p.mark next
  let last := next.mark
  let next := (next.skipWhile isBlank).skipComment
  if next.atEnd then return (token, last, next)
  match next.skipBreak? with
  | some (_, behind) => return (token, last, behind)
  | none => .error (next.fault .noLineEnd reading)

end Marginalia.Yaml.Property
