/-
Marginalia.Markdown.Definition — link labels, destinations, titles, and the
definitions of link references.

A paragraph may start with definitions `[label]: destination "title"`. They
are taken off its front; the first definition of a label counts. Labels
match when they are equal after blanks are collapsed and cases are folded.
-/
import Marginalia.Markdown.Entity
import Marginalia.Text.CaseFold

namespace Marginalia.Markdown

/-! ## 1. Labels -/

/-- The longest label, in bytes. -/
def maxLabelBytes : Nat := 1000

/-- The characters up to the closing bracket of a label, and what follows the
bracket; `n` counts bytes read so far. -/
def readLabelFrom? (n : Nat) : List Char → Option (List Char × List Char)
  | [] => none
  | ']' :: cs => if n ≤ maxLabelBytes then some ([], cs) else none
  | '[' :: _ => none
  | '\\' :: d :: ds =>
    if Text.isAsciiPunct d then
      (readLabelFrom? (n + 2) ds).map fun (label, rest) => ('\\' :: d :: label, rest)
    else (readLabelFrom? (n + 1) (d :: ds)).map fun (label, rest) => ('\\' :: label, rest)
  | c :: cs => (readLabelFrom? (n + c.utf8Size) cs).map fun (label, rest) => (c :: label, rest)

/-- Reads a label in brackets: its text without outer blanks, and what
follows. -/
def readLabel? : List Char → Option (List Char × List Char)
  | '[' :: s => (readLabelFrom? 0 s).map fun (label, rest) => (Text.trimPlain label, rest)
  | _ => none

/-- The text with each run of blanks as one space; `inBlank` says that a run
has started. -/
def collapseBlanks (inBlank : Bool) : List Char → List Char
  | [] => []
  | c :: cs =>
    if Text.isBlank c then
      if inBlank then collapseBlanks true cs else ' ' :: collapseBlanks true cs
    else c :: collapseBlanks false cs

/-- The form in which labels are compared. -/
def normalizeLabel (s : List Char) : List Char :=
  Text.foldCase (collapseBlanks false (Text.trimPlain s))

/-! ## 2. Destinations -/

/-- The characters up to the closing angle bracket, and what follows it. -/
def readBracketed? : List Char → Option (List Char × List Char)
  | '>' :: r => some ([], r)
  | '\\' :: c :: r => (readBracketed? r).map fun (s, rest) => ('\\' :: c :: s, rest)
  | '\n' :: _ | '<' :: _ | [] => none
  | c :: r => (readBracketed? r).map fun (s, rest) => (c :: s, rest)

/-- The deepest nesting of round brackets in a bare destination. -/
def maxNesting : Nat := 32

/-- A space or an ASCII control, which ends a bare destination. -/
def endsBare (c : Char) : Bool := c.toNat ≤ 32 || c.toNat == 127

/-- A bare destination, and what follows it: up to a blank, a control or an
unmatched closing bracket. Of a text that ends before, nothing is read. -/
def readBare? (depth : Nat) : List Char → Option (List Char × List Char)
  | [] => none
  | '\\' :: d :: ds =>
    if Text.isAsciiPunct d then
      (readBare? depth ds).map fun (s, rest) => ('\\' :: d :: s, rest)
    else (readBare? depth (d :: ds)).map fun (s, rest) => ('\\' :: s, rest)
  | '(' :: cs =>
    if depth < maxNesting then (readBare? (depth + 1) cs).map fun (s, rest) => ('(' :: s, rest)
    else none
  | ')' :: cs =>
    if depth = 0 then some ([], ')' :: cs)
    else (readBare? (depth - 1) cs).map fun (s, rest) => (')' :: s, rest)
  | c :: cs =>
    if endsBare c then if depth = 0 then some ([], c :: cs) else none
    else (readBare? depth cs).map fun (s, rest) => (c :: s, rest)

/-- Reads a destination, in angle brackets or bare, as it is written, and
what follows it, which is not nothing. -/
def readDestination? (s : List Char) : Option (List Char × List Char) :=
  match s with
  | '<' :: r => (readBracketed? r).bind fun (url, rest) =>
    if rest.isEmpty then none else some (url, rest)
  | c :: _ =>
    if endsBare c then none else readBare? 0 s
  | [] => none

/-! ## 3. Titles -/

/-- What follows the end of a title. A delimiter right behind a backslash may
be part of the title; it ends the title only if no other does, so the last
such place is kept in `best`. -/
def titleRest? (final : Char) (inBackslash : Bool) (best : Option (List Char)) :
    List Char → Option (List Char)
  | [] => best
  | c :: cs =>
    if c == final then
      if inBackslash then titleRest? final false (some cs) cs else some cs
    else if c == '(' && final == ')' && !inBackslash then best
    else titleRest? final (c == '\\') best cs

/-- Reads a title between quotes or round brackets, delimiters included, and
what follows it. -/
def readTitle? (s : List Char) : Option (List Char × List Char) :=
  let rest? := match s with
    | '"' :: r => titleRest? '"' false none r
    | '\'' :: r => titleRest? '\'' false none r
    | '(' :: r => titleRest? ')' false none r
    | _ => none
  rest?.map fun rest => (s.take (s.length - rest.length), rest)

/-! ## 4. Definitions -/

/-- Where a link leads, and the title it shows. -/
structure Target where
  url : List Char
  title : List Char
  deriving DecidableEq, Repr

namespace Target

/-- The bytes that the target takes in the output. -/
def size (t : Target) : Nat :=
  (t.url ++ t.title).foldr (fun c n => c.utf8Size + n) 0

end Target

/-- The definitions of a document, by normalized label. -/
structure Definitions where
  entries : List (List Char × Target) := []

namespace Definitions

/-- The definition of a normalized label. -/
def lookup? (d : Definitions) (label : List Char) : Option Target := d.entries.lookup label

/-- The definitions with one more, unless its label has one already. -/
def insert (d : Definitions) (label : List Char) (target : Target) : Definitions :=
  if (d.lookup? label).isSome then d else ⟨(label, target) :: d.entries⟩

end Definitions

/-- Skips spaces and tabs. -/
def skipSpaces (s : List Char) : List Char := s.dropWhile Text.isSpaceOrTab

/-- What follows the end of the line, if the line ends here. -/
def lineEnd? : List Char → Option (List Char)
  | '\n' :: r => some r
  | [] => some []
  | _ => none

/-- Skips spaces and tabs, and at most one line end among them. -/
def skipSpacesAndLineEnd (s : List Char) : List Char :=
  match lineEnd? (skipSpaces s) with
  | some r => skipSpaces r
  | none => skipSpaces s

/-- Reads a definition: its label as written, its target, and what follows its
line. A title that does not end its line does not take the line, but stays the
title where the line before is complete. -/
def readDefinition? (s : List Char) : Option (List Char × Target × List Char) :=
  match readLabel? s with
  | some (label, ':' :: r) =>
    if label.isEmpty then none
    else match readDestination? (skipSpacesAndLineEnd r) with
      | none => none
      | some (url, afterUrl) =>
        let beforeTitle := skipSpacesAndLineEnd afterUrl
        let title? := if beforeTitle.length = afterUrl.length then none
          else readTitle? beforeTitle
        let (title, afterTitle) := title?.getD ([], afterUrl)
        let rest? := match lineEnd? (skipSpaces afterTitle) with
          | some rest => some rest
          | none => if title.isEmpty then none else lineEnd? (skipSpaces afterUrl)
        rest?.map fun rest => (label, ⟨addressOf url, titleOf title⟩, rest)
  | _ => none

/-- Takes up to `n` definitions off the front of a text. -/
def takeDefinitionsUpTo : Nat → Definitions → List Char → Definitions × List Char
  | 0, d, s => (d, s)
  | n + 1, d, s => match readDefinition? s with
    | some (label, target, rest) =>
      takeDefinitionsUpTo n (d.insert (normalizeLabel label) target) rest
    | none => (d, s)

/-- Takes all definitions off the front of the text of a paragraph. -/
def takeDefinitions (d : Definitions) (s : List Char) : Definitions × List Char :=
  takeDefinitionsUpTo s.length d s

end Marginalia.Markdown
