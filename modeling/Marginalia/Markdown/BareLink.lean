/-
Marginalia.Markdown.BareLink — addresses that are links without brackets.

Three forms are recognised: `scheme://` with one of three schemes, `www.`,
and mail addresses. An address runs to the next blank; then characters that
more likely belong to the sentence around it are given back. The name of
the host has to have the form of one.
-/
import Marginalia.Markdown.Emphasis

namespace Marginalia.Markdown.BareLink

open Text

/-! ## 1. Where an address ends -/

/-- The punctuation that is given back at the end of an address. -/
def isLoose (c : Char) : Bool := "?!.,:*_~'\"".toList.contains c

/-- The length of an address, from one that may be too long, after one thing
is given back at its end; `s` is the address backwards. -/
def giveBack (s : List Char) : Nat :=
  match s with
  | c :: r =>
    if isLoose c then 1
    else if c == ';' then
      let name := r.takeWhile Char.isAlpha
      if !name.isEmpty && (r.drop name.length).head? == some '&' then name.length + 2 else 1
    else if c == ')' && s.count ')' > s.count '(' then 1
    else 0
  | [] => 0

/-- The address backwards with everything given back, in up to `n` steps. -/
def giveBackAll : Nat → List Char → List Char
  | 0, s => s
  | n + 1, s => if giveBack s = 0 then s else giveBackAll n (s.drop (giveBack s))

/-- The length of an address within the first `n` characters of a text: it
ends before an angle bracket, and loose characters are given back. -/
def trimmedLength (n : Nat) (s : List Char) : Nat :=
  let address := (s.take n).takeWhile (· != '<')
  (giveBackAll address.length address.reverse).length

/-! ## 2. Hosts -/

/-- What has been seen of the name of a host: its dots, and the underscores in
its last part and in the one before. -/
structure Host where
  dots : Nat := 0
  underscoresBefore : Nat := 0
  underscores : Nat := 0

/-- Does the name of a host start the text? Its last two parts have no
underscores, unless it fills the text and has very many parts; it has a dot
unless `short` is set. -/
def startsHost (short : Bool) (h : Host) : List Char → Bool
  | [] => (h.underscoresBefore + h.underscores = 0 || h.dots > 10) && (short || h.dots > 0)
  | c :: cs =>
    if c == '\\' && !cs.isEmpty then startsHost short h cs
    else if c == '_' then startsHost short { h with underscores := h.underscores + 1 } cs
    else if c == '.' then startsHost short ⟨h.dots + 1, h.underscores, 0⟩ cs
    else if isBlank c || (isMark c && c != '-') then
      h.underscoresBefore + h.underscores = 0 && (short || h.dots > 0)
    else startsHost short h cs

/-- The characters up to the next blank. -/
def untilBlank (s : List Char) : Nat := (s.takeWhile (!isPlainBlank ·)).length

/-! ## 3. Addresses in running text -/

/-- The schemes that make a link. -/
def schemes : List (List Char) := ["http".toList, "https".toList, "ftp".toList]

/-- An address around a colon: how much of it is before the colon, and its
length from the colon on. `before` is the text before, backwards. -/
def atColon? (before s : List Char) : Option (Nat × Nat) :=
  match s with
  | ':' :: '/' :: '/' :: host =>
    let scheme := before.takeWhile Char.isAlpha
    if !host.isEmpty && schemes.contains scheme.reverse && startsHost true {} host then
      some (scheme.length, trimmedLength (untilBlank s) s)
    else none
  | _ => none

/-- The length of an address that starts with `www.` here. -/
def atWww? (before s : List Char) : Option Nat :=
  let mayStart := match before with
    | [] => true
    | c :: _ => isPlainBlank c || "*_~([".toList.contains c
  if mayStart && "www.".toList.isPrefixOf s && startsHost false {} s then
    some (trimmedLength (untilBlank s) s)
  else none

/-! ## 4. Mail addresses -/

/-- A character of the part of a mail address before the at sign. -/
def isMailChar (c : Char) : Bool := c.isAlphanum || ".+-_".toList.contains c

/-- The length of what belongs to a mail address before its at sign, backwards:
mail characters, and the schemes `mailto` and `xmpp` with their colons. Also
the last scheme seen. -/
def mailStart : List Char → Nat × Option (List Char)
  | [] => (0, none)
  | c :: before =>
    let more : Nat × Option (List Char) :=
      let (n, scheme) := mailStart before
      (n + 1, scheme)
    if isMailChar c then more
    else if c == ':' then
      let scheme := (before.takeWhile Char.isAlpha).reverse
      if scheme = "mailto".toList || scheme = "xmpp".toList then
        (more.1, some (if more.2 = some "xmpp".toList then "xmpp".toList else scheme))
      else (0, none)
    else (0, none)

/-- The length of what follows an at sign and may belong to a mail address,
and the number of dots in it; nothing where another at sign follows. -/
def mailEnd? (slashes : Bool) : List Char → Option (Nat × Nat)
  | [] => some (0, 0)
  | c :: cs =>
    let more (dots : Nat) : Option (Nat × Nat) :=
      (mailEnd? slashes cs).map fun (n, d) => (n + 1, d + dots)
    if c.isAlphanum then more 0
    else if c == '@' then none
    else if c == '.' && cs.head?.any Char.isAlphanum then more 1
    else if (c == '/' && slashes) || c == '-' || c == '_' then more 0
    else some (0, 0)

/-- A mail address around an at sign: how much of it is before the sign, its
length from the sign on, and whether it writes its scheme itself. -/
def atSign? (before s : List Char) : Option (Nat × Nat × Bool) :=
  let (start, scheme) := mailStart before
  if start = 0 then none
  else match mailEnd? (scheme = some "xmpp".toList) (s.drop 1) with
    | some (n, dots) =>
      if n = 0 || dots = 0 || !((s.drop n).head?.any fun c => c.isAlpha || c == '.') then none
      else some (start, trimmedLength (n + 1) s, scheme.isSome)
    | none => none

/-- A link that shows its address. -/
def link (scheme address : List Char) : Node :=
  .mk (.link (String.ofList (scheme ++ address)) "") [textNode address]

/-- A text as a node, or nothing for an empty one. -/
def textNodes (s : List Char) : List Node := if s.isEmpty then [] else [textNode s]

/-- The text with its mail addresses as links, up to `n` of them; `before` is
the part read, backwards, and `depth` counts the square brackets open in it,
in which nothing is a link. -/
def splitMailsFrom (fuel : Nat) (depth : Int) (before : List Char) : List Char → List Node
  | [] => textNodes before.reverse
  | c :: cs =>
    match fuel with
    | 0 => textNodes (before.reverse ++ c :: cs)
    | fuel + 1 =>
      let depth := if c == '[' then depth + 1 else if c == ']' then depth - 1 else depth
      match if depth ≤ 0 && c == '@' then atSign? before (c :: cs) else none with
      | some (back, ahead, hasScheme) =>
        let address := (before.take back).reverse ++ (c :: cs).take ahead
        textNodes (before.drop back).reverse
          ++ link (if hasScheme then [] else "mailto:".toList) address
          :: splitMailsFrom fuel 0 [] ((c :: cs).drop ahead)
      | none => splitMailsFrom fuel depth (c :: before) cs

/-- The text with its mail addresses as links. -/
def splitMails (s : List Char) : List Node := splitMailsFrom s.length 0 [] s

mutual

/-- The node with mail addresses as links, except in links and images; texts
that stand side by side have been joined before. -/
def linkMails : Node → List Node
  | .mk (.text s) _ => splitMails s.toList
  | .mk (.link url title) cs => [.mk (.link url title) cs]
  | .mk (.image url title) cs => [.mk (.image url title) cs]
  | .mk kind cs => [.mk kind (linkMailsAll cs)]

/-- The nodes with mail addresses as links. -/
def linkMailsAll : List Node → List Node
  | [] => []
  | n :: ns => linkMails n ++ linkMailsAll ns

end

end Marginalia.Markdown.BareLink
