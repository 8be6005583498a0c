/-
Marginalia.Proofs.Markup.Prescription — what the HTML of a tree has to say.

A traversal of the tree that knows nothing of escapes and angle brackets:
it gives the tags a reader is to see, with the attributes' own values, and
the texts between them as they stand in the tree, line ends included. Raw
HTML says nothing. The names of elements and the attributes they have of
their own are spelled out here, block by block.

An element has the attributes of its own and the properties of its block,
each name once: where it is given first, with the value that is given last
(`blockAttributes`).

The layout is said by its outcome. Side by side, blocks have one line end
between each two. A block that holds others has each of them on lines of
its own. The shown children of an item have one line end between each two
and, at either end of the item, one more unless a paragraph without element
stands there (`itemLayout`).
-/
import Marginalia.Proofs.Markup.Token
import Marginalia.Tree.Basic

namespace Marginalia.Markup

/-! ## 1. Attributes -/

/-- The attributes that an element is given one after the other: its own, and
then the properties of its block. -/
def givenAttributes (own : List Attribute) (d : Data) : List Attribute :=
  own ++ d.properties.entries.map fun p =>
    (if p.1 = "className" then "class" else if p.1 = "htmlFor" then "for" else p.1, p.2)

/-- The attributes that are prescribed for an element: each name once, where it is given
first, with the value that is given last. -/
def blockAttributes (own : List Attribute) (d : Data) : List Attribute :=
  ((givenAttributes own d).map Prod.fst).eraseDups.filterMap fun name =>
    ((givenAttributes own d).reverse.lookup name).map (name, ·)

/-- An attribute that is there if its value is. -/
def attributeOf (name : String) (value : Option String) : List Attribute :=
  (value.map (name, ·)).toList

/-! ## 2. Layout -/

/-- The line end between tokens. -/
def Token.newline : Token := .text "\n"

/-- An element with tokens inside. -/
def element (name : String) (attributes : List Attribute) (inside : List Token) : List Token :=
  .openTag name attributes :: inside ++ [.closeTag name]

/-- The element of a block: its name is the kind's own unless the block
carries one, and its attributes are its own with the properties merged. -/
def blockElement (natural : String) (own : List Attribute) (d : Data) (inside : List Token) :
    List Token :=
  element (d.elementName.getD natural) (blockAttributes own d) inside

/-- Blocks side by side. -/
def sideBySide (ls : List (List Token)) : List Token := [Token.newline].intercalate ls

/-- Blocks inside another, each on lines of its own. -/
def onLines (ls : List (List Token)) : List Token :=
  .newline :: ls.flatMap (· ++ [.newline])

/-- The line end at an end of an item: none beside a paragraph without
element. -/
def edge (bare : Bool) : List Token := if bare then [] else [.newline]

/-- The children of an item. Of each it is given whether it is a paragraph
without element. -/
def itemLayout : List (Bool × List Token) → List Token
  | [] => []
  | c :: cs =>
    edge c.1 ++ sideBySide ((c :: cs).map Prod.snd) ++ edge ((c :: cs).getLast (by simp)).1

/-! ## 3. Inlines -/

mutual

/-- What an inline has to say. -/
def inlineTokens : Inline → List Token
  | .text value => [.text value]
  | .emphasis cs => element "em" [] (inlinesTokens cs)
  | .strong cs => element "strong" [] (inlinesTokens cs)
  | .delete cs => element "del" [] (inlinesTokens cs)
  | .code value => element "code" [] [.text value]
  | .lineBreak => [.openTag "br" [], .newline]
  | .link url title cs =>
    element "a" (("href", url) :: attributeOf "title" title) (inlinesTokens cs)
  | .image url title alt =>
    [.openTag "img" (("src", url) :: ("alt", alt) :: attributeOf "title" title)]
  | .html _ => []

/-- What inlines have to say. -/
def inlinesTokens : List Inline → List Token
  | [] => []
  | i :: is => inlineTokens i ++ inlinesTokens is

end

/-! ## 4. Blocks -/

mutual

/-- What a block has to say. -/
def blockTokens : Block → List Token
  | .paragraph cs d => blockElement "p" [] d (inlinesTokens cs)
  | .heading depth cs d => blockElement ("h" ++ toString depth.toNat) [] d (inlinesTokens cs)
  | .quote cs d => blockElement "blockquote" [] d (onLines (shownTokens cs))
  | .callout kind cs d =>
    -- A class that the block carries takes the place of the kind.
    let own := if (d.properties.get? "className").isSome then [] else [("class", kind)]
    blockElement "aside" own d (onLines (shownTokens cs))
  | .list ordered start spread items d =>
    -- Only an ordered list that does not start at one says where it starts.
    let first := (start.filter fun n => ordered ∧ n ≠ 1).map fun n => toString n.toNat
    blockElement (if ordered then "ol" else "ul") (attributeOf "start" first) d
      (onLines (itemsTokens spread items))
  | .code language _ value d =>
    let own := attributeOf "class" (language.map ("language-" ++ ·))
    element "pre" [] (blockElement "code" own d
      (if value.isEmpty then [] else [.text value, .newline]))
  | .rule d => [.openTag (d.elementName.getD "hr") (blockAttributes [] d)]
  | .html .. => []

/-- What each block but raw HTML has to say. -/
def shownTokens : List Block → List (List Token)
  | [] => []
  | b :: bs => if b.isHtml then shownTokens bs else blockTokens b :: shownTokens bs

/-- What each item of a list has to say; `spread` says that its items are set
apart. -/
def itemsTokens (spread : Bool) : List Item → List (List Token)
  | [] => []
  | .mk itemSpread cs d :: is =>
    blockElement "li" [] d (itemLayout (childrenTokens (spread || itemSpread) cs))
      :: itemsTokens spread is

/-- What each child of an item but raw HTML has to say, and whether it is a
paragraph without element, as paragraphs of a tight item are. -/
def childrenTokens (loose : Bool) : List Block → List (Bool × List Token)
  | [] => []
  | b :: bs =>
    match b with
    | .html .. => childrenTokens loose bs
    | .paragraph cs _ =>
      (if loose then (false, blockTokens b) else (true, inlinesTokens cs))
        :: childrenTokens loose bs
    | _ => (false, blockTokens b) :: childrenTokens loose bs

end

/-- What a document has to say. -/
def rootTokens (r : Root) : List Token := sideBySide (shownTokens r.children)

/-! ## 5. Texts side by side -/

/-- A text as a token; the empty one is none. -/
def wholeText : List Char → List Token
  | [] => []
  | s => [.text (String.ofList s)]

/-- Tokens with the texts that stand side by side put together, behind a text
that was begun. -/
def joinTexts (begun : List Char) : List Token → List Token
  | [] => wholeText begun
  | .text value :: ts => joinTexts (begun ++ value.toList) ts
  | t :: ts => wholeText begun ++ t :: joinTexts [] ts

/-! ## 6. Names in what a tree carries -/

/-- The element name and the properties that a block carries are names. -/
def NamesOf (d : Data) : Prop :=
  (∀ n ∈ d.elementName, isName n = true) ∧ ∀ p ∈ d.properties.entries, isName p.1 = true

instance (d : Data) : Decidable (NamesOf d) := inferInstanceAs (Decidable (_ ∧ _))

end Marginalia.Markup
