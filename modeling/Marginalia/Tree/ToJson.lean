/-
Marginalia.Tree.ToJson — trees as JSON values.

A block or inline is an object whose member `type` names its kind and comes
first; its other members follow in a fixed order. Optional members are left
out when absent, and `data` when the block carries nothing.
-/
import Marginalia.Tree.Basic

namespace Marginalia

open Json (text arr obj bool)

/-! ## 1. Members -/

/-- A member that is left out when it is absent. -/
def optionalText (name : String) : Option String → List (String × Json)
  | none => []
  | some s => [(name, text s)]

/-- The members of what a block carries, as an object. -/
def Data.toJson (d : Data) : Json :=
  obj (optionalText "hName" d.elementName
    ++ (if d.properties.isEmpty then []
        else [("hProperties", obj (d.properties.entries.map fun e => (e.1, text e.2)))])
    ++ (if d.extra.isEmpty then [] else [("extra", obj d.extra.entries)]))

/-- The member `data`, left out when the block carries nothing. -/
def Data.member (d : Data) : List (String × Json) :=
  if d.isEmpty then [] else [("data", d.toJson)]

/-- A whole number as a value. -/
def natJson (n : Nat) : Json := .number (.integer n)

/-! ## 2. Inlines -/

mutual

/-- An inline as a value. -/
def Inline.toJson : Inline → Json
  | .text value => obj [("type", text "text"), ("value", text value)]
  | .emphasis children =>
    obj [("type", text "emphasis"), ("children", arr (inlinesToJson children))]
  | .strong children =>
    obj [("type", text "strong"), ("children", arr (inlinesToJson children))]
  | .delete children =>
    obj [("type", text "delete"), ("children", arr (inlinesToJson children))]
  | .code value => obj [("type", text "inlineCode"), ("value", text value)]
  | .lineBreak => obj [("type", text "break")]
  | .link url title children =>
    obj (("type", text "link") :: ("url", text url) :: optionalText "title" title
      ++ [("children", arr (inlinesToJson children))])
  | .image url title alt =>
    obj (("type", text "image") :: ("url", text url) :: optionalText "title" title
      ++ [("alt", text alt)])
  | .html value => obj [("type", text "html"), ("value", text value)]

/-- Inlines as values. -/
def inlinesToJson : List Inline → List Json
  | [] => []
  | i :: is => i.toJson :: inlinesToJson is

end

/-! ## 3. Blocks -/

mutual

/-- A block as a value. -/
def Block.toJson : Block → Json
  | .paragraph children d =>
    obj (("type", text "paragraph") :: ("children", arr (inlinesToJson children)) :: d.member)
  | .heading depth children d =>
    obj (("type", text "heading") :: ("depth", natJson depth.toNat)
      :: ("children", arr (inlinesToJson children)) :: d.member)
  | .quote children d =>
    obj (("type", text "blockquote") :: ("children", arr (blocksToJson children)) :: d.member)
  | .callout kind children d =>
    obj (("type", text "callout") :: ("calloutType", text kind)
      :: ("children", arr (blocksToJson children)) :: d.member)
  | .list ordered start spread items d =>
    obj (("type", text "list") :: ("ordered", bool ordered)
      :: (match start with
          | none => []
          | some n => [("start", natJson n.toNat)])
      ++ ("spread", bool spread) :: ("children", arr (itemsToJson items)) :: d.member)
  | .code language details value d =>
    obj (("type", text "code") :: optionalText "lang" language ++ optionalText "meta" details
      ++ ("value", text value) :: d.member)
  | .rule d => obj (("type", text "thematicBreak") :: d.member)
  | .html value d => obj (("type", text "html") :: ("value", text value) :: d.member)

/-- Blocks as values. -/
def blocksToJson : List Block → List Json
  | [] => []
  | b :: bs => b.toJson :: blocksToJson bs

/-- An item as a value; it has no type. -/
def Item.toJson : Item → Json
  | .mk spread children d =>
    obj (("spread", bool spread) :: ("children", arr (blocksToJson children)) :: d.member)

/-- Items as values. -/
def itemsToJson : List Item → List Json
  | [] => []
  | i :: is => i.toJson :: itemsToJson is

end

/-- A document as a value. -/
def Root.toJson (r : Root) : Json := obj [("children", arr (blocksToJson r.children))]

end Marginalia
