/-
Marginalia.Tree.Walk — the blocks of a tree in document order.

`Root.walk` lists every block before the blocks inside it. A single block
is addressed by a path: the index of a child of the document, then of a
child of that block, and so on; a list takes two indices, of the item and
of the item's child.

Main statement: `walkAll_append` (walking goes along a sequence).
-/
import Marginalia.Tree.Basic

namespace Marginalia

/-! ## 1. Walking -/

mutual

/-- A block and the blocks inside it. -/
def Block.walk : Block → List Block
  | .quote cs d => .quote cs d :: walkAll cs
  | .callout k cs d => .callout k cs d :: walkAll cs
  | .list o s sp is d => .list o s sp is d :: walkItems is
  | .paragraph cs d => [.paragraph cs d]
  | .heading n cs d => [.heading n cs d]
  | .code l m v d => [.code l m v d]
  | .rule d => [.rule d]
  | .html v d => [.html v d]

/-- The blocks of a sequence and those inside them. -/
def walkAll : List Block → List Block
  | [] => []
  | b :: bs => b.walk ++ walkAll bs

/-- The blocks of items and those inside them. -/
def walkItems : List Item → List Block
  | [] => []
  | i :: is => walkItem i ++ walkItems is

/-- The blocks of an item and those inside them. -/
def walkItem : Item → List Block
  | .mk _ cs _ => walkAll cs

end

/-- Every block of a document, each before the blocks inside it. -/
def Root.walk (r : Root) : List Block := walkAll r.children

/-- The number of callouts anywhere in a document. -/
def Root.countCallouts (r : Root) : Nat := r.walk.countP Block.isCallout

theorem walkAll_append (bs cs : List Block) :
    walkAll (bs ++ cs) = walkAll bs ++ walkAll cs := by
  induction bs with
  | nil => simp [walkAll]
  | cons b bs ih => simp [walkAll, ih]

/-! ## 2. Changing the data of one block -/

mutual

/-- The block with the data of the block at a path inside it changed; the
empty path is the block itself. -/
def Block.modifyDataAt (f : Data → Data) : Block → List Nat → Option Block
  | b, [] => some (b.setData (f b.data))
  | .quote cs d, path => (modifyDataIn f cs path).map (.quote · d)
  | .callout k cs d, path => (modifyDataIn f cs path).map (.callout k · d)
  | .list o s sp is d, path => (modifyDataInItems f is path).map (.list o s sp · d)
  | _, _ :: _ => none

/-- The blocks with the data of the block at a path changed. -/
def modifyDataIn (f : Data → Data) : List Block → List Nat → Option (List Block)
  | [], _ | _, [] => none
  | b :: bs, 0 :: path => (b.modifyDataAt f path).map (· :: bs)
  | b :: bs, (n + 1) :: path => (modifyDataIn f bs (n :: path)).map (b :: ·)

/-- The items with the data of the block at a path changed. -/
def modifyDataInItems (f : Data → Data) : List Item → List Nat → Option (List Item)
  | [], _ | _, [] => none
  | i :: is, 0 :: path => (modifyDataInItem f i path).map (· :: is)
  | i :: is, (n + 1) :: path => (modifyDataInItems f is (n :: path)).map (i :: ·)

/-- The item with the data of the block at a path changed. -/
def modifyDataInItem (f : Data → Data) : Item → List Nat → Option Item
  | .mk sp cs d, path => (modifyDataIn f cs path).map (.mk sp · d)

end

mutual

/-- The block at a path inside a block; the empty path is the block itself. -/
def Block.at? : Block → List Nat → Option Block
  | b, [] => some b
  | .quote cs _, path => blockAt? cs path
  | .callout _ cs _, path => blockAt? cs path
  | .list _ _ _ is _, path => blockAtItem? is path
  | _, _ :: _ => none

/-- The block at a path in a sequence. -/
def blockAt? : List Block → List Nat → Option Block
  | [], _ | _, [] => none
  | b :: _, 0 :: path => b.at? path
  | _ :: bs, (n + 1) :: path => blockAt? bs (n :: path)

/-- The block at a path in the items of a list. -/
def blockAtItem? : List Item → List Nat → Option Block
  | [], _ | _, [] => none
  | i :: _, 0 :: path => blockInItem? i path
  | _ :: is, (n + 1) :: path => blockAtItem? is (n :: path)

/-- The block at a path in an item. -/
def blockInItem? : Item → List Nat → Option Block
  | .mk _ cs _, path => blockAt? cs path

end

/-- The block at a path in a document. -/
def Root.blockAt? (r : Root) (path : List Nat) : Option Block :=
  Marginalia.blockAt? r.children path

/-- The document with the data of the block at a path changed, if there is
such a block. -/
def Root.modifyDataAt (r : Root) (path : List Nat) (f : Data → Data) : Option Root :=
  (modifyDataIn f r.children path).map Root.mk

end Marginalia
