/-
Marginalia.Tree.Read — trees from JSON texts.

A block or inline names its kind in the member `type`, which may stand
anywhere in the object; an array gives the kind first and then the kind's
fields in their order. Because the kind decides how the other members are
read, the whole object is checked for faults before any of them is: what
is inside a block is read from a text already known to be well formed
(`Mode.checked`), what is outside directly (`Mode.direct`). Members of
unknown name are passed over.

Every reader walks a `Draft` structurally.
-/
import Marginalia.Tree.Basic
import Marginalia.Tree.Mismatch

namespace Marginalia

open Json (Draft Leaf Break Fault Scalar)

namespace Tree.Read

/-! ## 1. Modes -/

/-- How a draft is read: directly from the text, inside a number of arrays and
objects, or after it was checked for faults. -/
inductive Mode where
  | direct (depth : Nat)
  | checked
  deriving DecidableEq

/-- The results of reading. -/
abbrev Result (α : Type) := Except ReadError α

/-- A mismatch as a result. -/
def mismatch {α : Type} (m : Mismatch) : Result α := .error (.mismatch m)

/-- A fault as a result. -/
def fault {α : Type} (f : Fault) : Result α := .error (.fault f)

/-- A result that can only fail by a fault. -/
def ofFault {α : Type} : Except Fault α → Result α
  | .ok a => .ok a
  | .error f => fault f

/-- The mode inside an array or object. -/
def Mode.enter : Mode → Result Mode
  | .checked => .ok .checked
  | .direct depth =>
    if Json.depthLimit ≤ depth then fault .tooDeep else .ok (.direct (depth + 1))

/-- Goes past a value that is of no interest. -/
def Mode.pass (m : Mode) (d : Draft) : Result Unit :=
  match m, d.skipFault? with
  | .direct _, some f => fault f
  | _, _ => .ok ()

/-- Checks a value for faults. -/
def Mode.check (m : Mode) (d : Draft) : Result Unit :=
  match m with
  | .direct depth => ofFault ((d.toJson depth).map fun _ => ())
  | .checked => .ok ()

/-- Checks values for faults. -/
def Mode.checkAll (m : Mode) : List Draft → Result Unit
  | [] => .ok ()
  | d :: ds => do m.check d; m.checkAll ds

/-- The end of an array or object that was read to its end. -/
def finish (stop : Option Break) : Result Unit := ofFault (Json.breakRead stop)

/-- The end of an array that holds the fields of a record. A text that breaks
off before all of them are read is at fault there; one that goes on behind
them is too long, which a direct reader notices by the next character. -/
def finishFields (m : Mode) (fields count : Nat) (stop : Option Break) : Result Unit :=
  if count < fields then finish stop
  else match m, stop with
    | .checked, _ => if fields < count then mismatch (.tooLong count fields) else .ok ()
    | .direct _, none => if fields < count then fault .trailingCharacters else .ok ()
    | .direct _, some b =>
      if fields < count then fault .trailingCharacters
      else match b.read with
        | .endsInArray => fault .endsInArray
        | .trailingComma => fault .trailingComma
        | _ => fault .trailingCharacters

/-! ## 2. Scalars -/

/-- What a draft holds in the place of something else, or the fault in it. -/
def found : Draft → Result Found
  | .scalar leaf => (ofFault leaf.read).map .scalar
  | .arr .. => .ok .sequence
  | .obj .. => .ok .map

/-- The failure to find what was expected. -/
def wrongType {α : Type} (d : Draft) (expected : String) : Result α := do
  let f ← found d
  mismatch (.wrongType f expected)

/-- A value that must be a scalar of some type. -/
def readScalar {α : Type} (expected : String) (read : Scalar → Option α) (d : Draft) :
    Result α :=
  match d with
  | .scalar leaf => do
    let s ← ofFault leaf.read
    match read s with
    | some a => .ok a
    | none => mismatch (.wrongType (.scalar s) expected)
  | d => wrongType d expected

/-- A text. -/
def readText : Draft → Result String :=
  readScalar "a string" fun
    | .text s => some s
    | _ => none

/-- A text, or null for none. -/
def readOptionalText : Draft → Result (Option String) :=
  readScalar "a string" fun
    | .text s => some (some s)
    | .null => some none
    | _ => none

/-- A truth value. -/
def readBool : Draft → Result Bool :=
  readScalar "a boolean" fun
    | .bool b => some b
    | _ => none

/-- A natural number below a bound. -/
def readNat (expected : String) (bound : Nat) (d : Draft) : Result Nat := do
  let n ← readScalar expected (fun
    | .number (.integer n) => some n
    | _ => none) d
  if 0 ≤ n && n < bound then .ok n.toNat
  else mismatch (.wrongValue (.scalar (.number (.integer n))) expected)

/-- A number of one byte. -/
def readByte (d : Draft) : Result UInt8 := (readNat "u8" UInt8.size d).map Nat.toUInt8

/-- A number of 64 bits, or null for none. -/
def readOptionalCount (d : Draft) : Result (Option UInt64) :=
  match d with
  | .scalar ⟨.ok .null, _⟩ => .ok none
  | d => (readNat "usize" UInt64.size d).map fun n => some n.toUInt64

/-! ## 3. Kinds -/

/-- A kind from its name; after the text was checked also from its number. -/
def readKind (m : Mode) (names : List String) (d : Draft) : Result String := do
  let s ← readScalar "variant identifier" (fun
    | .text s => some (Sum.inl s)
    | .number (.integer n) =>
      match m with
      | .checked => if 0 ≤ n then some (Sum.inr n.toNat) else none
      | .direct _ => none
    | _ => none) d
  match s with
  | .inl name =>
    if names.contains name then .ok name else mismatch (.unknownVariant name names)
  | .inr n =>
    match names[n]? with
    | some name => .ok name
    | none =>
      mismatch (.wrongValue (.scalar (.number (.integer n)))
        ("variant index 0 <= i < " ++ toString names.length))

/-- The kind among the members of an object, checking the other members for
faults on the way. -/
def kindOfMembers (m : Mode) (names : List String) :
    Option String → List (Leaf String × Draft) → Result (Option String)
  | kind, [] => .ok kind
  | kind, (key, value) :: rest => do
    let key ← ofFault key.read
    if key == "type" then
      if kind.isSome then mismatch (.duplicateField "type")
      else
        let k ← readKind m names value
        kindOfMembers m names (some k) rest
    else
      m.check value
      kindOfMembers m names kind rest

/-- The kind of a block or inline, checking all of it for faults. `what` is
the word for blocks or inlines. -/
def kindOf (m : Mode) (what : String) (names : List String) : Draft → Result String
  | .obj members stop => do
    let m ← m.enter
    let kind ← kindOfMembers m names none members
    finish stop
    match kind with
    | some k => .ok k
    | none => mismatch (.missingField "type")
  | .arr items stop => do
    let m ← m.enter
    match items with
    | [] =>
      finish stop
      mismatch (.missingField "type")
    | kind :: rest =>
      let k ← readKind m names kind
      m.checkAll rest
      finish stop
      return k
  | d => wrongType d ("internally tagged enum " ++ what)

/-! ## 4. Records -/

/-- A record's name and the names of its fields, in order. -/
structure Record where
  /-- The name of the record. -/
  name : String
  /-- Its fields. -/
  fields : List String

/-- The words for an array that holds a record. -/
def Record.message (r : Record) : String :=
  "struct " ++ r.name ++ " with " ++ elements r.fields.length

/-- A field that must be there. -/
def need {α : Type} (name : String) : Option α → Result α
  | some a => .ok a
  | none => mismatch (.missingField name)

/-- The failure of an array that ends before a field that must be there. -/
def needFrom {α : Type} (r : Record) (name : String) : Option α → Result α
  | some a => .ok a
  | none => mismatch (.tooShort (r.fields.idxOf name) r.message)

/-- How fields that are not there are reported: by name in an object, by
length in an array. -/
inductive Missing where
  | byName
  | byLength (record : Record)

/-- A field that must be there, in an object or an array. -/
def Missing.need {α : Type} (how : Missing) (name : String) (a : Option α) : Result α :=
  match how with
  | .byName => Read.need name a
  | .byLength r => needFrom r name a

/-! ## 5. Data -/

/-- The fields of what a block carries. -/
def dataRecord : Record := ⟨"Data", ["hName", "hProperties", "extra"]⟩

/-- The entries of a map of texts. -/
def readTexts : OrderedMap String → List (Leaf String × Draft) → Result (OrderedMap String)
  | acc, [] => .ok acc
  | acc, (key, value) :: rest => do
    let key ← ofFault key.read
    let value ← readText value
    readTexts (acc.insert key value) rest

/-- A map of texts. -/
def readProperties (m : Mode) : Draft → Result (OrderedMap String)
  | .obj members stop => do
    let _ ← m.enter
    let entries ← readTexts .empty members
    finish stop
    return entries
  | d => wrongType d "a map"

/-- The entries of a map of values. -/
def readValues (m : Mode) : OrderedMap Json → List (Leaf String × Draft) →
    Result (OrderedMap Json)
  | acc, [] => .ok acc
  | acc, (key, value) :: rest => do
    let key ← ofFault key.read
    let depth := match m with
      | .direct depth => depth
      | .checked => 0
    let value ← ofFault (value.toJson depth)
    readValues m (acc.insert key value.sorted) rest

/-- A map of values. The objects inside the values are sorted. -/
def readExtra (m : Mode) : Draft → Result (OrderedMap Json)
  | .obj members stop => do
    let m ← m.enter
    let entries ← readValues m .empty members
    finish stop
    return entries
  | d => wrongType d "a map"

/-- The fields of what a block carries as far as they were read. -/
structure DataSlots where
  name : Option (Option String) := none
  properties : Option (OrderedMap String) := none
  extra : Option (OrderedMap Json) := none

/-- The data its fields make; all of them may be missing. -/
def DataSlots.build (s : DataSlots) : Data :=
  ⟨s.name.getD none, s.properties.getD .empty, s.extra.getD .empty⟩

/-- Reads one field. -/
def DataSlots.put (m : Mode) (s : DataSlots) (field : String) (d : Draft) :
    Result DataSlots :=
  match field with
  | "hName" => do
    if s.name.isSome then mismatch (.duplicateField field)
    else return { s with name := some (← readOptionalText d) }
  | "hProperties" => do
    if s.properties.isSome then mismatch (.duplicateField field)
    else return { s with properties := some (← readProperties m d) }
  | "extra" => do
    if s.extra.isSome then mismatch (.duplicateField field)
    else return { s with extra := some (← readExtra m d) }
  | _ => do m.pass d; return s

/-- Reads the members of an object. -/
def DataSlots.fill (m : Mode) (s : DataSlots) : List (Leaf String × Draft) → Result DataSlots
  | [] => .ok s
  | (key, value) :: rest => do
    let key ← ofFault key.read
    let s ← s.put m key value
    s.fill m rest

/-- Reads the items of an array as fields in their order. -/
def DataSlots.fillFrom (m : Mode) (s : DataSlots) : List String → List Draft → Result DataSlots
  | field :: fields, item :: items => do
    let s ← s.put m field item
    s.fillFrom m fields items
  | _, _ => .ok s

/-- What a block carries. -/
def readData (m : Mode) : Draft → Result Data
  | .obj members stop => do
    let m ← m.enter
    let s ← ({} : DataSlots).fill m members
    finish stop
    return s.build
  | .arr items stop => do
    let m ← m.enter
    let s ← ({} : DataSlots).fillFrom m dataRecord.fields items
    finishFields m dataRecord.fields.length items.length stop
    return s.build
  | d => wrongType d "struct Data"

/-! ## 6. Inlines -/

/-- The type names of inlines. -/
def inlineNames : List String :=
  ["text", "emphasis", "strong", "delete", "inlineCode", "break", "link", "image", "html"]

/-- The fields of an inline of some type. -/
def inlineRecord : String → Record
  | "text" => ⟨"Text", ["value"]⟩
  | "emphasis" => ⟨"Emphasis", ["children"]⟩
  | "strong" => ⟨"Strong", ["children"]⟩
  | "delete" => ⟨"Delete", ["children"]⟩
  | "inlineCode" => ⟨"InlineCode", ["value"]⟩
  | "link" => ⟨"Link", ["url", "title", "children"]⟩
  | "image" => ⟨"Image", ["url", "title", "alt"]⟩
  | "html" => ⟨"InlineHtml", ["value"]⟩
  | _ => ⟨"", []⟩

/-- The fields of an inline as far as they were read. -/
structure InlineSlots where
  value : Option String := none
  children : Option (List Inline) := none
  url : Option String := none
  title : Option (Option String) := none
  alt : Option String := none

/-- Reads a field that was not read before. -/
def once {α : Type} (field : String) (slot : Option α) (read : Result α) : Result (Option α) :=
  if slot.isSome then mismatch (.duplicateField field) else read.map some

/-- Reads one field; `children` reads it as inlines. -/
def InlineSlots.put (s : InlineSlots) (field : String) (d : Draft)
    (children : Unit → Result (List Inline)) : Result InlineSlots :=
  match field with
  | "value" => do return { s with value := ← once field s.value (readText d) }
  | "children" => do return { s with children := ← once field s.children (children ()) }
  | "url" => do return { s with url := ← once field s.url (readText d) }
  | "title" => do return { s with title := ← once field s.title (readOptionalText d) }
  | "alt" => do return { s with alt := ← once field s.alt (readText d) }
  | _ => return s

/-- The inline of some type that its fields make. -/
def InlineSlots.build (s : InlineSlots) (how : Missing) : String → Result Inline
  | "text" => (how.need "value" s.value).map .text
  | "emphasis" => (how.need "children" s.children).map .emphasis
  | "strong" => (how.need "children" s.children).map .strong
  | "delete" => (how.need "children" s.children).map .delete
  | "inlineCode" => (how.need "value" s.value).map .code
  | "link" => do
    let url ← how.need "url" s.url
    let children ← how.need "children" s.children
    return .link url (s.title.getD none) children
  | "image" => do
    let url ← how.need "url" s.url
    let alt ← how.need "alt" s.alt
    return .image url (s.title.getD none) alt
  | "html" => (how.need "value" s.value).map .html
  | _ => return .lineBreak

mutual

/-- An inline. -/
def readInline (m : Mode) : Draft → Result Inline
  | .obj members stop => do
    let kind ← kindOf m "Inline" inlineNames (.obj members stop)
    let s ← fillInline (inlineRecord kind) {} members
    s.build .byName kind
  | .arr items stop => do
    let kind ← kindOf m "Inline" inlineNames (.arr items stop)
    let r := inlineRecord kind
    let s ← fillInlineFrom ("type" :: r.fields) {} items
    finishFields .checked r.fields.length (items.length - 1) none
    s.build (.byLength r) kind
  | .scalar leaf => wrongType (.scalar leaf) "internally tagged enum Inline"

/-- A sequence of inlines. -/
def readInlines (m : Mode) : Draft → Result (List Inline)
  | .arr items stop => do
    let m ← m.enter
    let is ← readInlineItems m items
    finish stop
    return is
  | .obj members stop => wrongType (.obj members stop) "a sequence"
  | .scalar leaf => wrongType (.scalar leaf) "a sequence"

/-- The inlines of an array. -/
def readInlineItems (m : Mode) : List Draft → Result (List Inline)
  | [] => .ok []
  | d :: ds => do
    let i ← readInline m d
    let is ← readInlineItems m ds
    return i :: is

/-- Reads the members of an object as fields of an inline. -/
def fillInline (r : Record) (s : InlineSlots) : List (Leaf String × Draft) → Result InlineSlots
  | [] => .ok s
  | e :: rest => do
    let s ← fillInlineMember r s e
    fillInline r s rest

/-- Reads a member of an object as a field of an inline. -/
def fillInlineMember (r : Record) (s : InlineSlots) : Leaf String × Draft → Result InlineSlots
  | (key, value) => do
    let key ← ofFault key.read
    if r.fields.contains key then s.put key value fun _ => readInlines .checked value
    else return s

/-- Reads the items of an array as fields of an inline. -/
def fillInlineFrom (fields : List String) (s : InlineSlots) : List Draft → Result InlineSlots
  | [] => .ok s
  | item :: items =>
    match fields with
    | [] => .ok s
    | field :: fields => do
      let s ← s.put field item fun _ => readInlines .checked item
      fillInlineFrom fields s items

end

/-! ## 7. Blocks -/

/-- The type names of blocks. -/
def blockNames : List String :=
  ["paragraph", "heading", "blockquote", "callout", "list", "code", "thematicBreak", "html"]

/-- The fields of a document. -/
def rootRecord : Record := ⟨"Root", ["children"]⟩

/-- The fields of an item of a list. -/
def itemRecord : Record := ⟨"ListItem", ["spread", "children", "data"]⟩

/-- The fields of a quote. -/
def quoteRecord : Record := ⟨"BlockQuote", ["children", "data"]⟩

/-- The fields of a block of some type. -/
def blockRecord : String → Record
  | "paragraph" => ⟨"Paragraph", ["children", "data"]⟩
  | "heading" => ⟨"Heading", ["depth", "children", "data"]⟩
  | "blockquote" => quoteRecord
  | "callout" => ⟨"Callout", ["calloutType", "children", "data"]⟩
  | "list" => ⟨"List", ["ordered", "start", "spread", "children", "data"]⟩
  | "code" => ⟨"Code", ["lang", "meta", "value", "data"]⟩
  | "thematicBreak" => ⟨"ThematicBreak", ["data"]⟩
  | _ => ⟨"Html", ["value", "data"]⟩

/-- What the children of a record are. -/
inductive ChildKind where
  | inlines
  | blocks
  | items

/-- What the children of a record are, by its name. -/
def Record.childKind (r : Record) : ChildKind :=
  if r.name == "Paragraph" || r.name == "Heading" then .inlines
  else if r.name == "List" then .items
  else .blocks

/-- The fields of a block, an item or a document as far as they were read. -/
structure BlockSlots where
  inlines : Option (List Inline) := none
  blocks : Option (List Block) := none
  items : Option (List Item) := none
  depth : Option UInt8 := none
  calloutType : Option String := none
  ordered : Option Bool := none
  start : Option (Option UInt64) := none
  spread : Option Bool := none
  language : Option (Option String) := none
  details : Option (Option String) := none
  value : Option String := none
  data : Option Data := none

/-- Reads one field of a record; `blocks` and `items` read it as such. -/
def BlockSlots.put (m : Mode) (r : Record) (s : BlockSlots) (field : String) (d : Draft)
    (blocks : Unit → Result (List Block)) (items : Unit → Result (List Item)) :
    Result BlockSlots :=
  if r.fields.contains field then
    match field with
    | "children" =>
      match r.childKind with
      | .inlines => do return { s with inlines := ← once field s.inlines (readInlines m d) }
      | .blocks => do return { s with blocks := ← once field s.blocks (blocks ()) }
      | .items => do return { s with items := ← once field s.items (items ()) }
    | "depth" => do return { s with depth := ← once field s.depth (readByte d) }
    | "calloutType" => do
      return { s with calloutType := ← once field s.calloutType (readText d) }
    | "ordered" => do return { s with ordered := ← once field s.ordered (readBool d) }
    | "start" => do return { s with start := ← once field s.start (readOptionalCount d) }
    | "spread" => do return { s with spread := ← once field s.spread (readBool d) }
    | "lang" => do return { s with language := ← once field s.language (readOptionalText d) }
    | "meta" => do return { s with details := ← once field s.details (readOptionalText d) }
    | "value" => do return { s with value := ← once field s.value (readText d) }
    | "data" => do return { s with data := ← once field s.data (readData m d) }
    | _ => return s
  else do
    m.pass d
    return s

/-- The data of a record. -/
def BlockSlots.getData (s : BlockSlots) : Data := s.data.getD .none

/-- The block of some type that its fields make. -/
def BlockSlots.build (s : BlockSlots) (how : Missing) : String → Result Block
  | "paragraph" => do return .paragraph (← how.need "children" s.inlines) s.getData
  | "heading" => do
    let depth ← how.need "depth" s.depth
    return .heading depth (← how.need "children" s.inlines) s.getData
  | "blockquote" => do return .quote (← how.need "children" s.blocks) s.getData
  | "callout" => do
    let kind ← how.need "calloutType" s.calloutType
    return .callout kind (← how.need "children" s.blocks) s.getData
  | "list" => do
    let ordered ← how.need "ordered" s.ordered
    let spread ← how.need "spread" s.spread
    let items ← how.need "children" s.items
    return .list ordered (s.start.getD none) spread items s.getData
  | "code" => do
    let value ← how.need "value" s.value
    return .code (s.language.getD none) (s.details.getD none) value s.getData
  | "thematicBreak" => return .rule s.getData
  | _ => do return .html (← how.need "value" s.value) s.getData

/-- The item that its fields make. -/
def BlockSlots.buildItem (s : BlockSlots) (how : Missing) : Result Item := do
  let spread ← how.need "spread" s.spread
  return .mk spread (← how.need "children" s.blocks) s.getData

mutual

/-- A block. -/
def readBlock (m : Mode) : Draft → Result Block
  | .obj members stop => do
    let kind ← kindOf m "Block" blockNames (.obj members stop)
    let s ← fillBlock .checked (blockRecord kind) {} members
    s.build .byName kind
  | .arr items stop => do
    let kind ← kindOf m "Block" blockNames (.arr items stop)
    let r := blockRecord kind
    let s ← fillBlockFrom .checked r ("type" :: r.fields) {} items
    finishFields .checked r.fields.length (items.length - 1) none
    s.build (.byLength r) kind
  | .scalar leaf => wrongType (.scalar leaf) "internally tagged enum Block"

/-- A sequence of blocks. -/
def readBlocks (m : Mode) : Draft → Result (List Block)
  | .arr items stop => do
    let m ← m.enter
    let bs ← readBlockItems m items
    finish stop
    return bs
  | .obj members stop => wrongType (.obj members stop) "a sequence"
  | .scalar leaf => wrongType (.scalar leaf) "a sequence"

/-- The blocks of an array. -/
def readBlockItems (m : Mode) : List Draft → Result (List Block)
  | [] => .ok []
  | d :: ds => do
    let b ← readBlock m d
    let bs ← readBlockItems m ds
    return b :: bs

/-- An item. -/
def readItem (m : Mode) : Draft → Result Item
  | .obj members stop => do
    let m ← m.enter
    let s ← fillBlock m itemRecord {} members
    finish stop
    s.buildItem .byName
  | .arr items stop => do
    let m ← m.enter
    let s ← fillBlockFrom m itemRecord itemRecord.fields {} items
    finishFields m itemRecord.fields.length items.length stop
    s.buildItem (.byLength itemRecord)
  | .scalar leaf => wrongType (.scalar leaf) "struct ListItem"

/-- A sequence of items. -/
def readItems (m : Mode) : Draft → Result (List Item)
  | .arr items stop => do
    let m ← m.enter
    let is ← readItemItems m items
    finish stop
    return is
  | .obj members stop => wrongType (.obj members stop) "a sequence"
  | .scalar leaf => wrongType (.scalar leaf) "a sequence"

/-- The items of an array. -/
def readItemItems (m : Mode) : List Draft → Result (List Item)
  | [] => .ok []
  | d :: ds => do
    let i ← readItem m d
    let is ← readItemItems m ds
    return i :: is

/-- Reads the members of an object as fields of a record. -/
def fillBlock (m : Mode) (r : Record) (s : BlockSlots) :
    List (Leaf String × Draft) → Result BlockSlots
  | [] => .ok s
  | e :: rest => do
    let s ← fillBlockMember m r s e
    fillBlock m r s rest

/-- Reads a member of an object as a field of a record. -/
def fillBlockMember (m : Mode) (r : Record) (s : BlockSlots) :
    Leaf String × Draft → Result BlockSlots
  | (key, value) => do
    let key ← ofFault key.read
    s.put m r key value (fun _ => readBlocks m value) (fun _ => readItems m value)

/-- Reads the items of an array as fields of a record. -/
def fillBlockFrom (m : Mode) (r : Record) (fields : List String) (s : BlockSlots) :
    List Draft → Result BlockSlots
  | [] => .ok s
  | item :: items =>
    match fields with
    | [] => .ok s
    | field :: fields => do
      let s ← s.put m r field item (fun _ => readBlocks m item) (fun _ => readItems m item)
      fillBlockFrom m r fields s items

end

/-- The fields of a record given as an object or an array. -/
def readRecord {α : Type} (m : Mode) (r : Record) (build : BlockSlots → Missing → Result α) :
    Draft → Result α
  | .obj members stop => do
    let m ← m.enter
    let s ← fillBlock m r {} members
    finish stop
    build s .byName
  | .arr items stop => do
    let m ← m.enter
    let s ← fillBlockFrom m r r.fields {} items
    finishFields m r.fields.length items.length stop
    build s (.byLength r)
  | d => wrongType d ("struct " ++ r.name)

/-- A document. -/
def readRoot (m : Mode) : Draft → Result Root :=
  readRecord m rootRecord fun s how => do return ⟨← how.need "children" s.blocks⟩

/-- A quote without its type. -/
def readQuote (m : Mode) : Draft → Result (List Block × Data) :=
  readRecord m quoteRecord fun s how => do return (← how.need "children" s.blocks, s.getData)

/-! ## 8. Whole texts -/

/-- Reads a whole text: after the value nothing but blanks may come. -/
def ofText {α : Type} (read : Mode → Draft → Result α) (text : String) : Result α := do
  let whole := Draft.ofText text
  let value ← read (.direct 0) whole.value
  if whole.trailing then fault .trailingCharacters else return value

/-- A JSON value, its objects sorted. -/
def readJson (m : Mode) (d : Draft) : Result Json :=
  match m with
  | .direct depth => (ofFault (d.toJson depth)).map Json.sorted
  | .checked => (ofFault (d.toJson 0)).map Json.sorted

end Tree.Read

/-! ## 9. The readers by what they give -/

/-- Reads a document. -/
def Root.ofText (text : String) : Except ReadError Root :=
  Tree.Read.ofText Tree.Read.readRoot text

/-- Reads a sequence of blocks. -/
def Block.listOfText (text : String) : Except ReadError (List Block) :=
  Tree.Read.ofText Tree.Read.readBlocks text

/-- Reads a block. -/
def Block.ofText (text : String) : Except ReadError Block :=
  Tree.Read.ofText Tree.Read.readBlock text

/-- Reads a quote that need not name its type: its blocks and its data. -/
def Block.quoteOfText (text : String) : Except ReadError (List Block × Data) :=
  Tree.Read.ofText Tree.Read.readQuote text

/-- Reads a sequence of inlines. -/
def Inline.listOfText (text : String) : Except ReadError (List Inline) :=
  Tree.Read.ofText Tree.Read.readInlines text

/-- Reads what a block carries. -/
def Data.ofText (text : String) : Except ReadError Data :=
  Tree.Read.ofText Tree.Read.readData text

/-- Reads a JSON value. -/
def Json.ofText (text : String) : Except ReadError Json :=
  Tree.Read.ofText Tree.Read.readJson text

end Marginalia
