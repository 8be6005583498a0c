/-
Marginalia.Settings.OfYaml — settings from YAML texts.

The settings are a mapping of sections, and a section is a mapping of
fields; what is left out has its default, and so has a section that is left
empty. The section of the reader may have further fields, which mean
nothing; elsewhere unknown fields are errors. A text is read from front to
back, so that of two errors the first one in the text is reported, whether
it is one of YAML or of the settings.
-/
import Marginalia.Settings.Basic
import Marginalia.Settings.Error
import Marginalia.Text.Blank

namespace Marginalia.Settings

open Yaml (Event Mark Document)

/-! ## 1. Events -/

/-- The event with a number; events end at a fault, if the document has one. -/
def eventAt (d : Document) (n : Nat) : Except Error (Event × Mark) :=
  match d.events[n]? with
  | some e => .ok e
  | none => .error (match d.fault with
    | some f => .yaml f
    | none => .endOfText)

/-- The event that starts a node, its place, and the number of the event behind
it; of an alias, those of the node it stands for. -/
def nodeAt (d : Document) (n : Nat) : Except Error (Event × Mark × Nat) := do
  let (e, mark) ← eventAt d n
  match e with
  | .alias number => match d.anchors.lookup number with
    | some target =>
      let (e, mark) ← eventAt d target
      return (e, mark, target + 1)
    | none => .error .endOfText
  | _ => return (e, mark, n + 1)

/-- The number of the event behind a node, of whose collections `depth` are
open; at most `fuel` events are skipped. -/
def skipFrom (d : Document) : Nat → Nat → Nat → Except Error Nat
  | 0, _, n => .ok n
  | fuel + 1, depth, n => do
    let (e, _) ← eventAt d n
    let depth := match e with
      | .sequenceStart | .mappingStart => depth + 1
      | .sequenceEnd | .mappingEnd => depth - 1
      | _ => depth
    if depth = 0 then return n + 1 else skipFrom d fuel depth (n + 1)

/-- The number of the event behind a node. -/
def skipNode (d : Document) (n : Nat) : Except Error Nat :=
  skipFrom d (d.events.length + 1) 0 n

/-- What is wrong where an event stands in the place of something else. -/
def mismatch (e : Event) (expected : String) : Wrong :=
  match e with
  | .scalar tag style text => match Yaml.Meaning.ofScalar tag style text with
    | .ok m => .wrongType (.scalar m) expected
    | .error asked => .wrongTag text asked
  | .mappingStart => .wrongType .map expected
  | _ => .wrongType .sequence expected

/-! ## 2. Fields -/

/-- Reads a truth value. -/
def readBool (d : Document) (path : FieldPath) (n : Nat) : Except Error (Bool × Nat) := do
  let (e, mark, _) ← nodeAt d n
  let value? := match e with
    | .scalar tag style text => if Yaml.mayBeBool tag style then Yaml.boolOf? text else none
    | _ => none
  match value? with
  | some b => return (b, n + 1)
  | none => .error (.wrong (mismatch e "a boolean") path mark)

/-- Reads a text: any scalar, as it is written. -/
def readText (d : Document) (expected : String) (path : FieldPath) (n : Nat) :
    Except Error ((List Char × Mark) × Nat) := do
  let (e, mark, _) ← nodeAt d n
  match e with
  | .scalar _ _ text => return ((text, mark), n + 1)
  | _ => .error (.wrong (mismatch e expected) path mark)

/-- A field that the settings, or a section of them, may have. -/
structure Field where
  name : String
  /-- Reads its value and puts it into the settings. -/
  read : FieldPath → Nat → Settings → Except Error (Settings × Nat)

/-- Reads the fields of a mapping, at most `fuel` of them, up to its end;
`seen` are the names read so far. -/
def readFields (d : Document) (fields : List Field) (closed : Bool) (path : FieldPath)
    (start : Mark) : Nat → List String → Settings → Nat → Except Error (Settings × Nat)
  | 0, _, s, n => .ok (s, n)
  | fuel + 1, seen, s, n => do
    let (e, _) ← eventAt d n
    match e with
    | .mappingEnd | .void => return (s, n + 1)
    | _ =>
      let ((key, mark), next) ← readText d "field identifier" path n
      let step := match e with
        | .scalar .. => some key
        | _ => none
      match fields.find? (·.name.toList == key) with
      | some f =>
        if seen.contains f.name then .error (.wrong (.duplicateField f.name) path start)
        else
          let (s, next) ← f.read (path ++ [step]) next s
          readFields d fields closed path start fuel (f.name :: seen) s next
      | none =>
        if closed then .error (.wrong (.unknownField key (fields.map Field.name)) path mark)
        else
          let next ← skipNode d next
          readFields d fields closed path start fuel seen s next

/-- Reads a mapping of fields, or nothing at all in its place. -/
def readSection (d : Document) (expected : String) (fields : List Field) (closed : Bool)
    (path : FieldPath) (n : Nat) (s : Settings) : Except Error (Settings × Nat) := do
  let (e, mark, body) ← nodeAt d n
  match e with
  | .mappingStart =>
    let (s, behind) ← readFields d fields closed path mark (d.events.length + 1) [] s body
    return (s, if body = n + 1 then behind else n + 1)
  | .void | .scalar _ .plain [] => return (s, n + 1)
  | _ => .error (.wrong (mismatch e expected) path mark)

/-! ## 3. Sections -/

/-- A field that holds a truth value. -/
def boolField (d : Document) (name : String) (set : Bool → Settings → Settings) : Field where
  name
  read path n s := (readBool d path n).map fun (b, next) => (set b s, next)

/-- A field that holds a text. -/
def textField (d : Document) (name : String) (set : String → Settings → Settings) : Field where
  name
  read path n s := (readText d "a string" path n).map fun ((t, _), next) =>
    (set (String.ofList t) s, next)

/-- A field that holds a section. -/
def sectionField (d : Document) (name expected : String) (fields : List Field)
    (closed : Bool) :
    Field where
  name
  read path n s := readSection d expected fields closed path n s

/-- The section that says how markdown is read. -/
def readerFields (d : Document) : List Field :=
  [boolField d "gfm" fun b s => { s with gfm := b }]

/-- The section that says how HTML is written. -/
def htmlFields (d : Document) : List Field :=
  [boolField d "allow-dangerous-html" fun b s => { s with rawHtml := b }]

/-- The section that says whether and how callouts are made. -/
def calloutFields (d : Document) : List Field :=
  [boolField d "enabled" fun b s => { s with callouts := b },
    textField d "element" fun t s => { s with element := t }]

/-- All sections. -/
def sections (d : Document) : List Field :=
  [sectionField d "reader" "struct ReaderOptions" (readerFields d) false,
    sectionField d "html" "struct HtmlOptions" (htmlFields d) true,
    sectionField d "callout" "struct CalloutOptions" (calloutFields d) true]

/-! ## 4. Settings -/

/-- The settings that a document holds. -/
def ofDocument (d : Document) : Except Error Settings := do
  let (s, _) ← readSection d "struct AsideConfig" (sections d) true [] 0 {}
  match d.fault with
  | some f => .error (.yaml f)
  | none => if d.single then return s else .error .moreDocuments

/-- The settings that a text writes. -/
def ofYaml (text : String) : Except Error Settings :=
  if (Text.trim text.toList).isEmpty then .ok {} else ofDocument (Document.ofText text.toList)

end Marginalia.Settings
