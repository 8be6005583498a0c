/-
Marginalia.Yaml.Event — a YAML document as a sequence of events.

A document is read as the events of going through it: scalars, aliases, and
the starts and ends of sequences and mappings. Where the text breaks off,
the events before are still there, so that what is wrong with them can be
reported first. Only the first document of a text is read, and whether
another one follows.

An alias stands for the node with its anchor. Anchors are told apart by
numbers: an anchor gets the number of names known when it is met, and the
last node with a number is the one that counts.
-/
import Marginalia.Yaml.Tokens

namespace Marginalia.Yaml

/-! ## 1. Events -/

/-- A step in going through a document. -/
inductive Event where
  /-- There is no document. -/
  | void
  | alias (number : Nat)
  | scalar (tag : Option (List Char)) (style : Style) (text : List Char)
  | sequenceStart
  | sequenceEnd
  | mappingStart
  | mappingEnd
  deriving DecidableEq, Repr

/-- The first document of a text. -/
structure Document where
  /-- The events and where they start. -/
  events : List (Event × Mark)
  /-- Where the nodes with anchors are, by the numbers of the anchors, newest
  first: how many events are before them. -/
  anchors : List (Nat × Nat)
  /-- Why the document breaks off, if it does. -/
  fault : Option Fault
  /-- Does nothing follow the document? -/
  single : Bool

/-- A document while it is read. -/
structure Parse where
  tokens : List Located
  /-- The fault at which the tokens break off. -/
  fault : Fault
  /-- The events, newest first. -/
  events : List (Event × Mark) := []
  /-- The names of the anchors and their numbers. -/
  names : List (List Char × Nat) := []
  anchors : List (Nat × Nat) := []
  /-- The handles of tags and what they stand for. -/
  handles : List (List Char × List Char) := []

/-- Reading that may fail; what was read before stays. -/
abbrev Parsing := ExceptT Fault (StateM Parse)

namespace Parsing

/-! ## 2. Steps -/

/-- The next token. -/
def peek : Parsing Located := do
  let s ← get
  match s.tokens with
  | t :: _ => return t
  | [] => throw s.fault

/-- Goes on behind the next token. -/
def skip : Parsing Unit := modify fun s => { s with tokens := s.tokens.drop 1 }

/-- Notes an event. -/
def emit (e : Event) (mark : Mark) : Parsing Unit :=
  modify fun s => { s with events := (e, mark) :: s.events }

/-- Notes that the next event is that of a node with an anchor. -/
def noteAnchor (anchor : Option (List Char)) : Parsing Unit :=
  match anchor with
  | none => return
  | some name => modify fun s =>
    { s with
      names := (name, s.names.length) :: s.names.filter (·.1 != name)
      anchors := (s.names.length, s.events.length) :: s.anchors }

/-- Notes an empty scalar. -/
def emitEmpty (mark : Mark) : Parsing Unit := emit (.scalar none .plain []) mark

/-- Fails with a problem at a token. -/
def failAt {α : Type} (t : Located) (p : Problem) (reading : Option (Activity × Mark)) :
    Parsing α :=
  throw (.problem p t.first reading)

/-! ## 3. Properties -/

/-- What stands before a node. -/
structure Properties where
  anchor : Option (List Char) := none
  /-- The handle and the rest of the tag, and where it is. -/
  tag : Option ((List Char × List Char) × Mark) := none
  /-- Where the first of them is. -/
  first : Mark

/-- Reads an anchor, if one comes next. -/
def anchor? : Parsing (Option (List Char)) := do
  match (← peek).token with
  | .anchor name => skip; return some name
  | _ => return none

/-- Reads a tag, if one comes next. -/
def tag? : Parsing (Option ((List Char × List Char) × Mark)) := do
  let t ← peek
  match t.token with
  | .tag handle rest => skip; return some ((handle, rest), t.first)
  | _ => return none

/-- Reads an anchor and a tag, in either order. -/
def properties : Parsing Properties := do
  let first := (← peek).first
  match ← anchor? with
  | some name => return { anchor := some name, tag := ← tag?, first }
  | none => match ← tag? with
    | some tag => return { anchor := ← anchor?, tag := some tag, first }
    | none => return { first }

/-- The full tag, with its handle resolved. -/
def fullTag (p : Properties) : Parsing (Option (List Char)) := do
  match p.tag with
  | none => return none
  | some (([], rest), _) => return some rest
  | some ((handle, rest), mark) =>
    match (← get).handles.lookup handle with
    | some start => return some (start ++ rest)
    | none => throw (.problem .undefinedHandle mark (some (.node, p.first)))

/-- The tag that an event of a scalar carries: none for the tag `!`. -/
def scalarTag (tag : Option (List Char)) : Option (List Char) :=
  if tag = some ['!'] then none else tag

/-! ## 4. Nodes -/

/-- Does an entry of a block sequence end before it has a node? -/
def endsEntry : Token → Bool
  | .blockEntry | .blockEnd => true
  | _ => false

/-- Does a key or a value of a block mapping end before it has a node? -/
def endsPair : Token → Bool
  | .key | .value | .blockEnd => true
  | _ => false

mutual

/-- Reads a node. -/
def node (n : Nat) (block indentless : Bool) : Parsing Unit := do
  match n with
  | 0 => return
  | n + 1 =>
    let t ← peek
    if let .alias name := t.token then
      skip
      match (← get).names.lookup name with
      | some number => emit (.alias number) t.first
      | none => throw (.unknownAnchor t.first)
    else
      let p ← properties
      let t ← peek
      let tag ← fullTag p
      match t.token with
      | .scalar style text =>
        skip
        noteAnchor p.anchor
        emit (.scalar (scalarTag tag) style text) p.first
      | .flowSequenceStart =>
        noteAnchor p.anchor
        emit .sequenceStart p.first
        skip
        flowEntries n true t.first
      | .flowMappingStart =>
        noteAnchor p.anchor
        emit .mappingStart p.first
        skip
        flowPairs n true t.first
      | other =>
        if indentless && other == .blockEntry then
          noteAnchor p.anchor
          emit .sequenceStart p.first
          indentlessEntries n
        else if block && other == .blockSequenceStart then
          noteAnchor p.anchor
          emit .sequenceStart p.first
          skip
          blockEntries n t.first
        else if block && other == .blockMappingStart then
          noteAnchor p.anchor
          emit .mappingStart p.first
          skip
          blockPairs n t.first
        else if p.anchor.isSome || tag.isSome then
          noteAnchor p.anchor
          emit (.scalar tag .plain []) p.first
        else
          failAt t .noContent (some (if block then .blockNode else .flowNode, p.first))

/-- Reads the entries of an indented sequence. -/
def blockEntries (n : Nat) (start : Mark) : Parsing Unit := do
  match n with
  | 0 => return
  | n + 1 =>
    let t ← peek
    match t.token with
    | .blockEntry =>
      skip
      if endsEntry (← peek).token then emitEmpty t.last else node n true false
      blockEntries n start
    | .blockEnd =>
      emit .sequenceEnd t.first
      skip
    | _ => failAt t .noEntry (some (.blockSequence, start))

/-- Reads the entries of a sequence that is not indented in its mapping. -/
def indentlessEntries (n : Nat) : Parsing Unit := do
  match n with
  | 0 => return
  | n + 1 =>
    let t ← peek
    match t.token with
    | .blockEntry =>
      skip
      let next := (← peek).token
      if endsEntry next || endsPair next then emitEmpty t.last else node n true false
      indentlessEntries n
    | _ => emit .sequenceEnd t.first

/-- Reads the keys and values of an indented mapping. -/
def blockPairs (n : Nat) (start : Mark) : Parsing Unit := do
  match n with
  | 0 => return
  | n + 1 =>
    let t ← peek
    match t.token with
    | .key =>
      skip
      if endsPair (← peek).token then emitEmpty t.last else node n true true
      let t ← peek
      match t.token with
      | .value =>
        skip
        if endsPair (← peek).token then emitEmpty t.last else node n true true
      | _ => emitEmpty t.first
      blockPairs n start
    | .blockEnd =>
      emit .mappingEnd t.first
      skip
    | _ => failAt t .noKey (some (.blockMapping, start))

/-- Reads the entries of a sequence in brackets. -/
def flowEntries (n : Nat) (isFirst : Bool) (start : Mark) : Parsing Unit := do
  match n with
  | 0 => return
  | n + 1 =>
    let t ← peek
    if t.token == .flowSequenceEnd then
      emit .sequenceEnd t.first
      skip
    else
      if !isFirst then
        if t.token == .flowEntry then skip
        else failAt t .noSequenceDelimiter (some (.flowSequence, start))
      let t ← peek
      match t.token with
      | .key =>
        emit .mappingStart t.first
        skip
        flowPairInSequence n
        flowEntries n false start
      | .flowSequenceEnd =>
        emit .sequenceEnd t.first
        skip
      | _ =>
        node n false false
        flowEntries n false start

/-- Reads a key and a value that stand in brackets without braces. -/
def flowPairInSequence (n : Nat) : Parsing Unit := do
  match n with
  | 0 => return
  | n + 1 =>
    let t ← peek
    match t.token with
    | .value | .flowEntry | .flowSequenceEnd =>
      skip
      emitEmpty t.last
    | _ => node n false false
    let t ← peek
    match t.token with
    | .value =>
      skip
      let next ← peek
      match next.token with
      | .flowEntry | .flowSequenceEnd => emitEmpty next.first
      | _ => node n false false
    | _ => emitEmpty t.first
    emit .mappingEnd (← peek).first

/-- Reads the keys and values of a mapping in braces. -/
def flowPairs (n : Nat) (isFirst : Bool) (start : Mark) : Parsing Unit := do
  match n with
  | 0 => return
  | n + 1 =>
    let t ← peek
    if t.token == .flowMappingEnd then
      emit .mappingEnd t.first
      skip
    else
      if !isFirst then
        if t.token == .flowEntry then skip
        else failAt t .noMappingDelimiter (some (.flowMapping, start))
      let t ← peek
      match t.token with
      | .key =>
        skip
        let next ← peek
        match next.token with
        | .value | .flowEntry | .flowMappingEnd => emitEmpty next.first
        | _ => node n false false
        let t ← peek
        match t.token with
        | .value =>
          skip
          let next ← peek
          match next.token with
          | .flowEntry | .flowMappingEnd => emitEmpty next.first
          | _ => node n false false
        | _ => emitEmpty t.first
        flowPairs n false start
      | .flowMappingEnd =>
        emit .mappingEnd t.first
        skip
      | _ =>
        node n false false
        emitEmpty (← peek).first
        flowPairs n false start

end

/-! ## 5. Documents -/

/-- The handles of tags that every document knows. -/
def commonHandles : List (List Char × List Char) :=
  [(['!'], ['!']), (['!', '!'], "tag:yaml.org,2002:".toList)]

/-- Reads the directives of a document; `versioned` says that one of them gave
a version. -/
def directives (versioned : Bool) : Nat → Parsing Unit
  | 0 => return
  | n + 1 => do
    let t ← peek
    match t.token with
    | .versionDirective major minor =>
      if versioned then failAt t .duplicateVersion none
      if major != 1 || (minor != 1 && minor != 2) then failAt t .wrongVersion none
      skip
      directives true n
    | .tagDirective handle start =>
      if ((← get).handles.lookup handle).isSome then failAt t .duplicateHandle none
      modify fun s => { s with handles := s.handles ++ [(handle, start)] }
      skip
      directives versioned n
    | _ => return

/-- Reads what stands in a document, within `n` steps. -/
def document (n : Nat) : Parsing Unit := do
  skip
  let t ← peek
  let addCommon : Parsing Unit := modify fun s =>
    { s with handles := s.handles ++ commonHandles }
  match t.token with
  | .streamEnd => emit .void t.first
  | .versionDirective .. | .tagDirective .. | .documentStart =>
    directives false n
    addCommon
    let t ← peek
    if t.token != .documentStart then failAt t .noDocumentStart none
    skip
    let t ← peek
    match t.token with
    | .versionDirective .. | .tagDirective .. | .documentStart | .documentEnd | .streamEnd =>
      emitEmpty t.first
    | _ => node n true false
    if (← peek).token == .documentEnd then skip
  | _ =>
    addCommon
    node n true false
    if (← peek).token == .documentEnd then skip

end Parsing

/-- The first document of a text. -/
def Document.ofText (text : List Char) : Document :=
  let (tokens, fault) := tokens text
  let start : Parse := { tokens, fault := fault.getD (.problem .unexpectedEnd {} none) }
  let (result, s) := (Parsing.document (4 * tokens.length + 10)).run start
  { events := s.events.reverse
    anchors := s.anchors
    fault := match result with
      | .ok _ => none
      | .error f => some f
    single := (s.tokens.dropWhile (·.token == .documentEnd)).head?.any
      (·.token == .streamEnd) }

end Marginalia.Yaml
