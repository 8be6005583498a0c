/-
Marginalia.Yaml.Fault — places in a YAML text, and why a text is no YAML.

A fault names the problem and where it is, and mostly also what was being
read when it was met and where that began. Places are counted from zero and
worded from one. The very first place of a text is not mentioned, nor is the
place where the reading began if it is the same as that of the problem.
-/

namespace Marginalia.Yaml

/-! ## 1. Places -/

/-- A place in a text: bytes, lines and columns before it. -/
structure Mark where
  index : Nat := 0
  line : Nat := 0
  column : Nat := 0
  deriving DecidableEq, Inhabited, Repr

namespace Mark

/-- Is the place at the start of the text? -/
def isStart (m : Mark) : Bool := m.line == 0 && m.column == 0

/-- Are two places the same line and column? -/
def sameSpot (m n : Mark) : Bool := m.line == n.line && m.column == n.column

/-- The words for a place, or nothing at the start of the text. -/
def suffix (m : Mark) : String :=
  if m.isStart then ""
  else " at line " ++ toString (m.line + 1) ++ " column " ++ toString (m.column + 1)

end Mark

/-! ## 2. Problems -/

/-- What can be wrong with a text. -/
inductive Problem where
  | noToken
  | entryNotAllowed
  | keyNotAllowed
  | valueNotAllowed
  | noColon
  | unexpectedColon
  | tabInIndentation
  | tabForIndentation
  | indentationZero
  | noLineEnd
  | unexpectedDocument
  | unexpectedEnd
  | unknownEscape
  | noHexDigit
  | badEscapeCode
  | unknownDirective
  | noDirectiveName
  | badDirectiveName
  | noVersion
  | longVersion
  | noVersionPart
  | noAnchorName
  | noTagEnd
  | noTagStart
  | noTagBlank
  | noBlank
  | noTagText
  | noTagOctet
  | badLeadingOctet
  | badTrailingOctet
  | noContent
  | noDocumentStart
  | noEntry
  | noKey
  | noSequenceDelimiter
  | noMappingDelimiter
  | undefinedHandle
  | duplicateVersion
  | wrongVersion
  | duplicateHandle
  deriving DecidableEq, Repr

/-- The words for a problem. -/
def Problem.message : Problem → String
  | .noToken => "found character that cannot start any token"
  | .entryNotAllowed => "block sequence entries are not allowed in this context"
  | .keyNotAllowed => "mapping keys are not allowed in this context"
  | .valueNotAllowed => "mapping values are not allowed in this context"
  | .noColon => "could not find expected ':'"
  | .unexpectedColon => "found unexpected ':'"
  | .tabInIndentation => "found a tab character that violates indentation"
  | .tabForIndentation => "found a tab character where an indentation space is expected"
  | .indentationZero => "found an indentation indicator equal to 0"
  | .noLineEnd => "did not find expected comment or line break"
  | .unexpectedDocument => "found unexpected document indicator"
  | .unexpectedEnd => "found unexpected end of stream"
  | .unknownEscape => "found unknown escape character"
  | .noHexDigit => "did not find expected hexadecimal number"
  | .badEscapeCode => "found invalid Unicode character escape code"
  | .unknownDirective => "found unknown directive name"
  | .noDirectiveName => "could not find expected directive name"
  | .badDirectiveName => "found unexpected non-alphabetical character"
  | .noVersion => "did not find expected version number"
  | .longVersion => "found extremely long version number"
  | .noVersionPart => "did not find expected digit or '.' character"
  | .noAnchorName => "did not find expected alphabetic or numeric character"
  | .noTagEnd => "did not find the expected '>'"
  | .noTagStart => "did not find expected '!'"
  | .noTagBlank => "did not find expected whitespace or line break"
  | .noBlank => "did not find expected whitespace"
  | .noTagText => "did not find expected tag URI"
  | .noTagOctet => "did not find URI escaped octet"
  | .badLeadingOctet => "found an incorrect leading UTF-8 octet"
  | .badTrailingOctet => "found an incorrect trailing UTF-8 octet"
  | .noContent => "did not find expected node content"
  | .noDocumentStart => "did not find expected <document start>"
  | .noEntry => "did not find expected '-' indicator"
  | .noKey => "did not find expected key"
  | .noSequenceDelimiter => "did not find expected ',' or ']'"
  | .noMappingDelimiter => "did not find expected ',' or '\x7d'"
  | .undefinedHandle => "found undefined tag handle"
  | .duplicateVersion => "found duplicate %YAML directive"
  | .wrongVersion => "found incompatible YAML document"
  | .duplicateHandle => "found duplicate %TAG directive"

/-- What was being read. -/
inductive Activity where
  | nextToken
  | simpleKey
  | plainScalar
  | quotedScalar
  | escape
  | blockScalar
  | directive
  | versionDirective
  | tagDirective
  | tagDirectiveText
  | tagHandle
  | tagHandleName
  | anchor
  | aliasName
  | tag
  | tagText
  | blockNode
  | flowNode
  | node
  | blockSequence
  | blockMapping
  | flowSequence
  | flowMapping
  deriving DecidableEq, Repr

/-- The words for what was being read. -/
def Activity.message : Activity → String
  | .nextToken => "while scanning for the next token"
  | .simpleKey => "while scanning a simple key"
  | .plainScalar => "while scanning a plain scalar"
  | .quotedScalar => "while scanning a quoted scalar"
  | .escape => "while parsing a quoted scalar"
  | .blockScalar => "while scanning a block scalar"
  | .directive => "while scanning a directive"
  | .versionDirective => "while scanning a %YAML directive"
  | .tagDirective => "while scanning a %TAG directive"
  | .tagDirectiveText => "while parsing a %TAG directive"
  | .tagHandle => "while scanning a tag directive"
  | .tagHandleName => "while parsing a tag directive"
  | .anchor => "while scanning an anchor"
  | .aliasName => "while scanning an alias"
  | .tag => "while scanning a tag"
  | .tagText => "while parsing a tag"
  | .blockNode => "while parsing a block node"
  | .flowNode => "while parsing a flow node"
  | .node => "while parsing a node"
  | .blockSequence => "while parsing a block collection"
  | .blockMapping => "while parsing a block mapping"
  | .flowSequence => "while parsing a flow sequence"
  | .flowMapping => "while parsing a flow mapping"

/-! ## 3. Faults -/

/-- Why a text is no YAML. -/
inductive Fault where
  /-- A control character, behind some bytes. -/
  | control (bytes : Nat)
  /-- A problem, and perhaps what was being read from where. -/
  | problem (problem : Problem) (place : Mark) (reading : Option (Activity × Mark))
  /-- An alias of nothing. -/
  | unknownAnchor (place : Mark)
  deriving DecidableEq, Repr

/-- The sentence that reports a fault. -/
def Fault.message : Fault → String
  | .control bytes =>
    "control characters are not allowed"
      ++ (if bytes = 0 then "" else " at position " ++ toString bytes)
  | .problem p place none => p.message ++ place.suffix
  | .problem p place (some (activity, start)) =>
    p.message ++ place.suffix ++ ", " ++ activity.message
      ++ (if start.sameSpot place then "" else start.suffix)
  | .unknownAnchor place => "unknown anchor" ++ place.suffix

end Marginalia.Yaml
