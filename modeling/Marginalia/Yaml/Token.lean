/-
Marginalia.Yaml.Token — the tokens of YAML texts.
-/
import Marginalia.Yaml.Fault

namespace Marginalia.Yaml

/-- How a scalar is written. -/
inductive Style where
  | plain
  | singleQuoted
  | doubleQuoted
  | literal
  | folded
  deriving DecidableEq, Repr

/-- A token. Those that open and close blocks stand for changes of
indentation. -/
inductive Token where
  | streamStart
  | streamEnd
  | versionDirective (major minor : Nat)
  | tagDirective (handle start : List Char)
  | documentStart
  | documentEnd
  | blockSequenceStart
  | blockMappingStart
  | blockEnd
  | flowSequenceStart
  | flowSequenceEnd
  | flowMappingStart
  | flowMappingEnd
  | blockEntry
  | flowEntry
  | key
  | value
  | alias (name : List Char)
  | anchor (name : List Char)
  | tag (handle rest : List Char)
  | scalar (style : Style) (text : List Char)
  deriving DecidableEq, Repr

/-- A token, where it starts and where it ends. -/
structure Located where
  token : Token
  first : Mark
  last : Mark
  deriving Repr

end Marginalia.Yaml
