/-
Marginalia.Command.Argument — the shapes that arguments have.

Two dashes start a long flag, which may have a value behind an equals sign;
one dash starts a row of letters; two dashes alone say that no flags follow.
Everything else is plain, also a single dash.
-/

namespace Marginalia.Command

/-- The shape of an argument. -/
inductive Argument where
  /-- Two dashes alone. -/
  | escape
  | long (name : List Char) (value : Option (List Char))
  | letters (first : Char) (rest : List Char)
  | plain (text : List Char)
  deriving DecidableEq, Repr

namespace Argument

/-- A long flag: its name and what is behind the first equals sign. -/
def splitValue (text : List Char) : List Char × Option (List Char) :=
  match text.dropWhile (· != '=') with
  | [] => (text, none)
  | _ :: value => (text.takeWhile (· != '='), some value)

/-- The shape of an argument. -/
def ofChars : List Char → Argument
  | ['-', '-'] => .escape
  | '-' :: '-' :: rest => .long (splitValue rest).1 (splitValue rest).2
  | '-' :: first :: rest => .letters first rest
  | text => .plain text

/-- The text of an argument. -/
def chars : Argument → List Char
  | .escape => ['-', '-']
  | .long name none => '-' :: '-' :: name
  | .long name (some value) => '-' :: '-' :: name ++ '=' :: value
  | .letters first rest => '-' :: first :: rest
  | .plain text => text

end Argument

end Marginalia.Command
