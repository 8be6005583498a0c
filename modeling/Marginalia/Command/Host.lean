/-
Marginalia.Command.Host — what a program needs from where it runs.

A host has a current directory with files in it and a standard input. It
may refuse to read or to write; then nothing is changed.
-/

namespace Marginalia.Command

/-- Why a host refuses to read or to write. -/
inductive Refusal where
  /-- There is nothing under the name. -/
  | notFound
  /-- A directory stands in the place of a file. -/
  | isDirectory
  /-- A file stands in the place of a directory. -/
  | notDirectory
  /-- The name, or a part of it, is too long. -/
  | nameTooLong
  /-- The bytes are not the encoding of a text. -/
  | notText
  /-- Another reason, in the host's words. -/
  | other (reason : String)
  deriving DecidableEq, Repr

/-- The words for a refusal. -/
def Refusal.message : Refusal → String
  | .notFound => "No such file or directory (os error 2)"
  | .isDirectory => "Is a directory (os error 21)"
  | .notDirectory => "Not a directory (os error 20)"
  | .nameTooLong => "File name too long (os error 36)"
  | .notText => "stream did not contain valid UTF-8"
  | .other reason => reason

/-- The text that bytes encode. -/
def textOf (bytes : ByteArray) : Except Refusal String :=
  match String.fromUTF8? bytes with
  | some text => .ok text
  | none => .error .notText

/-- What a program needs from where it runs. -/
structure Host (m : Type → Type) where
  /-- The current directory. -/
  directory : m (Except Refusal String)
  /-- Is there anything under a name? -/
  present : String → m Bool
  /-- The text of a file. -/
  read : String → m (Except Refusal String)
  /-- The text of standard input. -/
  readInput : m (Except Refusal String)
  /-- Puts a text into a file, in place of what it held. -/
  write : String → String → m (Except Refusal Unit)

end Marginalia.Command
