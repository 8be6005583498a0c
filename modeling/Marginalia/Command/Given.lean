/-
Marginalia.Command.Given — what the arguments of a command give.

The arguments of a command are read from front to back. A flag whose value
stands in the next argument is pending until something else comes: only
then is it checked that it has a value and is not given twice. A flag whose
value is attached to it is checked where it stands. Hence a misplaced
argument behind a faulty flag is what is reported.

Main statement: `add_eq_ok_iff` (a flag is added if it is not given yet).
-/
import Marginalia.Command.Argument
import Marginalia.Command.Misuse

namespace Marginalia.Command

/-! ## 1. What has been read -/

/-- Why reading stops before the end of the arguments. -/
inductive Stop where
  /-- Help is asked for. -/
  | help
  /-- The version is asked for. -/
  | version
  | misuse (misuse : Misuse)
  deriving DecidableEq, Repr

/-- What the arguments read so far give. -/
structure Given where
  /-- The flags, with their values if they take one. -/
  flags : List (Flag × Option String) := []
  /-- A flag that waits for its value, or that has it in an argument of its own. -/
  pending : Option (Flag × Option String) := none
  /-- The operand. -/
  operand : Option String := none
  /-- Have two dashes ended the flags? -/
  trailing : Bool := false
  deriving DecidableEq, Repr

namespace Given

/-- Is a flag given? -/
def has (g : Given) (f : Flag) : Bool := g.flags.any (·.1 == f)

/-- The value given to a flag. -/
def value? (g : Given) (f : Flag) : Option String := (g.flags.lookup f).join

/-! ## 2. Steps -/

/-- Adds a flag that is not given yet. -/
def add (g : Given) (f : Flag) (value : Option String) : Except Stop Given :=
  if g.has f then .error (.misuse (.repeated f))
  else .ok { g with flags := g.flags ++ [(f, value)] }

theorem add_eq_ok_iff {g h : Given} {f : Flag} {value : Option String} :
    g.add f value = .ok h ↔
      g.has f = false ∧ h = { g with flags := g.flags ++ [(f, value)] } := by
  cases hf : g.has f <;> simp [add, hf, eq_comm]

/-- Checks the pending flag and adds it. -/
def settle (g : Given) : Except Stop Given :=
  match g.pending with
  | none => .ok g
  | some (f, none) => .error (.misuse (.noValue f))
  | some (f, some value) => { g with pending := none }.add f value

/-- Gives a flag whose value, if any, is attached to it. -/
def attach (g : Given) (f : Flag) (value : Option String) : Except Stop Given := do
  (← g.settle).add f value

/-- Gives a flag without an attached value. -/
def start (g : Given) (f : Flag) : Except Stop Given :=
  match f.role with
  | .value _ => do return { ← g.settle with pending := some (f, none) }
  | .switch => g.attach f none
  | .help => do
    let _ ← g.settle
    .error .help
  | .version => do
    let _ ← g.settle
    .error .version

/-- Reads a long flag. -/
def readLong (flags : List Flag) (g : Given) (name : List Char) (value : Option (List Char)) :
    Except Stop Given :=
  match Form.long? flags (String.ofList name), value with
  | none, _ => .error (.misuse (.unexpected (String.ofList ('-' :: '-' :: name))))
  | some f, none => g.start f
  | some f, some value =>
    match f.role with
    | .value _ => g.attach f (String.ofList value)
    | _ => .error (.misuse (.unexpectedValue f (String.ofList value)))

/-- Reads a row of letters; what stands behind a letter that takes a value is
the value, with or without an equals sign. -/
def readLetters (flags : List Flag) (g : Given) : List Char → Except Stop Given
  | [] => .ok g
  | letter :: rest =>
    match Form.short? flags letter with
    | none => .error (.misuse (.unexpected (String.ofList ['-', letter])))
    | some f =>
      match f.role, rest with
      | .value _, '=' :: value => g.attach f (String.ofList value)
      | .value _, first :: value => g.attach f (String.ofList (first :: value))
      | _, _ => do readLetters flags (← g.start f) rest

/-- Reads an argument that is no flag: the value of a flag that waits for it,
or else the operand. -/
def readPlain (g : Given) (text : String) : Except Stop Given :=
  match g.pending, g.trailing with
  | some (f, none), false => .ok { g with pending := some (f, some text) }
  | _, _ =>
    match g.operand with
    | some _ => .error (.misuse (.unexpected text))
    | none => do return { ← g.settle with operand := some text }

/-- Reads one argument. -/
def read (flags : List Flag) (g : Given) (text : String) : Except Stop Given :=
  if g.trailing then g.readPlain text
  else
    match Argument.ofChars text.toList with
    | .escape => .ok { g with trailing := true }
    | .long name value => g.readLong flags name value
    | .letters first rest => g.readLetters flags (first :: rest)
    | .plain _ => g.readPlain text

/-- Reads the arguments of a command. -/
def ofArguments (flags : List Flag) (arguments : List String) : Except Stop Given := do
  (← arguments.foldlM (read flags) {}).settle

end Given

end Marginalia.Command
