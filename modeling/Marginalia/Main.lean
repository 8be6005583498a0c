/-
Marginalia.Main — the program.

The program runs in the directory it is started in; its answer goes to
standard output, and its log and complaints go to standard error.
-/
import Marginalia.Command.Run

namespace Marginalia

open Command (Host Refusal textOf)

/-- Why the system refuses an operation; error numbers come with either sign. -/
def refusalOf : IO.Error → Refusal
  | .noFileOrDirectory _ _ _ => .notFound
  | .noSuchThing _ _ _ => .notFound
  | .inappropriateType _ number _ =>
    if number = 20 ∨ -number = 20 then .notDirectory else .isDirectory
  | .invalidArgument _ number details =>
    if number = 36 ∨ -number = 36 then .nameTooLong else .other details
  | e => .other (toString e)

/-- The outcome of an operation of the system. -/
def attempt {α : Type} (action : IO α) : IO (Except Refusal α) := do
  match ← action.toBaseIO with
  | .ok a => return .ok a
  | .error e => return .error (refusalOf e)

/-- The system as a host. -/
def system : Host IO where
  directory := return (← attempt IO.currentDir).map (·.toString)
  present name := do
    match ← attempt (IO.FS.Handle.mk name .read) with
    | .error .notFound => return false
    | .error .notDirectory => return false
    | _ => return true
  read name := return (← attempt (IO.FS.readBinFile name)).bind textOf
  readInput := return (← attempt do (← IO.getStdin).readBinToEnd).bind textOf
  write name text := attempt (IO.FS.writeFile name text)

end Marginalia

/-- Runs the program on its arguments. -/
def main (arguments : List String) : IO UInt32 := do
  let ending ← Marginalia.Command.run Marginalia.system arguments
  IO.print ending.output
  IO.eprint (ending.errors fun _ => Marginalia.Command.Remark.line)
  return ending.code.toUInt32
