/-
Marginalia.Command.Failure — why a run fails, and how that is reported.

A failure is reported by a sentence that says what could not be done and
below it by its causes, each the cause of the one before. Two or more causes
are numbered.
-/
import Marginalia.Command.Host
import Marginalia.Pipeline.Transforms
import Marginalia.Settings.Error

namespace Marginalia.Command

/-! ## 1. Failures -/

/-- Why a file gives no settings. -/
inductive SettingsFault where
  | unreadable (refusal : Refusal)
  | malformed (error : Settings.Error)
  deriving Repr

/-- Why a run fails. -/
inductive Failure where
  /-- The current directory. -/
  | directory (refusal : Refusal)
  /-- The settings file that was named. -/
  | namedSettings (path : String) (fault : SettingsFault)
  /-- The settings file of the current directory. -/
  | foundSettings (path : String) (fault : SettingsFault)
  /-- A file, or standard input. -/
  | input (path : Option String) (refusal : Refusal)
  /-- A transform, on the way to HTML; the input is as it was named. -/
  | rendering (input : Option String) (reason : String)
  /-- A transform, on the way to a tree. -/
  | transforming (reason : String)
  | output (path : String) (refusal : Refusal)
  deriving Repr

/-- The causes by which a settings file fails. -/
def SettingsFault.causes (path : String) : SettingsFault → List String
  | .unreadable r => ["Failed to read config file at " ++ path ++ ": " ++ r.message, r.message]
  | .malformed e => ["Failed to parse config file at " ++ path ++ ": " ++ e.message, e.message]

/-- What could not be done. -/
def Failure.message : Failure → String
  | .directory _ => "Failed to get current directory"
  | .namedSettings path _ => "Failed to load configuration: " ++ path
  | .foundSettings _ _ => "Failed to load project configuration"
  | .input (some path) _ => "Failed to read input file: " ++ path
  | .input none _ => "Failed to read from stdin"
  | .rendering name _ => "Failed to render " ++ name.getD "<stdin>"
  | .transforming _ => "Failed to transform document"
  | .output path _ => "Failed to write output file: " ++ path

/-- The causes of a failure, each the cause of the one before. -/
def Failure.causes : Failure → List String
  | .namedSettings path fault | .foundSettings path fault => fault.causes path
  | .directory r | .input _ r | .output _ r => [r.message]
  | .rendering _ reason | .transforming reason => [failureMessage reason]

/-! ## 2. Reports -/

/-- A text whose lines after the first are set in by a margin. -/
def hang (margin : List Char) (text : List Char) : List Char :=
  text.flatMap fun c => if c = '\n' then '\n' :: margin else [c]

/-- A cause, behind a head that its further lines leave blank. -/
def causeEntry (head : List Char) (cause : String) : String :=
  "\n" ++ String.ofList (head ++ hang (List.replicate head.length ' ') cause.toList)

/-- The entries of the causes. -/
def causeEntries : List String → List String
  | [cause] => [causeEntry "    ".toList cause]
  | causes => causes.zipIdx.map fun (cause, n) =>
    causeEntry ("    " ++ toString n ++ ": ").toList cause

/-- The report of a failure. -/
def Failure.report (f : Failure) : String :=
  "Error: " ++ f.message ++ "\n\nCaused by:" ++ String.join (causeEntries f.causes) ++ "\n"

end Marginalia.Command
