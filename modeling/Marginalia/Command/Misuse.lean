/-
Marginalia.Command.Misuse — what can be wrong with a command line.

A report shows the text it complains about without control sequences, so
that an argument cannot make the terminal do anything.
-/
import Marginalia.Command.Help
import Marginalia.Text.ControlSequence

namespace Marginalia.Command

/-- What is wrong with a command line. -/
inductive Misuse where
  /-- There is no command. -/
  | noCommand
  | unknownCommand (text : String)
  /-- An argument has no place in the form. -/
  | unexpected (text : String)
  /-- A flag lacks its value. -/
  | noValue (flag : Flag)
  /-- A flag that takes no value has one. -/
  | unexpectedValue (flag : Flag) (value : String)
  /-- A flag is given twice. -/
  | repeated (flag : Flag)
  deriving DecidableEq, Repr

/-- The line that says what is wrong. -/
def errorLine (what : String) : String := "error: " ++ what ++ "\n"

/-- A text that a report complains about. -/
def quoted (text : String) : String := "'" ++ Text.withoutControls text ++ "'"

/-- The report of a misuse; where there is no command, the page of the program
is enough. -/
def Misuse.report : Misuse → String
  | .noCommand => Program.page
  | .unknownCommand text => errorLine ("unrecognized subcommand " ++ quoted text)
  | .unexpected text => errorLine ("unexpected argument " ++ quoted text ++ " found")
  | .noValue flag =>
    errorLine ("a value is required for '" ++ flag.shown ++ "' but none was supplied")
  | .unexpectedValue flag value =>
    errorLine ("unexpected value " ++ quoted value ++ " for '" ++ flag.shown
      ++ "' found; no more were expected")
  | .repeated flag =>
    errorLine ("the argument '" ++ flag.shown ++ "' cannot be used multiple times")

end Marginalia.Command
