/-
Marginalia.Command.Log — what a run remarks on its way.

The log goes to standard error, ahead of any complaint. It holds the remarks that
are shown unless the surroundings ask for others; finer ones are not kept. How a
remark is laid out, with the time of day and with colours, is not decided here.
-/

namespace Marginalia.Command

/-- A remark of a run on its way. -/
structure Remark where
  /-- How much it matters. -/
  level : String
  /-- The part of the program that makes it. -/
  origin : String
  message : String
  /-- Values by their names. -/
  fields : List (String × String)
  deriving DecidableEq, Repr

/-- The remark that a document, as it was named, is made into HTML with so many callouts. -/
def Remark.rendered (input : Option String) (callouts : Nat) : Remark where
  level := "INFO"
  origin := "aside::commands::render"
  message := "Rendered " ++ input.getD "<stdin>"
  fields := [("callouts", toString callouts)]

/-- A remark on a line of its own, without time and colours. -/
def Remark.line (r : Remark) : String :=
  r.level ++ " " ++ r.origin ++ ": " ++ r.message
    ++ String.join (r.fields.map fun (name, value) => " " ++ name ++ "=" ++ value) ++ "\n"

end Marginalia.Command
