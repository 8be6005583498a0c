/-
Marginalia.Command.Help — the pages that explain the command line.

A page says what a command does and how it is used, and explains in tables
what it takes. In a table the explanations stand in one column, two blanks
behind the longest entry.
-/
import Marginalia.Command.Form

namespace Marginalia.Command

/-! ## 1. Tables -/

/-- A text with blanks behind it up to a width. -/
def pad (width : Nat) (text : List Char) : List Char :=
  text ++ List.replicate (width - text.length) ' '

/-- The entries of a table and their explanations. -/
abbrev Table := List (String × String)

/-- The width of the widest entry. -/
def Table.width (t : Table) : Nat := t.foldl (fun w e => max w e.1.length) 0

/-- A table under its title. -/
def Table.page (title : String) (t : Table) : String :=
  "\n" ++ title ++ ":\n" ++ String.join (t.map fun e =>
    "  " ++ String.ofList (pad t.width e.1.toList) ++ "  " ++ e.2 ++ "\n")

/-- The table of flags; those without a letter leave its place blank. -/
def flagTable (flags : List Flag) : Table :=
  flags.map fun f =>
    ((match f.short with
      | some letter => "-" ++ letter.toString ++ ", "
      | none => "    ") ++ f.shown, f.explanation)

/-! ## 2. Pages -/

/-- What a page starts with. -/
def pageHead (about usage : String) : String :=
  about ++ "\n\nUsage: " ++ Program.name ++ " " ++ usage ++ "\n"

/-- The page of a command. -/
def Form.page (f : Form) : String :=
  let usage := [f.name] ++ (if f.flags.isEmpty then [] else ["[OPTIONS]"]) ++ [f.operand.shown]
  pageHead f.about (" ".intercalate usage)
    ++ Table.page "Arguments" [(f.operand.shown, f.operand.explanation)]
    ++ (if f.flags.isEmpty then "" else Table.page "Options" (flagTable f.flags))

/-- The page of the program. -/
def Program.page : String :=
  pageHead Program.about "<COMMAND>"
    ++ Table.page "Commands" (Form.all.map fun f => (f.name, f.about))
    ++ Table.page "Options" (flagTable Program.flags)

/-- What the program says about its version. -/
def Program.versionLine : String := Program.name ++ " " ++ Program.version ++ "\n"

end Marginalia.Command
