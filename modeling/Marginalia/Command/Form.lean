/-
Marginalia.Command.Form — what can be written on the command line.

A form lists the flags and the operand that a command takes, with the
sentences that explain them. Reading arguments and writing help both work
from the forms, so that help says what is read.
-/

namespace Marginalia.Command

/-! ## 1. Flags and forms -/

/-- What a flag is for. -/
inductive Role where
  /-- It carries a value, for which help shows a name. -/
  | value (placeholder : String)
  /-- It is on where it stands. -/
  | switch
  /-- It asks for help. -/
  | help
  /-- It asks for the version. -/
  | version
  deriving DecidableEq, Repr

/-- An argument with a name. -/
structure Flag where
  /-- The name behind two dashes. -/
  long : String
  /-- The letter behind one dash. -/
  short : Option Char := none
  /-- What it is for. -/
  role : Role := .switch
  /-- What it does, in words. -/
  explanation : String
  deriving DecidableEq, Repr

/-- A flag as messages show it. -/
def Flag.shown (f : Flag) : String :=
  match f.role with
  | .value placeholder => "--" ++ f.long ++ " <" ++ placeholder ++ ">"
  | _ => "--" ++ f.long

/-- An argument without a name. -/
structure Operand where
  /-- The name that help shows. -/
  name : String
  /-- Can it be given more than once? -/
  many : Bool := false
  /-- What it is, in words. -/
  explanation : String
  deriving DecidableEq, Repr

/-- An operand as help shows it; all operands can be left out. -/
def Operand.shown (o : Operand) : String :=
  "[" ++ o.name ++ "]" ++ (if o.many then "..." else "")

/-- What a command takes. -/
structure Form where
  /-- The name of the command. -/
  name : String
  /-- What it does, in words. -/
  about : String
  /-- Its flags, in the order of help. -/
  flags : List Flag
  /-- Its operand. -/
  operand : Operand
  deriving DecidableEq, Repr

namespace Form

/-- The flag with a name. -/
def long? (flags : List Flag) (name : String) : Option Flag := flags.find? (·.long == name)

/-- The flag with a letter. -/
def short? (flags : List Flag) (letter : Char) : Option Flag :=
  flags.find? (·.short == some letter)

end Form

/-! ## 2. The flags -/

namespace Flag

/-- The flag that asks for help. -/
def help : Flag := ⟨"help", some 'h', .help, "Print help"⟩

/-- The flag that asks for the version. -/
def version : Flag := ⟨"version", some 'V', .version, "Print version"⟩

/-- The file that HTML goes to. -/
def output : Flag :=
  ⟨"output", some 'o', .value "OUTPUT", "Write output to FILE (use '--output -' for stdout)"⟩

/-- The file that settings come from. -/
def config : Flag :=
  ⟨"config", some 'c', .value "CONFIG",
    "Configuration file (defaults to _aside.yml in the current directory)"⟩

/-- Read struck-out text and bare links. -/
def gfm : Flag := ⟨"gfm", none, .switch, "Enable GitHub-flavored strikethrough and autolinks"⟩

/-- Keep raw HTML. -/
def rawHtml : Flag :=
  ⟨"allow-dangerous-html", none, .switch, "Pass raw HTML through to the output"⟩

/-- The element that callouts are written as. -/
def element : Flag := ⟨"element", none, .value "NAME", "Element name callouts render as"⟩

/-- Leave callouts alone. -/
def noTransform : Flag :=
  ⟨"no-transform", none, .switch, "Print the tree as parsed, before callouts are rewritten"⟩

end Flag

/-! ## 3. The forms -/

namespace Form

/-- The file that markdown comes from. -/
def input : Operand := ⟨"INPUT", false, "Input file (reads stdin when omitted or '-')"⟩

/-- The command that writes HTML. -/
def render : Form :=
  ⟨"render", "Render a markdown file to HTML",
    [.output, .config, .gfm, .rawHtml, .element, .help], input⟩

/-- The command that writes the document tree. -/
def ast : Form :=
  ⟨"ast", "Print the document tree as JSON", [.config, .noTransform, .help], input⟩

/-- The command that explains the others. -/
def help : Form :=
  ⟨"help", "Print this message or the help of the given subcommand(s)", [],
    ⟨"COMMAND", true, "Print help for the subcommand(s)"⟩⟩

/-- The commands, in the order of help. -/
def all : List Form := [render, ast, help]

/-- The form of the command with a name. -/
def named? (name : String) : Option Form := all.find? (·.name == name)

end Form

/-! ## 4. The program -/

namespace Program

/-- The name of the program. -/
def name : String := "aside"

/-- The version of the program. -/
def version : String := "0.1.0"

/-- What the program does, in words. -/
def about : String := "Render markdown callout quotes as <aside> elements"

/-- The flags that stand before a command. -/
def flags : List Flag := [.help, .version]

end Program

end Marginalia.Command
