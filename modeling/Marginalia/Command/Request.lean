/-
Marginalia.Command.Request — what a command line asks for.

A command line asks for HTML, for the document tree, for a page of help or
for the version. The arguments before the command are flags of the program;
those behind it are the command's own.
-/
import Marginalia.Command.Given

namespace Marginalia.Command

/-! ## 1. Requests -/

/-- What a command line asks for, with the names of files as they are given. -/
inductive Request where
  /-- Write a document as HTML. -/
  | render (input output config : Option String) (gfm rawHtml : Bool) (element : Option String)
  /-- Write the tree of a document. -/
  | ast (input config : Option String) (transform : Bool)
  /-- Show the page of a command, or that of the program. -/
  | help (form : Option Form)
  /-- Show the version. -/
  | version
  deriving DecidableEq, Repr

namespace Request

/-! ## 2. The arguments of a command -/

/-- What is asked for where the reading of arguments stops. -/
def ofStop (form : Option Form) : Stop → Except Misuse Request
  | .help => .ok (.help form)
  | .version => .ok .version
  | .misuse m => .error m

/-- Reads the arguments of a command and makes a request of them. -/
def ofGiven (form : Form) (arguments : List String) (request : Given → Request) :
    Except Misuse Request :=
  match Given.ofArguments form.flags arguments with
  | .ok g => .ok (request g)
  | .error stop => ofStop (some form) stop

/-- The arguments of the command that writes HTML. -/
def ofRender (arguments : List String) : Except Misuse Request :=
  ofGiven .render arguments fun g =>
    .render g.operand (g.value? .output) (g.value? .config) (g.has .gfm) (g.has .rawHtml)
      (g.value? .element)

/-- The arguments of the command that writes the tree. -/
def ofAst (arguments : List String) : Except Misuse Request :=
  ofGiven .ast arguments fun g =>
    .ast g.operand (g.value? .config) (!g.has .noTransform)

/-- The arguments of the command that explains the others: the name of a
command, which takes no further names. -/
def ofHelp : List String → Except Misuse Request
  | [] => .ok (.help none)
  | name :: names =>
    match Form.named? name, names with
    | none, _ => .error (.unknownCommand name)
    | some form, [] => .ok (.help (some form))
    | some _, next :: _ => .error (.unknownCommand next)

/-- The arguments of a command. -/
def ofCommand (form : Form) (arguments : List String) : Except Misuse Request :=
  if form = .render then ofRender arguments
  else if form = .ast then ofAst arguments
  else ofHelp arguments

/-! ## 3. The arguments of the program -/

/-- Reads what stands behind two dashes before any command: names of commands
are out of place there too. -/
def ofTrailing : List String → Except Misuse Request
  | [] => .error .noCommand
  | text :: _ =>
    if (Form.named? text).isSome then .error (.unexpected text)
    else .error (.unknownCommand text)

/-- What a command line asks for. -/
def ofArguments : List String → Except Misuse Request
  | [] => .error .noCommand
  | text :: rest =>
    match Form.named? text with
    | some form => ofCommand form rest
    | none =>
      match Argument.ofChars text.toList with
      | .escape => ofTrailing rest
      | .plain _ => .error (.unknownCommand text)
      | _ =>
        match ({} : Given).read Program.flags text with
        | .ok _ => ofArguments rest
        | .error stop => ofStop none stop

end Request

end Marginalia.Command
