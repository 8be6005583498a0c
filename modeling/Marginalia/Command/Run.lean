/-
Marginalia.Command.Run — carrying out what a command line asks for.

First the settings are read, then the document; only when both are there
and the answer is made is anything written, and it is written to one place. That
a document is made into HTML is remarked in the log, before it is known whether
it can be written.

Main statement: `runBy_eq_of_misuse` (a misused command line leaves the host
alone).
-/
import Marginalia.Command.Failure
import Marginalia.Command.Log
import Marginalia.Command.Request
import Marginalia.Document
import Marginalia.Settings.OfYaml
import Marginalia.Tree.ToJson

namespace Marginalia.Command

/-! ## 1. Settings -/

/-- The name of the file that holds the settings of a directory. -/
def settingsName : String := "_aside.yml"

/-- The settings with what the command line says of them: a flag only ever
switches something on, and an element replaces the one before. -/
def overridden (s : Settings) (gfm rawHtml : Bool) (element : Option String) : Settings :=
  { s with
    gfm := s.gfm || gfm
    rawHtml := s.rawHtml || rawHtml
    element := element.getD s.element }

/-- The settings with callouts left alone if nothing is to be transformed. -/
def restricted (s : Settings) (transform : Bool) : Settings :=
  { s with callouts := s.callouts && transform }

section
variable {m : Type → Type} [Monad m]

/-- The settings that a file holds. -/
def settingsAt (host : Host m) (path : String) : m (Except SettingsFault Settings) := do
  match ← host.read path with
  | .error r => return .error (.unreadable r)
  | .ok text =>
    match Settings.ofYaml text with
    | .error e => return .error (.malformed e)
    | .ok s => return .ok s

/-- The settings for a run in a directory: those of the file that is named; or
else those of the directory, if it has any; or else the defaults. -/
def settingsIn (host : Host m) (directory : String) (named : Option String) :
    ExceptT Failure m Settings :=
  match named with
  | some path => ExceptT.mk do
    return (← settingsAt host path).mapError (.namedSettings path)
  | none => ExceptT.mk do
    let path := directory ++ "/" ++ settingsName
    if ← host.present path then
      return (← settingsAt host path).mapError (.foundSettings path)
    else return .ok {}

/-- The settings for a run in the current directory, which is asked for also where
a file is named. -/
def loadSettings (host : Host m) (named : Option String) : ExceptT Failure m Settings := do
  let directory ← ExceptT.mk do return (← host.directory).mapError .directory
  settingsIn host directory named

/-! ## 2. Documents -/

/-- The name that stands for a standard stream where a file is expected. -/
def streamName : String := "-"

/-- The file that is named. Where none is named, or the name is that of a
standard stream, the stream takes its place. -/
def fileOf? (name : Option String) : Option String := name.filter (· != streamName)

/-- The text of a document, from a file or from standard input. -/
def loadText (host : Host m) (name : Option String) : ExceptT Failure m String :=
  ExceptT.mk do
    let text ← match fileOf? name with
      | some p => host.read p
      | none => host.readInput
    return text.mapError (.input (fileOf? name))

/-! ## 3. Answers -/

/-- What is made of a document that is to become HTML. -/
def makeHtml (parser : Markdown.Parser) (host : Host m) (input config : Option String)
    (gfm rawHtml : Bool) (element : Option String) : ExceptT Failure m Rendering := do
  let settings := overridden (← loadSettings host config) gfm rawHtml element
  let text ← loadText host input
  ExceptT.mk (pure ((settings.renderBy parser text).mapError (.rendering input)))

/-- The tree of a document. -/
def makeTree (parser : Markdown.Parser) (host : Host m) (input config : Option String)
    (transform : Bool) : ExceptT Failure m Root := do
  let settings := restricted (← loadSettings host config) transform
  let text ← loadText host input
  ExceptT.mk (pure ((settings.treeBy parser text).mapError .transforming))

/-- Puts a text into a file; without a file, gives it back for standard
output. -/
def store (host : Host m) (name : Option String) (text : String) : ExceptT Failure m String :=
  match fileOf? name with
  | none => pure text
  | some p => ExceptT.mk do
    return match ← host.write p text with
      | .ok _ => .ok ""
      | .error r => .error (.output p r)

/-! ## 4. Endings -/

/-- How a run ends. -/
structure Ending where
  /-- The exit code. -/
  code : Nat
  /-- What goes to standard output. -/
  output : String
  /-- The remarks made on the way, in order. -/
  log : List Remark
  /-- What goes to standard error behind the log. -/
  complaint : String
  deriving DecidableEq, Repr

/-- All that goes to standard error, with the log laid out remark by remark. -/
def Ending.errors (layout : Nat → Remark → String) (e : Ending) : String :=
  String.join (e.log.mapIdx layout) ++ e.complaint

/-- The ending of a misused command line. -/
def Ending.ofMisuse (misuse : Misuse) : Ending := ⟨2, "", [], misuse.report⟩

/-- The ending of a request, with the remarks made on the way to its result. -/
def Ending.ofResult (log : List Remark) : Except Failure String → Ending
  | .ok output => ⟨0, output, log, ""⟩
  | .error failure => ⟨1, "", log, failure.report⟩

/-! ## 5. Requests -/

/-- Makes a document into HTML and stores it. The remark on that is made in between, so
that it also stands ahead of the report that storing has failed. -/
def performRender (parser : Markdown.Parser) (host : Host m)
    (input output config : Option String) (gfm rawHtml : Bool) (element : Option String) :
    m Ending := do
  match ← (makeHtml parser host input config gfm rawHtml element).run with
  | .error failure => return .ofResult [] (.error failure)
  | .ok made =>
    let result ← (store host output (made.html ++ "\n")).run
    return .ofResult [.rendered input made.callouts] result

/-- Makes a document into a tree and gives it to standard output. -/
def performAst (parser : Markdown.Parser) (host : Host m) (input config : Option String)
    (transform : Bool) : m Ending := do
  let result ← ExceptT.run do
    store host none ((← makeTree parser host input config transform).toJson.pretty ++ "\n")
  return .ofResult [] result

/-- Carries out a request. -/
def Request.perform (parser : Markdown.Parser) (host : Host m) : Request → m Ending
  | .render input output config gfm rawHtml element =>
    performRender parser host input output config gfm rawHtml element
  | .ast input config transform => performAst parser host input config transform
  | .help (some form) => return .ofResult [] (.ok form.page)
  | .help none => return .ofResult [] (.ok Program.page)
  | .version => return .ofResult [] (.ok Program.versionLine)

/-! ## 6. Runs -/

/-- Runs the program with any parser. -/
def runBy (parser : Markdown.Parser) (host : Host m) (arguments : List String) : m Ending := do
  match Request.ofArguments arguments with
  | .error misuse => return .ofMisuse misuse
  | .ok request => request.perform parser host

/-- Runs the program. -/
def run (host : Host m) (arguments : List String) : m Ending :=
  runBy Markdown.blockNodes host arguments

/-- A misused command line leaves the host alone. -/
theorem runBy_eq_of_misuse (parser : Markdown.Parser) (host : Host m) {arguments : List String}
    {misuse : Misuse} (h : Request.ofArguments arguments = .error misuse) :
    runBy parser host arguments = pure (.ofMisuse misuse) := by
  simp [runBy, h]

end

end Marginalia.Command
