/-
Marginalia.Proofs.Command.Stages — a run in a workspace, stage by stage.

A run loads settings, then the document, and makes its answer of them; up to
there it only looks at the workspace (`Reads`). What it sees is a function of
the workspace: `settingsFor`, `documentFor`, and with a parser `renderingFor` and
`treeFor`. The last stage puts the answer into a file or gives it to standard
output (`stored`), and no other stage can change anything.

`run_render`, `run_ast`: how a run ends that asks for HTML or for a tree, and
what the workspace is behind it, in terms of these functions. The log of a run is
part of how it ends. What is shown of runs elsewhere is shown of these equations.
-/
import Marginalia.Command.Run
import Marginalia.Command.Workspace

namespace Marginalia.Command

namespace Workspace

/-! ## 1. What is seen -/

/-- The settings that the file of a name holds. -/
def settingsAt (w : Workspace) (name : String) : Except SettingsFault Settings :=
  match w.readFile name with
  | .error r => .error (.unreadable r)
  | .ok text => (Settings.ofYaml text).mapError .malformed

/-- The name under which the settings of the directory itself are looked for. -/
def settingsPath (w : Workspace) : String := w.directory ++ "/" ++ settingsName

/-- The settings for a run: those of the file that is named, or else those of the
directory, if there are any, or else the defaults. -/
def settingsFor (w : Workspace) : Option String → Except Failure Settings
  | some name => (w.settingsAt name).mapError (.namedSettings name)
  | none =>
    if (w.entryAt w.settingsPath).toOption.isSome then
      (w.settingsAt w.settingsPath).mapError (.foundSettings w.settingsPath)
    else .ok {}

/-- A text that was encoded is decoded. -/
theorem textOf_toUTF8 (text : String) : textOf text.toUTF8 = .ok text := by
  have h : String.fromUTF8? text.toUTF8 = some text := dif_pos text.isValidUTF8
  rw [textOf, h]

/-- The text of the document that is named, or else of standard input. -/
def documentFor (w : Workspace) (name : Option String) : Except Failure String :=
  match fileOf? name with
  | some file => (w.readFile file).mapError (.input (some file))
  | none => (textOf w.input).mapError (.input none)

section
variable (parser : Markdown.Parser) (w : Workspace) (input config : Option String)

/-- What is made of the document for a request that asks for HTML. -/
def renderingFor (gfm rawHtml : Bool) (element : Option String) :
    Except Failure Rendering := do
  let settings ← w.settingsFor config
  let text ← w.documentFor input
  ((overridden settings gfm rawHtml element).renderBy parser text).mapError (.rendering input)

/-- The HTML for a request. -/
def htmlFor (gfm rawHtml : Bool) (element : Option String) : Except Failure String :=
  (w.renderingFor parser input config gfm rawHtml element).map Rendering.html

/-- The tree for a request. -/
def treeFor (transform : Bool) : Except Failure Root := do
  let settings ← w.settingsFor config
  let text ← w.documentFor input
  ((restricted settings transform).treeBy parser text).mapError .transforming

end

/-- What goes to standard output when a text is put into a file or, without a
file, is given back; and the workspace behind that. -/
def stored (w : Workspace) (name : Option String) (text : String) :
    Except Failure String × Workspace :=
  match fileOf? name with
  | none => (.ok text, w)
  | some file =>
    match w.writeFile file text with
    | (.ok _, after) => (.ok "", after)
    | (.error r, after) => (.error (.output file r), after)

/-! ## 2. Looking and storing -/

theorem run_read (name : String) (w : Workspace) :
    ((host.read name).run w).run = (w.readFile name, w) := rfl

theorem run_write (name text : String) (w : Workspace) :
    ((host.write name text).run w).run = w.writeFile name text := rfl

variable {α β : Type}

/-- The computation gives what a function sees in the workspace, and leaves the
workspace as it is. -/
def Reads (x : ExceptT Failure (StateM Workspace) α) (see : Workspace → Except Failure α) :
    Prop :=
  ∀ w : Workspace, (x.run.run w).run = (see w, w)

/-- What only looks is followed by the rest, in the same workspace. -/
theorem Reads.run_bind {x : ExceptT Failure (StateM Workspace) α}
    {see : Workspace → Except Failure α} (hx : Reads x see)
    (f : α → ExceptT Failure (StateM Workspace) β) (w : Workspace) :
    ((x >>= f).run.run w).run
      = match see w with
        | .ok a => ((f a).run.run w).run
        | .error e => (.error e, w) := by
  have hw := hx w
  simp only [ExceptT.run_bind, StateT.run_bind, Id.run_bind, hw]
  cases see w <;> rfl

/-- What only looks is followed by what makes something of its result. -/
theorem Reads.run_run_bind {x : ExceptT Failure (StateM Workspace) α}
    {see : Workspace → Except Failure α} (hx : Reads x see)
    (f : Except Failure α → StateM Workspace β) (w : Workspace) :
    ((x.run >>= f).run w).run = ((f (see w)).run w).run := by
  rw [StateT.run_bind, Id.run_bind, hx w]

theorem Reads.bind {x : ExceptT Failure (StateM Workspace) α}
    {see : Workspace → Except Failure α} (hx : Reads x see)
    {f : α → ExceptT Failure (StateM Workspace) β} {next : α → Workspace → Except Failure β}
    (hf : ∀ a, Reads (f a) (next a)) :
    Reads (x >>= f) fun w => see w >>= (next · w) := by
  intro w
  rw [hx.run_bind]
  cases hs : see w with
  | ok a => simpa [hs, Except.bind, Bind.bind] using hf a w
  | error e => simp [hs, Except.bind, Bind.bind]

theorem reads_answer (answer : Except Failure α) :
    Reads (ExceptT.mk (pure answer)) fun _ => answer := fun _ => rfl

theorem run_settingsAt (name : String) (w : Workspace) :
    ((Command.settingsAt host name).run w).run = (w.settingsAt name, w) := by
  simp only [Command.settingsAt, settingsAt, StateT.run_bind, Id.run_bind, run_read]
  cases w.readFile name with
  | error r => rfl
  | ok text =>
    dsimp only
    cases Settings.ofYaml text <;> rfl

theorem reads_directory :
    Reads (ExceptT.mk do return (← host.directory).mapError .directory)
      fun w => .ok w.directory := fun _ => rfl

theorem reads_loadSettings (named : Option String) :
    Reads (loadSettings host named) (settingsFor · named) := by
  intro w
  rw [loadSettings, reads_directory.run_bind]
  cases named with
  | some name =>
    simp only [settingsIn, ExceptT.run_mk, StateT.run_bind, Id.run_bind, run_settingsAt]
    rfl
  | none =>
    -- Looking for the file is done before the choice, which is then one in this workspace.
    change ((if (w.entryAt w.settingsPath).toOption.isSome then do
        return (← Command.settingsAt host w.settingsPath).mapError
          (.foundSettings w.settingsPath)
      else pure (.ok {}) : StateM Workspace (Except Failure Settings)).run w).run = _
    simp only [settingsFor]
    split
    · simp only [StateT.run_bind, Id.run_bind, run_settingsAt]
      rfl
    · rfl

theorem reads_loadText (name : Option String) :
    Reads (loadText host name) (documentFor · name) := by
  intro w
  simp only [documentFor, loadText]
  cases fileOf? name <;> rfl

theorem reads_makeHtml (parser : Markdown.Parser) (input config : Option String)
    (gfm rawHtml : Bool) (element : Option String) :
    Reads (makeHtml parser host input config gfm rawHtml element)
      (renderingFor parser · input config gfm rawHtml element) :=
  (reads_loadSettings config).bind fun _ => (reads_loadText input).bind fun _ => reads_answer _

theorem reads_makeTree (parser : Markdown.Parser) (input config : Option String)
    (transform : Bool) :
    Reads (makeTree parser host input config transform)
      (treeFor parser · input config transform) :=
  (reads_loadSettings config).bind fun _ => (reads_loadText input).bind fun _ => reads_answer _

theorem run_store (name : Option String) (text : String) (w : Workspace) :
    ((store host name text).run.run w).run = w.stored name text := by
  simp only [store, stored]
  cases fileOf? name with
  | none => rfl
  | some file =>
    simp only [ExceptT.run_mk, StateT.run_bind, Id.run_bind, run_write]
    cases hw : w.writeFile file text with
    | mk result after => cases result <;> rfl

/-! ## 3. Runs -/

/-- How the program ends in the workspace, and the workspace behind it. -/
def run (parser : Markdown.Parser) (w : Workspace) (arguments : List String) :
    Ending × Workspace :=
  ((runBy parser host arguments).run w).run

variable (parser : Markdown.Parser) (w : Workspace) {arguments : List String}

theorem run_of_misuse {misuse : Misuse} (h : Request.ofArguments arguments = .error misuse) :
    w.run parser arguments = (.ofMisuse misuse, w) := by
  rw [run, runBy_eq_of_misuse parser host h]
  rfl

theorem run_of_request {request : Request} (h : Request.ofArguments arguments = .ok request) :
    w.run parser arguments = ((request.perform parser host).run w).run := by
  rw [run, runBy, h]

/-- A run that asks for help or for the version changes nothing. -/
theorem run_help {form : Option Form} (h : Request.ofArguments arguments = .ok (.help form)) :
    ∃ page, w.run parser arguments = (⟨0, page, [], ""⟩, w) := by
  rw [run_of_request parser w h]
  cases form <;> exact ⟨_, rfl⟩

theorem run_version (h : Request.ofArguments arguments = .ok .version) :
    w.run parser arguments = (⟨0, Program.versionLine, [], ""⟩, w) := by
  rw [run_of_request parser w h]
  rfl

/-- A run that asks for a tree gives it to standard output. -/
theorem run_ast {input config : Option String} {transform : Bool}
    (h : Request.ofArguments arguments = .ok (.ast input config transform)) :
    w.run parser arguments
      = (.ofResult []
          ((w.treeFor parser input config transform).map (·.toJson.pretty ++ "\n")),
          w) := by
  rw [run_of_request parser w h, Request.perform, performAst, StateT.run_bind, Id.run_bind,
    (reads_makeTree parser input config transform).run_bind]
  cases w.treeFor parser input config transform <;> rfl

/-- A run that asks for HTML stores it, if it can be made, and remarks on that. -/
theorem run_render {input output config : Option String} {gfm rawHtml : Bool}
    {element : Option String}
    (h : Request.ofArguments arguments
      = .ok (.render input output config gfm rawHtml element)) :
    w.run parser arguments
      = match w.renderingFor parser input config gfm rawHtml element with
        | .error failure => (.ofResult [] (.error failure), w)
        | .ok made =>
          (.ofResult [.rendered input made.callouts] (w.stored output (made.html ++ "\n")).1,
            (w.stored output (made.html ++ "\n")).2) := by
  rw [run_of_request parser w h, Request.perform, performRender,
    (reads_makeHtml parser input config gfm rawHtml element).run_run_bind]
  cases w.renderingFor parser input config gfm rawHtml element with
  | error failure => rfl
  | ok made =>
    simp only [StateT.run_bind, Id.run_bind, run_store]
    rfl

end Workspace

end Marginalia.Command
