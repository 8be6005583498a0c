/-
Marginalia.Proofs.Command.EffectiveSettings — the settings that a document is
written as HTML with.

`render_settings`: they come from one source (`sourceFor`), which is the file that
is named, or else the settings file of the directory if there is one, or else the
defaults. Of what the source holds, flags switch reading of struck-out text and
raw HTML on and never off, a named element takes the place of the one that the
source gives, and all else stays (`Effective`). If the source holds no settings,
that is how the run fails.

Hence a run with a named settings file does not look at the one of the directory.
Two workspaces that differ in that file only, in what it holds or in whether it is
there, give the same ending and the same files, as long as no name that is given
leads to the file or through its place. An ending is the exit code, standard output
and all of standard error, with the remark that a document is made into HTML.

The last is needed. A name may go on behind that of a file, and it fails for
another reason if the file is not there: this is not the file that is named, and
yet it is seen whether it is there (`render_sees_settingsFile`).
-/
import Marginalia.Proofs.Command.Unseen

namespace Marginalia.Command

/-! ## 1. What the command line says of settings -/

/-- The settings `e` are the settings `s` with what the command line says of them. -/
structure Effective (gfm rawHtml : Bool) (element : Option String)
    (s e : Settings) : Prop where
  /-- Struck-out text and bare links are read if they were, or if the flag is given. -/
  gfm : e.gfm = true ↔ s.gfm = true ∨ gfm = true
  /-- Raw HTML is kept if it was, or if the flag is given. -/
  rawHtml : e.rawHtml = true ↔ s.rawHtml = true ∨ rawHtml = true
  /-- An element that is given takes the place of the one before. -/
  given : ∀ name, element = some name → e.element = name
  /-- Without one the element stays. -/
  kept : element = none → e.element = s.element
  /-- Whether callouts are made stays. -/
  callouts : e.callouts = s.callouts

variable {gfm rawHtml : Bool} {element : Option String}

/-- There is one outcome of what the command line says. -/
theorem effective_iff {s e : Settings} :
    Effective gfm rawHtml element s e ↔ e = overridden s gfm rawHtml element := by
  constructor
  · intro h
    obtain ⟨egfm, erawHtml, ecallouts, eelement⟩ := e
    have hgfm : egfm = (s.gfm || gfm) := by rw [Bool.eq_iff_iff, h.gfm, Bool.or_eq_true]
    have hrawHtml : erawHtml = (s.rawHtml || rawHtml) := by
      rw [Bool.eq_iff_iff, h.rawHtml, Bool.or_eq_true]
    have helement : eelement = element.getD s.element := by
      cases element with
      | none => exact h.kept rfl
      | some name => exact h.given name rfl
    have hcallouts : ecallouts = s.callouts := h.callouts
    rw [overridden, hgfm, hrawHtml, helement, hcallouts]
  · rintro rfl
    refine ⟨Bool.or_eq_true _ _ ▸ Iff.rfl, Bool.or_eq_true _ _ ▸ Iff.rfl, ?_, ?_, rfl⟩
    · rintro name rfl
      rfl
    · rintro rfl
      rfl

namespace Workspace

/-! ## 2. Where settings come from -/

/-- Where settings come from. -/
inductive Source where
  | file (name : String)
  | defaults

/-- The source of the settings for a run, with the file that is named. -/
def sourceFor (w : Workspace) : Option String → Source
  | some name => .file name
  | none =>
    if (w.entryAt w.settingsPath).toOption.isSome then .file w.settingsPath else .defaults

/-- The source holds the settings. -/
inductive Holds (w : Workspace) : Source → Settings → Prop where
  /-- A file holds the settings that its text writes. -/
  | file {name text : String} {s : Settings} (hread : w.readFile name = .ok text)
      (hs : Settings.ofYaml text = .ok s) : Holds w (.file name) s
  | defaults : Holds w .defaults {}

theorem mapError_eq_ok_iff {ε δ α : Type} {f : ε → δ} {x : Except ε α} {a : α} :
    x.mapError f = .ok a ↔ x = .ok a := by
  cases x with
  | error e => exact iff_of_false nofun nofun
  | ok b =>
    exact ⟨fun h => congrArg Except.ok (Except.ok.inj h),
      fun h => congrArg Except.ok (Except.ok.inj h)⟩

theorem holds_file_iff {w : Workspace} {name : String} {s : Settings} :
    w.Holds (.file name) s ↔ w.settingsAt name = .ok s := by
  constructor
  · rintro ⟨hread, hs⟩
    rw [settingsAt, hread]
    exact mapError_eq_ok_iff.2 hs
  · intro h
    unfold settingsAt at h
    split at h
    · cases h
    · rename_i text hread
      exact .file hread (mapError_eq_ok_iff.1 h)

/-- The settings for a run are those of its source. -/
theorem settingsFor_eq_ok_iff {w : Workspace} {config : Option String} {s : Settings} :
    w.settingsFor config = .ok s ↔ w.Holds (w.sourceFor config) s := by
  cases config with
  | some name => rw [settingsFor, sourceFor, mapError_eq_ok_iff, holds_file_iff]
  | none =>
    simp only [settingsFor, sourceFor]
    split
    · rw [mapError_eq_ok_iff, holds_file_iff]
    · constructor
      · intro h
        obtain rfl := Except.ok.inj h
        exact .defaults
      · rintro ⟨⟩
        rfl

/-! ## 3. Runs -/

/-- What a run does once it has its settings: it reads the document, makes HTML of it,
remarks on that, and puts the HTML where it belongs. -/
def renderWith (parser : Markdown.Parser) (w : Workspace) (input output : Option String)
    (settings : Settings) : Ending × Workspace :=
  match w.documentFor input with
  | .error failure => (.ofResult [] (.error failure), w)
  | .ok text =>
    match settings.renderBy parser text with
    | .error reason => (.ofResult [] (.error (.rendering input reason)), w)
    | .ok made =>
      (.ofResult
          [⟨"INFO", "aside::commands::render", "Rendered " ++ input.getD "<stdin>",
            [("callouts", toString made.callouts)]⟩]
          (w.stored output (made.html ++ "\n")).1,
        (w.stored output (made.html ++ "\n")).2)

variable (parser : Markdown.Parser) {w : Workspace} {arguments : List String}
  {input output config : Option String} {gfm rawHtml : Bool} {element : Option String}

/-- A run that has its settings goes on with them. -/
theorem run_of_holds {s : Settings}
    (hr : Request.ofArguments arguments
      = .ok (.render input output config gfm rawHtml element))
    (hs : w.Holds (w.sourceFor config) s) :
    w.run parser arguments
      = renderWith parser w input output (overridden s gfm rawHtml element) := by
  have hsettings : w.settingsFor config = .ok s := settingsFor_eq_ok_iff.2 hs
  simp only [run_render parser w hr, renderingFor, hsettings, renderWith, bind, Except.bind]
  cases w.documentFor input with
  | error failure => rfl
  | ok text =>
    dsimp only
    cases (overridden s gfm rawHtml element).renderBy parser text <;> rfl

/-- A run whose source holds no settings fails for that reason. -/
theorem run_of_not_holds
    (hr : Request.ofArguments arguments
      = .ok (.render input output config gfm rawHtml element))
    (hs : ∀ s, ¬ w.Holds (w.sourceFor config) s) :
    ∃ failure, w.settingsFor config = .error failure
      ∧ w.run parser arguments = (.ofResult [] (.error failure), w) := by
  cases hsettings : w.settingsFor config with
  | ok s => exact absurd (settingsFor_eq_ok_iff.1 hsettings) (hs s)
  | error failure =>
    refine ⟨failure, rfl, ?_⟩
    simp only [run_render parser w hr, renderingFor, hsettings, bind, Except.bind]

/-! ## 4. Unseen settings files -/

/-- The place of the settings file of the directory. -/
def settingsPlace : Place := ⟨.above 0, [settingsName]⟩

/-- The names that a request to write HTML gives: those of a document, a settings file
and an output file. -/
def namesGiven (input output config : Option String) : List String :=
  (fileOf? input).toList ++ config.toList ++ (fileOf? output).toList

theorem documentFor_of_alike {place : Place} {w v : Workspace} (h : AlikeBut place w v)
    (hout : ∀ name, fileOf? input = some name → place ∉ w.way name) :
    v.documentFor input = w.documentFor input := by
  unfold documentFor
  cases hfile : fileOf? input with
  | none => simp only [h.input]
  | some name => simp only [readFile_of_alike h (hout name hfile)]

theorem settingsAt_of_alike {place : Place} {w v : Workspace} {name : String}
    (h : AlikeBut place w v) (hout : place ∉ w.way name) :
    v.settingsAt name = w.settingsAt name := by
  rw [settingsAt, settingsAt, readFile_of_alike h hout]

/-- A run with a named settings file does not see what stands at a place off the ways of
the names that are given. -/
theorem run_of_alike {place : Place} {v : Workspace} {named : String} (h : AlikeBut place w v)
    (hr : Request.ofArguments arguments
      = .ok (.render input output (some named) gfm rawHtml element))
    (hout : ∀ name ∈ namesGiven input output (some named), place ∉ w.way name) :
    (v.run parser arguments).1 = (w.run parser arguments).1
      ∧ AlikeBut place (w.run parser arguments).2 (v.run parser arguments).2
      ∧ (w.run parser arguments).2.find? place = w.find? place
      ∧ (v.run parser arguments).2.find? place = v.find? place := by
  have hnamed : place ∉ w.way named := hout named (by simp [namesGiven])
  have hinput : ∀ name, fileOf? input = some name → place ∉ w.way name := by
    intro name hname
    exact hout name (by simp [namesGiven, hname])
  have houtput : ∀ name, fileOf? output = some name → place ∉ w.way name := by
    intro name hname
    exact hout name (by simp [namesGiven, hname])
  have hmade : v.renderingFor parser input (some named) gfm rawHtml element
      = w.renderingFor parser input (some named) gfm rawHtml element := by
    simp only [renderingFor, settingsFor, settingsAt_of_alike h hnamed,
      documentFor_of_alike h hinput]
  rw [run_render parser w hr, run_render parser v hr, hmade]
  cases w.renderingFor parser input (some named) gfm rawHtml element with
  | error failure => exact ⟨rfl, h, rfl, rfl⟩
  | ok made =>
    obtain ⟨hresult, hafter, hw, hv⟩ := stored_of_alike h houtput (made.html ++ "\n")
    exact ⟨congrArg (Ending.ofResult _) hresult, hafter, hw, hv⟩

/-- **The settings for HTML.** A run that asks for HTML has its settings from one source,
changed by what the command line says and by nothing else, or it fails for want of
them. With a named settings file it ends the same, its exit code, standard output and
standard error alike, and leaves the same files, whatever stands at the place of the
settings file of the directory, if no name that is given leads to that place or through
it. -/
theorem render_settings (w : Workspace)
    (hr : Request.ofArguments arguments
      = .ok (.render input output config gfm rawHtml element)) :
    (∀ s, w.Holds (w.sourceFor config) s →
        ∃ e, (∀ e', Effective gfm rawHtml element s e' ↔ e' = e)
          ∧ w.run parser arguments = renderWith parser w input output e)
      ∧ ((∀ s, ¬ w.Holds (w.sourceFor config) s) →
          ∃ failure, w.settingsFor config = .error failure
            ∧ w.run parser arguments = (.ofResult [] (.error failure), w))
      ∧ ∀ v, config.isSome = true → AlikeBut settingsPlace w v →
          (∀ name ∈ namesGiven input output config, settingsPlace ∉ w.way name) →
          (v.run parser arguments).1 = (w.run parser arguments).1
            ∧ AlikeBut settingsPlace (w.run parser arguments).2 (v.run parser arguments).2
            ∧ (w.run parser arguments).2.find? settingsPlace = w.find? settingsPlace
            ∧ (v.run parser arguments).2.find? settingsPlace = v.find? settingsPlace := by
  refine ⟨fun s hs => ⟨_, fun e' => effective_iff, run_of_holds parser hr hs⟩,
    run_of_not_holds parser hr, fun v hconfig h hout => ?_⟩
  obtain ⟨named, rfl⟩ := Option.isSome_iff_exists.1 hconfig
  exact run_of_alike parser h hr hout

/-- A directory with a document and a settings file of another name. -/
def configured : Workspace where
  directory := "/home"
  entries := [(⟨.above 0, ["a.md"]⟩, .file "a".toUTF8),
    (⟨.above 0, ["c.yml"]⟩, .file "reader:\n  gfm: true\n".toUTF8)]

/-- The same directory with a settings file of its own that is no YAML. -/
def misconfigured : Workspace := configured.put settingsPlace (.file "reader: [".toUTF8)

theorem alikeBut_put (place : Place) (w : Workspace) (entry : Entry) :
    AlikeBut place w (w.put place entry) where
  find? _ hother := find?_put_of_ne w hother entry
  directory := rfl
  input := rfl

/-- The settings of the file that is named are changed by what the command line says, and
what the directory has for settings is not looked at; without that name it is, and the
run fails. -/
theorem render_settings_misconfigured :
    let arguments := ["render", "a.md", "-c", "c.yml", "--element", "note", "-o", "a.html"]
    let ending := (misconfigured.run oneParagraph arguments).1
    let after := (misconfigured.run oneParagraph arguments).2
    configured.run oneParagraph arguments
        = renderWith oneParagraph configured (some "a.md") (some "a.html")
            { gfm := true, element := "note" }
      ∧ ending = ⟨0, "",
          [⟨"INFO", "aside::commands::render", "Rendered a.md", [("callouts", "0")]⟩], ""⟩
      ∧ ending = (configured.run oneParagraph arguments).1
      ∧ AlikeBut settingsPlace (configured.run oneParagraph arguments).2 after
      ∧ after.find? settingsPlace = some (.file "reader: [".toUTF8)
      ∧ (misconfigured.run oneParagraph ["render", "a.md"]).1.code = 1 := by
  intro arguments ending after
  have hr : Request.ofArguments arguments
      = .ok (.render (some "a.md") (some "a.html") (some "c.yml") false false
        (some "note")) := rfl
  have hholds : configured.Holds (configured.sourceFor (some "c.yml")) { gfm := true } := by
    have hs : (configured.settingsAt "c.yml").toOption = some { gfm := true } := by
      decide +kernel
    refine holds_file_iff.2 ?_
    cases h : configured.settingsAt "c.yml" with
    | error fault => simp [h, Except.toOption] at hs
    | ok s => simpa [h, Except.toOption] using hs
  have hnone : ∀ s, ¬ misconfigured.Holds (misconfigured.sourceFor none) s := by
    intro s hs
    have hfails : (misconfigured.settingsFor none).toOption = none := by decide +kernel
    simp [settingsFor_eq_ok_iff.2 hs, Except.toOption] at hfails
  have hout : ∀ name ∈ namesGiven (some "a.md") (some "a.html") (some "c.yml"),
      settingsPlace ∉ configured.way name := by decide +kernel
  obtain ⟨hone, -, hunseen⟩ := render_settings oneParagraph configured hr
  obtain ⟨e, he, hrun⟩ := hone { gfm := true } hholds
  obtain rfl : { gfm := true, element := "note" } = e := (he _).1 (effective_iff.2 rfl)
  obtain ⟨hending, hafter, -, hfile⟩ :=
    hunseen misconfigured rfl (alikeBut_put settingsPlace configured _) hout
  obtain ⟨failure, -, hfailed⟩ :=
    (render_settings oneParagraph misconfigured
      (rfl : Request.ofArguments ["render", "a.md"]
        = .ok (.render (some "a.md") none none false false none))).2.1 hnone
  refine ⟨hrun, by decide +kernel, hending, hafter, hfile.trans ?_, by rw [hfailed]; rfl⟩
  exact find?_put_self configured (by decide) _

-- The HTML is made before it is known that there is nowhere to put it.
example :
    (configured.run oneParagraph ["render", "a.md", "-o", "."]).1.errors (fun _ => Remark.line)
      = "INFO aside::commands::render: Rendered a.md callouts=0\n"
        ++ "Error: Failed to write output file: .\n\nCaused by:\n"
        ++ "    Is a directory (os error 21)\n" := by
  decide +kernel

/-- The name is that of the place. -/
def Names (w : Workspace) (name : String) (place : Place) : Prop :=
  ∃ toDirectory, w.locate name = .ok (place, toDirectory)

/-- It is seen whether the settings file of the directory is there: a name that goes on
behind that of the file, and so is another one, fails for another reason. -/
theorem render_sees_settingsFile :
    let arguments := ["render", "-c", "c.yml", "_aside.yml/a.md"]
    (configured.run oneParagraph arguments).1
        = ⟨1, "", [], "Error: Failed to read input file: _aside.yml/a.md\n\nCaused by:\n"
            ++ "    No such file or directory (os error 2)\n"⟩
      ∧ (misconfigured.run oneParagraph arguments).1
        = ⟨1, "", [], "Error: Failed to read input file: _aside.yml/a.md\n\nCaused by:\n"
            ++ "    Not a directory (os error 20)\n"⟩
      ∧ ¬ ∀ (parser : Markdown.Parser) (w v : Workspace) (arguments : List String)
          (input output : Option String) (named : String) (gfm rawHtml : Bool)
          (element : Option String),
          Request.ofArguments arguments
              = .ok (.render input output (some named) gfm rawHtml element) →
          AlikeBut settingsPlace w v →
          (∀ name ∈ namesGiven input output (some named),
            ¬ w.Names name settingsPlace ∧ ¬ v.Names name settingsPlace) →
          (v.run parser arguments).1 = (w.run parser arguments).1 := by
  intro arguments
  have hwithout : (configured.run oneParagraph arguments).1
      = ⟨1, "", [], "Error: Failed to read input file: _aside.yml/a.md\n\nCaused by:\n"
          ++ "    No such file or directory (os error 2)\n"⟩ := by decide +kernel
  have hwith : (misconfigured.run oneParagraph arguments).1
      = ⟨1, "", [], "Error: Failed to read input file: _aside.yml/a.md\n\nCaused by:\n"
          ++ "    Not a directory (os error 20)\n"⟩ := by decide +kernel
  have hother : ∀ name ∈ namesGiven (some "_aside.yml/a.md") none (some "c.yml"),
      ((configured.locate name).map Prod.fst).toOption ≠ some settingsPlace
        ∧ ((misconfigured.locate name).map Prod.fst).toOption ≠ some settingsPlace := by
    decide +kernel
  have hnot : ∀ {w : Workspace} {name : String},
      ((w.locate name).map Prod.fst).toOption ≠ some settingsPlace →
        ¬ w.Names name settingsPlace := by
    rintro w name hne ⟨toDirectory, h⟩
    exact hne (by rw [h]; rfl)
  refine ⟨hwithout, hwith, fun hall => ?_⟩
  have hsame := hall oneParagraph configured misconfigured arguments
    (some "_aside.yml/a.md") none "c.yml" false false none rfl
    (alikeBut_put settingsPlace configured _) fun name hname =>
      ⟨hnot (hother name hname).1, hnot (hother name hname).2⟩
  rw [hwith, hwithout] at hsame
  revert hsame
  decide

end Workspace

end Marginalia.Command
