/-
Marginalia.Proofs.Command.Agreement — the commands for HTML and for trees agree.

Main statement: `commands_agree`. In any workspace and with any parser, run the
command for trees and the command for HTML on the same document with the same
settings file. If one fails to do its work so does the other, and they end alike.
Otherwise the tree that is printed, read back and written as HTML with the
settings of the run, is the HTML that is printed, and standard error holds nothing
but the remark on that, with the callouts of the tree counted. The tree that is printed
without its callouts, read back and put through the pipeline of the settings, is
the tree that is printed with them.

## How the proof goes

Up to the answer the commands look at the same things (`sourcesFor`), and what
they print is a function of these (`treeFor_true`, `renderingFor_nothing`). That a printed
tree can be read back needs that all it carries can be stored
(`storable_execute_pipeline`). A parse tree carries nothing, and a conversion
adds to it only what a callout carries.

The command lines of the statement are any that ask for these things. There are
such for any document and any settings file, whatever their names are
(`ofArguments_ast`, `ofArguments_ast_noTransform`, `ofArguments_render`).
-/
import Marginalia.Proofs.Command.Stages
import Marginalia.Proofs.Markdown.Safe
import Marginalia.Proofs.Tree.RoundTrip

namespace Marginalia

/-! ## 1. What trees from markdown carry -/

theorem Data.storable_none : Data.none.Storable := by decide

/-- A callout carries no values but texts. -/
theorem Callout.storable_mergeData (element kind : String) :
    (mergeData element kind .none).Storable := by
  have hextra : (mergeData element kind .none).extra = Data.none.extra := rfl
  rw [Data.Storable, hextra]
  exact Data.storable_none

namespace Markdown

theorem storable_rootOf (ns : List Node) : ∀ d ∈ (rootOf ns).value.carried, d.Storable := by
  intro d hd
  obtain ⟨b, hb, hown⟩ := exists_of_mem_carriedAll _ d hd
  obtain ⟨n, hn, hmakes⟩ := exists_makes hb
  have hb : Harmless "" ns b := harmless_of_makes hn hmakes
  exact forall_ownData Data.storable_none (Callout.storable_mergeData "") hb d hown

theorem storable_convertRoot (element : String) (ns : List Node) :
    ∀ d ∈ (Callout.convertRoot element (rootOf ns).value).value.carried, d.Storable := by
  intro d hd
  obtain ⟨b, hb, hown⟩ := exists_of_mem_carriedAll _ d hd
  exact forall_ownData Data.storable_none (Callout.storable_mergeData element)
    (harmless_convertRoot hb) d hown

end Markdown

namespace Settings

/-- What a pipeline of settings makes of a document: it converts the callouts or
does nothing. -/
theorem tree_execute_pipeline (s : Settings) (r : Root) :
    (s.pipeline.execute r).tree
      = if s.callouts then (Callout.convertRoot s.element r).value else r := by
  unfold pipeline
  split <;> rfl

/-- All that a document carries can be stored, if it comes from markdown through a
pipeline of settings. -/
theorem storable_execute_pipeline (s : Settings) (ns : List Markdown.Node) :
    ∀ d ∈ (s.pipeline.execute (Markdown.rootOf ns).value).tree.carried, d.Storable := by
  rw [tree_execute_pipeline]
  split
  · exact Markdown.storable_convertRoot s.element ns
  · exact Markdown.storable_rootOf ns

end Settings

namespace Command

/-! ## 2. Command lines -/

/-- Arguments that name a document and a settings file, whatever the names are, and
give nothing else. -/
def naming (input config : Option String) : List String :=
  (config.map ("--config=" ++ ·)).toList ++ (input.map (["--", ·])).getD []

namespace Given

variable {flags : List Flag} {given : List (Flag × Option String)}

theorem read_config (hflag : Form.long? flags "config" = some .config)
    (hnew : given.any (·.1 == .config) = false) (name : String) :
    ({ flags := given } : Given).read flags ("--config=" ++ name)
      = .ok { flags := given ++ [(.config, some name)] } := by
  have hshape : Argument.ofChars ("--config=" ++ name).toList
      = .long "config".toList (some name.toList) := by
    rw [String.toList_append]
    rfl
  have hadd : ({ flags := given } : Given).add .config (some name)
      = .ok { flags := given ++ [(.config, some name)] } := add_eq_ok_iff.2 ⟨hnew, rfl⟩
  rw [read, if_neg Bool.false_ne_true, hshape]
  simp only [readLong, String.ofList_toList, hflag]
  exact hadd

theorem foldlM_document (input : Option String) :
    ((input.map (["--", ·])).getD []).foldlM (read flags) { flags := given }
      = .ok { flags := given, operand := input, trailing := input.isSome } := by
  cases input <;> rfl

/-- The names are added to what is given. -/
theorem foldlM_naming (hflag : Form.long? flags "config" = some .config)
    (hnew : given.any (·.1 == .config) = false) (input config : Option String) :
    (naming input config).foldlM (read flags) { flags := given }
      = .ok {
          flags := given ++ (config.map fun name => (.config, some name)).toList
          operand := input
          trailing := input.isSome } := by
  cases config with
  | none => simpa [naming] using foldlM_document input
  | some name =>
    simp only [naming, Option.map_some, Option.toList_some, List.singleton_append,
      List.foldlM_cons, read_config hflag hnew]
    exact foldlM_document input

end Given

namespace Request

theorem named?_ast : Form.named? "ast" = some .ast := rfl

theorem named?_render : Form.named? "render" = some .render := rfl

/-- The name of a command is followed by the arguments of the command. -/
theorem ofArguments_cons {name : String} {form : Form} (h : Form.named? name = some form)
    (rest : List String) : ofArguments (name :: rest) = ofCommand form rest := by
  rw [ofArguments, h]

variable (input config : Option String)

theorem ofArguments_ast :
    ofArguments ("ast" :: naming input config) = .ok (.ast input config true) := by
  rw [ofArguments_cons named?_ast, ofCommand, if_neg (by decide), if_pos rfl, ofAst, ofGiven,
    Given.ofArguments, Given.foldlM_naming rfl rfl]
  cases config <;> rfl

theorem ofArguments_ast_noTransform :
    ofArguments ("ast" :: "--no-transform" :: naming input config)
      = .ok (.ast input config false) := by
  have hswitch : ({} : Given).read Form.ast.flags "--no-transform"
      = .ok { flags := [(.noTransform, none)] } := rfl
  have hread := Given.foldlM_naming (rfl : Form.long? Form.ast.flags "config" = _)
    (rfl : [(Flag.noTransform, none)].any (·.1 == .config) = _) input config
  rw [ofArguments_cons named?_ast, ofCommand, if_neg (by decide), if_pos rfl, ofAst, ofGiven,
    Given.ofArguments, List.foldlM_cons, hswitch]
  simp only [bind, Except.bind, hread]
  cases config <;> rfl

theorem ofArguments_render :
    ofArguments ("render" :: naming input config)
      = .ok (.render input none config false false none) := by
  rw [ofArguments_cons named?_render, ofCommand, if_pos rfl, ofRender, ofGiven,
    Given.ofArguments, Given.foldlM_naming rfl rfl]
  cases config <;> rfl

end Request

/-! ## 3. What the commands make of their sources -/

namespace Workspace

/-- The settings and the text that a request is about. -/
def sourcesFor (w : Workspace) (input config : Option String) :
    Except Failure (Settings × String) := do
  let settings ← w.settingsFor config
  let text ← w.documentFor input
  return (settings, text)

theorem overridden_nothing (s : Settings) : overridden s false false none = s := by
  simp [overridden]

theorem restricted_true (s : Settings) : restricted s true = s := by
  simp [restricted]

theorem treeBy_restricted_false (parser : Markdown.Parser) (s : Settings) (text : String) :
    (restricted s false).treeBy parser text = .ok (s.readBy parser text) := by
  rw [Settings.treeBy, Settings.result_execute_pipeline, Settings.tree_execute_pipeline]
  simp [restricted, Settings.readBy]

variable (parser : Markdown.Parser) (w : Workspace) (input config : Option String)

/-- What is made of the settings and the text, without fail, is made of the sources. -/
theorem map_sourcesFor {α : Type} (make : Settings → String → α) :
    (do
      let settings ← w.settingsFor config
      let text ← w.documentFor input
      .ok (make settings text))
      = (w.sourcesFor input config).map fun source => make source.1 source.2 := by
  unfold sourcesFor
  cases w.settingsFor config with
  | error failure => rfl
  | ok settings => cases w.documentFor input <;> rfl

theorem sourcesFor_eq_ok_iff {source : Settings × String} :
    w.sourcesFor input config = .ok source
      ↔ w.settingsFor config = .ok source.1 ∧ w.documentFor input = .ok source.2 := by
  obtain ⟨settings, text⟩ := source
  unfold sourcesFor
  cases w.settingsFor config with
  | error failure => simp [bind, Except.bind]
  | ok found => cases w.documentFor input <;> simp [bind, Except.bind, pure, Except.pure]

theorem treeFor_true :
    w.treeFor parser input config true
      = (w.sourcesFor input config).map fun source =>
          (source.1.pipeline.execute (source.1.readBy parser source.2)).tree := by
  simp only [treeFor, restricted_true, Settings.treeBy, Settings.result_execute_pipeline]
  exact w.map_sourcesFor input config fun s text =>
    (s.pipeline.execute (s.readBy parser text)).tree

theorem treeFor_false :
    w.treeFor parser input config false
      = (w.sourcesFor input config).map fun source => source.1.readBy parser source.2 := by
  simp only [treeFor, treeBy_restricted_false]
  exact w.map_sourcesFor input config fun s text => s.readBy parser text

theorem renderingFor_nothing :
    w.renderingFor parser input config false false none
      = (w.sourcesFor input config).map fun source =>
          .ofRoot source.1.rawHtml
            (source.1.pipeline.execute (source.1.readBy parser source.2)).tree := by
  simp only [renderingFor, overridden_nothing, Settings.renderBy, Settings.treeBy,
    Settings.result_execute_pipeline]
  exact w.map_sourcesFor input config fun s text =>
    Rendering.ofRoot s.rawHtml (s.pipeline.execute (s.readBy parser text)).tree

variable {input config}

theorem stored_none (text : String) : w.stored none text = (.ok text, w) := rfl

/-! ## 4. Agreement -/

/-- **The commands agree.** Run the command for trees, with and without its
callouts, and the command for HTML, with the same document and settings file. The
first fails exactly if the last does, and then they end alike. If not, the tree
that is printed is read back as one that is written as the HTML that is printed,
and the tree that is printed without callouts as one that the pipeline makes the
other of. Both are read back unless they are nested deeper than readers go. The
command for HTML remarks on how many callouts the tree has, and the others remark on
nothing. -/
theorem commands_agree {treeLine parsedLine htmlLine : List String}
    (htree : Request.ofArguments treeLine = .ok (.ast input config true))
    (hparsed : Request.ofArguments parsedLine = .ok (.ast input config false))
    (hhtml : Request.ofArguments htmlLine = .ok (.render input none config false false none)) :
    let tree := (w.run parser treeLine).1
    let parsed := (w.run parser parsedLine).1
    let html := (w.run parser htmlLine).1
    (tree.code = 1 ↔ html.code = 1)
      ∧ (tree.code = 1 → html = tree)
      ∧ (tree.code ≠ 1 → ∃ settings text r,
          w.settingsFor config = .ok settings ∧ w.documentFor input = .ok text
            ∧ (settings.pipeline.execute (settings.readBy parser text)).result = .ok r
            ∧ tree = ⟨0, r.toJson.pretty ++ "\n", [], ""⟩
            ∧ html = ⟨0, Markup.ofRoot settings.rawHtml r ++ "\n",
                [⟨"INFO", "aside::commands::render", "Rendered " ++ input.getD "<stdin>",
                  [("callouts", toString r.countCallouts)]⟩], ""⟩
            ∧ parsed = ⟨0, (settings.readBy parser text).toJson.pretty ++ "\n", [], ""⟩
            ∧ (r.toJson.nesting ≤ Json.depthLimit → Root.ofText tree.output = .ok r)
            ∧ ((settings.readBy parser text).toJson.nesting ≤ Json.depthLimit →
                Root.ofText parsed.output = .ok (settings.readBy parser text))) := by
  rw [run_ast parser w htree, run_ast parser w hparsed, run_render parser w hhtml,
    treeFor_true, treeFor_false, renderingFor_nothing]
  cases hsources : w.sourcesFor input config with
  | error failure =>
    dsimp only [Except.map, Ending.ofResult]
    exact ⟨Iff.rfl, fun _ => rfl, fun h => absurd rfl h⟩
  | ok source =>
    obtain ⟨settings, text⟩ := source
    obtain ⟨hsettings, htext⟩ := (w.sourcesFor_eq_ok_iff input config).1 hsources
    dsimp only [Except.map, stored_none, Ending.ofResult]
    have hcode : ¬ (0 = 1) := by decide
    refine ⟨Iff.rfl, fun h => absurd h hcode, fun _ => ?_⟩
    have htree := settings.storable_execute_pipeline (parser settings.gfm text)
    have hparsed := Markdown.storable_rootOf (parser settings.gfm text)
    exact ⟨settings, text, _, hsettings, htext, settings.result_execute_pipeline _,
      rfl, rfl, rfl, Root.ofText_prettyLine htree, Root.ofText_prettyLine hparsed⟩

/-- A directory without files, and a document on standard input. -/
def piped : Workspace where
  directory := "/home"
  input := "Hi".toUTF8

/-- A parser that takes a text for the body of a note. -/
def oneNote : Markdown.Parser := fun _ text =>
  [.mk .blockQuote [.mk .paragraph [.leaf (.text ("[!note] " ++ text))]]]

/-- The commands agree on a document that is there, and on one that is not. -/
theorem commands_agree_piped :
    let tree := (piped.run oneNote ["ast"]).1
    let parsed := (piped.run oneNote ["ast", "--no-transform"]).1
    let html := (piped.run oneNote ["render"]).1
    let missing := (piped.run oneNote ["ast", "--", "a.md"]).1
    html = ⟨0, "<aside class=\"note\">\n<p>Hi</p>\n</aside>\n",
        [⟨"INFO", "aside::commands::render", "Rendered <stdin>", [("callouts", "1")]⟩], ""⟩
      ∧ (∃ r r₀, Root.ofText tree.output = .ok r
          ∧ html.output = Markup.ofRoot false r ++ "\n"
          ∧ Root.ofText parsed.output = .ok r₀
          ∧ (({} : Settings).pipeline.execute r₀).result = .ok r)
      ∧ missing.code = 1 ∧ (piped.run oneNote ["render", "--", "a.md"]).1 = missing := by
  intro tree parsed html missing
  have hmissing : missing.code = 1 := by decide +kernel
  have hcode : tree.code ≠ 1 := by decide +kernel
  obtain ⟨-, halike, -⟩ := commands_agree oneNote piped
    (Request.ofArguments_ast (some "a.md") none)
    (Request.ofArguments_ast_noTransform (some "a.md") none)
    (Request.ofArguments_render (some "a.md") none)
  obtain ⟨-, -, hagree⟩ := commands_agree oneNote piped (Request.ofArguments_ast none none)
    (Request.ofArguments_ast_noTransform none none) (Request.ofArguments_render none none)
  obtain ⟨settings, text, r, hsettings, htext, hr, -, hhtml, -, htree, hparsed⟩ := hagree hcode
  have hdefault : piped.settingsFor none = .ok {} := rfl
  have hHi : piped.documentFor none = .ok "Hi" := by
    change (textOf "Hi".toUTF8).mapError (.input none) = _
    rw [textOf_toUTF8]
    rfl
  obtain rfl := Except.ok.inj (hsettings.symm.trans hdefault)
  obtain rfl := Except.ok.inj (htext.symm.trans hHi)
  obtain rfl := Except.ok.inj (hr.symm.trans (Settings.result_execute_pipeline _ _))
  refine ⟨by decide +kernel, ⟨_, _, ?_, congrArg Ending.output hhtml, ?_, hr⟩, hmissing,
    halike hmissing⟩
  · exact htree (by decide +kernel)
  · exact hparsed (by decide)

end Workspace

end Command

end Marginalia
