/-
Marginalia.Proofs.Command.Sinks — where the answer of a run goes.

Main statement: `run_writes_once`. A run that fails, for whatever reason, has
written nothing: standard output is empty, and the workspace is what it was. A
run that asks for HTML and does not fail has put the HTML with a line feed behind
it into one place, standard output or the file that was named, and into no other.
A run that asks for a tree leaves the workspace as it is.

The HTML is made of what the workspace held before the run, so that the file
that is written may also be the one that was read.

That the file holds the text afterwards is said twice over: of the place that
its name leads to, and of reading it by its name. For the second, the name has
to lead to the same place as before, which it does since a file can only be
written where no directory stands, and names lead through directories
(`follow_put`).
-/
import Marginalia.Proofs.Command.Stages

namespace Marginalia.Command

namespace Workspace

/-! ## 1. Written files -/

/-- A step can only be made from a directory. -/
theorem find?_of_follow {w : Workspace} {start target : Place} {step : Step}
    {steps : List Step} (h : w.follow start (step :: steps) = .ok target) :
    w.find? start = some .directory := by
  cases hs : w.find? start with
  | none => cases step <;> simp [follow, hs] at h
  | some entry =>
    cases entry with
    | directory => rfl
    | file bytes => cases step <;> simp [follow, hs] at h

/-- Steps lead through directories, so what is put where no directory stands
does not change where they lead. -/
theorem follow_put {w : Workspace} {place : Place} (h : w.find? place ≠ some .directory)
    (entry : Entry) {steps : List Step} {start target : Place}
    (hf : w.follow start steps = .ok target) :
    (w.put place entry).follow start steps = .ok target := by
  induction steps generalizing start with
  | nil => simpa only [follow] using hf
  | cons step steps ih =>
    have hs : w.find? start = some .directory := find?_of_follow hf
    have hne : start ≠ place := by
      rintro rfl
      exact h hs
    have hput : (w.put place entry).find? start = some .directory := by
      rw [find?_put_of_ne w hne, hs]
    cases step with
    | stay | up =>
      simp only [follow, hs, hput] at hf ⊢
      exact ih hf
    | down name =>
      simp only [follow, hs, hput] at hf ⊢
      split at hf
      · cases hf
      · rename_i hshort
        rw [if_neg hshort]
        exact ih hf

theorem locate_put {w : Workspace} {place : Place} (h : w.find? place ≠ some .directory)
    (entry : Entry) {name : String} {target : Place × Bool} (hl : w.locate name = .ok target) :
    (w.put place entry).locate name = .ok target := by
  unfold locate at hl ⊢
  split at hl
  · cases hl
  · rename_i hname
    rw [if_neg hname]
    split at hl
    · cases hl
    · rename_i hshort
      rw [if_neg hshort]
      -- Both workspaces have the same directory, so the name is taken apart the same way.
      have hsame : (w.put place entry).relative name.toList = w.relative name.toList := rfl
      simp only [hsame] at hl ⊢
      cases hf : w.follow
          ⟨if (Route.ofChars (w.relative name.toList)).fromRoot then .root else .above 0, []⟩
          (Route.ofChars (w.relative name.toList)).steps with
      | error r => simp [hf, bind, Except.bind] at hl
      | ok found =>
        rw [hf] at hl
        rw [follow_put h entry hf]
        exact hl

/-- A place where a file can be written is the one its name leads to, and no
directory stands there. -/
theorem locate_of_writable {w : Workspace} {name : String} {place : Place}
    (h : w.writable name = .ok place) :
    w.locate name = .ok (place, false) ∧ w.find? place ≠ some .directory := by
  unfold writable at h
  cases hl : w.locate name with
  | error r => simp [hl, bind, Except.bind] at h
  | ok target =>
    obtain ⟨found, toDirectory⟩ := target
    simp only [hl, bind, Except.bind] at h
    cases hfound : w.find? found with
    | none =>
      cases hup : w.find? found.up with
      | none => simp [hfound, hup] at h
      | some above =>
        cases above <;> cases toDirectory <;> simp [hfound, hup] at h
        simp [← h, hfound]
    | some entry =>
      cases entry <;> cases toDirectory <;> simp [hfound] at h
      simp [← h, hfound]

/-- The file of the name holds the text, and nothing else is changed. -/
structure Receives (w after : Workspace) (name text : String) : Prop where
  /-- The text can be read by the name. -/
  read : after.readFile name = .ok text
  /-- It stands at the place that the name led to before, and every other place
  is as it was. -/
  place : ∃ place, w.locate name = .ok (place, false)
    ∧ after.find? place = some (.file text.toUTF8)
    ∧ ∀ other, other ≠ place → after.find? other = w.find? other
  /-- The directory is the same. -/
  directory : after.directory = w.directory
  /-- Standard input is the same. -/
  input : after.input = w.input

theorem receives_put {w : Workspace} {name : String} {place : Place}
    (h : w.writable name = .ok place) (text : String) :
    Receives w (w.put place (.file text.toUTF8)) name text := by
  obtain ⟨hl, hd⟩ := locate_of_writable h
  have hnames : place.names ≠ [] := by
    intro hnil
    exact hd (by simp [find?, hnil])
  have hfind := find?_put_self w hnames (.file text.toUTF8)
  refine ⟨?_, ⟨place, hl, hfind, fun other hne => find?_put_of_ne w hne _⟩, rfl, rfl⟩
  simp only [readFile, entryAt, locate_put hd _ hl, bind, Except.bind, hfind]
  exact textOf_toUTF8 text

theorem writeFile_cases (w : Workspace) (name text : String) :
    (∃ r, w.writeFile name text = (.error r, w))
      ∨ ∃ after, w.writeFile name text = (.ok (), after) ∧ Receives w after name text := by
  unfold writeFile
  cases h : w.writable name with
  | error r => exact .inl ⟨r, rfl⟩
  | ok place => exact .inr ⟨_, rfl, receives_put h text⟩

/-! ## 2. Runs -/

theorem fileOf?_eq_none_iff {name : Option String} :
    fileOf? name = none ↔ name = none ∨ name = some "-" := by
  cases name <;> simp [fileOf?, streamName]

theorem fileOf?_eq_some {name : String} (h : name ≠ "-") :
    fileOf? (some name) = some name := by
  simp [fileOf?, streamName, h]

/-- Either nothing is stored, for a reason, or one sink has the text. -/
theorem stored_cases (w : Workspace) (output : Option String) (text : String) :
    (∃ failure, w.stored output text = (.error failure, w))
      ∨ (fileOf? output = none ∧ w.stored output text = (.ok text, w))
      ∨ ∃ name after, fileOf? output = some name ∧ w.stored output text = (.ok "", after)
          ∧ Receives w after name text := by
  unfold stored
  cases hfile : fileOf? output with
  | none => exact .inr (.inl ⟨rfl, rfl⟩)
  | some name =>
    rcases writeFile_cases w name text with ⟨r, hw⟩ | ⟨after, hw, hreceives⟩
    · exact .inl ⟨.output name r, by simp only [hw]⟩
    · exact .inr (.inr ⟨name, after, rfl, by simp only [hw], hreceives⟩)

/-- A run that fails has written nothing. -/
theorem run_of_failure (parser : Markdown.Parser) (w : Workspace) (arguments : List String)
    (h : (w.run parser arguments).1.code ≠ 0) :
    (w.run parser arguments).1.output = "" ∧ (w.run parser arguments).2 = w := by
  cases hr : Request.ofArguments arguments with
  | error misuse => simp [run_of_misuse parser w hr, Ending.ofMisuse]
  | ok request =>
    cases request with
    | help form =>
      obtain ⟨page, hrun⟩ := run_help parser w hr
      simp [hrun] at h
    | version => simp [run_version parser w hr] at h
    | ast input config transform =>
      rw [run_ast parser w hr] at h ⊢
      cases ht : w.treeFor parser input config transform with
      | error failure => simp [Except.map, Ending.ofResult]
      | ok tree => simp [ht, Except.map, Ending.ofResult] at h
    | render input output config gfm rawHtml element =>
      rw [run_render parser w hr] at h ⊢
      cases hmade : w.renderingFor parser input config gfm rawHtml element with
      | error failure => simp [Ending.ofResult]
      | ok made =>
        rw [hmade] at h
        rcases w.stored_cases output (made.html ++ "\n")
          with ⟨failure, hs⟩ | ⟨-, hs⟩ | ⟨_, _, -, hs, -⟩
        · simp [hs, Ending.ofResult]
        · simp [hs, Ending.ofResult] at h
        · simp [hs, Ending.ofResult] at h

/-- **A run writes to one sink or to none.** If it fails, standard output is empty
and nothing is changed. If it asks for HTML and does not fail, the HTML was made,
and with a line feed behind it it went to standard output if no file is named or
`-` is, and otherwise to the file of that name and nowhere else. If it asks for a
tree, nothing is changed. -/
theorem run_writes_once (parser : Markdown.Parser) (w : Workspace) (arguments : List String) :
    let ending := (w.run parser arguments).1
    let after := (w.run parser arguments).2
    (ending.code ≠ 0 → ending.output = "" ∧ after = w)
      ∧ (∀ input output config gfm rawHtml element,
          Request.ofArguments arguments
            = .ok (.render input output config gfm rawHtml element) →
          ending.code = 0 →
          ∃ html, w.htmlFor parser input config gfm rawHtml element = .ok html
            ∧ (output = none ∨ output = some "-" → ending.output = html ++ "\n" ∧ after = w)
            ∧ ∀ name, output = some name → name ≠ "-" →
                ending.output = "" ∧ Receives w after name (html ++ "\n"))
      ∧ ∀ input config transform,
          Request.ofArguments arguments = .ok (.ast input config transform) → after = w := by
  refine ⟨run_of_failure parser w arguments, ?_, ?_⟩
  · intro input output config gfm rawHtml element hr hcode
    rw [run_render parser w hr] at hcode ⊢
    cases hmade : w.renderingFor parser input config gfm rawHtml element with
    | error failure => simp [hmade, Ending.ofResult] at hcode
    | ok made =>
      simp only [hmade] at hcode ⊢
      refine ⟨made.html, congrArg (Except.map Rendering.html) hmade, ?_⟩
      rcases w.stored_cases output (made.html ++ "\n")
        with ⟨failure, hs⟩ | ⟨hfile, hs⟩ | ⟨name, after, hfile, hs, hreceives⟩
      · simp [hs, Ending.ofResult] at hcode
      · rw [hs]
        refine ⟨fun _ => ⟨rfl, rfl⟩, fun name hname hne => ?_⟩
        rw [hname, fileOf?_eq_some hne] at hfile
        cases hfile
      · rw [hs]
        refine ⟨fun hnone => ?_, fun name' hname hne => ?_⟩
        · rw [fileOf?_eq_none_iff.2 hnone] at hfile
          cases hfile
        · rw [hname, fileOf?_eq_some hne] at hfile
          obtain rfl := Option.some.inj hfile
          exact ⟨rfl, hreceives⟩
  · intro input config transform hr
    rw [run_ast parser w hr]

/-- A directory with one file. -/
def oneFile : Workspace where
  directory := "/home"
  entries := [(⟨.above 0, ["a.md"]⟩, .file "a".toUTF8)]

/-- A parser that takes a text for one paragraph. -/
def oneParagraph : Markdown.Parser := fun _ text => [.mk .paragraph [.leaf (.text text)]]

/-- The file that is written may be the one that was read; a file that is not
there is not made by a run that fails for want of it. -/
theorem run_writes_once_inPlace :
    let inPlace := oneFile.run oneParagraph ["render", "a.md", "-o", "a.md"]
    let missing := oneFile.run oneParagraph ["render", "b.md", "-o", "b.md"]
    let tree := oneFile.run oneParagraph ["ast", "a.md"]
    (inPlace.1.code = 0 ∧ inPlace.1.output = ""
      ∧ Receives oneFile inPlace.2 "a.md" "<p>a</p>\n")
      ∧ (missing.1.code = 1 ∧ missing.1.output = "" ∧ missing.2 = oneFile)
      ∧ tree.1.code = 0 ∧ tree.2 = oneFile := by
  intro inPlace missing tree
  have hinPlace : inPlace.1.code = 0 := by decide +kernel
  have hmissing : missing.1.code = 1 := by decide +kernel
  have hhtml : (oneFile.htmlFor oneParagraph (some "a.md") none false false none).toOption
      = some "<p>a</p>" := by decide +kernel
  obtain ⟨html, hh, -, hfile⟩ :=
    (run_writes_once oneParagraph oneFile ["render", "a.md", "-o", "a.md"]).2.1
      (some "a.md") (some "a.md") none false false none rfl hinPlace
  obtain rfl : html = "<p>a</p>" := by simpa [hh, Except.toOption] using hhtml
  refine ⟨⟨hinPlace, hfile "a.md" rfl (by decide)⟩, ⟨hmissing, ?_⟩, by decide +kernel, ?_⟩
  · exact (run_writes_once oneParagraph oneFile ["render", "b.md", "-o", "b.md"]).1
      (fun h => Nat.one_ne_zero (hmissing.symm.trans h))
  · exact (run_writes_once oneParagraph oneFile ["ast", "a.md"]).2.2
      (some "a.md") none true rfl

end Workspace

end Marginalia.Command
