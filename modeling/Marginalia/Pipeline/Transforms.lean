/-
Marginalia.Pipeline.Transforms — the transforms there are.

The transform this library is for turns marked quotes into callouts. Three
small ones serve to put pipelines together: one adds a paragraph, one takes
the rules out of a document, and one always fails.
-/
import Marginalia.Pipeline.Basic
import Marginalia.Settings.Basic

namespace Marginalia

namespace Transform

/-- Turns marked quotes into callouts of some element. -/
def callouts (element : String) : Transform where
  name := "callout"
  run tree :=
    let converted := Callout.convertRoot element tree
    ⟨converted.value, converted.log.map Callout.noteMessage, none⟩

/-- Puts a paragraph with one text at the end of the document. -/
def append (text : String) : Transform where
  name := "append"
  run tree := ⟨tree.push (.paragraph [.text text] .none), [], none⟩

/-- Takes out the rules that are children of the document. -/
def dropRules : Transform where
  name := "drop-rules"
  run tree :=
    ⟨⟨tree.children.filter fun
      | .rule _ => false
      | _ => true⟩, [], none⟩

/-- Changes nothing and fails. -/
def failing (text : String) : Transform where
  name := "failing"
  run tree := ⟨tree, [], some text⟩

end Transform

/-- The pipeline that settings ask for. -/
def Settings.pipeline (s : Settings) : Pipeline :=
  if s.callouts then Pipeline.empty.push (.callouts s.element) else .empty

/-- The words for a failed transform. -/
def failureMessage (text : String) : String := "Transform error: " ++ text

end Marginalia
