/-
Marginalia.Pipeline.Basic — transforms and pipelines of them.

A transform has a name and changes a tree; it may fail, and what it changed
before it failed stays changed. A pipeline runs transforms one after the
other and stops at the first that fails. The log names every transform that
was started and holds what the transforms noted themselves.

Failures are of any type; unless it is said otherwise they are texts.

Main statement: `runAll_append` (a pipeline in two parts).
-/
import Marginalia.Tree.Walk

namespace Marginalia

/-! ## 1. Transforms -/

/-- How running a transform on a tree ends. -/
structure Outcome (ε : Type := String) where
  /-- The tree as it was left. -/
  tree : Root
  /-- The log, in order. -/
  log : List String
  /-- What failed, if something did. -/
  failure : Option ε

/-- A change of a tree. -/
structure Transform (ε : Type := String) where
  /-- The name, for the log. -/
  name : String
  /-- The change. -/
  run : Root → Outcome ε

variable {ε : Type}

/-- The tree that was made, or what failed. -/
def Outcome.result (o : Outcome ε) : Except ε Root :=
  match o.failure with
  | some e => .error e
  | none => .ok o.tree

/-- An outcome, and what is done next with the tree if nothing failed. -/
def Outcome.andThen (o : Outcome ε) (next : Root → Outcome ε) : Outcome ε :=
  match o.failure with
  | some e => ⟨o.tree, o.log, some e⟩
  | none => ⟨(next o.tree).tree, o.log ++ (next o.tree).log, (next o.tree).failure⟩

/-! ## 2. Pipelines -/

/-- Transforms to run one after the other. -/
structure Pipeline (ε : Type := String) where
  /-- The transforms, in the order of running. -/
  transforms : List (Transform ε)

namespace Pipeline

/-- The pipeline without transforms. -/
def empty : Pipeline ε := ⟨[]⟩

/-- The pipeline with a transform put at its end. -/
def push (p : Pipeline ε) (t : Transform ε) : Pipeline ε := ⟨p.transforms ++ [t]⟩

/-- The pipeline with transforms put at its end. -/
def extend (p : Pipeline ε) (ts : List (Transform ε)) : Pipeline ε := ⟨p.transforms ++ ts⟩

/-- The names of the transforms in the order of running. -/
def names (p : Pipeline ε) : List String := p.transforms.map Transform.name

/-- The number of transforms. -/
def size (p : Pipeline ε) : Nat := p.transforms.length

/-- Is there no transform? -/
def isEmpty (p : Pipeline ε) : Bool := p.transforms.isEmpty

/-- The line of the log that says a transform is started. -/
def startMessage (name : String) : String :=
  "DEBUG Running transform transform=\"" ++ name ++ "\""

/-- Runs transforms one after the other up to the first that fails. -/
def runAll : List (Transform ε) → Root → Outcome ε
  | [], tree => ⟨tree, [], none⟩
  | t :: ts, tree =>
    let first := t.run tree
    let started := startMessage t.name :: first.log
    match first.failure with
    | some e => ⟨first.tree, started, some e⟩
    | none =>
      let rest := runAll ts first.tree
      ⟨rest.tree, started ++ rest.log, rest.failure⟩

/-- Runs a pipeline. -/
def execute (p : Pipeline ε) (tree : Root) : Outcome ε := runAll p.transforms tree

/-- A pipeline in two parts: the second part runs only if the first did not
fail, and on what the first left. -/
theorem runAll_append (ts us : List (Transform ε)) (tree : Root) :
    runAll (ts ++ us) tree = (runAll ts tree).andThen (runAll us) := by
  induction ts generalizing tree with
  | nil => simp [runAll, Outcome.andThen]
  | cons t ts ih =>
    cases h : (t.run tree).failure with
    | some e => simp [runAll, h, Outcome.andThen]
    | none =>
      cases hf : (runAll ts (t.run tree).tree).failure <;>
        simp [runAll, h, ih, hf, Outcome.andThen]

end Pipeline

end Marginalia
