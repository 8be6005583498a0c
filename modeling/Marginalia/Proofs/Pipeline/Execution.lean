/-
Marginalia.Proofs.Pipeline.Execution — what a pipeline holds and what it does.

`execute_build`: a pipeline that was built by any calls holds the transforms of
these calls in their order. Executing it runs them in this order, each on the
tree that the one before it left, up to the first that fails. The failure of
that one is the failure of the whole, its tree is the tree, and the log holds
the lines of the transforms up to it and no others. If none fails, all of them
have run. A pipeline in two parts does what its first part does, and then, if
that did not fail, what the second does.

Which transforms have run can be read off the log: the names in the lines that say
a transform is started are the names of these transforms in their order, unless a
transform itself notes such lines (`startedName?`, `NotesNoStart`).

The transforms are any functions of a tree, and their failures are of any type.
What they leave if nothing stops them is said without pipelines, by `treeBehind`
and `linesOf`, and so is where the first failure stands (`FailsFirst`); `runAll`
is compared with that by induction on the transforms.
-/
import Mathlib.Data.List.Basic
import Marginalia.Pipeline.Transforms

namespace Marginalia

variable {ε : Type}

/-! ## 1. Building -/

/-- A call that adds to a pipeline. -/
inductive Addition (ε : Type) where
  | push (t : Transform ε)
  | extend (ts : List (Transform ε))

/-- The transforms that a call adds. -/
def Addition.transforms : Addition ε → List (Transform ε)
  | .push t => [t]
  | .extend ts => ts

namespace Pipeline

/-- The pipeline after one more call. -/
def add (p : Pipeline ε) : Addition ε → Pipeline ε
  | .push t => p.push t
  | .extend ts => p.extend ts

/-- The pipeline that calls build. -/
def build (calls : List (Addition ε)) : Pipeline ε := calls.foldl add empty

theorem transforms_add (p : Pipeline ε) (call : Addition ε) :
    (p.add call).transforms = p.transforms ++ call.transforms := by
  cases call <;> rfl

theorem transforms_foldl_add (calls : List (Addition ε)) (p : Pipeline ε) :
    (calls.foldl add p).transforms = p.transforms ++ calls.flatMap Addition.transforms := by
  induction calls generalizing p with
  | nil => simp
  | cons call calls ih =>
    rw [List.foldl_cons, ih, transforms_add, List.append_assoc, List.flatMap_cons]

/-- A built pipeline holds what the calls add, in their order. -/
theorem transforms_build (calls : List (Addition ε)) :
    (build calls).transforms = calls.flatMap Addition.transforms := by
  simpa [build, empty] using transforms_foldl_add calls empty

/-! ## 2. One transform after the other -/

/-- The tree behind transforms, each of which runs on what the one before left. -/
def treeBehind (tree : Root) (ts : List (Transform ε)) : Root :=
  ts.foldl (fun tree t => (t.run tree).tree) tree

/-- The lines of the log for transforms: each is named when it is started, and
then comes what it notes itself. -/
def linesOf (tree : Root) : List (Transform ε) → List String
  | [] => []
  | t :: ts =>
    ("DEBUG Running transform transform=\"" ++ t.name ++ "\"") :: (t.run tree).log
      ++ linesOf (t.run tree).tree ts

/-- What the transform at an index says has failed, behind all those before it. -/
def failureAt? (ts : List (Transform ε)) (tree : Root) (k : Nat) : Option ε :=
  ts[k]?.bind fun t => (t.run (treeBehind tree (ts.take k))).failure

/-- The transform at an index fails, and none before it does. -/
def FailsFirst (ts : List (Transform ε)) (tree : Root) (k : Nat) (failure : ε) : Prop :=
  failureAt? ts tree k = some failure ∧ ∀ i < k, failureAt? ts tree i = none

theorem failureAt?_zero (t : Transform ε) (ts : List (Transform ε)) (tree : Root) :
    failureAt? (t :: ts) tree 0 = (t.run tree).failure := rfl

theorem failureAt?_succ (t : Transform ε) (ts : List (Transform ε)) (tree : Root) (k : Nat) :
    failureAt? (t :: ts) tree (k + 1) = failureAt? ts (t.run tree).tree k := by
  simp [failureAt?, treeBehind]

/-! ## 3. Names in the log -/

/-- The name of the transform that a line of the log says is started. -/
def startedName? (line : String) : Option String :=
  ("DEBUG Running transform transform=\"".toList.isPrefixOf? line.toList).bind fun rest =>
    if rest.getLast? = some '"' then some (String.ofList rest.dropLast) else none

/-- The transform does not itself note that a transform is started. -/
def NotesNoStart (t : Transform ε) : Prop :=
  ∀ tree, ∀ line ∈ (t.run tree).log, startedName? line = none

theorem startedName?_start (name : String) :
    startedName? ("DEBUG Running transform transform=\"" ++ name ++ "\"") = some name := by
  have hlast : (name.toList ++ "\"".toList).getLast? = some '"' := List.getLast?_concat
  have hname : (name.toList ++ "\"".toList).dropLast = name.toList := List.dropLast_concat
  rw [startedName?, String.toList_append, String.toList_append, List.append_assoc,
    List.isPrefixOf?_eq_some_iff_append_eq.2 rfl, Option.bind_some, if_pos hlast, hname,
    String.ofList_toList]

/-- The names of transforms can be read off their lines. -/
theorem startedNames_linesOf {ts : List (Transform ε)} (h : ∀ t ∈ ts, NotesNoStart t)
    (tree : Root) : (linesOf tree ts).filterMap startedName? = ts.map Transform.name := by
  induction ts generalizing tree with
  | nil => rfl
  | cons t ts ih =>
    have hnotes : (t.run tree).log.filterMap startedName? = [] :=
      List.filterMap_eq_nil_iff.2 (h t List.mem_cons_self tree)
    have hrest := ih (fun u hu => h u (List.mem_cons_of_mem t hu)) (t.run tree).tree
    rw [linesOf, List.cons_append, List.filterMap_cons_some (startedName?_start t.name),
      List.filterMap_append, hnotes, hrest]
    rfl

/-! ## 4. Running -/

theorem linesOf_nil (tree : Root) : linesOf tree ([] : List (Transform ε)) = [] := rfl

/-- The line of a transform is the one that running it notes. -/
theorem linesOf_cons (t : Transform ε) (ts : List (Transform ε)) (tree : Root) :
    linesOf tree (t :: ts)
      = startMessage t.name :: (t.run tree).log ++ linesOf (t.run tree).tree ts := rfl

/-- A transform that does not fail is followed by the others. -/
theorem runAll_cons {t : Transform ε} {tree : Root} (h : (t.run tree).failure = none)
    (ts : List (Transform ε)) :
    runAll (t :: ts) tree
      = ⟨(runAll ts (t.run tree).tree).tree,
          startMessage t.name :: (t.run tree).log ++ (runAll ts (t.run tree).tree).log,
          (runAll ts (t.run tree).tree).failure⟩ := by
  simp [runAll, h]

theorem runAll_of_failsFirst {ts : List (Transform ε)} {tree : Root} {k : Nat} {failure : ε}
    (h : FailsFirst ts tree k failure) :
    runAll ts tree
      = ⟨treeBehind tree (ts.take (k + 1)), linesOf tree (ts.take (k + 1)), some failure⟩ := by
  induction ts generalizing tree k with
  | nil => simp [FailsFirst, failureAt?] at h
  | cons t ts ih =>
    obtain ⟨hfails, hbefore⟩ := h
    cases k with
    | zero =>
      rw [failureAt?_zero] at hfails
      simp [runAll, hfails, treeBehind, linesOf_cons, linesOf_nil]
    | succ k =>
      have hfirst : (t.run tree).failure = none := hbefore 0 (Nat.zero_lt_succ k)
      have hrest : FailsFirst ts (t.run tree).tree k failure := by
        refine ⟨by rwa [failureAt?_succ] at hfails, fun i hi => ?_⟩
        rw [← failureAt?_succ]
        exact hbefore (i + 1) (Nat.succ_lt_succ hi)
      rw [runAll_cons hfirst, ih hrest]
      rfl

theorem runAll_of_not_fails {ts : List (Transform ε)} {tree : Root}
    (h : ∀ k, failureAt? ts tree k = none) :
    runAll ts tree = ⟨treeBehind tree ts, linesOf tree ts, none⟩ := by
  induction ts generalizing tree with
  | nil => rfl
  | cons t ts ih =>
    have hfirst : (t.run tree).failure = none := h 0
    have hrest : ∀ k, failureAt? ts (t.run tree).tree k = none := by
      intro k
      rw [← failureAt?_succ]
      exact h (k + 1)
    rw [runAll_cons hfirst, ih hrest]
    rfl

/-- **Pipelines run in sequence.** A built pipeline holds the transforms of its
calls in order. If one of them fails, executing it ends with the first failure,
the tree that this transform left, and the lines of the transforms up to it; if
none fails, with what all of them left. The names in the log are those of the
transforms that have run, if no transform notes starts itself. Behind more calls it
goes on with what they add, if nothing failed. -/
theorem execute_build (calls : List (Addition ε)) (tree : Root) :
    let ts := calls.flatMap Addition.transforms
    ((build calls).names = ts.map Transform.name ∧ (build calls).size = ts.length
        ∧ ((build calls).isEmpty = true ↔ ts = []))
      ∧ (∀ k failure, FailsFirst ts tree k failure →
          (build calls).execute tree
            = ⟨treeBehind tree (ts.take (k + 1)), linesOf tree (ts.take (k + 1)), some failure⟩
          ∧ ((∀ t ∈ ts, NotesNoStart t) →
              ((build calls).execute tree).log.filterMap startedName?
                = (ts.take (k + 1)).map Transform.name))
      ∧ ((∀ k, failureAt? ts tree k = none) →
          (build calls).execute tree = ⟨treeBehind tree ts, linesOf tree ts, none⟩
          ∧ ((∀ t ∈ ts, NotesNoStart t) →
              ((build calls).execute tree).log.filterMap startedName? = ts.map Transform.name))
      ∧ ∀ more : List (Addition ε),
          (build (calls ++ more)).execute tree
            = ((build calls).execute tree).andThen (build more).execute := by
  intro ts
  have hts : (build calls).transforms = ts := transforms_build calls
  refine ⟨⟨?_, ?_, ?_⟩, fun k failure h => ?_, fun h => ?_, fun more => ?_⟩
  · rw [names, hts]
  · rw [size, hts]
  · rw [isEmpty, hts, List.isEmpty_iff]
  · rw [execute, hts, runAll_of_failsFirst h]
    exact ⟨rfl, fun hnotes =>
      startedNames_linesOf (fun t ht => hnotes t (List.mem_of_mem_take ht)) tree⟩
  · rw [execute, hts, runAll_of_not_fails h]
    exact ⟨rfl, fun hnotes => startedNames_linesOf hnotes tree⟩
  · calc (build (calls ++ more)).execute tree
        = runAll ((build calls).transforms ++ (build more).transforms) tree := by
          rw [execute, transforms_build, transforms_build, transforms_build,
            List.flatMap_append]
      _ = ((build calls).execute tree).andThen (build more).execute :=
          runAll_append _ _ tree

/-- A transform that adds a paragraph, notes that, and fails. -/
def halfDone : Transform where
  name := "half-done"
  run tree := ⟨tree.push (.paragraph [.text "b"] .none), ["added"], some "no more"⟩

/-- The transform behind one that fails does not run, and what the failing one
did stays done; without it all others run. -/
theorem execute_build_stopped :
    let calls : List (Addition String) :=
      [.push (.append "a"), .extend [halfDone, .append "c", .failing "never"]]
    let others : List (Addition String) := [.extend [.append "a"], .push (.append "c")]
    (FailsFirst (calls.flatMap Addition.transforms) .empty 1 "no more"
        ∧ (build calls).execute .empty
          = ⟨⟨[.paragraph [.text "a"] .none, .paragraph [.text "b"] .none]⟩,
              ["DEBUG Running transform transform=\"append\"",
                "DEBUG Running transform transform=\"half-done\"", "added"], some "no more"⟩
        ∧ ((build calls).execute .empty).log.filterMap startedName? = ["append", "half-done"])
      ∧ (∀ k, failureAt? (others.flatMap Addition.transforms) .empty k = none)
      ∧ (build others).execute .empty
        = ⟨⟨[.paragraph [.text "a"] .none, .paragraph [.text "c"] .none]⟩,
            ["DEBUG Running transform transform=\"append\"",
              "DEBUG Running transform transform=\"append\""], none⟩
      ∧ ((build others).execute .empty).log.filterMap startedName? = ["append", "append"] := by
  intro calls others
  have hfirst : FailsFirst (calls.flatMap Addition.transforms) .empty 1 "no more" := by
    refine ⟨rfl, fun i hi => ?_⟩
    obtain rfl : i = 0 := by omega
    rfl
  have hnone : ∀ k, failureAt? (others.flatMap Addition.transforms) .empty k = none := by
    intro k
    match k with
    | 0 | 1 => rfl
    | k + 2 => rfl
  have hsilent : ∀ text, NotesNoStart (.append text) := fun _ _ => List.forall_mem_nil _
  have hcalls : ∀ t ∈ calls.flatMap Addition.transforms, NotesNoStart t := by
    have hhalf : NotesNoStart halfDone := fun _ =>
      List.forall_mem_singleton.2 (by decide +kernel)
    have hfailing : NotesNoStart (.failing "never") := fun _ => List.forall_mem_nil _
    exact List.forall_mem_cons.2 ⟨hsilent "a", List.forall_mem_cons.2 ⟨hhalf,
      List.forall_mem_cons.2 ⟨hsilent "c", List.forall_mem_singleton.2 hfailing⟩⟩⟩
  have hothers : ∀ t ∈ others.flatMap Addition.transforms, NotesNoStart t :=
    List.forall_mem_cons.2 ⟨hsilent "a", List.forall_mem_singleton.2 (hsilent "c")⟩
  obtain ⟨hstopped, hstarted⟩ := (execute_build calls .empty).2.1 1 "no more" hfirst
  obtain ⟨hall, hnames⟩ := (execute_build others .empty).2.2.1 hnone
  exact ⟨⟨hfirst, hstopped, hstarted hcalls⟩, hnone, hall, hnames hothers⟩

end Pipeline

end Marginalia
