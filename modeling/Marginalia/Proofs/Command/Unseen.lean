/-
Marginalia.Proofs.Command.Unseen — what stands off the way of a name.

A name leads from place to place, and what it leads to can only depend on the
places on its way (`trail`). So two workspaces that are alike but at one place
(`AlikeBut`) are alike for every name that does not lead through that place or to
it: a file of that name reads the same, and writing one ends the same and leaves
the workspaces alike but at that place.

`readFile_of_alike`, `stored_of_alike`: this of reading and of storing.

Whether a file can be written is decided by what stands at its place or, where
nothing does, at the place above. The place above is on the way as well, since a
way starts at a directory without names and goes down one name at a time
(`mem_trail_of_below`).
-/
import Marginalia.Proofs.Command.Sinks

namespace Marginalia.Command

namespace Workspace

/-! ## 1. Ways -/

/-- The places at which steps from a place look, up to where they fail or lead. -/
def trail (w : Workspace) : Place → List Step → List Place
  | place, [] => [place]
  | place, step :: steps =>
    place ::
      match w.find? place with
      | none | some (.file _) => []
      | some .directory =>
        match step with
        | .stay => w.trail place steps
        | .up => w.trail place.up steps
        | .down name =>
          if name.utf8ByteSize > maxNameBytes then [] else w.trail (place.down name) steps

/-- The places on the way of a name, none for a name that is not followed. -/
def way (w : Workspace) (name : String) : List Place :=
  if name.isEmpty then []
  else if name.utf8ByteSize > maxPathBytes then []
  else
    let route := Route.ofChars (w.relative name.toList)
    w.trail ⟨if route.fromRoot then .root else .above 0, []⟩ route.steps

theorem mem_trail_of_follow {w : Workspace} {start target : Place} {steps : List Step}
    (h : w.follow start steps = .ok target) : target ∈ w.trail start steps := by
  induction steps generalizing start with
  | nil =>
    obtain rfl := Except.ok.inj h
    exact List.mem_cons_self
  | cons step steps ih =>
    have hs : w.find? start = some .directory := find?_of_follow h
    cases step with
    | stay | up =>
      simp only [follow, hs] at h
      simp only [trail, hs]
      exact List.mem_cons_of_mem _ (ih h)
    | down name =>
      simp only [follow, hs] at h
      simp only [trail, hs]
      split at h
      · cases h
      · rename_i hshort
        rw [if_neg hshort]
        exact List.mem_cons_of_mem _ (ih h)

/-! ## 2. Places below -/

/-- The place is some names further than the other. -/
def Below (above place : Place) : Prop :=
  ∃ names, names ≠ [] ∧ place = ⟨above.anchor, above.names ++ names⟩

theorem up_cons (anchor : Anchor) (name : String) (names : List String) :
    (⟨anchor, name :: names⟩ : Place).up = ⟨anchor, (name :: names).dropLast⟩ := rfl

theorem not_below_of_names_nil {above : Place} {anchor : Anchor} :
    ¬ Below above ⟨anchor, []⟩ := by
  rintro ⟨names, hne, h⟩
  have hnames : above.names ++ names = [] := ((Place.mk.inj h).2).symm
  exact hne (List.append_eq_nil_iff.1 hnames).2

/-- What is below the place above is below the place itself. -/
theorem below_of_below_up {above place : Place} (h : Below above place.up) :
    Below above place := by
  obtain ⟨anchor, names⟩ := place
  cases names with
  | nil =>
    cases anchor with
    | above n => exact absurd h not_below_of_names_nil
    | root => exact absurd h not_below_of_names_nil
  | cons name names =>
    obtain ⟨more, hne, h⟩ := h
    obtain ⟨hanchor, hnames⟩ := Place.mk.inj ((up_cons anchor name names).symm.trans h)
    refine ⟨more ++ [(name :: names).getLast (List.cons_ne_nil _ _)], by simp, ?_⟩
    rw [hanchor, ← List.append_assoc, ← hnames, List.dropLast_concat_getLast]

/-- A place with a name is below the place above it. -/
theorem below_up {place : Place} (h : place.names ≠ []) : Below place.up place := by
  obtain ⟨anchor, names⟩ := place
  cases names with
  | nil => exact absurd rfl h
  | cons name names =>
    refine ⟨[(name :: names).getLast h], List.cons_ne_nil _ _, ?_⟩
    rw [up_cons, List.dropLast_concat_getLast]

/-- A place a name further is below a place only if that is the place or is above it. -/
theorem eq_or_below_of_below_down {above place : Place} {name : String}
    (h : Below above (place.down name)) : above = place ∨ Below above place := by
  obtain ⟨anchor, names⟩ := place
  obtain ⟨more, hne, h⟩ := h
  obtain ⟨hanchor, hnames⟩ := Place.mk.inj h
  dsimp only at hanchor hnames
  rcases List.eq_nil_or_concat more with hnil | ⟨before, last, rfl⟩
  · exact absurd hnil hne
  · rw [List.concat_eq_append, ← List.append_assoc] at hnames
    obtain ⟨hnames, -⟩ := List.append_inj' hnames rfl
    cases before with
    | nil =>
      rw [List.append_nil] at hnames
      exact .inl (by rw [hanchor, hnames])
    | cons n ns => exact .inr ⟨n :: ns, List.cons_ne_nil _ _, by rw [hanchor, hnames]⟩

/-- What a way goes below, it goes through, unless it starts below it. -/
theorem mem_trail_of_below {w : Workspace} {above start target : Place} {steps : List Step}
    (h : w.follow start steps = .ok target) (hbelow : Below above target) :
    Below above start ∨ above ∈ w.trail start steps := by
  induction steps generalizing start with
  | nil =>
    obtain rfl := Except.ok.inj h
    exact .inl hbelow
  | cons step steps ih =>
    have hs : w.find? start = some .directory := find?_of_follow h
    cases step with
    | stay =>
      simp only [follow, hs] at h
      simp only [trail, hs]
      exact (ih h).imp_right (List.mem_cons_of_mem _)
    | up =>
      simp only [follow, hs] at h
      simp only [trail, hs]
      exact (ih h).imp below_of_below_up (List.mem_cons_of_mem _)
    | down name =>
      simp only [follow, hs] at h
      simp only [trail, hs]
      split at h
      · cases h
      · rename_i hshort
        rw [if_neg hshort]
        rcases ih h with hdown | hmem
        · rcases eq_or_below_of_below_down hdown with rfl | hstart
          · exact .inr List.mem_cons_self
          · exact .inl hstart
        · exact .inr (List.mem_cons_of_mem _ hmem)

/-! ## 3. Workspaces that are alike but at one place -/

/-- The workspaces differ at most in what stands at the place. -/
structure AlikeBut (place : Place) (w v : Workspace) : Prop where
  /-- Every other entry is the same. -/
  find? : ∀ other, other ≠ place → v.find? other = w.find? other
  /-- The directory is the same. -/
  directory : v.directory = w.directory
  /-- Standard input is the same. -/
  input : v.input = w.input

variable {place : Place} {w v : Workspace} {name : String}

theorem follow_of_alike (h : AlikeBut place w v) {steps : List Step} {start : Place}
    (hout : place ∉ w.trail start steps) : v.follow start steps = w.follow start steps := by
  induction steps generalizing start with
  | nil => rfl
  | cons step steps ih =>
    have hne : start ≠ place := by
      rintro rfl
      exact hout (by rw [trail.eq_def]; exact List.mem_cons_self)
    have hfind : v.find? start = w.find? start := h.find? start hne
    cases hs : w.find? start with
    | none => cases step <;> simp only [follow, hfind, hs]
    | some entry =>
      cases entry with
      | file bytes => cases step <;> simp only [follow, hfind, hs]
      | directory =>
        cases step with
        | stay | up =>
          simp only [trail, hs, List.mem_cons, not_or] at hout
          simp only [follow, hfind, hs]
          exact ih hout.2
        | down name =>
          simp only [trail, hs, List.mem_cons, not_or] at hout
          simp only [follow, hfind, hs]
          split
          · rfl
          · rename_i hshort
            rw [if_neg hshort] at hout
            exact ih hout.2

/-- A name leads to the same place. -/
theorem locate_of_alike (h : AlikeBut place w v) (hout : place ∉ w.way name) :
    v.locate name = w.locate name := by
  have hrelative : v.relative name.toList = w.relative name.toList := by
    rw [relative, relative, h.directory]
  unfold locate
  unfold way at hout
  by_cases hempty : name.isEmpty
  · rw [if_pos hempty, if_pos hempty]
  · rw [if_neg hempty, if_neg hempty]
    by_cases hlong : name.utf8ByteSize > maxPathBytes
    · rw [if_pos hlong, if_pos hlong]
    · rw [if_neg hempty, if_neg hlong] at hout
      rw [if_neg hlong, if_neg hlong, hrelative]
      dsimp only at hout ⊢
      rw [follow_of_alike h hout]

/-- The place that a name leads to, and the one above it, are not the one off its way. -/
theorem ne_of_locate {target : Place} {toDirectory : Bool} (hout : place ∉ w.way name)
    (hl : w.locate name = .ok (target, toDirectory)) :
    target ≠ place ∧ (target.names ≠ [] → target.up ≠ place) := by
  unfold locate at hl
  unfold way at hout
  split at hl
  · cases hl
  · rename_i hempty
    split at hl
    · cases hl
    · rename_i hlong
      rw [if_neg hempty, if_neg hlong] at hout
      dsimp only at hl hout
      cases hf : w.follow ⟨if (Route.ofChars (w.relative name.toList)).fromRoot then .root
          else .above 0, []⟩ (Route.ofChars (w.relative name.toList)).steps with
      | error r => simp [hf, bind, Except.bind] at hl
      | ok found =>
        rw [hf] at hl
        obtain ⟨rfl, -⟩ := Prod.mk.inj (Except.ok.inj hl)
        constructor
        · rintro rfl
          exact hout (mem_trail_of_follow hf)
        · rintro hnames rfl
          rcases mem_trail_of_below hf (below_up hnames) with hstart | hmem
          · exact not_below_of_names_nil hstart
          · exact hout hmem

/-! ## 4. Reading and storing -/

theorem entryAt_of_alike (h : AlikeBut place w v) (hout : place ∉ w.way name) :
    v.entryAt name = w.entryAt name := by
  rw [entryAt, entryAt, locate_of_alike h hout]
  cases hl : w.locate name with
  | error r => rfl
  | ok target =>
    obtain ⟨target, toDirectory⟩ := target
    have hfind : v.find? target = w.find? target := h.find? target (ne_of_locate hout hl).1
    simp only [bind, Except.bind, hfind]

/-- A file reads the same. -/
theorem readFile_of_alike (h : AlikeBut place w v) (hout : place ∉ w.way name) :
    v.readFile name = w.readFile name := by
  rw [readFile, readFile, entryAt_of_alike h hout]

theorem writable_of_alike (h : AlikeBut place w v) (hout : place ∉ w.way name) :
    v.writable name = w.writable name := by
  rw [writable, writable, locate_of_alike h hout]
  cases hl : w.locate name with
  | error r => rfl
  | ok target =>
    obtain ⟨target, toDirectory⟩ := target
    obtain ⟨hne, hup⟩ := ne_of_locate hout hl
    have hfind : v.find? target = w.find? target := h.find? target hne
    simp only [bind, Except.bind, hfind]
    cases hs : w.find? target with
    | some entry => cases entry <;> rfl
    | none =>
      have hnames : target.names ≠ [] := by
        intro hnil
        simp [find?, hnil] at hs
      rw [h.find? target.up (hup hnames)]

/-- Putting the same entry into both leaves them alike. -/
theorem AlikeBut.put (h : AlikeBut place w v) (other : Place) (entry : Entry) :
    AlikeBut place (w.put other entry) (v.put other entry) where
  find? p hp := by
    by_cases hother : p = other
    · subst hother
      simp [Workspace.find?, Workspace.put]
    · rw [find?_put_of_ne v hother, find?_put_of_ne w hother, h.find? p hp]
  directory := h.directory
  input := h.input

/-- What is stored ends the same, and leaves the workspaces alike but at the place, at
which they are what they were. -/
theorem stored_of_alike (h : AlikeBut place w v) {output : Option String}
    (hout : ∀ name, fileOf? output = some name → place ∉ w.way name) (text : String) :
    (v.stored output text).1 = (w.stored output text).1
      ∧ AlikeBut place (w.stored output text).2 (v.stored output text).2
      ∧ (w.stored output text).2.find? place = w.find? place
      ∧ (v.stored output text).2.find? place = v.find? place := by
  unfold stored
  cases hfile : fileOf? output with
  | none => exact ⟨rfl, h, rfl, rfl⟩
  | some name =>
    have hname : place ∉ w.way name := hout name hfile
    simp only [writeFile, writable_of_alike h hname]
    cases hw : w.writable name with
    | error r => exact ⟨rfl, h, rfl, rfl⟩
    | ok target =>
      have hne : place ≠ target := (ne_of_locate hname (locate_of_writable hw).1).1.symm
      exact ⟨rfl, h.put target _, find?_put_of_ne w hne _, find?_put_of_ne v hne _⟩

end Workspace

end Marginalia.Command
