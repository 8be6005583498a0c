/-
Marginalia.Command.Workspace — a directory of files as a value.

A workspace is a host that is all data: the files and directories below one
directory, and what standard input holds. Names lead from entry to entry
the way a file system follows them, so that a name can fail for want of an
entry or because a file stands where a directory is needed. Outside of the
directory there are the directories above it and, below the root, what every
system has: a few directories, the null device and standard input.

Main statements: `find?_put_self`, `find?_put_of_ne` (writing changes one
entry).
-/
import Marginalia.Command.Host
import Marginalia.OrderedMap

namespace Marginalia.Command

/-! ## 1. Names -/

/-- A step of a name. -/
inductive Step where
  /-- To where it starts, which has to be a directory. -/
  | stay
  /-- To the directory above. -/
  | up
  /-- To an entry. -/
  | down (name : String)
  deriving DecidableEq, Repr

/-- A name, taken apart. -/
structure Route where
  /-- Does the name start at the root? -/
  fromRoot : Bool := false
  steps : List Step
  /-- Does the name end in a slash, so that it leads to a directory? -/
  toDirectory : Bool := false
  deriving DecidableEq, Repr

/-- The parts of a text between slashes. -/
def slashParts : List Char → List (List Char)
  | [] => [[]]
  | c :: rest =>
    if c = '/' then [] :: slashParts rest
    else match slashParts rest with
      | [] => [[c]]
      | part :: parts => (c :: part) :: parts

/-- The step that a part of a name makes; an empty part makes none. -/
def stepOf? (part : List Char) : Option Step :=
  if part = [] then none
  else if part = ['.'] then some .stay
  else if part = ['.', '.'] then some .up
  else some (.down (String.ofList part))

/-- Takes a name apart that is not empty. -/
def Route.ofChars (name : List Char) : Route :=
  { fromRoot := name.head? == some '/'
    steps := (slashParts name).filterMap stepOf?
    toDirectory := name.getLast? == some '/' }

/-! ## 2. Workspaces -/

/-- What stands under a name. -/
inductive Entry where
  | directory
  | file (bytes : ByteArray)

instance : DecidableEq Entry
  | .directory, .directory => isTrue rfl
  | .directory, .file _ | .file _, .directory => isFalse nofun
  | .file a, .file b => decidable_of_iff (a.data = b.data)
      ⟨fun h => congrArg Entry.file (ByteArray.ext h),
        fun h => congrArg (·.data) (Entry.file.inj h)⟩

/-- A directory that is always there. -/
inductive Anchor where
  /-- The one so many levels above the workspace's own. -/
  | above (levels : Nat)
  | root
  deriving DecidableEq, Repr

/-- A place: the names on the way to it from a directory that is always there. -/
structure Place where
  anchor : Anchor := .above 0
  names : List String
  deriving DecidableEq, Repr

namespace Place

/-- The place a name further. -/
def down (p : Place) (name : String) : Place := { p with names := p.names ++ [name] }

/-- The place above; the root is above itself. -/
def up (p : Place) : Place :=
  match p.names, p.anchor with
  | [], .above n => ⟨.above (n + 1), []⟩
  | [], .root => p
  | names, anchor => ⟨anchor, names.dropLast⟩

/-- The places on the way to a place, from the outside in. -/
def onTheWay (p : Place) : List Place :=
  (List.range' 1 (p.names.length - 1)).map fun n => ⟨p.anchor, p.names.take n⟩

end Place

/-- A directory of files, and standard input. -/
structure Workspace where
  /-- The name of the directory itself. -/
  directory : String
  /-- The entries by their places; of entries of one place the first counts. -/
  entries : List (Place × Entry) := []
  /-- What standard input holds. -/
  input : ByteArray := .empty

namespace Workspace

/-- What stands at a place. -/
def find? (w : Workspace) (place : Place) : Option Entry :=
  if place.names.isEmpty then some .directory else w.entries.lookup place

/-- The workspace with one entry put in place. -/
def put (w : Workspace) (place : Place) (entry : Entry) : Workspace :=
  { w with entries := (place, entry) :: w.entries.filter (·.1 != place) }

/-- What was put in place stands there. -/
theorem find?_put_self (w : Workspace) {place : Place} (h : place.names ≠ []) (entry : Entry) :
    (w.put place entry).find? place = some entry := by
  simp [find?, put, h]

/-- Putting an entry in place changes no other. -/
theorem find?_put_of_ne (w : Workspace) {place other : Place} (h : other ≠ place)
    (entry : Entry) : (w.put place entry).find? other = w.find? other := by
  have : (other == place) = false := by simp [h]
  simp [find?, put, List.lookup_cons, this, lookup_filter_ne _ h]

/-- Puts an entry in place, with directories on the way to it where there is
nothing yet. -/
def install (w : Workspace) (place : Place) (entry : Entry) : Workspace :=
  (place.onTheWay.foldl
    (fun w p => if (w.find? p).isSome then w else w.put p .directory) w).put place entry

/-- The workspace with what every system has below the root. -/
def withSystem (w : Workspace) : Workspace :=
  let w := ["dev", "etc", "tmp", "usr"].foldl (fun w d => w.install ⟨.root, [d]⟩ .directory) w
  (w.install ⟨.root, ["dev", "null"]⟩ (.file .empty)).install ⟨.root, ["dev", "stdin"]⟩
    (.file w.input)

/-! ## 3. Following names -/

/-- The longest name of one entry, in bytes. -/
def maxNameBytes : Nat := 255

/-- The longest name with all its parts, in bytes. -/
def maxPathBytes : Nat := 4095

/-- Follows steps from a place. The last step down may lead to nothing. -/
def follow (w : Workspace) : Place → List Step → Except Refusal Place
  | place, [] => .ok place
  | place, step :: steps =>
    match w.find? place with
    | none => .error .notFound
    | some (.file _) => .error .notDirectory
    | some .directory =>
      match step with
      | .stay => w.follow place steps
      | .up => w.follow place.up steps
      | .down name =>
        if name.utf8ByteSize > maxNameBytes then .error .nameTooLong
        else w.follow (place.down name) steps

/-- A name as seen from the directory, if it leads there by the directory's own
name. -/
def relative (w : Workspace) (name : List Char) : List Char :=
  let home := w.directory.toList ++ ['/']
  if home.isPrefixOf name then name.drop home.length else name

/-- The place that a name leads to, and whether it has to be a directory. The
empty name leads nowhere. -/
def locate (w : Workspace) (name : String) : Except Refusal (Place × Bool) := do
  if name.isEmpty then .error .notFound
  else if name.utf8ByteSize > maxPathBytes then .error .nameTooLong
  else
    let route := Route.ofChars (w.relative name.toList)
    let start : Place := ⟨if route.fromRoot then .root else .above 0, []⟩
    return (← w.follow start route.steps, route.toDirectory)

/-- What stands under a name. -/
def entryAt (w : Workspace) (name : String) : Except Refusal Entry := do
  let (place, toDirectory) ← w.locate name
  match w.find? place with
  | none => .error .notFound
  | some (.file bytes) => if toDirectory then .error .notDirectory else .ok (.file bytes)
  | some .directory => .ok .directory

/-- Reads a file as a text. -/
def readFile (w : Workspace) (name : String) : Except Refusal String := do
  match ← w.entryAt name with
  | .directory => .error .isDirectory
  | .file bytes => textOf bytes

/-- The place at which a file of a name can be written: one that holds a file,
or nothing in a directory that is there. -/
def writable (w : Workspace) (name : String) : Except Refusal Place := do
  let (place, toDirectory) ← w.locate name
  match w.find? place with
  | some .directory => .error .isDirectory
  | some (.file _) => if toDirectory then .error .notDirectory else .ok place
  | none =>
    match w.find? place.up with
    | some .directory => if toDirectory then .error .isDirectory else .ok place
    | some (.file _) => .error .notDirectory
    | none => .error .notFound

/-- Writes a text into a file. -/
def writeFile (w : Workspace) (name text : String) : Except Refusal Unit × Workspace :=
  match w.writable name with
  | .ok place => (.ok (), w.put place (.file text.toUTF8))
  | .error r => (.error r, w)

/-! ## 4. The host -/

/-- A workspace as a host. -/
def host : Host (StateM Workspace) where
  directory := return .ok (← get).directory
  present name := return ((← get).entryAt name).toOption.isSome
  read name := return (← get).readFile name
  readInput := return textOf (← get).input
  write name text := modifyGet (·.writeFile name text)

end Workspace

end Marginalia.Command
