import Ontotype.Text.Cut

set_option autoImplicit false

/-! # Files by path

A disk holds directories, files and devices, each at a location. A path leads to a location: its
names are walked from the root, or from the working directory if the path does not start with a
slash, and every name but the last has to lead to a directory. An empty name or a single dot stays
where it is, and two dots lead back.

A file is read at the end of such a walk. A file that is to be written need not be there yet, so
the walk to it ends one name earlier; and as only a directory can be named by dots, or with a slash
behind its name, such a path is refused. -/

namespace Ontotype.Command

/-- Why an operation on a path is refused. -/
inductive Refusal where
  | notFound
  | notDirectory
  | isDirectory
  | nameTooLong
  deriving DecidableEq, Repr

/-- What a refusal says. -/
def Refusal.message : Refusal → String
  | .notFound => "No such file or directory (os error 2)"
  | .notDirectory => "Not a directory (os error 20)"
  | .isDirectory => "Is a directory (os error 21)"
  | .nameTooLong => "File name too long (os error 36)"

/-- The names on the way from the root. -/
abbrev Location := List String

/-- What can be at a location. -/
inductive Entry where
  | directory
  | file (bytes : List UInt8)
  /-- A device that reads as empty, and forgets what is written to it. -/
  | sink
  /-- A device that writes to the standard output. -/
  | standardOutput
  /-- A device that writes to the standard error stream. -/
  | standardError
  deriving DecidableEq, Repr

/-- What is where. -/
structure Disk where
  entries : Location → Option Entry
  /-- Where paths start that do not start with a slash. -/
  workingDirectory : Location

namespace Disk

/-! ## Paths -/

/-- The names of a path, which slashes separate. -/
def namesOf (path : String) : List String := (Text.pieces '/' path.toList).map String.ofList

/-- Whether a name is given to every directory: a dot for itself, two for the one that holds it. -/
def isDots (name : String) : Bool := name = "." || name = ".."

/-- Checks the length of a path: at least one byte, and at most 4095. -/
def checkLength (path : String) : Except Refusal Unit :=
  if path = "" then .error .notFound
  else if 4095 < path.utf8ByteSize then .error .nameTooLong
  else .ok ()

/-- Where a path starts. -/
def start (d : Disk) (path : String) : Location :=
  if path.toList.head? = some '/' then [] else d.workingDirectory

/-! ## Walks -/

/-- Goes on from `here`, which has to be a directory, to a name in it. A name has at most 255
    bytes. -/
def step (d : Disk) (here : Location) (name : String) : Except Refusal Location :=
  match d.entries here with
  | none => .error .notFound
  | some .directory =>
    if name = "" ∨ name = "." then .ok here
    else if name = ".." then .ok here.dropLast
    else if 255 < name.utf8ByteSize then .error .nameTooLong
    else .ok (here ++ [name])
  | some _ => .error .notDirectory

/-- Goes on from `here` to one name after the other. -/
def walk (d : Disk) (here : Location) (names : List String) : Except Refusal Location :=
  names.foldlM d.step here

/-- Where a path leads. -/
def locate (d : Disk) (path : String) : Except Refusal Location := do
  checkLength path
  d.walk (d.start path) (namesOf path)

/-- Where a path leads that is to name a file. -/
def locateFile (d : Disk) (path : String) : Except Refusal Location := do
  checkLength path
  let (slashes, names) := (namesOf path).reverse.span (· = "")
  match names with
  | [] => .error .isDirectory
  | last :: before =>
    let parent ← d.walk (d.start path) (before.reverse ++ ["."])
    if slashes ≠ [] ∨ isDots last then .error .isDirectory
    else d.step parent last

/-- What a path leads to. -/
def find? (d : Disk) (path : String) : Option Entry :=
  match d.locate path with
  | .ok here => d.entries here
  | .error _ => none

/-! ## Files -/

/-- Puts something at a location. -/
def put (d : Disk) (here : Location) (e : Entry) : Disk :=
  { d with entries := fun l => if l = here then some e else d.entries l }

/-- The bytes of the file that a path leads to. -/
def read (d : Disk) (path : String) : Except Refusal (List UInt8) := do
  match d.entries (← d.locate path) with
  | none => .error .notFound
  | some .directory => .error .isDirectory
  | some (.file bytes) => .ok bytes
  | some _ => .ok []

/-- Creates the file that a path leads to, or empties it. -/
def create (d : Disk) (path : String) : Except Refusal Disk := do
  let here ← d.locateFile path
  match d.entries here with
  | none | some (.file _) => .ok (d.put here (.file []))
  | some .directory => .error .isDirectory
  | some _ => .ok d

/-- Writes bytes behind what the file holds that a path leads to. -/
def append (d : Disk) (path : String) (bytes : List UInt8) : Disk :=
  match d.locate path with
  | .error _ => d
  | .ok here =>
    match d.entries here with
    | some (.file old) => d.put here (.file (old ++ bytes))
    | _ => d

end Disk

end Ontotype.Command
