import JavaSource.Command.Workspace

/-!
# Files in memory

A workspace in memory is a directory of files.  A path is followed step by step, from the workspace or, if it begins
with a slash, from the root: a step is a name, a dot for the same directory, or two dots for the one above.  Of the
directories outside of the workspace nothing is known but that they are there.

A path leads to a file only by its name: behind a file, every further step fails, even a dot or a closing slash.
-/

namespace JavaSource

/-- Where a path leads. -/
inductive Place where
  | file (content : Text)
  /-- A directory in the workspace, given by its path from there. -/
  | inside (steps : List Text)
  /-- A directory outside of the workspace. -/
  | outside

/-- The files of a workspace in memory, each with its path from the workspace.  The last one with a path counts. -/
structure Files where
  entries : List (List Text × Text) := []

namespace Files

/-! ## Paths -/

/-- A name has at most so many bytes. -/
def maxName : Nat := 0xFF

/-- A path has at most so many bytes. -/
def maxPath : Nat := 0xFFF

/-- The step leads nowhere: it is empty or a dot. -/
def isIdle (step : Text) : Bool := step.isEmpty || step == "."

/-- The directory or file at a path without idle steps and without steps upwards. -/
def placeAt? (f : Files) (steps : List Text) : Option Place :=
  match f.entries.reverse.lookup steps with
  | some content => some (.file content)
  | none => if f.entries.any fun e => steps.isPrefixOf e.1 then some (.inside steps) else none

/-- Takes one step of a path. -/
def follow (f : Files) (place : Place) (step : Text) : Except FileError Place :=
  match place with
  | .file _ => .error .notADirectory
  | .outside =>
    if isIdle step || step == ".." then .ok .outside
    else if Text.byteLength step > maxName then .error .nameTooLong
    else .error .missing
  | .inside steps =>
    if isIdle step then .ok (.inside steps)
    else if step = ".." then .ok (if steps.isEmpty then .outside else .inside steps.dropLast)
    else if Text.byteLength step > maxName then .error .nameTooLong
    else
      match f.placeAt? (steps ++ [step]) with
      | some place => .ok place
      | none => .error .missing

/-- The directory in which a path begins. -/
def start (path : Text) : Place := if path.head? = some '/' then .outside else .inside []

/-- Refuses a path that no file can have. -/
def checkPath (path : Text) : Except FileError Unit :=
  if path.contains (Char.ofNat 0) then .error .zeroCharacter
  else if path.isEmpty then .error .missing
  else if Text.byteLength path > maxPath then .error .nameTooLong
  else .ok ()

/-- Follows a path to its end. -/
def find (f : Files) (path : Text) : Except FileError Place :=
  match checkPath path with
  | .error e => .error e
  | .ok _ => (path.splitOn '/').foldlM f.follow (start path)

/-! ## Files -/

/-- The content of the file at a path. -/
def read (f : Files) (path : Text) : Except FileError Text :=
  match f.find path with
  | .error e => .error e
  | .ok (.file content) => .ok content
  | .ok _ => .error .directory

/-- A file can be created at a path: the path ends in a name, what comes before is a directory, and there is no
directory of that name. -/
def canCreate (f : Files) (path : Text) : Bool :=
  let steps := path.splitOn '/'
  let name := steps.getLast?.getD []
  let isName := !isIdle name && name != ".." && Text.byteLength name ≤ maxName
  isName && (checkPath path).toBool &&
    match steps.dropLast.foldlM f.follow (start path) with
    | .error _ => false
    | .ok (.file _) => false
    | .ok .outside => true
    | .ok (.inside directory) =>
      match f.placeAt? (directory ++ [name]) with
      | some (.inside _) => false
      | _ => true

/-- The path from the workspace, without detours. -/
def direct (path : Text) : List Text :=
  (path.splitOn '/').foldl
    (fun steps step => if isIdle step then steps else if step = ".." then steps.dropLast else steps ++ [step])
    []

/-- The files with their paths and contents. -/
def ofList (files : List (Text × Text)) : Files := ⟨files.map fun (path, content) => (direct path, content)⟩

/-- The files as a workspace. -/
def workspace (f : Files) : Workspace where
  read := f.read
  canCreate := f.canCreate

end Files

/-- A workspace in memory with the given files. -/
def Workspace.ofFiles (files : List (Text × Text)) : Workspace := (Files.ofList files).workspace

end JavaSource
