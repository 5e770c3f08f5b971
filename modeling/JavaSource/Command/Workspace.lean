import JavaSource.Config
import JavaSource.Report.Basic
import JavaSource.Value.OfJson

/-!
# The workspace of a command

A command sees files through a **workspace**: what a path reads as, and whether a file can be created there.  A
workspace may be the real file system, or a directory of files in memory.
-/

namespace JavaSource

/-- Why a file cannot be read. -/
inductive FileError where
  | missing
  | directory
  | notADirectory
  | nameTooLong
  /-- The path holds the character with code point zero. -/
  | zeroCharacter
  | other (reason : Text)

/-- The reason as the operating system gives it. -/
def FileError.reason : FileError → Text
  | .missing => "No such file or directory (os error 2)"
  | .directory => "Is a directory (os error 21)"
  | .notADirectory => "Not a directory (os error 20)"
  | .nameTooLong => "File name too long (os error 36)"
  | .zeroCharacter => "file name contained an unexpected NUL byte"
  | .other reason => reason

/-- The files that a command can see. -/
structure Workspace where
  read : Text → Except FileError Text
  canCreate : Text → Bool

namespace Workspace

/-- The path leads to a file, readable or not. -/
def isFile (w : Workspace) (path : Text) : Bool :=
  match w.read path with
  | .ok _ => true
  | .error (.other _) => true
  | .error _ => false

end Workspace

/-! ## Reading what a command needs -/

/-- Loads the configuration at a path.  Without a path, the file with the usual name is taken if it is there, and the
defaults otherwise. -/
def Config.load (w : Workspace) (path : Option Text) : Except ConfigError Config :=
  let loadFrom (p : Text) : Except ConfigError Config :=
    match w.read p with
    | .ok source => Config.parse source p
    | .error _ => .error (.unreadable p)
  match path with
  | some p => loadFrom p
  | none => if w.isFile Config.fileName then loadFrom Config.fileName else .ok {}

/-- Why a command cannot get at what it works on. -/
inductive InputError where
  | unreadableTemplate (path : Text)
  | unreadableValues (path : Text)
  | malformedValues (path : Text)
  | notBindings (json : Text)
  | cannotCreate (path : Text)

/-- The message of an input error. -/
def InputError.message : InputError → Text
  | .unreadableTemplate path => "Failed to read template " ++ path
  | .unreadableValues path => "Failed to read values from " ++ path
  | .malformedValues path => "Failed to parse " ++ path
  | .notBindings json => "expected a JSON array or object of values, got " ++ json
  | .cannotCreate path => "Failed to create " ++ path

/-- The source of the template at a path. -/
def Workspace.template (w : Workspace) (path : Text) : Except InputError Text :=
  (w.read path).mapError fun _ => .unreadableTemplate path

/-- The bindings in the JSON file at a path. -/
def Workspace.jsonBindings (w : Workspace) (path : Text) : Except InputError Bindings :=
  match w.read path with
  | .error _ => .error (.unreadableValues path)
  | .ok source =>
    match Json.parse? source with
    | none => .error (.malformedValues path)
    | some j =>
      match j.bindings? with
      | some b => .ok b
      | none => .error (.notBindings j.compact)

/-- Bindings from a JSON file, if one is named, and from the command line.  Values follow those of the file; pairs
replace them. -/
def Workspace.bindings (w : Workspace) (json : Option Text) (values : List Text)
    (pairs : List (Text × Text)) : Except InputError Bindings :=
  let initial : Except InputError Bindings :=
    match json with
    | some path => w.jsonBindings path
    | none => .ok {}
  initial.map fun b =>
    let b := values.foldl (fun b v => b.arg (.text v)) b
    pairs.foldl (fun b (key, v) => b.set key (.text v)) b

/-- A key and a value with an equals sign between them. -/
structure KeyValue where
  key : Text
  value : Text

/-- A text that is not of the form key, equals sign, value. -/
structure KeyValueError where
  written : Text

/-- The message of the error. -/
def KeyValueError.message (e : KeyValueError) : Text := "expected KEY=VALUE, got '" ++ e.written ++ "'"

/-- Reads a key and a value.  The key is trimmed and must not be blank. -/
def KeyValue.parse (t : Text) : Except KeyValueError KeyValue :=
  match Text.cut? "=" t with
  | some (key, value) => if (Text.trim key).isEmpty then .error ⟨t⟩ else .ok ⟨Text.trim key, value⟩
  | none => .error ⟨t⟩

end JavaSource
