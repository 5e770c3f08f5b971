import JavaSource.Command.Basic
import JavaSource.Command.Files

/-!
# The program

The outermost layer: it looks at the files that the command line names, lets `Command.perform` do the work, and prints
what came of it.
-/

namespace JavaSource

/-- Reads a file. -/
def readPath (path : Text) : IO (Except FileError Text) := do
  let file := String.ofList path
  try
    let bytes ← IO.FS.readBinFile file
    match String.fromUTF8? bytes with
    | some content => return .ok content.toList
    | none => return .error (.other "stream did not contain valid UTF-8")
  catch
    | .noFileOrDirectory .. => return .error .missing
    | .inappropriateType .. => return .error .directory
    | e => return .error (.other (toString e))

/-- A file can be created at the path. -/
def canCreatePath (path : Text) : IO Bool := do
  try
    let _ ← IO.FS.Handle.mk (String.ofList path) .append
    return true
  catch _ => return false

/-- The files that a command reads. -/
def Command.inputs : Command → List Text
  | .render template _ _ json config _ _ _ =>
    template :: Config.fileName :: json.toList ++ config.toList
  | .check templates config => Config.fileName :: templates ++ config.toList
  | .explain template config _ => template :: Config.fileName :: config.toList
  | .completions _ _ => []

/-- The file that a command writes. -/
def Command.target : Command → Option Text
  | .completions _ output => output
  | _ => none

/-- The workspace of a command: the files that it reads, and whether its target can be created. -/
def realWorkspace (c : Command) : IO Workspace := do
  let contents ← c.inputs.mapM fun path => return (path, ← readPath path)
  let creatable ← c.target.toList.filterM canCreatePath
  return {
    read := fun path => (contents.lookup path).getD (.error .missing)
    canCreate := fun path => creatable.contains path }

/-- A failure as it is printed. -/
def Failure.printed : Failure → Text
  | .plain message => message
  | .diagnostic d =>
    let help : Text :=
      match d.help with
      | some h => "\n  help: " ++ h
      | none => []
    d.code ++ "\n\n  × " ++ d.message ++ help

/-- Runs the program. -/
def runProgram (words : List Text) : IO UInt32 := do
  let workspace ←
    match Command.parse words with
    | .run c => realWorkspace c
    | _ => pure (Workspace.ofFiles [])
  let outcome := Command.perform workspace words
  if let some (path, content) := outcome.file then
    IO.FS.writeFile (String.ofList path) (String.ofList content)
  IO.print (String.ofList outcome.output)
  for failure in outcome.failures do
    IO.eprintln (String.ofList failure.printed)
  return outcome.status.toUInt32

end JavaSource

/-- The command line of the program. -/
def main (arguments : List String) : IO UInt32 :=
  JavaSource.runProgram (arguments.map String.toList)
