import JavaSource.Json.Basic
import JavaSource.Report.Basic
import JavaSource.Template.Basic
import JavaSource.Text.Quoted

/-!
# Explained templates

A template spelled out instruction by instruction, with the table of all actions; as a report, or as JSON.
-/

namespace JavaSource

/-- A template to be explained. -/
structure Explained where
  path : Text
  markers : Markers
  template : Template

namespace Explained

/-- The instruction on a line. -/
def line : Instruction → Text
  | .text t => "text " ++ Quoted.text t
  | .marker m =>
    let selector : Text :=
      match m.selector with
      | some s => ", selector " ++ s.text
      | none => []
    m.text ++ " -> " ++ m.action.code ++ " (" ++ m.action.arity.text ++ selector ++ ")"

/-- The instructions, numbered from `index` on. -/
def numbered : (index : Nat) → List Instruction → List Entry
  | _, [] => []
  | index, i :: rest => .numbered index (line i) :: numbered (index + 1) rest

/-- An entry of the table of actions. -/
def action (s : Action.Spec) : Entry :=
  .bullet (s.code ++ " [" ++ s.arity.text ++ "] " ++ s.summary)

/-- The explanation as a report. -/
def report (e : Explained) : Report :=
  [.title "Template Explanation", .blank,
    .keyValue "Template" e.path,
    .keyValue "Markers" (e.markers.opening ++ " ... " ++ e.markers.ending),
    .keyValue "Implicit arguments" (Decimal.ofNat e.template.implicitArguments), .blank,
    .heading "Instructions"] ++
  numbered 1 e.template.instructions ++
  [.blank, .heading "Actions"] ++
  Action.specs.map action

/-- The instruction as JSON. -/
def instructionJson : Instruction → Json
  | .text t => .object [("kind", .string "text"), ("text", .string t)]
  | .marker m =>
    let selector : List (Text × Json) :=
      match m.selector with
      | some s => [("selector", .string s.text)]
      | none => []
    let fixed : List (Text × Json) := [
      ("kind", .string "action"), ("text", .string m.text), ("code", .string m.action.code),
      ("arity", .string m.action.arity.text)]
    .object (fixed ++ selector)

/-- An entry of the table of actions as JSON. -/
def actionJson (s : Action.Spec) : Json :=
  .object [("code", .string s.code), ("arity", .string s.arity.text), ("summary", .string s.summary)]

/-- The explanation as JSON. -/
def json (e : Explained) : Json :=
  .object [
    ("template", .string e.path),
    ("begin", .string e.markers.opening),
    ("end", .string e.markers.ending),
    ("implicit_arguments", .int e.template.implicitArguments),
    ("instructions", .array (e.template.instructions.map instructionJson)),
    ("actions", .array (Action.specs.map actionJson))]

end Explained

end JavaSource
