import JavaSource.Report.Basic
import JavaSource.Template.Basic

/-!
# Checked templates

The outcome of checking templates: for each of them the number of its instructions, or what is wrong with it.
-/

namespace JavaSource

/-- A checked template. -/
structure Checked where
  path : Text
  outcome : Except Failure Nat

namespace Checked

/-- The template is wrong. -/
def failed (c : Checked) : Bool :=
  match c.outcome with
  | .ok _ => false
  | .error _ => true

/-- Checks a template that was read from a path. -/
def ofSource (m : Markers) (path source : Text) : Checked where
  path := path
  outcome :=
    match Template.parse source m with
    | .ok t => .ok t.instructions.length
    | .error e => .error (.diagnostic e.diagnostic)

/-- The entry of a template. -/
def entry (c : Checked) : Entry :=
  match c.outcome with
  | .ok count =>
    let plural : Text := if count = 1 then [] else "s"
    .preformatted ("✓ " ++ c.path ++ " (" ++ Decimal.ofNat count ++ " instruction" ++ plural ++ ")")
  | .error f => .failure f

/-- The number of wrong templates. -/
def failures (cs : List Checked) : Nat := cs.countP failed

/-- All templates are in order. -/
def allValid (cs : List Checked) : Bool := failures cs == 0

/-- How many templates are wrong. -/
def summary (cs : List Checked) : Text :=
  Decimal.ofNat (failures cs) ++ " of " ++ Decimal.ofNat cs.length ++ " templates failed"

/-- The report on all templates, with a summary if any is wrong. -/
def report (cs : List Checked) : Report :=
  cs.map entry ++ if allValid cs then [] else [.blank, .preformatted (summary cs)]

end Checked

end JavaSource
