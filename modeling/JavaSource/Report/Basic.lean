import JavaSource.Decimal.Integer
import JavaSource.Diagnostic

/-!
# Reports

What a command has to say is a sequence of entries, independent of where it is shown.  `Entry.terminal` gives an entry
the form that it has on a terminal.
-/

namespace JavaSource

/-- What went wrong: a diagnostic with a code, or a plain message. -/
inductive Failure where
  | diagnostic (d : Diagnostic)
  | plain (message : Text)

/-- The message of a failure. -/
def Failure.message : Failure → Text
  | .diagnostic d => d.message
  | .plain message => message

/-- The code of a failure, if it has one. -/
def Failure.code? : Failure → Option Text
  | .diagnostic d => some d.code
  | .plain _ => none

/-- An entry of a report. -/
inductive Entry where
  | title (t : Text)
  | heading (t : Text)
  | keyValue (key value : Text)
  | numbered (index : Nat) (t : Text)
  | bullet (t : Text)
  | failure (f : Failure)
  | preformatted (t : Text)
  | text (t : Text)
  | blank

/-- The entry on a terminal.  Failures go to another channel. -/
def Entry.terminal : Entry → Text
  | .title t => t ++ "\n" ++ List.replicate t.length '=' ++ "\n"
  | .heading t => t ++ ":\n"
  | .keyValue key value => key ++ ": " ++ value ++ "\n"
  | .numbered index t => "  " ++ Decimal.ofNat index ++ ". " ++ t ++ "\n"
  | .bullet t => "  - " ++ t ++ "\n"
  | .failure _ => []
  | .preformatted t => t ++ "\n"
  | .text t => t
  | .blank => "\n"

/-- The failure that an entry reports. -/
def Entry.failure? : Entry → Option Failure
  | .failure f => some f
  | _ => none

/-- A report. -/
abbrev Report := List Entry

/-- The report on a terminal. -/
def Report.terminal (r : Report) : Text := r.flatMap Entry.terminal

/-- The failures of a report, in order. -/
def Report.failures (r : Report) : List Failure := r.filterMap Entry.failure?

end JavaSource
