import JavaSource.Text.Basic

/-!
# Diagnostics

An error is a cause, kept as a value of the type that belongs to its domain.  A **diagnostic** is how it is
reported: a stable code, a message, and optionally a piece of advice and marked places in the source text.
-/

namespace JavaSource

/-- A marked place in a source text, in bytes. -/
structure Label where
  offset : Nat
  length : Nat
  text : Text
deriving DecidableEq

/-- An error in the form in which it is reported. -/
structure Diagnostic where
  code : Text
  message : Text
  help : Option Text := none
  labels : List Label := []
deriving DecidableEq

end JavaSource
