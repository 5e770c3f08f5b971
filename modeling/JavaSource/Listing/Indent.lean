import JavaSource.Text.Basic

/-!
# Indentation

One level of indentation is a fixed number of spaces or a tab.
-/

namespace JavaSource

/-- One level of indentation. -/
inductive Indent where
  | spaces (width : Nat)
  | tab
deriving DecidableEq

namespace Indent

/-- Four spaces, the convention of Java. -/
def java : Indent := .spaces 4

/-- Two spaces. -/
def compact : Indent := .spaces 2

/-- The text of one level. -/
def unit : Indent → Text
  | .spaces width => List.replicate width ' '
  | .tab => ['\t']

/-- The text of `depth` levels. -/
def levels : Indent → (depth : Nat) → Text
  | .spaces width, depth => List.replicate (depth * width) ' '
  | .tab, depth => List.replicate depth '\t'

/-- One level after the other. -/
theorem levels_eq_flatten (i : Indent) (depth : Nat) :
    i.levels depth = (List.replicate depth i.unit).flatten := by
  cases i with
  | spaces width => simp [levels, unit]
  | tab => simp [levels, unit]

end Indent

end JavaSource
