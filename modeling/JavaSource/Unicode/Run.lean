/-!
# Runs of code points

A property of characters is a set of code points.  It is kept as an ascending list of *runs*, each an
arithmetic progression: step 1 for an interval, step 2 for the alphabets in which capital and small letters
alternate.  A look-up walks along the list and stops at the first run that lies above the code point, so a
character of the basic alphabet is settled within the first few entries.
-/

namespace JavaSource.Unicode

/-- The code points `first`, `first + step`, … up to `last`. -/
structure Run where
  first : Nat
  last : Nat
  step : Nat

namespace Run

/-- The code point is a member of the run. -/
def contains (r : Run) (n : Nat) : Bool :=
  r.first ≤ n && n ≤ r.last && (n - r.first) % r.step == 0

/-- The code point is a member of one of the runs, which stand in ascending order. -/
def covers : List Run → Nat → Bool
  | [], _ => false
  | r :: rest, n => if n < r.first then false else r.contains n || covers rest n

end Run

end JavaSource.Unicode
