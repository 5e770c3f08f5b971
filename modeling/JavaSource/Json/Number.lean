import JavaSource.Json.Basic

/-!
# Numbers of JSON

A number without fraction and exponent is an integer as long as it fits into a machine word.  Any other number is a
double, computed the fast way: as many leading digits as fit into a machine word are taken as an integer, and that
integer is multiplied or divided by one power of ten, each step rounded.  So a number of many digits or with a large
exponent may come out one unit beside the nearest double.  A number beyond the largest double is refused.
-/

namespace JavaSource.Json

/-- A number as it is spelled. -/
structure Spelling where
  negative : Bool
  /-- The digits before the point. -/
  whole : Text
  /-- The digits after the point. -/
  fraction : Text
  /-- The exponent: whether it is negative, and its digits. -/
  exponent : Option (Bool × Text)

/-- A number under construction: `significand` · 10^`exponent`. -/
structure Scaled where
  significand : Nat
  exponent : Int

namespace Scaled

/-- The number with one more digit, if it still fits into a machine word. -/
def push? (s : Scaled) (digit : Char) : Option Nat :=
  let n := 10 * s.significand + (digit.toNat - '0'.toNat)
  if n ≤ Decimal.maxWord then some n else none

/-- Appends digits before the point.  The first digit that does not fit, and all after it, count as zeros. -/
def pushWhole (s : Scaled) : Text → Scaled
  | [] => s
  | d :: ds =>
    match s.push? d with
    | some n => pushWhole { s with significand := n } ds
    | none => { s with exponent := s.exponent + (ds.length + 1 : Nat) }

/-- Appends digits after the point.  The first digit that does not fit, and all after it, are left out. -/
def pushFraction (s : Scaled) : Text → Scaled
  | [] => s
  | d :: ds =>
    match s.push? d with
    | some n => pushFraction ⟨n, s.exponent - 1⟩ ds
    | none => s

/-- Multiplies by a power of ten, in steps that a double can hold; none if the result is too large. -/
def scale? (f : Float) (e : Int) : Option Float :=
  if e > 308 then if f == 0 then some f else none
  else if 0 ≤ e then
    let product := f * Float.ofScientific 1 false e.toNat
    if product.isInf then none else some product
  else if -308 ≤ e then some (f / Float.ofScientific 1 false (-e).toNat)
  else if f == 0 then some f
  else scale? (f / 1e308) (e + 308)
termination_by (-e).toNat

/-- The number as a double. -/
def toFloat? (s : Scaled) : Option Float := scale? (Float.ofNat s.significand) s.exponent

end Scaled

namespace Spelling

/-- Neither a fraction nor an exponent is spelled. -/
def isWhole (s : Spelling) : Bool := s.fraction.isEmpty && s.exponent.isNone

/-- The digits, scaled as far as the point goes. -/
def scaled (s : Spelling) : Scaled := (Scaled.pushWhole ⟨0, 0⟩ s.whole).pushFraction s.fraction

/-- The largest exponent that is looked at. -/
def maxExponent : Nat := 0x7FFFFFFF

/-- The absolute value as a double.  An exponent beyond all measure gives zero, or nothing. -/
def magnitude? (s : Spelling) : Option Float :=
  match s.exponent with
  | none => s.scaled.toFloat?
  | some (negative, digits) =>
    let e := Nat.ofDigitChars 10 digits 0
    if e > maxExponent then
      if s.scaled.significand = 0 || negative then some 0 else none
    else
      let shifted := s.scaled.exponent + if negative then -(e : Int) else e
      { s.scaled with exponent := shifted }.toFloat?

/-- The number as a double. -/
def double? (s : Spelling) : Option Json :=
  s.magnitude?.map fun f => .double (if s.negative then -f else f)

/-- The number, as an integer where it fits.  A negative zero is a double. -/
def value? (s : Spelling) : Option Json :=
  let n := Nat.ofDigitChars 10 s.whole 0
  if s.isWhole && n ≤ Decimal.maxWord then
    if !s.negative then some (.int n)
    else if 0 < n && n ≤ 0x8000000000000000 then some (.int (-(n : Int)))
    else some (.double (-(Float.ofNat n)))
  else s.double?

end Spelling

end JavaSource.Json
