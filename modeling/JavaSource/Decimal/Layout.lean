import JavaSource.Decimal.Integer
import JavaSource.Decimal.Shortest

/-!
# How a decimal is written

The digits of a number are settled by `Decimal.Binary.shortest`; where the point goes and when an exponent is
written is a matter of taste, and each of the library's output formats has its own.  A `Layout` is the record of
these decisions.
-/

namespace JavaSource.Decimal

/-- The decisions of a number format. -/
structure Layout where
  /-- The smallest power of ten of the first digit that is written without an exponent. -/
  leastPositional : Int
  /-- The largest power of ten of the first digit that is written without an exponent. -/
  greatestPositional : Int
  /-- The mark before an exponent. -/
  mark : Char
  /-- Whether a positive exponent has a sign. -/
  plus : Bool
  /-- Whether a single digit before an exponent is followed by a point and a zero. -/
  pointed : Bool
  /-- The choice between two equally close decimals. -/
  tie : Tie
  /-- The text of a value that is not a number. -/
  notANumber : Text
  /-- The text of an infinite value, after its sign. -/
  infinity : Text

namespace Layout

/-- Cuts zeros off the end, but keeps the first digit. -/
def significant : Text → Text
  | [] => []
  | d :: ds => d :: (ds.reverse.dropWhile (· == '0')).reverse

/-- A fraction after the point: a zero if there are no digits. -/
def fraction (ds : Text) : Text := if ds.isEmpty then ['0'] else ds

/-- The digits with the point behind the first `n + 1` of them. -/
def positional (ds : Text) (n : Nat) : Text :=
  let padded := ds ++ List.replicate (n + 1 - ds.length) '0'
  padded.take (n + 1) ++ '.' :: fraction (padded.drop (n + 1))

/-- An exponent with its mark. -/
def exponent (layout : Layout) (e : Int) : Text :=
  layout.mark :: ((if layout.plus && 0 ≤ e then ['+'] else []) ++ ofInt e)

/-- The digits with the point behind the first one, and an exponent. -/
def scientific (layout : Layout) (ds : Text) (e : Int) : Text :=
  let mantissa :=
    match ds with
    | [] => []
    | [d] => if layout.pointed then [d, '.', '0'] else [d]
    | d :: rest => d :: '.' :: rest
  mantissa ++ layout.exponent e

/-- A positive decimal. -/
def digits (layout : Layout) (d : Digits) : Text :=
  let ds := ofNat d.digits
  let e := d.exponent + ds.length - 1
  let ds := significant ds
  if e < layout.leastPositional || layout.greatestPositional < e then layout.scientific ds e
  else if 0 ≤ e then positional ds e.toNat
  else ['0', '.'] ++ List.replicate ((-e).toNat - 1) '0' ++ ds

/-- The text of a double. -/
def text (layout : Layout) (value : Float) : Text :=
  let bits := value.toBits.toNat
  let sign : Text := if bits / 0x8000000000000000 % 2 = 1 then ['-'] else []
  let magnitude := bits % 0x8000000000000000
  if magnitude = 0 then sign ++ "0.0"
  else if magnitude > 0x7FF0000000000000 then layout.notANumber
  else if magnitude = 0x7FF0000000000000 then sign ++ layout.infinity
  else sign ++ layout.digits ((Binary.ofBits magnitude).shortest layout.tie)

end Layout

end JavaSource.Decimal
