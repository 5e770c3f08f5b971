import JavaSource.Text.Basic

/-!
# The shortest decimal of a binary number

A finite double is m · 2^q.  The reals that round to it form an interval, whose ends belong to it exactly if m is
even.  Its **shortest decimal** is the decimal with the fewest digits inside this interval and, of those, the
closest to the number.  All arithmetic is exact: everything is a multiple of a quarter unit in the last place.

For one digit, two digits and so on, only the two neighbours of the number on the grid of that many digits need to
be looked at.  Seventeen digits are always enough.
-/

namespace JavaSource.Decimal

/-- What to do if two shortest decimals are equally close. -/
inductive Tie where
  | up
  | toEven
deriving DecidableEq

/-- A positive number m · 2^q with the numbers next to it: `narrow` tells that the lower neighbour is only half as
far away as the upper one. -/
structure Binary where
  significand : Nat
  exponent : Int
  narrow : Bool

/-- The bits of a double without its sign, read as a finite number. -/
def Binary.ofBits (bits : Nat) : Binary :=
  let fraction : Nat := bits % 0x10000000000000
  let biased : Nat := bits / 0x10000000000000 % 0x800
  if biased = 0 then ⟨fraction, -1074, false⟩
  else ⟨0x10000000000000 + fraction, biased - 1075, fraction = 0 && biased > 1⟩

/-- A positive decimal: `digits` · 10^`exponent`. -/
structure Digits where
  digits : Nat
  exponent : Int
deriving DecidableEq

namespace Binary

/-- Four times the significand, and the ends of the rounding interval on the same scale. -/
def quarters (b : Binary) : Nat × Nat × Nat :=
  let m := 4 * b.significand
  (if b.narrow then m - 1 else m - 2, m, m + 2)

/-- A power of ten and the quarter unit 2^(q - 2), brought to a common scale: the number of small units in a
quarter, and in 10^k. -/
def units (b : Binary) (k : Int) : Nat × Nat :=
  let q := b.exponent - 2
  (Nat.pow 2 q.toNat * Nat.pow 10 (-k).toNat, Nat.pow 10 k.toNat * Nat.pow 2 (-q).toNat)

/-- The decimal `c` · 10^`k` rounds to the number. -/
def accepts (b : Binary) (k : Int) (c : Nat) : Bool :=
  let (low, _, high) := b.quarters
  let (quarter, ten) := b.units k
  if b.significand % 2 = 0 then low * quarter ≤ c * ten && c * ten ≤ high * quarter
  else low * quarter < c * ten && c * ten < high * quarter

/-- The closer of the two neighbours of the number on the grid 10^`k` that rounds to it. -/
def onGrid? (b : Binary) (tie : Tie) (k : Int) : Option Nat :=
  let (_, value, _) := b.quarters
  let (quarter, ten) := b.units k
  let c := value * quarter / ten
  match b.accepts k c, b.accepts k (c + 1) with
  | false, false => none
  | true, false => some c
  | false, true => some (c + 1)
  | true, true =>
    let twice := 2 * (value * quarter)
    let middle := (2 * c + 1) * ten
    if twice < middle then some c
    else if middle < twice then some (c + 1)
    else
      match tie with
      | .up => some (c + 1)
      | .toEven => some (if c % 2 = 0 then c else c + 1)

/-- The largest power of ten that is not above the number, for a number that is not zero. -/
def magnitude (b : Binary) : Int :=
  let whole := Nat.pow 2 b.exponent.toNat * b.significand
  let scale := Nat.pow 2 (-b.exponent).toNat
  if scale ≤ whole then ((Nat.toDigits 10 (whole / scale)).length : Int) - 1
  else -((Nat.toDigits 10 (scale / whole)).length : Int)

/-- Tries the grids from 10^`k` on downwards, `fuel` of them. -/
def search (b : Binary) (tie : Tie) : (fuel : Nat) → (k : Int) → Digits
  | 0, k => ⟨(b.onGrid? tie k).getD 0, k⟩
  | fuel + 1, k =>
    match b.onGrid? tie k with
    | some c => ⟨c, k⟩
    | none => search b tie fuel (k - 1)

/-- The shortest decimal of the number. -/
def shortest (b : Binary) (tie : Tie) : Digits := b.search tie 17 b.magnitude

end Binary

end JavaSource.Decimal
