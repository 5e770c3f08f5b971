import JavaSource.Text.Basic

/-!
# Integers in decimal

Writing an integer, and reading one back: an optional sign, then at least one ASCII digit and nothing else.
Leading zeros are accepted; so the reader is not injective, but it inverts the writer.
-/

namespace JavaSource.Decimal

/-- The decimal digits of a number, without leading zeros. -/
def ofNat (n : Nat) : Text := Nat.toDigits 10 n

/-- The decimal form of an integer, with a minus sign where it is negative. -/
def ofInt : Int → Text
  | .ofNat n => ofNat n
  | .negSucc n => '-' :: ofNat (n + 1)

/-- Reads a non-empty sequence of ASCII digits. -/
def readDigits? (t : Text) : Option Nat :=
  if t ≠ [] ∧ t.all Char.isDigit then some (Nat.ofDigitChars 10 t 0) else none

/-- Reads a number that may have a plus sign in front. -/
def readNat? : Text → Option Nat
  | '+' :: digits => readDigits? digits
  | digits => readDigits? digits

/-- Reads an integer that may have a sign in front. -/
def readInt? : Text → Option Int
  | '-' :: digits => (readDigits? digits).map fun n => -(n : Int)
  | '+' :: digits => (readDigits? digits).map fun n => (n : Int)
  | digits => (readDigits? digits).map fun n => (n : Int)

/-- The largest value of a machine word: 2^64 - 1. -/
def maxWord : Nat := 0xFFFFFFFFFFFFFFFF

/-- The integer fits into 64 bits, one of them for the sign. -/
def isLong (n : Int) : Bool := -0x8000000000000000 ≤ n && n < 0x8000000000000000

/-- The integer fits into 32 bits, one of them for the sign. -/
def isInt (n : Int) : Bool := -0x80000000 ≤ n && n < 0x80000000

/-- Reads an integer of at most 64 bits. -/
def readLong? (t : Text) : Option Int := (readInt? t).filter isLong

/-- Reads a machine word. -/
def readWord? (t : Text) : Option Nat := (readNat? t).filter (· ≤ maxWord)

end JavaSource.Decimal
