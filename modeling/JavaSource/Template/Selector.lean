import JavaSource.Decimal.Integer

/-!
# Selectors

A marker may say which value it wants: by position, or by key.  A selector that reads as an integer is normalised,
so `+07` and `7` select the same position; a negative integer can only be a key.
-/

namespace JavaSource

/-- Which value a marker wants. -/
inductive Selector where
  | index (n : Nat)
  | key (k : Text)
deriving DecidableEq

namespace Selector

/-- The selector of an integer. -/
def ofInt : Int → Selector
  | .ofNat n => .index n
  | .negSucc n => .key (Decimal.ofInt (.negSucc n))

/-- Reads a selector; a blank text is none. -/
def parse? (t : Text) : Option Selector :=
  let t := Text.trim t
  if t.isEmpty then none
  else
    match Decimal.readLong? t with
    | some n => some (ofInt n)
    | none => some (.key t)

/-- The selector as it is written. -/
def text : Selector → Text
  | .index n => Decimal.ofNat n
  | .key k => k

end Selector

end JavaSource
