import JavaSource.Template.Selector
import JavaSource.Value.Basic

/-!
# Bindings

The values for a template: some by position, some under a key.  A position that has no value of its own falls back
to the key with the same digits.
-/

namespace JavaSource

/-- The values for a template. -/
structure Bindings where
  positional : List Value := []
  /-- Values under keys; each key occurs once. -/
  named : List (Text × Value) := []

namespace Bindings

/-- Adds a value at the next position. -/
def arg (v : Value) (b : Bindings) : Bindings := { b with positional := b.positional ++ [v] }

/-- Puts a value under a key, in place of the value that was there. -/
def put (key : Text) (v : Value) : List (Text × Value) → List (Text × Value)
  | [] => [(key, v)]
  | (k, w) :: rest => if k = key then (k, v) :: rest else (k, w) :: put key v rest

/-- Binds a key. -/
def set (key : Text) (v : Value) (b : Bindings) : Bindings := { b with named := put key v b.named }

/-- Values by position only. -/
def ofList (values : List Value) : Bindings := { positional := values }

/-- Values under keys only; of two values under the same key the last one counts. -/
def ofPairs (pairs : List (Text × Value)) : Bindings :=
  pairs.foldl (fun b (key, v) => b.set key v) {}

/-- The number of positions. -/
def size (b : Bindings) : Nat := b.positional.length

/-- Nothing is bound. -/
def isEmpty (b : Bindings) : Bool := b.positional.isEmpty && b.named.isEmpty

/-- The value that a selector selects, if there is one. -/
def get? (b : Bindings) : Selector → Option Value
  | .index n =>
    match b.positional[n]? with
    | some v => some v
    | none => b.named.lookup (Decimal.ofNat n)
  | .key k => b.named.lookup k

/-- The value that a selector selects. -/
def select (b : Bindings) (s : Selector) : Except EvalError Value :=
  match b.get? s with
  | some v => .ok v
  | none => .error (.missingArgument s.text)

end Bindings

end JavaSource
