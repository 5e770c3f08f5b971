import JavaSource.Decimal.Layout
import JavaSource.Listing.Indent
import JavaSource.Text.Literal

/-!
# JSON

JSON values and how they are written, on one line or spread over indented lines.  The fields of an object are written
in the order in which they are held; the reader holds them in the order of their keys.
-/

namespace JavaSource

/-- A JSON value. -/
inductive Json where
  | null
  | bool (b : Bool)
  | int (n : Int)
  | double (d : Float)
  | string (t : Text)
  | array (items : List Json)
  | object (fields : List (Text × Json))

namespace Json

/-- Doubles are written without an exponent between 10^-5 and 10^16. -/
def doubles : Decimal.Layout where
  leastPositional := -5
  greatestPositional := 15
  mark := 'e'
  plus := true
  pointed := false
  tie := .toEven
  notANumber := "null"
  infinity := "null"

/-- A character as it is written inside a string. -/
def escape (c : Char) : Text :=
  if c = '"' ∨ c = '\\' then ['\\', c]
  else
    match Literal.controlLetter? c with
    | some letter => ['\\', letter]
    | none => if c.toNat < 0x20 then '\\' :: 'u' :: Literal.hex 4 c.toNat else [c]

/-- A string with its quotation marks. -/
def quote (t : Text) : Text := '"' :: (t.flatMap escape ++ ['"'])

mutual

/-- The value on one line, without blanks. -/
def compact : Json → Text
  | .null => "null"
  | .bool b => if b then "true" else "false"
  | .int n => Decimal.ofInt n
  | .double d => doubles.text d
  | .string t => quote t
  | .array items => "[" ++ Text.join "," (compactItems items) ++ "]"
  | .object fields => "\x7b" ++ Text.join "," (compactFields fields) ++ "\x7d"

/-- Each item on one line. -/
def compactItems : List Json → List Text
  | [] => []
  | j :: rest => compact j :: compactItems rest

/-- Each field on one line. -/
def compactFields : List (Text × Json) → List Text
  | [] => []
  | (key, j) :: rest => (quote key ++ ":" ++ compact j) :: compactFields rest

end

/-- Parts between brackets, each on a line of its own at the given depth; empty brackets stay together. -/
def spread (opening ending : Char) (depth : Nat) (parts : List Text) : Text :=
  let lineBreak (n : Nat) : Text := '\n' :: Indent.compact.levels n
  if parts.isEmpty then [opening, ending]
  else
    opening :: (lineBreak (depth + 1) ++ Text.join (',' :: lineBreak (depth + 1)) parts ++ lineBreak depth ++ [ending])

mutual

/-- The value spread over lines, as part of a text at the given depth. -/
def prettyAt (depth : Nat) : Json → Text
  | .array items => spread '[' ']' depth (prettyItems (depth + 1) items)
  | .object fields => spread '\x7b' '\x7d' depth (prettyFields (depth + 1) fields)
  | .null => compact .null
  | .bool b => compact (.bool b)
  | .int n => compact (.int n)
  | .double d => compact (.double d)
  | .string t => compact (.string t)

/-- Each item spread over lines. -/
def prettyItems (depth : Nat) : List Json → List Text
  | [] => []
  | j :: rest => prettyAt depth j :: prettyItems depth rest

/-- Each field spread over lines. -/
def prettyFields (depth : Nat) : List (Text × Json) → List Text
  | [] => []
  | (key, j) :: rest => (quote key ++ ": " ++ prettyAt depth j) :: prettyFields depth rest

end

/-- The value spread over lines. -/
def pretty (j : Json) : Text := prettyAt 0 j

end Json

end JavaSource
