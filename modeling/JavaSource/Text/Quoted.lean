import JavaSource.Decimal.Integer
import JavaSource.Decimal.Layout
import JavaSource.Unicode.Visible

/-!
# Quoted text

A value is shown to a person, for diagnosis, in a form that leaves no doubt about its characters: a text stands in
quotation marks, and a character that would not be visible is written by its code point.  Composite values are
shown as a label with their parts.
-/

namespace JavaSource.Quoted

/-- A code point in braces, as few digits as it takes. -/
def codePoint (c : Char) : Text := "\\u\x7b" ++ Nat.toDigits 16 c.toNat ++ "\x7d"

/-- A character as it is shown between two marks `delimiter`. -/
def character (delimiter c : Char) : Text :=
  if c = '\x00' then "\\0"
  else if c = '\t' then "\\t"
  else if c = '\n' then "\\n"
  else if c = '\r' then "\\r"
  else if c = '\\' ∨ c = delimiter then ['\\', c]
  else if Unicode.isVisible c then [c]
  else codePoint c

/-- A text in quotation marks. -/
def text (t : Text) : Text := '"' :: (t.flatMap (character '"') ++ ['"'])

/-- A single character between apostrophes. -/
def char (c : Char) : Text := '\'' :: (character '\'' c ++ ['\''])

/-- A truth value. -/
def bool : Bool → Text
  | true => "true"
  | false => "false"

/-- Items between square brackets. -/
def list (items : List Text) : Text := "[" ++ Text.join ", " items ++ "]"

/-- A labelled value with one part. -/
def tuple (label part : Text) : Text := label ++ "(" ++ part ++ ")"

/-- A field of a labelled record. -/
def field (label shown : Text) : Text := label ++ ": " ++ shown

/-- A labelled record. -/
def record (label : Text) (fields : List Text) : Text :=
  label ++ " \x7b " ++ Text.join ", " fields ++ " \x7d"

/-- Doubles are shown without an exponent between 10^-4 and 10^16. -/
def doubles : Decimal.Layout where
  leastPositional := -4
  greatestPositional := 15
  mark := 'e'
  plus := false
  pointed := false
  tie := .up
  notANumber := "NaN"
  infinity := "inf"

end JavaSource.Quoted
