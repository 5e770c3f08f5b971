import JavaSource.Text.Basic

/-!
# String literals of Java

`quote` writes a text as a string literal of the generated source: a quotation mark and a backslash get a
backslash in front, the controls with a letter of their own are written by it, every other control by its
code point.  All other characters stand for themselves.
-/

namespace JavaSource.Literal

/-- The last `width` hexadecimal digits of a number, in small letters. -/
def hex : (width : Nat) → Nat → Text
  | 0, _ => []
  | width + 1, n => hex width (n / 16) ++ [Nat.digitChar (n % 16)]

/-- The letter that stands behind a backslash for a control. -/
def controlLetter? : Char → Option Char
  | '\x08' => some 'b'
  | '\t' => some 't'
  | '\n' => some 'n'
  | '\x0c' => some 'f'
  | '\r' => some 'r'
  | _ => none

/-- A character as it is written inside a string literal. -/
def escape (c : Char) : Text :=
  if c = '"' ∨ c = '\\' then ['\\', c]
  else
    match controlLetter? c with
    | some letter => ['\\', letter]
    | none => if Unicode.isControl c then '\\' :: 'u' :: hex 4 c.toNat else [c]

/-- The text as a string literal, with its quotation marks. -/
def quote (t : Text) : Text := '"' :: (t.flatMap escape ++ ['"'])

end JavaSource.Literal
