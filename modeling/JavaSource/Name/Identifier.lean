import JavaSource.Text.Basic
import JavaSource.Unicode.Alphabetic
import JavaSource.Unicode.Numeric

/-!
# Identifiers

An identifier begins with a letter, an underscore or a dollar sign, goes on with these and with numbers of any
script, and is none of the reserved words.
-/

namespace JavaSource.Identifier

/-- The reserved words of Java, the literals `true`, `false` and `null`, and the lone underscore. -/
def reserved : List Text := List.map String.toList [
  "abstract", "assert", "boolean", "break", "byte", "case", "catch", "char", "class", "const", "continue",
  "default", "do", "double", "else", "enum", "extends", "false", "final", "finally", "float", "for", "goto",
  "if", "implements", "import", "instanceof", "int", "interface", "long", "native", "new", "null", "package",
  "private", "protected", "public", "return", "short", "static", "strictfp", "super", "switch",
  "synchronized", "this", "throw", "throws", "transient", "true", "try", "void", "volatile", "while", "_"]

/-- The text is a reserved word. -/
def isReserved (t : Text) : Bool := reserved.contains t

/-- The character may begin an identifier. -/
def isStart (c : Char) : Bool := Unicode.isAlphabetic c || c == '_' || c == '$'

/-- The character may stand inside an identifier. -/
def isPart (c : Char) : Bool := isStart c || Unicode.isNumeric c

/-- The text is an identifier. -/
def isValid : Text → Bool
  | [] => false
  | c :: cs => isStart c && cs.all isPart && !isReserved (c :: cs)

/-- Why a text is no identifier. -/
inductive Fault where
  | reserved
  | empty
  | malformed
deriving DecidableEq

/-- The fault of a text that is no identifier. -/
def fault (t : Text) : Fault :=
  if isReserved t then .reserved else if t.isEmpty then .empty else .malformed

/-- The rule that the fault breaks. -/
def Fault.rule : Fault → Text
  | .reserved => "reserved words cannot be used as identifiers"
  | .empty => "identifiers cannot be empty"
  | .malformed =>
    "identifiers start with a letter, '_' or '$' and contain only letters, digits, '_' or '$'"

end JavaSource.Identifier
