import JavaSource.Text.Quoted
import JavaSource.Value.Basic

/-!
# Values for diagnosis

Names, types, listings and values in quoted form, with all their parts.
-/

namespace JavaSource

/-- A name with all its parts. -/
def Name.quoted (n : Name) : Text :=
  Quoted.record "QualifiedName" [
    Quoted.field "identifiers" (Quoted.list (n.identifiers.map Quoted.text)),
    Quoted.field "package_level" (Decimal.ofNat n.level),
    Quoted.field "member" (Quoted.bool n.isMember),
    Quoted.field "canonical" (Quoted.text n.canonical)]

/-- The label of a primitive type. -/
def Primitive.label : Primitive → Text
  | .boolean => "Boolean"
  | .byte => "Byte"
  | .short => "Short"
  | .char => "Char"
  | .int => "Int"
  | .long => "Long"
  | .float => "Float"
  | .double => "Double"
  | .void => "Void"

namespace TypeExpr

mutual

/-- A type with all its parts. -/
def quoted : TypeExpr → Text
  | .primitive p => Quoted.tuple "Primitive" p.label
  | .generic n arguments =>
    Quoted.record "Class" [
      Quoted.field "name" n.quoted, Quoted.field "args" (Quoted.list (quotedAll arguments))]
  | .array component => Quoted.tuple "Array" (quoted component)
  | .variable name => Quoted.tuple "Variable" (Quoted.text name)
  | .wildcard => Quoted.tuple "Wildcard" "Unbounded"
  | .wildcardExtends bound => Quoted.tuple "Wildcard" (Quoted.tuple "Extends" (quoted bound))
  | .wildcardSuper bound => Quoted.tuple "Wildcard" (Quoted.tuple "Super" (quoted bound))

/-- Types with all their parts. -/
def quotedAll : List TypeExpr → List Text
  | [] => []
  | t :: rest => quoted t :: quotedAll rest

end

end TypeExpr

/-- A level of indentation. -/
def Indent.quoted : Indent → Text
  | .spaces width => Quoted.tuple "Spaces" (Decimal.ofNat width)
  | .tab => "Tab"

/-- A listing with all its parts but the policy. -/
def Listing.quoted (l : Listing) : Text :=
  Quoted.record "Listing" [
    Quoted.field "lines" (Quoted.list (l.lines.map Quoted.text)),
    Quoted.field "line" (Quoted.text l.line),
    Quoted.field "depth" (Decimal.ofNat l.depth),
    Quoted.field "indent" l.indent.quoted,
    Quoted.field "names" (Quoted.list (l.names.map Name.quoted)),
    ".."]

/-- A class descriptor with its parts. -/
def ClassRef.quoted (c : ClassRef) : Text :=
  Quoted.record "RuntimeType" [
    Quoted.field "package" (Quoted.text c.package), Quoted.field "simple" (Quoted.text c.simple)]

/-- A value with its kind and parts. -/
def Value.quoted : Value → Text
  | .null => "Null"
  | .bool b => Quoted.tuple "Bool" (Quoted.bool b)
  | .int n => Quoted.tuple "Int" (Decimal.ofInt n.toInt)
  | .long n => Quoted.tuple "Long" (Decimal.ofInt n.toInt)
  | .double d => Quoted.tuple "Double" (Quoted.doubles.text d)
  | .char c => Quoted.tuple "Char" (Quoted.char c)
  | .text t => Quoted.tuple "Str" (Quoted.text t)
  | .name n => Quoted.tuple "Name" n.quoted
  | .type t => Quoted.tuple "Type" t.quoted
  | .classRef c => Quoted.tuple "Class" c.quoted
  | .fragment f => Quoted.tuple "Fragment" (Quoted.text f.list)
  | .object c _ => Quoted.tuple "Object" (Quoted.text c.canonicalName)

end JavaSource
