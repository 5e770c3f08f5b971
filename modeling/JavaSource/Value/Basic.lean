import JavaSource.Value.ClassRef
import JavaSource.Decimal.Layout
import JavaSource.Text.Case
import JavaSource.Text.Literal
import JavaSource.TypeExpr

/-!
# Values

What the markers of a template are filled with.  Beside plain data there are names and types, whole fragments, class
descriptors, and **objects**: values known only by their class and by what their accessors answer.

A value is asked for a member by `access`; `walk` follows a dotted path of members.  A segment of a path names an
accessor, or the property that a getter returns: `owner` also finds `getOwner`.
-/

namespace JavaSource

/-- A value that a template can be filled with. -/
inductive Value where
  | null
  | bool (b : Bool)
  | int (n : Int32)
  | long (n : Int64)
  | double (d : Float)
  | char (c : Char)
  | text (t : Text)
  | name (n : Name)
  | type (t : TypeExpr)
  | classRef (c : ClassRef)
  | fragment (f : Fragment)
  | object (c : ClassRef) (accessor : Text → Option Value)

/-- Why a marker cannot be filled. -/
inductive EvalError where
  | missingArgument (key : Text)
  | unresolvedPath (path segment kind : Text)
  | unsupportedValue (action kind : Text)
  | notRenderable (kind : Text)
  | name (e : NameError)
deriving DecidableEq

namespace EvalError

/-- The error as it is reported. -/
def diagnostic : EvalError → Diagnostic
  | .missingArgument key =>
    { code := "listing::eval::missing_argument", message := "missing argument '" ++ key ++ "'" }
  | .unresolvedPath path segment kind =>
    { code := "listing::eval::unresolved_path"
      message := "cannot resolve '" ++ segment ++ "' of path '" ++ path ++ "' on " ++ kind
      help := some
        "each segment must name an accessor, either directly or as 'get' + capitalized name" }
  | .unsupportedValue action kind =>
    { code := "listing::eval::unsupported_value"
      message := "action '" ++ action ++ "' does not accept " ++ kind ++ " values" }
  | .notRenderable kind =>
    { code := "listing::eval::not_renderable", message := kind ++ " value cannot be rendered" }
  | .name e => e.diagnostic

end EvalError

namespace Value

/-- The kind of a value, as error messages call it. -/
def kind : Value → Text
  | .null => "null"
  | .bool _ => "boolean"
  | .int _ => "int"
  | .long _ => "long"
  | .double _ => "double"
  | .char _ => "char"
  | .text _ => "string"
  | .name _ => "name"
  | .type _ => "type"
  | .classRef _ => "class"
  | .fragment _ => "fragment"
  | .object c _ => c.canonicalName

/-- The class of a value, for those that have one at run time. -/
def class? : Value → Option ClassRef
  | .bool _ => some (.ofLang "Boolean")
  | .int _ => some (.ofLang "Integer")
  | .long _ => some (.ofLang "Long")
  | .double _ => some (.ofLang "Double")
  | .char _ => some (.ofLang "Character")
  | .text _ => some (.ofLang "String")
  | .classRef _ => some (.ofLang "Class")
  | .object c _ => some c
  | .null | .name _ | .type _ | .fragment _ => none

/-! ## The text of a value -/

/-- Doubles are written as Java writes them: without an exponent from 10^-3 up to 10^7, and always with a digit
behind the point. -/
def doubles : Decimal.Layout where
  leastPositional := -3
  greatestPositional := 6
  mark := 'E'
  plus := false
  pointed := true
  tie := .up
  notANumber := "NaN"
  infinity := "Infinity"

/-- The text of a value, with all names in full.  An object shows no more than its class. -/
def display : Value → Text
  | .null => "null"
  | .bool b => if b then "true" else "false"
  | .int n => Decimal.ofInt n.toInt
  | .long n => Decimal.ofInt n.toInt
  | .double d => doubles.text d
  | .char c => [c]
  | .text t => t
  | .name n => n.canonical
  | .type t => t.fragment.list
  | .classRef c => c.canonicalName
  | .fragment f => f.list
  | .object c _ => "<" ++ c.canonicalName ++ ">"

/-! ## Members -/

/-- A count, which must fit into an `int`. -/
def ofCount? (n : Nat) : Option Value := if n < 0x80000000 then some (.int (Int32.ofNat n)) else none

/-- The members of a text. -/
def textMembers : List (Text × (Text → Option Value)) := [
  ("length", fun t => ofCount? t.length),
  ("isEmpty", fun t => some (.bool t.isEmpty)),
  ("toUpperCase", fun t => some (.text (Text.toUpper t))),
  ("toLowerCase", fun t => some (.text (Text.toLower t))),
  ("trim", fun t => some (.text (Text.trim t))),
  ("strip", fun t => some (.text (Text.trim t))),
  ("toString", fun t => some (.text t))]

/-- The members of a name. -/
def nameMembers : List (Text × (Name → Option Value)) := [
  ("canonical", fun n => some (.text n.canonical)),
  ("getCanonical", fun n => some (.text n.canonical)),
  ("lastIdentifier", fun n => some (.text n.last)),
  ("getLastIdentifier", fun n => some (.text n.last)),
  ("packageName", fun n => some (.text n.package)),
  ("getPackageName", fun n => some (.text n.package)),
  ("simpleNames", fun n => some (.text n.short)),
  ("getSimpleNames", fun n => some (.text n.short)),
  ("binary", fun n => some (.text n.binary)),
  ("getBinary", fun n => some (.text n.binary)),
  ("enclosing", fun n => n.enclosing?.map .name),
  ("getEnclosing", fun n => n.enclosing?.map .name),
  ("topLevel", fun n => n.topLevel?.map .name),
  ("getTopLevel", fun n => n.topLevel?.map .name),
  ("isMemberReference", fun n => some (.bool n.isMember)),
  ("size", fun n => ofCount? n.size),
  ("toString", fun n => some (.text n.canonical))]

/-- The members of a class descriptor. -/
def classMembers : List (Text × (ClassRef → Text)) := [
  ("getName", ClassRef.binaryName), ("name", ClassRef.binaryName),
  ("getSimpleName", ClassRef.simpleName), ("simpleName", ClassRef.simpleName),
  ("getCanonicalName", ClassRef.canonicalName), ("canonicalName", ClassRef.canonicalName),
  ("getTypeName", ClassRef.canonicalName), ("typeName", ClassRef.canonicalName),
  ("getPackageName", ClassRef.package), ("packageName", ClassRef.package)]

/-- What a class descriptor answers when asked for a member. -/
def classAccessor (c : ClassRef) (member : Text) : Option Value :=
  (classMembers.lookup member).map fun f => .text (f c)

/-- A class descriptor, seen as an object like any other. -/
def classObject (c : ClassRef) : Value := .object (.ofLang "Class") (classAccessor c)

/-- What a value answers when asked for a member by its exact name, the class apart. -/
def ownMember (v : Value) (member : Text) : Option Value :=
  match v with
  | .text t => (textMembers.lookup member).bind fun f => f t
  | .name n => (nameMembers.lookup member).bind fun f => f n
  | .classRef c => classAccessor c member
  | .object _ accessor => accessor member
  | .bool _ | .int _ | .long _ | .double _ | .char _ =>
    if member = "toString" then some (.text v.display) else none
  | .null | .type _ | .fragment _ => none

/-- What a value answers when asked for a member by its exact name.  Its class is always asked for in the same
way, whatever an object's accessor would say. -/
def access (v : Value) (member : Text) : Option Value :=
  if member = "class" ∨ member = "getClass" then v.class?.map .classRef else v.ownMember member

/-- The getter of a property. -/
def getterName (property : Text) : Text := "get" ++ Text.capitalized property

/-- One step along a path: the member of that name, or else what its getter answers. -/
def step (v : Value) (segment : Text) : Option Value :=
  match v.access segment with
  | some w => some w
  | none => v.access (getterName segment)

/-- Follows the segments of `path` one by one. -/
def walkAlong (path : Text) : List Text → Value → Except EvalError Value
  | [], v => .ok v
  | segment :: rest, v =>
    match v.step segment with
    | some w => walkAlong path rest w
    | none => .error (.unresolvedPath path segment v.kind)

/-- Follows a dotted path. -/
def walk (v : Value) (path : Text) : Except EvalError Value := walkAlong path (path.splitOn '.') v

/-! ## Values as text and as names -/

/-- What stands for a value in a listing: an object is represented by its `toString`, which must not be an object
again. -/
def represented (v : Value) : Except EvalError Value :=
  match v with
  | .object _ _ =>
    match v.access "toString" with
    | none => .error (.notRenderable v.kind)
    | some (.object _ _) => .error (.notRenderable v.kind)
    | some w => .ok w
  | _ => .ok v

/-- The raw text of a value. -/
def raw (v : Value) : Except EvalError Text := v.represented.map display

/-- The value as a string literal; `null` stays `null`. -/
def literal : Value → Except EvalError Text
  | .null => .ok "null"
  | v => v.raw.map Literal.quote

/-- The name that a value denotes; `action` is who asks. -/
def toName (action : Text) : Value → Except EvalError Name
  | .name n => .ok n
  | .classRef c => c.qualifiedName.mapError .name
  | .type (.generic n _) => .ok n
  | .text t => (Name.parse t).mapError .name
  | v => .error (.unsupportedValue action v.kind)

end Value

end JavaSource
