import JavaSource.Listing.Fragment

/-!
# Type expressions

The types that occur in Java source: primitive types, classes with type arguments, arrays, type variables and
wildcards.  As a fragment, a type keeps the names of its classes, so they take part in the choice of imports.
-/

namespace JavaSource

/-- The primitive types and `void`. -/
inductive Primitive where
  | boolean
  | byte
  | short
  | char
  | int
  | long
  | float
  | double
  | void
deriving DecidableEq

/-- The keyword of a primitive type. -/
def Primitive.keyword : Primitive → Text
  | .boolean => "boolean"
  | .byte => "byte"
  | .short => "short"
  | .char => "char"
  | .int => "int"
  | .long => "long"
  | .float => "float"
  | .double => "double"
  | .void => "void"

/-- A type as it is written in source. -/
inductive TypeExpr where
  | primitive (p : Primitive)
  | generic (name : Name) (arguments : List TypeExpr)
  | array (component : TypeExpr)
  | variable (name : Text)
  | wildcard
  | wildcardExtends (bound : TypeExpr)
  | wildcardSuper (bound : TypeExpr)

namespace TypeExpr

/-- A class without type arguments. -/
def ofName (n : Name) : TypeExpr := .generic n []

/-- The class of a class type. -/
def name? : TypeExpr → Option Name
  | .generic n _ => some n
  | _ => none

mutual

/-- The type as a fragment. -/
def fragment : TypeExpr → Fragment
  | .primitive p => .text p.keyword
  | .generic n arguments => .sequence (.name n :: argumentList arguments)
  | .array component => .sequence [fragment component, .text "[]"]
  | .variable name => .text name
  | .wildcard => .text "?"
  | .wildcardExtends bound => .sequence [.text "? extends ", fragment bound]
  | .wildcardSuper bound => .sequence [.text "? super ", fragment bound]

/-- Type arguments in angle brackets, or nothing if there are none. -/
def argumentList : List TypeExpr → List Fragment
  | [] => []
  | t :: rest => .text "<" :: fragment t :: furtherArguments rest

/-- The arguments after the first one, and the closing bracket. -/
def furtherArguments : List TypeExpr → List Fragment
  | [] => [.text ">"]
  | t :: rest => .text ", " :: fragment t :: furtherArguments rest

end

end TypeExpr

end JavaSource
