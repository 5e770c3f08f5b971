import JavaSource.Name.Basic

/-!
# Import declarations

An import declaration brings one name or, on demand, all names of a package or type into scope; each kind has a
static form for members.  `Import.parse` reads a declaration with or without its keyword and semicolon;
`Import.text` writes it in full.
-/

namespace JavaSource

/-- The four kinds of import declarations. -/
inductive ImportKind where
  | singleType
  | typesOnDemand
  | singleStatic
  | staticsOnDemand
deriving DecidableEq

namespace ImportKind

/-- The declaration is static. -/
def isStatic : ImportKind → Bool
  | .singleType => false
  | .typesOnDemand => false
  | .singleStatic => true
  | .staticsOnDemand => true

/-- The place of the kind in the order of declarations. -/
def rank : ImportKind → Nat
  | .singleType => 0
  | .typesOnDemand => 1
  | .singleStatic => 2
  | .staticsOnDemand => 3

/-- What is written before the target. -/
def opening : ImportKind → Text
  | .singleType => "import "
  | .typesOnDemand => "import "
  | .singleStatic => "import static "
  | .staticsOnDemand => "import static "

/-- What is written after the target. -/
def ending : ImportKind → Text
  | .singleType => ";"
  | .typesOnDemand => ".*;"
  | .singleStatic => ";"
  | .staticsOnDemand => ".*;"

end ImportKind

/-- An import declaration. -/
structure Import where
  kind : ImportKind
  target : Name
deriving DecidableEq

namespace Import

/-- The declaration as a line of source. -/
def text (i : Import) : Text := i.kind.opening ++ i.target.canonical ++ i.kind.ending

/-- The target of a declaration, between the optional keyword and the optional semicolon. -/
def body (t : Text) : Text :=
  let t := Text.trim (Text.orSelf (Text.after? "import ") (Text.trim t))
  Text.trim (Text.orSelf (Text.before? ";") t)

/-- The member that a static import of a single name declares: whatever its last identifier looks like, it is a
member of the type before it. -/
def staticMember (n : Name) : Except NameError Name :=
  if n.isMember then .ok n
  else
    match n.enclosing with
    | .ok outer => outer.memberOf n.last
    | .error e => .error e

/-- Reads an import declaration. -/
def parse (declaration : Text) : Except NameError Import :=
  let written := body declaration
  match Text.after? "static " written with
  | none =>
    match Text.before? ".*" written with
    | some scope => (Name.parse scope).map (Import.mk .typesOnDemand)
    | none => (Name.parse written).map (Import.mk .singleType)
  | some rest =>
    let target := Text.trim rest
    match Text.before? ".*" target with
    | some scope => (Name.parse scope).map (Import.mk .staticsOnDemand)
    | none =>
      match Name.parse target with
      | .ok n => (staticMember n).map (Import.mk .singleStatic)
      | .error e => .error e

/-- Orders declarations by kind, then by target. -/
def compare (i j : Import) : Ordering :=
  (Ord.compare i.kind.rank j.kind.rank).then (Text.compare i.target.canonical j.target.canonical)

/-- The declarations have the same kind and the same target. -/
def same (i j : Import) : Bool := i.kind == j.kind && i.target.same j.target

end Import

end JavaSource
