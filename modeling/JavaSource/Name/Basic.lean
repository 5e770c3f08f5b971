import JavaSource.Diagnostic
import JavaSource.Name.Identifier
import JavaSource.Unicode.Uppercase

/-!
# Qualified names

A **name** is a non-empty sequence of identifiers with a division: the first `level` of them name a package,
the rest are types nested in each other, and the last one may be a member (a field or a method) of the type
before it.

* `Name.make` checks the parts; `Name.ofType` and `Name.ofPackage` build a name from a dotted package.
* `Name.parse` reads a dotted name and finds the division by the usual convention: packages are written in
  small letters and types with a capital letter.
* `Name.nested`, `Name.memberOf`, `Name.enclosing` and `Name.topLevel` move between names.

Two names are *the same* if they have the same canonical text, however they are divided.
-/

namespace JavaSource

/-- A dotted name, divided into package, types and perhaps a member. -/
structure Name where
  /-- All identifiers, outermost first. -/
  identifiers : List Text
  /-- How many of them belong to the package. -/
  level : Nat
  /-- Whether the last one is a member of the type before it. -/
  isMember : Bool
deriving DecidableEq

/-- Why a name cannot be built. -/
inductive NameError where
  | empty
  | packageLevel (name : Text) (level size : Nat)
  | identifier (text : Text) (fault : Identifier.Fault)
  | noEnclosing (name : Text)
  | memberWithoutType (name : Text)
deriving DecidableEq

namespace Name

/-! ## Parts and spellings -/

/-- The number of identifiers. -/
def size (n : Name) : Nat := n.identifiers.length

/-- The identifiers, joined by dots. -/
def canonical (n : Name) : Text := Text.join "." n.identifiers

/-- The last identifier. -/
def last (n : Name) : Text := n.identifiers.getLast?.getD []

/-- The identifiers of the package. -/
def packageParts (n : Name) : List Text := n.identifiers.take n.level

/-- The dotted package, empty for the unnamed package. -/
def package (n : Name) : Text := Text.join "." n.packageParts

/-- The identifiers after the package. -/
def simpleNames (n : Name) : List Text := n.identifiers.drop n.level

/-- The name without its package. -/
def short (n : Name) : Text := Text.join "." n.simpleNames

/-- The name denotes a package. -/
def isPackage (n : Name) : Bool := n.level == n.size

/-- The name denotes a type that is not nested in another one. -/
def isTopLevel (n : Name) : Bool := !n.isMember && n.size == n.level + 1

/-- The types of the name, outermost first. -/
def typeParts (n : Name) : List Text :=
  if n.isMember then n.simpleNames.dropLast else n.simpleNames

/-- The name as the virtual machine spells it: nested types are joined by a dollar sign. -/
def binary (n : Name) : Text :=
  let types := Text.join "$" n.typeParts
  let dot : Text := if n.package.isEmpty || types.isEmpty then [] else "."
  let member : Text := if n.isMember then "." ++ n.last else []
  n.package ++ dot ++ types ++ member

/-- The names have the same canonical text. -/
def same (m n : Name) : Bool := m.canonical == n.canonical

/-! ## Building names -/

/-- The first identifier of a list that is not valid. -/
def firstInvalid? (identifiers : List Text) : Option Text :=
  identifiers.find? fun i => !Identifier.isValid i

/-- Builds a name from its parts.  Every identifier must be valid, the package cannot be longer than the name,
and a member needs a type between the package and itself. -/
def make (identifiers : List Text) (level : Nat) (isMember : Bool) : Except NameError Name :=
  if identifiers.isEmpty then .error .empty
  else
    match firstInvalid? identifiers with
    | some i => .error (.identifier i (Identifier.fault i))
    | none =>
      if level > identifiers.length then
        .error (.packageLevel (Text.join "." identifiers) level identifiers.length)
      else if isMember && level + 2 > identifiers.length then
        .error (.memberWithoutType (Text.join "." identifiers))
      else .ok ⟨identifiers, level, isMember⟩

/-- The identifiers of a dotted package; empty ones are passed over. -/
def packageIdentifiers (package : Text) : List Text :=
  (package.splitOn '.').filter fun part => !part.isEmpty

/-- The name of a type, given by its package and the types from the outermost to itself. -/
def ofType (package : Text) (simpleNames : List Text) : Except NameError Name :=
  if simpleNames.isEmpty then .error .empty
  else
    let parts := packageIdentifiers package
    make (parts ++ simpleNames) parts.length false

/-- The name of a package. -/
def ofPackage (package : Text) : Except NameError Name :=
  let parts := packageIdentifiers package
  make parts parts.length false

/-- The identifier begins with a capital letter, as types do. -/
def isCapitalized : Text → Bool
  | [] => false
  | c :: _ => Unicode.isUppercase c

/-- Reads a dotted name.  The first capitalized identifier ends the package; a last identifier that is not
capitalized but follows a type is a member. -/
def parse (dotted : Text) : Except NameError Name :=
  let dotted := Text.trim dotted
  if dotted.isEmpty then .error .empty
  else
    let identifiers := dotted.splitOn '.'
    let level := identifiers.findIdx isCapitalized
    let endsInType := isCapitalized (identifiers.getLast?.getD [])
    make identifiers level (level + 1 < identifiers.length && !endsInType)

/-! ## From name to name -/

/-- The name `simple` inside this name, before any check. -/
def child (n : Name) (simple : Text) : Text := n.canonical ++ "." ++ simple

/-- The member `member` of the type that this name denotes. -/
def memberOf (n : Name) (member : Text) : Except NameError Name :=
  if n.isPackage || n.isMember then .error (.memberWithoutType (n.child member))
  else make (n.identifiers ++ [member]) n.level true

/-- The type `simple` inside the package or type that this name denotes. -/
def nested (n : Name) (simple : Text) : Except NameError Name :=
  if n.isMember then .error (.memberWithoutType (n.child simple))
  else make (n.identifiers ++ [simple]) n.level false

/-- The name around the last identifier, where there is one. -/
def enclosing? (n : Name) : Option Name :=
  if n.size = 1 then none
  else some ⟨n.identifiers.dropLast, min n.level (n.size - 1), false⟩

/-- The name around the last identifier. -/
def enclosing (n : Name) : Except NameError Name :=
  match n.enclosing? with
  | some outer => .ok outer
  | none => .error (.noEnclosing n.canonical)

/-- The outermost type of a name that is not a package. -/
def topLevel? (n : Name) : Option Name :=
  if n.isPackage then none else some ⟨n.identifiers.take (n.level + 1), n.level, false⟩

end Name

namespace NameError

/-- The error as it is reported. -/
def diagnostic : NameError → Diagnostic
  | .empty =>
    { code := "listing::name::empty", message := "qualified name must contain at least one identifier" }
  | .packageLevel name level size =>
    { code := "listing::name::package_level"
      message := "package level " ++ Nat.toDigits 10 level ++ " is out of range for '" ++ name ++ "' (" ++
        Nat.toDigits 10 size ++ " identifiers)" }
  | .identifier text fault =>
    { code := "listing::name::invalid_identifier"
      message := "'" ++ text ++ "' is not a valid identifier"
      help := some fault.rule }
  | .noEnclosing name =>
    { code := "listing::name::no_enclosing", message := "'" ++ name ++ "' has no enclosing name" }
  | .memberWithoutType name =>
    { code := "listing::name::member_without_type"
      message := "member reference '" ++ name ++ "' is not enclosed by a type"
      help := some "a member needs at least one type identifier after the package" }

end NameError

end JavaSource
