import JavaSource.Name.Basic

/-!
# Class descriptors

A class descriptor names the class of a run-time value: a dotted package and the dotted path of simple names in it.
The parts are texts as they come; only `qualifiedName` checks that they form a name.
-/

namespace JavaSource

/-- The class of a run-time value. -/
structure ClassRef where
  package : Text
  simple : Text
deriving DecidableEq

namespace ClassRef

/-- A class of the package `java.lang`. -/
def ofLang (simple : Text) : ClassRef := ⟨"java.lang", simple⟩

/-- A path of simple names inside the package. -/
def inPackage (c : ClassRef) (path : Text) : Text :=
  if c.package.isEmpty then path else c.package ++ "." ++ path

/-- The simple name of the class itself, without the classes around it. -/
def simpleName (c : ClassRef) : Text := ((c.simple.splitOn '.').getLast?).getD []

/-- The full dotted name. -/
def canonicalName (c : ClassRef) : Text := c.inPackage c.simple

/-- The name as the virtual machine spells it. -/
def binaryName (c : ClassRef) : Text :=
  c.inPackage (c.simple.map fun d => if d = '.' then '$' else d)

/-- The descriptor as a qualified name. -/
def qualifiedName (c : ClassRef) : Except NameError Name :=
  Name.ofType c.package (c.simple.splitOn '.')

end ClassRef

end JavaSource
