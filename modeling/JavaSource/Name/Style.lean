import JavaSource.Name.Basic

/-!
# Styles and policies

A name is written in one of three styles: in full, without its package, or as its last identifier alone.  A
**policy** chooses the style of each name; a listing asks it whenever a name is appended.
-/

namespace JavaSource

/-- How much of a name is written. -/
inductive Style where
  | canonical
  | short
  | last
deriving DecidableEq

namespace Style

/-- The name as the style writes it.  Packages are always written in full. -/
def apply (s : Style) (n : Name) : Text :=
  if n.isPackage then n.canonical
  else
    match s with
    | .canonical => n.canonical
    | .short => n.short
    | .last => n.last

/-- The style leaves something out. -/
def isShortened : Style → Bool
  | .canonical => false
  | .short => true
  | .last => true

end Style

/-- A choice of style for every name. -/
abbrev Policy := Name → Style

namespace Policy

/-- Every name in the same style. -/
def constant (s : Style) : Policy := fun _ => s

/-- Every name in full. -/
def canonical : Policy := constant .canonical

/-- The style of the first entry for the name's package; names of other packages are written in full. -/
def byPackage (entries : List (Text × Style)) : Policy := fun n =>
  (entries.lookup n.package).getD .canonical

end Policy

end JavaSource
