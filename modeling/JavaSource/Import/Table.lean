import JavaSource.Listing.Fragment
import JavaSource.Import.Declaration

/-!
# Import tables

An import table holds the declarations of a source file: four sets of names, one for each kind, each in order of
insertion.  It is a policy: `styleFor` tells how a name may be written under these declarations.  It is also a
fragment: `declarations` lists the static declarations after the others, each group in the order of the targets.
-/

namespace JavaSource

namespace Name

/-- A name with the same canonical text is in the list. -/
def isIn (n : Name) (names : List Name) : Bool := names.any (·.same n)

/-- Adds a name at the end of a list, unless the same name is there already. -/
def insertInto (n : Name) (names : List Name) : List Name :=
  if n.isIn names then names else names ++ [n]

end Name

/-- The import declarations of a source file. -/
structure ImportTable where
  singleTypes : List Name := []
  typesOnDemand : List Name := []
  singleStatics : List Name := []
  staticsOnDemand : List Name := []
deriving DecidableEq

namespace ImportTable

/-- Adds a declaration, unless it is there already. -/
def add (i : Import) (t : ImportTable) : ImportTable :=
  match i.kind with
  | .singleType => { t with singleTypes := i.target.insertInto t.singleTypes }
  | .typesOnDemand => { t with typesOnDemand := i.target.insertInto t.typesOnDemand }
  | .singleStatic => { t with singleStatics := i.target.insertInto t.singleStatics }
  | .staticsOnDemand => { t with staticsOnDemand := i.target.insertInto t.staticsOnDemand }

/-- Reads a declaration and adds it. -/
def declare (declaration : Text) (t : ImportTable) : Except NameError ImportTable :=
  (Import.parse declaration).map fun i => t.add i

/-- The table of a list of declarations, up to the first one that cannot be read. -/
def ofDeclarations (declarations : List Text) (t : ImportTable) : Except NameError ImportTable :=
  declarations.foldlM (fun t d => t.declare d) t

/-- Adds the declarations of another table. -/
def merge (t other : ImportTable) : ImportTable where
  singleTypes := other.singleTypes.foldl (fun names n => n.insertInto names) t.singleTypes
  typesOnDemand := other.typesOnDemand.foldl (fun names n => n.insertInto names) t.typesOnDemand
  singleStatics := other.singleStatics.foldl (fun names n => n.insertInto names) t.singleStatics
  staticsOnDemand := other.staticsOnDemand.foldl (fun names n => n.insertInto names) t.staticsOnDemand

/-- Keeps only the single-type declarations that pass a test. -/
def retain (keep : Name → Bool) (t : ImportTable) : ImportTable :=
  { t with singleTypes := t.singleTypes.filter keep }

/-- The single-type declarations that `retain` drops. -/
def dropped (keep : Name → Bool) (t : ImportTable) : List Name := t.singleTypes.filter fun n => !keep n

/-- The number of declarations. -/
def size (t : ImportTable) : Nat :=
  t.singleTypes.length + t.typesOnDemand.length + t.singleStatics.length + t.staticsOnDemand.length

/-- There is no declaration. -/
def isEmpty (t : ImportTable) : Bool := t.size == 0

/-- The type is declared by itself. -/
def hasSingleType (t : ImportTable) (n : Name) : Bool := n.isIn t.singleTypes

/-- The name is declared by itself, as a type or as a member. -/
def hasSingle (t : ImportTable) (n : Name) : Bool := n.isIn t.singleTypes || n.isIn t.singleStatics

/-- The name is a member and some static declaration brings it into scope. -/
def hasStatic (t : ImportTable) (n : Name) : Bool :=
  n.isMember && (n.isIn t.singleStatics || n.enclosing?.any (·.isIn t.staticsOnDemand))

/-! ## The table as a policy -/

/-- The last identifier is enough: the name is declared by itself or through its type, or a type is nested in a
type whose contents are declared on demand. -/
def allowsLast (t : ImportTable) (n : Name) : Bool :=
  if n.isMember then
    t.hasSingle n || n.enclosing?.any fun outer => t.hasSingle outer || outer.isIn t.staticsOnDemand
  else
    t.hasSingle n ||
      (n.simpleNames.length > 1 && n.enclosing?.any fun outer => outer.isIn t.typesOnDemand)

/-- The types of the name's package are declared on demand. -/
def allowsShort (t : ImportTable) (n : Name) : Bool :=
  n.level > 0 && t.typesOnDemand.any fun scope => scope.canonical == n.package

/-- How the declarations allow a name to be written. -/
def styleFor (t : ImportTable) : Policy := fun n =>
  if t.allowsLast n then .last else if t.allowsShort n then .short else .canonical

/-! ## The table as source -/

/-- All declarations, kind by kind, each in order of insertion. -/
def entries (t : ImportTable) : List Import :=
  t.singleTypes.map (Import.mk .singleType) ++ t.typesOnDemand.map (Import.mk .typesOnDemand) ++
    t.singleStatics.map (Import.mk .singleStatic) ++ t.staticsOnDemand.map (Import.mk .staticsOnDemand)

/-- Static declarations come after the others; within each group the target decides. -/
def comesBefore (i j : Import) : Bool :=
  if i.kind.isStatic = j.kind.isStatic then Text.le i.target.canonical j.target.canonical
  else j.kind.isStatic

/-- All declarations in the order in which they are written.  Sorting is stable: of two declarations with the
same target, the single one stands before the one on demand. -/
def declarations (t : ImportTable) : List Import := t.entries.mergeSort comesBefore

/-- The declarations, one on each line. -/
def fragment (t : ImportTable) : Fragment :=
  .sequence (t.declarations.map fun i => .line i.text)

end ImportTable

end JavaSource
