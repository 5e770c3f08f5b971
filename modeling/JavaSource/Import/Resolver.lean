import JavaSource.Import.Table

/-!
# Choosing imports

A **resolver** knows the package of a source file, the packages that are visible without an import, and the
imports that its author declared.  Given the names of a document in the order in which they occur, it decides
how each is written and which imports the source needs.

The decision is a single pass over the names (`Resolver.assign`).  Whoever needs a simple name first, **claims**
it; the declared single imports have claimed theirs before the pass begins.  A name that cannot claim its simple
name is written in full.  Each decision is recorded, so a name is decided once.

A document is resolved in two passes (`Resolver.resolveWith`): the first writes all names in full and collects
them, the second writes them as decided.
-/

namespace JavaSource

/-- What is known about a source file before its names are. -/
structure Resolver where
  /-- The package of the source file, empty for the unnamed package. -/
  package : Text := []
  /-- The packages visible without an import. -/
  implicitPackages : List Text := ["java.lang"]
  /-- The imports that the author declared. -/
  declared : ImportTable := {}
  /-- Whether declared single-type imports that are not needed are dropped. -/
  prune : Bool := true
  /-- The indentation of the document. -/
  indent : Indent := .java

/-- Types of the package are visible without an import. -/
def Resolver.isVisible (r : Resolver) (package : Text) : Bool :=
  package.isEmpty || package == r.package || r.implicitPackages.contains package

/-- The style that was decided for a name, if there is one among the decisions. -/
def Style.decided? (styles : List (Name × Style)) (n : Name) : Option Style :=
  (styles.find? fun entry => entry.1.same n).map (·.2)

/-- The state of the pass over the names. -/
structure Assignment where
  /-- The owner of each claimed simple name. -/
  claims : List (Text × Name) := []
  /-- The decisions, in order. -/
  styles : List (Name × Style) := []
  /-- The declared imports and those added so far. -/
  imports : ImportTable := {}
  /-- The types whose single-type import is needed. -/
  used : List Name := []

namespace Assignment

/-- The recorded decision for a name. -/
def styleOf? (s : Assignment) (n : Name) : Option Style := Style.decided? s.styles n

/-- Claims a simple name for its owner, and tells whether the owner holds it now. -/
def claim (simple : Text) (owner : Name) (s : Assignment) : Bool × Assignment :=
  match s.claims.lookup simple with
  | some holder => (holder.same owner, s)
  | none => (true, { s with claims := s.claims ++ [(simple, owner)] })

/-- Records a decision. -/
def record (n : Name) (style : Style) (s : Assignment) : Assignment :=
  { s with styles := s.styles ++ [(n, style)] }

/-- Notes that the type's import is needed. -/
def use (n : Name) (s : Assignment) : Assignment := { s with used := n :: s.used }

/-- Imports a type, unless it is visible or imported already. -/
def require (r : Resolver) (top : Name) (s : Assignment) : Assignment :=
  if r.isVisible top.package || s.imports.hasSingleType top then s
  else { s with imports := s.imports.add ⟨.singleType, top⟩ }

/-- A type that no declaration covers is written without its package, provided that its top-level type holds its
simple name and is imported. -/
def decideUnimported (r : Resolver) (n : Name) (s : Assignment) : Style × Assignment :=
  match n.topLevel? with
  | none => (.canonical, s)
  | some top =>
    match s.claim top.last top with
    | (false, s) => (.canonical, s)
    | (true, s) => (.short, (s.require r top).use top)

/-- Decides the style of a type: as short as the declarations allow, if the simple name is to be had. -/
def decideType (r : Resolver) (n : Name) (s : Assignment) : Style × Assignment :=
  match r.declared.styleFor n with
  | .last =>
    match s.claim n.last n with
    | (false, s) => (.canonical, s)
    | (true, s) => (.last, s.use n)
  | .short =>
    match n.topLevel? with
    | none => (.canonical, s)
    | some top =>
      match s.claim top.last top with
      | (false, s) => (.canonical, s)
      | (true, s) => (.short, s)
  | .canonical => s.decideUnimported r n

/-- Decides a name that is not a member, and records the decision. -/
def decidePlain (r : Resolver) (n : Name) (s : Assignment) : Style × Assignment :=
  match s.styleOf? n with
  | some style => (style, s)
  | none =>
    let (style, s) := if n.isPackage then (.canonical, s) else s.decideType r n
    (style, s.record n style)

/-- A member follows its type: it is written with the type's simple names if the type is. -/
def decideByType (r : Resolver) (n : Name) (s : Assignment) : Style × Assignment :=
  match n.enclosing? with
  | none => (.canonical, s)
  | some outer =>
    match s.decidePlain r outer with
    | (.short, s) => (.short, s)
    | (.last, s) => (if outer.isTopLevel then .short else .canonical, s)
    | (.canonical, s) => (.canonical, s)

/-- Decides the style of a member: its last identifier alone under a static import, if that is to be had, and
otherwise as its type is written. -/
def decideMember (r : Resolver) (n : Name) (s : Assignment) : Style × Assignment :=
  if r.declared.hasStatic n then
    match s.claim n.last n with
    | (true, s) => (.last, s)
    | (false, s) => s.decideByType r n
  else s.decideByType r n

/-- Decides a name, and records the decision. -/
def decide (r : Resolver) (n : Name) (s : Assignment) : Style × Assignment :=
  if n.isPackage || !n.isMember then s.decidePlain r n
  else
    match s.styleOf? n with
    | some style => (style, s)
    | none =>
      let (style, s) := s.decideMember r n
      (style, s.record n style)

/-- Before the pass, every declared single import claims its simple name: the types in order of declaration,
then the members in the order in which they are written. -/
def initial (r : Resolver) : Assignment :=
  let members := r.declared.declarations.filter (·.kind == .singleStatic)
  let owners := r.declared.singleTypes ++ members.map (·.target)
  owners.foldl (fun s n => (s.claim n.last n).2) { imports := r.declared }

/-- The imports that the source needs after the pass. -/
def neededImports (r : Resolver) (s : Assignment) : ImportTable :=
  if r.prune then s.imports.retain (·.isIn s.used) else s.imports

end Assignment

/-- The decisions of a resolver: the imports of the source and the style of each name. -/
structure Decisions where
  imports : ImportTable
  styles : List (Name × Style)

namespace Decisions

/-- The decided style of a name of the document. -/
def get? (d : Decisions) (n : Name) : Option Style := Style.decided? d.styles n

/-- Names are written as decided; for other names the imports answer. -/
def policy (d : Decisions) : Policy := fun n => (d.get? n).getD (d.imports.styleFor n)

end Decisions

/-- A resolved document. -/
structure Resolution where
  text : Text
  decisions : Decisions

namespace Resolver

/-- The pass over the names. -/
def run (r : Resolver) (names : List Name) : Assignment :=
  names.foldl (fun s n => (s.decide r n).2) (Assignment.initial r)

/-- Decides how names are written and which imports they need.  The names come in the order in which they
occur in the document. -/
def assign (r : Resolver) (names : List Name) : Decisions :=
  let s := r.run names
  { imports := s.neededImports r, styles := s.styles }

/-- Resolves a document given by what it writes into a listing.  What it writes must depend on the listing's
policy through the spelling of names only; an error in either pass is the answer. -/
def resolveWith {ε : Type} (r : Resolver) (write : Listing → Except ε Listing) :
    Except ε Resolution :=
  match write (Listing.withIndent r.indent) with
  | .error e => .error e
  | .ok collected =>
    let decisions := r.assign collected.names
    match write ((Listing.withIndent r.indent).withPolicy decisions.policy) with
    | .error e => .error e
    | .ok output => .ok { text := output.text, decisions }

/-- Resolves a fragment, which can always be written. -/
def resolve (r : Resolver) (document : Fragment) : Resolution :=
  let resolved : Except Empty Resolution := r.resolveWith fun l => .ok (document.emit l)
  match resolved with
  | .ok resolution => resolution
  | .error never => nomatch never

end Resolver

end JavaSource
