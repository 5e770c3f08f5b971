import JavaSource.Json.Reader

/-!
# Settings files

Settings are written in TOML: tables of keys and values, under headers or inline, with dotted keys for keys of inner
tables.  Values are strings, numbers, truth values, dates and times, arrays and inline tables.  No setting is a fraction
or a date, so that of these the spelling is kept and nothing else.  An integer is kept as it is written, too, with its
base.  No setting is a list of tables either, so a header that adds to such a list is refused.

A table may be opened by a header once; a key may be given once; and an inline table is complete where it stands.
-/

namespace JavaSource

/-- A value of a settings file. -/
inductive Toml where
  | string (t : Text)
  /-- The base, and the digits, perhaps behind a sign. -/
  | integer (base : Nat) (spelling : Text)
  | float (spelling : Text)
  | boolean (b : Bool)
  | moment (spelling : Text)
  | array (items : List Toml)
  | table (entries : List (Text × Toml))

/-- How a table came to be. -/
inductive TableOrigin where
  /-- Named on the way to another table. -/
  | passing
  /-- Opened by a header. -/
  | header
  /-- Named by a dotted key. -/
  | dotted
deriving DecidableEq

/-- A settings file while it is read: a tree of values and of tables that can still grow. -/
inductive TomlTree where
  | leaf (v : Toml)
  | branch (origin : TableOrigin) (entries : List (Text × TomlTree))

namespace TomlTree

/-- Replaces or adds an entry. -/
def put (key : Text) (t : TomlTree) : List (Text × TomlTree) → List (Text × TomlTree)
  | [] => [(key, t)]
  | (k, u) :: rest => if k = key then (k, t) :: rest else (k, u) :: put key t rest

/-- Changes the entry at the end of a path; the tables on the way are created as needed.  `enter` says whether a table
on the way may be entered, given its origin, and `origin` is the origin of new ones. -/
def updateAt (enter : TableOrigin → Bool) (origin : TableOrigin)
    (change : Option TomlTree → Option TomlTree) :
    List Text → List (Text × TomlTree) → Option (List (Text × TomlTree))
  | [], _ => none
  | [key], entries => (change (entries.lookup key)).map fun t => put key t entries
  | key :: path, entries =>
    match entries.lookup key with
    | none =>
      (updateAt enter origin change path []).map fun inner => put key (.branch origin inner) entries
    | some (.branch o inner) =>
      if enter o then
        (updateAt enter origin change path inner).map fun inner => put key (.branch o inner) entries
      else none
    | some (.leaf _) => none

/-- Opens a table by a header, which may be done once. -/
def openTable (path : List Text) (entries : List (Text × TomlTree)) : Option (List (Text × TomlTree)) :=
  updateAt (fun _ => true) .passing
    (fun
      | none => some (.branch .header [])
      | some (.branch .passing inner) => some (.branch .header inner)
      | some _ => none)
    path entries

/-- Gives a value to a key, dotted or not, in a table.  A table that a header has opened cannot be entered by a dotted
key. -/
def assignIn (path : List Text) (v : Toml) (entries : List (Text × TomlTree)) :
    Option (List (Text × TomlTree)) :=
  updateAt (· != .header) .dotted
    (fun
      | none => some (.leaf v)
      | some _ => none)
    path entries

/-- Gives a value to a key in the table that was opened last. -/
def assign (header path : List Text) (v : Toml) (entries : List (Text × TomlTree)) :
    Option (List (Text × TomlTree)) :=
  if header.isEmpty then assignIn path v entries
  else
    updateAt (fun _ => true) .passing
      (fun
        | some (.branch o inner) => (assignIn path v inner).map (.branch o)
        | _ => none)
      header entries

mutual

/-- The finished value of a tree. -/
def toToml : TomlTree → Toml
  | .leaf v => v
  | .branch _ entries => .table (toEntries entries)

/-- The finished entries of a table. -/
def toEntries : List (Text × TomlTree) → List (Text × Toml)
  | [] => []
  | (key, t) :: rest => (key, toToml t) :: toEntries rest

end

end TomlTree

end JavaSource
