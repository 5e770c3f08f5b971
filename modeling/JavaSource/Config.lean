import JavaSource.Template.Markers
import JavaSource.Import.Resolver
import JavaSource.Toml.Reader

/-!
# Configuration

The settings of a project: the delimiters of its templates, the indentation of its sources, and what the choice of
imports starts from.  They are read from a settings file with three sections; a setting that is not given has its
default, and one that is not known is an error.

A section is a table of settings, or a list of their values in the order of `Config.fields`.
-/

namespace JavaSource

/-- The settings of a project. -/
structure Config where
  markers : Markers := {}
  indent : Indent := .java
  /-- The package of the generated source. -/
  package : Text := []
  /-- The packages visible without an import. -/
  implicitPackages : List Text := ["java.lang"]
  /-- Whether declared imports that are not needed are dropped. -/
  prune : Bool := true
  /-- Declared imports. -/
  declared : List Text := []
deriving DecidableEq

/-- Why a configuration cannot be had. -/
inductive ConfigError where
  /-- The file cannot be read. -/
  | unreadable (path : Text)
  /-- The text is no settings file, or holds a setting that is not known or has the wrong type. -/
  | malformed (filename : Text)
  /-- A declared import is none; its place in the text, if it is found there. -/
  | invalidImport (declaration filename : Text) (label : Option Label)
  /-- A delimiter is empty. -/
  | emptyMarkers (filename : Text)
deriving DecidableEq

namespace ConfigError

/-- The error as it is reported. -/
def diagnostic : ConfigError → Diagnostic
  | .unreadable path =>
    { code := "listing::config::io", message := "failed to read '" ++ path ++ "'" }
  | .malformed filename =>
    { code := "listing::config::parse", message := "failed to parse " ++ filename }
  | .invalidImport declaration filename label =>
    { code := "listing::config::import"
      message := "invalid import declaration '" ++ declaration ++ "' in " ++ filename
      help := some "use 'a.b.C', 'a.b.*', 'static a.b.C.m' or 'static a.b.C.*'"
      labels := label.toList }
  | .emptyMarkers filename =>
    { code := "listing::config::markers"
      message := "marker delimiters in " ++ filename ++ " must not be empty" }

end ConfigError

namespace Config

/-- The file that the settings are read from if no other one is named. -/
def fileName : Text := "listing.toml"

/-! ## Settings -/

/-- A level of indentation: a number of spaces up to 255, or the word `tab` in any case. -/
def readIndent : Toml → Option Indent
  | .integer base spelling =>
    ((Toml.integerValue? base spelling).filter fun n => 0 ≤ n && n ≤ 255).map fun n => .spaces n.toNat
  | .string t => if t.map Char.toLower = "tab" then some .tab else none
  | _ => none

/-- A list of texts. -/
def readTexts : Toml → Option (List Text)
  | .array items =>
    items.mapM fun
      | .string t => some t
      | _ => none
  | _ => none

/-- A setting that can be changed: its section, its key, and how a value changes the configuration. -/
structure Field where
  sect : Text
  key : Text
  set : Toml → Config → Option Config

/-- All settings. -/
def fields : List Field := [
  ⟨"markers", "begin", fun v c =>
    match v with
    | .string t => some { c with markers := { c.markers with opening := t } }
    | _ => none⟩,
  ⟨"markers", "end", fun v c =>
    match v with
    | .string t => some { c with markers := { c.markers with ending := t } }
    | _ => none⟩,
  ⟨"format", "indent", fun v c => (readIndent v).map fun indent => { c with indent }⟩,
  ⟨"imports", "package", fun v c =>
    match v with
    | .string t => some { c with package := t }
    | _ => none⟩,
  ⟨"imports", "implicit", fun v c =>
    (readTexts v).map fun implicitPackages => { c with implicitPackages }⟩,
  ⟨"imports", "prune", fun v c =>
    match v with
    | .boolean prune => some { c with prune }
    | _ => none⟩,
  ⟨"imports", "declared", fun v c => (readTexts v).map fun declared => { c with declared }⟩]

/-- The settings of a section. -/
def fieldsOf (sect : Text) : List Field := fields.filter (·.sect == sect)

/-- Applies a table of settings. -/
def applyTable (known : List Field) (entries : List (Text × Toml)) (c : Config) : Option Config :=
  entries.foldlM (fun c (key, v) => (known.find? (·.key == key)).bind fun f => f.set v c) c

/-- Applies values in the order of the settings. -/
def applyList (known : List Field) (items : List Toml) (c : Config) : Option Config :=
  (known.zip items).foldlM (fun c (f, v) => f.set v c) c

/-- Applies a section. -/
def applySection (sect : Text) (v : Toml) (c : Config) : Option Config :=
  let known := fieldsOf sect
  if known.isEmpty then none
  else
    match v with
    | .table entries => applyTable known entries c
    | .array items => applyList known items c
    | _ => none

/-- The configuration of a settings file, before it is checked. -/
def read? (source : Text) : Option Config :=
  (Toml.parse? source).bind fun sections =>
    sections.foldlM (fun c (name, v) => applySection name v c) {}

/-! ## Checks -/

/-- The place of a declaration in quotation marks. -/
def declarationLabel? (source declaration : Text) : Option Label :=
  (Text.cut? ("\"" ++ declaration ++ "\"") source).map fun (before, _) =>
    ⟨Text.byteLength before, Text.byteLength declaration + 2, "declared here"⟩

/-- The first declaration that is no import. -/
def firstInvalid? (c : Config) : Option Text :=
  c.declared.find? fun d =>
    match Import.parse d with
    | .ok _ => false
    | .error _ => true

/-- Reads a configuration; `filename` is what messages call it. -/
def parse (source filename : Text) : Except ConfigError Config :=
  match read? source with
  | none => .error (.malformed filename)
  | some c =>
    if c.markers.isBlank then .error (.emptyMarkers filename)
    else
      match c.firstInvalid? with
      | some d => .error (.invalidImport d filename (declarationLabel? source d))
      | none => .ok c

/-! ## Use -/

/-- The declared imports; what is no import is passed over. -/
def importTable (c : Config) : ImportTable :=
  c.declared.foldl
    (fun t d =>
      match t.declare d with
      | .ok t => t
      | .error _ => t)
    {}

/-- The resolver of the configuration. -/
def resolver (c : Config) : Resolver where
  package := c.package
  implicitPackages := c.implicitPackages
  declared := c.importTable
  prune := c.prune
  indent := c.indent

/-- An empty listing of the configuration. -/
def listing (c : Config) : Listing := .withIndent c.indent

end Config

end JavaSource
