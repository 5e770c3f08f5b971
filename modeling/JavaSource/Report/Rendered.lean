import JavaSource.Config
import JavaSource.Report.Basic
import JavaSource.Template.Basic

/-!
# Rendered templates

The outcome of rendering a template under a configuration: the text, and, where they are asked for, the package and the
imports that go in front of it.
-/

namespace JavaSource

/-- A rendered template. -/
structure Rendered where
  package : Option Text := none
  imports : List Text := []
  text : Text

namespace Rendered

/-- The package declaration, with a blank line after it. -/
def packageLines (r : Rendered) : Text :=
  match r.package with
  | some p => "package " ++ p ++ ";\n\n"
  | none => []

/-- The imports, with a blank line after them. -/
def importLines (r : Rendered) : Text :=
  r.imports.flatMap (fun line => line ++ ['\n']) ++ if r.imports.isEmpty then [] else ['\n']

/-- The complete source. -/
def source (r : Rendered) : Text := r.packageLines ++ r.importLines ++ r.text

/-- The source as a report. -/
def report (r : Rendered) : Report := [.text r.source]

/-- The package, unless it is the unnamed one. -/
def namedPackage (package : Text) : Option Text := if package.isEmpty then none else some package

end Rendered

/-- Renders a template under a configuration.  Names are shortened if that is asked for by itself (`shorten`) or along
with the imports (`withImports`), which are then part of the outcome. -/
def Config.render (c : Config) (t : Template) (b : Bindings) (shorten withImports : Bool) :
    Except EvalError Rendered :=
  if shorten || withImports then
    (t.resolve c.resolver b).map fun resolution =>
      if withImports then
        { package := Rendered.namedPackage c.package
          imports := resolution.decisions.imports.declarations.map Import.text
          text := resolution.text }
      else { text := resolution.text }
  else (t.evaluate b c.listing).toExcept.map fun l => { text := l.text }

end JavaSource
